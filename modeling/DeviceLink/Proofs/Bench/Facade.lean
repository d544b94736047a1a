import DeviceLink.Proofs.Bench.Exchanges
import DeviceLink.Proofs.Bench.Panics
/-!
# The user of a client sees what its connection tells

A client between its user and the native connection, from the step that made it on. The callbacks
are the images of the native events, one after the other. An operation that was accepted is told at
the first acknowledgement of its id and never again, and one that was refused is never told.
-/

namespace DeviceLink.Simulated

variable {ρ α : Type}

/-! ## Operations by id -/

/-- An entry under a new id is one entry more. -/
theorem putById_perm {id : ℕ} {entry : α} {l : List (ℕ × α)} (h : id ∉ l.map (·.1)) :
    (putById id entry l).Perm ((id, entry) :: l) := by
  induction l with
  | nil => exact .refl _
  | cons x l ih =>
    obtain ⟨k, e⟩ := x
    rw [List.map_cons, List.mem_cons, not_or] at h
    rw [putById]
    split
    · exact .refl _
    · rw [if_neg (Ne.symm h.1)]
      exact ((ih h.2).cons _).trans (.swap ..)

/-- Entries in falling order of their ids stay so. -/
theorem putById_ordered {id : ℕ} {entry : α} {l : List (ℕ × α)} (h : id ∉ l.map (·.1))
    (hl : l.Pairwise fun p q => q.1 < p.1) :
    (putById id entry l).Pairwise fun p q => q.1 < p.1 := by
  induction l with
  | nil => exact List.pairwise_singleton ..
  | cons x l ih =>
    obtain ⟨k, e⟩ := x
    rw [List.map_cons, List.mem_cons, not_or] at h
    obtain ⟨hfirst, hrest⟩ := List.pairwise_cons.1 hl
    rw [putById]
    split
    · next hlt =>
      refine List.pairwise_cons.2 ⟨fun q hq => ?_, hl⟩
      obtain rfl | hq := List.mem_cons.1 hq
      · exact hlt
      · exact (hfirst q hq).trans hlt
    · next hlt =>
      rw [if_neg (Ne.symm h.1)]
      refine List.pairwise_cons.2 ⟨fun q hq => ?_, ih h.2 hrest⟩
      obtain rfl | hq := List.mem_cons.1 ((putById_perm h.2).subset hq)
      · exact Nat.lt_of_le_of_ne (Nat.le_of_not_lt hlt) h.1
      · exact hfirst q hq

/-- Entries in falling order of their ids, from the last one on, are those sorted by id. -/
theorem reverse_eq_insertionSort {l m : List (ℕ × α)} (hl : l.Pairwise fun p q => q.1 < p.1)
    (hperm : l.Perm m) : l.reverse = m.insertionSort fun p q => p.1 ≤ q.1 := by
  have hsorted := List.perm_insertionSort (fun p q : ℕ × α => p.1 ≤ q.1) m
  have : Std.Total fun p q : ℕ × α => p.1 ≤ q.1 := ⟨fun p q => Nat.le_total p.1 q.1⟩
  have : IsTrans (ℕ × α) fun p q => p.1 ≤ q.1 := ⟨fun _ _ _ => Nat.le_trans⟩
  have hn : (l.map (·.1)).Nodup := List.pairwise_map.2 (hl.imp fun h => h.ne')
  -- With one entry for each id, entries of one id are one.
  refine List.Perm.eq_of_pairwise (fun p q hp hq hpq hqp => ?_)
    (List.pairwise_reverse.2 (hl.imp Nat.le_of_lt))
    (List.pairwise_insertionSort (fun p q : ℕ × α => p.1 ≤ q.1) m)
    ((List.reverse_perm l).trans (hperm.trans hsorted.symm))
  exact List.inj_on_of_nodup_map hn (List.mem_reverse.1 hp)
    (hperm.symm.subset (hsorted.subset hq)) (Nat.le_antisymm hpq hqp)

end DeviceLink.Simulated

namespace DeviceLink.Bench

open Mqtt Simulated

/-! ## Operations -/

namespace ClientCall

/-- What the operation waits to be told. -/
def kind : ClientCall → Completion
  | subscribe topic _ => .subscribe topic
  | subscribeMany topics _ => .subscribeMany topics
  | unsubscribe _ => .unsubscribe
  | publish .. => .publish

/-- The quality of service it is sent with. -/
def qos : ClientCall → Qos
  | subscribe _ qos | subscribeMany _ qos | publish _ qos _ _ => qos
  | unsubscribe _ => .atLeastOnce

/-- The operation as it waits for its acknowledgement. -/
def awaiting (r : Receiver) (c : ClientCall) : Awaiting Receiver := ⟨c.kind, c.qos, r⟩

/-- The signal that acknowledges it. -/
def signal (id : ℕ) (code : ℤ) (c : ClientCall) : Signal :=
  c.kind.signal id (if code = 0 then c.qos else .failure) code

/-- The operation as the client performs it. -/
def perform (e : Endpoint Receiver) (r : Receiver) :
    ClientCall → Reply (Endpoint Receiver) (Option ℕ)
  | subscribe topic qos => Client.subscribe e r topic qos
  | subscribeMany topics qos => Client.subscribeMany e r topics qos
  | unsubscribe topic => Client.unsubscribe e r topic
  | publish topic qos retain payload =>
    Client.publish e r topic qos retain (Buffer.borrowed payload)

theorem callbacks_signal (c : ClientCall) (id : ℕ) (code : ℤ) :
    (c.signal id code).callbacks = c.completion id code := by
  cases c <;> rfl

variable (c : ClientCall) (k : Simulated.Connection Receiver) (faults : Faults) (r : Receiver)

/-- An operation that is refused leaves the connection as it was, but for the reason. -/
theorem perform_refused (h : (k.rejects faults || c.isEmpty) = true) :
    ∃ k' notes, c.perform ⟨k, faults⟩ r = ⟨⟨k', faults⟩, none, notes⟩ ∧
      ∃ lastError, k' = { k with lastError } := by
  cases c with
  | subscribeMany topics qos =>
    by_cases hempty : topics = []
    · simpa [perform, Client.subscribeMany, Client.report, Backend.subscribeMany, Endpoint.lift,
        Simulated.Connection.subscribeMany, hempty] using ⟨_, rfl⟩
    · have hrejects : k.rejects faults = true := by simpa [isEmpty, hempty] using h
      simp [perform, Client.subscribeMany, Client.report, Backend.subscribeMany, Endpoint.lift,
        Simulated.Connection.subscribeMany, hempty, hrejects, Simulated.Connection.failed]
  | subscribe topic qos | unsubscribe topic | publish topic qos retain payload =>
    have hrejects : k.rejects faults = true := by simpa [isEmpty] using h
    simp [perform, Client.subscribe, Client.unsubscribe, Client.publish, Client.report,
      Backend.subscribe, Backend.unsubscribe, Backend.publish, Endpoint.lift,
      Simulated.Connection.subscribe, Simulated.Connection.unsubscribe,
      Simulated.Connection.publish, hrejects, Simulated.Connection.failed]

/-- An operation that is accepted waits under the next id. -/
theorem perform_accepted (h : (k.rejects faults || c.isEmpty) = false) :
    ∃ k', c.perform ⟨k, faults⟩ r = ⟨⟨k', faults⟩, some (nextId k.lastId), []⟩ ∧
      k'.lifecycle = k.lifecycle ∧ k'.shutDown = k.shutDown ∧
      k'.pending = putById (nextId k.lastId) (c.awaiting r) k.pending ∧
      k'.subscriptions = (k.subscriptions.filter fun entry => !c.ends entry.1) ++
        c.topics.map (·, r) := by
  obtain ⟨hrejects, hempty⟩ := Bool.or_eq_false_iff.1 h
  cases c with
  | subscribeMany topics qos =>
    have hne : topics ≠ [] := by simpa [isEmpty] using hempty
    simp [perform, Client.subscribeMany, Client.report, Backend.subscribeMany, Endpoint.lift,
      Simulated.Connection.subscribeMany, Simulated.Connection.await, hne, hrejects, awaiting, kind,
      ClientCall.qos, ends, ClientCall.topics, Function.comp_def]
  | subscribe topic qos | unsubscribe topic | publish topic qos retain payload =>
    simp [perform, Client.subscribe, Client.unsubscribe, Client.publish, Client.report,
      Backend.subscribe, Backend.unsubscribe, Backend.publish, Endpoint.lift,
      Simulated.Connection.subscribe, Simulated.Connection.unsubscribe,
      Simulated.Connection.publish, Simulated.Connection.await, hrejects, awaiting, kind,
      ClientCall.qos, ends, ClientCall.topics]

end ClientCall

namespace LifecycleEvent

/-- The signal of the connection. -/
def signal : LifecycleEvent → Signal
  | completed code returnCode sessionPresent => .completed code returnCode sessionPresent
  | closed => .closed
  | interrupted code => .interrupted code
  | resumed returnCode sessionPresent => .resumed returnCode sessionPresent

theorem callbacks_signal (e : LifecycleEvent) : e.signal.callbacks = [e.callback] := by
  cases e <;> rfl

end LifecycleEvent

/-! ## Signals to a client -/

/-- What comes to the users' side with a signal to a client. -/
def happenings (name : String) (signal : Signal) : List Happening :=
  signal.note.toList.map .line ++ signal.callbacks.map fun c => .call name (.mqtt c)

/-- Callbacks to the user of a client. -/
def callsTo (name : String) (callbacks : List Mqtt.Callback) : List (String × Callback) :=
  callbacks.map fun c => (name, .mqtt c)

theorem callsOf_lines (lines : List Log.Line) : callsOf (lines.map .line) = [] := by
  induction lines with
  | nil => rfl
  | cons line lines ih => exact ih

theorem callsOf_happenings (name : String) (signals : List Signal) :
    callsOf (signals.flatMap (happenings name)) =
      callsTo name (signals.flatMap (·.callbacks)) := by
  induction signals with
  | nil => rfl
  | cons signal signals ih =>
    have hcalls : callsOf (signal.callbacks.map fun c => .call name (.mqtt c)) =
        callsTo name signal.callbacks := by
      rw [← callsOf_calls (callsTo name signal.callbacks), callsTo, List.map_map]
      rfl
    rw [List.flatMap_cons, callsOf_append, ih, happenings, callsOf_append, callsOf_lines, hcalls,
      List.flatMap_cons, callsTo, callsTo, callsTo, List.map_append]
    rfl

namespace State

theorem noteAll_under (s : State) (u : Audience) (lines : List Log.Line) :
    (s.under u).noteAll lines = s.under (u.meetAll s.limits (lines.map .line)) := by
  induction lines generalizing u with
  | nil => rfl
  | cons line lines ih =>
    rw [noteAll, List.foldl_cons, note_under]
    exact ih _

theorem tellMqtt_client (s : State) (u : Audience) (name : String) (signal : Signal) :
    (s.under u).tellMqtt ⟨.client name, signal⟩ =
      s.under (u.meetAll s.limits (happenings name signal)) := by
  have hcalls (u : Audience) (callbacks : List Mqtt.Callback) :
      callbacks.foldl (fun s c => s.invoke name (.mqtt c)) (s.under u) =
        s.under (u.meetAll s.limits (callbacks.map fun c => .call name (.mqtt c))) := by
    induction callbacks generalizing u with
    | nil => rfl
    | cons c callbacks ih =>
      rw [List.foldl_cons, invoke_under]
      exact ih _
  rw [happenings, Audience.meetAll_append, ← hcalls, ← noteAll_under]
  rfl

theorem tellAllMqtt_client (s : State) (u : Audience) (name : String) (signals : List Signal) :
    (s.under u).tellAllMqtt (signals.map (⟨.client name, ·⟩)) =
      s.under (u.meetAll s.limits (signals.flatMap (happenings name))) := by
  induction signals generalizing u with
  | nil => rfl
  | cons signal signals ih =>
    rw [List.flatMap_cons, Audience.meetAll_append, ← ih, ← tellMqtt_client]
    rfl

end State

/-! ## A connection and the history of its client -/

/-- A connection that stands where the history of its client has brought it. -/
structure Mirrors (k : Simulated.Connection Receiver) (name : String) (h : History) : Prop where
  lifecycle : k.lifecycle = .all (.client name)
  subscriptions : k.subscriptions = (filtersIn h).map (·, .client name)
  pending : k.pending.Perm ((pendingIn h).map fun p => (p.1, p.2.awaiting (.client name)))
  ordered : k.pending.Pairwise fun p q => q.1 < p.1
  shutDown : k.shutDown = closedIn h

namespace Mirrors

variable {k : Simulated.Connection Receiver} {name : String} {h : History}

theorem nodup (hk : Mirrors k name h) : (k.pending.map (·.1)).Nodup :=
  List.pairwise_map.2 (hk.ordered.imp fun h => h.ne')

theorem ids (hk : Mirrors k name h) : (k.pending.map (·.1)).Perm ((pendingIn h).map (·.1)) := by
  have hperm := hk.pending.map (·.1)
  rwa [List.map_map] at hperm

/-- An exchange that starts no operation, acknowledges none and does not close the connection. -/
theorem idle (hk : Mirrors k name h) {x : Exchange × Answer} (haccepted : accepted? x = none)
    (hacknowledges : ∀ id, x.1.acknowledges id = false) (hcloses : x.1.closes = false) :
    Mirrors k name (h ++ [x]) := by
  have hpending : pendingIn (h ++ [x]) = pendingIn h := by
    simp [pendingIn_snoc, haccepted, hacknowledges]
  refine ⟨hk.lifecycle, ?_, ?_, hk.ordered, ?_⟩
  · rw [filtersIn_snoc_none h x haccepted, hk.subscriptions]
  · rw [hpending]
    exact hk.pending
  · rw [closedIn_snoc, hcloses, Bool.or_false, hk.shutDown]

/-- The operation that waits under an id. -/
theorem lookup (hk : Mirrors k name h) (id : ℕ) :
    k.pending.lookup id = ((pendingIn h).lookup id).map (·.awaiting (.client name)) := by
  cases hlookup : (pendingIn h).lookup id with
  | none =>
    refine lookup_of_notMem fun hmem => ?_
    obtain ⟨c, hc⟩ := Link.Tracker.exists_lookup (hk.ids.mem_iff.1 hmem)
    rw [hlookup] at hc
    cases hc
  | some c =>
    refine lookup_of_mem hk.nodup (hk.pending.symm.subset ?_)
    exact List.mem_map_of_mem (Link.Tracker.mem_of_lookup hlookup)

/-- The operations that wait, the lowest id first. -/
theorem reverse_pending (hk : Mirrors k name h) : k.pending.reverse =
    ((pendingIn h).insertionSort fun p q => p.1 ≤ q.1).map
      fun p => (p.1, p.2.awaiting (.client name)) := by
  rw [reverse_eq_insertionSort hk.ordered hk.pending]
  exact (List.map_insertionSort (fun p q : ℕ × ClientCall => p.1 ≤ q.1)
    (fun p q : ℕ × Awaiting Receiver => p.1 ≤ q.1) _ _ fun _ _ _ _ => Iff.rfl).symm

/-- An operation that was accepted under a new id. -/
theorem accept (hk : Mirrors k name h) {c : ClientCall} {id : ℕ}
    (hid : id ∉ (pendingIn h).map (·.1)) {k' : Simulated.Connection Receiver}
    (hlifecycle : k'.lifecycle = k.lifecycle) (hshutDown : k'.shutDown = k.shutDown)
    (hpending : k'.pending = putById id (c.awaiting (.client name)) k.pending)
    (hsubscriptions : k'.subscriptions = (k.subscriptions.filter fun entry => !c.ends entry.1) ++
      c.topics.map (·, .client name)) :
    Mirrors k' name (h ++ [(.call c, .number id)]) := by
  have hnew : id ∉ k.pending.map (·.1) := fun hmem => hid (hk.ids.mem_iff.1 hmem)
  refine ⟨hlifecycle.trans hk.lifecycle, ?_, ?_, ?_, ?_⟩
  · rw [hsubscriptions, hk.subscriptions, filtersIn_snoc, List.map_append, List.filter_map]
    simp [accepted?, ended, Function.comp_def]
  · rw [hpending, pendingIn_snoc]
    refine (putById_perm hnew).trans ((hk.pending.cons _).trans ?_)
    simpa [accepted?, Exchange.acknowledges] using (List.perm_append_singleton ..).symm
  · rw [hpending]
    exact putById_ordered hnew hk.ordered
  · rw [closedIn_snoc, hshutDown, hk.shutDown]
    simp [Exchange.closes]

/-- An operation that was acknowledged. -/
theorem acked (hk : Mirrors k name h) (id : ℕ) (code : ℤ) (answer : Answer) :
    Mirrors { k with pending := k.pending.filter fun entry => entry.1 ≠ id } name
      (h ++ [(.ack id code, answer)]) := by
  refine ⟨hk.lifecycle, ?_, ?_, hk.ordered.filter _, ?_⟩
  · rw [filtersIn_snoc_none h _ rfl, hk.subscriptions]
  · rw [pendingIn_snoc]
    refine (hk.pending.filter _).trans ?_
    rw [List.filter_map]
    simp [accepted?, Exchange.acknowledges, Function.comp_def, eq_comm]
  · rw [closedIn_snoc, hk.shutDown]
    simp [Exchange.closes]

/-- All operations were acknowledged. -/
theorem ackedAll (hk : Mirrors k name h) (code : ℤ) (answer : Answer) :
    Mirrors { k with pending := [] } name (h ++ [(.ackAll code, answer)]) := by
  refine ⟨hk.lifecycle, ?_, ?_, .nil, ?_⟩
  · rw [filtersIn_snoc_none h _ rfl, hk.subscriptions]
  · rw [pendingIn_snoc]
    simp [accepted?, Exchange.acknowledges]
  · rw [closedIn_snoc, hk.shutDown]
    simp [Exchange.closes]

/-- The connection was closed. -/
theorem closed (hk : Mirrors k name h) (answer : Answer) :
    Mirrors { k with shutDown := true } name (h ++ [(.disconnect, answer)]) := by
  refine ⟨hk.lifecycle, ?_, ?_, hk.ordered, ?_⟩
  · rw [filtersIn_snoc_none h _ rfl, hk.subscriptions]
  · rw [pendingIn_snoc]
    simpa [accepted?, Exchange.acknowledges] using hk.pending
  · simp [closedIn_snoc, Exchange.closes]

end Mirrors

namespace State

/-! ## One exchange -/

/-- What is known of a client between two exchanges. -/
structure Serves (s : State) (name : String) (refused : Bool) (h : History) : Prop where
  session : s.sessions.lookup name = none
  faults : s.library.faults.isSet .operationsRejected = refusedIn refused h
  connection : ∃ i k, s.handles.lookup name = some ⟨.client i, false⟩ ∧
    s.library.connections.get? i = some k ∧ Mirrors k name h

/-- What comes of an exchange: the answer that is due and the callbacks that are due. Where no id is
handed out that is still pending, the client is known after it. -/
def Brings (s : State) (name : String) (refused : Bool) (h : History) (e : Exchange) : Prop :=
  ∃ (s' : State) (hs : List Happening) (answer : Answer),
    s.step (e.step name) = (s'.under (s.audience.meetAll s.limits hs), answer) ∧
    callsOf hs = callsTo name (e.image h) ∧ e.Answered refused h answer ∧
    (FreshAfter h (e, answer) → s'.Serves name refused (h ++ [(e, answer)]))

variable {s : State} {name : String} {refused : Bool} {h : History} {i : ℕ}
  {k : Simulated.Connection Receiver}

theorem clientOf_of_lookup (hlookup : s.handles.lookup name = some ⟨.client i, false⟩) :
    s.clientOf name = .ok i := by
  simp [clientOf, lookUpLive, lookUp, hlookup, Holding.connection?, Holding.isRaw, bind,
    Except.bind, pure, Except.pure]

theorem connectionOf_of_lookup (hlookup : s.handles.lookup name = some ⟨.client i, false⟩)
    (hget : s.library.connections.get? i = some k) : s.connectionOf name = .ok (i, k) := by
  simp [connectionOf, object, lookUp, hlookup, Holding.connection?, hget, bind, Except.bind, pure,
    Except.pure]

theorem onConnection_of_get? {α : Type} (hget : s.library.connections.get? i = some k) (absent : α)
    (operation : Endpoint Receiver → Reply (Endpoint Receiver) α) :
    s.onConnection i absent operation =
      ((s.withLibrary (s.library.putConnection i
          (operation ⟨k, s.library.faults⟩).connection.connection)).noteAll
        (operation ⟨k, s.library.faults⟩).notes, (operation ⟨k, s.library.faults⟩).answer) := by
  simp [onConnection, Library.endpoint?, hget]

/-- The client once its connection was replaced. -/
theorem Serves.put (hs : s.Serves name refused h) {h' : History}
    (hlookup : s.handles.lookup name = some ⟨.client i, false⟩)
    (hget : s.library.connections.get? i = some k) {k' : Simulated.Connection Receiver}
    (hk : Mirrors k' name h') (hrefused : refusedIn refused h' = refusedIn refused h) :
    (s.withLibrary (s.library.putConnection i k')).Serves name refused h' :=
  ⟨hs.session, hs.faults.trans hrefused.symm, i, k', hlookup, Shelf.get?_put hget k', hk⟩

/-- An exchange that leaves all of that as it is. -/
theorem Serves.idle (hs : s.Serves name refused h) {x : Exchange × Answer}
    (haccepted : accepted? x = none) (hacknowledges : ∀ id, x.1.acknowledges id = false)
    (hcloses : x.1.closes = false)
    (hrefuses : x.1.refuses (refusedIn refused h) = refusedIn refused h) :
    s.Serves name refused (h ++ [x]) := by
  obtain ⟨i, k, hlookup, hget, hk⟩ := hs.connection
  refine ⟨hs.session, ?_, i, k, hlookup, hget, hk.idle haccepted hacknowledges hcloses⟩
  rw [refusedIn_snoc, hrefuses]
  exact hs.faults

theorem step_call (hs : s.Serves name refused h)
    (hlookup : s.handles.lookup name = some ⟨.client i, false⟩) (c : ClientCall) :
    s.step (c.step name) = answerId (s.onConnection i none (c.perform · (.client name))) := by
  have hreceiver : s.clientReceiver name = .client name := by simp [clientReceiver, hs.session]
  cases c <;>
    simp [step, ClientCall.step, attempt, clientOf_of_lookup hlookup, decoded_code, bind,
      Except.bind, pure, Except.pure, subscribe, subscribeMany, unsubscribe, publishTimes, publish,
      hreceiver, ClientCall.perform]

theorem nextId_bounds (id : ℕ) : 1 ≤ nextId id ∧ nextId id ≤ 65535 := by
  unfold nextId
  omega

theorem Serves.call (hs : s.Serves name refused h) (c : ClientCall) :
    s.Brings name refused h (.call c) := by
  obtain ⟨i, k, hlookup, hget, hk⟩ := hs.connection
  have hstep := step_call hs hlookup c
  rw [onConnection_of_get? hget] at hstep
  have hrefuses : (k.rejects s.library.faults || c.isEmpty) =
      (closedIn h || refusedIn refused h || c.isEmpty) := by
    rw [Simulated.Connection.rejects, hk.shutDown, hs.faults]
  -- A refusal changes the connection in its last error alone, which nothing here depends on.
  cases hcase : k.rejects s.library.faults || c.isEmpty with
  | true =>
    obtain ⟨k', notes, hperform, lastError, rfl⟩ :=
      c.perform_refused k s.library.faults (.client name) hcase
    rw [hperform] at hstep
    have hk' : Mirrors { k with lastError } name h :=
      ⟨hk.lifecycle, hk.subscriptions, hk.pending, hk.ordered, hk.shutDown⟩
    refine ⟨s.withLibrary (s.library.putConnection i { k with lastError }), notes.map .line,
      .nothing, hstep.trans ?_, callsOf_lines notes, ?_, fun _ => hs.put hlookup hget
        (hk'.idle rfl (fun _ => rfl) rfl) (refusedIn_snoc ..)⟩
    · exact congrArg (·, Answer.nothing) (noteAll_under (s.withLibrary _) s.audience notes)
    · rw [Exchange.Answered, ← hrefuses, hcase]
      rfl
  | false =>
    obtain ⟨k', hperform, hlifecycle, hshutDown, hpending, hsubscriptions⟩ :=
      c.perform_accepted k s.library.faults (.client name) hcase
    rw [hperform] at hstep
    refine ⟨s.withLibrary (s.library.putConnection i k'), [], .number (nextId k.lastId), hstep,
      rfl, ?_, fun hfresh => hs.put hlookup hget (hk.accept (hfresh _ rfl) hlifecycle hshutDown
        hpending hsubscriptions) (refusedIn_snoc ..)⟩
    rw [Exchange.Answered, ← hrefuses, hcase, if_neg Bool.false_ne_true]
    exact ⟨_, (nextId_bounds _).1, (nextId_bounds _).2, rfl⟩

theorem Serves.disconnect (hs : s.Serves name refused h) :
    s.Brings name refused h .disconnect := by
  obtain ⟨i, k, hlookup, hget, hk⟩ := hs.connection
  have hstep : s.step (Exchange.disconnect.step name) =
      answerYes (s.onConnection i false Client.disconnect) := by
    simp [step, Exchange.step, attempt, clientOf_of_lookup hlookup, bind, Except.bind, pure,
      Except.pure, State.disconnect]
  rw [onConnection_of_get? hget] at hstep
  let reply := Client.disconnect (⟨k, s.library.faults⟩ : Endpoint Receiver)
  refine ⟨s.withLibrary (s.library.putConnection i { k with shutDown := true }),
    reply.notes.map .line, .yes !closedIn h, hstep.trans ?_, callsOf_lines _, rfl,
    fun _ => hs.put hlookup hget (hk.closed _) (refusedIn_snoc ..)⟩
  rw [← hk.shutDown]
  exact congrArg (·, Answer.yes !k.shutDown)
    (noteAll_under (s.withLibrary _) s.audience reply.notes)

theorem Serves.fault (hs : s.Serves name refused h) (change : FaultChange) :
    s.Brings name refused h (.fault change) := by
  obtain ⟨i, k, hlookup, hget, hk⟩ := hs.connection
  refine ⟨s.withFaults (change.after s.library.faults), [], .nothing, change.step_eq s, rfl, rfl,
    fun _ => ⟨hs.session, ?_, i, k, hlookup, hget, hk.idle rfl (fun _ => rfl) rfl⟩⟩
  rw [refusedIn_snoc, ← hs.faults]
  exact change.isSet_after _

/-- An exchange that comes to signals for the client brings their callbacks. -/
theorem brings_of_tellAllMqtt {e : Exchange} (s' : State) (signals : List Signal)
    (answer : Answer) (hstep : s.step (e.step name) =
      (s'.tellAllMqtt (signals.map (⟨.client name, ·⟩)), answer))
    (haudience : s'.audience = s.audience) (hlimits : s'.limits = s.limits)
    (himage : signals.flatMap (·.callbacks) = e.image h) (hanswered : e.Answered refused h answer)
    (hserves : s'.Serves name refused (h ++ [(e, answer)])) : s.Brings name refused h e := by
  refine ⟨s', signals.flatMap (happenings name), answer, hstep.trans ?_, ?_, hanswered,
    fun _ => hserves⟩
  · rw [← haudience, ← hlimits, ← tellAllMqtt_client]
    rfl
  · rw [callsOf_happenings, himage]

theorem decoded_returnCode (returnCode : ReturnCode) :
    decoded (Coded.code returnCode) = .ok returnCode := by
  cases returnCode <;> rfl

theorem Serves.lifecycle (hs : s.Serves name refused h) (e : LifecycleEvent) :
    s.Brings name refused h (.lifecycle e) := by
  obtain ⟨i, k, hlookup, hget, hk⟩ := hs.connection
  have hfire : k.fire e.signal = [⟨.client name, e.signal⟩] := by
    cases e <;> simp [Simulated.Connection.fire, LifecycleEvent.signal, hk.lifecycle,
      Lifecycle.all, Mqtt.deliver]
  have hstep : s.step (e.step name) = answerYes (s.fireLifecycle k e.signal) := by
    cases e <;> simp [step, LifecycleEvent.step, attempt, connectionOf_of_lookup hlookup hget,
      decoded_returnCode, bind, Except.bind, pure, Except.pure, LifecycleEvent.signal]
  refine brings_of_tellAllMqtt s [e.signal] (.yes true) (hstep.trans ?_) rfl rfl
    (by simp [e.callbacks_signal, Exchange.image]) rfl (hs.idle rfl (fun _ => rfl) rfl rfl)
  rw [fireLifecycle, hfire]
  rfl

theorem Serves.deliver (hs : s.Serves name refused h) (m : Message) :
    s.Brings name refused h (.deliver m) := by
  obtain ⟨i, k, hlookup, hget, hk⟩ := hs.connection
  let told := (filtersIn h).filter fun filter => Topic.matchesFilter filter m.topic
  have hreceive : k.receive m = told.map fun _ => ⟨.client name, .message m⟩ := by
    rw [Simulated.Connection.receive, hk.subscriptions, List.filter_map, List.map_map]
    rfl
  have hstep : s.step ((Exchange.deliver m).step name) = answerCount (s.receive k m) := by
    simp [State.step, Exchange.step, attempt, connectionOf_of_lookup hlookup hget, decoded_code,
      bind, Except.bind, pure, Except.pure]
  refine brings_of_tellAllMqtt s (told.map fun _ => .message m) (.number told.length)
    (hstep.trans ?_) rfl rfl ?_ rfl (hs.idle rfl (fun _ => rfl) rfl rfl)
  · rw [State.receive, hreceive, List.map_map]
    simp [answerCount, Function.comp_def]
  · rw [List.flatMap_map]
    exact (List.map_eq_flatMap ..).symm

theorem Serves.ack (hs : s.Serves name refused h) (id : ℕ) (code : ℤ) :
    s.Brings name refused h (.ack id code) := by
  obtain ⟨i, k, hlookup, hget, hk⟩ := hs.connection
  have hstep : s.step ((Exchange.ack id code).step name) = answerYes (s.ack i k id code) := by
    simp [State.step, Exchange.step, attempt, connectionOf_of_lookup hlookup hget, bind,
      Except.bind, pure, Except.pure]
  have hpending := hk.lookup id
  have hacked := hk.acked id code
  cases hcall : (pendingIn h).lookup id with
  | none =>
    rw [hcall, Option.map_none] at hpending
    have hack : k.ack id code = (k, none) := by
      rw [Simulated.Connection.ack, hpending]
    have hkept : k.pending.filter (fun entry => entry.1 ≠ id) = k.pending := by
      refine List.filter_eq_self.2 fun entry hentry => decide_eq_true (Ne.symm ?_)
      exact bne_iff_ne.1 (List.lookup_eq_none_iff.1 hpending entry hentry)
    rw [hkept] at hacked
    refine brings_of_tellAllMqtt (s.withLibrary (s.library.putConnection i k)) [] (.yes false)
      (hstep.trans ?_) rfl rfl ?_ ?_ (hs.put hlookup hget (hacked _) (refusedIn_snoc ..))
    · rw [State.ack, hack]
      rfl
    · rw [Exchange.image, hcall]
      rfl
    · rw [Exchange.Answered, hcall]
      rfl
  | some c =>
    rw [hcall, Option.map_some] at hpending
    have hack : k.ack id code = ({ k with pending := k.pending.filter fun entry => entry.1 ≠ id },
        some ⟨.client name, c.signal id code⟩) := by
      rw [Simulated.Connection.ack, hpending]
      rfl
    refine brings_of_tellAllMqtt (s.withLibrary (s.library.putConnection i
      { k with pending := k.pending.filter fun entry => entry.1 ≠ id })) [c.signal id code]
      (.yes true) (hstep.trans ?_) rfl rfl ?_ ?_
      (hs.put hlookup hget (hacked _) (refusedIn_snoc ..))
    · rw [State.ack, hack]
      rfl
    · rw [Exchange.image, hcall, List.flatMap_singleton, c.callbacks_signal]
    · rw [Exchange.Answered, hcall]
      rfl

theorem Serves.ackAll (hs : s.Serves name refused h) (code : ℤ) :
    s.Brings name refused h (.ackAll code) := by
  obtain ⟨i, k, hlookup, hget, hk⟩ := hs.connection
  have hstep : s.step ((Exchange.ackAll code).step name) = answerCount (s.ackAll i k code) := by
    simp [State.step, Exchange.step, attempt, connectionOf_of_lookup hlookup hget, bind,
      Except.bind, pure, Except.pure]
  let sorted := (pendingIn h).insertionSort fun p q => p.1 ≤ q.1
  have hackAll : k.ackAll code = ({ k with pending := [] },
      (sorted.map fun p => p.2.signal p.1 code).map (⟨.client name, ·⟩)) := by
    rw [Simulated.Connection.ackAll, hk.reverse_pending, List.map_map, List.map_map]
    rfl
  refine brings_of_tellAllMqtt (s.withLibrary (s.library.putConnection i { k with pending := [] }))
    (sorted.map fun p => p.2.signal p.1 code) (.number (pendingIn h).length) (hstep.trans ?_) rfl
    rfl ?_ rfl (hs.put hlookup hget (hk.ackedAll code _) (refusedIn_snoc ..))
  · rw [State.ackAll, hackAll]
    simp [answerCount, sorted, List.length_insertionSort, State.putConnection, withLibrary]
  · rw [List.flatMap_map]
    simp only [ClientCall.callbacks_signal]
    rfl

theorem Serves.step (hs : s.Serves name refused h) (e : Exchange) :
    s.Brings name refused h e := by
  cases e with
  | call c => exact hs.call c
  | disconnect => exact hs.disconnect
  | lifecycle e => exact hs.lifecycle e
  | deliver m => exact hs.deliver m
  | ack id code => exact hs.ack id code
  | ackAll code => exact hs.ackAll code
  | fault change => exact hs.fault change

/-! ## Exchanges one after the other -/

/-- The exchanges with what each of them is answered. -/
def history (s : State) (name : String) : List Exchange → History
  | [] => []
  | e :: es =>
    let r := s.run (e.step name)
    (e, r.2.answer) :: r.1.history name es

/-- What came of exchanges: the client is known after them, and the callbacks were those that were
due. -/
structure Served (s t : State) (name : String) (refused : Bool) (past later : History)
    (reports : List Report) : Prop where
  serves : t.Serves name refused (past ++ later)
  journal : t.journal = {}
  reaction : t.reaction = s.reaction
  invocations : t.invocations = s.invocations + (imagesIn past later).length
  calls : reports.flatMap (·.calls) =
    shownCalls s.reaction s.invocations (callsTo name (imagesIn past later))

/-- What one exchange is answered, and the callbacks in it. -/
structure Told (s : State) (name : String) (refused : Bool) (h : History) (e : Exchange) :
    Prop where
  answered : e.Answered refused h (s.run (e.step name)).2.answer
  calls : (s.run (e.step name)).2.calls =
    shownCalls s.reaction s.invocations (callsTo name (e.image h))

theorem Serves.rested (hs : s.Serves name refused h) (reaction : Reaction) (invocations : ℕ) :
    (s.rested.under ⟨reaction, invocations, [], []⟩).Serves name refused h := by
  refine ⟨?_, hs.faults, hs.connection⟩
  have hsession := hs.session
  rw [List.lookup_eq_none_iff] at hsession ⊢
  intro entry hentry
  obtain ⟨session, hmem, rfl⟩ := List.mem_map.1 hentry
  exact hsession session hmem

theorem Serves.run (hs : s.Serves name refused h) (hjournal : s.journal = {}) (e : Exchange) :
    let t := (s.run (e.step name)).1
    s.Told name refused h e ∧ t.journal = {} ∧ t.reaction = s.reaction ∧
      t.invocations = s.invocations + (e.image h).length ∧
      (FreshAfter h (e, (s.run (e.step name)).2.answer) →
        t.Serves name refused (h ++ [(e, (s.run (e.step name)).2.answer)])) := by
  intro t
  obtain ⟨s', happened, answer, hstep, hcalls, hanswered, hserves⟩ := hs.step e
  obtain ⟨hstate, rfl, hshown⟩ := run_of_happenings hjournal hstep
  have hlength : (callsOf happened).length = (e.image h).length := by
    rw [hcalls, callsTo, List.length_map]
  subst t
  rw [hstate, hlength]
  exact ⟨⟨hanswered, hcalls ▸ hshown⟩, rfl, rfl, rfl, fun hfresh => (hserves hfresh).rested ..⟩

theorem Serves.after (hs : s.Serves name refused h) (hjournal : s.journal = {})
    (es : List Exchange) (hfresh : Fresh (h ++ s.history name es)) :
    Served s (s.after (es.map (·.step name))) name refused h (s.history name es)
      (s.reports (es.map (·.step name))) := by
  -- What an exchange adds to the history decides what is due at those after it.
  induction es generalizing s h with
  | nil => exact ⟨by simpa [State.history, State.after] using hs, hjournal, rfl, rfl, rfl⟩
  | cons e es ih =>
    obtain ⟨htold, hjournal', hreaction, hinvocations, hserves⟩ := hs.run hjournal e
    rw [State.history, List.append_cons] at hfresh
    have hrest := ih (hserves (hfresh _ _ _ (List.append_assoc ..))) hjournal' hfresh
    refine ⟨?_, hrest.journal, hrest.reaction.trans hreaction, ?_, ?_⟩
    · rw [State.history, List.append_cons]
      exact hrest.serves
    · rw [State.history, imagesIn, List.length_append, ← Nat.add_assoc, ← hinvocations]
      exact hrest.invocations
    · rw [State.history, imagesIn, callsTo, List.map_append, shownCalls_append, List.map_cons,
        reports, List.flatMap_cons, htold.calls, List.length_map, ← hinvocations, ← hreaction]
      exact congrArg _ hrest.calls

/-! ## Making the client -/

theorem Seated.note (hseated : s.Seated) (line : Log.Line) : (s.note line).Seated := by
  unfold State.note
  split <;> exact hseated

/-- A connection that was just started stands where an empty history has brought it. -/
theorem mirrors_started (config : Config) (options : Option ConnectOptions) :
    Mirrors { config, lifecycle := .all (.client name), options } name [] :=
  ⟨rfl, rfl, .nil, .nil, rfl⟩

/-- A client that was just made. -/
theorem serves_newClient (hnamed : s.Named) (hseated : s.Seated) (config : ClientConfig)
    (hmade : (s.newClient config false).2 = .ok name) :
    (s.newClient config false).1.Serves name
      ((s.newClient config false).1.library.faults.isSet .operationsRejected) [] := by
  have hnamed' := hnamed.note Client.startNote
  have hseated' := hseated.note Client.startNote
  unfold newClient at hmade ⊢
  generalize s.note Client.startNote = s at *
  cases hconfig : config.config with
  | error e => simp [hconfig] at hmade
  | ok checked =>
    cases hnew : s.library.newConnection checked with
    | error e => simp [hconfig, hnew] at hmade
    | ok made =>
      obtain ⟨library, i⟩ := made
      obtain ⟨c, hget⟩ : ∃ c, library.connections.get? i = some c := by
        unfold Library.newConnection at hnew
        split at hnew <;> cases hnew
        exact ⟨_, Shelf.get?_snoc ..⟩
      by_cases hconnect : library.faults.isSet .connect
      · simp [hconfig, hnew, start_fresh, hconnect] at hmade
      · simp only [hconfig, hnew, start_fresh, hconnect, Bool.false_eq_true, if_false] at hmade ⊢
        obtain rfl := Except.ok.inj hmade
        refine ⟨?_, rfl, i, _, hnamed'.lookup_addHandle _ rfl _, Shelf.get?_put hget _,
          mirrors_started checked (some config.options)⟩
        exact lookup_of_notMem fun hmem => hnamed'.fresh rfl (hseated' _ hmem)

theorem serves_made (hnamed : s.Named) (hseated : s.Seated) (config : ClientConfig)
    (reporting : Reporting) (hmade : (s.step (.newClient config reporting false)).2 = .text name) :
    (s.step (.newClient config reporting false)).1.Serves name
      ((s.step (.newClient config reporting false)).1.library.faults.isSet
        .operationsRejected) [] := by
  have hstep : s.step (.newClient config reporting false) =
      answerMade reporting .text (s.newClient config false) := rfl
  have hserves := @serves_newClient s name hnamed hseated config
  rw [hstep] at hmade ⊢
  obtain ⟨s', r, hresult⟩ : ∃ s' r, s.newClient config false = (s', r) := ⟨_, _, rfl⟩
  rw [hresult] at hmade hserves ⊢
  cases r with
  | error e => cases reporting <;> cases hmade
  | ok made =>
    obtain rfl : made = name := by
      cases reporting <;> exact Answer.text.inj hmade
    cases reporting <;> exact hserves rfl

/-! ## The acknowledgement of one operation -/

theorem Told.completes {c : ClientCall} {id : ℕ} {code : ℤ}
    (h' : s.Told name refused h (.ack id code)) (hlookup : (pendingIn h).lookup id = some c) :
    (s.run (.ack name id code)).2.answer = .yes true ∧ (s.run (.ack name id code)).2.calls =
      shownCalls s.reaction s.invocations (callsTo name (c.completion id code)) := by
  obtain ⟨hanswered, hcalls⟩ := h'
  rw [Exchange.Answered, hlookup] at hanswered
  rw [Exchange.image, hlookup] at hcalls
  exact ⟨hanswered, hcalls⟩

theorem Told.ignores {id : ℕ} {code : ℤ} (h' : s.Told name refused h (.ack id code))
    (hlookup : (pendingIn h).lookup id = none) :
    (s.run (.ack name id code)).2.answer = .yes false ∧
      (s.run (.ack name id code)).2.calls = [] := by
  obtain ⟨hanswered, hcalls⟩ := h'
  rw [Exchange.Answered, hlookup] at hanswered
  rw [Exchange.image, hlookup] at hcalls
  exact ⟨hanswered, hcalls⟩

/-- In every run of the bench, whatever passes between a new client, its user and its connection,
as long as no id is handed out while it is pending: the user is called with the images of the native
events, one after the other, and with nothing besides. What is due at an event is read off the
history. The connection holds the filters subscribed to and the ids pending. The first
acknowledgement of an id completes the operation that was accepted under it. Any later one is
answered no and completes nothing. An operation that is refused is never completed, and after a
disconnect all are refused. -/
theorem client_mirrors_connection (limits : Log.Limits) (reaction : Reaction) (steps : List Step)
    (config : ClientConfig) (reporting : Reporting) (name : String) (exchanges : List Exchange) :
    let made := (State.after { limits, reaction } steps).run (.newClient config reporting false)
    let s := made.1
    let log := s.history name exchanges
    let t := s.after (exchanges.map (·.step name))
    let refused := s.library.faults.isSet .operationsRejected
    made.2.answer = .text name → Fresh log →
      (s.reports (exchanges.map (·.step name))).flatMap (·.calls) =
        shownCalls s.reaction s.invocations (callsTo name (imagesIn [] log)) ∧
      t.reaction = s.reaction ∧ t.invocations = s.invocations + (imagesIn [] log).length ∧
      (∃ i c, t.connectionOf name = .ok (i, c) ∧ c.filters = filtersIn log ∧
        c.pendingIds = ((pendingIn log).insertionSort fun p q => p.1 ≤ q.1).map (·.1) ∧
        c.shutDown = closedIn log) ∧
      (∀ e, t.Told name refused log e) ∧
      ∀ before c (id : ℕ) later code, log = before ++ (.call c, .number id) :: later →
        (later.any (·.1.acknowledges id) = false →
          (t.run (.ack name id code)).2.answer = .yes true ∧
            (t.run (.ack name id code)).2.calls =
              shownCalls t.reaction t.invocations (callsTo name (c.completion id code))) ∧
        (later.any (·.1.acknowledges id) = true →
          (∀ x ∈ later, ∀ p, accepted? x = some p → p.1 ≠ id) →
          (t.run (.ack name id code)).2.answer = .yes false ∧
            (t.run (.ack name id code)).2.calls = []) := by
  intro made s log t refused hmade hfresh
  have hsound := (sound_fresh limits reaction).after steps
  have hseated := (seated_fresh limits reaction).after steps
  have hmade' := serves_made hsound.named hseated config reporting hmade
  have hserves : s.Serves name refused [] := (hmade'.rested _ _)
  have hserved := hserves.after rfl exchanges hfresh
  have htold (e : Exchange) : t.Told name refused log e :=
    (hserved.serves.run hserved.journal e).1
  obtain ⟨i, k, hlookup, hget, hk⟩ := hserved.serves.connection
  refine ⟨hserved.calls, hserved.reaction, hserved.invocations,
    ⟨i, k, connectionOf_of_lookup hlookup hget, ?_, ?_, hk.shutDown⟩, htold, ?_⟩
  · rw [Simulated.Connection.filters, hk.subscriptions, List.map_map]
    exact List.map_id _
  · rw [Simulated.Connection.pendingIds, ← List.map_reverse, hk.reverse_pending, List.map_map]
    rfl
  · intro before c id later code hlog
    constructor
    · intro hlater
      refine (htold _).completes ?_
      rw [hlog] at hfresh ⊢
      exact hfresh.lookup_of_unacknowledged hlater
    · intro hlater hagain
      refine (htold _).ignores ?_
      rw [hlog]
      exact lookup_of_acknowledged hlater hagain

/-- Five operations, one of them refused under a fault and one after the disconnect: each of the
others is completed once, in the order of the acknowledgements. -/
theorem client_mirrors_connection_refused :
    let message : Message := ⟨"a/x", [1], false, .atMostOnce, false⟩
    let publish : Exchange := .call (.publish "a/x" .atMostOnce false [1])
    let exchanges : List Exchange := [
      .call (.subscribeMany ["a/+", "b", "a/+"] .atLeastOnce),
      publish,
      .call (.unsubscribe "b"),
      .fault (.inject .operationsRejected),
      publish,
      .fault .clearAll,
      .deliver message,
      .ack 2 0,
      .ack 2 0,
      .ackAll 5,
      .disconnect,
      publish,
      .lifecycle .closed]
    let made := (State.after { limits := [], reaction := calm } []).run
      (.newClient .sample .logged false)
    let s := made.1
    let log := s.history "m0" exchanges
    made.2.answer = .text "m0" ∧ Fresh log ∧
      (log.filterMap accepted?).map (·.1) = [1, 2, 3] ∧
      (s.reports (exchanges.map (·.step "m0"))).flatMap (·.calls) = [
        ("m0", .mqtt (.message "a/x" (Buffer.borrowed [1]) false .atMostOnce false)),
        ("m0", .mqtt (.message "a/x" (Buffer.borrowed [1]) false .atMostOnce false)),
        ("m0", .mqtt (.published 2 0)),
        ("m0", .mqtt (.subAck 1 "a/+" .failure 5)),
        ("m0", .mqtt (.subAck 1 "b" .failure 5)),
        ("m0", .mqtt (.subAck 1 "a/+" .failure 5)),
        ("m0", .mqtt (.unsubscribed 3 5)),
        ("m0", .mqtt .closed)] := by
  intro message publish exchanges made s log
  have hname : "m" ++ toString 0 = "m0" := by decide
  have hmade : made.2.answer = .text "m0" := by
    rw [← hname]
    rfl
  have hfresh : Fresh log := fresh_of_nodup (by decide)
  obtain ⟨hcalls, -⟩ := client_mirrors_connection [] calm [] .sample .logged "m0" exchanges hmade
    hfresh
  exact ⟨hmade, hfresh, by decide, hcalls.trans (by decide)⟩

end State

end DeviceLink.Bench
