import DeviceLink.Bench.Step
import DeviceLink.Proofs.Bench.Holders
/-!
# Who is called

A native object calls those who are registered with it, and nothing else on the bench calls
anyone. Neither a call nor an operation on an object changes which handles there are and what they
hold.
-/

namespace DeviceLink.Simulated

variable {ρ : Type}

/-! ## Registrations -/

/-- Who is registered with a connection. -/
def Connection.receivers (c : Connection ρ) : List ρ :=
  c.lifecycle.completed.toList ++ c.lifecycle.closed.toList ++ c.lifecycle.interrupted.toList ++
    c.lifecycle.resumed.toList ++ c.subscriptions.map (·.2) ++ c.pending.map (·.2.onAck)

/-- Who is registered with a jobs client. -/
def JobsClient.receivers (c : JobsClient ρ) : List ρ :=
  c.subscriptions.map (·.receiver) ++ c.pendingSubscriptions.map (·.2) ++
    c.pendingPublishes.map (·.2)

/-- Who is registered with a tunneling client. -/
def TunnelingClient.receivers (c : TunnelingClient ρ) : List ρ := c.handlers ++ c.pending

/-- Who is registered with a tunnel. -/
def Tunnel.receivers (t : Tunnel ρ) : List ρ := t.draft.slots.map (·.2)

/-- Who is registered with the object of a number, alive or not. -/
def Shelf.receivers {α : Type} (s : Shelf α) (receivers : α → List ρ) (i : ℕ) : List ρ :=
  match s[i]? with
  | some h => receivers h.object
  | none => []

/-- Who is registered with an object. -/
def Library.registered (l : Library ρ) (o : Object) : List ρ :=
  match o.sort with
  | .connection => l.connections.receivers Connection.receivers o.number
  | .jobsClient => l.jobsClients.receivers JobsClient.receivers o.number
  | .tunnelingClient => l.tunnelingClients.receivers TunnelingClient.receivers o.number
  | .tunnel => l.tunnels.receivers Tunnel.receivers o.number

theorem Shelf.receivers_of_get? {α : Type} {s : Shelf α} {i : ℕ} {a : α} (h : s.get? i = some a)
    (receivers : α → List ρ) : s.receivers receivers i = receivers a := by
  obtain ⟨holders, -, heq⟩ := Shelf.getElem?_of_get? h
  rw [Shelf.receivers, heq]

theorem Shelf.receivers_release {α : Type} (s : Shelf α) (j i : ℕ) (receivers : α → List ρ) :
    (s.release j).receivers receivers i = s.receivers receivers i := by
  rw [Shelf.receivers, Shelf.receivers, Shelf.release, List.getElem?_modify]
  cases s[i]? with
  | none => rfl
  | some x => by_cases hji : j = i <;> simp [hji]

/-- What is put on the last place of a shelf does not touch the others. -/
theorem Shelf.receivers_put_snoc {α : Type} {s : Shelf α} {i : ℕ} (h : i < s.length) (x : Held α)
    (a : α) (receivers : α → List ρ) :
    Shelf.receivers (Shelf.put (s ++ [x]) s.length a) receivers i = s.receivers receivers i := by
  rw [Shelf.receivers, Shelf.receivers, Shelf.put, List.getElem?_modify,
    List.getElem?_append_left h]
  cases s[i]? with
  | none => rfl
  | some y => simp [h.ne']

/-- Whether those objects that were there before have the same registrations. -/
def Library.Undisturbed (l l' : Library ρ) : Prop :=
  ∀ o : Object, o.number < (l.shelf o.sort).length → l'.registered o = l.registered o

section

variable {l l' : Library ρ} {i : ℕ}

theorem Library.Undisturbed.refl (l : Library ρ) : l.Undisturbed l := fun _ _ => rfl

theorem Library.Undisturbed.releaseConnection (h : l.Undisturbed l') :
    l.Undisturbed (l'.releaseConnection i) := by
  intro o ho
  rw [← h o ho]
  obtain ⟨sort, n⟩ := o
  cases sort with
  | connection => exact Shelf.receivers_release _ i n _
  | jobsClient | tunnelingClient | tunnel => rfl

theorem Library.Undisturbed.releaseJobsClient (h : l.Undisturbed l') :
    l.Undisturbed (l'.releaseJobsClient i) := by
  intro o ho
  rw [← h o ho]
  obtain ⟨sort, n⟩ := o
  cases sort with
  | jobsClient => exact Shelf.receivers_release _ i n _
  | connection | tunnelingClient | tunnel => rfl

theorem Library.Undisturbed.releaseTunnelingClient (h : l.Undisturbed l') :
    l.Undisturbed (l'.releaseTunnelingClient i) := by
  intro o ho
  rw [← h o ho]
  obtain ⟨sort, n⟩ := o
  cases sort with
  | tunnelingClient => exact Shelf.receivers_release _ i n _
  | connection | jobsClient | tunnel => rfl

end

namespace Connection

variable {c : Connection ρ} {d : Mqtt.Delivery ρ}

theorem receiver_of_fire {signal : Mqtt.Signal} (h : d ∈ c.fire signal) :
    d.receiver ∈ c.receivers := by
  unfold receivers
  simp only [List.mem_append]
  cases signal with
  | completed | closed | interrupted | resumed =>
    have hslot := Mqtt.receiver_of_deliver h
    tauto
  | message | subscribed | subscribedMany | unsubscribed | published => cases h

theorem receiver_of_receive {m : Mqtt.Message} (h : d ∈ c.receive m) :
    d.receiver ∈ c.receivers := by
  obtain ⟨entry, hentry, rfl⟩ := List.mem_map.1 h
  have hmem : entry.2 ∈ c.subscriptions.map (·.2) :=
    List.mem_map_of_mem (List.mem_of_mem_filter hentry)
  exact List.mem_append_left _ (List.mem_append_right _ hmem)

theorem receiver_of_ack {id : ℕ} {code : ℤ} (h : d ∈ (c.ack id code).2.toList) :
    d.receiver ∈ c.receivers := by
  unfold ack at h
  cases hpending : c.pending.lookup id with
  | none => rw [hpending] at h; cases h
  | some a =>
    rw [hpending] at h
    obtain ⟨before, rest, heq, -⟩ := List.lookup_eq_some_iff.1 hpending
    have hmem : (id, a) ∈ c.pending := by rw [heq]; simp
    rw [List.mem_singleton.1 h]
    exact List.mem_append_right _ (List.mem_map_of_mem (f := (·.2.onAck)) hmem)

theorem receiver_of_ackAll {code : ℤ} (h : d ∈ (c.ackAll code).2) : d.receiver ∈ c.receivers := by
  obtain ⟨entry, hentry, rfl⟩ := List.mem_map.1 h
  exact List.mem_append_right _
    (List.mem_map_of_mem (f := (·.2.onAck)) (List.mem_reverse.1 hentry))

end Connection

namespace JobsClient

variable {c : JobsClient ρ} {d : ρ × Jobs.Signal} {ioError : ℤ}

theorem receiver_of_completeSubscriptions (h : d ∈ (c.completeSubscriptions ioError).2) :
    d.1 ∈ c.receivers := by
  obtain ⟨entry, hentry, rfl⟩ := List.mem_map.1 h
  exact List.mem_append_left _ (List.mem_append_right _ (List.mem_map_of_mem hentry))

theorem receiver_of_completePublishes (h : d ∈ (c.completePublishes ioError).2) :
    d.1 ∈ c.receivers := by
  obtain ⟨entry, hentry, rfl⟩ := List.mem_map.1 h
  exact List.mem_append_right _ (List.mem_map_of_mem hentry)

theorem receiver_of_fire {e : Jobs.Event} (h : d ∈ c.fire e ioError) : d.1 ∈ c.receivers := by
  obtain ⟨entry, hentry, rfl⟩ := List.mem_map.1 h
  exact List.mem_append_left _
    (List.mem_append_left _ (List.mem_map_of_mem (List.mem_of_mem_filter hentry)))

end JobsClient

namespace TunnelingClient

variable {c : TunnelingClient ρ} {d : ρ × DeviceLink.Tunnel.Listener.Signal}

theorem receiver_of_complete {code : ℤ} (h : d ∈ (c.complete code).2) : d.1 ∈ c.receivers := by
  obtain ⟨r, hr, rfl⟩ := List.mem_map.1 h
  exact List.mem_append_right _ hr

theorem receiver_of_fire {response : Option DeviceLink.Tunnel.Opened} {ioError : ℤ}
    (h : d ∈ c.fire response ioError) : d.1 ∈ c.receivers := by
  obtain ⟨r, hr, rfl⟩ := List.mem_map.1 h
  exact List.mem_append_left _ hr

end TunnelingClient

theorem Tunnel.receiver_of_fire {t : Tunnel ρ} {e : DeviceLink.Tunnel.Event}
    {d : ρ × DeviceLink.Tunnel.Event} (h : t.fire e = some d) : d.1 ∈ t.receivers := by
  obtain ⟨r, hr, rfl⟩ := Option.map_eq_some_iff.1 h
  obtain ⟨before, rest, heq, -⟩ := List.lookup_eq_some_iff.1 hr
  have hmem : (e.slot, r) ∈ t.draft.slots := by rw [heq]; simp
  exact List.mem_map_of_mem (f := (·.2)) hmem

end DeviceLink.Simulated

namespace DeviceLink.Bench

open Mqtt Simulated Library

/-- Who is called by a callback to a name. -/
def Callback.receiver (name : String) : Callback → Receiver
  | mqtt _ => .client name
  | queue _ => .queue name
  | job _ => .job name
  | listener _ => .listener name
  | tunnel _ => .tunnel name

namespace State

/-! ## Turns -/

/-- The handles are the same and their objects are held as before. -/
structure Steady (s s' : State) : Prop where
  handles : s'.handles = s.handles
  made : s'.made = s.made
  library : Kept s.library s'.library

/-- Nobody is called but those told: no user, whether it panics or not, no handler of the bench's
own and no session. -/
structure Tells (told : List Receiver) (s s' : State) : Prop where
  invocations : told = [] → s'.invocations = s.invocations
  calls : ∀ x ∈ s'.journal.calls, x ∈ s.journal.calls ∨ x.2.receiver x.1 ∈ told
  raw : s'.journal.raw = s.journal.raw ∨ .raw ∈ told
  mail : ∀ x ∈ s'.sessions, x.2.mailbox ≠ [] →
    (∃ y ∈ s.sessions, y.1 = x.1 ∧ y.2.mailbox ≠ []) ∨ .session x.1 ∈ told

/-- Both at once. -/
structure Turn (told : List Receiver) (s s' : State) : Prop where
  steady : Steady s s'
  tells : Tells told s s'

variable {told : List Receiver}

theorem Steady.refl (s : State) : Steady s s := ⟨rfl, rfl, .refl _⟩

theorem Steady.trans {s s' s'' : State} (h : Steady s s') (h' : Steady s' s'') : Steady s s'' :=
  ⟨h'.handles.trans h.handles, h'.made.trans h.made, h.library.trans h'.library⟩

theorem Tells.trans {s s' s'' : State} (h : Tells told s s') (h' : Tells told s' s'') :
    Tells told s s'' where
  invocations hnone := (h'.invocations hnone).trans (h.invocations hnone)
  calls x hx := (h'.calls x hx).elim (h.calls x) .inr
  raw := h'.raw.elim (fun heq => heq ▸ h.raw) .inr
  mail x hx hmail := by
    obtain ⟨y, hy, hname, hmail'⟩ | htold := h'.mail x hx hmail
    · obtain ⟨z, hz, hname', hmail''⟩ | htold := h.mail y hy hmail'
      · exact .inl ⟨z, hz, hname'.trans hname, hmail''⟩
      · exact .inr (hname ▸ htold)
    · exact .inr htold

/-- Where no call is taken down and the sessions are the same, nobody is called. -/
theorem tells_of_eq {s s' : State} (hinvocations : s'.invocations = s.invocations)
    (hcalls : s'.journal.calls = s.journal.calls) (hraw : s'.journal.raw = s.journal.raw)
    (hsessions : s'.sessions = s.sessions) : Tells told s s' where
  invocations _ := hinvocations
  calls _ hx := .inl (hcalls ▸ hx)
  raw := .inl hraw
  mail x hx hmail := .inl ⟨x, hsessions ▸ hx, rfl, hmail⟩

theorem Turn.refl (s : State) : Turn told s s := ⟨.refl s, tells_of_eq rfl rfl rfl rfl⟩

theorem Turn.trans {s s' s'' : State} (h : Turn told s s') (h' : Turn told s' s'') :
    Turn told s s'' :=
  ⟨h.steady.trans h'.steady, h.tells.trans h'.tells⟩

/-- Turns one after the other. -/
theorem turn_foldl {α : Type} {f : State → α → State} {l : List α}
    (hf : ∀ s, ∀ a ∈ l, Turn told s (f s a)) (s : State) : Turn told s (l.foldl f s) := by
  induction l generalizing s with
  | nil => exact .refl s
  | cons a l ih =>
    have hrest : ∀ s, ∀ b ∈ l, Turn told s (f s b) := fun s b hb =>
      hf s b (List.mem_cons_of_mem a hb)
    exact (hf s a List.mem_cons_self).trans (ih hrest _)

/-- A library with the same holders. -/
theorem turn_withLibrary (s : State) {library : Library Receiver} (h : Kept s.library library) :
    Turn told s (s.withLibrary library) :=
  ⟨⟨rfl, rfl, h⟩, tells_of_eq rfl rfl rfl rfl⟩

theorem turn_note (s : State) (line : Log.Line) : Turn told s (s.note line) := by
  unfold note
  split
  · exact ⟨⟨rfl, rfl, .refl _⟩, tells_of_eq rfl rfl rfl rfl⟩
  · exact .refl s

theorem turn_noteAll (s : State) (lines : List Log.Line) : Turn told s (s.noteAll lines) :=
  turn_foldl (fun s line _ => s.turn_note line) s

/-! ## Calls -/

theorem turn_invoke (s : State) {name : String} {c : Callback} (h : c.receiver name ∈ told) :
    Turn told s (s.invoke name c) := by
  have hcount : Turn told s { s with invocations := s.invocations + 1 } :=
    ⟨⟨rfl, rfl, .refl _⟩,
      { tells_of_eq rfl rfl rfl rfl with invocations := fun hnone => by rw [hnone] at h; cases h }⟩
  unfold invoke
  dsimp only
  split
  -- A panic is noted where the call would have been, and the invocation counts all the same.
  · exact hcount.trans (turn_note _ _)
  · refine ⟨⟨rfl, rfl, .refl _⟩, { hcount.tells with calls := fun x hx => ?_ }⟩
    obtain rfl | hx := List.mem_cons.1 hx
    · exact .inr h
    · exact .inl hx

theorem turn_tellRaw (s : State) (r : Raw) (h : .raw ∈ told) : Turn told s (s.tellRaw r) :=
  ⟨⟨rfl, rfl, .refl _⟩, { tells_of_eq rfl rfl rfl rfl with raw := .inr h }⟩

theorem turn_tellSession (s : State) {name : String} (c : Mqtt.Callback)
    (h : .session name ∈ told) : Turn told s (s.tellSession name c) := by
  refine ⟨⟨rfl, rfl, .refl _⟩, fun _ => rfl, fun _ hx => .inl hx, .inl rfl, fun x hx hmail => ?_⟩
  obtain ⟨y, hy, rfl⟩ := List.mem_map.1 hx
  by_cases hname : y.1 = name
  · simp only [hname, if_true] at hmail ⊢
    exact .inr h
  · simp only [hname, if_false] at hmail ⊢
    exact .inl ⟨y, hy, rfl, hmail⟩

theorem turn_tellMqtt (s : State) {d : Delivery Receiver} (h : d.receiver ∈ told) :
    Turn told s (s.tellMqtt d) := by
  unfold tellMqtt
  split
  · next name heq =>
    rw [heq] at h
    exact (s.turn_noteAll _).trans (turn_foldl (fun s c _ => s.turn_invoke h) _)
  · next name heq =>
    rw [heq] at h
    exact (s.turn_noteAll _).trans (turn_foldl (fun s c _ => s.turn_tellSession c h) _)
  · next heq =>
    rw [heq] at h
    exact s.turn_tellRaw _ h
  all_goals exact .refl s

theorem turn_tellJobs (s : State) {receiver : Receiver} (signal : Jobs.Signal)
    (h : receiver ∈ told) : Turn told s (s.tellJobs receiver signal) := by
  unfold tellJobs
  split
  · split
    · exact s.turn_invoke h
    · exact .refl s
  · split
    · exact s.turn_invoke h
    · exact .refl s
  · exact s.turn_tellRaw _ h
  all_goals exact .refl s

theorem turn_tellListener (s : State) {receiver : Receiver} (signal : Tunnel.Listener.Signal)
    (h : receiver ∈ told) : Turn told s (s.tellListener receiver signal) := by
  unfold tellListener
  split
  · split
    · exact s.turn_invoke h
    · exact s.turn_note _
  all_goals exact .refl s

theorem turn_tellTunnel (s : State) {receiver : Receiver} (e : Tunnel.Event)
    (h : receiver ∈ told) : Turn told s (s.tellTunnel receiver e) := by
  unfold tellTunnel
  split
  · exact s.turn_invoke h
  · exact s.turn_tellRaw _ h
  all_goals exact .refl s

/-! ## Events -/

theorem turn_fireLifecycle (s : State) (c : Simulated.Connection Receiver) (signal : Signal) :
    Turn c.receivers s (s.fireLifecycle c signal).1 :=
  turn_foldl (fun s _ hd => s.turn_tellMqtt (Connection.receiver_of_fire hd)) s

theorem turn_receive (s : State) (c : Simulated.Connection Receiver) (m : Message) :
    Turn c.receivers s (s.receive c m).1 :=
  turn_foldl (fun s _ hd => s.turn_tellMqtt (Connection.receiver_of_receive hd)) s

theorem turn_ack (s : State) (i : ℕ) (c : Simulated.Connection Receiver) (id : ℕ) (code : ℤ) :
    Turn c.receivers s (s.ack i c id code).1 :=
  (s.turn_withLibrary (putConnection_kept ..)).trans
    (turn_foldl (fun s _ hd => s.turn_tellMqtt (Connection.receiver_of_ack hd)) _)

theorem turn_ackAll (s : State) (i : ℕ) (c : Simulated.Connection Receiver) (code : ℤ) :
    Turn c.receivers s (s.ackAll i c code).1 :=
  (s.turn_withLibrary (putConnection_kept ..)).trans
    (turn_foldl (fun s _ hd => s.turn_tellMqtt (Connection.receiver_of_ackAll hd)) _)

theorem turn_completeSubscriptions (s : State) (j : ℕ) (c : JobsClient Receiver) (ioError : ℤ) :
    Turn c.receivers s (s.completeSubscriptions j c ioError).1 :=
  (s.turn_withLibrary (putJobsClient_kept ..)).trans
    (turn_foldl
      (fun s d hd => s.turn_tellJobs d.2 (JobsClient.receiver_of_completeSubscriptions hd)) _)

theorem turn_completePublishes (s : State) (j : ℕ) (c : JobsClient Receiver) (ioError : ℤ) :
    Turn c.receivers s (s.completePublishes j c ioError).1 :=
  (s.turn_withLibrary (putJobsClient_kept ..)).trans
    (turn_foldl
      (fun s d hd => s.turn_tellJobs d.2 (JobsClient.receiver_of_completePublishes hd)) _)

theorem turn_fireJobs (s : State) (c : JobsClient Receiver) (e : Jobs.Event) (ioError : ℤ) :
    Turn c.receivers s (s.fireJobs c e ioError).1 :=
  turn_foldl (fun s d hd => s.turn_tellJobs d.2 (JobsClient.receiver_of_fire hd)) s

theorem turn_completeListeners (s : State) (i : ℕ) (c : TunnelingClient Receiver) (code : ℤ) :
    Turn c.receivers s (s.completeListeners i c code).1 :=
  (s.turn_withLibrary (putTunnelingClient_kept ..)).trans
    (turn_foldl (fun s d hd => s.turn_tellListener d.2 (TunnelingClient.receiver_of_complete hd)) _)

theorem turn_fireOpened (s : State) (c : TunnelingClient Receiver)
    (response : Option Tunnel.Opened) (ioError : ℤ) :
    Turn c.receivers s (s.fireOpened c response ioError).1 :=
  turn_foldl (fun s d hd => s.turn_tellListener d.2 (TunnelingClient.receiver_of_fire hd)) s

theorem turn_fireTunnel (s : State) (t : Simulated.Tunnel Receiver) (e : Tunnel.Event) :
    Turn t.receivers s (s.fireTunnel t e).1 := by
  unfold fireTunnel
  split
  · next receiver e' heq => exact s.turn_tellTunnel _ (Tunnel.receiver_of_fire heq)
  · exact .refl s

/-! ## Operations -/

theorem turn_onConnection {α : Type} (s : State) (i : ℕ) (absent : α)
    (operation : Endpoint Receiver → Reply (Endpoint Receiver) α) :
    Turn told s (s.onConnection i absent operation).1 := by
  unfold onConnection
  split
  · exact .refl s
  · exact (s.turn_withLibrary (putConnection_kept ..)).trans (turn_noteAll _ _)

theorem turn_publishTimes (s : State) (name : String) (i : ℕ) (topic : String) (qos : Qos)
    (retain : Bool) (payload : List UInt8) (times : ℕ) :
    Turn told s (s.publishTimes name i topic qos retain payload times).1 := by
  fun_induction publishTimes with
  | case1 => exact .refl _
  | case2 s => exact s.turn_onConnection ..
  | case3 s _ _ ih => exact (s.turn_onConnection ..).trans ih

theorem turn_request (s : State) (j : ℕ) (r : Jobs.Request) (qos : Qos) (token : Token)
    (receiver : Receiver) : Turn told s (s.request j r qos token receiver).1 := by
  unfold request
  split
  · exact .refl s
  · exact s.turn_withLibrary (putJobsClient_kept ..)

theorem turn_sendRequest (s : State) (j : ℕ) (r : Jobs.Request) (qos : Qos) (token : Token)
    (receiver : Receiver) (refused : Log.Line) :
    Turn told s (s.sendRequest j r qos token receiver refused).1 := by
  refine (s.turn_request j r qos token receiver).trans ?_
  unfold sendRequest
  dsimp only
  split
  · exact .refl _
  · exact turn_note _ _

theorem turn_subscribeRawJobs (s : State) (j : ℕ) (scope : Jobs.Scope) (topic : Jobs.Topic) :
    Turn told s (s.subscribeRawJobs j scope topic).1 := by
  unfold subscribeRawJobs
  split
  · exact .refl s
  · exact s.turn_withLibrary (putJobsClient_kept ..)

theorem turn_onTunnel (s : State) (t : ℕ)
    (call : Simulated.Tunnel Receiver → Simulated.Tunnel Receiver × ℤ) :
    Turn told s (s.onTunnel t call).1 := by
  unfold onTunnel
  split
  · exact .refl s
  · exact s.turn_withLibrary (putTunnel_kept ..)

theorem turn_startTunnel (s : State) (t : ℕ) (throughHandle : Bool) :
    Turn told s (s.startTunnel t throughHandle).1 := by
  refine (s.turn_onTunnel t (·.start s.library.faults)).trans ?_
  unfold startTunnel
  dsimp only
  split
  · exact turn_note _ _
  · exact .refl _

theorem turn_stopTunnel (s : State) (t : ℕ) (throughHandle : Bool) :
    Turn told s (s.stopTunnel t throughHandle).1 := by
  refine (s.turn_onTunnel t (·.stop)).trans ?_
  unfold stopTunnel
  dsimp only
  split
  · exact turn_note _ _
  · exact .refl _

theorem turn_handleEvents (s : State) (name : String) (i : ℕ) (topics : List String) (qos : Qos)
    (events : List Agent.Event) : Turn told s (s.handleEvents name i topics qos events).1 := by
  unfold handleEvents
  split
  · exact .refl s
  · exact (s.turn_withLibrary (putConnection_kept ..)).trans (turn_noteAll _ _)

theorem turn_withFaults (s : State) (faults : Faults) : Turn told s (s.withFaults faults) :=
  have hkept : Kept s.library { s.library with faults } := ⟨funext fun k => by cases k <;> rfl, rfl⟩
  s.turn_withLibrary hkept

end State

end DeviceLink.Bench
