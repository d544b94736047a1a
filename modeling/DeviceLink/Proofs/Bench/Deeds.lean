import DeviceLink.Proofs.Bench.Facade
import DeviceLink.Proofs.Simulated.Natives
/-!
# What the objects of handles do in a step

A step that is not refused has the object of one handle do something, and nobody else's; or it
makes a handle with its object, or drops one; or it deals with what the session of an agent was
told; or it changes nothing about any of them. Here are these effects, and the steps that have an
object do something.
-/

namespace DeviceLink.Simulated

/-- The jobs client that was subscribed to topics and did nothing else. -/
def JobsClient.subscribed {ρ : Type} (scope : Jobs.Scope) (topics : List Jobs.Topic) (r : ρ) :
    JobsClient ρ where
  subscriptions := topics.map fun topic => ⟨scope, topic, r⟩
  pendingSubscriptions := topics.map fun topic => (topic, r)

/-- Subscribing to topics when none is refused. -/
theorem JobsClient.subscribeAll_accepted {ρ : Type} {c c' : JobsClient ρ} {faults : Faults}
    {scope : Jobs.Scope} {r : ρ} {topics : List Jobs.Topic}
    (h : c.subscribeAll faults scope r topics = (c', none)) :
    c' = { c with
      subscriptions := c.subscriptions ++ topics.map fun topic => ⟨scope, topic, r⟩
      pendingSubscriptions := c.pendingSubscriptions ++ topics.map fun topic => (topic, r) } := by
  induction topics generalizing c with
  | nil =>
    obtain rfl := (Prod.mk.inj h).1
    simp
  | cons topic topics ih =>
    by_cases hrefused : faults.isSet (.subscribe topic) || faults.isSet .operationsRejected
    · simp [subscribeAll, subscribe, hrefused] at h
    · rw [subscribeAll, subscribe, if_neg hrefused] at h
      rw [ih h]
      simp

theorem JobsClient.subscribeAll_none {ρ : Type} {c : JobsClient ρ} {faults : Faults}
    {scope : Jobs.Scope} {r : ρ} {topics : List Jobs.Topic}
    (h : ({} : JobsClient ρ).subscribeAll faults scope r topics = (c, none)) :
    c = .subscribed scope topics r :=
  subscribeAll_accepted h

end DeviceLink.Simulated

namespace DeviceLink.Bench

open Mqtt Simulated Library

/-! ## Handles and their objects -/

namespace Holding

/-- The object that a handle is on. -/
def own : Holding → Object
  | client i | rawConnection i => ⟨.connection, i⟩
  | queue j _ _ | job j _ _ _ | rawJobs j => ⟨.jobsClient, j⟩
  | listener n _ _ => ⟨.tunnelingClient, n⟩
  | tunnel t | rawTunnel t => ⟨.tunnel, t⟩

/-- The same without the numbers of the objects. -/
def plain : Holding → Holding
  | client _ => .client 0
  | rawConnection _ => .rawConnection 0
  | queue _ _ thing => .queue 0 0 thing
  | job _ _ thing id => .job 0 0 thing id
  | rawJobs _ => .rawJobs 0
  | listener _ _ thing => .listener 0 0 thing
  | tunnel _ => .tunnel 0
  | rawTunnel _ => .rawTunnel 0

/-- Who is registered with the object of a handle: its user, who may be the session of an agent. -/
def receiver (name : String) (seated : Bool) : Holding → Receiver
  | client _ => if seated then .session name else .client name
  | queue .. => .queue name
  | job .. => .job name
  | listener .. => .listener name
  | tunnel _ => .tunnel name
  | rawConnection _ | rawJobs _ | rawTunnel _ => .raw

/-- Deeds of the objects of one sort. -/
def whenOn (sort : ObjectSort) (ds : List Deed) (h : Holding) : List Deed :=
  if h.own.sort = sort then ds else []

/-- Deeds that take a client. -/
def whenClient (ds : List Deed) : Holding → List Deed
  | client _ => ds
  | _ => []

theorem number?_eq_some {h : Holding} (sort : ObjectSort) {i : ℕ} :
    h.number? sort = some i ↔ h.own = ⟨sort, i⟩ := by
  cases h <;> cases sort <;> simp [number?, connection?, jobsClient?, listener?, tunnel?, own]

theorem own_mem_objects (h : Holding) : h.own ∈ h.objects := by
  cases h <;> exact List.mem_cons_self

end Holding

/-! ## Steps -/

/-- Deeds that take something well-formed. -/
def whenOk {ε α : Type} (e : Except ε α) (ds : α → List Deed) : List Deed :=
  match e with
  | .ok a => ds a
  | .error _ => []

namespace Step

/-- The handle whose object a step has do something. -/
def worker? : Step → Option String
  | subscribe h .. | subscribeMany h .. | unsubscribe h _ | publish h .. | disconnect h
  | fireCompleted h .. | fireClosed h | fireInterrupted h _ | fireResumed h .. | receive h ..
  | ack h .. | ackAll h _ | connect h _ | getPending h .. | startNext h .. | describe h ..
  | update h .. | completeSubscriptions h _ | completePublishes h _ | fire h ..
  | subscribeRawJobs h .. | completeListeners h _ | fireOpened h .. | start h | stop h | send h _
  | fireTunnel h _ => some h
  | _ => none

/-- The handle that a step is on, if it can change anything about one. -/
def subject? : Step → Option String
  | drop h | dropEvents h | handleEvents h .. => some h
  | st => st.worker?

/-- What a step has the object of a handle do: nothing if it is on another sort of handle or
ill-formed. -/
def deeds (h : Holding) : Step → List Deed
  | subscribe _ topic qos =>
    h.whenClient (whenOk (Coded.decode qos) fun qos => [.operate (.subscribe topic qos () ())])
  | subscribeMany _ topics qos =>
    h.whenClient (whenOk (Coded.decode qos) fun qos =>
      [.operate (.subscribeMany (topics.map (·, ())) qos ())])
  | unsubscribe _ topic => h.whenClient [.operate (.unsubscribe topic ())]
  | publish _ topic qos retain payload times =>
    h.whenClient (whenOk (Coded.decode qos) fun qos =>
      List.replicate times (.operate (.publish topic qos retain payload ())))
  | disconnect _ => h.whenClient [.disconnect]
  | fireCompleted _ code returnCode sessionPresent =>
    h.whenOn .connection (whenOk (Coded.decode returnCode) fun returnCode =>
      [.fire (.completed code returnCode sessionPresent)])
  | fireClosed _ => h.whenOn .connection [.fire .closed]
  | fireInterrupted _ code => h.whenOn .connection [.fire (.interrupted code)]
  | fireResumed _ returnCode sessionPresent =>
    h.whenOn .connection (whenOk (Coded.decode returnCode) fun returnCode =>
      [.fire (.resumed returnCode sessionPresent)])
  | receive _ topic payload dup qos retain =>
    h.whenOn .connection (whenOk (Coded.decode qos) fun qos =>
      [.receive { topic, payload, dup, qos, retain }])
  | ack _ id code => h.whenOn .connection [.ack id code]
  | ackAll _ code => h.whenOn .connection [.ackAll code]
  | connect _ options => h.whenOn .connection [.connect options]
  | getPending _ token qos =>
    match h with
    | .queue _ _ thing =>
      whenOk (Coded.decode qos) fun qos => [.request (Jobs.Queue.getPendingRequest thing) qos token]
    | .rawJobs _ =>
      whenOk (Coded.decode qos) fun qos => [.request (.getPending none none) qos token]
    | _ => []
  | startNext _ token qos request =>
    match h with
    | .queue _ _ thing => whenOk (Coded.decode qos) fun qos =>
      [.request (Jobs.Queue.startNextRequest thing request) qos token]
    | _ => []
  | describe _ token qos request =>
    match h with
    | .job _ _ thing job => whenOk (Coded.decode qos) fun qos =>
      [.request (Jobs.Job.describeRequest thing job request) qos token]
    | _ => []
  | update _ token qos request =>
    match h with
    | .job _ _ thing job => whenOk (Coded.decode qos) fun qos =>
      [.request (Jobs.Job.updateRequest thing job request) qos token]
    | _ => []
  | completeSubscriptions _ ioError => h.whenOn .jobsClient [.completeSubscriptions ioError]
  | completePublishes _ ioError => h.whenOn .jobsClient [.completePublishes ioError]
  | fire _ event ioError => h.whenOn .jobsClient (whenOk event fun e => [.fireJobs e ioError])
  | subscribeRawJobs _ topic qos scope =>
    match h with
    | .rawJobs _ => whenOk (Coded.decode qos : Except _ Qos) fun _ =>
      whenOk topic fun topic => [.subscribeJobs scope topic]
    | _ => []
  | completeListeners _ code => h.whenOn .tunnelingClient [.completeListeners code]
  | fireOpened _ response ioError => h.whenOn .tunnelingClient [.fireOpened response ioError]
  | start _ => h.whenOn .tunnel [.start]
  | stop _ => h.whenOn .tunnel [.stop]
  | send _ m => h.whenOn .tunnel [.send m]
  | fireTunnel _ event => h.whenOn .tunnel (whenOk event fun e => [.fireTunnel e])
  | _ => []

/-- Whether the handle that a step makes has the session of an agent for its user. -/
def seats : Step → Bool
  | newClient _ _ session => session
  | _ => false

/-- The handle that a step makes under a name, without numbers, and its object: if nothing is
refused. -/
def product? (name : String) : Step → Option (Holding × Native Receiver)
  | newClient config _ session =>
    match config.config with
    | .ok checked => some (.client 0, .connection {
        config := checked
        lifecycle := .all ((Holding.client 0).receiver name session)
        options := some config.options })
    | .error _ => none
  | newRawConnection calls lifecycle =>
    match (Draft.ofCalls calls).build with
    | .ok config => some (.rawConnection 0, .connection { config, lifecycle })
    | .error _ => none
  | newQueue _ thing _ _ => some (.queue 0 0 thing,
      .jobsClient (.subscribed { thing := some thing } Jobs.Queue.topics (.queue name)))
  | newJob _ thing id _ _ => some (.job 0 0 thing id,
      .jobsClient (.subscribed { thing := some thing, job := some id } Jobs.Job.topics (.job name)))
  | newRawJobs _ => some (.rawJobs 0, .jobsClient {})
  | newListener _ thing qos _ =>
    match Coded.decode qos with
    | .ok qos => some (.listener 0 0 thing, .tunnelingClient {
        requests := [(thing, qos)]
        handlers := [.listener name]
        pending := [.listener name] })
    | .error _ => none
  | newTunnel endpoint accessToken mode _ =>
    match mode with
    | .ok mode => some (.tunnel 0, .tunnel {
        draft := ({ endpoint, accessToken, mode } : Tunnel.Draft Receiver).registerAll
          Tunnel.Slot.all (.tunnel name) })
    | .error _ => none
  | newRawTunnel draft =>
    match draft with
    | .ok draft => some (.rawTunnel 0, .tunnel { draft })
    | .error _ => none
  | _ => none

end Step

namespace State

/-! ## What an object does -/

/-- Who is registered with the object of a handle. -/
def receiverOf (s : State) (name : String) (h : Holding) : Receiver :=
  h.receiver name (s.sessions.lookup name).isSome

/-- News to a receiver. -/
def tell (s : State) (r : Receiver) : News → State
  | .mqtt signal => s.tellMqtt ⟨r, signal⟩
  | .jobs signal => s.tellJobs r signal
  | .listener signal => s.tellListener r signal
  | .tunnel e => s.tellTunnel r e

/-- News to receivers, in order. -/
def tellAll (s : State) (told : List (Receiver × News)) : State :=
  told.foldl (fun s d => s.tell d.1 d.2) s

/-- The bench after the object of a handle, which was `x`, has done deeds and told of them. -/
def work (s : State) (name : String) (h : Holding) (x : Native Receiver) (ds : List Deed) : State :=
  let result := x.does s.library.faults (s.receiverOf name h) ds
  (s.withLibrary (s.library.putNative h.own.number result.1)).tellAll result.2

/-- The bench with the events taken that a session has shown. -/
def taken (s : State) (name : String) : State :=
  { s with shown := s.shown.map fun (n, es) => if n = name then (n, []) else (n, es) }

/-- What the agent has the connection of its client do when it handles events. -/
def handlings (h : Handle) (topics : List String) (qos : Qos) (events : List Agent.Event) :
    List Deed :=
  if h.dropped then []
  else h.holding.whenClient ((events.filter (·.wantsTopics)).map fun _ =>
    .operate (.subscribeMany (topics.map (·, ())) qos ()))

/-! ## Effects -/

/-- Nothing is changed that a handle, its object or its user is concerned with. -/
structure Rests (s s' : State) : Prop where
  handles : s'.handles = s.handles
  sessions : s'.sessions = s.sessions
  shown : s'.shown = s.shown
  calls : s'.journal.calls = s.journal.calls
  natives : ∀ o x, s.library.native? o = some x → s'.library.native? o = some x

/-- A step has made a handle. -/
structure Builds (s : State) (st : Step) (s' : State) (name : String) (holding : Holding)
    (x : Native Receiver) : Prop where
  fresh : name ∉ s.handles.map (·.1)
  product : st.product? name = some (holding.plain, x)
  adds : s.library.Adds s'.library holding.own x
  handles : s'.handles = s.handles ++ [(name, ⟨holding, false⟩)]
  sessions : s'.sessions = s.sessions ++ if st.seats then [(name, ({} : Agent.Session))] else []
  shown : s'.shown = s.shown
  calls : s'.journal.calls = s.journal.calls

/-- What a step does to the handles. -/
inductive Effect (s : State) : Step → State → Prop
  | refused {st : Step} {answer : Answer} (h : s.attempt st = .error answer) : Effect s st s
  | rests {st : Step} {s' : State} (hsubject : st.subject? = none) (h : Rests s s') : Effect s st s'
  | builds {st : Step} {s' : State} {name : String} {holding : Holding} {x : Native Receiver}
    (h : Builds s st s' name holding x) : Effect s st s'
  | works {st : Step} {name : String} {handle : Handle} {x : Native Receiver}
    (hworker : st.worker? = some name) (hlookup : s.handles.lookup name = some handle)
    (hnative : s.library.native? handle.holding.own = some x) (lines : List Log.Line) :
    Effect s st ((s.work name handle.holding x (st.deeds handle.holding)).noteAll lines)
  | handles {name : String} {handle : Handle} {x : Native Receiver} {topics : List String}
    {code : ℤ} {qos : Qos} {events : List Agent.Event}
    (hlookup : s.handles.lookup name = some handle)
    (hnative : s.library.native? handle.holding.own = some x)
    (hqos : Coded.decode code = .ok qos) (hshown : s.shown.lookup name = some events)
    (lines : List Log.Line) :
    Effect s (.handleEvents name topics code)
      (((s.taken name).work name handle.holding x (handlings handle topics qos events)).noteAll
        lines)
  | drops {name : String} {handle : Handle} (hlookup : s.handles.lookup name = some handle)
    (hlive : handle.dropped = false) : Effect s (.drop name) (s.dropHandle name handle)
  | abandons {name : String} {session : Agent.Session}
    (hlookup : s.sessions.lookup name = some session) :
    Effect s (.dropEvents name)
      { s with
        sessions := s.sessions.map fun (n, session) =>
          if n = name then (n, session.abandon) else (n, session) }

/-- Between two steps: every handle has an object of its own, and every session is that of one
handle. -/
structure Apart (s : State) : Prop where
  sound : Sound s
  seated : s.Seated
  seats : (s.sessions.map (·.1)).Nodup
  shown : s.shown.map (·.1) = s.sessions.map (·.1)
  distinct : (s.handles.map (·.2.holding.own)).Nodup
  natives : ∀ entry ∈ s.handles, ∃ x, s.library.native? entry.2.holding.own = some x

variable {s s' : State} {st : Step} {name : String}

/-! ## What an object does -/

theorem tellAllMqtt_eq (s : State) (ds : List (Delivery Receiver)) :
    s.tellAllMqtt ds = s.tellAll (ds.map fun d => (d.receiver, .mqtt d.signal)) := by
  rw [tellAll, List.foldl_map]
  rfl

theorem tellAllJobs_eq (s : State) (ds : List (Receiver × Jobs.Signal)) :
    s.tellAllJobs ds = s.tellAll (ds.map fun d => (d.1, .jobs d.2)) := by
  rw [tellAll, List.foldl_map]
  rfl

theorem tellAllListener_eq (s : State) (ds : List (Receiver × Tunnel.Listener.Signal)) :
    s.tellAllListener ds = s.tellAll (ds.map fun d => (d.1, .listener d.2)) := by
  rw [tellAll, List.foldl_map]
  rfl

theorem note_withLibrary (s : State) (line : Log.Line) (library : Library Receiver) :
    (s.note line).withLibrary library = (s.withLibrary library).note line :=
  apply_ite (fun s : State => s.withLibrary library) ..

theorem noteAll_withLibrary (s : State) (lines : List Log.Line) (library : Library Receiver) :
    (s.noteAll lines).withLibrary library = (s.withLibrary library).noteAll lines := by
  induction lines generalizing s with
  | nil => rfl
  | cons line lines ih => exact (ih _).trans (congrArg (noteAll · lines) (s.note_withLibrary ..))

/-- No deeds. -/
theorem work_nil {h : Holding} {x : Native Receiver} (hnative : s.library.native? h.own = some x) :
    s.work name h x [] = s := by
  have hput : s.library.putNative h.own.number x = s.library := by
    refine putNative_self ?_
    rwa [sort_of_native? hnative]
  show s.withLibrary (s.library.putNative h.own.number x) = s
  rw [hput]
  rfl

theorem work_singleton (s : State) (name : String) (h : Holding) (x : Native Receiver) (d : Deed) :
    s.work name h x [d] =
      (s.withLibrary (s.library.putNative h.own.number
        (x.act s.library.faults (s.receiverOf name h) d).1)).tellAll
          (x.act s.library.faults (s.receiverOf name h) d).2 := by
  rw [work, Native.does_singleton]

/-! ## Objects that were looked up -/

theorem decoded_eq_ok {α : Type} [Coded α] {n : ℤ} {a : α} (h : decoded n = .ok a) :
    Coded.decode n = .ok a := by
  unfold decoded at h
  generalize (Coded.decode n : Except UnknownCode α) = r at h ⊢
  cases r with
  | error e => cases h
  | ok b => exact congrArg Except.ok (Except.ok.inj h)

theorem orRefuse_eq_ok {α : Type} {e : Except Refusal α} {a : α} (h : orRefuse e = .ok a) :
    e = .ok a := by
  cases e with
  | error r => cases h
  | ok b => exact congrArg Except.ok (Except.ok.inj h)

theorem clientOf_eq_ok {i : ℕ} (h : s.clientOf name = .ok i) :
    s.handles.lookup name = some ⟨.client i, false⟩ := by
  obtain ⟨⟨⟨holding, dropped⟩, j⟩, hfound, h⟩ := bind_eq_ok.1 h
  obtain ⟨hlookUp, rfl⟩ := lookUpLive_eq_ok hfound
  obtain ⟨hlookup, hnumber⟩ := lookUp_eq_ok hlookUp
  dsimp only at h
  split at h
  · exact absurd h throw_ne_ok
  · next hraw =>
    obtain rfl : j = i := Except.ok.inj h
    cases holding with
    | client k =>
      obtain rfl : k = j := Option.some.inj hnumber
      exact hlookup
    | rawConnection k => exact absurd rfl hraw
    | queue | job | rawJobs | listener | tunnel | rawTunnel => cases hnumber

/-- The object of a handle that was not dropped is alive. -/
theorem Sound.alive (h : Sound s) {holding : Holding}
    (hlookup : s.handles.lookup name = some ⟨holding, false⟩) :
    0 < s.library.holders holding.own := by
  rw [h.accounts.count]
  exact List.count_pos_iff.2 (mem_held (mem_of_lookup hlookup) rfl holding.own_mem_objects)

theorem Sound.client (h : Sound s) {i : ℕ} (hi : s.clientOf name = .ok i) :
    ∃ k, s.library.connections.get? i = some k :=
  Shelf.get?_of_holders (h.alive (clientOf_eq_ok hi))

theorem number?_of_object {α : Type} {number : Holding → Option ℕ} {shelf : Simulated.Shelf α}
    {p : ℕ × α} (h : s.object name number shelf = .ok p) :
    ∃ handle, s.handles.lookup name = some handle ∧ number handle.holding = some p.1 := by
  obtain ⟨⟨handle, hlookUp⟩, -⟩ := object_eq_ok h
  exact ⟨handle, lookUp_eq_ok hlookUp⟩

/-! ## Effects of one deed -/

/-- A deed of the object of a handle. -/
theorem Effect.of_deed {handle : Handle} {x : Native Receiver} {d : Deed} {i : ℕ}
    (hworker : st.worker? = some name) (hlookup : s.handles.lookup name = some handle)
    (hown : handle.holding.own = ⟨x.sort, i⟩) (hnative : s.library.native? ⟨x.sort, i⟩ = some x)
    (hdeeds : st.deeds handle.holding = [d]) (lines : List Log.Line)
    (hs' : s' = ((s.withLibrary (s.library.putNative i
      (x.act s.library.faults (s.receiverOf name handle.holding) d).1)).tellAll
        (x.act s.library.faults (s.receiverOf name handle.holding) d).2).noteAll lines) :
    Effect s st s' := by
  have hwork := Effect.works hworker hlookup (hown ▸ hnative) lines
  rwa [hdeeds, work_singleton, hown, ← hs'] at hwork

/-- Whether a number is that of the object behind a handle, which is `x`. -/
def Found (s : State) (name : String) (i : ℕ) (x : Native Receiver) : Prop :=
  ∃ handle, s.handles.lookup name = some handle ∧ handle.holding.own = ⟨x.sort, i⟩ ∧
    s.library.native? ⟨x.sort, i⟩ = some x

theorem found_connection {p : ℕ × Simulated.Connection Receiver}
    (h : s.connectionOf name = .ok p) : s.Found name p.1 (.connection p.2) := by
  obtain ⟨handle, hlookup, hnumber⟩ := number?_of_object h
  exact ⟨handle, hlookup, (Holding.number?_eq_some .connection).1 hnumber,
    native?_connection (object_eq_ok h).2⟩

theorem found_jobsClient {p : ℕ × JobsClient Receiver} (h : s.jobsClientOf name = .ok p) :
    s.Found name p.1 (.jobsClient p.2) := by
  obtain ⟨handle, hlookup, hnumber⟩ := number?_of_object h
  exact ⟨handle, hlookup, (Holding.number?_eq_some .jobsClient).1 hnumber,
    native?_jobsClient (object_eq_ok h).2⟩

theorem found_listener {p : ℕ × TunnelingClient Receiver} (h : s.listenerOf name = .ok p) :
    s.Found name p.1 (.tunnelingClient p.2) := by
  obtain ⟨handle, hlookup, hnumber⟩ := number?_of_object h
  exact ⟨handle, hlookup, (Holding.number?_eq_some .tunnelingClient).1 hnumber,
    native?_tunnelingClient (object_eq_ok h).2⟩

theorem found_tunnel {p : ℕ × Simulated.Tunnel Receiver} (h : s.tunnelOf name = .ok p) :
    s.Found name p.1 (.tunnel p.2) := by
  obtain ⟨handle, hlookup, hnumber⟩ := number?_of_object h
  exact ⟨handle, hlookup, (Holding.number?_eq_some .tunnel).1 hnumber,
    native?_tunnel (object_eq_ok h).2⟩

/-- A deed of an object that was found. -/
theorem Effect.of_found {x y : Native Receiver} {i : ℕ} {d : Deed} {told : List (Receiver × News)}
    (hfound : s.Found name i x) (hworker : st.worker? = some name)
    (hdeeds : ∀ h : Holding, h.own.sort = x.sort → st.deeds h = [d])
    (hact : ∀ r, x.act s.library.faults r d = (y, told))
    (hs' : s' = (s.withLibrary (s.library.putNative i y)).tellAll told) : Effect s st s' := by
  obtain ⟨handle, hlookup, hown, hnative⟩ := hfound
  refine .of_deed hworker hlookup hown hnative (hdeeds _ (congrArg Object.sort hown)) [] ?_
  rw [hact]
  exact hs'

/-- An event of it, which leaves it as it is. -/
theorem Effect.of_event {x : Native Receiver} {i : ℕ} {d : Deed} {told : List (Receiver × News)}
    (hfound : s.Found name i x) (hworker : st.worker? = some name)
    (hdeeds : ∀ h : Holding, h.own.sort = x.sort → st.deeds h = [d])
    (hact : ∀ r, x.act s.library.faults r d = (x, told)) (hs' : s' = s.tellAll told) :
    Effect s st s' := by
  obtain ⟨-, -, -, hnative⟩ := id hfound
  refine .of_found hfound hworker hdeeds hact ?_
  rw [putNative_self hnative]
  exact hs'

/-! ## Operations of clients -/

theorem effect_onConnection {α : Type} (hsound : Sound s) (hworker : st.worker? = some name) {i : ℕ}
    (hi : s.clientOf name = .ok i) {d : Deed} (hdeeds : st.deeds (.client i) = [d]) (absent : α)
    {operation : Endpoint Receiver → Reply (Endpoint Receiver) α}
    (hact : ∀ k : Simulated.Connection Receiver,
      k.act s.library.faults (s.receiverOf name (.client i)) d =
        ((operation ⟨k, s.library.faults⟩).connection.connection, [])) :
    Effect s st (s.onConnection i absent operation).1 := by
  obtain ⟨k, hget⟩ := hsound.client hi
  refine .of_deed (x := .connection k) hworker (clientOf_eq_ok hi) rfl (native?_connection hget)
    hdeeds (operation ⟨k, s.library.faults⟩).notes ?_
  rw [onConnection_of_get? hget, Native.act, hact]
  rfl

/-- Operations of a client, whatever is noted of them. -/
theorem effect_operations (hworker : st.worker? = some name) {i : ℕ}
    (hi : s.clientOf name = .ok i) {k : Simulated.Connection Receiver}
    (hget : s.library.connections.get? i = some k) {ops : List (Link.Operation Unit)}
    (hdeeds : st.deeds (.client i) = ops.map .operate) {lines : List Log.Line}
    (hs' : s' = (s.withLibrary (s.library.putConnection i
      (k.performAll s.library.faults (s.clientReceiver name) ops))).noteAll lines) :
    Effect s st s' := by
  have hwork := Effect.works hworker (clientOf_eq_ok hi) (native?_connection hget) lines
  rw [hdeeds, work, Native.does_operations] at hwork
  rwa [hs']

theorem noteAll_noteAll (s : State) (lines more : List Log.Line) :
    (s.noteAll lines).noteAll more = s.noteAll (lines ++ more) :=
  List.foldl_append.symm

theorem noteAll_library (s : State) (lines : List Log.Line) :
    (s.noteAll lines).library = s.library := by
  induction lines generalizing s with
  | nil => rfl
  | cons line lines ih => exact (ih _).trans (s.note_library line)

theorem noteAll_sessions (s : State) (lines : List Log.Line) :
    (s.noteAll lines).sessions = s.sessions := by
  induction lines generalizing s with
  | nil => rfl
  | cons line lines ih =>
    refine (ih _).trans ?_
    unfold note
    split <;> rfl

theorem publishTimes_eq (name : String) {i : ℕ} {k : Simulated.Connection Receiver}
    (hget : s.library.connections.get? i = some k) (topic : String) (qos : Qos) (retain : Bool)
    (payload : List UInt8) (times : ℕ) :
    ∃ lines, (s.publishTimes name i topic qos retain payload times).1 =
      (s.withLibrary (s.library.putConnection i (k.performAll s.library.faults
        (s.clientReceiver name)
        (List.replicate times (.publish topic qos retain payload ()))))).noteAll lines := by
  induction times generalizing s k with
  | zero =>
    refine ⟨[], ?_⟩
    have hput : s.library.putConnection i k = s.library :=
      putNative_self (x := .connection k) (native?_connection hget)
    show s = s.withLibrary (s.library.putConnection i k)
    rw [hput]
    rfl
  | succ times ih =>
    let k' := (k.perform s.library.faults (.publish topic qos retain payload
      (s.clientReceiver name))).1
    let notes := (Client.publish (⟨k, s.library.faults⟩ : Endpoint Receiver)
      (s.clientReceiver name) topic qos retain (Buffer.borrowed payload)).notes
    -- One more publish at the front: what it notes stands before the notes of the others.
    have hnext : (s.publishTimes name i topic qos retain payload (times + 1)).1 =
        ((s.publish name i topic qos retain payload).1.publishTimes name i topic qos retain payload
          times).1 := by
      cases times <;> rfl
    have hpublish : (s.publish name i topic qos retain payload).1 =
        (s.withLibrary (s.library.putConnection i k')).noteAll notes := by
      rw [publish, onConnection_of_get? hget]
      rfl
    generalize hs₁ : (s.publish name i topic qos retain payload).1 = s₁ at hpublish
    have hlibrary : s₁.library = s.library.putConnection i k' := by
      rw [hpublish, noteAll_library]
      rfl
    have hreceiver : s₁.clientReceiver name = s.clientReceiver name := by
      rw [clientReceiver, hpublish, noteAll_sessions]
      rfl
    have hget₁ : s₁.library.connections.get? i = some k' := hlibrary ▸ Shelf.get?_put hget k'
    obtain ⟨lines, hlines⟩ := ih hget₁
    refine ⟨notes ++ lines, ?_⟩
    have hput := putNative_putNative (l := s.library) (i := i) (x := .connection k')
      (y := .connection (k'.performAll s.library.faults (s.clientReceiver name)
        (List.replicate times (.publish topic qos retain payload ())))) rfl
    rw [hnext, hs₁, hlines, hlibrary, hreceiver, hpublish, noteAll_withLibrary, noteAll_noteAll]
    exact congrArg (fun l => (s.withLibrary l).noteAll (notes ++ lines)) hput

/-- The agent subscribes its topics at every event that calls for it. -/
theorem handleAll_fst (k : Simulated.Connection Receiver) (faults : Faults) (r : Receiver)
    (topics : List String) (qos : Qos) (events : List Agent.Event) :
    (Agent.handleAll (⟨k, faults⟩ : Endpoint Receiver) r topics qos events).1 =
      ⟨k.performAll faults r ((events.filter (·.wantsTopics)).map fun _ =>
        .subscribeMany (topics.map (·, ())) qos ()), faults⟩ := by
  induction events generalizing k with
  | nil => rfl
  | cons e events ih =>
    have hhandle : (Agent.handle (⟨k, faults⟩ : Endpoint Receiver) r topics qos e).connection =
        ⟨if e.wantsTopics then (k.perform faults (.subscribeMany (topics.map (·, r)) qos r)).1
          else k, faults⟩ := by
      unfold Agent.handle Agent.subscribeAll
      cases e.wantsTopics with
      | false => rfl
      | true =>
        cases topics with
        | nil => rfl
        | cons topic topics => rfl
    simp only [Agent.handleAll, hhandle, ih]
    cases he : e.wantsTopics with
    | false => simp [he]
    | true => simp [he, Simulated.Connection.performAll, Link.Operation.map, Function.comp_def]

theorem Apart.native (h : s.Apart) {handle : Handle}
    (hlookup : s.handles.lookup name = some handle) :
    ∃ x, s.library.native? handle.holding.own = some x :=
  h.natives _ (mem_of_lookup hlookup)

theorem Apart.handle_of_seat (h : s.Apart) (hmem : name ∈ s.sessions.map (·.1)) :
    ∃ handle, s.handles.lookup name = some handle := by
  obtain ⟨entry, hentry, rfl⟩ := List.mem_map.1 (h.seated name hmem)
  exact Option.isSome_iff_exists.1 (List.lookup_isSome_iff.2 ⟨entry, hentry, by simp⟩)

theorem Apart.handle_of_shown (h : s.Apart) {events : List Agent.Event}
    (hshown : s.shown.lookup name = some events) :
    ∃ handle, s.handles.lookup name = some handle := by
  have hmem : name ∈ s.shown.map (·.1) := List.mem_map_of_mem (mem_of_lookup hshown)
  exact h.handle_of_seat (h.shown ▸ hmem)

theorem effect_handleEvents (h : s.Apart) (topics : List String) (code : ℤ) :
    Leads (Effect s (.handleEvents name topics code)) (s.stepHandleEvents name topics code) := by
  refine leads_bind fun qos hqos => ?_
  split
  · exact leads_throw _
  · next events hshown =>
    obtain ⟨handle, hlookup⟩ := h.handle_of_shown hshown
    obtain ⟨x, hnative⟩ := h.native hlookup
    have heffect := @Effect.handles s name handle x topics code qos events hlookup hnative
      (decoded_eq_ok hqos) hshown
    dsimp only
    split
    · next answer hclient =>
      -- Without its client the session has nobody to act for it.
      have hnone : handlings handle topics qos events = [] := by
        unfold handlings
        split
        · rfl
        · next hlive =>
          obtain ⟨holding, dropped⟩ := handle
          obtain rfl : dropped = false := Bool.eq_false_iff.2 hlive
          cases holding with
          | client i =>
            have hok : (s.taken name).clientOf name = .ok i := clientOf_of_lookup hlookup
            exact absurd (hclient.symm.trans hok) nofun
          | _ => rfl
      refine leads_pure ?_
      have hnothing := heffect []
      rwa [hnone, work_nil (s := s.taken name) hnative] at hnothing
    · next i hclient =>
      have hclient : s.clientOf name = .ok i := hclient
      obtain ⟨k, hget⟩ := h.sound.client hclient
      obtain rfl := Option.some.inj (hlookup.symm.trans (clientOf_eq_ok hclient))
      obtain rfl := Option.some.inj (hnative.symm.trans (native?_connection hget))
      refine leads_pure ?_
      have hdeeds : handlings ⟨.client i, false⟩ topics qos events =
          ((events.filter (·.wantsTopics)).map fun _ =>
            Link.Operation.subscribeMany (topics.map (·, ())) qos ()).map .operate := by
        rw [List.map_map]
        rfl
      have hendpoint : (s.taken name).library.endpoint? i = some ⟨k, s.library.faults⟩ := by
        rw [Library.endpoint?, show (s.taken name).library = s.library from rfl, hget]
        rfl
      have hall := handleAll_fst k s.library.faults ((s.taken name).clientReceiver name) topics qos
        events
      generalize hresult : Agent.handleAll (⟨k, s.library.faults⟩ : Endpoint Receiver)
        ((s.taken name).clientReceiver name) topics qos events = result at hall
      have hstep := heffect result.2.2
      rw [hdeeds, work, Native.does_operations] at hstep
      show Effect s _ ((s.taken name).handleEvents name i topics qos events).1
      rw [handleEvents, hendpoint]
      simp only [hresult, hall]
      exact hstep

/-! ## Requests -/

theorem Sound.lookUpLive (h : Sound s) (sort : ObjectSort) {found : Handle × ℕ}
    (hfound : s.lookUpLive name (Holding.number? sort) = .ok found) :
    s.handles.lookup name = some found.1 ∧ found.1.holding.own = ⟨sort, found.2⟩ ∧
      0 < s.library.holders ⟨sort, found.2⟩ := by
  obtain ⟨hlookUp, hlive⟩ := lookUpLive_eq_ok hfound
  obtain ⟨hlookup, hnumber⟩ := lookUp_eq_ok hlookUp
  obtain ⟨⟨holding, dropped⟩, i⟩ := found
  obtain rfl : dropped = false := hlive
  have hown := (Holding.number?_eq_some sort).1 hnumber
  exact ⟨hlookup, hown, hown ▸ h.alive hlookup⟩

theorem effect_request (hsound : Sound s) (hworker : st.worker? = some name) {found : Handle × ℕ}
    (hfound : s.lookUpLive name Holding.jobsClient? = .ok found) {r : Jobs.Request} {qos : Qos}
    {token : Token} (hdeeds : st.deeds found.1.holding = [.request r qos token]) :
    Effect s st (s.request found.2 r qos token (s.receiverOf name found.1.holding)).1 := by
  obtain ⟨hlookup, hown, halive⟩ := hsound.lookUpLive .jobsClient hfound
  obtain ⟨c, hget⟩ := Shelf.get?_of_holders (s := s.library.jobsClients) halive
  refine .of_deed (x := .jobsClient c) hworker hlookup hown (native?_jobsClient hget) hdeeds [] ?_
  simp only [request, hget]
  rfl

theorem effect_sendRequest (hsound : Sound s) (hworker : st.worker? = some name)
    {found : Handle × ℕ} (hfound : s.lookUpLive name Holding.jobsClient? = .ok found)
    {r : Jobs.Request} {qos : Qos} {token : Token}
    (hdeeds : st.deeds found.1.holding = [.request r qos token]) (refused : Log.Line) :
    Effect s st
      (s.sendRequest found.2 r qos token (s.receiverOf name found.1.holding) refused).1 := by
  obtain ⟨hlookup, hown, halive⟩ := hsound.lookUpLive .jobsClient hfound
  obtain ⟨c, hget⟩ := Shelf.get?_of_holders (s := s.library.jobsClients) halive
  refine .of_deed (x := .jobsClient c) hworker hlookup hown (native?_jobsClient hget) hdeeds
    (if (c.publish s.library.faults r qos token (s.receiverOf name found.1.holding)).2 then []
      else [refused]) ?_
  simp only [sendRequest, request, hget]
  split <;> rfl

/-! ## Tunnels -/

theorem effect_onTunnel (hsound : Sound s) (hworker : st.worker? = some name) {found : Handle × ℕ}
    (hfound : s.lookUpLive name Holding.tunnel? = .ok found) {d : Deed}
    (hdeeds : ∀ h : Holding, h.own.sort = .tunnel → st.deeds h = [d])
    {call : Simulated.Tunnel Receiver → Simulated.Tunnel Receiver × ℤ}
    (hact : ∀ t : Simulated.Tunnel Receiver, t.act s.library.faults d = ((call t).1, []))
    (lines : List Log.Line) :
    Effect s st ((s.onTunnel found.2 call).1.noteAll lines) := by
  obtain ⟨hlookup, hown, halive⟩ := hsound.lookUpLive .tunnel hfound
  obtain ⟨t, hget⟩ := Shelf.get?_of_holders (s := s.library.tunnels) halive
  refine .of_deed (x := .tunnel t) hworker hlookup hown (native?_tunnel hget)
    (hdeeds _ (congrArg Object.sort hown)) lines ?_
  simp only [onTunnel, hget, Native.act, hact]
  rfl

theorem startTunnel_fst (s : State) (t : ℕ) (throughHandle : Bool) : ∃ lines,
    (s.startTunnel t throughHandle).1 =
      (s.onTunnel t (·.start s.library.faults)).1.noteAll lines := by
  unfold startTunnel
  dsimp only
  split
  · exact ⟨[_], rfl⟩
  · exact ⟨[], rfl⟩

theorem stopTunnel_fst (s : State) (t : ℕ) (throughHandle : Bool) : ∃ lines,
    (s.stopTunnel t throughHandle).1 = (s.onTunnel t (·.stop)).1.noteAll lines := by
  unfold stopTunnel
  dsimp only
  split
  · exact ⟨[_], rfl⟩
  · exact ⟨[], rfl⟩

end State

end DeviceLink.Bench
