import DeviceLink.Proofs.Bench.Audience
import DeviceLink.Proofs.Bench.Firing
/-!
# Panics of users are contained

Every step goes its own way whoever the users are, so a run in which some callbacks panic is the
run in which none does, but for what is taken down: a note in the place of every callback that
panicked.
-/

namespace DeviceLink.Bench

open Mqtt Simulated

/-- Whether a step changes how users react. -/
def Step.recasts : Step → Bool
  | .panicOn .. => true
  | _ => false

namespace State

/-! ## Two benches side by side -/

/-- Every session of an agent is that of a handle. -/
def Seated (s : State) : Prop := ∀ name ∈ s.sessions.map (·.1), name ∈ s.handles.map (·.1)

/-- One bench with users of two kinds, to whom the same has happened since they were `u` and
`v`. -/
inductive Beside (limits : Log.Limits) (u v : Audience) : State → State → Prop
  | both (s : State) (h : s.limits = limits) (hseated : s.Seated) (hs : List Happening) :
    Beside limits u v (s.under (u.meetAll limits hs)) (s.under (v.meetAll limits hs))

/-- The same of benches with an answer, which is one. -/
def BesideWith (limits : Log.Limits) (u v : Audience) {α : Type} (r r' : State × α) : Prop :=
  Beside limits u v r.1 r'.1 ∧ r'.2 = r.2

/-- The same of steps: both are refused, or none is. -/
inductive BesideTried (limits : Log.Limits) (u v : Audience) :
    Attempt (State × Answer) → Attempt (State × Answer) → Prop
  | refused (answer : Answer) : BesideTried limits u v (.error answer) (.error answer)
  | done {r r' : State × Answer} (h : BesideWith limits u v r r') :
    BesideTried limits u v (.ok r) (.ok r')

section

variable {limits : Log.Limits} {u v : Audience} {s t : State}

namespace Beside

theorem library (h : Beside limits u v s t) : t.library = s.library := by cases h; rfl

theorem handles (h : Beside limits u v s t) : t.handles = s.handles := by cases h; rfl

theorem made (h : Beside limits u v s t) : t.made = s.made := by cases h; rfl

theorem sessions (h : Beside limits u v s t) : t.sessions = s.sessions := by cases h; rfl

theorem shown (h : Beside limits u v s t) : t.shown = s.shown := by cases h; rfl

theorem exists_under (h : Beside limits u v s t) : ∃ (s' : State) (hs : List Happening),
    s'.Seated ∧ s = s'.under (u.meetAll limits hs) ∧ t = s'.under (v.meetAll limits hs) := by
  cases h with
  | both s' h hseated hs => exact ⟨s', hs, hseated, rfl, rfl⟩

theorem answer (h : Beside limits u v s t) {α : Type} (a : α) :
    BesideWith limits u v (s, a) (t, a) :=
  ⟨h, rfl⟩

/-! ## Changes outside the users' side -/

theorem withLibrary (h : Beside limits u v s t) (library : Library Receiver) :
    Beside limits u v (s.withLibrary library) (t.withLibrary library) := by
  cases h with
  | both s h hseated hs => exact .both (s.withLibrary library) h hseated hs

theorem withFaults (h : Beside limits u v s t) (faults : Faults) :
    Beside limits u v (s.withFaults faults) (t.withFaults faults) := by
  cases h with
  | both s h hseated hs => exact .both (s.withFaults faults) h hseated hs

theorem addHandle (h : Beside limits u v s t) (name : String) (holding : Holding) :
    Beside limits u v (s.addHandle name holding) (t.addHandle name holding) := by
  cases h with
  | both s h hseated hs =>
    refine .both (s.addHandle name holding) h (fun n hn => ?_) hs
    rw [State.addHandle, List.map_append]
    exact List.mem_append_left _ (hseated n hn)

theorem addSession (h : Beside limits u v s t) (session : Bool) {name : String}
    (hname : name ∈ s.handles.map (·.1)) :
    Beside limits u v
      { s with sessions := if session then s.sessions ++ [(name, {})] else s.sessions }
      { t with sessions := if session then t.sessions ++ [(name, {})] else t.sessions } := by
  cases h with
  | both s h hseated hs =>
    refine .both { s with sessions := if session then s.sessions ++ [(name, {})] else s.sessions }
      h (fun n hn => ?_) hs
    cases session with
    | false => exact hseated n hn
    | true =>
      obtain hn | hn := List.mem_append.1 (List.map_append ▸ hn)
      · exact hseated n hn
      · exact List.mem_singleton.1 hn ▸ hname

theorem mapSession (h : Beside limits u v s t) (name : String)
    (f : Agent.Session → Agent.Session) :
    Beside limits u v
      { s with sessions := s.sessions.map fun (n, session) =>
          if n = name then (n, f session) else (n, session) }
      { t with sessions := t.sessions.map fun (n, session) =>
          if n = name then (n, f session) else (n, session) } := by
  cases h with
  | both s h hseated hs =>
    refine .both { s with sessions := s.sessions.map fun (n, session) =>
      if n = name then (n, f session) else (n, session) } h (fun n hn => ?_) hs
    obtain ⟨_, hy, rfl⟩ := List.mem_map.1 hn
    obtain ⟨x, hx, rfl⟩ := List.mem_map.1 hy
    have hfst : (if x.1 = name then (x.1, f x.2) else (x.1, x.2)).1 = x.1 := by split <;> rfl
    exact hfst ▸ hseated x.1 (List.mem_map_of_mem hx)

theorem withShown (h : Beside limits u v s t) (shown : List (String × List Agent.Event)) :
    Beside limits u v { s with shown } { t with shown } := by
  cases h with
  | both s h hseated hs => exact .both { s with shown } h hseated hs

theorem tellRaw (h : Beside limits u v s t) (r : Raw) :
    Beside limits u v (s.tellRaw r) (t.tellRaw r) := by
  cases h with
  | both s h hseated hs => exact .both (s.tellRaw r) h hseated hs

theorem tellSession (h : Beside limits u v s t) (name : String) (c : Mqtt.Callback) :
    Beside limits u v (s.tellSession name c) (t.tellSession name c) :=
  h.mapSession name (·.tell c)

/-! ## Happenings -/

theorem note (h : Beside limits u v s t) (l : Log.Line) :
    Beside limits u v (s.note l) (t.note l) := by
  cases h with
  | both s h hseated hs =>
    rw [note_under, note_under, h, ← Audience.meetAll_append, ← Audience.meetAll_append]
    exact .both s h hseated _

theorem invoke (h : Beside limits u v s t) (name : String) (c : Callback) :
    Beside limits u v (s.invoke name c) (t.invoke name c) := by
  cases h with
  | both s h hseated hs =>
    rw [invoke_under, invoke_under, h, ← Audience.meetAll_append, ← Audience.meetAll_append]
    exact .both s h hseated _

theorem foldl {α : Type} {f : State → α → State}
    (hf : ∀ {s t}, Beside limits u v s t → ∀ a, Beside limits u v (f s a) (f t a))
    (h : Beside limits u v s t) (l : List α) : Beside limits u v (l.foldl f s) (l.foldl f t) := by
  induction l generalizing s t with
  | nil => exact h
  | cons a l ih => exact ih (hf h a)

theorem noteAll (h : Beside limits u v s t) (lines : List Log.Line) :
    Beside limits u v (s.noteAll lines) (t.noteAll lines) :=
  foldl note h lines

theorem tellMqtt (h : Beside limits u v s t) (d : Delivery Receiver) :
    Beside limits u v (s.tellMqtt d) (t.tellMqtt d) := by
  unfold State.tellMqtt
  cases d.receiver with
  | client name => exact foldl (fun h c => h.invoke name (.mqtt c)) (h.noteAll _) _
  | session name => exact foldl (fun h c => h.tellSession name c) (h.noteAll _) _
  | raw => exact h.tellRaw _
  | queue | job | listener | tunnel => exact h

theorem tellJobs (h : Beside limits u v s t) (receiver : Receiver) (signal : Jobs.Signal) :
    Beside limits u v (s.tellJobs receiver signal) (t.tellJobs receiver signal) := by
  unfold State.tellJobs
  cases receiver with
  | queue name =>
    dsimp only
    split
    · exact h.invoke ..
    · exact h
  | job name =>
    dsimp only
    split
    · exact h.invoke ..
    · exact h
  | raw => exact h.tellRaw _
  | client | session | listener | tunnel => exact h

theorem tellListener (h : Beside limits u v s t) (receiver : Receiver)
    (signal : Tunnel.Listener.Signal) :
    Beside limits u v (s.tellListener receiver signal) (t.tellListener receiver signal) := by
  unfold State.tellListener
  cases receiver with
  | listener name =>
    dsimp only
    split
    · exact h.invoke ..
    · exact h.note _
  | client | session | queue | job | tunnel | raw => exact h

theorem tellTunnel (h : Beside limits u v s t) (receiver : Receiver) (e : Tunnel.Event) :
    Beside limits u v (s.tellTunnel receiver e) (t.tellTunnel receiver e) := by
  unfold State.tellTunnel
  cases receiver with
  | tunnel name => exact h.invoke ..
  | raw => exact h.tellRaw _
  | client | session | queue | job | listener => exact h

theorem tellAllJobs (h : Beside limits u v s t) (ds : List (Receiver × Jobs.Signal)) :
    Beside limits u v (s.tellAllJobs ds) (t.tellAllJobs ds) :=
  foldl (fun h d => h.tellJobs d.1 d.2) h ds

theorem tellAllListener (h : Beside limits u v s t)
    (ds : List (Receiver × Tunnel.Listener.Signal)) :
    Beside limits u v (s.tellAllListener ds) (t.tellAllListener ds) :=
  foldl (fun h d => h.tellListener d.1 d.2) h ds

/-! ## Events -/

theorem fireLifecycle (h : Beside limits u v s t) (c : Simulated.Connection Receiver)
    (signal : Signal) :
    BesideWith limits u v (s.fireLifecycle c signal) (t.fireLifecycle c signal) :=
  (foldl tellMqtt h _).answer _

theorem receive (h : Beside limits u v s t) (c : Simulated.Connection Receiver) (m : Message) :
    BesideWith limits u v (s.receive c m) (t.receive c m) :=
  (foldl tellMqtt h _).answer _

theorem putConnection (h : Beside limits u v s t) (i : ℕ) (c : Simulated.Connection Receiver) :
    Beside limits u v (s.putConnection i c) (t.putConnection i c) := by
  unfold State.putConnection
  rw [h.library]
  exact h.withLibrary _

theorem ack (h : Beside limits u v s t) (i : ℕ) (c : Simulated.Connection Receiver) (id : ℕ)
    (code : ℤ) : BesideWith limits u v (s.ack i c id code) (t.ack i c id code) :=
  (foldl tellMqtt (h.putConnection i _) _).answer _

theorem ackAll (h : Beside limits u v s t) (i : ℕ) (c : Simulated.Connection Receiver)
    (code : ℤ) : BesideWith limits u v (s.ackAll i c code) (t.ackAll i c code) :=
  (foldl tellMqtt (h.putConnection i _) _).answer _

theorem completeSubscriptions (h : Beside limits u v s t) (j : ℕ) (c : JobsClient Receiver)
    (ioError : ℤ) : BesideWith limits u v (s.completeSubscriptions j c ioError)
      (t.completeSubscriptions j c ioError) := by
  unfold State.completeSubscriptions
  rw [h.library]
  exact ((h.withLibrary _).tellAllJobs _).answer _

theorem completePublishes (h : Beside limits u v s t) (j : ℕ) (c : JobsClient Receiver)
    (ioError : ℤ) :
    BesideWith limits u v (s.completePublishes j c ioError) (t.completePublishes j c ioError) := by
  unfold State.completePublishes
  rw [h.library]
  exact ((h.withLibrary _).tellAllJobs _).answer _

theorem fireJobs (h : Beside limits u v s t) (c : JobsClient Receiver) (e : Jobs.Event)
    (ioError : ℤ) : BesideWith limits u v (s.fireJobs c e ioError) (t.fireJobs c e ioError) :=
  (h.tellAllJobs _).answer _

theorem completeListeners (h : Beside limits u v s t) (i : ℕ) (c : TunnelingClient Receiver)
    (code : ℤ) :
    BesideWith limits u v (s.completeListeners i c code) (t.completeListeners i c code) := by
  unfold State.completeListeners
  rw [h.library]
  exact ((h.withLibrary _).tellAllListener _).answer _

theorem fireOpened (h : Beside limits u v s t) (c : TunnelingClient Receiver)
    (response : Option Tunnel.Opened) (ioError : ℤ) :
    BesideWith limits u v (s.fireOpened c response ioError) (t.fireOpened c response ioError) :=
  (h.tellAllListener _).answer _

theorem fireTunnel (h : Beside limits u v s t) (c : Simulated.Tunnel Receiver)
    (e : Tunnel.Event) : BesideWith limits u v (s.fireTunnel c e) (t.fireTunnel c e) := by
  unfold State.fireTunnel
  cases c.fire e with
  | some told => exact (h.tellTunnel ..).answer _
  | none => exact h.answer _

/-! ## Operations -/

theorem nextName (h : Beside limits u v s t) (sort : String) :
    t.nextName sort = s.nextName sort := by
  unfold State.nextName
  rw [h.made]

theorem clientReceiver (h : Beside limits u v s t) (name : String) :
    t.clientReceiver name = s.clientReceiver name := by
  unfold State.clientReceiver
  rw [h.sessions]

theorem onConnection {α : Type} (h : Beside limits u v s t) (i : ℕ) (absent : α)
    (operation : Endpoint Receiver → Reply (Endpoint Receiver) α) :
    BesideWith limits u v (s.onConnection i absent operation)
      (t.onConnection i absent operation) := by
  unfold State.onConnection
  rw [h.library]
  cases s.library.endpoint? i with
  | none => exact h.answer _
  | some endpoint => exact ((h.withLibrary _).noteAll _).answer _

theorem publish (h : Beside limits u v s t) (name : String) (i : ℕ) (topic : String) (qos : Qos)
    (retain : Bool) (payload : List UInt8) :
    BesideWith limits u v (s.publish name i topic qos retain payload)
      (t.publish name i topic qos retain payload) := by
  unfold State.publish
  rw [h.clientReceiver]
  exact h.onConnection ..

theorem publishTimes (h : Beside limits u v s t) (name : String) (i : ℕ) (topic : String)
    (qos : Qos) (retain : Bool) (payload : List UInt8) (times : ℕ) :
    BesideWith limits u v (s.publishTimes name i topic qos retain payload times)
      (t.publishTimes name i topic qos retain payload times) := by
  induction times generalizing s t with
  | zero => exact h.answer _
  | succ times ih =>
    have hfirst := h.publish name i topic qos retain payload
    cases times with
    | zero => exact hfirst
    | succ times => exact ih hfirst.1

theorem request (h : Beside limits u v s t) (j : ℕ) (r : Jobs.Request) (qos : Qos) (token : Token)
    (receiver : Receiver) :
    BesideWith limits u v (s.request j r qos token receiver)
      (t.request j r qos token receiver) := by
  unfold State.request
  rw [h.library]
  cases s.library.jobsClients.get? j with
  | none => exact h.answer _
  | some client => exact (h.withLibrary _).answer _

theorem sendRequest (h : Beside limits u v s t) (j : ℕ) (r : Jobs.Request) (qos : Qos)
    (token : Token) (receiver : Receiver) (refused : Log.Line) :
    BesideWith limits u v (s.sendRequest j r qos token receiver refused)
      (t.sendRequest j r qos token receiver refused) := by
  obtain ⟨hstate, hanswer⟩ := h.request j r qos token receiver
  unfold State.sendRequest
  dsimp only
  rw [hanswer]
  split
  · exact hstate.answer _
  · exact (hstate.note _).answer _

theorem subscribeRawJobs (h : Beside limits u v s t) (j : ℕ) (scope : Jobs.Scope)
    (topic : Jobs.Topic) : BesideWith limits u v (s.subscribeRawJobs j scope topic)
      (t.subscribeRawJobs j scope topic) := by
  unfold State.subscribeRawJobs
  rw [h.library]
  cases s.library.jobsClients.get? j with
  | none => exact h.answer _
  | some client => exact (h.withLibrary _).answer _

theorem onTunnel (h : Beside limits u v s t) (i : ℕ)
    (call : Simulated.Tunnel Receiver → Simulated.Tunnel Receiver × ℤ) :
    BesideWith limits u v (s.onTunnel i call) (t.onTunnel i call) := by
  unfold State.onTunnel
  rw [h.library]
  cases s.library.tunnels.get? i with
  | none => exact h.answer _
  | some tunnel => exact (h.withLibrary _).answer _

theorem startTunnel (h : Beside limits u v s t) (i : ℕ) (throughHandle : Bool) :
    BesideWith limits u v (s.startTunnel i throughHandle) (t.startTunnel i throughHandle) := by
  obtain ⟨hstate, hanswer⟩ := h.onTunnel i (·.start s.library.faults)
  unfold State.startTunnel
  rw [h.library]
  dsimp only
  rw [hanswer]
  split
  · exact (hstate.note _).answer _
  · exact hstate.answer _

theorem stopTunnel (h : Beside limits u v s t) (i : ℕ) (throughHandle : Bool) :
    BesideWith limits u v (s.stopTunnel i throughHandle) (t.stopTunnel i throughHandle) := by
  obtain ⟨hstate, hanswer⟩ := h.onTunnel i (·.stop)
  unfold State.stopTunnel
  dsimp only
  rw [hanswer]
  split
  · exact (hstate.note _).answer _
  · exact hstate.answer _

theorem handleEvents (h : Beside limits u v s t) (name : String) (i : ℕ) (topics : List String)
    (qos : Qos) (events : List Agent.Event) :
    BesideWith limits u v (s.handleEvents name i topics qos events)
      (t.handleEvents name i topics qos events) := by
  unfold State.handleEvents
  rw [h.library, h.clientReceiver]
  cases s.library.endpoint? i with
  | none => exact h.answer _
  | some endpoint => exact ((h.withLibrary _).noteAll _).answer _

/-! ## Builders -/

theorem newClient (h : Beside limits u v s t) (config : ClientConfig) (session : Bool) :
    BesideWith limits u v (s.newClient config session) (t.newClient config session) := by
  have hnoted := h.note Client.startNote
  unfold State.newClient
  dsimp only
  rw [hnoted.library, hnoted.nextName]
  split
  · exact hnoted.answer _
  · split
    · exact hnoted.answer _
    · split
      · exact (hnoted.withLibrary _).answer _
      · exact (((hnoted.withLibrary _).addHandle ..).addSession session
          (by simp [State.addHandle])).answer _

theorem newRawConnection (h : Beside limits u v s t) (draft : Draft)
    (lifecycle : Lifecycle Receiver) :
    BesideWith limits u v (s.newRawConnection draft lifecycle)
      (t.newRawConnection draft lifecycle) := by
  unfold State.newRawConnection
  rw [h.library, h.nextName]
  split
  · exact h.answer _
  · split
    · exact h.answer _
    · exact ((h.withLibrary _).addHandle ..).answer _

theorem subscribedJobsClient (h : Beside limits u v s t) (scope : Jobs.Scope)
    (topics : List Jobs.Topic) (receiver : Receiver) :
    BesideWith limits u v (s.subscribedJobsClient scope topics receiver)
      (t.subscribedJobsClient scope topics receiver) := by
  unfold State.subscribedJobsClient
  rw [h.library]
  split
  · exact h.answer _
  · dsimp only
    split <;> exact (h.withLibrary _).answer _

/-- A handle on jobs, once its client has been made or refused. -/
theorem handled {r r' : State × Except ClientError ℕ} (h : BesideWith limits u v r r')
    (connection : ℕ) (name : String) (holding : ℕ → Holding) :
    BesideWith limits u v
      (match r.2 with
        | .error e => (r.1, .error e)
        | .ok j => ((r.1.withLibrary (r.1.library.retainConnection connection)).addHandle name
            (holding j), .ok name))
      (match r'.2 with
        | .error e => (r'.1, .error e)
        | .ok j => ((r'.1.withLibrary (r'.1.library.retainConnection connection)).addHandle name
            (holding j), Except.ok name)) := by
  obtain ⟨hstate, hmade⟩ := h
  rw [hmade, hstate.library]
  cases r.2 with
  | error e => exact hstate.answer _
  | ok j => exact ((hstate.withLibrary _).addHandle ..).answer _

theorem newQueue (h : Beside limits u v s t) (connection : ℕ) (thing : String) :
    BesideWith limits u v (s.newQueue connection thing) (t.newQueue connection thing) := by
  have hnoted := h.note (Jobs.Queue.startNote thing)
  unfold State.newQueue
  dsimp only
  rw [hnoted.nextName]
  exact handled (hnoted.subscribedJobsClient ..) connection _ fun j => .queue j connection thing

theorem newJob (h : Beside limits u v s t) (connection : ℕ) (thing job : String) :
    BesideWith limits u v (s.newJob connection thing job) (t.newJob connection thing job) := by
  have hnoted := h.note (Jobs.Job.startNote thing job)
  unfold State.newJob
  dsimp only
  rw [hnoted.nextName]
  exact handled (hnoted.subscribedJobsClient ..) connection _ fun j =>
    .job j connection thing job

theorem newRawJobs (h : Beside limits u v s t) :
    BesideWith limits u v s.newRawJobs t.newRawJobs := by
  unfold State.newRawJobs
  rw [h.library, h.nextName]
  split
  · exact h.answer _
  · exact ((h.withLibrary _).addHandle ..).answer _

theorem newListener (h : Beside limits u v s t) (connection : ℕ) (thing : String) (qos : Qos) :
    BesideWith limits u v (s.newListener connection thing qos)
      (t.newListener connection thing qos) := by
  have hnoted := h.note (Tunnel.Listener.startNote thing)
  unfold State.newListener
  dsimp only
  rw [hnoted.library, hnoted.nextName]
  split
  · exact hnoted.answer _
  · split
    · exact ((hnoted.withLibrary _).addHandle ..).answer _
    · exact (hnoted.withLibrary _).answer _

theorem newTunnel (h : Beside limits u v s t) (endpoint accessToken : String)
    (mode : Tunnel.Mode) : BesideWith limits u v (s.newTunnel endpoint accessToken mode)
      (t.newTunnel endpoint accessToken mode) := by
  have hnoted := h.note (Tunnel.startNote endpoint mode)
  unfold State.newTunnel
  dsimp only
  rw [hnoted.library, hnoted.nextName]
  split
  · exact hnoted.answer _
  · exact ((hnoted.withLibrary _).addHandle ..).answer _

theorem newRawTunnel (h : Beside limits u v s t) (draft : Tunnel.Draft Receiver) :
    BesideWith limits u v (s.newRawTunnel draft) (t.newRawTunnel draft) := by
  unfold State.newRawTunnel
  rw [h.library, h.nextName]
  split
  · exact h.answer _
  · exact ((h.withLibrary _).addHandle ..).answer _

theorem dropHandle (h : Beside limits u v s t) (name : String) (handle : Handle) :
    Beside limits u v (s.dropHandle name handle) (t.dropHandle name handle) := by
  cases h with
  | both s h hseated hs =>
    refine .both (s.dropHandle name handle) h (fun n hn => ?_) hs
    show n ∈ (marked s.handles name).map (·.1)
    rw [map_fst_marked]
    exact hseated n hn

/-! ## Lookups -/

theorem lookUpLive (h : Beside limits u v s t) (name : String) (number : Holding → Option ℕ) :
    t.lookUpLive name number = s.lookUpLive name number := by cases h; rfl

theorem clientOf (h : Beside limits u v s t) (name : String) :
    t.clientOf name = s.clientOf name := by cases h; rfl

theorem connectionOf (h : Beside limits u v s t) (name : String) :
    t.connectionOf name = s.connectionOf name := by cases h; rfl

theorem jobsClientOf (h : Beside limits u v s t) (name : String) :
    t.jobsClientOf name = s.jobsClientOf name := by cases h; rfl

theorem listenerOf (h : Beside limits u v s t) (name : String) :
    t.listenerOf name = s.listenerOf name := by cases h; rfl

theorem tunnelOf (h : Beside limits u v s t) (name : String) :
    t.tunnelOf name = s.tunnelOf name := by cases h; rfl

end Beside

/-! ## Answers -/

theorem BesideWith.answerId {r r' : State × Option ℕ} (h : BesideWith limits u v r r') :
    BesideWith limits u v (answerId r) (answerId r') := by
  obtain ⟨hstate, hanswer⟩ := h
  obtain ⟨s, id⟩ := r
  obtain ⟨t, id'⟩ := r'
  obtain rfl : id' = id := hanswer
  cases id' with
  | none => exact hstate.answer _
  | some id => exact hstate.answer _

theorem BesideWith.answerYes {r r' : State × Bool} (h : BesideWith limits u v r r') :
    BesideWith limits u v (answerYes r) (answerYes r') :=
  ⟨h.1, congrArg Answer.yes h.2⟩

theorem BesideWith.answerCount {r r' : State × ℕ} (h : BesideWith limits u v r r') :
    BesideWith limits u v (answerCount r) (answerCount r') :=
  ⟨h.1, congrArg (fun n : ℕ => Answer.number n) h.2⟩

theorem BesideWith.answerStatus {r r' : State × ℤ} (h : BesideWith limits u v r r') :
    BesideWith limits u v (answerStatus r) (answerStatus r') :=
  ⟨h.1, congrArg Answer.number h.2⟩

theorem BesideWith.answerMade {r r' : State × Except ClientError String}
    (h : BesideWith limits u v r r') (reporting : Reporting) (answer : String → Answer) :
    BesideWith limits u v (answerMade reporting answer r) (answerMade reporting answer r') := by
  obtain ⟨hstate, hanswer⟩ := h
  obtain ⟨s, made⟩ := r
  obtain ⟨t, made'⟩ := r'
  obtain rfl : made' = made := hanswer
  cases made' with
  | ok name => exact hstate.answer _
  | error e =>
    cases reporting with
    | answered => exact hstate.answer _
    | logged => exact (hstate.note _).answer _

theorem BesideWith.answerRaw {r r' : State × Except LibraryError String}
    (h : BesideWith limits u v r r') :
    BesideWith limits u v (answerRaw r) (answerRaw r') := by
  obtain ⟨hstate, hanswer⟩ := h
  obtain ⟨s, made⟩ := r
  obtain ⟨t, made'⟩ := r'
  obtain rfl : made' = made := hanswer
  cases made' with
  | ok name => exact hstate.answer _
  | error e => exact hstate.answer _

/-! ## Steps -/

theorem tried_pure {r r' : State × Answer} (h : BesideWith limits u v r r') :
    BesideTried limits u v (pure r) (pure r') :=
  .done h

theorem tried_throw (answer : Answer) : BesideTried limits u v (throw answer) (throw answer) :=
  .refused answer

theorem tried_bind {α : Type} {x : Attempt α} {f g : α → Attempt (State × Answer)}
    (h : ∀ a, BesideTried limits u v (f a) (g a)) :
    BesideTried limits u v (x >>= f) (x >>= g) := by
  cases x with
  | error answer => exact .refused answer
  | ok a => exact h a

theorem Beside.stepHandleEvents (h : Beside limits u v s t) (name : String)
    (topics : List String) (qos : ℤ) :
    BesideTried limits u v (s.stepHandleEvents name topics qos)
      (t.stepHandleEvents name topics qos) := by
  unfold State.stepHandleEvents
  rw [h.shown]
  refine tried_bind fun _ => ?_
  split
  · exact tried_throw _
  · dsimp only
    rw [(h.withShown _).clientOf]
    split
    · exact tried_pure ((h.withShown _).answer _)
    · obtain ⟨hstate, htraces⟩ := (h.withShown _).handleEvents name _ topics _ _
      rw [htraces]
      exact tried_pure (hstate.answer _)

theorem Beside.attempt (h : Beside limits u v s t) {st : Step} (hst : st.recasts = false) :
    BesideTried limits u v (s.attempt st) (t.attempt st) := by
  -- One case for each step: what it looks up is the same on both sides, and so is what it does.
  cases st with
  | inject | clear =>
    simp only [State.attempt, h.library]
    exact tried_bind fun _ => tried_pure ((h.withFaults _).answer _)
  | clearFaults => exact tried_pure ((h.withFaults _).answer _)
  | panicOn => cases hst
  | counts =>
    simp only [State.attempt, h.library]
    exact tried_pure (h.answer _)
  | drop name =>
    simp only [State.attempt, h.handles]
    split
    · exact tried_throw _
    · split
      · exact tried_throw _
      · exact tried_pure ((h.dropHandle ..).answer _)
  | wraps name =>
    simp only [State.attempt, h.handles]
    split
    · exact tried_throw _
    · split
      · exact tried_throw _
      · split
        all_goals first | exact tried_throw _ | exact tried_pure (h.answer _)
  | newClient config reporting session =>
    exact tried_pure ((h.newClient ..).answerMade ..)
  | subscribe | subscribeMany =>
    simp only [State.attempt, h.clientOf, State.subscribe, State.subscribeMany, h.clientReceiver]
    exact tried_bind fun _ => tried_bind fun _ => tried_pure (h.onConnection ..).answerId
  | unsubscribe =>
    simp only [State.attempt, h.clientOf, State.unsubscribe, h.clientReceiver]
    exact tried_bind fun _ => tried_pure (h.onConnection ..).answerId
  | publish =>
    simp only [State.attempt, h.clientOf]
    exact tried_bind fun _ => tried_bind fun _ => tried_pure (h.publishTimes ..).answerId
  | disconnect =>
    simp only [State.attempt, h.clientOf]
    exact tried_bind fun _ => tried_pure (h.onConnection ..).answerYes
  | connection | isSubscribed =>
    simp only [State.attempt, h.connectionOf]
    exact tried_bind fun _ => tried_pure (h.answer _)
  | fireCompleted | fireResumed =>
    simp only [State.attempt, h.connectionOf]
    exact tried_bind fun _ => tried_bind fun _ => tried_pure (h.fireLifecycle ..).answerYes
  | fireClosed | fireInterrupted =>
    simp only [State.attempt, h.connectionOf]
    exact tried_bind fun _ => tried_pure (h.fireLifecycle ..).answerYes
  | receive =>
    simp only [State.attempt, h.connectionOf]
    exact tried_bind fun _ => tried_bind fun _ => tried_pure (h.receive ..).answerCount
  | ack =>
    simp only [State.attempt, h.connectionOf]
    exact tried_bind fun _ => tried_pure (h.ack ..).answerYes
  | ackAll =>
    simp only [State.attempt, h.connectionOf]
    exact tried_bind fun _ => tried_pure (h.ackAll ..).answerCount
  | newRawConnection calls lifecycle => exact tried_pure (h.newRawConnection ..).answerRaw
  | connect =>
    simp only [State.attempt, h.connectionOf, h.library]
    exact tried_bind fun _ => tried_pure ((h.putConnection ..).answer _)
  | sessionStatus name =>
    simp only [State.attempt, h.sessions]
    split
    · exact tried_pure (h.answer _)
    · exact tried_throw _
  | dropEvents name =>
    simp only [State.attempt, h.sessions]
    split
    · exact tried_throw _
    · have hmapped := h.mapSession name (·.abandon)
      rw [h.sessions] at hmapped
      exact tried_pure (hmapped.answer _)
  | handleEvents name topics qos => exact h.stepHandleEvents ..
  | newQueue =>
    simp only [State.attempt, h.clientOf]
    exact tried_bind fun _ => tried_bind fun _ => tried_pure ((h.newQueue ..).answerMade ..)
  | newJob =>
    simp only [State.attempt, h.clientOf]
    exact tried_bind fun _ => tried_bind fun _ => tried_pure ((h.newJob ..).answerMade ..)
  | getPending | startNext | describe | update =>
    simp only [State.attempt, h.lookUpLive]
    refine tried_bind fun found => ?_
    split
    all_goals first
      | exact tried_throw _
      | exact tried_bind fun _ => tried_pure (h.sendRequest ..).answerYes
      | exact tried_bind fun _ => tried_pure (h.request ..).answerYes
  | jobsClient =>
    simp only [State.attempt, h.jobsClientOf]
    exact tried_bind fun _ => tried_pure (h.answer _)
  | completeSubscriptions =>
    simp only [State.attempt, h.jobsClientOf]
    exact tried_bind fun _ => tried_pure (h.completeSubscriptions ..).answerCount
  | completePublishes =>
    simp only [State.attempt, h.jobsClientOf]
    exact tried_bind fun _ => tried_pure (h.completePublishes ..).answerCount
  | fire =>
    simp only [State.attempt, h.jobsClientOf]
    exact tried_bind fun _ => tried_bind fun _ => tried_pure (h.fireJobs ..).answerCount
  | newRawJobs =>
    simp only [State.attempt, h.connectionOf]
    exact tried_bind fun _ => tried_pure h.newRawJobs.answerRaw
  | subscribeRawJobs =>
    simp only [State.attempt, h.lookUpLive]
    refine tried_bind fun _ => tried_bind fun found => ?_
    split
    · exact tried_throw _
    · exact tried_bind fun _ => tried_pure (h.subscribeRawJobs ..).answerYes
  | newListener =>
    simp only [State.attempt, h.clientOf]
    exact tried_bind fun _ => tried_bind fun _ => tried_pure ((h.newListener ..).answerMade ..)
  | listener =>
    simp only [State.attempt, h.listenerOf]
    exact tried_bind fun _ => tried_pure (h.answer _)
  | completeListeners =>
    simp only [State.attempt, h.listenerOf]
    exact tried_bind fun _ => tried_pure (h.completeListeners ..).answerCount
  | fireOpened =>
    simp only [State.attempt, h.listenerOf]
    exact tried_bind fun _ => tried_pure (h.fireOpened ..).answerCount
  | newTunnel =>
    exact tried_bind fun _ => tried_pure ((h.newTunnel ..).answerMade ..)
  | newRawTunnel draft =>
    refine tried_bind fun draft => ?_
    obtain ⟨hstate, hname⟩ := h.newRawTunnel draft
    dsimp only
    rw [hname]
    exact tried_pure (hstate.answer _)
  | start =>
    simp only [State.attempt, h.lookUpLive]
    exact tried_bind fun _ => tried_pure (h.startTunnel ..).answerStatus
  | stop =>
    simp only [State.attempt, h.lookUpLive]
    exact tried_bind fun _ => tried_pure (h.stopTunnel ..).answerStatus
  | send =>
    simp only [State.attempt, h.lookUpLive, State.sendThroughTunnel, h.library]
    exact tried_bind fun _ => tried_pure (h.onTunnel ..).answerStatus
  | tunnel =>
    simp only [State.attempt, h.tunnelOf]
    exact tried_bind fun _ => tried_pure (h.answer _)
  | fireTunnel =>
    simp only [State.attempt, h.tunnelOf]
    exact tried_bind fun _ => tried_bind fun _ => tried_pure (h.fireTunnel ..).answerYes

theorem Beside.step (h : Beside limits u v s t) {st : Step} (hst : st.recasts = false) :
    BesideWith limits u v (s.step st) (t.step st) := by
  have htried := h.attempt hst
  unfold State.step
  cases hs : s.attempt st with
  | error answer =>
    rw [hs] at htried
    generalize t.attempt st = tried at htried
    cases htried
    exact h.answer _
  | ok r =>
    rw [hs] at htried
    generalize t.attempt st = tried at htried
    cases htried with
    | done hdone => exact hdone

/-- A step keeps every session that of a handle. -/
theorem Seated.run (h : s.Seated) (st : Step) : (s.run st).1.Seated := by
  have hstep : (s.step st).1.Seated := by
    cases hst : st.recasts with
    | true =>
      cases st with
      | panicOn => exact h
      | _ => cases hst
    | false =>
      obtain ⟨hstate, -⟩ := (Beside.both (u := s.audience) (v := s.audience) s rfl h []).step hst
      obtain ⟨s', hs, hseated, heq, -⟩ := hstate.exists_under
      exact heq ▸ hseated
  intro n hn
  obtain ⟨_, hy, rfl⟩ := List.mem_map.1 hn
  obtain ⟨x, hx, rfl⟩ := List.mem_map.1 hy
  exact hstep x.1 (List.mem_map_of_mem hx)

theorem Seated.after (h : s.Seated) (steps : List Step) : (s.after steps).Seated := by
  induction steps generalizing s with
  | nil => exact h
  | cons st steps ih => exact ih (h.run st)

end

theorem seated_fresh (limits : Log.Limits) (reaction : Reaction) :
    Seated { limits, reaction } := nofun

/-! ## Reports -/

/-- The bench with users of another kind. -/
def withReaction (s : State) (reaction : Reaction) : State := { s with reaction }

/-- The report of a step with users who may panic, beside the report with calm ones. Callbacks are
numbered from `n` on. Those that panic are not shown, and each of them adds one record, which names
the callback and tells the text of the panic. -/
structure Report.Withstands (r : Report) (reaction : Reaction) (n : ℕ) (quiet : Report) : Prop where
  answer : r.answer = quiet.answer
  live : r.live = quiet.live
  raw : r.raw = quiet.raw
  events : r.events = quiet.events
  calls : r.calls = shownCalls reaction n quiet.calls
  log : r.log.Perm (quiet.log ++ panicRecords reaction n quiet.calls)
  lines : quiet.log.Sublist r.log
  records : (panicRecords reaction n quiet.calls).Sublist r.log

/-- A step makes some callbacks: whatever the users do, the library gets to the last of them, and no
panic reaches it. -/
def Makes (s : State) (st : Step) (calls : List (String × Callback)) : Prop :=
  ∃ (s' : State) (hs : List Happening) (answer : Answer),
    s.step st = (s'.under (s.audience.perform s.limits hs).1, answer) ∧
      (s.audience.perform s.limits hs).2 = .ok () ∧ callsOf hs = calls

variable {s : State} {panics : Reaction} {st : Step}

theorem beside_calm (hjournal : s.journal = {}) (hseated : s.Seated) (panics : Reaction) :
    Beside s.limits ⟨panics, s.invocations, [], []⟩ ⟨calm, s.invocations, [], []⟩
      (s.withReaction panics) (s.withReaction calm) := by
  have hstart (reaction : Reaction) :
      s.withReaction reaction = s.under ⟨reaction, s.invocations, [], []⟩ := by
    unfold withReaction under
    rw [hjournal]
  rw [hstart, hstart]
  exact .both s rfl hseated []

/-- A step with users of two kinds: both times the same happens to them. -/
theorem step_withReaction (hjournal : s.journal = {}) (hseated : s.Seated) (panics : Reaction)
    (hst : st.recasts = false) :
    ∃ (s' : State) (hs : List Happening) (answer : Answer), ∀ reaction ∈ [panics, calm],
      (s.withReaction reaction).step st =
        (s'.under ((⟨reaction, s.invocations, [], []⟩ : Audience).meetAll s.limits hs),
          answer) := by
  obtain ⟨hstate, hanswer⟩ := (beside_calm hjournal hseated panics).step hst
  obtain ⟨s', hs, -, hpanics, hcalm⟩ := hstate.exists_under
  refine ⟨s', hs, ((s.withReaction panics).step st).2, fun reaction hmem => ?_⟩
  simp only [List.mem_cons, List.not_mem_nil, or_false] at hmem
  obtain rfl | rfl := hmem
  · exact Prod.ext hpanics rfl
  · exact Prod.ext hcalm hanswer

/-- What comes of one step, with users who may panic and with calm ones. -/
theorem run_withReaction (hjournal : s.journal = {}) (hseated : s.Seated) (panics : Reaction)
    (hst : st.recasts = false) :
    let quiet := (s.withReaction calm).run st
    let r := (s.withReaction panics).run st
    r.2.Withstands panics s.invocations quiet.2 ∧ r.1 = quiet.1.withReaction panics ∧
      quiet.1 = quiet.1.withReaction calm ∧ quiet.1.journal = {} ∧
      quiet.1.invocations = s.invocations + quiet.2.calls.length ∧
      (s.withReaction panics).Makes st quiet.2.calls := by
  intro quiet r
  obtain ⟨s', hs, answer, hstep⟩ := step_withReaction hjournal hseated panics hst
  have hpanics := hstep panics (by simp)
  have hquiet := run_of_step (hstep calm (by simp))
  have hr := run_of_step hpanics
  rw [Audience.meetAll_eq] at hquiet hr
  simp only [List.append_nil, List.reverse_reverse, shownCalls_calm] at hquiet hr
  subst quiet r
  rw [hquiet, hr]
  refine ⟨?_, rfl, rfl, rfl, rfl, ?_⟩
  · exact {
      answer := rfl
      live := rfl
      raw := rfl
      events := rfl
      calls := rfl
      log := recordsOf_perm ..
      lines := recordsOf_calm_sublist ..
      records := panicRecords_sublist .. }
  · have haudience : (s.withReaction panics).audience = ⟨panics, s.invocations, [], []⟩ := by
      simp [audience, withReaction, hjournal]
    refine ⟨s', hs, answer, ?_, ?_, rfl⟩
    · rw [haudience, Audience.perform_eq]
      exact hpanics
    · rw [Audience.perform_eq]

end State

end DeviceLink.Bench
