import DeviceLink.Bench.Drive
import DeviceLink.Bench.Operate
/-!
# Steps on the bench

A step by name: on a handle, on the object behind one, or on the library. A step that cannot
be issued is refused and changes nothing; `State.step` says which refusal wins. Codes are
decoded before the handle is looked up where an operation is sent, and after it elsewhere.
-/

namespace DeviceLink.Bench

open Mqtt Simulated

/-- Why a step cannot be issued. -/
inductive Refusal
  | noHandle
  | dropped
  /-- The object is destroyed. -/
  | gone
  /-- The handle is one of the bench's own. -/
  | rawHandle
  | wrongHandle
  | noSession
  | badFault
  | badKind
  | badMode
  | badDocument
  | badStatus
  deriving DecidableEq, Repr

/-- Where the user of a new handle sees a refusal: in the answer, or only in the log. -/
inductive Reporting
  | answered
  | logged
  deriving DecidableEq, Repr

/-- A step. What may be ill-formed comes as an `Except`, since a handle is looked up first. -/
inductive Step
  | inject (fault : Except Refusal Fault)
  | clear (fault : Except Refusal Fault)
  | clearFaults
  | panicOn (names : List String) (panic : Panic)
  | counts
  | drop (h : String)
  | wraps (h : String)
  | newClient (config : ClientConfig) (reporting : Reporting) (session : Bool)
  | subscribe (h topic : String) (qos : Int)
  | subscribeMany (h : String) (topics : List String) (qos : Int)
  | unsubscribe (h topic : String)
  | publish (h topic : String) (qos : Int) (retain : Bool) (payload : List UInt8) (times : Nat)
  | disconnect (h : String)
  | connection (h : String)
  | isSubscribed (h filter : String)
  | fireCompleted (h : String) (code returnCode : Int) (sessionPresent : Bool)
  | fireClosed (h : String)
  | fireInterrupted (h : String) (code : Int)
  | fireResumed (h : String) (returnCode : Int) (sessionPresent : Bool)
  | receive (h topic : String) (payload : List UInt8) (dup : Bool) (qos : Int) (retain : Bool)
  | ack (h : String) (id : Nat) (code : Int)
  | ackAll (h : String) (code : Int)
  | newRawConnection (calls : List Draft.Call) (lifecycle : Lifecycle Receiver)
  | connect (h : String) (options : ConnectOptions)
  | sessionStatus (h : String)
  | dropEvents (h : String)
  | handleEvents (h : String) (topics : List String) (qos : Int)
  | newQueue (m thing : String) (qos : Int) (reporting : Reporting)
  | newJob (m thing job : String) (qos : Int) (reporting : Reporting)
  | getPending (h : String) (token : Token) (qos : Int)
  | startNext (h : String) (token : Token) (qos : Int) (request : Jobs.NextRequest)
  | describe (h : String) (token : Token) (qos : Int) (request : Jobs.DescribeRequest)
  | update (h : String) (token : Token) (qos : Int) (request : Jobs.UpdateRequest)
  | jobsClient (h : String)
  | completeSubscriptions (h : String) (ioError : Int)
  | completePublishes (h : String) (ioError : Int)
  | fire (h : String) (event : Except Refusal Jobs.Event) (ioError : Int)
  | newRawJobs (m : String)
  | subscribeRawJobs (h : String) (topic : Except Refusal Jobs.Topic) (qos : Int)
      (scope : Jobs.Scope)
  | newListener (m thing : String) (qos : Int) (reporting : Reporting)
  | listener (h : String)
  | completeListeners (h : String) (code : Int)
  | fireOpened (h : String) (response : Option Tunnel.Opened) (ioError : Int)
  | newTunnel (endpoint accessToken : String) (mode : Except Refusal Tunnel.Mode)
      (reporting : Reporting)
  | newRawTunnel (draft : Except Refusal (Tunnel.Draft Receiver))
  | start (h : String)
  | stop (h : String)
  | send (h : String) (m : Tunnel.Outbound)
  | tunnel (h : String)
  | fireTunnel (h : String) (event : Except Refusal Tunnel.Event)

/-- How many objects there are: made in all, alive of two sorts, and whether any of each of the
four sorts is alive. -/
structure Counts where
  created : Nat
  connections : Nat
  jobsClients : Nat
  present : List Bool
  deriving DecidableEq, Repr

/-- What a step answers. -/
inductive Answer
  | nothing
  | yes (b : Bool)
  | number (n : Int)
  | text (s : String)
  /-- A new handle and what it is for. -/
  | named (handle subject : String)
  | refused (r : Refusal)
  | unknownCode (e : UnknownCode)
  | clientError (e : ClientError)
  | libraryError (e : LibraryError)
  | counts (c : Counts)
  | connection (c : Simulated.Connection Receiver)
  | jobsClient (c : JobsClient Receiver)
  | listener (c : TunnelingClient Receiver)
  | tunnel (t : Simulated.Tunnel Receiver)
  /-- A new tunnel handle, if the library made it, and the draft in words. -/
  | drafted (handle : Option String) (draft : String)
  | handled (traces : List (List Agent.Trace))

namespace Holding

/-- The number of the connection of a handle on one. -/
def connection? : Holding → Option Nat
  | client i | rawConnection i => some i
  | queue .. | job .. | rawJobs _ | listener .. | tunnel _ | rawTunnel _ => none

/-- The number of the jobs client of a handle on one. -/
def jobsClient? : Holding → Option Nat
  | queue j _ _ | job j _ _ _ | rawJobs j => some j
  | client _ | rawConnection _ | listener .. | tunnel _ | rawTunnel _ => none

/-- The number of the tunneling client of a handle on one. -/
def listener? : Holding → Option Nat
  | listener i _ _ => some i
  | client _ | rawConnection _ | queue .. | job .. | rawJobs _ | tunnel _ | rawTunnel _ => none

/-- The number of the tunnel of a handle on one. -/
def tunnel? : Holding → Option Nat
  | tunnel t | rawTunnel t => some t
  | client _ | rawConnection _ | queue .. | job .. | rawJobs _ | listener .. => none

/-- Whether a handle is one of the bench's own. -/
def isRaw : Holding → Bool
  | rawConnection _ | rawJobs _ | rawTunnel _ => true
  | client _ | queue .. | job .. | listener .. | tunnel _ => false

end Holding

namespace State

/-! ## Looking up -/

/-- What a step leads to, or the answer that ends it at once. -/
abbrev Attempt (α : Type) := Except Answer α

/-- A refusal ends a step. -/
def orRefuse {α : Type} : Except Refusal α → Attempt α
  | .ok a => .ok a
  | .error r => .error (.refused r)

/-- An unknown code ends a step. -/
def decoded {α : Type} [Coded α] (n : Int) : Attempt α :=
  (Coded.decode n).mapError .unknownCode

/-- The handle of a name and the number of what it holds, of one sort. -/
def lookUp (s : State) (name : String) (number : Holding → Option Nat) : Attempt (Handle × Nat) :=
  match s.handles.lookup name with
  | none => .error (.refused .noHandle)
  | some h =>
    match number h.holding with
    | none => .error (.refused .noHandle)
    | some i => .ok (h, i)

/-- A handle that is not dropped. -/
def lookUpLive (s : State) (name : String) (number : Holding → Option Nat) :
    Attempt (Handle × Nat) := do
  let (h, i) ← s.lookUp name number
  if h.dropped then throw (.refused .dropped)
  pure (h, i)

/-- The connection of a client. -/
def clientOf (s : State) (name : String) : Attempt Nat := do
  let (h, i) ← s.lookUpLive name Holding.connection?
  if h.holding.isRaw then throw (.refused .rawHandle)
  pure i

/-- An object behind a handle, dropped or not. -/
def object {α : Type} (s : State) (name : String) (number : Holding → Option Nat)
    (shelf : Simulated.Shelf α) : Attempt (Nat × α) := do
  let (_, i) ← s.lookUp name number
  match shelf.get? i with
  | some a => pure (i, a)
  | none => throw (.refused .gone)

/-- A connection behind a handle. -/
def connectionOf (s : State) (name : String) : Attempt (Nat × Simulated.Connection Receiver) :=
  s.object name Holding.connection? s.library.connections

/-- A jobs client behind a handle. -/
def jobsClientOf (s : State) (name : String) : Attempt (Nat × JobsClient Receiver) :=
  s.object name Holding.jobsClient? s.library.jobsClients

/-- A tunneling client behind a handle. -/
def listenerOf (s : State) (name : String) : Attempt (Nat × TunnelingClient Receiver) :=
  s.object name Holding.listener? s.library.tunnelingClients

/-- A tunnel behind a handle. -/
def tunnelOf (s : State) (name : String) : Attempt (Nat × Simulated.Tunnel Receiver) :=
  s.object name Holding.tunnel? s.library.tunnels

/-! ## Answers -/

/-- The id of a request, if one was started. -/
def answerId (result : State × Option Nat) : State × Answer :=
  match result with
  | (s, some id) => (s, .number id)
  | (s, none) => (s, .nothing)

/-- Yes or no. -/
def answerYes (result : State × Bool) : State × Answer := (result.1, .yes result.2)

/-- A count. -/
def answerCount (result : State × Nat) : State × Answer := (result.1, .number result.2)

/-- A status. -/
def answerStatus (result : State × Int) : State × Answer := (result.1, .number result.2)

/-- A new handle, or a refusal where the user sees it. -/
def answerMade (reporting : Reporting) (answer : String → Answer)
    (result : State × Except ClientError String) : State × Answer :=
  match result, reporting with
  | (s, .ok name), _ => (s, answer name)
  | (s, .error e), .answered => (s, .clientError e)
  | (s, .error e), .logged => (s.note ⟨.error, e.message⟩, .nothing)

/-- A new handle without a user, or a refusal. -/
def answerRaw (result : State × Except LibraryError String) : State × Answer :=
  match result with
  | (s, .ok name) => (s, .text name)
  | (s, .error e) => (s, .libraryError e)

/-- The counts of the library. -/
def count (l : Library Receiver) : Counts :=
  { created := l.created
    connections := l.connections.countAlive
    jobsClients := l.jobsClients.countAlive
    present := [l.connections.countAlive, l.jobsClients.countAlive,
      l.tunnelingClients.countAlive, l.tunnels.countAlive].map (· ≠ 0) }

/-! ## Steps -/

/-- The faults in force replaced. -/
def withFaults (s : State) (faults : Faults) : State :=
  { s with library := { s.library with faults } }

/-- The agent's handling of what a session has shown. The events are taken even where the
client is dropped. -/
def stepHandleEvents (s : State) (name : String) (topics : List String) (qos : Int) :
    Attempt (State × Answer) := do
  let qos ← decoded qos
  match s.shown.lookup name with
  | none => throw (.refused .noSession)
  | some events =>
    let s := { s with shown := s.shown.map fun (n, es) => if n = name then (n, []) else (n, es) }
    match s.clientOf name with
    | .error answer => pure (s, answer)
    | .ok i =>
      let (s, traces) := s.handleEvents name i topics qos events
      pure (s, .handled traces)

/-- A step, or the answer that ends it at once. -/
def attempt (s : State) : Step → Attempt (State × Answer)
  | .inject fault => do
    let fault ← orRefuse fault
    pure (s.withFaults (s.library.faults.inject fault), .nothing)
  | .clear fault => do
    let fault ← orRefuse fault
    pure (s.withFaults (s.library.faults.clear fault), .nothing)
  | .clearFaults => pure (s.withFaults [], .nothing)
  | .panicOn names panic =>
    pure ({ s with reaction := Reaction.byName names panic }, .nothing)
  | .counts => pure (s, .counts (count s.library))
  | .drop h =>
    match s.handles.lookup h with
    | none => throw (.refused .noHandle)
    | some handle =>
      if handle.dropped then throw (.refused .dropped)
      else pure (s.dropHandle h handle, .nothing)
  | .wraps h =>
    match s.handles.lookup h with
    | none => throw (.refused .noHandle)
    | some handle =>
      if handle.dropped then throw (.refused .dropped)
      else
        match handle.holding with
        | .rawJobs _ => throw (.refused .wrongHandle)
        | .rawConnection _ | .rawTunnel _ => throw (.refused .rawHandle)
        | .client _ | .queue .. | .job .. | .listener .. | .tunnel _ => pure (s, .yes true)
  | .newClient config reporting session =>
    pure (answerMade reporting .text (s.newClient config session))
  | .subscribe h topic qos => do
    let i ← s.clientOf h
    let qos ← decoded qos
    pure (answerId (s.subscribe h i topic qos))
  | .subscribeMany h topics qos => do
    let i ← s.clientOf h
    let qos ← decoded qos
    pure (answerId (s.subscribeMany h i topics qos))
  | .unsubscribe h topic => do
    let i ← s.clientOf h
    pure (answerId (s.unsubscribe h i topic))
  | .publish h topic qos retain payload times => do
    let qos ← decoded qos
    let i ← s.clientOf h
    pure (answerId (s.publishTimes h i topic qos retain payload times))
  | .disconnect h => do
    let i ← s.clientOf h
    pure (answerYes (s.disconnect i))
  | .connection h => do
    let (_, c) ← s.connectionOf h
    pure (s, .connection c)
  | .isSubscribed h filter => do
    let (_, c) ← s.connectionOf h
    pure (s, .yes (filter ∈ c.filters))
  | .fireCompleted h code returnCode sessionPresent => do
    let (_, c) ← s.connectionOf h
    let returnCode ← decoded returnCode
    pure (answerYes (s.fireLifecycle c (.completed code returnCode sessionPresent)))
  | .fireClosed h => do
    let (_, c) ← s.connectionOf h
    pure (answerYes (s.fireLifecycle c .closed))
  | .fireInterrupted h code => do
    let (_, c) ← s.connectionOf h
    pure (answerYes (s.fireLifecycle c (.interrupted code)))
  | .fireResumed h returnCode sessionPresent => do
    let (_, c) ← s.connectionOf h
    let returnCode ← decoded returnCode
    pure (answerYes (s.fireLifecycle c (.resumed returnCode sessionPresent)))
  | .receive h topic payload dup qos retain => do
    let (_, c) ← s.connectionOf h
    let qos ← decoded qos
    pure (answerCount (s.receive c { topic, payload, dup, qos, retain }))
  | .ack h id code => do
    let (i, c) ← s.connectionOf h
    pure (answerYes (s.ack i c id code))
  | .ackAll h code => do
    let (i, c) ← s.connectionOf h
    pure (answerCount (s.ackAll i c code))
  | .newRawConnection calls lifecycle =>
    pure (answerRaw (s.newRawConnection (Draft.ofCalls calls) lifecycle))
  | .connect h options => do
    let (i, c) ← s.connectionOf h
    let (c, started) := c.connect s.library.faults options
    pure (s.putConnection i c, .yes started)
  | .sessionStatus h =>
    match s.sessions.lookup h with
    | some session => pure (s, .text session.status.name)
    | none => throw (.refused .noSession)
  | .dropEvents h =>
    match s.sessions.lookup h with
    | none => throw (.refused .noSession)
    | some _ =>
      pure ({ s with
        sessions := s.sessions.map fun (n, session) =>
          if n = h then (n, session.abandon) else (n, session) }, .nothing)
  | .handleEvents h topics qos => s.stepHandleEvents h topics qos
  | .newQueue m thing qos reporting => do
    let _ ← decoded (α := Qos) qos
    let i ← s.clientOf m
    pure (answerMade reporting (.named · thing) (s.newQueue i thing))
  | .newJob m thing job qos reporting => do
    let _ ← decoded (α := Qos) qos
    let i ← s.clientOf m
    pure (answerMade reporting (.named · job) (s.newJob i thing job))
  | .getPending h token qos => do
    let (handle, j) ← s.lookUpLive h Holding.jobsClient?
    match handle.holding with
    | .queue _ _ thing =>
      let qos ← decoded qos
      pure (answerYes (s.sendRequest j (Jobs.Queue.getPendingRequest thing) qos token (.queue h)
        (Jobs.Queue.notSent Jobs.Queue.getPendingName token)))
    | .rawJobs _ =>
      let qos ← decoded qos
      pure (answerYes (s.request j (.getPending none none) qos token .raw))
    | _ => throw (.refused .wrongHandle)
  | .startNext h token qos request => do
    let (handle, j) ← s.lookUpLive h Holding.jobsClient?
    match handle.holding with
    | .queue _ _ thing =>
      let qos ← decoded qos
      pure (answerYes (s.sendRequest j (Jobs.Queue.startNextRequest thing request) qos token
        (.queue h) (Jobs.Queue.notSent Jobs.Queue.startNextName token)))
    | _ => throw (.refused .wrongHandle)
  | .describe h token qos request => do
    let (handle, j) ← s.lookUpLive h Holding.jobsClient?
    match handle.holding with
    | .job _ _ thing job =>
      let qos ← decoded qos
      pure (answerYes (s.sendRequest j (Jobs.Job.describeRequest thing job request) qos token
        (.job h) (Jobs.Job.notSent Jobs.Job.describeName token job)))
    | _ => throw (.refused .wrongHandle)
  | .update h token qos request => do
    let (handle, j) ← s.lookUpLive h Holding.jobsClient?
    match handle.holding with
    | .job _ _ thing job =>
      let qos ← decoded qos
      pure (answerYes (s.sendRequest j (Jobs.Job.updateRequest thing job request) qos token
        (.job h) (Jobs.Job.notSent Jobs.Job.updateName token job)))
    | _ => throw (.refused .wrongHandle)
  | .jobsClient h => do
    let (_, c) ← s.jobsClientOf h
    pure (s, .jobsClient c)
  | .completeSubscriptions h ioError => do
    let (j, c) ← s.jobsClientOf h
    pure (answerCount (s.completeSubscriptions j c ioError))
  | .completePublishes h ioError => do
    let (j, c) ← s.jobsClientOf h
    pure (answerCount (s.completePublishes j c ioError))
  | .fire h event ioError => do
    let (_, c) ← s.jobsClientOf h
    let event ← orRefuse event
    pure (answerCount (s.fireJobs c event ioError))
  | .newRawJobs m => do
    let _ ← s.connectionOf m
    pure (answerRaw s.newRawJobs)
  | .subscribeRawJobs h topic qos scope => do
    let _ ← decoded (α := Qos) qos
    let (handle, j) ← s.lookUpLive h Holding.jobsClient?
    if ¬handle.holding.isRaw then throw (.refused .wrongHandle)
    let topic ← orRefuse topic
    pure (answerYes (s.subscribeRawJobs j scope topic))
  | .newListener m thing qos reporting => do
    let qos ← decoded qos
    let i ← s.clientOf m
    pure (answerMade reporting (.named · thing) (s.newListener i thing qos))
  | .listener h => do
    let (_, c) ← s.listenerOf h
    pure (s, .listener c)
  | .completeListeners h code => do
    let (i, c) ← s.listenerOf h
    pure (answerCount (s.completeListeners i c code))
  | .fireOpened h response ioError => do
    let (_, c) ← s.listenerOf h
    pure (answerCount (s.fireOpened c response ioError))
  | .newTunnel endpoint accessToken mode reporting => do
    let mode ← orRefuse mode
    pure (answerMade reporting .text (s.newTunnel endpoint accessToken mode))
  | .newRawTunnel draft => do
    let draft ← orRefuse draft
    let (s, name) := s.newRawTunnel draft
    pure (s, .drafted name draft.describe)
  | .start h => do
    let (handle, t) ← s.lookUpLive h Holding.tunnel?
    pure (answerStatus (s.startTunnel t (!handle.holding.isRaw)))
  | .stop h => do
    let (handle, t) ← s.lookUpLive h Holding.tunnel?
    pure (answerStatus (s.stopTunnel t (!handle.holding.isRaw)))
  | .send h m => do
    let (_, t) ← s.lookUpLive h Holding.tunnel?
    pure (answerStatus (s.sendThroughTunnel t m))
  | .tunnel h => do
    let (_, t) ← s.tunnelOf h
    pure (s, .tunnel t)
  | .fireTunnel h event => do
    let (_, t) ← s.tunnelOf h
    let event ← orRefuse event
    pure (answerYes (s.fireTunnel t event))

/-- A step and its answer. -/
def step (s : State) (st : Step) : State × Answer :=
  match s.attempt st with
  | .ok result => result
  | .error answer => (s, answer)

/-! ## Reports -/

/-- What a step answers and brought about, the first thing first. -/
structure Report where
  answer : Answer
  live : Nat
  calls : List (String × Callback)
  raw : List Raw
  log : List Log.Line
  events : List (String × Agent.Event)

/-- A session put where the order of names has it. -/
def insertByName {α : Type} (name : String) (a : α) : List (String × α) → List (String × α)
  | [] => [(name, a)]
  | (n, b) :: rest =>
    if name < n then (name, a) :: (n, b) :: rest else (n, b) :: insertByName name a rest

/-- The sessions in the order of their names. -/
def sessionsByName (s : State) : List (String × Agent.Session) :=
  s.sessions.foldl (fun sorted (n, session) => insertByName n session sorted) []

/-- The events that were shown, with those of the mailboxes after them. -/
def shownAfter (s : State) : List (String × List Agent.Event) :=
  s.sessions.map fun (n, session) => (n, (s.shown.lookup n).getD [] ++ session.mailbox)

/-- A step with its report. The journal and the mailboxes are empty after it. -/
def run (s : State) (st : Step) : State × Report :=
  let (s, answer) := s.step st
  let report : Report :=
    { answer
      live := s.library.live
      calls := s.journal.calls.reverse
      raw := s.journal.raw.reverse
      log := s.journal.log.reverse
      events := s.sessionsByName.flatMap fun (n, session) => session.mailbox.map (n, ·) }
  ({ s with
    journal := {}
    shown := s.shownAfter
    sessions := s.sessions.map fun (n, session) => (n, { session with mailbox := [] }) }, report)

end State

end DeviceLink.Bench
