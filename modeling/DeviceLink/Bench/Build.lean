import DeviceLink.Bench.State
/-!
# Making and dropping handles

A handle is built in steps that the library may refuse. The first refusal ends it: what was
made for it is let go, and nothing of it stays registered. Names carry a letter for the sort
of the handle and the number of handles made before it.
-/

namespace DeviceLink.Bench

open Mqtt Simulated

namespace State

/-- The name of the next handle of a sort. -/
def nextName (s : State) (sort : String) : String := sort ++ toString s.made

/-- The bench with a handle more. -/
def addHandle (s : State) (name : String) (holding : Holding) : State :=
  { s with handles := s.handles ++ [(name, { holding })], made := s.made + 1 }

/-- The bench with another state of the library. -/
def withLibrary (s : State) (library : Library Receiver) : State := { s with library }

/-! ## Clients -/

/-- A client on a connection of its own. With `session` an agent's session is its user. -/
def newClient (s : State) (config : ClientConfig) (session : Bool) :
    State × Except ClientError String :=
  let s := s.note Client.startNote
  let name := s.nextName "m"
  match config.config with
  | .error e => (s, .error e)
  | .ok checked =>
    match s.library.newConnection checked with
    | .error e => (s, .error (Client.connectionError e))
    | .ok (library, i) =>
      let receiver : Receiver := if session then .session name else .client name
      let fresh : Endpoint Receiver := ⟨{ config := checked }, library.faults⟩
      let (endpoint, started) := Client.start fresh receiver config
      let library := library.putConnection i endpoint.connection
      match started with
      | .error e => (s.withLibrary (library.releaseConnection i), .error e)
      | .ok () =>
        let s := (s.withLibrary library).addHandle name (.client i)
        ({ s with sessions := if session then s.sessions ++ [(name, {})] else s.sessions }, .ok name)

/-- A connection with handlers of the bench's own. -/
def newRawConnection (s : State) (draft : Draft) (lifecycle : Lifecycle Receiver) :
    State × Except LibraryError String :=
  match draft.build with
  | .error fault => (s, .error fault.toLibraryError)
  | .ok config =>
    match s.library.newConnection config with
    | .error e => (s, .error e)
    | .ok (library, i) =>
      let library := library.putConnection i { config, lifecycle }
      let name := s.nextName "m"
      ((s.withLibrary library).addHandle name (.rawConnection i), .ok name)

/-! ## Handles on jobs -/

/-- A jobs client subscribed to topics, or the first refusal. -/
def subscribedJobsClient (s : State) (scope : Jobs.Scope) (topics : List Jobs.Topic)
    (receiver : Receiver) : State × Except ClientError Nat :=
  match s.library.newJobsClient with
  | .error e => (s, .error (.badConnection s!"couldn't create a jobs client: {e.message}"))
  | .ok (library, j) =>
    let fresh : JobsClient Receiver := {}
    let (client, refused) := fresh.subscribeAll library.faults scope receiver topics
    let library := library.putJobsClient j client
    match refused with
    | some topic =>
      (s.withLibrary (library.releaseJobsClient j), .error (.subscription topic.name))
    | none => (s.withLibrary library, .ok j)

/-- A handle on the jobs of a thing. -/
def newQueue (s : State) (connection : Nat) (thing : String) :
    State × Except ClientError String :=
  let s := s.note (Jobs.Queue.startNote thing)
  let name := s.nextName "j"
  let (s, made) :=
    s.subscribedJobsClient { thing := some thing } Jobs.Queue.topics (.queue name)
  match made with
  | .error e => (s, .error e)
  | .ok j =>
    ((s.withLibrary (s.library.retainConnection connection)).addHandle name
      (.queue j connection thing), .ok name)

/-- A handle on one job of a thing. -/
def newJob (s : State) (connection : Nat) (thing job : String) :
    State × Except ClientError String :=
  let s := s.note (Jobs.Job.startNote thing job)
  let name := s.nextName "e"
  let (s, made) :=
    s.subscribedJobsClient { thing := some thing, job := some job } Jobs.Job.topics (.job name)
  match made with
  | .error e => (s, .error e)
  | .ok j =>
    ((s.withLibrary (s.library.retainConnection connection)).addHandle name
      (.job j connection thing job), .ok name)

/-- A jobs client without a handle between. -/
def newRawJobs (s : State) : State × Except LibraryError String :=
  match s.library.newJobsClient with
  | .error e => (s, .error e)
  | .ok (library, j) =>
    let name := s.nextName "j"
    ((s.withLibrary library).addHandle name (.rawJobs j), .ok name)

/-! ## Handles on tunnels -/

/-- A listener for tunnels opened for a thing. -/
def newListener (s : State) (connection : Nat) (thing : String) (qos : Qos) :
    State × Except ClientError String :=
  let s := s.note (Tunnel.Listener.startNote thing)
  let name := s.nextName "n"
  match s.library.newTunnelingClient with
  | none => (s, .error (.tunnel "couldn't create a tunneling client"))
  | some (library, i) =>
    let fresh : TunnelingClient Receiver := {}
    let (client, accepted) := fresh.subscribe library.faults thing qos (.listener name)
    let library := library.putTunnelingClient i client
    if accepted then
      ((s.withLibrary (library.retainConnection connection)).addHandle name
        (.listener i connection thing), .ok name)
    else
      (s.withLibrary (library.releaseTunnelingClient i), .error (.subscription "TunnelsNotify"))

/-- A tunnel with its user in every slot. -/
def newTunnel (s : State) (endpoint accessToken : String) (mode : Tunnel.Mode) :
    State × Except ClientError String :=
  let s := s.note (Tunnel.startNote endpoint mode)
  let name := s.nextName "t"
  let draft : Tunnel.Draft Receiver := { endpoint, accessToken, mode }
  match s.library.newTunnel (draft.registerAll Tunnel.Slot.all (.tunnel name)) with
  | none => (s, .error (.tunnel "tunnel equals to null"))
  | some (library, i) => ((s.withLibrary library).addHandle name (.tunnel i), .ok name)

/-- A tunnel with handlers of the bench's own in some slots. -/
def newRawTunnel (s : State) (draft : Tunnel.Draft Receiver) : State × Option String :=
  match s.library.newTunnel draft with
  | none => (s, none)
  | some (library, i) =>
    let name := s.nextName "t"
    ((s.withLibrary library).addHandle name (.rawTunnel i), some name)

/-! ## Dropping handles -/

/-- The library after a handle let go of what it holds. -/
def letGo (l : Library Receiver) : Holding → Library Receiver
  | .client connection | .rawConnection connection => l.releaseConnection connection
  | .queue client connection _ | .job client connection _ _ =>
    (l.releaseJobsClient client).releaseConnection connection
  | .rawJobs client => l.releaseJobsClient client
  | .listener client connection _ =>
    (l.releaseTunnelingClient client).releaseConnection connection
  | .tunnel tunnel | .rawTunnel tunnel => l.releaseTunnel tunnel

/-- Dropping a handle. -/
def dropHandle (s : State) (name : String) (h : Handle) : State :=
  { s with
    library := letGo s.library h.holding
    handles := s.handles.map fun (n, other) =>
      if n = name then (n, { other with dropped := true }) else (n, other) }

end State

end DeviceLink.Bench
