import DeviceLink.Proofs.Bench.Calls
import DeviceLink.Proofs.Mqtt.ClientConfigs
/-!
# How a handle is built

The native steps that building a handle consists of, and how it ends: at the first step that is
refused, or with the handle. What a native object was asked can be read off it, also once it is
gone, so the steps that were taken are known.
-/

namespace DeviceLink.Bench

open Mqtt Simulated Library

/-! ## Steps that may fail -/

theorem bind_eq_ok {ε α β : Type} {x : Except ε α} {f : α → Except ε β} {b : β} :
    x >>= f = .ok b ↔ ∃ a, x = .ok a ∧ f a = .ok b := by
  cases x <;> simp [bind, Except.bind]

theorem throw_ne_ok {ε α : Type} {e : ε} {a : α} : (throw e : Except ε α) ≠ .ok a := by
  intro h
  cases h

/-! ## Native steps -/

/-- A step of the native library. -/
inductive NativeStep
  | newConnection (config : Config)
  | connect (options : ConnectOptions) (endpoint : String)
  | newJobsClient
  | subscribe (scope : Jobs.Scope) (topic : Jobs.Topic)
  | newTunnelingClient
  | notifySubscribe (thing : String) (qos : Qos)
  | newTunnel (endpoint accessToken : String) (mode : Tunnel.Mode)
  deriving DecidableEq, Repr

namespace NativeStep

/-- Whether a step is refused under the faults in force. -/
def isRefused (faults : Faults) : NativeStep → Bool
  | newConnection _ => faults.isSet .newConnection
  | connect .. => faults.isSet .connect
  | newJobsClient => faults.isSet .jobsClient
  | subscribe _ topic => faults.isSet (.subscribe topic) || faults.isSet .operationsRejected
  | newTunnelingClient => faults.isSet .tunnelingClient
  | notifySubscribe .. => faults.isSet .notifySubscribe || faults.isSet .operationsRejected
  | newTunnel .. => faults.isSet .tunnelBuild

/-- What whoever builds the handle is told of a refusal. -/
def refusal : NativeStep → ClientError
  | newConnection _ => Client.connectionError (.connection "injected new_connection failure")
  | connect options endpoint =>
    .connect options.clientId endpoint (ErrorCode.describe ErrorCode.connectOptionsValidation.code)
  | newJobsClient =>
    let e := LibraryError.other "injected jobs client failure"
    .badConnection s!"couldn't create a jobs client: {e.message}"
  | subscribe _ topic => .subscription topic.name
  | newTunnelingClient => .tunnel "couldn't create a tunneling client"
  | notifySubscribe .. => .subscription "TunnelsNotify"
  | newTunnel .. => .tunnel "tunnel equals to null"

/-- The steps taken on a connection. -/
def ofConnection {ρ : Type} (c : Simulated.Connection ρ) : List NativeStep :=
  newConnection c.config :: c.options.toList.map (connect · c.config.endpoint)

/-- The steps taken on a jobs client. -/
def ofJobsClient {ρ : Type} (c : JobsClient ρ) : List NativeStep :=
  newJobsClient :: c.subscriptions.map fun s => subscribe s.scope s.topic

/-- The steps taken on a tunneling client. -/
def ofTunnelingClient {ρ : Type} (c : TunnelingClient ρ) : List NativeStep :=
  newTunnelingClient :: c.requests.map fun r => notifySubscribe r.1 r.2

/-- The step taken on a tunnel. -/
def ofTunnel {ρ : Type} (t : Simulated.Tunnel ρ) : List NativeStep :=
  [newTunnel t.draft.endpoint t.draft.accessToken t.draft.mode]

/-- The objects on a shelf from some number on, alive or not. -/
def since {α : Type} (s : Simulated.Shelf α) (n : ℕ) : List α := (s.map (·.object)).drop n

/-- The steps taken on the objects that a library made since an earlier state of it. -/
def taken {ρ : Type} (l l' : Library ρ) : List NativeStep :=
  (since l'.connections l.connections.length).flatMap ofConnection ++
    (since l'.jobsClients l.jobsClients.length).flatMap ofJobsClient ++
    (since l'.tunnelingClients l.tunnelingClients.length).flatMap ofTunnelingClient ++
    (since l'.tunnels l.tunnels.length).flatMap ofTunnel

section since

variable {α : Type} (s : Simulated.Shelf α)

@[simp] theorem since_length : since s s.length = [] := by simp [since]

@[simp] theorem since_snoc (x : Held α) : since (s ++ [x]) s.length = [x.object] := by
  simp [since]

theorem since_modify (i n : ℕ) (f : Held α → Held α) (hf : ∀ x, (f x).object = x.object) :
    since (s.modify i f) n = since s n := by
  have hmap : (s.modify i f).map (·.object) = s.map (·.object) := by
    induction s generalizing i with
    | nil => simp
    | cons x s ih => cases i <;> simp [hf, ih]
  rw [since, hmap, since]

@[simp] theorem since_retain (i n : ℕ) : since (s.retain i) n = since s n :=
  since_modify s i n _ fun _ => rfl

@[simp] theorem since_release (i n : ℕ) : since (s.release i) n = since s n :=
  since_modify s i n _ fun _ => rfl

@[simp] theorem since_put_snoc (x : Held α) (a : α) :
    since (Simulated.Shelf.put (s ++ [x]) s.length a) s.length = [a] := by
  have hput : Simulated.Shelf.put (s ++ [x]) s.length a = s ++ [{ x with object := a }] := by
    simp [Simulated.Shelf.put, List.modify_eq_take_drop]
  rw [hput, since_snoc]

end since

/-! ## What the library answers -/

section

variable {ρ : Type} {l l' : Library ρ} {i : ℕ}

@[simp] theorem taken_refl (l : Library ρ) : taken l l = [] := by simp [taken]

@[simp] theorem taken_retainConnection : taken l (l'.retainConnection i) = taken l l' := by
  simp [taken, Library.retainConnection]

@[simp] theorem taken_releaseConnection : taken l (l'.releaseConnection i) = taken l l' := by
  simp [taken, Library.releaseConnection, discount]

@[simp] theorem taken_releaseJobsClient : taken l (l'.releaseJobsClient i) = taken l l' := by
  simp [taken, Library.releaseJobsClient, discount]

@[simp] theorem taken_releaseTunnelingClient :
    taken l (l'.releaseTunnelingClient i) = taken l l' := by
  simp [taken, Library.releaseTunnelingClient, discount]

theorem newConnection_refused {config : Config} {e : LibraryError}
    (h : l.newConnection config = .error e) : (newConnection config).isRefused l.faults ∧
      (newConnection config).refusal = Client.connectionError e := by
  unfold Library.newConnection at h
  split at h
  · next hfault =>
    cases h
    exact ⟨hfault, rfl⟩
  · cases h

theorem newConnection_accepted {config : Config} (h : l.newConnection config = .ok (l', i)) :
    ¬(newConnection config).isRefused l.faults ∧ l'.faults = l.faults := by
  unfold Library.newConnection at h
  split at h
  · cases h
  · next hfault =>
    cases h
    exact ⟨hfault, rfl⟩

theorem taken_newConnection {config : Config} (h : l.newConnection config = .ok (l', i))
    (c : Simulated.Connection ρ) : taken l (l'.putConnection i c) = ofConnection c := by
  unfold Library.newConnection at h
  split at h
  · cases h
  · cases h
    simp [taken, putConnection, count]

theorem trades_newConnection {config : Config} (h : l.newConnection config = .ok (l', i))
    (c : Simulated.Connection ρ) (others : List Object) :
    Trades l others (l'.putConnection i c) (⟨.connection, i⟩ :: others) := by
  obtain ⟨hmade, hnumber⟩ := newConnection_made h
  rw [hnumber]
  exact .made (hmade.kept (putConnection_kept ..)) others

theorem undisturbed_newConnection {config : Config} (h : l.newConnection config = .ok (l', i))
    (c : Simulated.Connection ρ) : l.Undisturbed (l'.putConnection i c) := by
  unfold Library.newConnection at h
  split at h
  · cases h
  · cases h
    rintro ⟨sort, n⟩ ho
    cases sort with
    | connection =>
      exact Simulated.Shelf.receivers_put_snoc (l.connections.length_holders ▸ ho) _ _ _
    | jobsClient | tunnelingClient | tunnel => rfl

theorem newJobsClient_refused {e : LibraryError} (h : l.newJobsClient = .error e) :
    newJobsClient.isRefused l.faults ∧
      newJobsClient.refusal = .badConnection s!"couldn't create a jobs client: {e.message}" := by
  unfold Library.newJobsClient at h
  split at h
  · next hfault =>
    cases h
    exact ⟨hfault, rfl⟩
  · cases h

theorem newJobsClient_accepted (h : l.newJobsClient = .ok (l', i)) :
    ¬newJobsClient.isRefused l.faults ∧ l'.faults = l.faults := by
  unfold Library.newJobsClient at h
  split at h
  · cases h
  · next hfault =>
    cases h
    exact ⟨hfault, rfl⟩

theorem taken_newJobsClient (h : l.newJobsClient = .ok (l', i))
    (c : JobsClient ρ) : taken l (l'.putJobsClient i c) = ofJobsClient c := by
  unfold Library.newJobsClient at h
  split at h
  · cases h
  · cases h
    simp [taken, putJobsClient, count]

theorem trades_newJobsClient (h : l.newJobsClient = .ok (l', i))
    (c : JobsClient ρ) (others : List Object) :
    Trades l others (l'.putJobsClient i c) (⟨.jobsClient, i⟩ :: others) := by
  obtain ⟨hmade, hnumber⟩ := newJobsClient_made h
  rw [hnumber]
  exact .made (hmade.kept (putJobsClient_kept ..)) others

theorem undisturbed_newJobsClient (h : l.newJobsClient = .ok (l', i))
    (c : JobsClient ρ) : l.Undisturbed (l'.putJobsClient i c) := by
  unfold Library.newJobsClient at h
  split at h
  · cases h
  · cases h
    rintro ⟨sort, n⟩ ho
    cases sort with
    | jobsClient =>
      exact Simulated.Shelf.receivers_put_snoc (l.jobsClients.length_holders ▸ ho) _ _ _
    | connection | tunnelingClient | tunnel => rfl

theorem newTunnelingClient_refused (h : l.newTunnelingClient = none) :
    newTunnelingClient.isRefused l.faults := by
  unfold Library.newTunnelingClient at h
  split at h
  · next hfault => exact hfault
  · cases h

theorem newTunnelingClient_accepted (h : l.newTunnelingClient = some (l', i)) :
    ¬newTunnelingClient.isRefused l.faults ∧ l'.faults = l.faults := by
  unfold Library.newTunnelingClient at h
  split at h
  · cases h
  · next hfault =>
    cases h
    exact ⟨hfault, rfl⟩

theorem taken_newTunnelingClient (h : l.newTunnelingClient = some (l', i))
    (c : TunnelingClient ρ) : taken l (l'.putTunnelingClient i c) = ofTunnelingClient c := by
  unfold Library.newTunnelingClient at h
  split at h
  · cases h
  · cases h
    simp [taken, putTunnelingClient, count]

theorem trades_newTunnelingClient (h : l.newTunnelingClient = some (l', i))
    (c : TunnelingClient ρ) (others : List Object) :
    Trades l others (l'.putTunnelingClient i c) (⟨.tunnelingClient, i⟩ :: others) := by
  obtain ⟨hmade, hnumber⟩ := newTunnelingClient_made h
  rw [hnumber]
  exact .made (hmade.kept (putTunnelingClient_kept ..)) others

theorem undisturbed_newTunnelingClient (h : l.newTunnelingClient = some (l', i))
    (c : TunnelingClient ρ) : l.Undisturbed (l'.putTunnelingClient i c) := by
  unfold Library.newTunnelingClient at h
  split at h
  · cases h
  · cases h
    rintro ⟨sort, n⟩ ho
    cases sort with
    | tunnelingClient =>
      exact Simulated.Shelf.receivers_put_snoc (l.tunnelingClients.length_holders ▸ ho) _ _ _
    | connection | jobsClient | tunnel => rfl

theorem newTunnel_refused {draft : DeviceLink.Tunnel.Draft ρ} (h : l.newTunnel draft = none)
    (endpoint accessToken : String) (mode : DeviceLink.Tunnel.Mode) :
    (newTunnel endpoint accessToken mode).isRefused l.faults := by
  unfold Library.newTunnel at h
  split at h
  · next hfault => exact hfault
  · cases h

theorem newTunnel_accepted {draft : DeviceLink.Tunnel.Draft ρ}
    (h : l.newTunnel draft = some (l', i)) (endpoint accessToken : String)
    (mode : DeviceLink.Tunnel.Mode) :
    ¬(newTunnel endpoint accessToken mode).isRefused l.faults := by
  unfold Library.newTunnel at h
  split at h
  · cases h
  · assumption

theorem taken_newTunnel {draft : DeviceLink.Tunnel.Draft ρ}
    (h : l.newTunnel draft = some (l', i)) : taken l l' = ofTunnel { draft } := by
  unfold Library.newTunnel at h
  split at h
  · cases h
  · cases h
    simp [taken, count]

theorem trades_newTunnel {draft : DeviceLink.Tunnel.Draft ρ}
    (h : l.newTunnel draft = some (l', i)) (others : List Object) :
    Trades l others l' (⟨.tunnel, i⟩ :: others) := by
  obtain ⟨hmade, hnumber⟩ := newTunnel_made h
  rw [hnumber]
  exact .made hmade others

end

end NativeStep

/-! ## Plans -/

/-- The native steps that building a handle consists of, or why there are none. -/
abbrev Plan := Except ClientError (List NativeStep)

namespace Plan

/-- What stands in the way of a plan under the faults in force: there is none, or its first step
that is refused. -/
def obstacle? (plan : Plan) (faults : Faults) : Option ClientError :=
  match plan with
  | .error e => some e
  | .ok steps => (steps.find? (·.isRefused faults)).map NativeStep.refusal

/-- The steps of a plan before the first one that is refused. -/
def accepted (plan : Plan) (faults : Faults) : List NativeStep :=
  match plan with
  | .error _ => []
  | .ok steps => steps.takeWhile fun step => !step.isRefused faults

variable {faults : Faults} {step : NativeStep} {steps : List NativeStep}

theorem obstacle?_of_refused (h : step.isRefused faults) :
    obstacle? (.ok (step :: steps)) faults = some step.refusal := by
  simp [obstacle?, h]

theorem accepted_of_refused (h : step.isRefused faults) :
    accepted (.ok (step :: steps)) faults = [] := by
  simp [accepted, h]

theorem obstacle?_of_accepted (h : ¬step.isRefused faults) :
    obstacle? (.ok (step :: steps)) faults = obstacle? (.ok steps) faults := by
  simp [obstacle?, h]

theorem accepted_of_accepted (h : ¬step.isRefused faults) :
    accepted (.ok (step :: steps)) faults = step :: accepted (.ok steps) faults := by
  simp [accepted, h]

end Plan

/-- The plan of a client. -/
def clientPlan (config : ClientConfig) : Plan :=
  config.config.map fun checked => [.newConnection checked, .connect config.options config.endpoint]

/-- The plan of a handle on jobs. -/
def jobsPlan (scope : Jobs.Scope) (topics : List Jobs.Topic) : Plan :=
  .ok (.newJobsClient :: topics.map (.subscribe scope))

/-- The plan of a listener for tunnels. -/
def listenerPlan (thing : String) (qos : Qos) : Plan :=
  .ok [.newTunnelingClient, .notifySubscribe thing qos]

/-- The plan of a tunnel. -/
def tunnelPlan (endpoint accessToken : String) (mode : Tunnel.Mode) : Plan :=
  .ok [.newTunnel endpoint accessToken mode]

/-! ## Outcomes -/

/-- The objects that a handle holds. -/
def Holding.objects : Holding → List Object
  | client i | rawConnection i => [⟨.connection, i⟩]
  | queue j i _ | job j i _ _ => [⟨.jobsClient, j⟩, ⟨.connection, i⟩]
  | rawJobs j => [⟨.jobsClient, j⟩]
  | listener n i _ => [⟨.tunnelingClient, n⟩, ⟨.connection, i⟩]
  | tunnel t | rawTunnel t => [⟨.tunnel, t⟩]

namespace State

/-- How building a handle changes the bench: not at all but for objects that are gone again, or by
the handle and what it holds. -/
inductive Built (sort : String) (s : State) (others : List Object) : State → Prop
  | refused {library : Library Receiver} (htrades : Trades s.library others library others) :
    Built sort s others (s.withLibrary library)
  | added {library : Library Receiver} (holding : Holding)
    {sessions : List (String × Agent.Session)}
    (htrades : Trades s.library others library (holding.objects ++ others))
    (hsessions : ∀ x ∈ sessions, x.2.mailbox ≠ [] → x ∈ s.sessions) :
    Built sort s others
      { (s.withLibrary library).addHandle (s.nextName sort) holding with sessions }

/-- How building a handle by a plan ends: at an obstacle and with nothing, or with the handle, which
holds also what it is built on. -/
inductive Outcome (plan : Plan) (sort : String) (base : List Object) (s : State)
    (others : List Object) : State × Except ClientError String → Prop
  | refused {library : Library Receiver} {e : ClientError}
    (hobstacle : plan.obstacle? s.library.faults = some e)
    (htaken : NativeStep.taken s.library library = plan.accepted s.library.faults)
    (htrades : Trades s.library others library others)
    (hrest : s.library.Undisturbed library) :
    Outcome plan sort base s others (s.withLibrary library, .error e)
  | built {library : Library Receiver} (holding : Holding)
    {sessions : List (String × Agent.Session)}
    (hobstacle : plan.obstacle? s.library.faults = none)
    (htaken : NativeStep.taken s.library library = plan.accepted s.library.faults)
    (htrades : Trades s.library others library (holding.objects ++ others))
    (hbase : base ⊆ holding.objects)
    (hsessions : ∀ x ∈ sessions, x.2.mailbox ≠ [] → x ∈ s.sessions) :
    Outcome plan sort base s others
      ({ (s.withLibrary library).addHandle (s.nextName sort) holding with sessions },
        .ok (s.nextName sort))

theorem Outcome.shape {plan : Plan} {sort : String} {s : State} {base others : List Object}
    {result : State × Except ClientError String} (h : Outcome plan sort base s others result) :
    Built sort s others result.1 := by
  cases h with
  | refused _ _ htrades _ => exact .refused htrades
  | built holding _ _ htrades _ hsessions => exact .added holding htrades hsessions

variable (s : State) (others : List Object)

/-! ## Clients -/

theorem endpoint_of_config {config : ClientConfig} {checked : Config}
    (h : config.config = .ok checked) : checked.endpoint = config.endpoint := by
  obtain ⟨auth, -, -, rfl⟩ := ClientConfig.config_eq_ok.1 h
  rfl

/-- Starting a client on a new connection. -/
theorem start_fresh (checked : Config) (faults : Faults) (receiver : Receiver)
    (config : ClientConfig) :
    Client.start (⟨{ config := checked }, faults⟩ : Endpoint Receiver) receiver config =
      if faults.isSet .connect then
        (⟨{ config := checked
            lifecycle := .all receiver
            lastError := ErrorCode.connectOptionsValidation.code }, faults⟩,
          .error (.connect config.clientId config.endpoint
            (ErrorCode.describe ErrorCode.connectOptionsValidation.code)))
      else
        (⟨{ config := checked, lifecycle := .all receiver, options := some config.options },
          faults⟩, .ok ()) := by
  simp only [Client.start, Backend.setHandlers, Backend.connect, Backend.lastError, Endpoint.lift,
    Simulated.Connection.setHandlers, Simulated.Connection.connect, Simulated.Connection.failed]
  by_cases h : faults.isSet .connect
  · simp [h]
  · simp [h]

theorem newClient_outcome (config : ClientConfig) (session : Bool) :
    Outcome (clientPlan config) "m" [] (s.note Client.startNote) others
      (s.newClient config session) := by
  unfold newClient clientPlan
  generalize s.note Client.startNote = s
  cases hconfig : config.config with
  | error e => exact .refused rfl (NativeStep.taken_refl _) (.refl ..) (.refl _)
  | ok checked =>
    have hendpoint : checked.endpoint = config.endpoint := endpoint_of_config hconfig
    cases hnew : s.library.newConnection checked with
    | error e =>
      obtain ⟨hrefused, hrefusal⟩ := NativeStep.newConnection_refused hnew
      simp only [hnew]
      refine .refused ?_ ?_ (.refl ..) (.refl _)
      · exact (Plan.obstacle?_of_refused hrefused).trans (congrArg some hrefusal)
      · exact (NativeStep.taken_refl _).trans (Plan.accepted_of_refused hrefused).symm
    | ok made =>
      obtain ⟨library, i⟩ := made
      obtain ⟨haccepted, hfaults⟩ := NativeStep.newConnection_accepted hnew
      -- The connection is there; whether it stays depends on the second step.
      by_cases hconnect : s.library.faults.isSet .connect
      · have hrefused : (NativeStep.connect config.options config.endpoint).isRefused
          s.library.faults := hconnect
        simp only [hnew, hfaults, start_fresh, if_pos hconnect]
        refine .refused ?_ ?_ ?_ (NativeStep.undisturbed_newConnection hnew _).releaseConnection
        · exact (Plan.obstacle?_of_accepted haccepted).trans (Plan.obstacle?_of_refused hrefused)
        · rw [NativeStep.taken_releaseConnection, NativeStep.taken_newConnection hnew]
          simp only [Except.map, Plan.accepted_of_accepted haccepted,
            Plan.accepted_of_refused hrefused]
          rfl
        · exact (NativeStep.trades_newConnection hnew _ others).trans
            (.released (releaseConnection_released ..) _)
      · have haccepted' : ¬(NativeStep.connect config.options config.endpoint).isRefused
          s.library.faults := hconnect
        simp only [hnew, hfaults, start_fresh, if_neg hconnect]
        refine .built (.client i) ?_ ?_ (NativeStep.trades_newConnection hnew _ others)
          (List.nil_subset _) fun x hx hmail => ?_
        · exact (Plan.obstacle?_of_accepted haccepted).trans
            (Plan.obstacle?_of_accepted haccepted')
        · rw [NativeStep.taken_newConnection hnew, NativeStep.ofConnection, hendpoint]
          simp only [Except.map, Plan.accepted_of_accepted haccepted,
            Plan.accepted_of_accepted haccepted']
          rfl
        · cases session
          · exact hx
          · obtain hx | hx := List.mem_append.1 hx
            · exact hx
            · rw [List.mem_singleton.1 hx] at hmail
              exact absurd rfl hmail

/-! ## Handles on jobs -/

/-- Subscribing to topics in order: up to the first one that is refused. -/
theorem subscribeAll_eq {ρ : Type} (c : JobsClient ρ) (faults : Faults) (scope : Jobs.Scope)
    (receiver : ρ) (topics : List Jobs.Topic) :
    (c.subscribeAll faults scope receiver topics).2 =
        topics.find? (fun topic => (NativeStep.subscribe scope topic).isRefused faults) ∧
      (c.subscribeAll faults scope receiver topics).1.subscriptions = c.subscriptions ++
        (topics.takeWhile fun topic => !(NativeStep.subscribe scope topic).isRefused faults).map
          fun topic => ⟨scope, topic, receiver⟩ := by
  induction topics generalizing c with
  | nil => simp [JobsClient.subscribeAll]
  | cons topic topics ih =>
    rw [JobsClient.subscribeAll, JobsClient.subscribe]
    by_cases h : (NativeStep.subscribe scope topic).isRefused faults
    · have hfault : (faults.isSet (.subscribe topic) ||
        faults.isSet .operationsRejected) = true := h
      simp [hfault, h]
    · have hfault : ¬(faults.isSet (.subscribe topic) ||
        faults.isSet .operationsRejected) = true := h
      simp [hfault, h, ih]

theorem subscribedJobsClient_spec (scope : Jobs.Scope) (topics : List Jobs.Topic)
    (receiver : Receiver) :
    ∃ library, NativeStep.taken s.library library =
        (jobsPlan scope topics).accepted s.library.faults ∧
      ((∃ e, (jobsPlan scope topics).obstacle? s.library.faults = some e ∧
          s.subscribedJobsClient scope topics receiver = (s.withLibrary library, .error e) ∧
          Trades s.library others library others ∧ s.library.Undisturbed library) ∨
        ∃ j, (jobsPlan scope topics).obstacle? s.library.faults = none ∧
          s.subscribedJobsClient scope topics receiver = (s.withLibrary library, .ok j) ∧
          Trades s.library others library (⟨.jobsClient, j⟩ :: others)) := by
  unfold subscribedJobsClient
  cases hnew : s.library.newJobsClient with
  | error e =>
    obtain ⟨hrefused, hrefusal⟩ := NativeStep.newJobsClient_refused hnew
    refine ⟨s.library, ?_, .inl ⟨_, ?_, rfl, .refl .., .refl _⟩⟩
    · exact (NativeStep.taken_refl _).trans (Plan.accepted_of_refused hrefused).symm
    · exact (Plan.obstacle?_of_refused hrefused).trans (congrArg some hrefusal)
  | ok made =>
    obtain ⟨library, j⟩ := made
    obtain ⟨haccepted, hfaults⟩ := NativeStep.newJobsClient_accepted hnew
    obtain ⟨hrefused, hsubscriptions⟩ :=
      subscribeAll_eq ({} : JobsClient Receiver) s.library.faults scope receiver topics
    obtain ⟨client, refused, hall⟩ : ∃ client refused, JobsClient.subscribeAll {} s.library.faults
        scope receiver topics = (client, refused) := ⟨_, _, rfl⟩
    simp only [hfaults, hall]
    simp only [hall, List.nil_append] at hrefused hsubscriptions
    -- What the plan says of the subscriptions, whether one of them is refused or not.
    have htaken : NativeStep.ofJobsClient client =
        (jobsPlan scope topics).accepted s.library.faults := by
      rw [jobsPlan, Plan.accepted_of_accepted haccepted, NativeStep.ofJobsClient, hsubscriptions]
      simp [Plan.accepted, List.takeWhile_map, Function.comp_def]
    have hobstacle : (jobsPlan scope topics).obstacle? s.library.faults =
        refused.map fun topic => .subscription topic.name := by
      rw [jobsPlan, Plan.obstacle?_of_accepted haccepted, hrefused]
      simp [Plan.obstacle?, List.find?_map, Function.comp_def, NativeStep.refusal]
    have hput := NativeStep.trades_newJobsClient hnew client others
    cases refused with
    | some topic =>
      refine ⟨(library.putJobsClient j client).releaseJobsClient j, ?_,
        .inl ⟨_, hobstacle, rfl, hput.trans (.released (releaseJobsClient_released ..) _),
          (NativeStep.undisturbed_newJobsClient hnew client).releaseJobsClient⟩⟩
      rw [NativeStep.taken_releaseJobsClient, NativeStep.taken_newJobsClient hnew, htaken]
    | none =>
      refine ⟨library.putJobsClient j client, ?_, .inr ⟨_, hobstacle, rfl, hput⟩⟩
      rw [NativeStep.taken_newJobsClient hnew, htaken]

variable {others} {i : ℕ}

/-- A handle on a jobs client with its subscriptions and on the connection it is built on. -/
theorem jobsHandle_outcome (hi : ⟨.connection, i⟩ ∈ others) (scope : Jobs.Scope)
    (topics : List Jobs.Topic) (receiver : Receiver) (sort : String) (holding : ℕ → Holding)
    (hobjects : ∀ j, (holding j).objects = [⟨.jobsClient, j⟩, ⟨.connection, i⟩]) :
    Outcome (jobsPlan scope topics) sort [⟨.connection, i⟩] s others
      (let result := s.subscribedJobsClient scope topics receiver
      match result.2 with
      | .error e => (result.1, .error e)
      | .ok j =>
        ((result.1.withLibrary (result.1.library.retainConnection i)).addHandle (s.nextName sort)
          (holding j), .ok (s.nextName sort))) := by
  obtain ⟨library, htaken, ⟨e, hobstacle, heq, htrades, hrest⟩ | ⟨j, hobstacle, heq, htrades⟩⟩ :=
    s.subscribedJobsClient_spec others scope topics receiver
  · simp only [heq]
    exact .refused hobstacle htaken htrades hrest
  · simp only [heq]
    refine .built (holding j) hobstacle ?_ ?_ ?_ fun _ hx _ => hx
    · exact NativeStep.taken_retainConnection.trans htaken
    · rw [hobjects]
      exact (htrades.trans (.retained (retainConnection_retained ..)
        (List.mem_cons_of_mem _ hi))).perm (List.Perm.swap ..)
    · simp [hobjects]

theorem newQueue_outcome (hi : ⟨.connection, i⟩ ∈ others) (thing : String) :
    Outcome (jobsPlan { thing := some thing } Jobs.Queue.topics) "j" [⟨.connection, i⟩]
      (s.note (Jobs.Queue.startNote thing)) others (s.newQueue i thing) :=
  jobsHandle_outcome _ hi _ _ (.queue _) "j" (.queue · i thing) fun _ => rfl

theorem newJob_outcome (hi : ⟨.connection, i⟩ ∈ others) (thing job : String) :
    Outcome (jobsPlan { thing := some thing, job := some job } Jobs.Job.topics) "e"
      [⟨.connection, i⟩] (s.note (Jobs.Job.startNote thing job)) others (s.newJob i thing job) :=
  jobsHandle_outcome _ hi _ _ (.job _) "e" (.job · i thing job) fun _ => rfl

/-! ## Handles on tunnels -/

theorem newListener_outcome (hi : ⟨.connection, i⟩ ∈ others) (thing : String) (qos : Qos) :
    Outcome (listenerPlan thing qos) "n" [⟨.connection, i⟩]
      (s.note (Tunnel.Listener.startNote thing)) others (s.newListener i thing qos) := by
  unfold newListener listenerPlan
  generalize s.note (Tunnel.Listener.startNote thing) = s
  cases hnew : s.library.newTunnelingClient with
  | none =>
    have hrefused := NativeStep.newTunnelingClient_refused hnew
    simp only [hnew]
    refine .refused (Plan.obstacle?_of_refused hrefused) ?_ (.refl ..) (.refl _)
    exact (NativeStep.taken_refl _).trans (Plan.accepted_of_refused hrefused).symm
  | some made =>
    obtain ⟨library, n⟩ := made
    obtain ⟨haccepted, hfaults⟩ := NativeStep.newTunnelingClient_accepted hnew
    by_cases hsubscribe : (NativeStep.notifySubscribe thing qos).isRefused s.library.faults
    · have hfault : (s.library.faults.isSet .notifySubscribe ||
        s.library.faults.isSet .operationsRejected) = true := hsubscribe
      simp only [hnew, hfaults, TunnelingClient.subscribe, hfault, if_true, Bool.false_eq_true,
        if_false]
      refine .refused ?_ ?_ ?_
        (NativeStep.undisturbed_newTunnelingClient hnew _).releaseTunnelingClient
      · exact (Plan.obstacle?_of_accepted haccepted).trans (Plan.obstacle?_of_refused hsubscribe)
      · rw [NativeStep.taken_releaseTunnelingClient, NativeStep.taken_newTunnelingClient hnew,
          Plan.accepted_of_accepted haccepted, Plan.accepted_of_refused hsubscribe]
        rfl
      · exact (NativeStep.trades_newTunnelingClient hnew _ others).trans
          (.released (releaseTunnelingClient_released ..) _)
    · have hfault : ¬(s.library.faults.isSet .notifySubscribe ||
        s.library.faults.isSet .operationsRejected) = true := hsubscribe
      simp only [hnew, hfaults, TunnelingClient.subscribe, if_neg hfault, if_true]
      refine .built (.listener n i thing) ?_ ?_ ?_ (by simp [Holding.objects]) fun _ hx _ => hx
      · exact (Plan.obstacle?_of_accepted haccepted).trans (Plan.obstacle?_of_accepted hsubscribe)
      · refine NativeStep.taken_retainConnection.trans ?_
        rw [NativeStep.taken_newTunnelingClient hnew, Plan.accepted_of_accepted haccepted,
          Plan.accepted_of_accepted hsubscribe]
        rfl
      · exact ((NativeStep.trades_newTunnelingClient hnew _ others).trans
          (.retained (retainConnection_retained ..) (List.mem_cons_of_mem _ hi))).perm
            (List.Perm.swap ..)

/-- Registering receivers leaves the rest of a draft as it is. -/
theorem ofTunnel_registerAll (draft : Tunnel.Draft Receiver) (slots : List Tunnel.Slot)
    (receiver : Receiver) :
    NativeStep.ofTunnel { draft := draft.registerAll slots receiver } =
      NativeStep.ofTunnel { draft } := by
  induction slots generalizing draft with
  | nil => rfl
  | cons slot slots ih => exact (ih (draft.register slot receiver)).trans rfl

theorem newTunnel_outcome (endpoint accessToken : String) (mode : Tunnel.Mode) :
    Outcome (tunnelPlan endpoint accessToken mode) "t" []
      (s.note (Tunnel.startNote endpoint mode)) others (s.newTunnel endpoint accessToken mode) := by
  unfold newTunnel tunnelPlan
  generalize s.note (Tunnel.startNote endpoint mode) = s
  dsimp only
  generalize hdraft : Tunnel.Draft.registerAll { endpoint, accessToken, mode } Tunnel.Slot.all
    (Receiver.tunnel (s.nextName "t")) = draft
  have hstep : NativeStep.ofTunnel { draft } = [.newTunnel endpoint accessToken mode] := by
    rw [← hdraft, ofTunnel_registerAll]
    rfl
  cases hnew : s.library.newTunnel draft with
  | none =>
    have hrefused := NativeStep.newTunnel_refused hnew endpoint accessToken mode
    refine .refused (Plan.obstacle?_of_refused hrefused) ?_ (.refl ..) (.refl _)
    exact (NativeStep.taken_refl _).trans (Plan.accepted_of_refused hrefused).symm
  | some made =>
    obtain ⟨library, t⟩ := made
    have haccepted := NativeStep.newTunnel_accepted hnew endpoint accessToken mode
    refine .built (.tunnel t) (Plan.obstacle?_of_accepted haccepted) ?_
      (NativeStep.trades_newTunnel hnew others) (List.nil_subset _) fun _ hx _ => hx
    rw [NativeStep.taken_newTunnel hnew, hstep, Plan.accepted_of_accepted haccepted]
    rfl

/-! ## Handles of the bench's own -/

theorem newRawConnection_built (draft : Draft) (lifecycle : Lifecycle Receiver) :
    Built "m" s others (s.newRawConnection draft lifecycle).1 := by
  unfold newRawConnection
  cases draft.build with
  | error fault => exact .refused (.refl ..)
  | ok config =>
    cases hnew : s.library.newConnection config with
    | error e =>
      simp only [hnew]
      exact .refused (.refl ..)
    | ok made =>
      simp only [hnew]
      exact .added (.rawConnection made.2) (NativeStep.trades_newConnection hnew _ others)
        fun _ hx _ => hx

theorem newRawJobs_built : Built "j" s others s.newRawJobs.1 := by
  unfold newRawJobs
  cases hnew : s.library.newJobsClient with
  | error e => exact .refused (.refl ..)
  | ok made =>
    obtain ⟨hmade, hnumber⟩ := newJobsClient_made hnew
    refine .added (.rawJobs made.2) ?_ fun _ hx _ => hx
    rw [hnumber]
    exact .made hmade others

theorem newRawTunnel_built (draft : Tunnel.Draft Receiver) :
    Built "t" s others (s.newRawTunnel draft).1 := by
  unfold newRawTunnel
  cases hnew : s.library.newTunnel draft with
  | none => exact .refused (.refl ..)
  | some made =>
    exact .added (.rawTunnel made.2) (NativeStep.trades_newTunnel hnew others) fun _ hx _ => hx

end State

end DeviceLink.Bench
