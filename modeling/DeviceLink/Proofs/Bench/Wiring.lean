import DeviceLink.Proofs.Bench.Ledger
import Mathlib.Data.List.TakeWhile
/-!
# What handles on jobs are subscribed to

Every handle on jobs has a jobs client of its own, subscribed once to each topic of the handle, and
on each of them it is the handle that is told. No step ever changes that.
-/

namespace DeviceLink.Simulated

open Mqtt

variable {ρ : Type}

/-- The subscriptions of the jobs client of a number, alive or not. -/
def Library.subscriptions? (l : Library ρ) (j : ℕ) : Option (List (JobsSubscription ρ)) :=
  l.jobsClients[j]?.map (·.object.subscriptions)

/-- Whether the jobs clients that were there before have the same subscriptions. -/
def Library.Extends (l l' : Library ρ) : Prop :=
  ∀ j subscriptions, l.subscriptions? j = some subscriptions →
    l'.subscriptions? j = some subscriptions

namespace Library

variable {l l' : Library ρ} {i j : ℕ}

theorem Extends.of_eq (h : l'.subscriptions? = l.subscriptions?) : l.Extends l' := by
  intro j subscriptions hj
  rw [h]
  exact hj

theorem subscriptions?_of_get? {c : JobsClient ρ} (h : l.jobsClients.get? j = some c) :
    l.subscriptions? j = some c.subscriptions := by
  obtain ⟨holders, -, heq⟩ := Shelf.getElem?_of_get? h
  rw [subscriptions?, heq]
  rfl

theorem subscriptions?_modify (f : Held (JobsClient ρ) → Held (JobsClient ρ))
    (hf : ∀ x, (f x).object.subscriptions = x.object.subscriptions) :
    subscriptions? { l with jobsClients := l.jobsClients.modify j f } = l.subscriptions? := by
  funext k
  rw [subscriptions?, subscriptions?, List.getElem?_modify]
  cases l.jobsClients[k]? with
  | none => rfl
  | some x => by_cases hjk : j = k <;> simp [hjk, hf]

theorem subscriptions?_put (c : JobsClient ρ) :
    (l.putJobsClient j c).subscriptions? j = (l.subscriptions? j).map fun _ => c.subscriptions := by
  rw [subscriptions?, subscriptions?, putJobsClient, Shelf.put, List.getElem?_modify]
  cases l.jobsClients[j]? with
  | none => rfl
  | some x => simp

theorem subscriptions?_put_ne (c : JobsClient ρ) (h : i ≠ j) :
    (l.putJobsClient j c).subscriptions? i = l.subscriptions? i := by
  rw [subscriptions?, subscriptions?, putJobsClient, Shelf.put, List.getElem?_modify]
  simp [h.symm]

/-- A jobs client that is put back with its subscriptions. -/
theorem subscriptions?_put_same {c : JobsClient ρ}
    (h : l.subscriptions? j = some c.subscriptions) :
    (l.putJobsClient j c).subscriptions? = l.subscriptions? := by
  funext i
  by_cases hij : i = j
  · rw [hij, subscriptions?_put, h]
    rfl
  · exact subscriptions?_put_ne c hij

theorem subscriptions?_releaseJobsClient :
    (l.releaseJobsClient j).subscriptions? = l.subscriptions? :=
  (l.discount _).subscriptions?_modify _ fun _ => rfl

/-- A new jobs client has no subscriptions yet, and the others have theirs. -/
theorem subscriptions?_newJobsClient (h : l.newJobsClient = .ok (l', j)) :
    l.subscriptions? j = none ∧ l'.subscriptions? j = some [] ∧
      ∀ i ≠ j, l'.subscriptions? i = l.subscriptions? i := by
  unfold newJobsClient at h
  split at h
  · cases h
  · cases h
    refine ⟨by simp [subscriptions?], by simp [subscriptions?], fun i hi => ?_⟩
    simp only [subscriptions?]
    obtain hlt | hgt := Nat.lt_or_gt_of_ne hi
    · rw [List.getElem?_append_left hlt]
    · rw [List.getElem?_eq_none hgt.le, List.getElem?_eq_none (by simp; omega)]

/-- What has subscriptions is not what has none. -/
theorem ne_of_subscriptions? {subscriptions : List (JobsSubscription ρ)}
    (hi : l.subscriptions? i = some subscriptions) (hj : l.subscriptions? j = none) : i ≠ j := by
  rintro rfl
  rw [hj] at hi
  cases hi

theorem extends_newJobsClient (h : l.newJobsClient = .ok (l', j)) : l.Extends l' := by
  obtain ⟨hnone, -, hothers⟩ := subscriptions?_newJobsClient h
  intro i subscriptions hi
  rwa [hothers i (ne_of_subscriptions? hi hnone)]

/-- What is put in the place of a jobs client that was not there does not touch the others. -/
theorem Extends.put (h : l.Extends l') (hnone : l.subscriptions? j = none) (c : JobsClient ρ) :
    l.Extends (l'.putJobsClient j c) := by
  intro i subscriptions hi
  rw [subscriptions?_put_ne c (ne_of_subscriptions? hi hnone)]
  exact h i subscriptions hi

theorem subscriptions?_newConnection {config : Config} (h : l.newConnection config = .ok (l', i)) :
    l'.subscriptions? = l.subscriptions? := by
  unfold newConnection at h
  split at h
  · cases h
  · cases h
    rfl

theorem subscriptions?_newTunnelingClient (h : l.newTunnelingClient = some (l', i)) :
    l'.subscriptions? = l.subscriptions? := by
  unfold newTunnelingClient at h
  split at h
  · cases h
  · cases h
    rfl

theorem subscriptions?_newTunnel {draft : DeviceLink.Tunnel.Draft ρ}
    (h : l.newTunnel draft = some (l', i)) : l'.subscriptions? = l.subscriptions? := by
  unfold newTunnel at h
  split at h
  · cases h
  · cases h
    rfl

end Library

end DeviceLink.Simulated

namespace DeviceLink.Bench

open Mqtt Simulated Library

/-- Whether what a handle holds has the subscriptions that belong to it: those of a queue or of a
job tell the handle, and those of the bench's own never tell one. -/
def Holding.Fits (l : Library Receiver) (name : String) : Holding → Prop
  | queue j _ thing => l.subscriptions? j =
    some (Jobs.Queue.topics.map fun topic => ⟨{ thing := some thing }, topic, .queue name⟩)
  | job j _ thing id => l.subscriptions? j =
    some (Jobs.Job.topics.map fun topic =>
      ⟨{ thing := some thing, job := some id }, topic, .job name⟩)
  | rawJobs j => ∃ subscriptions, l.subscriptions? j = some subscriptions ∧
    ∀ x ∈ subscriptions, x.receiver = .raw
  | client _ | rawConnection _ | listener .. | tunnel _ | rawTunnel _ => True

theorem Holding.Fits.extend {l l' : Library Receiver} {name : String} {holding : Holding}
    (h : holding.Fits l name) (hextends : l.Extends l') : holding.Fits l' name := by
  cases holding with
  | queue | job => exact hextends _ _ h
  | rawJobs =>
    obtain ⟨subscriptions, hsubscriptions, hraw⟩ := h
    exact ⟨subscriptions, hextends _ _ hsubscriptions, hraw⟩
  | client | rawConnection | listener | tunnel | rawTunnel => trivial

/-- Where the bench's own handler subscribes, no handle is told. -/
theorem Holding.Fits.put {l : Library Receiver} {name : String} {holding : Holding} {j : ℕ}
    {subscriptions : List (JobsSubscription Receiver)} (h : holding.Fits l name)
    (hj : l.subscriptions? j = some subscriptions) (hraw : ∀ x ∈ subscriptions, x.receiver = .raw)
    {c : JobsClient Receiver} (hc : ∀ x ∈ c.subscriptions, x.receiver = .raw) :
    holding.Fits (l.putJobsClient j c) name := by
  cases holding with
  | queue i | job i =>
    -- Its own client has a subscription that tells the handle, and the one put back has none.
    have hne : i ≠ j := by
      rintro rfl
      obtain rfl := Option.some.inj (hj.symm.trans h)
      exact absurd (hraw _ List.mem_cons_self) nofun
    exact (subscriptions?_put_ne c hne).trans h
  | rawJobs i =>
    by_cases hij : i = j
    · refine ⟨c.subscriptions, ?_, hc⟩
      rw [hij, subscriptions?_put, hj]
      rfl
    · obtain ⟨others, hothers, hall⟩ := h
      exact ⟨others, (subscriptions?_put_ne c hij).trans hothers, hall⟩
  | client | rawConnection | listener | tunnel | rawTunnel => trivial

namespace State

/-- All handles have the subscriptions that belong to them. -/
structure Wired (s : State) : Prop where
  fits : ∀ x ∈ s.handles, x.2.holding.Fits s.library x.1

theorem Wired.fits_of_lookup {s : State} (h : s.Wired) {name : String} {handle : Handle}
    (hlookup : s.handles.lookup name = some handle) : handle.holding.Fits s.library name := by
  obtain ⟨before, rest, heq, -⟩ := List.lookup_eq_some_iff.1 hlookup
  exact h.fits (name, handle) (by rw [heq]; simp)

/-! ## What leaves the subscriptions alone -/

/-- The handles, and what jobs clients are subscribed to. -/
def wiring (s : State) : List (String × Handle) × (ℕ → Option (List (JobsSubscription Receiver))) :=
  (s.handles, s.library.subscriptions?)

variable {s s' : State}

theorem Wired.of_wiring (h : s.Wired) (hwiring : s'.wiring = s.wiring) : s'.Wired := by
  obtain ⟨hhandles, hsubscriptions⟩ := Prod.mk.inj hwiring
  constructor
  intro x hx
  rw [hhandles] at hx
  exact (h.fits x hx).extend (.of_eq hsubscriptions)

theorem wiring_foldl {α : Type} {f : State → α → State} (hf : ∀ s a, (f s a).wiring = s.wiring)
    (l : List α) (s : State) : (l.foldl f s).wiring = s.wiring := by
  induction l generalizing s with
  | nil => rfl
  | cons a l ih => exact (ih (f s a)).trans (hf s a)

theorem wiring_withLibrary (s : State) {library : Library Receiver}
    (h : library.subscriptions? = s.library.subscriptions?) :
    (s.withLibrary library).wiring = s.wiring :=
  Prod.ext rfl h

@[simp] theorem wiring_note (s : State) (line : Log.Line) : (s.note line).wiring = s.wiring := by
  unfold note
  split <;> rfl

@[simp] theorem wiring_noteAll (s : State) (lines : List Log.Line) :
    (s.noteAll lines).wiring = s.wiring :=
  wiring_foldl wiring_note lines s

@[simp] theorem wiring_invoke (s : State) (name : String) (c : Callback) :
    (s.invoke name c).wiring = s.wiring := by
  unfold invoke
  dsimp only
  split
  · exact wiring_note _ _
  · rfl

theorem wiring_tellSession (s : State) (name : String) (c : Mqtt.Callback) :
    (s.tellSession name c).wiring = s.wiring := rfl

theorem wiring_tellMqtt (s : State) (d : Delivery Receiver) : (s.tellMqtt d).wiring = s.wiring := by
  unfold tellMqtt
  split
  · exact (wiring_foldl (fun s c => s.wiring_invoke _ _) _ _).trans (s.wiring_noteAll _)
  · exact (wiring_foldl (fun s c => s.wiring_tellSession _ c) _ _).trans (s.wiring_noteAll _)
  all_goals rfl

theorem wiring_tellJobs (s : State) (receiver : Receiver) (signal : Jobs.Signal) :
    (s.tellJobs receiver signal).wiring = s.wiring := by
  unfold tellJobs
  split
  · split <;> simp
  · split <;> simp
  all_goals rfl

theorem wiring_tellListener (s : State) (receiver : Receiver) (signal : Tunnel.Listener.Signal) :
    (s.tellListener receiver signal).wiring = s.wiring := by
  unfold tellListener
  split
  · split <;> simp
  all_goals rfl

theorem wiring_tellTunnel (s : State) (receiver : Receiver) (e : Tunnel.Event) :
    (s.tellTunnel receiver e).wiring = s.wiring := by
  unfold tellTunnel
  split
  · simp
  all_goals rfl

@[simp] theorem wiring_tellAllMqtt (s : State) (ds : List (Delivery Receiver)) :
    (s.tellAllMqtt ds).wiring = s.wiring :=
  wiring_foldl wiring_tellMqtt ds s

@[simp] theorem wiring_tellAllJobs (s : State) (ds : List (Receiver × Jobs.Signal)) :
    (s.tellAllJobs ds).wiring = s.wiring := by
  unfold tellAllJobs
  apply wiring_foldl
  intro s d
  exact s.wiring_tellJobs d.1 d.2

@[simp] theorem wiring_tellAllListener (s : State)
    (ds : List (Receiver × Tunnel.Listener.Signal)) :
    (s.tellAllListener ds).wiring = s.wiring := by
  unfold tellAllListener
  apply wiring_foldl
  intro s d
  exact s.wiring_tellListener d.1 d.2

/-! ## Events and operations -/

theorem wiring_ack (s : State) (i : ℕ) (c : Simulated.Connection Receiver) (id : ℕ) (code : ℤ) :
    (s.ack i c id code).1.wiring = s.wiring :=
  wiring_tellAllMqtt ..

theorem wiring_ackAll (s : State) (i : ℕ) (c : Simulated.Connection Receiver) (code : ℤ) :
    (s.ackAll i c code).1.wiring = s.wiring :=
  wiring_tellAllMqtt ..

theorem wiring_completeSubscriptions {j : ℕ} {c : JobsClient Receiver}
    (h : s.library.jobsClients.get? j = some c) (ioError : ℤ) :
    (s.completeSubscriptions j c ioError).1.wiring = s.wiring := by
  refine (wiring_tellAllJobs ..).trans (s.wiring_withLibrary ?_)
  apply subscriptions?_put_same
  rw [subscriptions?_of_get? h]

theorem wiring_completePublishes {j : ℕ} {c : JobsClient Receiver}
    (h : s.library.jobsClients.get? j = some c) (ioError : ℤ) :
    (s.completePublishes j c ioError).1.wiring = s.wiring := by
  refine (wiring_tellAllJobs ..).trans (s.wiring_withLibrary ?_)
  apply subscriptions?_put_same
  rw [subscriptions?_of_get? h]

theorem wiring_completeListeners (s : State) (i : ℕ) (c : TunnelingClient Receiver) (code : ℤ) :
    (s.completeListeners i c code).1.wiring = s.wiring :=
  wiring_tellAllListener ..

theorem wiring_fireTunnel (s : State) (t : Simulated.Tunnel Receiver) (e : Tunnel.Event) :
    (s.fireTunnel t e).1.wiring = s.wiring := by
  unfold fireTunnel
  split
  · exact s.wiring_tellTunnel ..
  · rfl

theorem wiring_onConnection {α : Type} (s : State) (i : ℕ) (absent : α)
    (operation : Endpoint Receiver → Reply (Endpoint Receiver) α) :
    (s.onConnection i absent operation).1.wiring = s.wiring := by
  unfold onConnection
  split
  · rfl
  · exact wiring_noteAll ..

theorem wiring_publishTimes (s : State) (name : String) (i : ℕ) (topic : String) (qos : Qos)
    (retain : Bool) (payload : List UInt8) (times : ℕ) :
    (s.publishTimes name i topic qos retain payload times).1.wiring = s.wiring := by
  fun_induction publishTimes with
  | case1 => rfl
  | case2 s => exact s.wiring_onConnection ..
  | case3 s _ _ ih => exact ih.trans (s.wiring_onConnection ..)

theorem wiring_request (s : State) (j : ℕ) (r : Jobs.Request) (qos : Qos) (token : Token)
    (receiver : Receiver) : (s.request j r qos token receiver).1.wiring = s.wiring := by
  unfold request
  split
  · rfl
  · next client hclient =>
    apply s.wiring_withLibrary
    apply subscriptions?_put_same
    rw [subscriptions?_of_get? hclient]
    unfold JobsClient.publish
    split <;> rfl

theorem wiring_sendRequest (s : State) (j : ℕ) (r : Jobs.Request) (qos : Qos) (token : Token)
    (receiver : Receiver) (refused : Log.Line) :
    (s.sendRequest j r qos token receiver refused).1.wiring = s.wiring := by
  refine Eq.trans ?_ (s.wiring_request j r qos token receiver)
  unfold sendRequest
  dsimp only
  split
  · rfl
  · exact wiring_note _ _

theorem wiring_onTunnel (s : State) (t : ℕ)
    (call : Simulated.Tunnel Receiver → Simulated.Tunnel Receiver × ℤ) :
    (s.onTunnel t call).1.wiring = s.wiring := by
  unfold onTunnel
  split <;> rfl

theorem wiring_startTunnel (s : State) (t : ℕ) (throughHandle : Bool) :
    (s.startTunnel t throughHandle).1.wiring = s.wiring := by
  refine Eq.trans ?_ (s.wiring_onTunnel t (·.start s.library.faults))
  unfold startTunnel
  dsimp only
  split
  · exact wiring_note _ _
  · rfl

theorem wiring_stopTunnel (s : State) (t : ℕ) (throughHandle : Bool) :
    (s.stopTunnel t throughHandle).1.wiring = s.wiring := by
  refine Eq.trans ?_ (s.wiring_onTunnel t (·.stop))
  unfold stopTunnel
  dsimp only
  split
  · exact wiring_note _ _
  · rfl

theorem wiring_handleEvents (s : State) (name : String) (i : ℕ) (topics : List String) (qos : Qos)
    (events : List Agent.Event) :
    (s.handleEvents name i topics qos events).1.wiring = s.wiring := by
  unfold handleEvents
  split
  · rfl
  · exact wiring_noteAll ..

theorem wiring_answerMade (reporting : Reporting) (answer : String → Answer)
    (result : State × Except ClientError String) :
    (answerMade reporting answer result).1.wiring = result.1.wiring := by
  obtain ⟨s, name | e⟩ := result
  · cases reporting
    · rfl
    · exact wiring_note _ _
  · rfl

/-! ## What makes subscriptions -/

theorem Wired.withLibrary (h : s.Wired) {library : Library Receiver}
    (hextends : s.library.Extends library) : (s.withLibrary library).Wired :=
  ⟨fun x hx => (h.fits x hx).extend hextends⟩

/-- A handle more, with the subscriptions that belong to it. -/
theorem Wired.add (h : s.Wired) {library : Library Receiver} {name : String} {holding : Holding}
    {sessions : List (String × Agent.Session)} (hextends : s.library.Extends library)
    (hfits : holding.Fits library name) :
    ({ (s.withLibrary library).addHandle name holding with sessions } : State).Wired := by
  constructor
  intro x hx
  obtain hx | hx := List.mem_append.1 hx
  · exact (h.fits x hx).extend hextends
  · rw [List.mem_singleton.1 hx]
    exact hfits

/-- A jobs client is refused, or it is new and has just the subscriptions asked for. -/
theorem subscribedJobsClient_extends (s : State) (scope : Jobs.Scope) (topics : List Jobs.Topic)
    (receiver : Receiver) : ∃ library, s.library.Extends library ∧
      ((∃ e, s.subscribedJobsClient scope topics receiver = (s.withLibrary library, .error e)) ∨
        ∃ j, s.subscribedJobsClient scope topics receiver = (s.withLibrary library, .ok j) ∧
          library.subscriptions? j = some (topics.map fun topic => ⟨scope, topic, receiver⟩)) := by
  unfold subscribedJobsClient
  cases hnew : s.library.newJobsClient with
  | error e => exact ⟨s.library, .of_eq rfl, .inl ⟨_, rfl⟩⟩
  | ok made =>
    obtain ⟨library, j⟩ := made
    obtain ⟨hrefused, hsubscriptions⟩ :=
      subscribeAll_eq ({} : JobsClient Receiver) library.faults scope receiver topics
    obtain ⟨client, refused, hall⟩ : ∃ client refused, JobsClient.subscribeAll {} library.faults
        scope receiver topics = (client, refused) := ⟨_, _, rfl⟩
    obtain ⟨hnone, hnew', -⟩ := subscriptions?_newJobsClient hnew
    have hextends : s.library.Extends (library.putJobsClient j client) :=
      (extends_newJobsClient hnew).put hnone client
    simp only [hall] at hrefused hsubscriptions ⊢
    cases refused with
    | some topic =>
      -- The new client is let go, which no older one notices.
      refine ⟨_, ?_, .inl ⟨_, rfl⟩⟩
      intro i subscriptions hi
      rw [subscriptions?_releaseJobsClient]
      exact hextends i subscriptions hi
    | none =>
      refine ⟨_, hextends, .inr ⟨j, rfl, ?_⟩⟩
      -- No topic was refused, so all of them were accepted.
      rw [subscriptions?_put, hnew', hsubscriptions, List.takeWhile_eq_self_iff.2]
      · rfl
      · intro topic htopic
        simpa using List.find?_eq_none.1 hrefused.symm topic htopic

/-- A handle on a jobs client with its subscriptions. -/
theorem Wired.jobsHandle (h : s.Wired) (i : ℕ) {scope : Jobs.Scope} {topics : List Jobs.Topic}
    {receiver : Receiver} {name : String} {result : State × Except ClientError ℕ}
    (hresult : s.subscribedJobsClient scope topics receiver = result) (holding : ℕ → Holding)
    (hfits : ∀ library j, library.subscriptions? j =
      some (topics.map fun topic => ⟨scope, topic, receiver⟩) → (holding j).Fits library name) :
    (match result.2 with
      | .error e => (result.1, .error e)
      | .ok j =>
        ((result.1.withLibrary (result.1.library.retainConnection i)).addHandle name (holding j),
          .ok name) : State × Except ClientError String).1.Wired := by
  obtain ⟨library, hextends, ⟨e, heq⟩ | ⟨j, heq, hsubscriptions⟩⟩ :=
    s.subscribedJobsClient_extends scope topics receiver
  · rw [← hresult, heq]
    exact h.withLibrary hextends
  · rw [← hresult, heq]
    have hretained : s.library.Extends (library.retainConnection i) := hextends
    exact h.add hretained (hfits _ j hsubscriptions)

theorem Wired.note (h : s.Wired) (line : Log.Line) : (s.note line).Wired :=
  h.of_wiring (s.wiring_note line)

theorem Wired.newQueue (h : s.Wired) (i : ℕ) (thing : String) : (s.newQueue i thing).1.Wired :=
  (h.note _).jobsHandle i rfl (.queue · i thing) fun _ _ hsubscriptions => hsubscriptions

theorem Wired.newJob (h : s.Wired) (i : ℕ) (thing job : String) :
    (s.newJob i thing job).1.Wired :=
  (h.note _).jobsHandle i rfl (.job · i thing job) fun _ _ hsubscriptions => hsubscriptions

theorem Wired.newRawJobs (h : s.Wired) : s.newRawJobs.1.Wired := by
  unfold State.newRawJobs
  cases hnew : s.library.newJobsClient with
  | error e => exact h
  | ok made =>
    obtain ⟨library, j⟩ := made
    obtain ⟨-, hempty, -⟩ := subscriptions?_newJobsClient hnew
    exact h.add (extends_newJobsClient hnew) ⟨[], hempty, nofun⟩

theorem Wired.subscribeRawJobs (h : s.Wired) {name : String} {handle : Handle} {j : ℕ}
    (hlookup : s.handles.lookup name = some handle) (hj : handle.holding = .rawJobs j)
    (scope : Jobs.Scope) (topic : Jobs.Topic) : (s.subscribeRawJobs j scope topic).1.Wired := by
  have hfits := h.fits_of_lookup hlookup
  rw [hj] at hfits
  obtain ⟨subscriptions, hsubscriptions, hraw⟩ := hfits
  unfold State.subscribeRawJobs
  split
  · exact h
  · next client hclient =>
    obtain rfl := Option.some.inj ((subscriptions?_of_get? hclient).symm.trans hsubscriptions)
    have hmore : ∀ x ∈ (client.subscribe s.library.faults scope topic .raw).1.subscriptions,
        x.receiver = .raw := by
      unfold JobsClient.subscribe
      split
      · exact hraw
      · simpa [or_imp, forall_and] using hraw
    exact ⟨fun x hx => (h.fits x hx).put hsubscriptions hraw hmore⟩

theorem Wired.newClient (h : s.Wired) (config : ClientConfig) (session : Bool) :
    (s.newClient config session).1.Wired := by
  unfold State.newClient
  have hnote : (s.note Client.startNote).Wired := h.note _
  generalize s.note Client.startNote = s at hnote
  cases config.config with
  | error e => exact hnote
  | ok checked =>
    cases hnew : s.library.newConnection checked with
    | error e =>
      simp only [hnew]
      exact hnote
    | ok made =>
      have hextends : s.library.Extends made.1 := .of_eq (subscriptions?_newConnection hnew)
      simp only [hnew]
      split
      · exact hnote.withLibrary hextends
      · exact hnote.add hextends trivial

theorem Wired.newRawConnection (h : s.Wired) (draft : Draft) (lifecycle : Lifecycle Receiver) :
    (s.newRawConnection draft lifecycle).1.Wired := by
  unfold State.newRawConnection
  cases draft.build with
  | error fault => exact h
  | ok config =>
    cases hnew : s.library.newConnection config with
    | error e =>
      simp only [hnew]
      exact h
    | ok made =>
      have hextends : s.library.Extends made.1 := .of_eq (subscriptions?_newConnection hnew)
      simp only [hnew]
      exact h.add hextends trivial

theorem Wired.newListener (h : s.Wired) (i : ℕ) (thing : String) (qos : Qos) :
    (s.newListener i thing qos).1.Wired := by
  unfold State.newListener
  have hnote : (s.note (Tunnel.Listener.startNote thing)).Wired := h.note _
  generalize s.note (Tunnel.Listener.startNote thing) = s at hnote
  cases hnew : s.library.newTunnelingClient with
  | none =>
    simp only [hnew]
    exact hnote
  | some made =>
    have hextends : s.library.Extends made.1 := .of_eq (subscriptions?_newTunnelingClient hnew)
    simp only [hnew]
    split
    · exact hnote.add hextends trivial
    · exact hnote.withLibrary hextends

theorem Wired.newTunnel (h : s.Wired) (endpoint accessToken : String) (mode : Tunnel.Mode) :
    (s.newTunnel endpoint accessToken mode).1.Wired := by
  unfold State.newTunnel
  have hnote : (s.note (Tunnel.startNote endpoint mode)).Wired := h.note _
  generalize s.note (Tunnel.startNote endpoint mode) = s at hnote
  dsimp only
  split
  · exact hnote
  · next hnew => exact hnote.add (.of_eq (subscriptions?_newTunnel hnew)) trivial

theorem Wired.newRawTunnel (h : s.Wired) (draft : Tunnel.Draft Receiver) :
    (s.newRawTunnel draft).1.Wired := by
  unfold State.newRawTunnel
  split
  · exact h
  · next hnew => exact h.add (.of_eq (subscriptions?_newTunnel hnew)) trivial

/-- A handle that is dropped lets go of its objects, which keep their subscriptions. -/
theorem Wired.dropHandle (h : s.Wired) (name : String) (handle : Handle) :
    (s.dropHandle name handle).Wired := by
  have hletGo : (s.dropHandle name handle).library.subscriptions? = s.library.subscriptions? := by
    unfold State.dropHandle
    cases handle.holding with
    | queue | job | rawJobs => exact subscriptions?_releaseJobsClient
    | client | rawConnection | listener | tunnel | rawTunnel => rfl
  constructor
  intro x hx
  obtain ⟨y, hy, rfl⟩ := List.mem_map.1 hx
  have hfits := (h.fits y hy).extend (.of_eq hletGo)
  by_cases hname : y.1 = name
  · subst hname
    simpa using hfits
  · simpa [hname] using hfits

/-! ## Steps -/

/-- What a step does that is not refused keeps the subscriptions of every handle. -/
theorem Wired.attempt (h : s.Wired) (st : Step) : Leads Wired (s.attempt st) := by
  -- What makes a handle or a subscription has a lemma of its own; every other step leaves the wiring
  -- alone.
  have kept {s' : State} (hwiring : s'.wiring = s.wiring) : s'.Wired := h.of_wiring hwiring
  cases st with
  | inject | clear => exact leads_bind fun _ _ => leads_pure (kept rfl)
  | clearFaults | panicOn | counts => exact leads_pure (kept rfl)
  | drop name =>
    simp only [State.attempt]
    split
    · exact leads_throw _
    · split
      · exact leads_throw _
      · exact leads_pure (h.dropHandle ..)
  | wraps name =>
    simp only [State.attempt]
    split
    · exact leads_throw _
    · split
      · exact leads_throw _
      · split
        all_goals first | exact leads_throw _ | exact leads_pure h
  | newClient config reporting session =>
    exact leads_pure ((h.newClient ..).of_wiring (wiring_answerMade ..))
  | subscribe | subscribeMany =>
    refine leads_bind fun _ _ => leads_bind fun _ _ => leads_pure ?_
    rw [answerId_fst]
    exact kept (wiring_onConnection ..)
  | unsubscribe =>
    refine leads_bind fun _ _ => leads_pure ?_
    rw [answerId_fst]
    exact kept (wiring_onConnection ..)
  | publish =>
    refine leads_bind fun _ _ => leads_bind fun _ _ => leads_pure ?_
    rw [answerId_fst]
    exact kept (wiring_publishTimes ..)
  | disconnect => exact leads_bind fun _ _ => leads_pure (kept (wiring_onConnection ..))
  | connection | isSubscribed | jobsClient | listener | tunnel =>
    exact leads_bind fun _ _ => leads_pure h
  | fireCompleted | fireResumed =>
    exact leads_bind fun _ _ => leads_bind fun _ _ => leads_pure (kept (wiring_tellAllMqtt ..))
  | fireClosed | fireInterrupted =>
    exact leads_bind fun _ _ => leads_pure (kept (wiring_tellAllMqtt ..))
  | receive =>
    exact leads_bind fun _ _ => leads_bind fun _ _ => leads_pure (kept (wiring_tellAllMqtt ..))
  | ack => exact leads_bind fun _ _ => leads_pure (kept (wiring_ack ..))
  | ackAll => exact leads_bind fun _ _ => leads_pure (kept (wiring_ackAll ..))
  | newRawConnection calls lifecycle =>
    refine leads_pure ?_
    rw [answerRaw_fst]
    exact h.newRawConnection ..
  | connect => exact leads_bind fun _ _ => leads_pure (kept rfl)
  | sessionStatus name =>
    simp only [State.attempt]
    split
    · exact leads_pure h
    · exact leads_throw _
  | dropEvents name =>
    simp only [State.attempt]
    split
    · exact leads_throw _
    · exact leads_pure (kept rfl)
  | handleEvents name topics qos =>
    refine leads_bind fun _ _ => ?_
    split
    · exact leads_throw _
    · dsimp only
      split
      · exact leads_pure (kept rfl)
      · exact leads_pure (kept (wiring_handleEvents ..))
  | newQueue =>
    exact leads_bind fun _ _ => leads_bind fun _ _ =>
      leads_pure ((h.newQueue ..).of_wiring (wiring_answerMade ..))
  | newJob =>
    exact leads_bind fun _ _ => leads_bind fun _ _ =>
      leads_pure ((h.newJob ..).of_wiring (wiring_answerMade ..))
  | getPending | startNext | describe | update =>
    refine leads_bind fun found _ => ?_
    obtain ⟨handle, j⟩ := found
    dsimp only
    split
    all_goals first
      | exact leads_throw _
      | exact leads_bind fun _ _ => leads_pure (kept (wiring_sendRequest ..))
      | exact leads_bind fun _ _ => leads_pure (kept (wiring_request ..))
  | completeSubscriptions =>
    exact leads_bind fun _ hobject =>
      leads_pure (kept (wiring_completeSubscriptions (object_eq_ok hobject).2 _))
  | completePublishes =>
    exact leads_bind fun _ hobject =>
      leads_pure (kept (wiring_completePublishes (object_eq_ok hobject).2 _))
  | fire =>
    exact leads_bind fun _ _ => leads_bind fun _ _ => leads_pure (kept (wiring_tellAllJobs ..))
  | newRawJobs =>
    refine leads_bind fun _ _ => leads_pure ?_
    rw [answerRaw_fst]
    exact h.newRawJobs
  | subscribeRawJobs name topic qos scope =>
    refine leads_bind fun _ _ => leads_bind fun found hfound => ?_
    obtain ⟨hlookUp, -⟩ := lookUpLive_eq_ok hfound
    obtain ⟨hlookup, hnumber⟩ := lookUp_eq_ok hlookUp
    obtain ⟨⟨holding, dropped⟩, j⟩ := found
    dsimp only
    split
    · exact leads_throw _
    · next hraw =>
      refine leads_bind fun _ _ => leads_pure ?_
      -- A handle of the bench's own that has a jobs client.
      cases holding with
      | rawJobs i =>
        obtain rfl : i = j := Option.some.inj hnumber
        exact h.subscribeRawJobs hlookup rfl ..
      | queue | job => simp [Holding.isRaw] at hraw
      | client | rawConnection | listener | tunnel | rawTunnel => cases hnumber
  | newListener =>
    exact leads_bind fun _ _ => leads_bind fun _ _ =>
      leads_pure ((h.newListener ..).of_wiring (wiring_answerMade ..))
  | completeListeners => exact leads_bind fun _ _ => leads_pure (kept (wiring_completeListeners ..))
  | fireOpened => exact leads_bind fun _ _ => leads_pure (kept (wiring_tellAllListener ..))
  | newTunnel =>
    exact leads_bind fun _ _ =>
      leads_pure ((h.newTunnel ..).of_wiring (wiring_answerMade ..))
  | newRawTunnel => exact leads_bind fun _ _ => leads_pure (h.newRawTunnel _)
  | start => exact leads_bind fun _ _ => leads_pure (kept (wiring_startTunnel ..))
  | stop => exact leads_bind fun _ _ => leads_pure (kept (wiring_stopTunnel ..))
  | send => exact leads_bind fun _ _ => leads_pure (kept (wiring_onTunnel ..))
  | fireTunnel =>
    exact leads_bind fun _ _ => leads_bind fun _ _ => leads_pure (kept (wiring_fireTunnel ..))

theorem Wired.run (h : s.Wired) (st : Step) : (s.run st).1.Wired := by
  have hstep : (s.step st).1.Wired := by
    unfold step
    split
    · next result heq => exact h.attempt st result heq
    · exact h
  exact ⟨hstep.fits⟩

theorem Wired.after (h : s.Wired) (steps : List Step) : (s.after steps).Wired := by
  induction steps generalizing s with
  | nil => exact h
  | cons st steps ih => exact ih (h.run st)

end State

end DeviceLink.Bench
