import DeviceLink.Proofs.Bench.Deeds
/-!
# What a step does to the handles

Every step has one of the effects on the handles, whatever comes of it: the steps that make a
handle, and then all of them.
-/

namespace DeviceLink.Bench

open Mqtt Simulated Library

namespace State

variable {s s' : State} {st : Step} {name : String}

/-! ## New handles -/

theorem Rests.refl (s : State) : Rests s s := ⟨rfl, rfl, rfl, rfl, fun _ _ h => h⟩

theorem rests_withLibrary (s : State) {library : Library Receiver}
    (h : ∀ o x, s.library.native? o = some x → library.native? o = some x) :
    Rests s (s.withLibrary library) :=
  ⟨rfl, rfl, rfl, rfl, h⟩

/-- A step has made a handle, or left the others as they were. -/
def Grows (s : State) (st : Step) (s' : State) : Prop :=
  Rests s s' ∨ ∃ name holding x, Builds s st s' name holding x

theorem Grows.effect (h : Grows s st s') (hsubject : st.subject? = none) : Effect s st s' := by
  obtain h | ⟨name, holding, x, h⟩ := h
  · exact .rests hsubject h
  · exact .builds h

/-- Whatever is noted before. -/
theorem Grows.of_note (line : Log.Line) (h : Grows (s.note line) st s') : Grows s st s' := by
  unfold note at h
  split at h
  · obtain h | ⟨name, holding, x, h⟩ := h
    · exact .inl ⟨h.handles, h.sessions, h.shown, h.calls, h.natives⟩
    · exact .inr ⟨name, holding, x, h.fresh, h.product, h.adds, h.handles, h.sessions, h.shown,
        h.calls⟩
  · exact h

/-- Whatever is noted after. -/
theorem Grows.note (h : Grows s st s') (line : Log.Line) : Grows s st (s'.note line) := by
  unfold State.note
  split
  · obtain h | ⟨name, holding, x, h⟩ := h
    · exact .inl ⟨h.handles, h.sessions, h.shown, h.calls, h.natives⟩
    · exact .inr ⟨name, holding, x, h.fresh, h.product, h.adds, h.handles, h.sessions, h.shown,
        h.calls⟩
  · exact h

theorem Grows.answerMade {result : State × Except ClientError String} (h : Grows s st result.1)
    (hsubject : st.subject? = none) (reporting : Reporting) (answer : String → Answer) :
    Effect s st (State.answerMade reporting answer result).1 := by
  obtain ⟨s', name | e⟩ := result
  · cases reporting
    · exact h.effect hsubject
    · exact (h.note _).effect hsubject
  · exact h.effect hsubject

theorem grows_add (hnamed : s.Named) {library : Library Receiver} {sort : String}
    (hsort : sort.length = 1) (holding : Holding) {x : Native Receiver}
    (hproduct : st.product? (s.nextName sort) = some (holding.plain, x)) (hseats : st.seats = false)
    (hadds : s.library.Adds library holding.own x) :
    Grows s st ((s.withLibrary library).addHandle (s.nextName sort) holding) := by
  refine .inr ⟨_, holding, x, hnamed.fresh hsort, hproduct, hadds, rfl, ?_, rfl, rfl⟩
  simp [hseats, addHandle, withLibrary]

theorem grows_newClient (hnamed : s.Named) (config : ClientConfig) (reporting : Reporting)
    (session : Bool) :
    Grows s (.newClient config reporting session) (s.newClient config session).1 := by
  refine .of_note Client.startNote ?_
  have hnamed := hnamed.note Client.startNote
  unfold newClient
  generalize s.note Client.startNote = s at hnamed ⊢
  cases hconfig : config.config with
  | error e => exact .inl (.refl s)
  | ok checked =>
    cases hnew : s.library.newConnection checked with
    | error e =>
      simp only [hnew]
      exact .inl (.refl s)
    | ok made =>
      obtain ⟨library, i⟩ := made
      have hadds {k : Simulated.Connection Receiver} := (adds_newConnection hnew).put
        (y := .connection k) (i := i)
      by_cases hconnect : library.faults.isSet .connect
      · simp only [hnew, start_fresh, if_pos hconnect]
        refine .inl (rests_withLibrary s fun o x hx => ?_)
        exact ((hadds.of_eq (native?_releaseConnection ..)).kept hx).2
      · simp only [hnew, start_fresh, if_neg hconnect]
        refine .inr ⟨_, .client i, _, hnamed.fresh rfl, ?_, hadds, rfl, ?_, rfl, rfl⟩
        · rw [Step.product?, hconfig]
          rfl
        · cases session <;> simp [Step.seats, addHandle, withLibrary]

theorem grows_newRawConnection (hnamed : s.Named) (calls : List Draft.Call)
    (lifecycle : Lifecycle Receiver) : Grows s (.newRawConnection calls lifecycle)
      (s.newRawConnection (Draft.ofCalls calls) lifecycle).1 := by
  unfold newRawConnection
  cases hconfig : (Draft.ofCalls calls).build with
  | error fault => exact .inl (.refl s)
  | ok config =>
    cases hnew : s.library.newConnection config with
    | error e =>
      simp only [hnew]
      exact .inl (.refl s)
    | ok made =>
      obtain ⟨library, i⟩ := made
      simp only [hnew]
      refine grows_add hnamed rfl _ ?_ rfl
        ((adds_newConnection hnew).put (y := .connection { config, lifecycle }) (i := i))
      rw [Step.product?, hconfig]
      rfl

/-- A jobs client for a handle, or what is left of one. -/
theorem subscribedJobsClient_adds (s : State) (scope : Jobs.Scope) (topics : List Jobs.Topic)
    (r : Receiver) :
    (∃ library e, s.subscribedJobsClient scope topics r = (s.withLibrary library, .error e) ∧
      ∀ o x, s.library.native? o = some x → library.native? o = some x) ∨
    ∃ library j, s.subscribedJobsClient scope topics r = (s.withLibrary library, .ok j) ∧
      s.library.Adds library ⟨.jobsClient, j⟩ (.jobsClient (.subscribed scope topics r)) := by
  unfold subscribedJobsClient
  cases hnew : s.library.newJobsClient with
  | error e => exact .inl ⟨s.library, _, rfl, fun _ _ h => h⟩
  | ok made =>
    obtain ⟨library, j⟩ := made
    obtain ⟨client, refused, hall⟩ : ∃ client refused, ({} : JobsClient Receiver).subscribeAll
        library.faults scope r topics = (client, refused) := ⟨_, _, rfl⟩
    have hadds : s.library.Adds (library.putJobsClient j client) ⟨.jobsClient, j⟩
        (.jobsClient client) :=
      (adds_newJobsClient hnew).put (y := .jobsClient client) (i := j)
    simp only [hall]
    cases refused with
    | some topic =>
      exact .inl ⟨_, _, rfl, fun o x hx =>
        ((hadds.of_eq (native?_releaseJobsClient ..)).kept hx).2⟩
    | none =>
      obtain rfl := JobsClient.subscribeAll_none hall
      exact .inr ⟨_, _, rfl, hadds⟩

/-- A handle on jobs: its jobs client, and the connection that it keeps. -/
theorem grows_jobsHandle (hnamed : s.Named) (sort : String) (hsort : sort.length = 1)
    (scope : Jobs.Scope) (topics : List Jobs.Topic) (r : Receiver) (i : ℕ) (holding : ℕ → Holding)
    (hown : ∀ j, (holding j).own = ⟨.jobsClient, j⟩)
    (hproduct : ∀ j, st.product? (s.nextName sort) =
      some ((holding j).plain, .jobsClient (.subscribed scope topics r)))
    (hseats : st.seats = false) :
    let result := s.subscribedJobsClient scope topics r
    let made : State × Except ClientError String := match result.2 with
      | .error e => (result.1, .error e)
      | .ok j => ((result.1.withLibrary (result.1.library.retainConnection i)).addHandle
          (s.nextName sort) (holding j), .ok (s.nextName sort))
    Grows s st made.1 := by
  intro result made
  obtain ⟨library, e, heq, hkept⟩ | ⟨library, j, heq, hadds⟩ :=
    s.subscribedJobsClient_adds scope topics r
  · have hmade : made = (s.withLibrary library, .error e) := by simp only [made, result, heq]
    rw [hmade]
    exact .inl (rests_withLibrary s hkept)
  · have hmade : made = ((s.withLibrary (library.retainConnection i)).addHandle (s.nextName sort)
        (holding j), .ok (s.nextName sort)) := by simp only [made, result, heq]; rfl
    rw [hmade]
    refine grows_add hnamed hsort _ (hproduct j) hseats ?_
    rw [hown]
    exact hadds.of_eq (native?_retainConnection ..)

theorem grows_newQueue (hnamed : s.Named) (m thing : String) (code : ℤ) (reporting : Reporting)
    (i : ℕ) : Grows s (.newQueue m thing code reporting) (s.newQueue i thing).1 :=
  .of_note _ (grows_jobsHandle (hnamed.note (Jobs.Queue.startNote thing)) "j" rfl
    { thing := some thing } Jobs.Queue.topics _ i (.queue · i thing) (fun _ => rfl) (fun _ => rfl)
    rfl)

theorem grows_newJob (hnamed : s.Named) (m thing id : String) (code : ℤ) (reporting : Reporting)
    (i : ℕ) : Grows s (.newJob m thing id code reporting) (s.newJob i thing id).1 :=
  .of_note _ (grows_jobsHandle (hnamed.note (Jobs.Job.startNote thing id)) "e" rfl
    { thing := some thing, job := some id } Jobs.Job.topics _ i (.job · i thing id) (fun _ => rfl)
    (fun _ => rfl) rfl)

theorem grows_newRawJobs (hnamed : s.Named) (m : String) :
    Grows s (.newRawJobs m) s.newRawJobs.1 := by
  unfold newRawJobs
  cases hnew : s.library.newJobsClient with
  | error e => exact .inl (.refl s)
  | ok made =>
    obtain ⟨library, j⟩ := made
    exact grows_add hnamed rfl (.rawJobs j) rfl rfl (adds_newJobsClient hnew)

theorem grows_newListener (hnamed : s.Named) (m thing : String) {code : ℤ} {qos : Qos}
    (hqos : Coded.decode code = .ok qos) (reporting : Reporting) (i : ℕ) :
    Grows s (.newListener m thing code reporting) (s.newListener i thing qos).1 := by
  refine .of_note (Tunnel.Listener.startNote thing) ?_
  have hnamed := hnamed.note (Tunnel.Listener.startNote thing)
  unfold newListener
  generalize s.note (Tunnel.Listener.startNote thing) = s at hnamed ⊢
  cases hnew : s.library.newTunnelingClient with
  | none =>
    simp only [hnew]
    exact .inl (.refl s)
  | some made =>
    obtain ⟨library, n⟩ := made
    have hadds {c : TunnelingClient Receiver} := (adds_newTunnelingClient hnew).put
      (y := .tunnelingClient c) (i := n)
    simp only [hnew, TunnelingClient.subscribe]
    split
    · simp only [Bool.false_eq_true, if_false]
      refine .inl (rests_withLibrary s fun o x hx => ?_)
      exact ((hadds.of_eq (native?_releaseTunnelingClient ..)).kept hx).2
    · simp only [if_true]
      refine grows_add hnamed rfl (.listener n i thing) ?_ rfl
        (hadds.of_eq (native?_retainConnection ..))
      rw [Step.product?, hqos]
      rfl

theorem grows_newTunnel (hnamed : s.Named) (endpoint accessToken : String) (mode : Tunnel.Mode)
    (reporting : Reporting) :
    Grows s (.newTunnel endpoint accessToken (.ok mode) reporting)
      (s.newTunnel endpoint accessToken mode).1 := by
  refine .of_note (Tunnel.startNote endpoint mode) ?_
  have hnamed := hnamed.note (Tunnel.startNote endpoint mode)
  unfold newTunnel
  generalize s.note (Tunnel.startNote endpoint mode) = s at hnamed ⊢
  dsimp only
  split
  · exact .inl (.refl s)
  · next library i hnew =>
    exact grows_add hnamed rfl (.tunnel i) rfl rfl (adds_newTunnel hnew)

theorem grows_newRawTunnel (hnamed : s.Named) (draft : Tunnel.Draft Receiver) :
    Grows s (.newRawTunnel (.ok draft)) (s.newRawTunnel draft).1 := by
  unfold newRawTunnel
  split
  · exact .inl (.refl s)
  · next library i hnew =>
    exact grows_add hnamed rfl (.rawTunnel i) rfl rfl (adds_newTunnel hnew)

/-! ## Attempts -/

theorem whenOk_ok {ε α : Type} {e : Except ε α} {a : α} (h : e = .ok a) (ds : α → List Deed) :
    whenOk e ds = ds a := by
  rw [h]
  rfl

theorem attempt_effect (h : s.Apart) (st : Step) : Leads (Effect s st) (s.attempt st) := by
  have same {st : Step} (hsubject : st.subject? = none) : Effect s st s :=
    .rests hsubject (.refl s)
  have faults {st : Step} (hsubject : st.subject? = none) (faults : Faults) :
      Effect s st (s.withFaults faults) :=
    .rests hsubject ⟨rfl, rfl, rfl, rfl, fun _ _ h => h⟩
  cases st with
  | inject | clear => exact leads_bind fun _ _ => leads_pure (faults rfl _)
  | clearFaults => exact leads_pure (faults rfl _)
  | panicOn => exact leads_pure (.rests rfl ⟨rfl, rfl, rfl, rfl, fun _ _ h => h⟩)
  | counts => exact leads_pure (same rfl)
  | drop name =>
    simp only [State.attempt]
    split
    · exact leads_throw _
    · next handle hlookup =>
      split
      · exact leads_throw _
      · next hlive => exact leads_pure (.drops hlookup (Bool.eq_false_iff.2 hlive))
  | wraps name =>
    simp only [State.attempt]
    split
    · exact leads_throw _
    · split
      · exact leads_throw _
      · split
        all_goals first | exact leads_throw _ | exact leads_pure (same rfl)
  | newClient config reporting session =>
    exact leads_pure ((grows_newClient h.sound.named config reporting session).answerMade rfl ..)
  | subscribe name topic qos =>
    refine leads_bind fun i hi => leads_bind fun qos hqos => leads_pure ?_
    rw [answerId_fst]
    refine effect_onConnection (d := .operate (.subscribe topic qos () ())) h.sound rfl hi ?_ none
      fun k => rfl
    exact whenOk_ok (decoded_eq_ok hqos) _
  | subscribeMany name topics qos =>
    refine leads_bind fun i hi => leads_bind fun qos hqos => leads_pure ?_
    rw [answerId_fst]
    refine effect_onConnection (d := .operate (.subscribeMany (topics.map (·, ())) qos ())) h.sound
      rfl hi ?_ none fun k => ?_
    · exact whenOk_ok (decoded_eq_ok hqos) _
    · rw [Simulated.Connection.act, Link.Operation.map, List.map_map]
      rfl
  | unsubscribe name topic =>
    refine leads_bind fun i hi => leads_pure ?_
    rw [answerId_fst]
    exact effect_onConnection (d := .operate (.unsubscribe topic ())) h.sound rfl hi rfl none
      fun k => rfl
  | publish name topic qos retain payload times =>
    refine leads_bind fun qos hqos => leads_bind fun i hi => leads_pure ?_
    rw [answerId_fst]
    obtain ⟨k, hget⟩ := h.sound.client hi
    obtain ⟨lines, hlines⟩ := publishTimes_eq name hget topic qos retain payload times
    refine effect_operations rfl hi hget ?_ hlines
    rw [List.map_replicate]
    exact whenOk_ok (decoded_eq_ok hqos) _
  | disconnect name =>
    refine leads_bind fun i hi => leads_pure ?_
    exact effect_onConnection (d := .disconnect) h.sound rfl hi rfl false fun k => rfl
  | connection | isSubscribed | jobsClient | listener | tunnel =>
    exact leads_bind fun _ _ => leads_pure (same rfl)
  | fireCompleted =>
    refine leads_bind fun p hp => leads_bind fun _ hcode => leads_pure ?_
    exact .of_event (found_connection hp) rfl
      (fun _ hsort => (if_pos hsort).trans (whenOk_ok (decoded_eq_ok hcode) _)) (fun _ => rfl)
      (tellAllMqtt_eq ..)
  | fireResumed =>
    refine leads_bind fun p hp => leads_bind fun _ hcode => leads_pure ?_
    exact .of_event (found_connection hp) rfl
      (fun _ hsort => (if_pos hsort).trans (whenOk_ok (decoded_eq_ok hcode) _)) (fun _ => rfl)
      (tellAllMqtt_eq ..)
  | fireClosed | fireInterrupted =>
    refine leads_bind fun p hp => leads_pure ?_
    exact .of_event (found_connection hp) rfl (fun _ hsort => if_pos hsort) (fun _ => rfl)
      (tellAllMqtt_eq ..)
  | receive =>
    refine leads_bind fun p hp => leads_bind fun _ hqos => leads_pure ?_
    exact .of_event (found_connection hp) rfl
      (fun _ hsort => (if_pos hsort).trans (whenOk_ok (decoded_eq_ok hqos) _)) (fun _ => rfl)
      (tellAllMqtt_eq ..)
  | ack name id code =>
    refine leads_bind fun p hp => leads_pure ?_
    exact .of_found (y := .connection (p.2.ack id code).1) (found_connection hp) rfl
      (fun _ hsort => if_pos hsort) (fun _ => rfl) (tellAllMqtt_eq ..)
  | ackAll name code =>
    refine leads_bind fun p hp => leads_pure ?_
    exact .of_found (y := .connection (p.2.ackAll code).1) (found_connection hp) rfl
      (fun _ hsort => if_pos hsort) (fun _ => rfl) (tellAllMqtt_eq ..)
  | newRawConnection calls lifecycle =>
    refine leads_pure ?_
    rw [answerRaw_fst]
    exact (grows_newRawConnection h.sound.named ..).effect rfl
  | connect name options =>
    refine leads_bind fun p hp => leads_pure ?_
    exact .of_found (y := .connection (p.2.connect s.library.faults options).1)
      (found_connection hp) rfl (fun _ hsort => if_pos hsort) (fun _ => rfl) rfl
  | sessionStatus name =>
    simp only [State.attempt]
    split
    · exact leads_pure (same rfl)
    · exact leads_throw _
  | dropEvents name =>
    simp only [State.attempt]
    split
    · exact leads_throw _
    · next session hlookup => exact leads_pure (.abandons hlookup)
  | handleEvents name topics qos => exact effect_handleEvents h topics qos
  | newQueue m thing code reporting =>
    refine leads_bind fun _ _ => leads_bind fun i _ => leads_pure ?_
    exact (grows_newQueue h.sound.named m thing code reporting i).answerMade rfl ..
  | newJob m thing id code reporting =>
    refine leads_bind fun _ _ => leads_bind fun i _ => leads_pure ?_
    exact (grows_newJob h.sound.named m thing id code reporting i).answerMade rfl ..
  | getPending | startNext | describe | update =>
    refine leads_bind fun found hfound => ?_
    obtain ⟨⟨holding, dropped⟩, j⟩ := found
    cases holding with
    | queue | job | rawJobs =>
      first
        | exact leads_throw _
        | exact leads_bind fun _ hqos => leads_pure (effect_sendRequest h.sound rfl hfound
            (by exact whenOk_ok (decoded_eq_ok hqos) _) _)
        | exact leads_bind fun _ hqos => leads_pure (effect_request h.sound rfl hfound
            (by exact whenOk_ok (decoded_eq_ok hqos) _))
    | _ => exact leads_throw _
  | completeSubscriptions name ioError =>
    refine leads_bind fun p hp => leads_pure ?_
    exact .of_found (y := .jobsClient (p.2.completeSubscriptions ioError).1) (found_jobsClient hp)
      rfl (fun _ hsort => if_pos hsort) (fun _ => rfl) (tellAllJobs_eq ..)
  | completePublishes name ioError =>
    refine leads_bind fun p hp => leads_pure ?_
    exact .of_found (y := .jobsClient (p.2.completePublishes ioError).1) (found_jobsClient hp) rfl
      (fun _ hsort => if_pos hsort) (fun _ => rfl) (tellAllJobs_eq ..)
  | fire =>
    refine leads_bind fun p hp => leads_bind fun _ hevent => leads_pure ?_
    exact .of_event (found_jobsClient hp) rfl
      (fun _ hsort => (if_pos hsort).trans (whenOk_ok (orRefuse_eq_ok hevent) _)) (fun _ => rfl)
      (tellAllJobs_eq ..)
  | newRawJobs m =>
    refine leads_bind fun _ _ => leads_pure ?_
    rw [answerRaw_fst]
    exact (grows_newRawJobs h.sound.named m).effect rfl
  | subscribeRawJobs name topic code scope =>
    refine leads_bind fun _ hqos => leads_bind fun found hfound => ?_
    obtain ⟨⟨holding, dropped⟩, j⟩ := found
    obtain ⟨hlookup, hown, halive⟩ := h.sound.lookUpLive .jobsClient hfound
    dsimp only
    split
    · exact leads_throw _
    · next hraw =>
      refine leads_bind fun topic htopic => leads_pure ?_
      cases holding with
      | rawJobs i =>
        obtain ⟨c, hget⟩ := Shelf.get?_of_holders (s := s.library.jobsClients) halive
        refine .of_deed (x := .jobsClient c) rfl hlookup hown (native?_jobsClient hget)
          (d := .subscribeJobs scope topic) ?_ [] ?_
        · exact (whenOk_ok (decoded_eq_ok hqos) _).trans (whenOk_ok (orRefuse_eq_ok htopic) _)
        · simp only [subscribeRawJobs, hget]
          rfl
      | queue | job => simp [Holding.isRaw] at hraw
      | client | rawConnection | listener | tunnel | rawTunnel => cases hown
  | newListener m thing code reporting =>
    refine leads_bind fun _ hqos => leads_bind fun i _ => leads_pure ?_
    have hgrows := grows_newListener h.sound.named m thing (decoded_eq_ok hqos) reporting i
    exact hgrows.answerMade rfl ..
  | completeListeners name code =>
    refine leads_bind fun p hp => leads_pure ?_
    exact .of_found (y := .tunnelingClient (p.2.complete code).1) (found_listener hp) rfl
      (fun _ hsort => if_pos hsort) (fun _ => rfl) (tellAllListener_eq ..)
  | fireOpened =>
    refine leads_bind fun p hp => leads_pure ?_
    exact .of_event (found_listener hp) rfl (fun _ hsort => if_pos hsort) (fun _ => rfl)
      (tellAllListener_eq ..)
  | newTunnel endpoint accessToken mode reporting =>
    refine leads_bind fun mode' hmode => leads_pure ?_
    rw [orRefuse_eq_ok hmode]
    exact (grows_newTunnel h.sound.named endpoint accessToken mode' reporting).answerMade rfl ..
  | newRawTunnel draft =>
    refine leads_bind fun draft' hdraft => leads_pure ?_
    rw [orRefuse_eq_ok hdraft]
    exact (grows_newRawTunnel h.sound.named draft').effect rfl
  | start name =>
    refine leads_bind fun found hfound => leads_pure ?_
    obtain ⟨lines, hlines⟩ := s.startTunnel_fst found.2 (!found.1.holding.isRaw)
    show Effect s (.start name) (s.startTunnel found.2 (!found.1.holding.isRaw)).1
    rw [hlines]
    refine effect_onTunnel (d := .start) h.sound rfl hfound ?_ (fun _ => rfl) lines
    exact fun _ hsort => if_pos hsort
  | stop name =>
    refine leads_bind fun found hfound => leads_pure ?_
    obtain ⟨lines, hlines⟩ := s.stopTunnel_fst found.2 (!found.1.holding.isRaw)
    show Effect s (.stop name) (s.stopTunnel found.2 (!found.1.holding.isRaw)).1
    rw [hlines]
    refine effect_onTunnel (d := .stop) h.sound rfl hfound ?_ (fun _ => rfl) lines
    exact fun _ hsort => if_pos hsort
  | send name m =>
    refine leads_bind fun found hfound => leads_pure ?_
    refine effect_onTunnel (d := .send m) h.sound rfl hfound ?_ (fun _ => rfl) []
    exact fun _ hsort => if_pos hsort
  | fireTunnel name event =>
    refine leads_bind fun p hp => leads_bind fun e hevent => leads_pure ?_
    refine .of_event (found_tunnel hp) rfl
      (fun _ hsort => (if_pos hsort).trans (whenOk_ok (orRefuse_eq_ok hevent) _)) (fun _ => rfl) ?_
    show (s.fireTunnel p.2 e).1 = s.tellAll ((p.2.fire e).toList.map fun d => (d.1, .tunnel d.2))
    unfold State.fireTunnel
    cases p.2.fire e <;> rfl

theorem step_effect (h : s.Apart) (st : Step) : Effect s st (s.step st).1 := by
  unfold step
  split
  · next result heq => exact attempt_effect h st result heq
  · next answer heq => exact .refused heq

/-! ## Refusals -/

/-- What holds if an attempt is ended at once. -/
def Ends {α : Type} (P : Prop) (a : Attempt α) : Prop := ∀ answer, a = .error answer → P

section

variable {P Q : Prop} {α β : Type}

theorem ends_bind {x : Attempt α} {f : α → Attempt β} (hx : Ends P x)
    (hf : ∀ a, x = .ok a → Ends P (f a)) : Ends P (x >>= f) := by
  cases x with
  | error answer => exact fun _ _ => hx answer rfl
  | ok a => exact hf a rfl

theorem ends_pure (a : α) : Ends P (pure a) := by
  rintro _ ⟨⟩

theorem Ends.imp {x : Attempt α} (h : Ends P x) (hPQ : P → Q) : Ends Q x :=
  fun answer heq => hPQ (h answer heq)

theorem ends_decoded [Coded α] {code : ℤ} (ds : α → List Deed) :
    Ends (whenOk (Coded.decode code : Except _ α) ds = []) (decoded code : Attempt α) := by
  unfold decoded
  generalize (Coded.decode code : Except UnknownCode α) = e
  cases e with
  | error e => exact fun _ _ => rfl
  | ok a => rintro _ ⟨⟩

theorem ends_orRefuse (e : Except Refusal α) (ds : α → List Deed) :
    Ends (whenOk e ds = []) (orRefuse e) := by
  cases e with
  | error r => exact fun _ _ => rfl
  | ok a => rintro _ ⟨⟩

end

theorem whenOn_nil (sort : ObjectSort) (h : Holding) : h.whenOn sort [] = [] := ite_self _

theorem whenClient_nil (h : Holding) : h.whenClient [] = [] := by
  cases h <;> rfl

section

variable {holding : Holding}

/-- The object of a handle that was not dropped is found, unless it is of another sort. -/
theorem Sound.ends_object {α : Type} (h : Sound s)
    (hlookup : s.handles.lookup name = some ⟨holding, false⟩) (sort : ObjectSort)
    {shelf : Simulated.Shelf α}
    (hshelf : ∀ i, 0 < s.library.holders ⟨sort, i⟩ → ∃ a, shelf.get? i = some a) :
    Ends (∀ ds, holding.whenOn sort ds = []) (s.object name (Holding.number? sort) shelf) := by
  intro answer hended ds
  refine if_neg fun hsort => ?_
  have hnumber : holding.number? sort = some holding.own.number :=
    (Holding.number?_eq_some sort).2 (by rw [← hsort])
  obtain ⟨a, hget⟩ := hshelf holding.own.number (hsort ▸ h.alive hlookup)
  simp [object, lookUp, hlookup, hnumber, hget, bind, Except.bind, pure, Except.pure] at hended

theorem ends_lookUpLive (hlookup : s.handles.lookup name = some ⟨holding, false⟩)
    (sort : ObjectSort) :
    Ends (holding.own.sort ≠ sort) (s.lookUpLive name (Holding.number? sort)) := by
  intro answer hended hsort
  have hnumber : holding.number? sort = some holding.own.number :=
    (Holding.number?_eq_some sort).2 (by rw [← hsort])
  simp [lookUpLive, lookUp, hlookup, hnumber, bind, Except.bind, pure, Except.pure] at hended

theorem ends_clientOf (hlookup : s.handles.lookup name = some ⟨holding, false⟩) :
    Ends (∀ ds, holding.whenClient ds = []) (s.clientOf name) := by
  intro answer hended ds
  cases holding with
  | client i => rw [clientOf_of_lookup hlookup] at hended; cases hended
  | _ => rfl

/-- A step on a handle that was not dropped is refused only if it is on another sort of handle or
ill-formed. -/
theorem idle_of_refused (h : s.Apart) (hlookup : s.handles.lookup name = some ⟨holding, false⟩)
    (hworker : st.worker? = some name) : Ends (st.deeds holding = []) (s.attempt st) := by
  have hclient := ends_clientOf hlookup
  have hconnection : Ends (∀ ds, holding.whenOn .connection ds = []) (s.connectionOf name) :=
    h.sound.ends_object hlookup .connection fun _ => Shelf.get?_of_holders
  have hjobs : Ends (∀ ds, holding.whenOn .jobsClient ds = []) (s.jobsClientOf name) :=
    h.sound.ends_object hlookup .jobsClient fun _ => Shelf.get?_of_holders
  have hlistener : Ends (∀ ds, holding.whenOn .tunnelingClient ds = []) (s.listenerOf name) :=
    h.sound.ends_object hlookup .tunnelingClient fun _ => Shelf.get?_of_holders
  have htunnel : Ends (∀ ds, holding.whenOn .tunnel ds = []) (s.tunnelOf name) :=
    h.sound.ends_object hlookup .tunnel fun _ => Shelf.get?_of_holders
  have hwhenOn {α : Type} {x : Attempt α} {ds : List Deed} (sort : ObjectSort)
      (hx : Ends (ds = []) x) : Ends (holding.whenOn sort ds = []) x :=
    hx.imp fun heq => heq ▸ whenOn_nil sort holding
  have hwhenClient {α : Type} {x : Attempt α} {ds : List Deed} (hx : Ends (ds = []) x) :
      Ends (holding.whenClient ds = []) x :=
    hx.imp fun heq => heq ▸ whenClient_nil holding
  cases st with
  | subscribe n | subscribeMany n =>
    obtain rfl : n = name := Option.some.inj hworker
    exact ends_bind (hclient.imp (· _)) fun _ _ =>
      ends_bind (hwhenClient (ends_decoded _)) fun _ _ => ends_pure _
  | publish n =>
    obtain rfl : n = name := Option.some.inj hworker
    exact ends_bind (hwhenClient (ends_decoded _)) fun _ _ =>
      ends_bind (hclient.imp (· _)) fun _ _ => ends_pure _
  | unsubscribe n | disconnect n =>
    obtain rfl : n = name := Option.some.inj hworker
    exact ends_bind (hclient.imp (· _)) fun _ _ => ends_pure _
  | fireCompleted n | fireResumed n | receive n =>
    obtain rfl : n = name := Option.some.inj hworker
    exact ends_bind (hconnection.imp (· _)) fun _ _ =>
      ends_bind (hwhenOn _ (ends_decoded _)) fun _ _ => ends_pure _
  | fireClosed n | fireInterrupted n | ack n | ackAll n | connect n =>
    obtain rfl : n = name := Option.some.inj hworker
    exact ends_bind (hconnection.imp (· _)) fun _ _ => ends_pure _
  | getPending n | startNext n | describe n | update n =>
    obtain rfl : n = name := Option.some.inj hworker
    refine ends_bind ((ends_lookUpLive hlookup .jobsClient).imp fun hsort => ?_)
      fun found hfound => ?_
    · cases holding with
      | queue | job | rawJobs => exact absurd rfl hsort
      | _ => rfl
    · obtain ⟨handle, j⟩ := found
      obtain ⟨hsame, -⟩ := h.sound.lookUpLive .jobsClient hfound
      obtain rfl := Option.some.inj (hlookup.symm.trans hsame)
      cases holding with
      | queue | job | rawJobs =>
        first
          | exact fun _ _ => rfl
          | exact ends_bind (ends_decoded _) fun _ _ => ends_pure _
      | _ => exact fun _ _ => rfl
  | completeSubscriptions n | completePublishes n =>
    obtain rfl : n = name := Option.some.inj hworker
    exact ends_bind (hjobs.imp (· _)) fun _ _ => ends_pure _
  | fire n =>
    obtain rfl : n = name := Option.some.inj hworker
    exact ends_bind (hjobs.imp (· _)) fun _ _ =>
      ends_bind (hwhenOn _ (ends_orRefuse _ _)) fun _ _ => ends_pure _
  | subscribeRawJobs n =>
    obtain rfl : n = name := Option.some.inj hworker
    cases holding with
    | rawJobs i =>
      refine ends_bind (ends_decoded _) fun _ hqos => ?_
      rw [Step.deeds, whenOk_ok (decoded_eq_ok hqos)]
      refine ends_bind ((ends_lookUpLive hlookup .jobsClient).imp fun hsort => absurd rfl hsort)
        fun found hfound => ?_
      obtain ⟨handle, j⟩ := found
      obtain ⟨hsame, -⟩ := h.sound.lookUpLive .jobsClient hfound
      obtain rfl := Option.some.inj (hlookup.symm.trans hsame)
      exact ends_bind (ends_orRefuse _ _) fun _ _ => ends_pure _
    | _ => exact fun _ _ => rfl
  | completeListeners n | fireOpened n =>
    obtain rfl : n = name := Option.some.inj hworker
    exact ends_bind (hlistener.imp (· _)) fun _ _ => ends_pure _
  | start n | stop n | send n =>
    obtain rfl : n = name := Option.some.inj hworker
    exact ends_bind ((ends_lookUpLive hlookup .tunnel).imp fun hsort => if_neg hsort) fun _ _ =>
      ends_pure _
  | fireTunnel n =>
    obtain rfl : n = name := Option.some.inj hworker
    exact ends_bind (htunnel.imp (· _)) fun _ _ =>
      ends_bind (hwhenOn _ (ends_orRefuse _ _)) fun _ _ => ends_pure _
  | _ => cases hworker

end

end State

end DeviceLink.Bench
