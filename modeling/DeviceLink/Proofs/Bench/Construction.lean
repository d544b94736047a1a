import DeviceLink.Proofs.Bench.Ledger
/-!
# Building a handle is all or nothing

Over every run of the bench the library counts the objects that the handles hold, and a handle that
could not be built leaves nothing behind but one line about what stood in its way: neither an object
nor a registration that is ever used.
-/

namespace DeviceLink.Bench

open Mqtt Simulated Library

/-! ## Calls that build a handle -/

/-- A call that builds a handle and only logs what stands in its way. -/
inductive Construction
  | client (config : ClientConfig) (session : Bool)
  | queue (m thing : String) (qos : Qos)
  | job (m thing name : String) (qos : Qos)
  | listener (m thing : String) (qos : Qos)
  | tunnel (endpoint accessToken : String) (mode : Tunnel.Mode)

namespace Construction

/-- The call as a step. -/
def step : Construction → Step
  | client config session => .newClient config .logged session
  | queue m thing qos => .newQueue m thing (Coded.code qos) .logged
  | job m thing name qos => .newJob m thing name (Coded.code qos) .logged
  | listener m thing qos => .newListener m thing (Coded.code qos) .logged
  | tunnel endpoint accessToken mode => .newTunnel endpoint accessToken (.ok mode) .logged

/-- The client that the handle is built on. -/
def parent? : Construction → Option String
  | client .. | tunnel .. => none
  | queue m .. | job m .. | listener m .. => some m

/-- The native steps it consists of. -/
def plan : Construction → Plan
  | client config _ => clientPlan config
  | queue _ thing _ => jobsPlan { thing := some thing } Jobs.Queue.topics
  | job _ thing name _ => jobsPlan { thing := some thing, job := some name } Jobs.Job.topics
  | listener _ thing qos => listenerPlan thing qos
  | tunnel endpoint accessToken mode => tunnelPlan endpoint accessToken mode

/-- The letter of its handles. -/
def sort : Construction → String
  | client .. => "m"
  | queue .. => "j"
  | job .. => "e"
  | listener .. => "n"
  | tunnel .. => "t"

/-- What it notes before anything else. -/
def note : Construction → Log.Line
  | client .. => Client.startNote
  | queue _ thing _ => Jobs.Queue.startNote thing
  | job _ thing name _ => Jobs.Job.startNote thing name
  | listener _ thing _ => Tunnel.Listener.startNote thing
  | tunnel endpoint _ mode => Tunnel.startNote endpoint mode

/-- What it answers with the name of a new handle. -/
def answer : Construction → String → Answer
  | client .. | tunnel .. => .text
  | queue _ thing _ => (.named · thing)
  | job _ _ name _ => (.named · name)
  | listener _ thing _ => (.named · thing)

theorem level_note (k : Construction) : k.note.level = .debug := by cases k <;> rfl

theorem answer_ne_nothing (k : Construction) (name : String) : k.answer name ≠ .nothing := by
  cases k <;> exact nofun

end Construction

/-! ## What stands in the way, in words -/

/-- The line about a native step that is refused. -/
def NativeStep.line : NativeStep → String
  | newConnection _ =>
    "native connection error: couldn't create an internal mqtt client: " ++
      "connection error: injected new_connection failure"
  | connect options endpoint =>
    "error during connect: client_id [" ++ options.clientId ++ "], endpoint [" ++ endpoint ++
      "], " ++ "last error [ConnectOptionsValidation]"
  | newJobsClient =>
    "native connection error: couldn't create a jobs client: injected jobs client failure"
  | subscribe _ .getPendingAccepted => "subscription to GetPendingJobExecutionsAccepted failed"
  | subscribe _ .getPendingRejected => "subscription to GetPendingJobExecutionsRejected failed"
  | subscribe _ .executionsChanged => "subscription to JobExecutionsChangedEvents failed"
  | subscribe _ .nextExecutionChanged => "subscription to NextJobExecutionChangedEvents failed"
  | subscribe _ .startNextAccepted => "subscription to StartNextPendingJobExecutionAccepted failed"
  | subscribe _ .startNextRejected => "subscription to StartNextPendingJobExecutionRejected failed"
  | subscribe _ .describeAccepted => "subscription to DescribeJobExecutionAccepted failed"
  | subscribe _ .describeRejected => "subscription to DescribeJobExecutionRejected failed"
  | subscribe _ .updateAccepted => "subscription to UpdateJobExecutionAccepted failed"
  | subscribe _ .updateRejected => "subscription to UpdateJobExecutionRejected failed"
  | newTunnelingClient => "tunnel error: couldn't create a tunneling client"
  | notifySubscribe .. => "subscription to TunnelsNotify failed"
  | newTunnel .. => "tunnel error: tunnel equals to null"

theorem NativeStep.message_refusal (n : NativeStep) : n.refusal.message = n.line := by
  cases n with
  | subscribe scope topic => cases topic <;> exact rfl
  | _ => exact rfl

namespace Construction

/-- What a call consists of, whatever the library refuses: its native steps in order, or the line
about a config that no client can be built from. -/
def demands : Construction → Except String (List NativeStep)
  | client config _ =>
    match config.auth? with
    | none => .error "config is missing password auth or certificate/private key auth"
    | some auth =>
      if config.endpoint = "" then
        .error ("native config error: couldn't build a config for internal mqtt client: " ++
          "invalid config: endpoint is required")
      else if config.usesCertificate ∧ config.insecureTcp = true then
        .error ("native config error: couldn't build a config for internal mqtt client: " ++
          "invalid config: certificate auth requires TLS")
      else .ok [.newConnection (config.checked auth),
        .connect ⟨config.clientId, config.cleanSession, config.keepAliveSeconds,
          config.pingTimeoutMs⟩ config.endpoint]
  | queue _ thing _ =>
    .ok (.newJobsClient :: [Jobs.Topic.getPendingAccepted, .getPendingRejected, .executionsChanged,
      .nextExecutionChanged, .startNextAccepted, .startNextRejected].map
        (.subscribe ⟨some thing, none⟩))
  | job _ thing name _ =>
    .ok (.newJobsClient :: [Jobs.Topic.describeAccepted, .describeRejected, .updateAccepted,
      .updateRejected].map (.subscribe ⟨some thing, some name⟩))
  | listener _ thing qos => .ok [.newTunnelingClient, .notifySubscribe thing qos]
  | tunnel endpoint accessToken mode => .ok [.newTunnel endpoint accessToken mode]

/-- The line about what stands in the way of a call under the faults in force: its config, else the
first of its steps that is refused. -/
def line? (k : Construction) (faults : Faults) : Option String :=
  match k.demands with
  | .error line => some line
  | .ok steps => (steps.find? (·.isRefused faults)).map NativeStep.line

/-- The steps of a call before the first that is refused. -/
def accepted (k : Construction) (faults : Faults) : List NativeStep :=
  match k.demands with
  | .error _ => []
  | .ok steps => steps.takeWhile fun step => !step.isRefused faults

theorem plan_demands (k : Construction) : k.plan.mapError ClientError.message = k.demands := by
  cases k with
  | client config session =>
    simp only [plan, clientPlan, demands, ClientConfig.config_eq]
    cases config.auth? with
    | none => rfl
    | some auth =>
      unfold ClientConfig.fault?
      by_cases hempty : config.endpoint = ""
      · simp only [if_pos hempty]
        rfl
      · by_cases hplain : config.usesCertificate ∧ config.insecureTcp = true
        · simp only [if_neg hempty, if_pos hplain]
          rfl
        · simp only [if_neg hempty, if_neg hplain]
          rfl
  | _ => rfl

theorem obstacle?_message (k : Construction) (faults : Faults) :
    (k.plan.obstacle? faults).map ClientError.message = k.line? faults := by
  rw [line?, ← plan_demands]
  cases k.plan with
  | error e => rfl
  | ok steps =>
    simp [Except.mapError, Plan.obstacle?, Function.comp_def, NativeStep.message_refusal]

theorem accepted_plan (k : Construction) (faults : Faults) :
    k.plan.accepted faults = k.accepted faults := by
  rw [accepted, ← plan_demands]
  cases k.plan <;> rfl

end Construction

namespace State

/-- Whether the client that a handle is built on is there. -/
def CanIssue (s : State) (k : Construction) : Prop :=
  ∀ m, k.parent? = some m → ∃ i, s.clientOf m = .ok i

theorem decoded_code (qos : Qos) : decoded (Coded.code qos) = .ok qos := by
  cases qos <;> rfl

variable {s s' : State} {k : Construction}

/-- A call that can be issued comes to an outcome of its plan. -/
theorem step_of_canIssue (h : s.CanIssue k) :
    ∃ base result, s.step k.step = answerMade .logged k.answer result ∧
      Outcome k.plan k.sort base (s.note k.note) (held (s.note k.note).handles) result ∧
      ∀ m i, k.parent? = some m → s.clientOf m = .ok i → ⟨.connection, i⟩ ∈ base := by
  have base {m : String} {i : ℕ} (hi : s.clientOf m = .ok i) (m' : String) (i' : ℕ)
      (hm : some m = some m') (hi' : s.clientOf m' = .ok i') :
      (⟨.connection, i'⟩ : Object) ∈ [(⟨.connection, i⟩ : Object)] := by
    obtain rfl := Option.some.inj hm
    rw [hi] at hi'
    cases hi'
    exact List.mem_singleton_self _
  cases k with
  | client config session => exact ⟨_, _, rfl, newClient_outcome .., fun _ _ hm => by cases hm⟩
  | queue m thing qos =>
    obtain ⟨i, hi⟩ := h m rfl
    refine ⟨_, _, ?_, newQueue_outcome s (held_note (held_of_clientOf hi)) thing, base hi⟩
    simp [step, Construction.step, attempt, decoded_code, hi, bind, Except.bind, pure, Except.pure,
      Construction.answer]
  | job m thing name qos =>
    obtain ⟨i, hi⟩ := h m rfl
    refine ⟨_, _, ?_, newJob_outcome s (held_note (held_of_clientOf hi)) thing name, base hi⟩
    simp [step, Construction.step, attempt, decoded_code, hi, bind, Except.bind, pure, Except.pure,
      Construction.answer]
  | listener m thing qos =>
    obtain ⟨i, hi⟩ := h m rfl
    refine ⟨_, _, ?_, newListener_outcome s (held_note (held_of_clientOf hi)) thing qos, base hi⟩
    simp [step, Construction.step, attempt, decoded_code, hi, bind, Except.bind, pure, Except.pure,
      Construction.answer]
  | tunnel endpoint accessToken mode =>
    exact ⟨_, _, rfl, newTunnel_outcome .., fun _ _ hm => by cases hm⟩

theorem note_library (s : State) (line : Log.Line) : (s.note line).library = s.library := by
  unfold note
  split <;> rfl

theorem note_handles (s : State) (line : Log.Line) : (s.note line).handles = s.handles := by
  unfold note
  split <;> rfl

/-- It ends at an obstacle with an error in the log, or with a handle. -/
theorem step_cases (h : s.CanIssue k) :
    (∃ library e, k.plan.obstacle? s.library.faults = some e ∧
        NativeStep.taken s.library library = k.plan.accepted s.library.faults ∧
        s.library.Undisturbed library ∧
        s.step k.step =
          (((s.note k.note).withLibrary library).note ⟨.error, e.message⟩, .nothing)) ∨
      ∃ library holding sessions name, k.plan.obstacle? s.library.faults = none ∧
        NativeStep.taken s.library library = k.plan.accepted s.library.faults ∧
        (∀ m i, k.parent? = some m → s.clientOf m = .ok i →
          ⟨.connection, i⟩ ∈ Holding.objects holding) ∧
        s.step k.step =
          ({ ((s.note k.note).withLibrary library).addHandle name holding with sessions },
            k.answer name) := by
  obtain ⟨base, result, hstep, houtcome, hparent⟩ := step_of_canIssue h
  cases houtcome with
  | refused hobstacle htaken _ hrest =>
    rw [note_library] at hobstacle htaken hrest
    exact .inl ⟨_, _, hobstacle, htaken, hrest, hstep⟩
  | built holding hobstacle htaken _ hbase _ =>
    rw [note_library] at hobstacle htaken
    exact .inr ⟨_, holding, _, _, hobstacle, htaken,
      fun m i hm hi => hbase (hparent m i hm hi), hstep⟩

/-- The steps that were taken are the ones before the first that is refused. -/
theorem taken_of_canIssue (h : s.CanIssue k) :
    NativeStep.taken s.library (s.run k.step).1.library = k.plan.accepted s.library.faults := by
  obtain ⟨library, e, -, htaken, -, hstep⟩ |
    ⟨library, holding, sessions, name, -, htaken, -, hstep⟩ := step_cases h
  · unfold run
    rw [hstep]
    dsimp only
    rw [note_library]
    exact htaken
  · unfold run
    rw [hstep]
    exact htaken

/-! ## All or nothing -/

/-- Whether an object was made in a step. -/
def MadeIn (s : State) (st : Step) (o : Object) : Prop :=
  (s.library.shelf o.sort).length ≤ o.number ∧
    o.number < ((s.run st).1.library.shelf o.sort).length

/-- How a call that builds a handle fails: with nothing but one error in the log. The objects there
were have the registrations they had. In whatever the bench does later, those who are called are
called by an object that a handle holds and that was not made in this call. -/
structure Fails (s : State) (k : Construction) (line : String) : Prop where
  answer : (s.run k.step).2.answer = .nothing
  handles : (s.run k.step).1.handles = s.handles
  live : (s.run k.step).2.live = s.library.live
  errors : (s.run k.step).2.log.filter (·.level = .error) = [⟨.error, line⟩]
  quiet : s.Quiet k.step
  registered : s.library.Undisturbed (s.run k.step).1.library
  later (steps : List Step) (st : Step) : ((s.run k.step).1.after steps).Quiet st ∨
    ∃ o ∈ held ((s.run k.step).1.after steps).handles,
      ¬s.MadeIn k.step o ∧ ((s.run k.step).1.after steps).Called st o

/-- How a call that builds a handle succeeds: there is one more, which holds the connection of the
client it is built on. -/
structure Succeeds (s : State) (k : Construction) : Prop where
  answer : (s.run k.step).2.answer ≠ .nothing
  handles : ∃ (name : String) (holding : Holding),
    (s.run k.step).1.handles = s.handles ++ [(name, ⟨holding, false⟩)] ∧
      ∀ m i, k.parent? = some m → s.clientOf m = .ok i → ⟨.connection, i⟩ ∈ holding.objects
  quiet : s.Quiet k.step

/-- Error lines are never kept out of the log. -/
theorem log_note_error (s : State) (message : String) :
    (s.note ⟨.error, message⟩).journal.log = ⟨.error, message⟩ :: s.journal.log := by
  rw [note, if_pos s.limits.admits_error]

theorem errors_note {line : Log.Line} (hline : line.level ≠ .error) (s : State) :
    (s.note line).journal.log.filter (·.level = .error) =
      s.journal.log.filter (·.level = .error) := by
  unfold note
  split
  · rw [List.filter_cons_of_neg (by simpa using hline)]
  · rfl

/-- No object calls anyone while a handle is built. -/
theorem Sound.quiet_construction (h : Sound s) (k : Construction) : s.Quiet k.step := by
  obtain hquiet | ⟨o, -, hspeaker, -⟩ := h.calls k.step
  · exact hquiet
  · have hnone : s.speaker? k.step = none := by cases k <;> rfl
    rw [hnone] at hspeaker
    cases hspeaker

/-- What was made in a step that left the handles as they were is gone for good. -/
theorem Sound.dead_of_madeIn (h : Sound s) {st : Step} (hhandles : (s.run st).1.handles = s.handles)
    {o : Object} (hmade : s.MadeIn st o) : Dead (s.run st).1.library o := by
  refine ⟨hmade.2, ?_⟩
  rw [(h.run st).accounts.count, hhandles, ← h.accounts.count]
  exact holders_eq_zero hmade.1

theorem Sound.fails (h : Sound s) (hissue : s.CanIssue k) {line : String}
    (hline : k.line? s.library.faults = some line) : s.Fails k line := by
  rw [← k.obstacle?_message] at hline
  obtain ⟨library, e, hobstacle, -, hrest, hstep⟩ | ⟨_, _, _, _, hnone, -⟩ := step_cases hissue
  · rw [hobstacle] at hline
    obtain rfl : e.message = line := Option.some.inj hline
    have hhandles : (s.run k.step).1.handles = s.handles := by
      unfold State.run
      rw [hstep]
      dsimp only
      rw [note_handles]
      exact s.note_handles k.note
    refine ⟨congrArg Prod.snd hstep, hhandles, ?_, ?_, h.quiet_construction k, ?_,
      fun steps st => ?_⟩
    -- The handles are the same, so they hold as many objects as before.
    · calc (s.run k.step).1.library.live
          = (held (s.run k.step).1.handles).toFinset.card := (h.run k.step).accounts.live
        _ = (held s.handles).toFinset.card := by rw [hhandles]
        _ = s.library.live := h.accounts.live.symm
    · have hlevel : k.note.level ≠ .error := by rw [k.level_note]; exact nofun
      have hbefore : (s.note k.note).journal.log.filter (·.level = .error) = [] := by
        rw [errors_note hlevel, h.journal]
        rfl
      unfold State.run
      rw [hstep]
      dsimp only
      rw [log_note_error, List.filter_reverse, List.filter_cons_of_pos (by simp)]
      exact congrArg (fun rest => (_ :: rest).reverse) hbefore
    · unfold State.run
      rw [hstep]
      dsimp only
      rw [note_library]
      exact hrest
    -- What the call made is dead from then on, and an object that calls is held by a handle.
    · have hlater : Sound ((s.run k.step).1.after steps) := (h.run k.step).after steps
      refine (hlater.calls st).imp_right fun ⟨o, ho, hcalled⟩ => ⟨o, ho, fun hmade => ?_, hcalled⟩
      have hdead := (h.run k.step).dead_after (h.dead_of_madeIn hhandles hmade) steps
      exact List.count_eq_zero.1 (hlater.accounts.count o ▸ hdead.2) ho
  · rw [hnone] at hline
    cases hline

theorem Sound.succeeds (h : Sound s) (hissue : s.CanIssue k)
    (hline : k.line? s.library.faults = none) : s.Succeeds k := by
  rw [← k.obstacle?_message] at hline
  obtain ⟨_, _, hsome, -⟩ | ⟨library, holding, sessions, name, -, -, hparent, hstep⟩ :=
    step_cases hissue
  · rw [hsome] at hline
    cases hline
  · refine ⟨?_, ⟨name, holding, ?_, hparent⟩, h.quiet_construction k⟩
    · unfold State.run
      rw [hstep]
      exact k.answer_ne_nothing name
    · unfold State.run
      rw [hstep]
      exact congrArg (· ++ _) (s.note_handles k.note)

/-- In every run the library counts the distinct objects that handles hold, and so none once all
handles are dropped. A call that builds a handle fails just if something stands in its way, takes
the native steps before the first that is refused and no other, logs the line about that one, and
leaves nothing behind. -/
theorem construction_accounted (limits : Log.Limits) (reaction : Reaction) (steps : List Step) :
    let s := State.after { limits, reaction } steps
    s.library.live = (held s.handles).toFinset.card ∧
      ((∀ h ∈ s.handles, h.2.dropped) → s.library.live = 0) ∧
      ∀ k : Construction, s.CanIssue k →
        ((s.run k.step).2.answer = .nothing ↔ (k.line? s.library.faults).isSome) ∧
        NativeStep.taken s.library (s.run k.step).1.library = k.accepted s.library.faults ∧
        (∀ line, k.line? s.library.faults = some line → s.Fails k line) ∧
        (k.line? s.library.faults = none → s.Succeeds k) := by
  intro s
  have h : Sound s := (sound_fresh limits reaction).after steps
  refine ⟨h.accounts.live, fun hdropped => ?_, fun k hissue =>
    ⟨?_, ?_, fun line hline => h.fails hissue hline, h.succeeds hissue⟩⟩
  · have hnone : held s.handles = [] :=
      List.flatMap_eq_nil_iff.2 fun x hx => if_pos (hdropped x hx)
    rw [h.accounts.live, hnone]
    rfl
  · cases hline : k.line? s.library.faults with
    | none => simp [(h.succeeds hissue hline).answer]
    | some line => simp [(h.fails hissue hline).answer]
  · exact (taken_of_canIssue hissue).trans (k.accepted_plan _)

/-- A client stands, and one subscription and every tunnel are refused: a handle on jobs fails after
the step before that one, a tunnel at once, and a client without a password before any step. A
listener is built, and once the client is dropped nothing is left. -/
theorem construction_accounted_refused :
    let steps : List Step := [.newClient .sample .logged false,
      .inject (.ok (.subscribe .getPendingRejected)), .inject (.ok .tunnelBuild)]
    let s := State.after { limits := [], reaction := fun _ _ => none } steps
    s.Fails (.queue "m0" "lamp" .atLeastOnce)
        "subscription to GetPendingJobExecutionsRejected failed" ∧
      (s.run (.newQueue "m0" "lamp" 1 .logged)).2.log =
        [⟨.debug, "start building internal jobs client for [lamp]"⟩,
          ⟨.error, "subscription to GetPendingJobExecutionsRejected failed"⟩] ∧
      NativeStep.taken s.library (s.run (.newQueue "m0" "lamp" 1 .logged)).1.library =
        [.newJobsClient, .subscribe ⟨some "lamp", none⟩ .getPendingAccepted] ∧
      s.Fails (.tunnel "localhost" "secret" .destination)
        "tunnel error: tunnel equals to null" ∧
      s.Fails (.client { endpoint := "localhost", username := "device" } false)
        "config is missing password auth or certificate/private key auth" ∧
      s.Succeeds (.listener "m0" "lamp" .atLeastOnce) ∧
      (s.after [.drop "m0"]).library.live = 0 := by
  intro steps s
  have hclient : s.clientOf "m0" = .ok 0 := rfl
  have hissue {k : Construction} (hk : k.parent? = some "m0") : s.CanIssue k := fun m hm =>
    ⟨0, by rw [← Option.some.inj (hk.symm.trans hm)]; exact hclient⟩
  have hfree {k : Construction} (hk : k.parent? = none) : s.CanIssue k := fun m hm => by
    rw [hk] at hm
    cases hm
  obtain ⟨-, -, hall⟩ := construction_accounted [] (fun _ _ => none) steps
  obtain ⟨-, htaken, hqueue, -⟩ := hall (.queue "m0" "lamp" .atLeastOnce) (hissue rfl)
  obtain ⟨-, -, htunnel, -⟩ := hall (.tunnel "localhost" "secret" .destination) (hfree rfl)
  obtain ⟨-, -, hclientless, -⟩ :=
    hall (.client { endpoint := "localhost", username := "device" } false) (hfree rfl)
  obtain ⟨-, -, -, hlistener⟩ := hall (.listener "m0" "lamp" .atLeastOnce) (hissue rfl)
  obtain ⟨-, hdropped, -⟩ := construction_accounted [] (fun _ _ => none) (steps ++ [.drop "m0"])
  exact ⟨hqueue _ rfl, by decide +kernel, htaken, htunnel _ rfl, hclientless _ rfl, hlistener rfl,
    hdropped (by decide)⟩

end State

end DeviceLink.Bench
