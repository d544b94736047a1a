import DeviceLink.Proofs.Bench.Audience
import DeviceLink.Proofs.Bench.Wiring
import DeviceLink.Proofs.Jobs.Payloads
/-!
# Jobs events are told once

Events fired on the jobs clients behind handles. An event of a topic that the handle is subscribed
to makes one callback to the user of the handle, which tells what the event says, and any other
makes none. So it goes for one event after the other, also where users panic.
-/

namespace DeviceLink.Simulated

variable {ρ : Type}

/-- An object with a holder can be reached. -/
theorem Shelf.get?_of_holders {α : Type} {s : Shelf α} {i : ℕ} (h : 0 < s.holders.getD i 0) :
    ∃ a, s.get? i = some a := by
  rw [getD_holders] at h
  rw [get?]
  cases hi : s[i]? with
  | none => simp [hi] at h
  | some x =>
    rw [hi] at h
    exact ⟨x.object, if_neg (Nat.ne_of_gt h)⟩

/-- A jobs client that is subscribed once to each of some topics tells of an event on one of them
once, and of no other. -/
theorem JobsClient.fire_eq {c : JobsClient ρ} {scope : Jobs.Scope} {topics : List Jobs.Topic}
    {receiver : ρ} (h : c.subscriptions = topics.map fun topic => ⟨scope, topic, receiver⟩)
    (hnodup : topics.Nodup) (e : Jobs.Event) (ioError : ℤ) :
    c.fire e ioError = if e.topic ∈ topics then [(receiver, .event e ioError)] else [] := by
  have hfilter : topics.filter (fun topic => decide (topic = e.topic)) =
      if e.topic ∈ topics then [e.topic] else [] := by
    rw [List.filter_eq, hnodup.count]
    split <;> rfl
  rw [fire, h, List.filter_map, List.map_map]
  simp only [Function.comp_def]
  rw [hfilter]
  split <;> rfl

end DeviceLink.Simulated

namespace DeviceLink.Bench

open Mqtt Simulated Library

/-- An event fired on the jobs client behind a handle. -/
structure Firing where
  handle : String
  event : Jobs.Event
  ioError : ℤ

/-- The firing as a step. -/
def Firing.step (f : Firing) : Step := .fire f.handle (.ok f.event) f.ioError

namespace State

/-- The topics of a handle on jobs that was not dropped. -/
def topics? (s : State) (name : String) : Option (List Jobs.Topic) :=
  match s.handles.lookup name with
  | some ⟨.queue .., false⟩ =>
    some [.getPendingAccepted, .getPendingRejected, .executionsChanged, .nextExecutionChanged,
      .startNextAccepted, .startNextRejected]
  | some ⟨.job .., false⟩ =>
    some [.describeAccepted, .describeRejected, .updateAccepted, .updateRejected]
  | _ => none

/-- The reports of steps one after the other. -/
def reports (s : State) : List Step → List Report
  | [] => []
  | st :: steps => (s.run st).2 :: (s.run st).1.reports steps

/-- The report of one callback and nothing else. It shows the call, or the record of a panic of the
user at it. -/
def callReport (s : State) (n : ℕ) (name : String) (c : Callback) : Report where
  answer := .number 1
  live := s.library.live
  calls := if (s.reaction n c).isSome then [] else [(name, c)]
  raw := []
  log := match s.reaction n c with
    | some p => if s.limits.admits .error then [c.panicRecord p] else []
    | none => []
  events := []

/-- The report of an event that nobody is told of. -/
def quietReport (s : State) : Report where
  answer := .number 0
  live := s.library.live
  calls := []
  raw := []
  log := []
  events := []

/-- The reports of firings one after the other, and the numbers of callbacks made before and after
them. An event on a topic of its handle makes one callback, the next, which tells of it; another
makes none. -/
inductive Answered (s : State) : ℕ → List Firing → List Report → ℕ → Prop
  | done (n : ℕ) : Answered s n [] [] n
  | told {n m : ℕ} {f : Firing} {fs : List Firing} {rs : List Report} {topics : List Jobs.Topic}
    {c : Callback} (htopics : s.topics? f.handle = some topics) (hmem : f.event.topic ∈ topics)
    (hc : Jobs.Told f.ioError f.event c) (rest : Answered s (n + 1) fs rs m) :
    Answered s n (f :: fs) (s.callReport n f.handle c :: rs) m
  | untold {n m : ℕ} {f : Firing} {fs : List Firing} {rs : List Report} {topics : List Jobs.Topic}
    (htopics : s.topics? f.handle = some topics) (hmem : f.event.topic ∉ topics)
    (rest : Answered s n fs rs m) : Answered s n (f :: fs) (s.quietReport :: rs) m

variable {s s' : State}

/-! ## One event -/

/-- The jobs client of a handle that was not dropped is alive. -/
theorem Sound.jobsClientOf (h : Sound s) {name : String} {handle : Handle} {j : ℕ}
    (hlookup : s.handles.lookup name = some handle) (hlive : handle.dropped = false)
    (hobject : ⟨.jobsClient, j⟩ ∈ handle.holding.objects)
    (hnumber : handle.holding.jobsClient? = some j) :
    ∃ c, s.jobsClientOf name = .ok (j, c) ∧ s.library.subscriptions? j = some c.subscriptions := by
  obtain ⟨before, rest, heq, -⟩ := List.lookup_eq_some_iff.1 hlookup
  have hmem : (name, handle) ∈ s.handles := by rw [heq]; simp
  have hholders : 0 < s.library.holders ⟨.jobsClient, j⟩ := by
    rw [h.accounts.count]
    exact List.count_pos_iff.2 (mem_held hmem hlive hobject)
  obtain ⟨c, hc⟩ := Simulated.Shelf.get?_of_holders (s := s.library.jobsClients) hholders
  refine ⟨c, ?_, subscriptions?_of_get? hc⟩
  simp [State.jobsClientOf, object, lookUp, hlookup, hnumber, hc, bind, Except.bind, pure,
    Except.pure]

/-- An event fired on a jobs client whose subscriptions are those of one receiver. -/
theorem step_fire {f : Firing} {j : ℕ} {c : JobsClient Receiver} {scope : Jobs.Scope}
    {topics : List Jobs.Topic} {receiver : Receiver}
    (hclient : s.jobsClientOf f.handle = .ok (j, c))
    (hsubscriptions : c.subscriptions = topics.map fun topic => ⟨scope, topic, receiver⟩)
    (hnodup : topics.Nodup) :
    s.step f.step = if f.event.topic ∈ topics then
      (s.tellJobs receiver (.event f.event f.ioError), .number 1) else (s, .number 0) := by
  simp only [step, Firing.step, attempt, hclient, orRefuse, bind, Except.bind, pure, Except.pure,
    answerCount, fireJobs, JobsClient.fire_eq hsubscriptions hnodup]
  split <;> rfl

/-- What comes of one event: one callback that tells of it, or nothing. -/
theorem step_firing (hsound : Sound s) (hwired : s.Wired) {f : Firing} {topics : List Jobs.Topic}
    (htopics : s.topics? f.handle = some topics) :
    (f.event.topic ∈ topics → ∃ c, Jobs.Told f.ioError f.event c ∧
      s.step f.step = (s.invoke f.handle c, .number 1)) ∧
    (f.event.topic ∉ topics → s.step f.step = (s, .number 0)) := by
  unfold topics? at htopics
  split at htopics
  · next j i thing hlookup =>
    -- The handle is live, so its client is; and the client has the subscriptions of a queue.
    cases htopics
    obtain ⟨c, hclient, hsubscriptions⟩ :=
      hsound.jobsClientOf hlookup rfl List.mem_cons_self rfl
    have hfits := hwired.fits_of_lookup hlookup
    rw [step_fire hclient (Option.some.inj (hsubscriptions.symm.trans hfits)) (by decide)]
    refine ⟨fun hmem => ?_, fun hmem => if_neg hmem⟩
    obtain ⟨c, hc, htold⟩ := Jobs.Queue.told_of_mem hmem f.ioError
    refine ⟨.queue c, htold, ?_⟩
    rw [if_pos (show f.event.topic ∈ Jobs.Queue.topics from hmem)]
    simp only [tellJobs, hc]
  · next j i thing job hlookup =>
    cases htopics
    obtain ⟨c, hclient, hsubscriptions⟩ :=
      hsound.jobsClientOf hlookup rfl List.mem_cons_self rfl
    have hfits := hwired.fits_of_lookup hlookup
    rw [step_fire hclient (Option.some.inj (hsubscriptions.symm.trans hfits)) (by decide)]
    refine ⟨fun hmem => ?_, fun hmem => if_neg hmem⟩
    obtain ⟨c, hc, htold⟩ := Jobs.Job.told_of_mem hmem f.ioError
    refine ⟨.job c, htold, ?_⟩
    rw [if_pos (show f.event.topic ∈ Jobs.Job.topics from hmem)]
    simp only [tellJobs, hc]
  · cases htopics

/-! ## Reports -/

/-- What a report depends on and firing events does not change. -/
structure Untouched (s s' : State) : Prop where
  handles : s'.handles = s.handles
  library : s'.library = s.library
  limits : s'.limits = s.limits
  reaction : s'.reaction = s.reaction

/-- The report of a step that reaches no session. -/
theorem Sound.report (h : Sound s) {st : Step} {answer : Answer} (hstep : s.step st = (s', answer))
    (hsessions : s'.sessions = s.sessions) :
    (s.run st).2 =
      { answer
        live := s'.library.live
        calls := s'.journal.calls.reverse
        raw := s'.journal.raw.reverse
        log := s'.journal.log.reverse
        events := [] } := by
  unfold State.run
  simp only [hstep]
  congr 1
  -- Between two steps every mailbox is empty, and this step put nothing in one.
  apply List.flatMap_eq_nil_iff.2
  intro x hx
  have hmail : x.2.mailbox = [] := h.mail x (hsessions ▸ (perm_sessionsByName _).mem_iff.1 hx)
  simp [hmail]

/-- A callback changes the journal and the count of callbacks, and nothing else. -/
theorem untouched_invoke (s : State) (name : String) (c : Callback) :
    Untouched s (s.invoke name c) ∧ (s.invoke name c).sessions = s.sessions ∧
      (s.invoke name c).invocations = s.invocations + 1 := by
  unfold invoke note
  dsimp only
  split
  · split <;> exact ⟨⟨rfl, rfl, rfl, rfl⟩, rfl, rfl⟩
  · exact ⟨⟨rfl, rfl, rfl, rfl⟩, rfl, rfl⟩

/-- What a callback adds to an empty journal is what its report shows. -/
theorem journal_invoke (h : s.journal = {}) (name : String) (c : Callback) :
    (s.invoke name c).journal =
      { calls := (s.callReport s.invocations name c).calls
        log := (s.callReport s.invocations name c).log } := by
  unfold invoke callReport
  cases hreaction : s.reaction s.invocations c with
  | none => simp [h]
  | some p =>
    by_cases hlimits : s.limits.admits .error <;> simp [note, Callback.panicNote_eq, hlimits, h]

theorem Sound.run_invoke (h : Sound s) {st : Step} {name : String} {c : Callback} {answer : Answer}
    (hstep : s.step st = (s.invoke name c, answer)) :
    (s.run st).2 = { s.callReport s.invocations name c with answer } ∧ Untouched s (s.run st).1 ∧
      (s.run st).1.invocations = s.invocations + 1 := by
  obtain ⟨huntouched, hsessions, hinvocations⟩ := s.untouched_invoke name c
  refine ⟨?_, ?_, ?_⟩
  · rw [h.report hstep hsessions, journal_invoke h.journal, huntouched.library]
    unfold callReport
    cases s.reaction s.invocations c with
    | none => rfl
    | some p => by_cases hlimits : s.limits.admits .error <;> simp [hlimits]
  · unfold State.run
    simp only [hstep]
    exact ⟨huntouched.handles, huntouched.library, huntouched.limits, huntouched.reaction⟩
  · unfold State.run
    simp only [hstep, hinvocations]

theorem Sound.run_quiet (h : Sound s) {st : Step} (hstep : s.step st = (s, .number 0)) :
    (s.run st).2 = s.quietReport ∧ Untouched s (s.run st).1 ∧
      (s.run st).1.invocations = s.invocations := by
  refine ⟨?_, ?_, ?_⟩
  · rw [h.report hstep rfl, h.journal]
    rfl
  · unfold State.run
    simp only [hstep]
    exact ⟨rfl, rfl, rfl, rfl⟩
  · unfold State.run
    simp only [hstep]

/-! ## One event after the other -/

theorem Untouched.topics? (h : Untouched s s') : s'.topics? = s.topics? := by
  funext name
  unfold State.topics?
  rw [h.handles]

theorem Untouched.callReport (h : Untouched s s') : s'.callReport = s.callReport := by
  funext n name c
  unfold State.callReport
  rw [h.library, h.limits, h.reaction]

theorem Untouched.quietReport (h : Untouched s s') : s'.quietReport = s.quietReport := by
  unfold State.quietReport
  rw [h.library]

/-- Where nothing was touched the same reports are due. -/
theorem Answered.of_untouched (h : Untouched s s') {n m : ℕ} {fs : List Firing} {rs : List Report}
    (hanswered : s'.Answered n fs rs m) : s.Answered n fs rs m := by
  induction hanswered with
  | done n => exact .done n
  | told htopics hmem hc rest ih =>
    rw [h.topics?] at htopics
    rw [h.callReport]
    exact .told htopics hmem hc ih
  | untold htopics hmem rest ih =>
    rw [h.topics?] at htopics
    rw [h.quietReport]
    exact .untold htopics hmem ih

/-- Events fired one after the other, from a state between two steps. -/
theorem answered_reports (hsound : Sound s) (hwired : s.Wired) {firings : List Firing}
    (h : ∀ f ∈ firings, (s.topics? f.handle).isSome) :
    s.Answered s.invocations firings (s.reports (firings.map Firing.step))
        (s.after (firings.map Firing.step)).invocations ∧
      (s.after (firings.map Firing.step)).library = s.library := by
  -- A firing touches neither the handles nor what its report depends on, so the rest is answered
  -- from the state after it as from the one before.
  induction firings generalizing s with
  | nil => exact ⟨.done _, rfl⟩
  | cons f firings ih =>
    obtain ⟨topics, htopics⟩ := Option.isSome_iff_exists.1 (h f List.mem_cons_self)
    have hrest (huntouched : Untouched s (s.run f.step).1) :
        s.Answered (s.run f.step).1.invocations firings
            ((s.run f.step).1.reports (firings.map Firing.step))
            (s.after ((f :: firings).map Firing.step)).invocations ∧
          (s.after ((f :: firings).map Firing.step)).library = s.library := by
      obtain ⟨hanswered, hlibrary⟩ := ih (hsound.run f.step) (hwired.run f.step) fun g hg =>
        huntouched.topics? ▸ h g (List.mem_cons_of_mem f hg)
      exact ⟨hanswered.of_untouched huntouched, hlibrary.trans huntouched.library⟩
    rw [List.map_cons, reports]
    obtain ⟨htold, huntold⟩ := step_firing hsound hwired htopics
    by_cases hmem : f.event.topic ∈ topics
    · obtain ⟨c, hc, hstep⟩ := htold hmem
      obtain ⟨hreport, huntouched, hinvocations⟩ := hsound.run_invoke hstep
      obtain ⟨hafter, hlibrary⟩ := hrest huntouched
      rw [hinvocations] at hafter
      rw [hreport]
      exact ⟨.told htopics hmem hc hafter, hlibrary⟩
    · obtain ⟨hreport, huntouched, hinvocations⟩ := hsound.run_quiet (huntold hmem)
      obtain ⟨hafter, hlibrary⟩ := hrest huntouched
      rw [hinvocations] at hafter
      rw [hreport]
      exact ⟨.untold htopics hmem hafter, hlibrary⟩

theorem wired_fresh (limits : Log.Limits) (reaction : Reaction) : Wired { limits, reaction } :=
  ⟨fun _ h => by cases h⟩

/-- In every run of the bench, events fired one after the other on the jobs clients behind handles
are told once each and in order: one callback for an event on a topic of its handle, of the kind of
the event and with its I/O error, whose payload and the copy of it have every field just as the
event has it. Only the document of a copy is there up to 127 levels, and the same if its doubles
read back from their digits. An event on another topic makes no callback. -/
theorem events_told_once (limits : Log.Limits) (reaction : Reaction) (steps : List Step)
    (firings : List Firing) :
    let s := State.after { limits, reaction } steps
    (∀ f ∈ firings, (s.topics? f.handle).isSome) →
      s.Answered s.invocations firings (s.reports (firings.map Firing.step))
          (s.after (firings.map Firing.step)).invocations ∧
        (s.after (firings.map Firing.step)).library = s.library := by
  intro s h
  have hsound : Sound s := (sound_fresh limits reaction).after steps
  have hwired : s.Wired := (wired_fresh limits reaction).after steps
  exact answered_reports hsound hwired h

/-- A full execution, a rejection at which the user panics, an event that the handle is not
subscribed to and one of two lists: three callbacks, two of which are shown. -/
theorem events_told_once_panic :
    let steps : List Step := [.newClient .sample .logged false, .newQueue "m0" "lamp" 1 .logged,
      .newJob "m0" "lamp" "update" 1 .logged, .panicOn ["on_get_pending_rejected"] .other]
    let execution : Jobs.Execution :=
      { jobId := some "update"
        thingName := some "lamp"
        document := some (.object [("reboot", .bool true)])
        status := some .inProgress
        queuedAt := some ⟨1, 0⟩
        startedAt := some ⟨2, 0⟩
        lastUpdatedAt := some ⟨3, 0⟩
        versionNumber := some 4
        executionNumber := some 5 }
    let firings : List Firing := [
      ⟨"e2", .describeAccepted (some { execution := some execution }), 7⟩,
      ⟨"j1", .getPendingRejected none, -1⟩,
      ⟨"j1", .describeAccepted none, 0⟩,
      ⟨"j1", .getPendingAccepted (some { queued := some [{ jobId := some "update" }, {}] }), 0⟩]
    let s := State.after { limits := [], reaction := fun _ _ => none } steps
    (∀ f ∈ firings, (s.topics? f.handle).isSome) ∧
      s.Answered s.invocations firings (s.reports (firings.map Firing.step))
        (s.after (firings.map Firing.step)).invocations ∧
      (s.reports (firings.map Firing.step)).map (·.calls.length) = [1, 0, 0, 1] ∧
      (s.after (firings.map Firing.step)).invocations = 3 := by
  intro steps execution firings s
  have hhyp : ∀ f ∈ firings, (s.topics? f.handle).isSome := by decide
  have htold := events_told_once [] (fun _ _ => none) steps firings hhyp
  exact ⟨hhyp, htold.1, by decide, by decide⟩

/-- A document that is one double whose digits read back as the next double: the copy has that
one. -/
theorem copied_double_misread :
    let steps : List Step := [.newClient .sample .logged false, .newQueue "m0" "lamp" 1 .logged]
    let v : Json.Value := .double ⟨4288133819372818567⟩
    let f : Firing :=
      ⟨"j1", .startNextAccepted (some { execution := some { document := some v } }), 0⟩
    let s := State.after { limits := [], reaction := fun _ _ => none } steps
    (∃ topics, s.topics? f.handle = some topics ∧ f.event.topic ∈ topics) ∧
      v.nesting ≤ 127 ∧
      ∃ info, (s.run f.step).2.calls = [("j1", .queue (.startNextAccepted none (some info) 0))] ∧
        info.toOwned.document = some (.double ⟨4288133819372818568⟩) ∧
        info.toOwned.document ≠ some v := by
  intro steps v f s
  have hparse : Json.Value.parse? v.render = some (.double ⟨4288133819372818568⟩) := by
    rw [Json.Value.parse?, Json.Value.render, String.toList_ofList]
    rfl
  have hread : (Jobs.Info.ofExecution { document := some v }).toOwned.document =
      some (.double ⟨4288133819372818568⟩) := by
    show (if (Utf8.encode v.render).isEmpty then none
      else Json.Value.ofBytes? (Utf8.encode v.render)) = _
    rw [List.isEmpty_eq_false_iff.2 (Json.encode_render_ne_nil v), Json.Value.ofBytes?,
      Utf8.decode?_encode]
    exact hparse
  refine ⟨⟨_, rfl, by decide⟩, by decide, _, rfl, hread, ?_⟩
  rw [hread]
  simp [v]

end State

end DeviceLink.Bench
