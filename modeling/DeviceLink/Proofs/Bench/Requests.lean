import DeviceLink.Proofs.Bench.Audience
import DeviceLink.Proofs.Bench.Construction
import DeviceLink.Proofs.Bench.Firing
/-!
# Requests and their completions

The requests made on a handle on jobs, from the step that made the handle on. Those that are
accepted are taken down in the order they were made. Each is completed once, by the first
completion after it, under the token it was made with.
-/

namespace DeviceLink

theorem overlay_none {α : Type} (source : Option α) : overlay none source = source := by
  cases source <;> rfl

theorem overlay_some {α : Type} (target : α) (source : Option α) :
    overlay (some target) source = some (source.getD target) := by
  cases source <;> rfl

/-- Nothing is found under a key that no entry has. -/
theorem lookup_of_notMem {κ α : Type} [BEq κ] [LawfulBEq κ] {key : κ} {l : List (κ × α)}
    (h : key ∉ l.map (·.1)) : l.lookup key = none := by
  rw [List.lookup_eq_none_iff]
  intro entry hentry
  exact bne_iff_ne.2 fun heq => h (heq ▸ List.mem_map_of_mem hentry)

/-- What is found under a key is there. -/
theorem mem_of_lookup {κ α : Type} [BEq κ] [LawfulBEq κ] {key : κ} {l : List (κ × α)} {a : α}
    (h : l.lookup key = some a) : (key, a) ∈ l := by
  obtain ⟨before, rest, rfl, -⟩ := List.lookup_eq_some_iff.1 h
  exact List.mem_append_right before List.mem_cons_self

/-- With one entry for each key, what is there under a key is what is found. -/
theorem lookup_of_mem {κ α : Type} [BEq κ] [LawfulBEq κ] {key : κ} {l : List (κ × α)} {a : α}
    (hn : (l.map (·.1)).Nodup) (hmem : (key, a) ∈ l) : l.lookup key = some a := by
  cases hlookup : l.lookup key with
  | none => exact absurd (List.lookup_eq_none_iff.1 hlookup _ hmem) (by simp)
  | some b =>
    have hsame := List.inj_on_of_nodup_map hn (mem_of_lookup hlookup) hmem rfl
    rw [(Prod.mk.inj hsame).2]

namespace Simulated

variable {ρ : Type}

theorem Shelf.get?_put {α : Type} {s : Shelf α} {i : ℕ} {a : α} (h : s.get? i = some a) (b : α) :
    (s.put i b).get? i = some b := by
  obtain ⟨holders, hpos, heq⟩ := getElem?_of_get? h
  simp [get?, put, heq, Nat.pos_iff_ne_zero.1 hpos]

theorem Shelf.get?_snoc {α : Type} (s : Shelf α) (a : α) :
    Shelf.get? (s ++ [⟨a, 1⟩]) s.length = some a := by
  simp [get?]

/-- Subscribing sends no request. -/
theorem JobsClient.subscribeAll_requests (c : JobsClient ρ) (faults : Faults) (scope : Jobs.Scope)
    (receiver : ρ) (topics : List Jobs.Topic) :
    (c.subscribeAll faults scope receiver topics).1.requests = c.requests ∧
      (c.subscribeAll faults scope receiver topics).1.pendingPublishes = c.pendingPublishes := by
  induction topics generalizing c with
  | nil => exact ⟨rfl, rfl⟩
  | cons topic topics ih =>
    rw [subscribeAll, subscribe]
    by_cases h : (faults.isSet (.subscribe topic) || faults.isSet .operationsRejected) = true <;>
      simp [h, ih]

theorem Faults.isSet_inject (faults : Faults) (fault other : Fault) :
    (faults.inject fault).isSet other = (faults.isSet other || decide (fault = other)) := by
  unfold inject
  by_cases h : faults.isSet fault
  · rw [if_pos h]
    by_cases heq : fault = other
    · rw [← heq, h, Bool.true_or]
    · simp [heq]
  · rw [if_neg h]
    by_cases heq : fault = other <;> simp [isSet, heq, Ne.symm]

theorem Faults.isSet_clear (faults : Faults) (fault other : Fault) :
    (faults.clear fault).isSet other = (faults.isSet other && decide (fault ≠ other)) := by
  by_cases heq : fault = other
  · simp [isSet, clear, heq]
  · simp [isSet, clear, heq, Ne.symm heq]

end Simulated

namespace Bench

open Mqtt Simulated

/-! ## Faults that come and go -/

/-- A change of the faults in force. -/
inductive FaultChange
  | inject (fault : Fault)
  | clear (fault : Fault)
  | clearAll

namespace FaultChange

/-- The change as a step. -/
def step : FaultChange → Step
  | inject fault => .inject (.ok fault)
  | clear fault => .clear (.ok fault)
  | clearAll => .clearFaults

/-- The faults in force after it. -/
def after (faults : Faults) : FaultChange → Faults
  | inject fault => faults.inject fault
  | clear fault => faults.clear fault
  | clearAll => []

/-- Whether operations are refused after it, by whether they were before it. -/
def refuses (refused : Bool) : FaultChange → Bool
  | inject fault => refused || decide (fault = .operationsRejected)
  | clear fault => refused && decide (fault ≠ .operationsRejected)
  | clearAll => false

theorem isSet_after (faults : Faults) (change : FaultChange) :
    (change.after faults).isSet .operationsRejected =
      change.refuses (faults.isSet .operationsRejected) := by
  cases change with
  | inject fault => exact Faults.isSet_inject ..
  | clear fault => exact Faults.isSet_clear ..
  | clearAll => rfl

theorem step_eq (s : State) (change : FaultChange) :
    s.step change.step = (s.withFaults (change.after s.library.faults), .nothing) := by
  cases change <;> rfl

end FaultChange

/-! ## Handles on jobs -/

/-- A handle on jobs: on those of a thing, or on one of them. -/
inductive JobsHandle
  | queue (thing : String)
  | job (thing id : String)

/-- A request as the user of a handle makes it. -/
inductive Ask
  | getPending
  | startNext (r : Jobs.NextRequest)
  | describe (r : Jobs.DescribeRequest)
  | update (r : Jobs.UpdateRequest)

namespace JobsHandle

/-- The step that makes the handle. -/
def build (m : String) (qos : Qos) (reporting : Reporting) : JobsHandle → Step
  | queue thing => .newQueue m thing (Coded.code qos) reporting
  | job thing id => .newJob m thing id (Coded.code qos) reporting

/-- What that step answers if the handle was made. -/
def answer (name : String) : JobsHandle → Answer
  | queue thing => .named name thing
  | job _ id => .named name id

/-- What the handle holds: a jobs client, and the connection it is built on. -/
def holding (client connection : ℕ) : JobsHandle → Holding
  | queue thing => .queue client connection thing
  | job thing id => .job client connection thing id

/-- Who is registered with the jobs client. -/
def receiver (name : String) : JobsHandle → Receiver
  | queue _ => .queue name
  | job .. => .job name

/-- The callback about a request that was sent. -/
def completed (token : Token) (ioError : ℤ) : JobsHandle → Callback
  | queue _ => .queue (.publishCompleted token ioError)
  | job .. => .job (.publishCompleted token ioError)

/-- What is sent to the service, if the handle is one for such a request. Every field is the
caller's, but for the thing, and for the job where the caller names none. -/
def request? : JobsHandle → Ask → Option Jobs.Request
  | queue thing, .getPending => some (.getPending (some thing) none)
  | queue thing, .startNext r => some (.startNext (some thing) r.stepTimeout r.clientToken)
  | job thing id, .describe r =>
    some (.describe {
      thing := some thing
      job := some (r.jobId.getD id)
      executionNumber := r.executionNumber
      includeDocument := r.includeDocument
      clientToken := r.clientToken })
  | job thing id, .update r =>
    some (.update {
      thing := some thing
      job := some (r.jobId.getD id)
      status := r.status
      expectedVersion := r.expectedVersion
      executionNumber := r.executionNumber
      includeState := r.includeState
      includeDocument := r.includeDocument
      stepTimeout := r.stepTimeout
      clientToken := r.clientToken })
  | queue _, .describe _ | queue _, .update _ | job .., .getPending | job .., .startNext _ => none

end JobsHandle

/-! ## Dealings with a handle -/

/-- What is done with a handle on jobs: a request is made on it, or those made are completed. In
between faults come and go. -/
inductive Dealing
  | ask (a : Ask) (qos : Qos) (token : Token)
  | fault (change : FaultChange)
  | complete (ioError : ℤ)

namespace Dealing

/-- The dealing as a step. -/
def step (name : String) : Dealing → Step
  | ask .getPending qos token => .getPending name token (Coded.code qos)
  | ask (.startNext r) qos token => .startNext name token (Coded.code qos) r
  | ask (.describe r) qos token => .describe name token (Coded.code qos) r
  | ask (.update r) qos token => .update name token (Coded.code qos) r
  | fault change => change.step
  | complete ioError => .completePublishes name ioError

/-- Whether requests are refused after it, by whether they were before it. -/
def refuses (refused : Bool) : Dealing → Bool
  | fault change => change.refuses refused
  | ask .. | complete _ => refused

/-- The I/O error it completes requests with. -/
def completion? : Dealing → Option ℤ
  | complete ioError => some ioError
  | _ => none

end Dealing

/-- A request as it was sent. -/
structure Sent where
  token : Token
  request : Jobs.Request
  qos : Qos

/-- A request that was accepted, and the I/O error it is completed with once it is. -/
structure Accepted extends Sent where
  ioError : Option ℤ

/-- What becomes of the token of a request. -/
def Accepted.fate (a : Accepted) : Token × Option ℤ := (a.token, a.ioError)

/-- The tokens that are completed, in order, and the I/O errors. -/
def completions (fates : List (Token × Option ℤ)) : List (Token × ℤ) :=
  fates.filterMap fun f => f.2.map (f.1, ·)

/-- The tokens that are not completed yet. -/
def outstanding (fates : List (Token × Option ℤ)) : List Token :=
  (fates.filter (·.2.isNone)).map (·.1)

/-- The I/O error of the first completion among dealings. -/
def firstCompletion (dealings : List Dealing) : Option ℤ := dealings.findSome? (·.completion?)

namespace JobsHandle

/-- The request that a dealing makes if it is accepted. -/
def sent? (x : JobsHandle) (refused : Bool) : Dealing → Option Sent
  | .ask a qos token => if refused then none else (x.request? a).map (⟨token, ·, qos⟩)
  | .fault _ | .complete _ => none

/-- The requests that are accepted in dealings. -/
def accepted (x : JobsHandle) : (refused : Bool) → List Dealing → List Accepted
  | _, [] => []
  | refused, d :: ds =>
    ((x.sent? refused d).map (⟨·, firstCompletion ds⟩)).toList ++ x.accepted (d.refuses refused) ds

/-- What a dealing answers when a number of requests wait. -/
def reply (x : JobsHandle) (refused : Bool) (waiting : ℕ) : Dealing → Answer
  | .ask a .. => if (x.request? a).isSome then .yes !refused else .refused .wrongHandle
  | .complete _ => .number waiting
  | .fault _ => .nothing

/-- The callbacks about tokens that are completed. -/
def callbacks (x : JobsHandle) (name : String) (done : List (Token × ℤ)) :
    List (String × Callback) :=
  done.map fun (token, ioError) => (name, x.completed token ioError)

/-- The tokens that wait after a dealing. -/
def waitingAfter (x : JobsHandle) (refused : Bool) (waiting : List Token) (d : Dealing) :
    List Token :=
  match d.completion? with
  | some _ => []
  | none => waiting ++ (x.sent? refused d).toList.map (·.token)

/-- The tokens completed in a dealing. -/
def doneIn (waiting : List Token) (d : Dealing) : List (Token × ℤ) :=
  match d.completion? with
  | some ioError => waiting.map (·, ioError)
  | none => []

/-- What becomes of tokens that wait, and of those of the requests accepted later. -/
def fates (x : JobsHandle) (refused : Bool) (waiting : List Token) (ds : List Dealing) :
    List (Token × Option ℤ) :=
  waiting.map (·, firstCompletion ds) ++ (x.accepted refused ds).map (·.fate)

variable (x : JobsHandle) (refused : Bool) (waiting : List Token)

/-- A dealing completes the tokens that wait, or one more may wait after it. -/
theorem fates_cons (d : Dealing) (ds : List Dealing) :
    completions (x.fates refused waiting (d :: ds)) = doneIn waiting d ++
        completions (x.fates (d.refuses refused) (x.waitingAfter refused waiting d) ds) ∧
      outstanding (x.fates refused waiting (d :: ds)) =
        outstanding (x.fates (d.refuses refused) (x.waitingAfter refused waiting d) ds) := by
  cases d with
  | complete ioError =>
    simp [fates, firstCompletion, Dealing.completion?, accepted, sent?, completions, outstanding,
      doneIn, waitingAfter]
  | ask a qos token =>
    have heq : x.fates refused waiting (.ask a qos token :: ds) =
        x.fates refused (x.waitingAfter refused waiting (.ask a qos token)) ds := by
      simp only [fates, accepted, waitingAfter, Dealing.completion?, firstCompletion,
        Dealing.refuses, List.findSome?_cons, List.map_append, List.append_assoc]
      cases x.sent? refused (.ask a qos token) <;> rfl
    exact ⟨congrArg completions heq, congrArg outstanding heq⟩
  | fault change =>
    simp [fates, firstCompletion, Dealing.completion?, accepted, sent?, doneIn, waitingAfter]

end JobsHandle

namespace State

/-! ## One dealing -/

/-- What is known of a handle on jobs: the requests that its client took down, the tokens that
wait, and whether requests are refused. -/
structure Attends (s : State) (name : String) (x : JobsHandle)
    (requests : List (Jobs.Request × Qos)) (waiting : List Token) (refused : Bool) : Prop where
  client : ∃ j i c, s.handles.lookup name = some ⟨x.holding j i, false⟩ ∧
    s.library.jobsClients.get? j = some c ∧ c.requests = requests ∧
    c.pendingPublishes = waiting.map (·, x.receiver name)
  faults : s.library.faults.isSet .operationsRejected = refused

variable {s : State} {x : JobsHandle} {name : String} {requests : List (Jobs.Request × Qos)}
  {waiting : List Token} {refused : Bool}

theorem jobsClientOf_of_lookup {j i : ℕ} {c : JobsClient Receiver}
    (hlookup : s.handles.lookup name = some ⟨x.holding j i, false⟩)
    (hget : s.library.jobsClients.get? j = some c) : s.jobsClientOf name = .ok (j, c) := by
  cases x <;> simp [jobsClientOf, object, lookUp, hlookup, JobsHandle.holding, Holding.jobsClient?,
    hget, bind, Except.bind, pure, Except.pure]

/-- A request is sent if the handle is one for it. -/
theorem step_ask {j i : ℕ} (hlookup : s.handles.lookup name = some ⟨x.holding j i, false⟩) (a : Ask)
    (qos : Qos) (token : Token) :
    (x.request? a = none →
      s.step ((Dealing.ask a qos token).step name) = (s, .refused .wrongHandle)) ∧
    ∀ r, x.request? a = some r → ∃ line, s.step ((Dealing.ask a qos token).step name) =
      answerYes (s.sendRequest j r qos token (x.receiver name) line) := by
  cases x <;> cases a <;>
    simp [step, Dealing.step, attempt, lookUpLive, lookUp, hlookup, JobsHandle.holding,
      Holding.jobsClient?, JobsHandle.request?, bind, Except.bind, pure, Except.pure, throw,
      throwThe, MonadExceptOf.throw, decoded_code, JobsHandle.receiver,
      Jobs.Queue.getPendingRequest, Jobs.Queue.startNextRequest, Jobs.Job.describeRequest,
      Jobs.Job.updateRequest, overlay_none, overlay_some]
  all_goals exact ⟨_, rfl⟩

/-- Every completion is a callback under its token. -/
theorem tellAllJobs_published (s : State) (u : Audience) (x : JobsHandle) (name : String)
    (ioError : ℤ) (tokens : List Token) :
    (s.under u).tellAllJobs (tokens.map fun token => (x.receiver name, .published token ioError)) =
      s.under (u.meetAll s.limits ((x.callbacks name (tokens.map (·, ioError))).map fun call =>
        .call call.1 call.2)) := by
  induction tokens generalizing u with
  | nil => rfl
  | cons token tokens ih =>
    have htold : (s.under u).tellJobs (x.receiver name) (.published token ioError) =
        s.under (u.meetAll s.limits [.call name (x.completed token ioError)]) := by
      rw [← invoke_under]
      cases x <;> rfl
    rw [tellAllJobs, List.map_cons, List.foldl_cons, htold]
    exact ih _

theorem sendRequest_refused {j : ℕ} {c : JobsClient Receiver}
    (hget : s.library.jobsClients.get? j = some c)
    (hrefused : s.library.faults.isSet .operationsRejected = true) (r : Jobs.Request) (qos : Qos)
    (token : Token) (receiver : Receiver) (line : Log.Line) :
    s.sendRequest j r qos token receiver line =
      ((s.withLibrary (s.library.putJobsClient j c)).note line, false) := by
  simp [sendRequest, request, hget, JobsClient.publish, hrefused]

theorem sendRequest_accepted {j : ℕ} {c : JobsClient Receiver}
    (hget : s.library.jobsClients.get? j = some c)
    (hrefused : s.library.faults.isSet .operationsRejected = false) (r : Jobs.Request) (qos : Qos)
    (token : Token) (receiver : Receiver) (line : Log.Line) :
    ∃ c', s.sendRequest j r qos token receiver line =
        (s.withLibrary (s.library.putJobsClient j c'), true) ∧
      c'.requests = c.requests ++ [(r, qos)] ∧
      c'.pendingPublishes = c.pendingPublishes ++ [(token, receiver)] := by
  unfold sendRequest request
  simp only [hget, JobsClient.publish, hrefused, Bool.false_eq_true, if_false, if_true]
  exact ⟨_, rfl, rfl, rfl⟩

/-- The handle once its jobs client was replaced. -/
theorem attends_put {j i : ℕ} {c : JobsClient Receiver} (c' : JobsClient Receiver)
    (waiting : List Token) (hlookup : s.handles.lookup name = some ⟨x.holding j i, false⟩)
    (hget : s.library.jobsClients.get? j = some c)
    (hwaiting : c'.pendingPublishes = waiting.map (·, x.receiver name)) :
    (s.withLibrary (s.library.putJobsClient j c')).Attends name x c'.requests waiting
      (s.library.faults.isSet .operationsRejected) :=
  ⟨⟨j, i, c', hlookup, Shelf.get?_put hget c', rfl, hwaiting⟩, rfl⟩

/-- What comes of a dealing: its answer and what happens to the users, and what is known of the
handle after it. -/
def Deals (s : State) (name : String) (x : JobsHandle) (requests : List (Jobs.Request × Qos))
    (waiting : List Token) (refused : Bool) (d : Dealing) : Prop :=
  ∃ (s' : State) (hs : List Happening),
    s.step (d.step name) =
      (s'.under (s.audience.meetAll s.limits hs), x.reply refused waiting.length d) ∧
    callsOf hs = x.callbacks name (JobsHandle.doneIn waiting d) ∧
    s'.Attends name x (requests ++ (x.sent? refused d).toList.map fun m => (m.request, m.qos))
      (x.waitingAfter refused waiting d) (d.refuses refused)

/-- A dealing in which nothing was sent and nothing completed. -/
theorem Attends.idle (s' : State) (hs : List Happening) (hcalls : callsOf hs = []) {d : Dealing}
    (hsent : x.sent? refused d = none) (hd : d.completion? = none)
    (hstep : s.step (d.step name) =
      (s'.under (s.audience.meetAll s.limits hs), x.reply refused waiting.length d))
    (h : s'.Attends name x requests waiting (d.refuses refused)) :
    s.Deals name x requests waiting refused d := by
  refine ⟨s', hs, hstep, ?_, ?_⟩
  · rw [hcalls, JobsHandle.doneIn, hd]
    rfl
  · simpa [JobsHandle.waitingAfter, hsent, hd] using h

theorem Attends.ask (h : s.Attends name x requests waiting refused) (a : Ask) (qos : Qos)
    (token : Token) : s.Deals name x requests waiting refused (.ask a qos token) := by
  obtain ⟨⟨j, i, c, hlookup, hget, rfl, hwaiting⟩, hfaults⟩ := id h
  obtain ⟨hwrong, hsent⟩ := step_ask hlookup a qos token
  cases hrequest : x.request? a with
  | none =>
    refine Attends.idle s [] rfl (by simp [JobsHandle.sent?, hrequest]) rfl ?_ h
    rw [hwrong hrequest, JobsHandle.reply, hrequest]
    rfl
  | some r =>
    obtain ⟨line, hstep⟩ := hsent r hrequest
    cases refused with
    | true =>
      have hput := attends_put c waiting hlookup hget hwaiting
      rw [hfaults] at hput
      refine Attends.idle _ [.line line] rfl rfl rfl ?_ hput
      rw [hstep, sendRequest_refused hget hfaults, JobsHandle.reply, hrequest]
      exact congrArg (·, Answer.yes false) (note_under (s.withLibrary _) s.audience line)
    | false =>
      obtain ⟨c', hsend, hrequests, hpublishes⟩ :=
        sendRequest_accepted hget hfaults r qos token (x.receiver name) line
      have hput := attends_put c' (waiting ++ [token]) hlookup hget
        (by rw [hpublishes, hwaiting, List.map_append]; rfl)
      rw [hfaults, hrequests] at hput
      refine ⟨s.withLibrary (s.library.putJobsClient j c'), [], ?_, rfl, ?_⟩
      · rw [hstep, hsend, JobsHandle.reply, hrequest]
        rfl
      · simpa [JobsHandle.sent?, hrequest, JobsHandle.waitingAfter, Dealing.completion?,
          Dealing.refuses] using hput

theorem Attends.complete (h : s.Attends name x requests waiting refused) (ioError : ℤ) :
    s.Deals name x requests waiting refused (.complete ioError) := by
  obtain ⟨⟨j, i, c, hlookup, hget, rfl, hwaiting⟩, rfl⟩ := h
  let s' := s.withLibrary (s.library.putJobsClient j { c with pendingPublishes := [] })
  have hstep : s.step ((Dealing.complete ioError).step name) =
      (s'.tellAllJobs (waiting.map fun token => (x.receiver name, .published token ioError)),
        .number waiting.length) := by
    simp [State.step, Dealing.step, attempt, jobsClientOf_of_lookup hlookup hget, answerCount,
      completePublishes, JobsClient.completePublishes, hwaiting, Function.comp_def, s', bind,
      Except.bind, pure, Except.pure, withLibrary]
  refine ⟨s', _, hstep.trans (congrArg (·, _) ?_), callsOf_calls _, ?_⟩
  · exact s'.tellAllJobs_published s.audience x name ioError waiting
  · have hput := attends_put { c with pendingPublishes := [] } [] hlookup hget (x := x) rfl
    simpa [JobsHandle.sent?, JobsHandle.waitingAfter, Dealing.completion?, Dealing.refuses] using
      hput

/-- What comes of a dealing, apart from the users. -/
theorem Attends.step (h : s.Attends name x requests waiting refused) (d : Dealing) :
    s.Deals name x requests waiting refused d := by
  cases d with
  | fault change =>
    have hset := change.isSet_after s.library.faults
    rw [h.faults] at hset
    exact Attends.idle (s.withFaults (change.after s.library.faults)) [] rfl rfl rfl
      (change.step_eq s) ⟨h.client, hset⟩
  | ask a qos token => exact h.ask a qos token
  | complete ioError => exact h.complete ioError

/-! ## Dealings one after the other -/

/-- What comes of dealings, the users included. -/
structure Dealt (s t : State) (name : String) (x : JobsHandle) (refused : Bool)
    (requests : List (Jobs.Request × Qos)) (fates : List (Token × Option ℤ))
    (reports : List Report) : Prop where
  attends : t.Attends name x requests (outstanding fates) refused
  journal : t.journal = {}
  reaction : t.reaction = s.reaction
  invocations : t.invocations =
    s.invocations + (x.callbacks name (completions fates)).length
  calls : reports.flatMap (·.calls) =
    shownCalls s.reaction s.invocations (x.callbacks name (completions fates))

theorem Attends.run (h : s.Attends name x requests waiting refused) (hjournal : s.journal = {})
    (d : Dealing) :
    let t := (s.run (d.step name)).1
    let calls := x.callbacks name (JobsHandle.doneIn waiting d)
    t.Attends name x (requests ++ (x.sent? refused d).toList.map fun m => (m.request, m.qos))
        (x.waitingAfter refused waiting d) (d.refuses refused) ∧
      t.journal = {} ∧ t.reaction = s.reaction ∧ t.invocations = s.invocations + calls.length ∧
      (s.run (d.step name)).2.answer = x.reply refused waiting.length d ∧
      (s.run (d.step name)).2.calls = shownCalls s.reaction s.invocations calls := by
  intro t calls
  obtain ⟨s', hs, hstep, hcalls, hattends⟩ := h.step d
  obtain ⟨hstate, hanswer, hshown⟩ := run_of_happenings hjournal hstep
  subst t
  rw [hstate]
  rw [hcalls] at hshown ⊢
  exact ⟨⟨hattends.client, hattends.faults⟩, rfl, rfl, rfl, hanswer, hshown⟩

theorem Attends.after (h : s.Attends name x requests waiting refused) (hjournal : s.journal = {})
    (ds : List Dealing) :
    Dealt s (s.after (ds.map (·.step name))) name x (ds.foldl Dealing.refuses refused)
      (requests ++ (x.accepted refused ds).map fun a => (a.request, a.qos))
      (x.fates refused waiting ds) (s.reports (ds.map (·.step name))) := by
  -- What waits before a dealing and what is accepted in it wait for the dealings after it.
  induction ds generalizing s requests waiting refused with
  | nil =>
    have hfates : x.fates refused waiting [] = waiting.map (·, none) := List.append_nil _
    have hcompletions : completions (x.fates refused waiting []) = [] := by
      simp [hfates, completions]
    have houtstanding : outstanding (x.fates refused waiting []) = waiting := by
      simp [hfates, outstanding, List.filter_map, Function.comp_def]
    refine ⟨?_, hjournal, rfl, ?_, ?_⟩
    · rw [houtstanding]
      simpa [JobsHandle.accepted, State.after] using h
    · rw [hcompletions]
      rfl
    · rw [hcompletions]
      rfl
  | cons d ds ih =>
    obtain ⟨hattends, hjournal', hreaction, hinvocations, -, hcalls⟩ := h.run hjournal d
    have hrest := ih hattends hjournal'
    obtain ⟨hcompletions, houtstanding⟩ := x.fates_cons refused waiting d ds
    have hcallbacks : x.callbacks name (completions (x.fates refused waiting (d :: ds))) =
        x.callbacks name (JobsHandle.doneIn waiting d) ++ x.callbacks name
          (completions (x.fates (d.refuses refused) (x.waitingAfter refused waiting d) ds)) := by
      rw [hcompletions]
      exact List.map_append
    refine ⟨?_, hrest.journal, hrest.reaction.trans hreaction, ?_, ?_⟩
    · rw [houtstanding]
      have hattends' := hrest.attends
      rw [List.append_assoc] at hattends'
      have hrequests : (x.accepted refused (d :: ds)).map (fun a => (a.request, a.qos)) =
          ((x.sent? refused d).toList.map fun m => (m.request, m.qos)) ++
            (x.accepted (d.refuses refused) ds).map fun a => (a.request, a.qos) := by
        cases hsent : x.sent? refused d <;> simp [JobsHandle.accepted, hsent]
      rw [hrequests]
      exact hattends'
    · rw [hcallbacks, List.length_append, ← Nat.add_assoc, ← hinvocations]
      exact hrest.invocations
    · rw [hcallbacks, shownCalls_append, List.map_cons, reports, List.flatMap_cons, hcalls,
        ← hinvocations, ← hreaction]
      exact congrArg _ hrest.calls

/-! ## Making the handle -/

theorem clientOf_refused {m : String} {answer : Answer} (h : s.clientOf m = .error answer) :
    ∃ r, answer = .refused r := by
  unfold clientOf lookUpLive lookUp at h
  cases hlookup : s.handles.lookup m with
  | none =>
    simp only [hlookup] at h
    cases h
    exact ⟨_, rfl⟩
  | some handle =>
    simp only [hlookup] at h
    cases hnumber : handle.holding.connection? with
    | none =>
      simp only [hnumber] at h
      cases h
      exact ⟨_, rfl⟩
    | some i =>
      by_cases hdropped : handle.dropped <;> by_cases hraw : handle.holding.isRaw <;>
        simp [hnumber, hdropped, hraw, bind, Except.bind, pure, Except.pure, throw, throwThe,
          MonadExceptOf.throw] at h <;> exact ⟨_, h.symm⟩

/-- A jobs client that was just made has sent nothing. -/
theorem subscribedJobsClient_new {s' : State} {scope : Jobs.Scope} {topics : List Jobs.Topic}
    {receiver : Receiver} {j : ℕ}
    (h : s.subscribedJobsClient scope topics receiver = (s', .ok j)) :
    ∃ library c, s' = s.withLibrary library ∧ library.jobsClients.get? j = some c ∧
      c.requests = [] ∧ c.pendingPublishes = [] := by
  unfold subscribedJobsClient Library.newJobsClient at h
  split at h
  · cases h
  · next library j' hnew =>
    split at hnew
    · cases hnew
    · cases hnew
      obtain ⟨hrequests, hpublishes⟩ := JobsClient.subscribeAll_requests
        ({} : JobsClient Receiver) s.library.faults scope receiver topics
      dsimp only at h
      split at h
      · cases h
      · cases h
        exact ⟨_, _, rfl, Shelf.get?_put (Shelf.get?_snoc _ _) _, hrequests, hpublishes⟩

theorem Named.note (h : s.Named) (line : Log.Line) : (s.note line).Named :=
  ((turn_note s line : Turn [] s _).turned h).named

/-- A handle that was just made is found under its name. -/
theorem Named.lookup_addHandle (h : s.Named) (library : Library Receiver) {sort : String}
    (hsort : sort.length = 1) (holding : Holding) :
    ((s.withLibrary library).addHandle (s.nextName sort) holding).handles.lookup (s.nextName sort) =
      some { holding } := by
  have hfresh := lookup_of_notMem (h.fresh hsort)
  simp [addHandle, withLibrary, List.lookup_append, hfresh]

/-- A handle on a jobs client that was just made. -/
theorem attends_addHandle (hnamed : s.Named) (library : Library Receiver) {sort : String}
    (hsort : sort.length = 1) {j i : ℕ} {c : JobsClient Receiver}
    (hget : library.jobsClients.get? j = some c) (hrequests : c.requests = [])
    (hpublishes : c.pendingPublishes = []) :
    ((s.withLibrary library).addHandle (s.nextName sort) (x.holding j i)).Attends
      (s.nextName sort) x [] [] (library.faults.isSet .operationsRejected) :=
  ⟨⟨j, i, c, hnamed.lookup_addHandle library hsort _, hget, hrequests, hpublishes⟩, rfl⟩

/-- A handle on jobs, if it could be made. -/
theorem attends_jobsHandle (hnamed : s.Named) (x : JobsHandle) (sort : String)
    (hsort : sort.length = 1) (scope : Jobs.Scope) (topics : List Jobs.Topic) (i : ℕ)
    (reporting : Reporting) :
    let result := s.subscribedJobsClient scope topics (x.receiver (s.nextName sort))
    let made : State × Answer := answerMade reporting (x.answer ·)
      (match result.2 with
        | .error e => (result.1, .error e)
        | .ok j => ((result.1.withLibrary (result.1.library.retainConnection i)).addHandle
            (s.nextName sort) (x.holding j i), .ok (s.nextName sort)))
    made.2 = x.answer name →
      made.1.Attends name x [] [] (made.1.library.faults.isSet .operationsRejected) := by
  intro result made hmade
  obtain ⟨s', r, hresult⟩ : ∃ s' r, result = (s', r) := ⟨_, _, rfl⟩
  subst made
  rw [hresult] at hmade ⊢
  cases r with
  | error e =>
    cases reporting <;> cases x <;> cases hmade
  | ok j =>
    obtain ⟨library, c, rfl, hget, hrequests, hpublishes⟩ := subscribedJobsClient_new hresult
    obtain rfl : s.nextName sort = name := by
      cases x <;> cases reporting <;> exact (Answer.named.inj hmade).1
    exact attends_addHandle hnamed (library.retainConnection i) hsort hget hrequests hpublishes

theorem attends_build (hnamed : s.Named) (x : JobsHandle) (m : String) (qos : Qos)
    (reporting : Reporting) (hmade : (s.step (x.build m qos reporting)).2 = x.answer name) :
    (s.step (x.build m qos reporting)).1.Attends name x [] []
      ((s.step (x.build m qos reporting)).1.library.faults.isSet .operationsRejected) := by
  cases hclient : s.clientOf m with
  | error answer =>
    obtain ⟨r, rfl⟩ := clientOf_refused hclient
    cases x <;>
      simp [step, JobsHandle.build, attempt, decoded_code, hclient, bind, Except.bind,
        JobsHandle.answer] at hmade
  | ok i =>
    cases x with
    | queue thing =>
      have hstep : s.step ((JobsHandle.queue thing).build m qos reporting) =
          answerMade reporting (.named · thing) (s.newQueue i thing) := by
        simp [step, JobsHandle.build, attempt, decoded_code, hclient, bind, Except.bind, pure,
          Except.pure]
      rw [hstep] at hmade ⊢
      exact attends_jobsHandle (hnamed.note (Jobs.Queue.startNote thing)) (.queue thing) "j" rfl
        { thing := some thing } Jobs.Queue.topics i reporting hmade
    | job thing id =>
      have hstep : s.step ((JobsHandle.job thing id).build m qos reporting) =
          answerMade reporting (.named · id) (s.newJob i thing id) := by
        simp [step, JobsHandle.build, attempt, decoded_code, hclient, bind, Except.bind, pure,
          Except.pure]
      rw [hstep] at hmade ⊢
      exact attends_jobsHandle (hnamed.note (Jobs.Job.startNote thing id)) (.job thing id) "e" rfl
        { thing := some thing, job := some id } Jobs.Job.topics i reporting hmade

/-- In every run of the bench, whatever is done with a new handle on jobs, its client has taken down
the requests that were accepted in the order they were made: with the thing of the handle, its job
where the caller names none, the caller's other fields and none besides. Their completions are told
in that order, each once, by the first that comes after the request, with its token. A request that
is refused is answered so, is not taken down, and is never completed. -/
theorem requests_completed (limits : Log.Limits) (reaction : Reaction) (steps : List Step)
    (x : JobsHandle) (m : String) (qos : Qos) (reporting : Reporting) (name : String)
    (dealings : List Dealing) :
    let made := (State.after { limits, reaction } steps).run (x.build m qos reporting)
    let s := made.1
    let t := s.after (dealings.map (·.step name))
    let refused := s.library.faults.isSet .operationsRejected
    let accepted := x.accepted refused dealings
    let calls := x.callbacks name (completions (accepted.map (·.fate)))
    made.2.answer = x.answer name →
      (∃ j c, t.jobsClientOf name = .ok (j, c) ∧
        c.requests = accepted.map fun a => (a.request, a.qos)) ∧
      (s.reports (dealings.map (·.step name))).flatMap (·.calls) =
        shownCalls s.reaction s.invocations calls ∧
      t.invocations = s.invocations + calls.length ∧
      ∀ d : Dealing, (t.run (d.step name)).2.answer =
        x.reply (dealings.foldl Dealing.refuses refused)
          (outstanding (accepted.map (·.fate))).length d := by
  intro made s t refused accepted calls hmade
  have hnamed : (State.after { limits, reaction } steps).Named :=
    ((sound_fresh limits reaction).after steps).named
  obtain ⟨hclient, -⟩ := attends_build hnamed x m qos reporting hmade
  have hattends : s.Attends name x [] [] refused := ⟨hclient, rfl⟩
  have hdealt := hattends.after rfl dealings
  obtain ⟨⟨j, i, c, hlookup, hget, hrequests, -⟩, -⟩ := id hdealt.attends
  refine ⟨⟨j, c, jobsClientOf_of_lookup hlookup hget, hrequests⟩, hdealt.calls,
    hdealt.invocations, fun d => ?_⟩
  obtain ⟨-, -, -, -, hanswer, -⟩ := hdealt.attends.run hdealt.journal d
  exact hanswer

/-- Two requests under one token, one that is refused in between and one for another job: the first
completion is for both that wait, and the request that is refused is in neither list. -/
theorem requests_completed_repeated :
    let steps : List Step := [.newClient .sample .logged false]
    let x : JobsHandle := .job "lamp" "reboot"
    let dealings : List Dealing := [
      .ask (.describe { includeDocument := some true }) .atLeastOnce ⟨7⟩,
      .fault (.inject .operationsRejected),
      .ask (.describe {}) .atLeastOnce ⟨8⟩,
      .fault (.clear .operationsRejected),
      .ask (.update { jobId := some "other", status := some .failed }) .atMostOnce ⟨7⟩,
      .complete 3,
      .complete 4]
    let made := (State.after { limits := [], reaction := calm } steps).run
      (x.build "m0" .atLeastOnce .logged)
    let s := made.1
    let t := s.after (dealings.map (·.step "e1"))
    made.2.answer = x.answer "e1" ∧
      (∃ j c, t.jobsClientOf "e1" = .ok (j, c) ∧ c.requests =
        [(.describe { thing := some "lamp", job := some "reboot", includeDocument := some true },
            .atLeastOnce),
          (.update { thing := some "lamp", job := some "other", status := some .failed },
            .atMostOnce)]) ∧
      (s.reports (dealings.map (·.step "e1"))).map (·.calls) =
        [[], [], [], [], [], [("e1", .job (.publishCompleted ⟨7⟩ 3)),
          ("e1", .job (.publishCompleted ⟨7⟩ 3))], []] := by
  intro steps x dealings made s t
  have hname : "e" ++ toString 1 = "e1" := by decide
  have hmade : made.2.answer = x.answer "e1" := by
    rw [← hname]
    rfl
  obtain ⟨hclient, -⟩ := requests_completed [] calm steps x "m0" .atLeastOnce .logged "e1" dealings
    hmade
  exact ⟨hmade, hclient, by decide⟩

end State

end Bench

end DeviceLink
