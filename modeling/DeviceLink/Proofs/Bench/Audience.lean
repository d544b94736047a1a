import DeviceLink.Proofs.Bench.Ledger
/-!
# The users' side

What the users of handles do is apart from the rest of the bench: their reactions, how often they
were called, and what was taken down of it. Everything else goes its way whoever they are, and
brings about the same lines for the log and the same callbacks. A callback is made by the handle,
which catches a panic of the user, notes it and goes on.
-/

namespace DeviceLink.Bench

open Mqtt Simulated

/-- The users' side of the bench. -/
structure Audience where
  reaction : Reaction
  invocations : ℕ
  /-- The calls that were taken down, the latest first. -/
  calls : List (String × Callback) := []
  /-- The lines of the log, the latest first. -/
  log : List Log.Line := []

/-- What reaches the users' side. -/
inductive Happening
  | line (l : Log.Line)
  | call (name : String) (c : Callback)

/-- The callbacks among happenings. -/
def callsOf : List Happening → List (String × Callback)
  | [] => []
  | .line _ :: hs => callsOf hs
  | .call name c :: hs => (name, c) :: callsOf hs

/-- Users who never panic. -/
def calm : Reaction := fun _ _ => none

/-! ## Records of panics -/

namespace Callback

/-- What the record of a panic calls a callback. -/
def title : Callback → String
  | mqtt (.completed ..) => "on_completed"
  | mqtt .closed => "on_closed"
  | mqtt (.interrupted _) => "on_interrupted"
  | mqtt (.resumed ..) => "on_resumed"
  | mqtt (.message ..) => "on_message"
  | mqtt (.subAck ..) => "on_sub_ack"
  | mqtt (.published ..) => "on_publish"
  | mqtt (.unsubscribed ..) => "on_unsubscribe"
  | queue (.subscribeCompleted _) => "on_subscribe_completed"
  | queue (.publishCompleted ..) => "on_publish_completed"
  | queue (.getPendingAccepted ..) => "on_get_pending_accepted"
  | queue (.getPendingRejected ..) => "on_get_pending_rejected"
  | queue (.startNextAccepted ..) => "on_start_next_accepted"
  | queue (.startNextRejected ..) => "on_start_next_rejected"
  | queue (.executionsChanged ..) => "on_job_executions_changed"
  | queue (.nextExecutionChanged ..) => "on_next_job_execution_changed"
  | job (.subscribeCompleted _) => "on_subscribe_completed"
  | job (.publishCompleted ..) => "on_publish_completed"
  | job (.describeAccepted ..) => "on_describe_accepted"
  | job (.describeRejected ..) => "on_describe_rejected"
  | job (.updateAccepted ..) => "on_update_accepted"
  | job (.updateRejected ..) => "on_update_rejected"
  | listener (.subscribeComplete _) => "on_subscribe_complete"
  | listener (.notify _) => "on_tunnel_notify"
  | tunnel (.connectionSuccess ..) => "on_connection_success"
  | tunnel (.connectionFailure _) => "on_connection_failure"
  | tunnel .connectionShutdown => "on_connection_shutdown"
  | tunnel (.connectionReset ..) => "on_connection_reset"
  | tunnel .sessionReset => "on_session_reset"
  | tunnel (.sendMessageComplete ..) => "on_send_message_complete"
  | tunnel (.messageReceived ..) => "on_message_received"
  | tunnel (.streamStarted ..) => "on_stream_started"
  | tunnel (.streamStopped _) => "on_stream_stopped"

/-- The record of a panic at a callback: which one, and with what text, if it has one. -/
def panicRecord (c : Callback) : Panic → Log.Line
  | .text message => ⟨.error, c.title ++ " callback panicked: " ++ message⟩
  | .other => ⟨.error, c.title ++ " callback panicked: " ++ "non-string payload"⟩

theorem name_eq_title (c : Callback) : c.name = c.title := by
  cases c with
  | mqtt c => cases c <;> rfl
  | queue c => cases c <;> rfl
  | job c => cases c <;> rfl
  | listener c => cases c <;> rfl
  | tunnel c => cases c <;> rfl

theorem panicNote_eq (c : Callback) (p : Panic) : c.panicNote p = c.panicRecord p := by
  rw [panicNote, name_eq_title]
  cases p <;> rfl

@[simp] theorem level_panicRecord (c : Callback) (p : Panic) :
    (c.panicRecord p).level = .error := by
  cases p <;> rfl

end Callback

/-! ## What is taken down -/

/-- The callbacks at which the user does not panic. They are numbered from the first on. -/
def shownCalls (reaction : Reaction) : ℕ → List (String × Callback) → List (String × Callback)
  | _, [] => []
  | n, (name, c) :: calls =>
    if (reaction n c).isSome then shownCalls reaction (n + 1) calls
    else (name, c) :: shownCalls reaction (n + 1) calls

/-- The records of the panics at callbacks. -/
def panicRecords (reaction : Reaction) : ℕ → List (String × Callback) → List Log.Line
  | _, [] => []
  | n, (_, c) :: calls =>
    ((reaction n c).map c.panicRecord).toList ++ panicRecords reaction (n + 1) calls

/-- The lines of the log: those that the limits let through, with the records of panics. -/
def recordsOf (limits : Log.Limits) (reaction : Reaction) : ℕ → List Happening → List Log.Line
  | _, [] => []
  | n, .line l :: hs =>
    (if limits.admits l.level then [l] else []) ++ recordsOf limits reaction n hs
  | n, .call _ c :: hs =>
    ((reaction n c).map c.panicRecord).toList ++ recordsOf limits reaction (n + 1) hs

section

variable (reaction : Reaction) (limits : Log.Limits) (n : ℕ)

theorem callsOf_append (hs more : List Happening) :
    callsOf (hs ++ more) = callsOf hs ++ callsOf more := by
  induction hs with
  | nil => rfl
  | cons h hs ih =>
    cases h with
    | line l => exact ih
    | call name c => exact congrArg _ ih

theorem callsOf_calls (calls : List (String × Callback)) :
    callsOf (calls.map fun call => .call call.1 call.2) = calls := by
  induction calls with
  | nil => rfl
  | cons call calls ih => exact congrArg _ ih

theorem shownCalls_calm (calls : List (String × Callback)) : shownCalls calm n calls = calls := by
  induction calls generalizing n with
  | nil => rfl
  | cons call calls ih => exact congrArg _ (ih (n + 1))

theorem shownCalls_append (calls more : List (String × Callback)) :
    shownCalls reaction n (calls ++ more) =
      shownCalls reaction n calls ++ shownCalls reaction (n + calls.length) more := by
  induction calls generalizing n with
  | nil => rfl
  | cons call calls ih =>
    obtain ⟨name, c⟩ := call
    rw [List.cons_append, shownCalls, shownCalls, ih, List.length_cons, Nat.add_right_comm,
      Nat.add_assoc]
    split <;> rfl

/-- A panic adds its record to the log and takes nothing out of it. -/
theorem recordsOf_calm_sublist (hs : List Happening) :
    (recordsOf limits calm n hs).Sublist (recordsOf limits reaction n hs) := by
  induction hs generalizing n with
  | nil => exact .slnil
  | cons h hs ih =>
    cases h with
    | line l => exact (ih n).append_left _
    | call name c => exact (ih (n + 1)).trans (List.sublist_append_right ..)

theorem panicRecords_sublist (hs : List Happening) :
    (panicRecords reaction n (callsOf hs)).Sublist (recordsOf limits reaction n hs) := by
  induction hs generalizing n with
  | nil => exact .slnil
  | cons h hs ih =>
    cases h with
    | line l => exact (ih n).trans (List.sublist_append_right ..)
    | call name c => exact (ih (n + 1)).append_left _

theorem recordsOf_perm (hs : List Happening) : (recordsOf limits reaction n hs).Perm
    (recordsOf limits calm n hs ++ panicRecords reaction n (callsOf hs)) := by
  induction hs generalizing n with
  | nil => exact .nil
  | cons h hs ih =>
    cases h with
    | line l =>
      rw [recordsOf, recordsOf, List.append_assoc]
      exact (ih n).append_left _
    | call name c => exact ((ih (n + 1)).append_left _).trans (List.perm_append_comm_assoc ..)

end

/-! ## Meeting users -/

namespace Audience

/-- A line for the log, unless the limits keep it out. -/
def note (limits : Log.Limits) (u : Audience) (l : Log.Line) : Audience :=
  if limits.admits l.level then { u with log := l :: u.log } else u

/-- The user's own code at a callback: it returns, or a panic leaves it. -/
def enter (u : Audience) (name : String) (c : Callback) : Audience × Except Panic Unit :=
  let counted := { u with invocations := u.invocations + 1 }
  match u.reaction u.invocations c with
  | some p => (counted, .error p)
  | none => ({ counted with calls := (name, c) :: u.calls }, .ok ())

/-- A callback as a handle makes it: a panic is caught and noted. -/
def dispatch (limits : Log.Limits) (u : Audience) (name : String) (c : Callback) :
    Audience × Except Panic Unit :=
  match u.enter name c with
  | (u, .ok ()) => (u, .ok ())
  | (u, .error p) => (u.note limits (c.panicNote p), .ok ())

/-- Happenings as the library runs them. A panic that reached it would end them. -/
def perform (limits : Log.Limits) (u : Audience) : List Happening → Audience × Except Panic Unit
  | [] => (u, .ok ())
  | .line l :: hs => (u.note limits l).perform limits hs
  | .call name c :: hs =>
    match u.dispatch limits name c with
    | (u, .ok ()) => u.perform limits hs
    | (u, .error p) => (u, .error p)

/-- The users' side after one happening. -/
def meet (limits : Log.Limits) (u : Audience) : Happening → Audience
  | .line l => u.note limits l
  | .call name c => (u.dispatch limits name c).1

/-- The users' side after happenings. -/
def meetAll (limits : Log.Limits) (u : Audience) (hs : List Happening) : Audience :=
  hs.foldl (meet limits) u

variable (limits : Log.Limits) (u : Audience)

theorem meetAll_append (hs more : List Happening) :
    u.meetAll limits (hs ++ more) = (u.meetAll limits hs).meetAll limits more :=
  List.foldl_append

theorem dispatch_snd (name : String) (c : Callback) : (u.dispatch limits name c).2 = .ok () := by
  unfold dispatch
  split <;> rfl

/-- No panic of a user reaches the library. -/
theorem perform_eq (hs : List Happening) : u.perform limits hs = (u.meetAll limits hs, .ok ()) := by
  induction hs generalizing u with
  | nil => rfl
  | cons h hs ih =>
    cases h with
    | line l => exact ih _
    | call name c =>
      have hcaught := u.dispatch_snd limits name c
      unfold perform
      split
      next u' hdispatch =>
        rw [ih, meetAll, meetAll, List.foldl_cons, meet, hdispatch]
      next u' p hdispatch =>
        rw [hdispatch] at hcaught
        cases hcaught

/-- What comes of happenings: the calls at which no user panics, and a record for every other. -/
theorem meetAll_eq (hs : List Happening) : u.meetAll limits hs =
    { reaction := u.reaction
      invocations := u.invocations + (callsOf hs).length
      calls := (shownCalls u.reaction u.invocations (callsOf hs)).reverse ++ u.calls
      log := (recordsOf limits u.reaction u.invocations hs).reverse ++ u.log } := by
  induction hs generalizing u with
  | nil => rfl
  | cons h hs ih =>
    rw [meetAll, List.foldl_cons]
    refine (ih _).trans ?_
    cases h with
    | line l =>
      by_cases hadmits : limits.admits l.level = true <;>
        simp [meet, note, callsOf, recordsOf, hadmits]
    | call name c =>
      cases hreaction : u.reaction u.invocations c with
      | none =>
        simp [meet, dispatch, enter, hreaction, callsOf, recordsOf, shownCalls]
        omega
      | some p =>
        simp [meet, dispatch, enter, note, Callback.panicNote_eq, limits.admits_error, hreaction,
          callsOf, recordsOf, shownCalls]
        omega

end Audience

namespace State

/-- The users' side of a bench. -/
def audience (s : State) : Audience :=
  ⟨s.reaction, s.invocations, s.journal.calls, s.journal.log⟩

/-- The bench with another users' side. -/
def under (s : State) (u : Audience) : State :=
  { s with
    reaction := u.reaction
    invocations := u.invocations
    journal := { s.journal with calls := u.calls, log := u.log } }

variable (s : State) (u : Audience)

theorem note_under (l : Log.Line) :
    (s.under u).note l = s.under (u.meetAll s.limits [.line l]) := by
  show (s.under u).note l = s.under (u.note s.limits l)
  unfold note Audience.note
  by_cases h : s.limits.admits l.level = true
  · rw [if_pos h, if_pos (show (s.under u).limits.admits l.level = true from h)]
    rfl
  · rw [if_neg h, if_neg (show ¬(s.under u).limits.admits l.level = true from h)]

/-- A callback is made as a handle makes it. -/
theorem invoke_under (name : String) (c : Callback) :
    (s.under u).invoke name c = s.under (u.meetAll s.limits [.call name c]) := by
  show (s.under u).invoke name c = s.under (u.dispatch s.limits name c).1
  unfold invoke Audience.dispatch Audience.enter
  cases hreaction : u.reaction u.invocations c with
  | none => simp [under, hreaction]
  | some p =>
    simp only [show (s.under u).reaction (s.under u).invocations c = some p from hreaction]
    exact note_under s { u with invocations := u.invocations + 1 } _

/-! ## Reports -/

/-- The bench between two steps, once all that was told has been taken. -/
def rested (s : State) : State :=
  { s with
    journal := {}
    shown := s.shownAfter
    sessions := s.sessions.map fun (n, session) => (n, { session with mailbox := [] }) }

/-- A run of a step, with what it took down for the users. -/
theorem run_of_step {s s' : State} {u : Audience} {answer : Answer}
    (h : s.step st = (s'.under u, answer)) : s.run st =
      (s'.rested.under ⟨u.reaction, u.invocations, [], []⟩,
        { answer
          live := s'.library.live
          calls := u.calls.reverse
          raw := s'.journal.raw.reverse
          log := u.log.reverse
          events := s'.sessionsByName.flatMap fun (n, session) =>
            session.mailbox.map (n, ·) }) := by
  unfold State.run
  rw [h]
  rfl

/-- A step in which happenings reached the users, from a state between two steps. -/
theorem run_of_happenings {s s' : State} (hjournal : s.journal = {}) {st : Step}
    {hs : List Happening} {answer : Answer}
    (h : s.step st = (s'.under (s.audience.meetAll s.limits hs), answer)) :
    (s.run st).1 = s'.rested.under ⟨s.reaction, s.invocations + (callsOf hs).length, [], []⟩ ∧
      (s.run st).2.answer = answer ∧
      (s.run st).2.calls = shownCalls s.reaction s.invocations (callsOf hs) := by
  rw [run_of_step h, Audience.meetAll_eq]
  refine ⟨rfl, rfl, ?_⟩
  simp [audience, hjournal]

end State

end DeviceLink.Bench
