import DeviceLink.Proofs.Jobs.Document
import Mathlib.Data.List.Forall2
/-!
# What the user is told of an event

The messages of the service and the payloads of callbacks side by side, each as a table of its
fields. Every field of a payload, and of the copy that a caller keeps of it, is there just when the
field of the same name is there in the message, and holds the same; only the document of a copy
depends on how its text is read. The callback of an event is the one of its kind and passes the I/O
error on.
-/

namespace DeviceLink.Jobs

open Bench (Callback)

/-! ## Tables -/

/-- What a field can hold. -/
inductive Datum
  | text (s : String)
  | number (n : Int)
  | instant (t : Instant)
  | status (s : Status)
  | code (c : RejectedCode)
  | document (v : Json.Value)
  /-- A document as JSON text. -/
  | json (bytes : List UInt8)

namespace Datum

/-- What is lent of a datum: a document is lent as text. -/
def lent : Datum → Datum
  | document v => json (Utf8.encode v.render)
  | d => d

/-- Whether a copy has what it should have of a datum: the very same. A document is read again from
its text, so it is there up to 127 levels only. Nothing is said of one with a double that its own
digits do not read back to. -/
def Kept : Option Datum → Option Datum → Prop
  | some (document v), copy =>
    v.WellFormed → copy = if v.nesting ≤ 127 then some (document v) else none
  | d, copy => copy = d

end Datum

/-- Fields by name in the order of declaration, each with what it holds if it is there. -/
abbrev Table := List (String × Option Datum)

/-- What the field of a name holds, if there is such a field. -/
def Table.value (t : Table) (name : String) : Option Datum := (t.lookup name).join

/-- Fields together with the list of those that are there. -/
structure View where
  fields : Table
  present : List String

namespace View

/-- Whether a view lends a message: each field lends the field of its name in the message, and
those are listed that are there in the message. -/
structure Lends (message : Table) (v : View) : Prop where
  fields : ∀ field ∈ v.fields, field.2 = (message.value field.1).map Datum.lent
  present : v.present =
    (v.fields.filter fun field => (message.value field.1).isSome).map (·.1)

/-- Whether a view keeps a message: each field has what it should have of the field of its name in
the message, and those are listed that are there in the view. -/
structure Keeps (message : Table) (v : View) : Prop where
  fields : ∀ field ∈ v.fields, Datum.Kept (message.value field.1) field.2
  present : v.present = (v.fields.filter fun field => field.2.isSome).map (·.1)

end View

/-! ## The fields of messages -/

/-- The fields of an execution. -/
def Execution.table (x : Execution) : Table :=
  [("job_id", x.jobId.map .text), ("thing_name", x.thingName.map .text),
    ("job_document", x.document.map .document), ("status", x.status.map .status),
    ("queued_at", x.queuedAt.map .instant), ("started_at", x.startedAt.map .instant),
    ("last_updated_at", x.lastUpdatedAt.map .instant),
    ("version_number", x.versionNumber.map .number),
    ("execution_number", x.executionNumber.map .number)]

/-- What an update says of its execution: the state and the document. -/
def UpdateAnswer.table (u : UpdateAnswer) : Table :=
  [("status", (u.state.bind (·.status)).map .status),
    ("version_number", (u.state.bind (·.versionNumber)).map .number),
    ("job_document", u.document.map .document)]

/-- The fields of an execution in a list. -/
def ListedExecution.table (x : ListedExecution) : Table :=
  [("job_id", x.jobId.map .text), ("version_number", x.versionNumber.map .number),
    ("execution_number", x.executionNumber.map .number), ("started_at", x.startedAt.map .instant),
    ("queued_at", x.queuedAt.map .instant), ("last_updated_at", x.lastUpdatedAt.map .instant)]

/-- The fields of an answer with pending executions, beside its lists. -/
def PendingAnswer.table (a : PendingAnswer) : Table :=
  [("timestamp", a.timestamp.map .instant), ("client_token", a.clientToken.map .text)]

/-- The fields of a rejection. -/
def Rejection.table (r : Rejection) : Table :=
  [("timestamp", r.timestamp.map .instant), ("code", r.code.map .code),
    ("message", r.message.map .text), ("client_token", r.clientToken.map .text)]

/-- The fields of a message that may be missing. -/
def tableOf {α : Type} (fields : α → Table) (message : Option α) : Table :=
  (message.map fields).getD []

/-! ## The fields of payloads -/

/-- An execution as lent. -/
def Info.view (i : Info) : View where
  fields :=
    [("job_id", i.jobId.map .text),
      ("job_document", if i.document.isEmpty then none else some (.json i.document.bytes)),
      ("status", i.status.map .status), ("version_number", i.versionNumber.map .number),
      ("queued_at", i.queuedAt.map .instant), ("thing_name", i.thingName.map .text),
      ("execution_number", i.executionNumber.map .number),
      ("last_updated_at", i.lastUpdatedAt.map .instant),
      ("started_at", i.startedAt.map .instant)]
  present := i.present

/-- An execution as copied. -/
def OwnedInfo.view (i : OwnedInfo) : View where
  fields :=
    [("job_id", i.jobId.map .text), ("job_document", i.document.map .document),
      ("status", i.status.map .status), ("version_number", i.versionNumber.map .number),
      ("queued_at", i.queuedAt.map .instant), ("thing_name", i.thingName.map .text),
      ("execution_number", i.executionNumber.map .number),
      ("last_updated_at", i.lastUpdatedAt.map .instant),
      ("started_at", i.startedAt.map .instant)]
  present := i.present

/-- An execution in a list as lent. -/
def Summary.view (s : Summary) : View where
  fields :=
    [("job_id", s.jobId.map .text), ("version_number", s.versionNumber.map .number),
      ("execution_number", s.executionNumber.map .number),
      ("started_at", s.startedAt.map .instant), ("queued_at", s.queuedAt.map .instant),
      ("last_updated_at", s.lastUpdatedAt.map .instant)]
  present := s.present

/-- An execution in a list as copied. -/
def OwnedSummary.view (s : OwnedSummary) : View where
  fields :=
    [("job_id", s.jobId.map .text), ("version_number", s.versionNumber.map .number),
      ("execution_number", s.executionNumber.map .number),
      ("started_at", s.startedAt.map .instant), ("queued_at", s.queuedAt.map .instant),
      ("last_updated_at", s.lastUpdatedAt.map .instant)]
  present := s.present

/-- The pending executions as lent, beside the lists. -/
def Pending.view (p : Pending) : View where
  fields := [("timestamp", p.timestamp.map .instant), ("client_token", p.clientToken.map .text)]
  present := p.present

/-- The fields of the copied pending executions, beside the lists. -/
def OwnedPending.fields (p : OwnedPending) : Table :=
  [("timestamp", p.timestamp.map .instant), ("client_token", p.clientToken.map .text)]

/-- A rejection as lent. -/
def Rejected.view (r : Rejected) : View where
  fields :=
    [("timestamp", r.timestamp.map .instant), ("code", r.code.map .code),
      ("message", r.message.map .text), ("client_token", r.clientToken.map .text)]
  present := r.present

/-- A rejection as copied. -/
def OwnedRejected.view (r : OwnedRejected) : View where
  fields :=
    [("timestamp", r.timestamp.map .instant), ("code", r.code.map .code),
      ("message", r.message.map .text), ("client_token", r.clientToken.map .text)]
  present := r.present

/-! ## Payloads of messages -/

/-- An execution that is lent, and its copy, show what a message has. -/
structure Info.Mirrors (message : Table) (i : Info) : Prop where
  lent : i.view.Lends message
  kept : i.toOwned.view.Keeps message

/-- A rejection that is lent, and its copy, show what a message has. -/
structure Rejected.Mirrors (message : Table) (r : Rejected) : Prop where
  lent : r.view.Lends message
  kept : r.toOwned.view.Keeps message

/-- The pending executions that are lent, and their copy, show what an answer has: the fields, and
the executions of both lists one for one. An absent list is an empty one. -/
structure Pending.Mirrors (answer : Option PendingAnswer) (p : Pending) : Prop where
  lent : p.view.Lends (tableOf PendingAnswer.table answer)
  kept : ∀ field ∈ p.toOwned.fields,
    Datum.Kept ((tableOf PendingAnswer.table answer).value field.1) field.2
  queued : List.Forall₂ (fun x s => s.view.Lends x.table)
    ((answer.bind (·.queued)).getD []) p.queued
  inProgress : List.Forall₂ (fun x s => s.view.Lends x.table)
    ((answer.bind (·.inProgress)).getD []) p.inProgress
  queuedKept : List.Forall₂ (fun x s => s.view.Keeps x.table)
    ((answer.bind (·.queued)).getD []) p.toOwned.queued
  inProgressKept : List.Forall₂ (fun x s => s.view.Keeps x.table)
    ((answer.bind (·.inProgress)).getD []) p.toOwned.inProgress

/-- The callback that tells of an event: the one of its kind, with the I/O error unchanged and what
the event says, field by field. -/
inductive Told (ioError : Int) : Event → Callback → Prop
  | getPendingAccepted {answer : Option PendingAnswer} {pending : Pending}
    (h : pending.Mirrors answer) :
    Told ioError (.getPendingAccepted answer) (.queue (.getPendingAccepted pending ioError))
  | getPendingRejected {rejection : Option Rejection} {rejected : Rejected}
    (h : rejected.Mirrors (tableOf Rejection.table rejection)) :
    Told ioError (.getPendingRejected rejection) (.queue (.getPendingRejected rejected ioError))
  | executionsChanged (change : Option ExecutionsChange) :
    Told ioError (.executionsChanged change)
      (.queue (.executionsChanged (change.bind (·.timestamp)) ioError))
  | nextExecutionChanged {change : Option NextChange} {info : Option Info}
    (h : Option.Rel (fun x i => i.Mirrors x.table) (change.bind (·.execution)) info) :
    Told ioError (.nextExecutionChanged change)
      (.queue (.nextExecutionChanged info (change.bind (·.timestamp)) ioError))
  | startNextAccepted {answer : Option ExecutionAnswer} {info : Option Info}
    (h : Option.Rel (fun x i => i.Mirrors x.table) (answer.bind (·.execution)) info) :
    Told ioError (.startNextAccepted answer)
      (.queue (.startNextAccepted (answer.bind (·.clientToken)) info ioError))
  | startNextRejected {rejection : Option Rejection} {rejected : Rejected}
    (h : rejected.Mirrors (tableOf Rejection.table rejection)) :
    Told ioError (.startNextRejected rejection) (.queue (.startNextRejected rejected ioError))
  | describeAccepted {answer : Option ExecutionAnswer} {info : Option Info}
    (h : Option.Rel (fun x i => i.Mirrors x.table) (answer.bind (·.execution)) info) :
    Told ioError (.describeAccepted answer)
      (.job (.describeAccepted (answer.bind (·.clientToken)) info ioError))
  | describeRejected {rejection : Option Rejection} {rejected : Rejected}
    (h : rejected.Mirrors (tableOf Rejection.table rejection)) :
    Told ioError (.describeRejected rejection) (.job (.describeRejected rejected ioError))
  | updateAccepted {answer : Option UpdateAnswer} {info : Option Info}
    (h : Option.Rel (fun u i => i.Mirrors u.table) answer info) :
    Told ioError (.updateAccepted answer)
      (.job (.updateAccepted (answer.bind (·.clientToken)) info ioError))
  | updateRejected {rejection : Option Rejection} {rejected : Rejected}
    (h : rejected.Mirrors (tableOf Rejection.table rejection)) :
    Told ioError (.updateRejected rejection) (.job (.updateRejected rejected ioError))

/-! ## Views -/

/-- What is no document is lent and kept as it is. -/
theorem Datum.lent_and_kept {d : Option Datum} (h : ∀ v, d ≠ some (.document v)) :
    d.map lent = d ∧ Kept d d := by
  rcases d with _ | d
  · exact ⟨rfl, rfl⟩
  · cases d with
    | document v => exact absurd rfl (h v)
    | _ => exact ⟨rfl, rfl⟩

/-- Fields that hold just what a message has under their names, and no document. -/
def Table.Plain (message fields : Table) : Prop :=
  ∀ field ∈ fields, field.2 = message.value field.1 ∧ ∀ v, field.2 ≠ some (.document v)

theorem Table.Plain.lent {message fields : Table} (h : message.Plain fields) :
    ∀ field ∈ fields, field.2 = (message.value field.1).map Datum.lent := by
  intro field hfield
  obtain ⟨hvalue, hplain⟩ := h field hfield
  rw [← hvalue]
  exact (Datum.lent_and_kept hplain).1.symm

theorem Table.Plain.kept {message fields : Table} (h : message.Plain fields) :
    ∀ field ∈ fields, Datum.Kept (message.value field.1) field.2 := by
  intro field hfield
  obtain ⟨hvalue, hplain⟩ := h field hfield
  rw [← hvalue]
  exact (Datum.lent_and_kept hplain).2

/-- The list of the fields of a view that are there, made from whether they are. -/
theorem View.present_eq {v : View} {p : String × Option Datum → Bool}
    (hpresent : v.present = presentNames (v.fields.map fun field => (field.1, field.2.isSome)))
    (hp : ∀ field ∈ v.fields, field.2.isSome = p field) :
    v.present = (v.fields.filter p).map (·.1) := by
  rw [hpresent, presentNames, List.filter_map, List.map_map]
  apply congrArg
  apply List.filter_congr
  intro field hfield
  exact hp field hfield

theorem View.lends_of {message : Table} {v : View}
    (hfields : ∀ field ∈ v.fields, field.2 = (message.value field.1).map Datum.lent)
    (hpresent : v.present = presentNames (v.fields.map fun field => (field.1, field.2.isSome))) :
    v.Lends message := by
  refine ⟨hfields, present_eq hpresent fun field hfield => ?_⟩
  rw [hfields field hfield, Option.isSome_map]

theorem View.keeps_of {message : Table} {v : View}
    (hfields : ∀ field ∈ v.fields, Datum.Kept (message.value field.1) field.2)
    (hpresent : v.present = presentNames (v.fields.map fun field => (field.1, field.2.isSome))) :
    v.Keeps message :=
  ⟨hfields, present_eq hpresent fun _ _ => rfl⟩

/-! ## Documents -/

/-- A document is lent as its text. -/
theorem json_lendDocument (document : Option Json.Value) :
    (if (lendDocument document).isEmpty then none
      else some (Datum.json (lendDocument document).bytes)) =
      (document.map Datum.document).map Datum.lent := by
  cases document with
  | none => rfl
  | some v =>
    have hsome : (lendDocument (some v)).isEmpty = false :=
      List.isEmpty_eq_false_iff.2 (Json.encode_render_ne_nil v)
    rw [hsome]
    rfl

/-- A copy has the document itself, if that does not nest too deep and its doubles read back. -/
theorem document_toOwned {info : Info} {document : Option Json.Value}
    (hlend : info.document = lendDocument document) :
    Datum.Kept (document.map .document) (info.toOwned.document.map .document) := by
  obtain ⟨-, hnone, hsome⟩ := toOwned_lendDocument hlend
  cases document with
  | none =>
    rw [(hnone rfl).2]
    rfl
  | some v =>
    intro hformed
    rw [(hsome v rfl hformed).2]
    by_cases hnests : v.nesting ≤ 127 <;> simp [Json.maxNesting, hnests]

/-- The fields of an execution that is lent, but for the document. -/
def Info.others (i : Info) : Table := i.view.fields.eraseIdx 1

/-- An execution that is lent shows a message that has its fields and the document that it lends. -/
theorem Info.mirrors_of {i : Info} {message : Table} {document : Option Json.Value}
    (hlend : i.document = lendDocument document)
    (hdocument : message.value "job_document" = document.map .document)
    (hothers : message.Plain i.others) : i.Mirrors message := by
  constructor
  · apply View.lends_of
    · intro field hfield
      -- The document stands second in the order of declaration.
      have hperm : i.view.fields.Perm (_ :: i.others) := List.Perm.swap ..
      obtain rfl | hfield := List.mem_cons.1 (hperm.mem_iff.1 hfield)
      · rw [hdocument, hlend, json_lendDocument]
      · exact hothers.lent field hfield
    · cases hempty : i.document.isEmpty <;> simp [view, present, hempty]
  · apply View.keeps_of
    · intro field hfield
      have hperm : i.toOwned.view.fields.Perm (_ :: i.others) := List.Perm.swap ..
      obtain rfl | hfield := List.mem_cons.1 (hperm.mem_iff.1 hfield)
      · rw [hdocument]
        exact document_toOwned hlend
      · exact hothers.kept field hfield
    · simp [OwnedInfo.view, OwnedInfo.present]

theorem Info.mirrors_ofExecution (x : Execution) : (ofExecution x).Mirrors x.table := by
  apply mirrors_of rfl
  · simp [Table.value, Execution.table, List.lookup_cons]
  · simp [Table.Plain, Table.value, others, view, Execution.table, List.lookup_cons, ofExecution]

theorem Info.mirrors_ofUpdate (u : UpdateAnswer) : (ofUpdate u).Mirrors u.table := by
  apply mirrors_of rfl
  · simp [Table.value, UpdateAnswer.table, List.lookup_cons]
  · cases hstate : u.state <;>
      simp [Table.Plain, Table.value, others, view, UpdateAnswer.table, List.lookup_cons, ofUpdate,
        hstate]

/-! ## Messages without a document -/

theorem Summary.mirrors_ofListed (x : ListedExecution) :
    (ofListed x).view.Lends x.table ∧ (ofListed x).toOwned.view.Keeps x.table := by
  -- A copy has the fields of what was lent, so the same fact serves both.
  have hfields : x.table.Plain (ofListed x).view.fields := by
    simp [Table.Plain, Table.value, view, ofListed, ListedExecution.table, List.lookup_cons]
  constructor
  · apply View.lends_of hfields.lent
    simp [view, present]
  · apply View.keeps_of (v := (ofListed x).toOwned.view) hfields.kept
    simp [OwnedSummary.view, OwnedSummary.present]

theorem Rejected.mirrors_lend (rejection : Option Rejection) :
    (Rejection.lend rejection).Mirrors (tableOf Rejection.table rejection) := by
  have hfields : (tableOf Rejection.table rejection).Plain
      (Rejection.lend rejection).view.fields := by
    cases rejection <;>
      simp [Table.Plain, Table.value, view, Rejection.lend, Rejection.table, tableOf,
        List.lookup_cons]
  constructor
  · apply View.lends_of hfields.lent
    simp [view, present]
  · apply View.keeps_of (v := (Rejection.lend rejection).toOwned.view) hfields.kept
    simp [OwnedRejected.view, OwnedRejected.present]

theorem Pending.mirrors_ofAnswer (answer : Option PendingAnswer) :
    (ofAnswer answer).Mirrors answer := by
  have hfields : (tableOf PendingAnswer.table answer).Plain (ofAnswer answer).view.fields := by
    cases answer <;>
      simp [Table.Plain, Table.value, view, ofAnswer, PendingAnswer.table, tableOf,
        List.lookup_cons]
  have hlists (jobs : Option (List ListedExecution)) :
      List.Forall₂ (fun x s => s.view.Lends x.table) (jobs.getD []) (summaries jobs) ∧
        List.Forall₂ (fun x s => s.view.Keeps x.table) (jobs.getD [])
          ((summaries jobs).map Summary.toOwned) := by
    rw [summaries, List.map_map]
    simp only [List.forall₂_map_right_iff]
    exact ⟨List.forall₂_same.2 fun x _ => (Summary.mirrors_ofListed x).1,
      List.forall₂_same.2 fun x _ => (Summary.mirrors_ofListed x).2⟩
  constructor
  · apply View.lends_of hfields.lent
    simp [view, present]
  · exact hfields.kept
  · exact (hlists _).1
  · exact (hlists _).1
  · exact (hlists _).2
  · exact (hlists _).2

/-! ## Callbacks of events -/

/-- Lending an execution that may be missing. -/
theorem Info.rel_ofExecution (x : Option Execution) :
    Option.Rel (fun x i => i.Mirrors x.table) x (x.map ofExecution) := by
  cases x with
  | none => exact .none
  | some y => exact .some (mirrors_ofExecution y)

/-- An event on a topic of a queue leads to the one callback that tells of it. -/
theorem Queue.told_of_mem {e : Event} (htopic : e.topic ∈ Queue.topics) (ioError : Int) :
    ∃ c, Queue.callback (.event e ioError) = some c ∧ Told ioError e (.queue c) := by
  cases e with
  | getPendingAccepted answer =>
    exact ⟨_, rfl, .getPendingAccepted (Pending.mirrors_ofAnswer answer)⟩
  | getPendingRejected rejection =>
    exact ⟨_, rfl, .getPendingRejected (Rejected.mirrors_lend rejection)⟩
  | executionsChanged change => exact ⟨_, rfl, .executionsChanged change⟩
  | nextExecutionChanged change =>
    exact ⟨_, rfl, .nextExecutionChanged (Info.rel_ofExecution _)⟩
  | startNextAccepted answer => exact ⟨_, rfl, .startNextAccepted (Info.rel_ofExecution _)⟩
  | startNextRejected rejection =>
    exact ⟨_, rfl, .startNextRejected (Rejected.mirrors_lend rejection)⟩
  | describeAccepted | describeRejected | updateAccepted | updateRejected =>
    simp [Event.topic, topics] at htopic

/-- An event on a topic of a job leads to the one callback that tells of it. -/
theorem Job.told_of_mem {e : Event} (htopic : e.topic ∈ Job.topics) (ioError : Int) :
    ∃ c, Job.callback (.event e ioError) = some c ∧ Told ioError e (.job c) := by
  cases e with
  | describeAccepted answer => exact ⟨_, rfl, .describeAccepted (Info.rel_ofExecution _)⟩
  | describeRejected rejection =>
    exact ⟨_, rfl, .describeRejected (Rejected.mirrors_lend rejection)⟩
  | updateAccepted answer =>
    refine ⟨_, rfl, .updateAccepted ?_⟩
    cases answer with
    | none => exact .none
    | some u => exact .some (Info.mirrors_ofUpdate u)
  | updateRejected rejection =>
    exact ⟨_, rfl, .updateRejected (Rejected.mirrors_lend rejection)⟩
  | getPendingAccepted | getPendingRejected | executionsChanged | nextExecutionChanged
  | startNextAccepted | startNextRejected =>
    simp [Event.topic, topics] at htopic

end DeviceLink.Jobs
