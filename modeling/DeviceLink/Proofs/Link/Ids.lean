import DeviceLink.Proofs.Link.Matching
import Mathlib.Logic.Function.Iterate
/-!
# Request ids

A link numbers its requests with a counter of 65535 values, and the counter does not look at the
values that are still in use. Every submission takes the next one, also a submission that the event
loop then refuses. So the ids of the outstanding requests are different as long as none of them is
65535 submissions old; from there on the counter comes back to it.
-/

namespace DeviceLink.Link

open Mqtt

/-! ## Taking ids -/

/-- Whether an operation takes an id: a refused submission does as well. -/
def Tracker.Op.takesId {κ : Type} : Tracker.Op κ → Bool
  | .submit .. => true
  | .outgoing .. | .acknowledge .. | .abandon _ => false

namespace Tracker

variable {κ : Type} {t t' : Tracker κ} {op : Op κ}

theorem Effect.lastId {ended : List (Outcome κ)} (h : Effect t op t' ended) :
    t'.lastId = if op.takesId then nextId t.lastId else t.lastId := by
  cases h <;> rfl

theorem id_of_joins {x : Kind × Request κ} (h : x ∈ t.joins op) :
    op.takesId = true ∧ x.2.id = nextId t.lastId := by
  cases op with
  | submit kind qos completion accepted =>
    cases accepted with
    | false => cases h
    | true =>
      rw [List.mem_singleton.1 h]
      exact ⟨rfl, rfl⟩
  | outgoing | acknowledge | abandon => cases h

end Tracker

/-- Whether a step takes an id. -/
def Entry.takesId (e : Entry) : Bool := e.op?.any Tracker.Op.takesId

namespace Run

/-- How many ids were taken before a step. -/
def turn (r : Run) (n : ℕ) : ℕ := (r.entries.take n).countP Entry.takesId

/-- How many ids were taken. -/
def turns (r : Run) : ℕ := r.entries.countP Entry.takesId

variable {r : Run} {st : Step}

theorem turn_length (r : Run) : r.turn r.entries.length = r.turns := by
  rw [turn, List.take_length]
  rfl

theorem next_turn {n : ℕ} (h : n ≤ r.entries.length) : (r.next st).turn n = r.turn n := by
  rw [turn, next_entries, List.take_append_of_le_length h]
  rfl

theorem next_turns (r : Run) (st : Step) :
    (r.next st).turns = r.turns + if (r.entry st).takesId then 1 else 0 := by
  rw [turns, next_entries, List.countP_append, List.countP_singleton]
  rfl

theorem next_turn_of_lt {n : ℕ} (h : r.entries.length < n) : (r.next st).turn n = (r.next st).turns := by
  rw [turn, List.take_of_length_le]
  · rfl
  · rw [next_entries, List.length_append, List.length_singleton]
    exact h

/-- The ids count the turns from some start on. -/
structure Counted (start : ℕ) (r : Run) : Prop where
  counter : r.link.tracker.lastId % 65535 = (start + r.turns) % 65535
  ids (a : Kind × Call) (h : a ∈ r.accepted) :
    a.2.id = (start + r.turn a.2.number) % 65535 + 1
  numbers (a : Kind × Call) (h : a ∈ r.accepted) : a.2.number < r.entries.length
  later (a : Kind × Call) (h : a ∈ r.accepted) (n : ℕ) (hn : a.2.number < n) :
    r.turn a.2.number < r.turn n

theorem takesId_of_op {op : Tracker.Op (Completion × ℕ)} (h : (r.entry st).op? = some op) :
    (r.entry st).takesId = op.takesId := by
  rw [Entry.takesId, h]
  rfl

theorem next_counter {start : ℕ} (h : r.Counted start) (st : Step) :
    (r.next st).link.tracker.lastId % 65535 = (start + (r.next st).turns) % 65535 := by
  have hcounter := h.counter
  rcases r.next_cases st with ⟨hop, -, -, htracker⟩ | ⟨op, hop, heffect⟩
  · have htakes : (r.entry st).takesId = false := by rw [Entry.takesId, hop]; rfl
    rw [next_turns, htakes, htracker]
    exact hcounter
  · rw [next_turns, takesId_of_op hop, heffect.lastId]
    cases op.takesId with
    | false => exact hcounter
    | true =>
      simp only [if_true, nextId]
      omega

/-- A request that a step accepts has the id that the step takes. -/
theorem accepted_entry {start : ℕ} (h : r.Counted start) {a : Kind × Call}
    (ha : (r.entry st).accepted? = some a) :
    (r.entry st).takesId = true ∧ a.2.number = r.entries.length ∧
      a.2.id = (start + r.turns) % 65535 + 1 := by
  have hnumber : a.2.number = r.entries.length := number_of_accepted ha
  rcases r.next_cases st with ⟨-, hnone, -⟩ | ⟨op, hop, -⟩
  · rw [hnone] at ha
    cases ha
  · have hmem : a ∈ r.link.tracker.joins op := by
      rw [← accepted?_entry r st hop, ha]
      exact .head _
    obtain ⟨htakes, hid⟩ := Tracker.id_of_joins hmem
    refine ⟨(takesId_of_op hop).trans htakes, hnumber, ?_⟩
    rw [hid, nextId, h.counter]

theorem Counted.next {start : ℕ} (h : r.Counted start) (st : Step) :
    (r.next st).Counted start := by
  have hlength : (r.next st).entries.length = r.entries.length + 1 := by
    rw [next_entries, List.length_append, List.length_singleton]
  -- An accepted request was so before, or the step accepts it.
  have hcases {a : Kind × Call} (ha : a ∈ (r.next st).accepted) :
      a ∈ r.accepted ∨ (r.entry st).accepted? = some a := by
    rw [next_accepted, List.mem_append] at ha
    exact ha.imp_right Option.mem_toList.1
  have hturn {n : ℕ} (hn : n ≤ r.entries.length) : (r.next st).turn n = r.turn n := next_turn hn
  refine ⟨next_counter h st, fun a ha => ?_, fun a ha => ?_, fun a ha n hn => ?_⟩
  · obtain ha | ha := hcases ha
    · rw [hturn (Nat.le_of_lt (h.numbers a ha))]
      exact h.ids a ha
    · obtain ⟨-, hnumber, hid⟩ := accepted_entry h ha
      rw [hnumber, hturn (Nat.le_refl _), turn_length, hid]
  · obtain ha | ha := hcases ha
    · exact hlength ▸ Nat.lt_succ_of_lt (h.numbers a ha)
    · obtain ⟨-, hnumber, -⟩ := accepted_entry h ha
      exact hlength ▸ hnumber ▸ Nat.lt_succ_self _
  · by_cases hlast : n ≤ r.entries.length
    · obtain ha | ha := hcases ha
      · rw [hturn (Nat.le_of_lt (h.numbers a ha)), hturn hlast]
        exact h.later a ha n hn
      · obtain ⟨-, hnumber, -⟩ := accepted_entry h ha
        exact absurd hlast (Nat.not_le.2 (hnumber ▸ hn))
    · have hall : (r.next st).turn n = (r.next st).turns := next_turn_of_lt (Nat.lt_of_not_le hlast)
      rw [hall, next_turns]
      obtain ha | ha := hcases ha
      · have hlater := h.later a ha r.entries.length (h.numbers a ha)
        rw [turn_length] at hlater
        rw [hturn (Nat.le_of_lt (h.numbers a ha))]
        exact Nat.lt_of_lt_of_le hlater (Nat.le_add_right _ _)
      · obtain ⟨htakes, hnumber, -⟩ := accepted_entry h ha
        rw [hnumber, hturn (Nat.le_refl _), turn_length, htakes, if_pos rfl]
        exact Nat.lt_succ_self _

end Run

theorem counted_run (c : Connection ℕ) (steps : List Step) :
    (c.run steps).Counted c.tracker.lastId := by
  induction steps using List.reverseRecOn with
  | nil => exact ⟨rfl, nofun, nofun, nofun⟩
  | append_singleton steps st ih =>
    rw [run_snoc]
    exact ih.next st

/-! ## Outstanding requests -/

section Idle

variable {c : Connection ℕ} (hidle : c.tracker.outstanding = []) (steps : List Step)
include hidle

theorem exists_accepted_of_outstanding {q : Call}
    (hq : q ∈ (c.run steps).link.tracker.outstanding) :
    ∃ kind, (kind, q) ∈ (c.run steps).accepted := by
  have hperm := (conserved_run hidle steps).requests
  obtain ⟨⟨kind, q'⟩, ha, rfl⟩ := List.mem_map.1 (hperm.symm.subset (List.mem_append_left _ hq))
  exact ⟨kind, ha⟩

theorem nodup_outstanding :
    ((c.run steps).link.tracker.outstanding.map Request.number).Nodup := by
  have hperm := ((conserved_run hidle steps).requests).map Request.number
  rw [List.map_map, List.map_append] at hperm
  exact (List.nodup_append.1 (hperm.nodup_iff.1 (nodup_accepted c steps))).1

theorem id_of_outstanding {q : Call} (hq : q ∈ (c.run steps).link.tracker.outstanding) :
    q.id = (c.tracker.lastId + (c.run steps).turn q.number) % 65535 + 1 := by
  obtain ⟨kind, ha⟩ := exists_accepted_of_outstanding hidle steps hq
  exact (counted_run c steps).ids _ ha

/-- Of two outstanding requests one was submitted before the other. -/
theorem turn_inj {q q' : Call} (hq : q ∈ (c.run steps).link.tracker.outstanding)
    (hq' : q' ∈ (c.run steps).link.tracker.outstanding)
    (h : (c.run steps).turn q.number = (c.run steps).turn q'.number) : q = q' := by
  obtain ⟨kind, ha⟩ := exists_accepted_of_outstanding hidle steps hq
  obtain ⟨kind', ha'⟩ := exists_accepted_of_outstanding hidle steps hq'
  have hcounted := counted_run c steps
  refine List.inj_on_of_nodup_map (nodup_outstanding hidle steps) hq hq' ?_
  rcases Nat.lt_trichotomy q.number q'.number with hlt | heq | hlt
  · exact absurd h (Nat.ne_of_lt (hcounted.later _ ha _ hlt))
  · exact heq
  · exact absurd h.symm (Nat.ne_of_lt (hcounted.later _ ha' _ hlt))

theorem turn_lt_turns {q : Call} (hq : q ∈ (c.run steps).link.tracker.outstanding) :
    (c.run steps).turn q.number < (c.run steps).turns := by
  obtain ⟨kind, ha⟩ := exists_accepted_of_outstanding hidle steps hq
  have hcounted := counted_run c steps
  have hlater := hcounted.later _ ha _ (hcounted.numbers _ ha)
  rwa [Run.turn_length] at hlater

theorem nodup_ids_iff :
    ((c.run steps).link.tracker.outstanding.map (·.id)).Nodup ↔
      ∀ q ∈ (c.run steps).link.tracker.outstanding,
        ∀ q' ∈ (c.run steps).link.tracker.outstanding,
          (c.run steps).turn q.number % 65535 = (c.run steps).turn q'.number % 65535 → q = q' := by
  have hnodup := (nodup_outstanding hidle steps).of_map
  rw [List.nodup_map_iff_inj_on hnodup]
  refine forall₂_congr fun q hq => forall₂_congr fun q' hq' => imp_congr_left ?_
  rw [id_of_outstanding hidle steps hq, id_of_outstanding hidle steps hq']
  omega

end Idle

/-! ## Coming back to an id -/

/-- A publish that every event loop refuses, since its topic has a wildcard. -/
def Step.wildcard : Step :=
  .submit .publish .atLeastOnce .publish (.publish "#" .atLeastOnce false [])

/-- A publish that an event loop with room takes. -/
def Step.plain : Step :=
  .submit .publish .atLeastOnce .publish (.publish "t" .atLeastOnce false [])

/-- An event loop with room. -/
def Loop.roomy : Loop := { options := ⟨"sensor", true, 30, 3000⟩ }

theorem nextId_iterate (n l : ℕ) : nextId^[n + 1] l = (l + n) % 65535 + 1 := by
  induction n with
  | zero => rfl
  | succ n ih =>
    rw [Function.iterate_succ_apply', ih, nextId]
    omega

namespace Run

variable {r : Run} (hclient : r.link.client = true) (hclosing : r.link.closing = false)
include hclient hclosing

/-- A refused publish takes an id and leaves the reason. -/
theorem next_wildcard : (r.next .wildcard).link =
    { r.link with
      tracker := { r.link.tracker with lastId := nextId r.link.tracker.lastId }
      lastError := ErrorCode.queueFull.code } := by
  have hrefused : r.link.takes (.publish "#" .atLeastOnce false []) = false := by
    rw [Connection.takes, show Command.isSendable _ = false from rfl, Bool.false_and]
  simp [next, Step.wildcard, Connection.step, Connection.submit, Tracker.submit, Connection.fail,
    hclient, hclosing, hrefused]

/-- A publish is accepted where the event loop has room, under the next id. -/
theorem next_plain {l : Loop} (hloop : r.link.loop = some l) (hroom : l.hasRoom = true) :
    (r.next .plain).link.tracker = { r.link.tracker with
      lastId := nextId r.link.tracker.lastId
      queued := r.link.tracker.queued ++ [(.publish, ⟨nextId r.link.tracker.lastId, .atLeastOnce,
        (.publish, r.entries.length)⟩)] } := by
  have htaken : r.link.takes (.publish "t" .atLeastOnce false []) = true := by
    rw [Connection.takes, show Command.isSendable _ = true from rfl, hloop]
    exact hroom
  simp [next, Step.plain, Connection.step, Connection.submit, Tracker.submit, Connection.hand,
    hclient, hclosing, htaken]

end Run

section Open

variable (c : Connection ℕ) (steps : List Step) (hclient : (c.run steps).link.client = true)
  (hclosing : (c.run steps).link.closing = false)
include hclient hclosing

/-- Refused publishes move the counter and leave the requests alone. -/
theorem run_wildcards (n : ℕ) : ∃ e, (c.run (steps ++ List.replicate n .wildcard)).link =
    { (c.run steps).link with
      tracker := { (c.run steps).link.tracker with
        lastId := nextId^[n] (c.run steps).link.tracker.lastId }
      lastError := e } := by
  induction n with
  | zero =>
    rw [List.replicate_zero, List.append_nil]
    exact ⟨_, rfl⟩
  | succ n ih =>
    obtain ⟨e, hlink⟩ := ih
    rw [List.replicate_succ', ← List.append_assoc, run_snoc, Run.next_wildcard, hlink]
    · exact ⟨_, by rw [Function.iterate_succ_apply']⟩
    · rw [hlink]
      exact hclient
    · rw [hlink]
      exact hclosing

/-- After refused publishes one that is accepted is outstanding under the id the counter has come
to. -/
theorem exists_plain {l : Loop} (hloop : (c.run steps).link.loop = some l)
    (hroom : l.hasRoom = true) (n : ℕ) :
    ∃ q : Call, q.id = nextId^[n + 1] (c.run steps).link.tracker.lastId ∧
      (c.run (steps ++ List.replicate n .wildcard ++ [.plain])).link.tracker.outstanding =
        (c.run steps).link.tracker.queued.map (·.2) ++
          q :: (c.run steps).link.tracker.sent.map (·.2) := by
  obtain ⟨e, hlink⟩ := run_wildcards c steps hclient hclosing n
  rw [run_snoc]
  generalize c.run (steps ++ List.replicate n .wildcard) = r at hlink
  refine ⟨⟨nextId r.link.tracker.lastId, .atLeastOnce, (.publish, r.entries.length)⟩, ?_, ?_⟩
  · rw [hlink, Function.iterate_succ_apply']
  · rw [Run.next_plain (by rw [hlink]; exact hclient) (by rw [hlink]; exact hclosing)
      (by rw [hlink]; exact hloop) hroom, hlink]
    simp only [Tracker.outstanding, List.map_append, List.map_cons, List.map_nil,
      List.append_assoc, List.singleton_append]

/-- While a link takes requests, one more can come to be outstanding under any id. -/
theorem exists_outstanding_under {id : ℕ} (hpos : 0 < id) (hlt : id < 65536) :
    ∃ more : List Step, ∃ q : Call, q.id = id ∧
      (c.run (steps ++ more)).link.tracker.outstanding.Perm
        (q :: (c.run steps).link.tracker.outstanding) := by
  have hlink : (c.run (steps ++ [.loop (some .roomy)])).link =
      { (c.run steps).link with loop := some .roomy } := by
    rw [run_snoc]
    rfl
  -- So many refused publishes bring the counter to just before the id.
  obtain ⟨n, hn⟩ : ∃ n, ((c.run steps).link.tracker.lastId + n) % 65535 + 1 = id :=
    ⟨id + 65534 - (c.run steps).link.tracker.lastId % 65535, by omega⟩
  obtain ⟨q, hid, houtstanding⟩ := exists_plain c (steps ++ [.loop (some .roomy)])
    (by rw [hlink]; exact hclient) (by rw [hlink]; exact hclosing) (by rw [hlink]) rfl n
  rw [hlink] at hid houtstanding
  refine ⟨[.loop (some .roomy)] ++ (List.replicate n .wildcard ++ [.plain]), q, ?_, ?_⟩
  · rw [hid, nextId_iterate]
    exact hn
  · rw [← List.append_assoc, ← List.append_assoc, houtstanding]
    exact List.perm_middle

end Open

/-- Along every run the ids of the outstanding requests lie from 1 to 65535, and they are pairwise
distinct just when no two of these requests are a multiple of 65535 submissions apart, counting
those that the event loop refused. So they are while none of these requests is followed by 65535
submissions or more. As long as the link takes requests, every outstanding request can be joined by
another one under its id. -/
theorem ids_distinct_iff_apart (c : Connection ℕ) (hidle : c.tracker.outstanding = [])
    (steps : List Step) :
    let r := c.run steps
    let outstanding := r.link.tracker.outstanding
    (∀ q ∈ outstanding, 0 < q.id ∧ q.id < 65536) ∧
    ((outstanding.map (·.id)).Nodup ↔ ∀ q ∈ outstanding, ∀ q' ∈ outstanding,
      r.turn q.number % 65535 = r.turn q'.number % 65535 → q = q') ∧
    ((∀ q ∈ outstanding, r.turns ≤ r.turn q.number + 65535) → (outstanding.map (·.id)).Nodup) ∧
    (r.link.client = true → r.link.closing = false → ∀ q ∈ outstanding, ∃ more,
      2 ≤ ((c.run (steps ++ more)).link.tracker.outstanding.map (·.id)).count q.id) := by
  intro r outstanding
  have hrange (q : Call) (hq : q ∈ outstanding) : 0 < q.id ∧ q.id < 65536 := by
    rw [id_of_outstanding hidle steps hq]
    omega
  refine ⟨hrange, nodup_ids_iff hidle steps, fun hrecent => ?_, fun hclient hclosing q hq => ?_⟩
  · rw [nodup_ids_iff hidle steps]
    intro q hq q' hq' hmod
    have hlt := turn_lt_turns hidle steps hq
    have hlt' := turn_lt_turns hidle steps hq'
    have hold : (c.run steps).turns ≤ (c.run steps).turn q.number + 65535 := hrecent q hq
    have hold' : (c.run steps).turns ≤ (c.run steps).turn q'.number + 65535 := hrecent q' hq'
    refine turn_inj hidle steps hq hq' ?_
    omega
  · obtain ⟨hpos, hlt⟩ := hrange q hq
    obtain ⟨more, q', hid, hperm⟩ := exists_outstanding_under c steps hclient hclosing hpos hlt
    refine ⟨more, ?_⟩
    rw [(hperm.map _).count_eq, List.map_cons, hid, List.count_cons_self]
    exact Nat.succ_le_succ (List.count_pos_iff.2 (List.mem_map_of_mem hq))

/-- Two publishes right after one another have ids of their own, and the first of these can come
to be used once more while it is outstanding. -/
theorem ids_distinct_iff_apart_publishes :
    let c : Connection ℕ := .fresh ⟨"broker", none, .password "user" "word", none, false⟩
    let steps : List Step := [.loop (some .roomy), .plain, .plain]
    c.tracker.outstanding = [] ∧
      ((c.run steps).link.tracker.outstanding.map (·.id)).Nodup ∧
      ∃ more, 2 ≤ ((c.run (steps ++ more)).link.tracker.outstanding.map (·.id)).count 1 := by
  intro c steps
  obtain ⟨-, -, hrecent, hjoined⟩ := ids_distinct_iff_apart c rfl steps
  exact ⟨rfl, hrecent (by decide), hjoined rfl rfl ⟨1, .atLeastOnce, (.publish, 1)⟩ (.head _)⟩

/-- A subscription that is not acknowledged while 65534 publishes are refused shares its id with
the publish that is accepted after them. -/
theorem id_of_outstanding_taken_again :
    let c : Connection ℕ := .fresh ⟨"broker", none, .password "user" "word", none, false⟩
    let subscribe : Step :=
      .submit .subscribe .atLeastOnce (.subscribe "t") (.subscribe [("t", .atLeastOnce)])
    let steps : List Step :=
      [.loop (some .roomy), subscribe] ++ List.replicate 65534 .wildcard ++ [.plain]
    c.tracker.outstanding = [] ∧
      (c.run steps).link.tracker.outstanding.map (·.id) = [1, 1] ∧
      ¬((c.run steps).link.tracker.outstanding.map (·.id)).Nodup := by
  intro c subscribe steps
  have hids : (c.run steps).link.tracker.outstanding.map (·.id) = [1, 1] := by
    obtain ⟨q, hid, houtstanding⟩ := exists_plain c [.loop (some .roomy), subscribe]
      rfl rfl rfl rfl 65534
    rw [houtstanding]
    show [1, q.id] = [1, 1]
    rw [hid, nextId_iterate, show (c.run _).link.tracker.lastId = 1 from rfl]
  exact ⟨rfl, hids, by rw [hids]; decide⟩

end DeviceLink.Link
