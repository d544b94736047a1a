import DeviceLink.Proofs.Link.Conservation
/-!
# Acknowledgements find their requests

The tracker sees no request on the wire, only packet ids. What it makes of them is decided by
the history of a run alone: of each kind, the `i`-th event that sends a queued request sends the
`i`-th request that was accepted, and that request ends with the first later acknowledgement of
its kind under that packet id.
-/

namespace DeviceLink.Link

open Mqtt

/-! ## The history -/

namespace Entry

/-- The kind and packet id that a step sent a queued request under: the packet id did not wait
for an acknowledgement, and something of the kind was queued. -/
def effective? (e : Entry) : Option (Kind × ℕ) :=
  match e.op? with
  | some (.outgoing kind pkid) =>
    if e.before.tracker.sent.lookup (kind, pkid) = none ∧ e.before.tracker.waiting kind ≠ [] then
      some (kind, pkid)
    else none
  | _ => none

/-- The quality granted by a step that acknowledges a packet. -/
def acks (e : Entry) (kind : Kind) (pkid : ℕ) : Option Qos :=
  match e.op? with
  | some (.acknowledge k p granted) => if k = kind ∧ p = pkid then some granted else none
  | _ => none

/-- The packet id that a step sent a request of a kind under, and the number of the step. -/
def effectiveOf (e : Entry) (kind : Kind) : List (ℕ × ℕ) :=
  (e.effective?.toList.filter fun x => x.1 = kind).map fun x => (e.number, x.2)

end Entry

namespace Run

/-- The accepted requests of a kind. -/
def acceptedOf (r : Run) (kind : Kind) : List Call :=
  (r.accepted.filter fun a => a.1 = kind).map (·.2)

/-- The steps that sent a request of a kind, and under which packet ids. -/
def effectiveOf (r : Run) (kind : Kind) : List (ℕ × ℕ) :=
  r.entries.flatMap fun e => e.effectiveOf kind

/-- The first acknowledgement of a packet after a step. -/
def ackAfter (r : Run) (kind : Kind) (pkid time : ℕ) : Option (ℕ × Qos) :=
  r.entries.findSome? fun e =>
    if time < e.number then (e.acks kind pkid).map (e.number, ·) else none

/-- What the history says the callback of the `i`-th request of a kind was told. -/
def verdict (r : Run) (kind : Kind) (i : ℕ) (q : Call) : List (ℕ × Signal) :=
  match (r.effectiveOf kind)[i]? with
  | none => []
  | some (time, pkid) =>
    if kind.awaitsAck q.qos then
      (r.ackAfter kind pkid time).toList.map fun (t, granted) =>
        (t, q.completion.1.signal q.id granted 0)
    else [(time, q.completion.1.signal q.id .atMostOnce 0)]

/-- The history says that a request waits for the acknowledgement of a packet. -/
def Open (r : Run) (kind : Kind) (pkid : ℕ) (q : Call) : Prop :=
  ∃ i time : ℕ, (r.acceptedOf kind)[i]? = some q ∧ (r.effectiveOf kind)[i]? = some (time, pkid) ∧
    kind.awaitsAck q.qos = true ∧ r.ackAfter kind pkid time = none

/-- The tracker and the callbacks agree with the history. -/
structure Matched (r : Run) : Prop where
  waiting (kind : Kind) :
    r.link.tracker.waiting kind = (r.acceptedOf kind).drop (r.effectiveOf kind).length
  earlier (kind : Kind) (i time pkid : ℕ) (h : (r.effectiveOf kind)[i]? = some (time, pkid)) :
    ∃ q, (r.acceptedOf kind)[i]? = some q ∧ q.number < time
  sent (kind : Kind) (pkid : ℕ) (q : Call) :
    r.link.tracker.sent.lookup (kind, pkid) = some q ↔ r.Open kind pkid q
  told (kind : Kind) (i : ℕ) (q : Call) (h : (r.acceptedOf kind)[i]? = some q) :
    r.told q.number = r.verdict kind i q

/-! ## The history after a step -/

section Next

variable (r : Run) (st : Step) (kind : Kind)

theorem next_acceptedOf : (r.next st).acceptedOf kind =
    r.acceptedOf kind ++ ((r.entry st).accepted?.toList.filter fun a => a.1 = kind).map (·.2) := by
  rw [acceptedOf, next_accepted, List.filter_append, List.map_append]
  rfl

theorem next_effectiveOf :
    (r.next st).effectiveOf kind = r.effectiveOf kind ++ (r.entry st).effectiveOf kind := by
  simp [effectiveOf, next_entries]

theorem next_ackAfter (pkid time : ℕ) :
    (r.next st).ackAfter kind pkid time = (r.ackAfter kind pkid time).or
      (if time < r.entries.length then
        ((r.entry st).acks kind pkid).map (r.entries.length, ·) else none) := by
  rw [ackAfter, next_entries, List.findSome?_append, List.findSome?_singleton]
  rfl

variable {r} {st}

theorem next_acceptedOf_of_none (h : (r.entry st).accepted? = none) :
    (r.next st).acceptedOf kind = r.acceptedOf kind := by
  simp [next_acceptedOf, h]

theorem next_effectiveOf_of_none (h : (r.entry st).effective? = none) :
    (r.next st).effectiveOf kind = r.effectiveOf kind := by
  simp [next_effectiveOf, Entry.effectiveOf, h]

theorem next_ackAfter_of_none {pkid : ℕ} (h : (r.entry st).acks kind pkid = none) (time : ℕ) :
    (r.next st).ackAfter kind pkid time = r.ackAfter kind pkid time := by
  simp [next_ackAfter, h]

end Next

end Run

section Numbers

variable {c : Connection ℕ} {steps : List Step}

theorem number_lt {e : Entry} (he : e ∈ (c.run steps).entries) :
    e.number < (c.run steps).entries.length := by
  have h : e.number ∈ (c.run steps).entries.map (·.number) := List.mem_map_of_mem he
  rw [numbers_run] at h
  exact List.mem_range.1 h

theorem time_lt {kind : Kind} {i time pkid : ℕ}
    (h : ((c.run steps).effectiveOf kind)[i]? = some (time, pkid)) :
    time < (c.run steps).entries.length := by
  obtain ⟨e, he, hmem⟩ := List.mem_flatMap.1 (List.mem_of_getElem? h)
  obtain ⟨x, -, hx⟩ := List.mem_map.1 hmem
  obtain rfl : e.number = time := congrArg Prod.fst hx
  exact number_lt he

/-- No acknowledgement has come after the last step. -/
theorem ackAfter_length (kind : Kind) (pkid : ℕ) :
    (c.run steps).ackAfter kind pkid (c.run steps).entries.length = none := by
  rw [Run.ackAfter, List.findSome?_eq_none_iff]
  intro e he
  rw [if_neg (Nat.lt_asymm (number_lt he))]

theorem sublist_numbers (l : List Entry) :
    ((l.filterMap Entry.accepted?).map fun a => a.2.number).Sublist (l.map (·.number)) := by
  induction l with
  | nil => exact .slnil
  | cons e l ih =>
    cases h : e.accepted? with
    | none =>
      rw [List.filterMap_cons_none h]
      exact ih.cons _
    | some a =>
      have hnumber : a.2.number = e.number := Run.number_of_accepted h
      rw [List.filterMap_cons_some h, List.map_cons, List.map_cons, hnumber]
      exact ih.cons_cons _

theorem nodup_accepted (c : Connection ℕ) (steps : List Step) :
    ((c.run steps).accepted.map fun a => a.2.number).Nodup :=
  (nodup_numbers_run c steps).sublist (sublist_numbers _)

/-- A callback determines its request, the kind of it and its place in the queue. -/
theorem index_unique {kind kind' : Kind} {i j : ℕ} {q q' : Call}
    (h : ((c.run steps).acceptedOf kind)[i]? = some q)
    (h' : ((c.run steps).acceptedOf kind')[j]? = some q') (hn : q.number = q'.number) :
    kind = kind' ∧ i = j := by
  have hmem (k : Kind) (n : ℕ) (x : Call) (hx : ((c.run steps).acceptedOf k)[n]? = some x) :
      (k, x) ∈ (c.run steps).accepted := by
    obtain ⟨a, ha, rfl⟩ := List.mem_map.1 (List.mem_of_getElem? hx)
    obtain ⟨ha, hk⟩ := List.mem_filter.1 ha
    rwa [← of_decide_eq_true hk]
  have hsame : (kind, q) = (kind', q') :=
    List.inj_on_of_nodup_map (nodup_accepted c steps) (hmem _ _ _ h) (hmem _ _ _ h') hn
  obtain ⟨rfl, rfl⟩ := Prod.mk.inj hsame
  have hnodup : ((c.run steps).acceptedOf kind).Nodup :=
    (((nodup_accepted c steps).of_map _).filter _).map_on fun a ha b hb hab => by
      obtain ⟨-, hka⟩ := List.mem_filter.1 ha
      obtain ⟨-, hkb⟩ := List.mem_filter.1 hb
      exact Prod.ext ((of_decide_eq_true hka).trans (of_decide_eq_true hkb).symm) hab
  have hlt : i < ((c.run steps).acceptedOf kind).length := (List.getElem?_eq_some_iff.1 h).1
  exact ⟨rfl, (List.getElem?_inj hlt hnodup).1 (h.trans h'.symm)⟩

theorem accepted_lt {kind : Kind} {i : ℕ} {q : Call}
    (h : ((c.run steps).acceptedOf kind)[i]? = some q) :
    q.number < (c.run steps).entries.length := by
  obtain ⟨a, ha, rfl⟩ := List.mem_map.1 (List.mem_of_getElem? h)
  obtain ⟨e, he, hacc⟩ := List.mem_filterMap.1 (List.mem_filter.1 ha).1
  have hnumber : a.2.number = e.number := Run.number_of_accepted hacc
  rw [hnumber]
  exact number_lt he

/-- The callback of the next step was told nothing yet. -/
theorem told_length (hidle : c.tracker.outstanding = []) :
    (c.run steps).told (c.run steps).entries.length = [] := by
  have hperm := (conserved_run hidle steps).perm_with (c.run steps).entries.length
  rw [Run.accepted, filter_accepted_eq_nil fun e he => Nat.ne_of_lt (number_lt he)] at hperm
  obtain ⟨-, hended⟩ := List.append_eq_nil_iff.1 (List.nil_perm.1 hperm)
  rw [told_run, List.map_eq_nil_iff.1 hended, List.map_nil]

end Numbers

/-- What the numbers of the steps say about the history. -/
structure Run.Numbered (r : Run) : Prop where
  unique {kind kind' : Kind} {i j : ℕ} {q q' : Call} (h : (r.acceptedOf kind)[i]? = some q)
    (h' : (r.acceptedOf kind')[j]? = some q') (hn : q.number = q'.number) : kind = kind' ∧ i = j
  accepted_lt {kind : Kind} {i : ℕ} {q : Call} (h : (r.acceptedOf kind)[i]? = some q) :
    q.number < r.entries.length
  time_lt {kind : Kind} {i time pkid : ℕ} (h : (r.effectiveOf kind)[i]? = some (time, pkid)) :
    time < r.entries.length
  ackAfter (kind : Kind) (pkid : ℕ) : r.ackAfter kind pkid r.entries.length = none
  told : r.told r.entries.length = []

theorem numbered_run {c : Connection ℕ} (hidle : c.tracker.outstanding = []) (steps : List Step) :
    (c.run steps).Numbered :=
  ⟨index_unique, accepted_lt, time_lt, ackAfter_length, told_length hidle⟩

/-! ## One step -/

theorem getElem?_append_some {α : Type} {l l' : List α} {i : ℕ} {x : α} (h : l[i]? = some x) :
    (l ++ l')[i]? = some x := by
  rw [List.getElem?_append_left (List.getElem?_eq_some_iff.1 h).1, h]

theorem getElem?_snoc_eq_some {α : Type} {l : List α} {i : ℕ} {x y : α}
    (h : (l ++ [y])[i]? = some x) : l[i]? = some x ∨ i = l.length ∧ x = y := by
  rcases Nat.lt_trichotomy i l.length with hi | rfl | hi
  · rw [List.getElem?_append_left hi] at h
    exact .inl h
  · rw [List.getElem?_concat_length] at h
    exact .inr ⟨rfl, (Option.some.inj h).symm⟩
  · rw [List.getElem?_eq_none (by rw [List.length_append]; exact hi)] at h
    cases h

namespace Run

variable {r : Run} {st : Step}

theorem next_told_eq (r : Run) (st : Step) (n : ℕ) : (r.next st).told n = r.told n ++
    ((r.entry st).outcomes.filter fun o => o.request.number = n).map
      fun o => (r.entries.length, o.signal) := by
  rw [next_told, told_entry, List.map_map]
  rfl

/-- A verdict stands until the acknowledgement comes that its request waits for. -/
theorem verdict_next {kind : Kind} {i : ℕ} {q : Call}
    (heff : ((r.next st).effectiveOf kind)[i]? = (r.effectiveOf kind)[i]?)
    (hack : ∀ time pkid, (r.effectiveOf kind)[i]? = some (time, pkid) →
      kind.awaitsAck q.qos = true → r.ackAfter kind pkid time = none →
        (r.entry st).acks kind pkid = none) :
    (r.next st).verdict kind i q = r.verdict kind i q := by
  unfold verdict
  rw [heff]
  cases htime : (r.effectiveOf kind)[i]? with
  | none => rfl
  | some x =>
    obtain ⟨time, pkid⟩ := x
    by_cases hawaits : kind.awaitsAck q.qos = true
    · simp only [hawaits, if_true, next_ackAfter]
      cases hnone : r.ackAfter kind pkid time with
      | none => simp [hack time pkid htime hawaits hnone]
      | some a => rfl
    · simp only [if_neg hawaits]

namespace Matched

theorem length_le (h : r.Matched) (kind : Kind) :
    (r.effectiveOf kind).length ≤ (r.acceptedOf kind).length := by
  by_contra hle
  have hlt : (r.acceptedOf kind).length < (r.effectiveOf kind).length := Nat.lt_of_not_le hle
  obtain ⟨q, hq, -⟩ := h.earlier kind _ _ _ (List.getElem?_eq_getElem hlt)
  rw [List.getElem?_eq_none (Nat.le_refl _)] at hq
  cases hq

/-- A step that accepts and sends no request, and acknowledges none that waits for it. -/
theorem quiet (h : r.Matched) (hacc : (r.entry st).accepted? = none)
    (heff : (r.entry st).effective? = none)
    (hack : ∀ kind pkid q, r.Open kind pkid q → (r.entry st).acks kind pkid = none)
    (hout : (r.entry st).outcomes = [])
    (hqueued : (r.next st).link.tracker.queued = r.link.tracker.queued)
    (hsent : (r.next st).link.tracker.sent = r.link.tracker.sent) : (r.next st).Matched := by
  have hacceptedOf kind := next_acceptedOf_of_none kind hacc
  have heffectiveOf kind := next_effectiveOf_of_none kind heff
  have hopen (kind : Kind) (pkid : ℕ) (q : Call) :
      (r.next st).Open kind pkid q ↔ r.Open kind pkid q := by
    constructor
    · rintro ⟨i, time, hq, htime, hawaits, hnone⟩
      rw [hacceptedOf] at hq
      rw [heffectiveOf] at htime
      rw [next_ackAfter, Option.or_eq_none_iff] at hnone
      exact ⟨i, time, hq, htime, hawaits, hnone.1⟩
    · rintro ⟨i, time, hq, htime, hawaits, hnone⟩
      refine ⟨i, time, by rwa [hacceptedOf], by rwa [heffectiveOf], hawaits, ?_⟩
      simp [next_ackAfter, hnone, hack _ _ _ ⟨i, time, hq, htime, hawaits, hnone⟩]
  refine ⟨fun kind => ?_, fun kind i time pkid htime => ?_, fun kind pkid q => ?_,
    fun kind i q hq => ?_⟩
  · rw [hacceptedOf, heffectiveOf, ← h.waiting, Tracker.waiting, hqueued]
    rfl
  · rw [heffectiveOf] at htime
    rw [hacceptedOf]
    exact h.earlier kind i time pkid htime
  · rw [hsent, hopen]
    exact h.sent kind pkid q
  · rw [hacceptedOf] at hq
    have hsame : (r.next st).verdict kind i q = r.verdict kind i q :=
      verdict_next (by rw [heffectiveOf]) fun time pkid htime hawaits hnone =>
        hack kind pkid q ⟨i, time, hq, htime, hawaits, hnone⟩
    rw [next_told_eq, hout, hsame, h.told kind i q hq]
    simp

/-- A step that accepts a request. -/
theorem accept (h : r.Matched) (ho : r.Numbered) {kind : Kind} {q : Call}
    (hacc : (r.entry st).accepted? = some (kind, q)) (heff : (r.entry st).effective? = none)
    (hack : ∀ kind pkid, (r.entry st).acks kind pkid = none)
    (hout : (r.entry st).outcomes = [])
    (hwaiting : ∀ k, (r.next st).link.tracker.waiting k =
      r.link.tracker.waiting k ++ if kind = k then [q] else [])
    (hsent : (r.next st).link.tracker.sent = r.link.tracker.sent) : (r.next st).Matched := by
  have hnumber : q.number = r.entries.length := number_of_accepted hacc
  have hacceptedOf (k : Kind) :
      (r.next st).acceptedOf k = r.acceptedOf k ++ if kind = k then [q] else [] := by
    by_cases hk : kind = k <;> simp [next_acceptedOf, hacc, hk]
  have heffectiveOf k := next_effectiveOf_of_none k heff
  have hackAfter k pkid := next_ackAfter_of_none k (hack k pkid)
  have hkeep {k : Kind} {i : ℕ} {x : Call} (hx : (r.acceptedOf k)[i]? = some x) :
      ((r.next st).acceptedOf k)[i]? = some x := by
    rw [hacceptedOf]
    exact getElem?_append_some hx
  refine ⟨fun k => ?_, fun k i time pkid htime => ?_, fun k pkid x => ?_, fun k i x hx => ?_⟩
  · rw [hwaiting, hacceptedOf, heffectiveOf, h.waiting,
      List.drop_append_of_le_length (h.length_le k)]
  · rw [heffectiveOf] at htime
    obtain ⟨x, hx, hlt⟩ := h.earlier k i time pkid htime
    exact ⟨x, hkeep hx, hlt⟩
  · rw [hsent, h.sent]
    constructor
    · rintro ⟨i, time, hx, htime, hawaits, hnone⟩
      exact ⟨i, time, hkeep hx, by rwa [heffectiveOf], hawaits, by rwa [hackAfter]⟩
    · rintro ⟨i, time, hx, htime, hawaits, hnone⟩
      rw [heffectiveOf] at htime
      rw [hackAfter] at hnone
      -- What was sent was accepted before, so the new request is not among it.
      obtain ⟨x', hx', -⟩ := h.earlier k i time pkid htime
      obtain rfl : x' = x := Option.some.inj ((hkeep hx').symm.trans hx)
      exact ⟨i, time, hx', htime, hawaits, hnone⟩
  · have hsame : (r.next st).verdict k i x = r.verdict k i x :=
      verdict_next (by rw [heffectiveOf]) fun time pkid _ _ _ => hack k pkid
    have htold : (r.next st).told x.number = r.told x.number := by
      simp [next_told_eq, hout]
    rw [hsame, htold]
    rw [hacceptedOf] at hx
    by_cases hk : kind = k
    · rw [if_pos hk] at hx
      rcases getElem?_snoc_eq_some hx with hold | ⟨rfl, rfl⟩
      · exact h.told k i x hold
      · rw [hnumber, ho.told, verdict, List.getElem?_eq_none (h.length_le k)]
    · rw [if_neg hk, List.append_nil] at hx
      exact h.told k i x hx

/-- The oldest queued request of a kind is the first that was accepted and not sent. -/
theorem oldest (h : r.Matched) {kind : Kind} {q : Call} {rest : List Call}
    (hwaiting : r.link.tracker.waiting kind = q :: rest) :
    (r.acceptedOf kind)[(r.effectiveOf kind).length]? = some q := by
  have hdrop := h.waiting kind
  rw [hwaiting] at hdrop
  have hhead := congrArg (·[0]?) hdrop
  simpa using hhead.symm

end Matched

section Send

variable {kind : Kind} {pkid : ℕ} (heff : (r.entry st).effective? = some (kind, pkid))
include heff

theorem effectiveOf_send (k : Kind) : (r.next st).effectiveOf k =
    r.effectiveOf k ++ if kind = k then [(r.entries.length, pkid)] else [] := by
  have hnumber : (r.entry st).number = r.entries.length := rfl
  by_cases hk : kind = k <;> simp [next_effectiveOf, Entry.effectiveOf, heff, hk, hnumber]

/-- A step that sent a request is the last one or an earlier one. -/
theorem cases_send {k : Kind} {i : ℕ} {x : ℕ × ℕ}
    (hx : ((r.next st).effectiveOf k)[i]? = some x) : (r.effectiveOf k)[i]? = some x ∨
      kind = k ∧ i = (r.effectiveOf kind).length ∧ x = (r.entries.length, pkid) := by
  rw [effectiveOf_send heff] at hx
  by_cases hk : kind = k
  · rw [if_pos hk] at hx
    rcases getElem?_snoc_eq_some hx with hold | ⟨rfl, rfl⟩
    · exact .inl hold
    · exact .inr ⟨hk, by rw [hk], rfl⟩
  · rw [if_neg hk, List.append_nil] at hx
    exact .inl hx

theorem newest_send : ((r.next st).effectiveOf kind)[(r.effectiveOf kind).length]? =
    some (r.entries.length, pkid) := by
  rw [effectiveOf_send heff, if_pos rfl, List.getElem?_concat_length]

theorem older_send {k : Kind} {i : ℕ} (h : ¬(kind = k ∧ i = (r.effectiveOf kind).length)) :
    ((r.next st).effectiveOf k)[i]? = (r.effectiveOf k)[i]? := by
  cases hx : ((r.next st).effectiveOf k)[i]? with
  | none =>
    rw [effectiveOf_send heff, List.getElem?_eq_none_iff] at hx
    exact (List.getElem?_eq_none (Nat.le_trans (by simp) hx)).symm
  | some x =>
    rcases cases_send heff hx with hold | ⟨hk, hi, -⟩
    · exact hold.symm
    · exact absurd ⟨hk, hi⟩ h

/-- The one request that may be waiting anew is the one that was sent. -/
theorem open_send (ho : r.Numbered) (hacc : (r.entry st).accepted? = none)
    (hack : ∀ kind pkid, (r.entry st).acks kind pkid = none) {q : Call}
    (hq : (r.acceptedOf kind)[(r.effectiveOf kind).length]? = some q) (k : Kind) (p : ℕ) (x : Call) :
    (r.next st).Open k p x ↔
      r.Open k p x ∨ kind.awaitsAck q.qos = true ∧ (k, p) = (kind, pkid) ∧ x = q := by
  have hacceptedOf := next_acceptedOf_of_none k hacc
  have hackAfter := next_ackAfter_of_none k (hack k p)
  constructor
  · rintro ⟨i, time, hx, htime, hawaits, hnone⟩
    rw [hacceptedOf] at hx
    rw [hackAfter] at hnone
    rcases cases_send heff htime with hold | ⟨rfl, rfl, heq⟩
    · exact .inl ⟨i, time, hx, hold, hawaits, hnone⟩
    · obtain ⟨-, rfl⟩ := Prod.mk.inj heq
      obtain rfl : q = x := Option.some.inj (hq.symm.trans hx)
      exact .inr ⟨hawaits, rfl, rfl⟩
  · rintro (⟨i, time, hx, htime, hawaits, hnone⟩ | ⟨hawaits, hkey, rfl⟩)
    · refine ⟨i, time, by rwa [hacceptedOf], ?_, hawaits, by rwa [hackAfter]⟩
      rw [effectiveOf_send heff]
      exact getElem?_append_some htime
    · obtain ⟨rfl, rfl⟩ := Prod.mk.inj hkey
      exact ⟨_, _, by rwa [hacceptedOf], newest_send heff, hawaits, by rw [hackAfter, ho.ackAfter]⟩

/-- A publish that waits for no acknowledgement is told its end by the step that sends it. -/
theorem verdict_send (h : r.Matched) (ho : r.Numbered)
    (hack : ∀ kind pkid, (r.entry st).acks kind pkid = none) {q : Call}
    (hq : (r.acceptedOf kind)[(r.effectiveOf kind).length]? = some q) {k : Kind} {i : ℕ} {x : Call}
    (hx : (r.acceptedOf k)[i]? = some x) :
    (r.next st).verdict k i x = r.told x.number ++
      if kind.awaitsAck q.qos = false ∧ q.number = x.number then
        [(r.entries.length, q.completion.1.signal q.id .atMostOnce 0)]
      else [] := by
  rw [h.told k i x hx]
  by_cases hn : q.number = x.number
  · obtain ⟨rfl, rfl⟩ := ho.unique hq hx hn
    obtain rfl : q = x := Option.some.inj (hq.symm.trans hx)
    have hbefore : r.verdict kind (r.effectiveOf kind).length q = [] := by
      rw [verdict, List.getElem?_eq_none (Nat.le_refl _)]
    rw [hbefore, verdict, newest_send heff]
    by_cases hawaits : kind.awaitsAck q.qos = true
    · simp [hawaits, next_ackAfter, ho.ackAfter]
    · simp [hawaits]
  · have hother : ¬(kind = k ∧ i = (r.effectiveOf kind).length) := by
      rintro ⟨rfl, rfl⟩
      exact hn (congrArg Request.number (Option.some.inj (hq.symm.trans hx)))
    rw [verdict_next (older_send heff hother) fun time p _ _ _ => hack k p, if_neg fun h => hn h.2,
      List.append_nil]

end Send

namespace Matched

/-- A step that sends the oldest request of a kind, which ends it if it waits for no
acknowledgement. -/
theorem send (h : r.Matched) (ho : r.Numbered) (kind : Kind) (pkid : ℕ) (q : Call)
    (hacc : (r.entry st).accepted? = none) (heff : (r.entry st).effective? = some (kind, pkid))
    (hack : ∀ kind pkid, (r.entry st).acks kind pkid = none)
    (hout : (r.entry st).outcomes = if kind.awaitsAck q.qos then [] else [⟨q, .atMostOnce, 0⟩])
    (hwaiting : ∀ k, r.link.tracker.waiting k =
      (if kind = k then [q] else []) ++ (r.next st).link.tracker.waiting k)
    (hnew : r.link.tracker.sent.lookup (kind, pkid) = none)
    (hlookup : ∀ key, (r.next st).link.tracker.sent.lookup key =
      if kind.awaitsAck q.qos ∧ key = (kind, pkid) then some q
      else r.link.tracker.sent.lookup key) : (r.next st).Matched := by
  have hacceptedOf k := next_acceptedOf_of_none k hacc
  have hq : (r.acceptedOf kind)[(r.effectiveOf kind).length]? = some q :=
    h.oldest (by rw [hwaiting, if_pos rfl]; rfl)
  refine ⟨fun k => ?_, fun k i time p htime => ?_, fun k p x => ?_, fun k i x hx => ?_⟩
  · have hdrop := h.waiting k
    rw [hwaiting] at hdrop
    rw [hacceptedOf, effectiveOf_send heff, List.length_append]
    by_cases hk : kind = k
    · rw [if_pos hk] at hdrop ⊢
      have htail := congrArg List.tail hdrop
      simpa using htail
    · rw [if_neg hk] at hdrop ⊢
      exact hdrop
  · rw [hacceptedOf]
    -- Only the newest event is not known to the run before.
    rcases cases_send heff htime with hold | ⟨rfl, rfl, heq⟩
    · exact h.earlier k i time p hold
    · obtain ⟨rfl, -⟩ := Prod.mk.inj heq
      exact ⟨q, hq, ho.accepted_lt hq⟩
  · rw [hlookup, open_send heff ho hacc hack hq, ← h.sent]
    split
    · rename_i hnewest
      rw [hnewest.2, hnew]
      simp [hnewest.1, eq_comm]
    · rename_i hold
      exact ⟨.inl, fun hor => hor.resolve_right fun hnewest => hold ⟨hnewest.1, hnewest.2.1⟩⟩
  · rw [hacceptedOf] at hx
    rw [next_told_eq, hout, verdict_send heff h ho hack hq hx]
    by_cases hawaits : kind.awaitsAck q.qos = true
    · simp [hawaits]
    · by_cases hn : q.number = x.number <;> simp [hawaits, hn, Outcome.signal]

/-- A step that acknowledges a packet, which ends the request that was sent under it. -/
theorem acknowledge (h : r.Matched) (ho : r.Numbered) {kind : Kind} {pkid : ℕ} {granted : Qos}
    {q : Call} (hacc : (r.entry st).accepted? = none) (heff : (r.entry st).effective? = none)
    (hack : ∀ k p, (r.entry st).acks k p = if kind = k ∧ pkid = p then some granted else none)
    (hout : (r.entry st).outcomes = [⟨q, granted, 0⟩])
    (hqueued : (r.next st).link.tracker.queued = r.link.tracker.queued)
    (hq : r.link.tracker.sent.lookup (kind, pkid) = some q)
    (hlookup : ∀ key, (r.next st).link.tracker.sent.lookup key =
      if key = (kind, pkid) then none else r.link.tracker.sent.lookup key) :
    (r.next st).Matched := by
  have hacceptedOf k := next_acceptedOf_of_none k hacc
  have heffectiveOf k := next_effectiveOf_of_none k heff
  obtain ⟨i₀, time₀, hq₀, htime₀, hawaits₀, hnone₀⟩ := (h.sent kind pkid q).1 hq
  have hended : (r.next st).ackAfter kind pkid time₀ = some (r.entries.length, granted) := by
    rw [next_ackAfter, hnone₀, hack, if_pos (ho.time_lt htime₀), if_pos ⟨rfl, rfl⟩]
    rfl
  refine ⟨fun k => ?_, fun k i time p htime => ?_, fun k p x => ?_, fun k i x hx => ?_⟩
  · rw [hacceptedOf, heffectiveOf, ← h.waiting, Tracker.waiting, hqueued]
    rfl
  · rw [heffectiveOf] at htime
    rw [hacceptedOf]
    exact h.earlier k i time p htime
  · rw [hlookup]
    by_cases hkey : (k, p) = (kind, pkid)
    · obtain ⟨rfl, rfl⟩ := Prod.mk.inj hkey
      rw [if_pos rfl]
      refine iff_of_false (Option.some_ne_none x).symm ?_
      rintro ⟨i, time, -, htime, -, hnone⟩
      rw [heffectiveOf] at htime
      rw [next_ackAfter, Option.or_eq_none_iff, hack, if_pos (ho.time_lt htime),
        if_pos ⟨rfl, rfl⟩] at hnone
      cases hnone.2
    · have hother : (r.entry st).acks k p = none := by
        rw [hack, if_neg]
        rintro ⟨rfl, rfl⟩
        exact hkey rfl
      rw [if_neg hkey, h.sent]
      simp only [Open, hacceptedOf, heffectiveOf, next_ackAfter, hother, Option.map_none, ite_self,
        Option.or_none]
  · rw [hacceptedOf] at hx
    rw [next_told_eq, h.told k i x hx, hout]
    by_cases hn : q.number = x.number
    · obtain ⟨rfl, rfl⟩ := ho.unique hq₀ hx hn
      obtain rfl : q = x := Option.some.inj (hq₀.symm.trans hx)
      simp [verdict, heffectiveOf, htime₀, hawaits₀, hnone₀, hended, Outcome.signal]
    · have hsame : (r.next st).verdict k i x = r.verdict k i x := by
        refine verdict_next (by rw [heffectiveOf]) fun time p htime hawaits hnone => ?_
        rw [hack, if_neg]
        rintro ⟨rfl, rfl⟩
        -- Two requests do not wait for one acknowledgement.
        have hx' := (h.sent kind pkid x).2 ⟨i, time, hx, htime, hawaits, hnone⟩
        exact hn (congrArg Request.number (Option.some.inj (hq.symm.trans hx')))
      simp [hsame, hn]

/-- Any step but one that abandons the requests. -/
theorem next (h : r.Matched) (ho : r.Numbered) (hst : st.abandons? = none) :
    (r.next st).Matched := by
  -- A step that leaves the tracker alone is quiet; the others are taken by their effect on it.
  rcases r.next_cases st with ⟨hop, hacc, hout, htracker⟩ | ⟨op, hop, heffect⟩
  · refine h.quiet hacc ?_ (fun kind pkid q _ => ?_) hout (by rw [htracker]) (by rw [htracker])
    · simp [Entry.effective?, hop]
    · simp [Entry.acks, hop]
  have hjoins := accepted?_entry r st hop
  have hnone (h : r.link.tracker.joins op = []) : (r.entry st).accepted? = none := by
    rw [h] at hjoins
    simpa using hjoins
  have hbefore : (r.entry st).before = r.link := rfl
  generalize htracker : (r.next st).link.tracker = t at heffect
  generalize hout : (r.entry st).outcomes = ended at heffect
  cases heffect with
  | accepted kind qos completion =>
    have hacc : (r.entry st).accepted? =
        some (kind, ⟨nextId r.link.tracker.lastId, qos, completion⟩) := by
      simpa [Tracker.joins] using hjoins
    refine h.accept ho hacc ?_ (fun k p => ?_) hout (fun k => ?_) (by rw [htracker])
    · simp [Entry.effective?, hop]
    · simp [Entry.acks, hop]
    · rw [htracker]
      exact Tracker.waiting_append r.link.tracker kind k _ _
  | refused kind qos completion =>
    refine h.quiet (hnone rfl) ?_ (fun k p q _ => ?_) hout (by rw [htracker]) (by rw [htracker])
    · simp [Entry.effective?, hop]
    · simp [Entry.acks, hop]
  | repeated kind pkid hrepeated =>
    refine h.quiet (hnone rfl) ?_ (fun k p q _ => ?_) hout (by rw [htracker]) (by rw [htracker])
    · simp only [Entry.effective?, hop, hbefore, ite_eq_right_iff]
      rintro ⟨hnew, hwaiting⟩
      exact absurd hrepeated (by simp [hnew, hwaiting])
    · simp [Entry.acks, hop]
  | finished kind pkid a b q hnew hq ha hack =>
    refine h.send ho kind pkid q (hnone rfl) ?_ (fun k p => ?_) ?_ (fun k => ?_) hnew
      (fun key => ?_)
    · have hwaiting := Tracker.waiting_take hq ha r.link.tracker.sent kind
      simp [Entry.effective?, hop, hbefore, hnew, hwaiting]
    · simp [Entry.acks, hop]
    · simp [hout, hack]
    · rw [htracker]
      exact Tracker.waiting_take hq ha _ k
    · simp [htracker, hack]
  | sent kind pkid a b q hnew hq ha hack =>
    refine h.send ho kind pkid q (hnone rfl) ?_ (fun k p => ?_) ?_ (fun k => ?_) hnew
      (fun key => ?_)
    · have hwaiting := Tracker.waiting_take hq ha r.link.tracker.sent kind
      simp [Entry.effective?, hop, hbefore, hnew, hwaiting]
    · simp [Entry.acks, hop]
    · simp [hout, hack]
    · rw [htracker]
      exact Tracker.waiting_take hq ha _ k
    · simp only [htracker, hack, true_and]
      exact Tracker.lookup_append_of_none hnew
  | stray kind pkid granted hstray =>
    refine h.quiet (hnone rfl) ?_ (fun k p q hopen => ?_) hout (by rw [htracker]) (by rw [htracker])
    · simp [Entry.effective?, hop]
    · simp only [Entry.acks, hop, ite_eq_right_iff]
      rintro ⟨rfl, rfl⟩
      rw [(h.sent kind pkid q).2 hopen] at hstray
      cases hstray
  | acknowledged kind pkid granted q hq =>
    refine h.acknowledge ho (hnone rfl) ?_ (fun k p => ?_) hout (by rw [htracker]) hq (fun key => ?_)
    · simp [Entry.effective?, hop]
    · simp only [Entry.acks, hop]
    · rw [htracker]
      by_cases hkey : key = (kind, pkid)
      · rw [if_pos hkey, hkey, Tracker.lookup_filter_self]
      · rw [if_neg hkey, Tracker.lookup_filter_ne hkey]
  | abandoned code =>
    exact absurd hop (r.link.op?_ne_abandon hst)

end Matched

end Run

/-! ## Runs -/

theorem matched_run {c : Connection ℕ} (hidle : c.tracker.outstanding = []) {steps : List Step}
    (hsteps : ∀ st ∈ steps, st.abandons? = none) : (c.run steps).Matched := by
  induction steps using List.reverseRecOn with
  | nil =>
    obtain ⟨hqueued, hsent⟩ := Tracker.outstanding_eq_nil.1 hidle
    refine ⟨fun kind => ?_, fun kind i time pkid h => ?_, fun kind pkid q => ?_, fun kind i q h => ?_⟩
    · simp [Connection.run, Tracker.waiting, hqueued, Run.acceptedOf, Run.accepted]
    · cases h
    · simp [Connection.run, hsent, Run.Open, Run.acceptedOf, Run.accepted]
    · cases h
  | append_singleton steps st ih =>
    rw [run_snoc]
    refine (ih fun x hx => hsteps x (List.mem_append_left _ hx)).next (numbered_run hidle steps) ?_
    exact hsteps st (by simp)

/-- A sent packet that is not effective changes nothing and ends no request. -/
theorem outgoing_of_not_effective (r : Run) {packet : Outgoing}
    (h : (r.entry (.outgoing packet)).effective? = none) :
    (r.next (.outgoing packet)).link.tracker = r.link.tracker ∧
      endings (r.entry (.outgoing packet)).signals = [] := by
  rw [Run.endings_entry, List.map_eq_nil_iff]
  rcases r.next_cases (.outgoing packet) with ⟨-, -, hout, htracker⟩ | ⟨op, hop, heffect⟩
  · exact ⟨htracker, hout⟩
  obtain ⟨kind, pkid, rfl⟩ : ∃ kind pkid, op = .outgoing kind pkid := by
    cases packet <;> cases hop <;> exact ⟨_, _, rfl⟩
  have hbefore : (r.entry (.outgoing packet)).before = r.link := rfl
  simp only [Entry.effective?, hop, hbefore, ite_eq_right_iff, reduceCtorEq, imp_false, not_and,
    not_not] at h
  generalize (r.next (.outgoing packet)).link.tracker = t at heffect ⊢
  generalize (r.entry (.outgoing packet)).outcomes = ended at heffect ⊢
  cases heffect with
  | repeated => exact ⟨rfl, rfl⟩
  | finished _ _ a b q hnew hq ha | sent _ _ a b q hnew hq ha =>
    have hwaiting := Tracker.waiting_take hq ha r.link.tracker.sent kind
    simp [h hnew] at hwaiting

/-- An acknowledgement that no request waits for changes nothing and ends no request. -/
theorem incoming_of_not_open {r : Run} (hr : r.Matched) {packet : Packet}
    (h : ∀ kind pkid q, r.Open kind pkid q → (r.entry (.incoming packet)).acks kind pkid = none) :
    (r.next (.incoming packet)).link.tracker = r.link.tracker ∧
      endings (r.entry (.incoming packet)).signals = [] := by
  rw [Run.endings_entry, List.map_eq_nil_iff]
  rcases r.next_cases (.incoming packet) with ⟨-, -, hout, htracker⟩ | ⟨op, hop, heffect⟩
  · exact ⟨htracker, hout⟩
  obtain ⟨kind, pkid, granted, rfl⟩ : ∃ kind pkid granted, op = .acknowledge kind pkid granted := by
    cases packet <;> cases hop <;> exact ⟨_, _, _, rfl⟩
  generalize (r.next (.incoming packet)).link.tracker = t at heffect ⊢
  generalize (r.entry (.incoming packet)).outcomes = ended at heffect ⊢
  cases heffect with
  | stray => exact ⟨rfl, rfl⟩
  | acknowledged _ _ _ q hq =>
    have hnone := h kind pkid q ((hr.sent kind pkid q).1 hq)
    simp [Entry.acks, hop] at hnone

/-- Along every run in which no step abandons the requests, the tracker and the callbacks agree
with the history: the `i`-th request of a kind goes with the `i`-th effective event of the kind,
and ends there or with the first later acknowledgement of that packet. Nothing else moves or ends
a request. -/
theorem acknowledgements_matched (c : Connection ℕ) (hidle : c.tracker.outstanding = [])
    (steps : List Step) (hsteps : ∀ st ∈ steps, st.abandons? = none) :
    (c.run steps).Matched ∧
    (∀ packet, ((c.run steps).entry (.outgoing packet)).effective? = none →
      ((c.run steps).next (.outgoing packet)).link.tracker = (c.run steps).link.tracker ∧
      endings ((c.run steps).entry (.outgoing packet)).signals = []) ∧
    ∀ packet, (∀ kind pkid q, (c.run steps).Open kind pkid q →
        ((c.run steps).entry (.incoming packet)).acks kind pkid = none) →
      ((c.run steps).next (.incoming packet)).link.tracker = (c.run steps).link.tracker ∧
      endings ((c.run steps).entry (.incoming packet)).signals = [] :=
  have hmatched := matched_run hidle hsteps
  ⟨hmatched, fun _ => outgoing_of_not_effective _, fun _ => incoming_of_not_open hmatched⟩

/-- Of two publishes, the one without acknowledgement ends first. Neither the packet that is sent
twice nor the acknowledgement that comes twice counts. -/
theorem acknowledgements_matched_publishes :
    let steps : List Step :=
      [.loop (some { options := ⟨"sensor", true, 30, 3000⟩ }),
        .submit .publish .atLeastOnce .publish (.publish "t" .atLeastOnce false []),
        .submit .publish .atMostOnce .publish (.publish "t" .atMostOnce false []),
        .outgoing (.publish 7), .outgoing (.publish 7), .outgoing (.publish 0),
        .incoming (.pubAck 7), .incoming (.pubAck 7)]
    let c : Connection ℕ := .fresh ⟨"broker", none, .password "user" "word", none, false⟩
    c.tracker.outstanding = [] ∧ (∀ st ∈ steps, st.abandons? = none) ∧
      (c.run steps).told 1 = [(6, .published 1 0)] ∧
      (c.run steps).told 2 = [(5, .published 2 0)] := by
  intro steps c
  have hsteps : ∀ st ∈ steps, st.abandons? = none := by
    simp [steps, Step.abandons?]
  have hmatched := (acknowledgements_matched c rfl steps hsteps).1
  refine ⟨rfl, hsteps, ?_, ?_⟩
  · exact (hmatched.told .publish 0 ⟨1, .atLeastOnce, (.publish, 1)⟩ (by decide)).trans (by decide)
  · exact (hmatched.told .publish 1 ⟨2, .atMostOnce, (.publish, 2)⟩ (by decide)).trans (by decide)

end DeviceLink.Link
