import DeviceLink.Link.Tracker
import Mathlib.Data.List.Nodup
import Mathlib.Data.List.Perm.Basic
/-!
# What the tracker does

`Effect` sums up the tracker: every operation on it does one of eight things. The theorems
about requests are case analyses over those eight, so none of them looks at the code again.
-/

namespace DeviceLink.Link

open Mqtt

/-- Whether a request of this kind and quality waits for an acknowledgement once it is sent. -/
def Kind.awaitsAck (kind : Kind) (qos : Qos) : Bool := kind ≠ .publish || qos ≠ .atMostOnce

theorem Kind.not_awaitsAck {kind : Kind} {qos : Qos} :
    kind.awaitsAck qos = false ↔ kind = .publish ∧ qos = .atMostOnce := by
  simp [Kind.awaitsAck]

theorem Kind.publish_awaitsAck {qos : Qos} (h : qos ≠ .atMostOnce) (kind : Kind) :
    kind.awaitsAck qos = true := by
  simp [Kind.awaitsAck, h]

/-- An error always has a number of its own. -/
theorem errorCode_ne_zero (code : ErrorCode) : code.code ≠ 0 := by
  unfold ErrorCode.code ErrorCode.base
  omega

namespace Tracker

variable {κ : Type}

/-- An operation on the tracker. -/
inductive Op (κ : Type)
  | submit (kind : Kind) (qos : Qos) (completion : κ) (accepted : Bool)
  | outgoing (kind : Kind) (pkid : ℕ)
  | acknowledge (kind : Kind) (pkid : ℕ) (granted : Qos)
  | abandon (code : ErrorCode)

/-- The tracker after an operation, and the requests it ended. -/
def apply (t : Tracker κ) : Op κ → Tracker κ × List (Outcome κ)
  | .submit kind qos completion accepted => ((t.submit kind qos completion accepted).1, [])
  | .outgoing kind pkid =>
    let (t, ended) := t.outgoing kind pkid
    (t, ended.toList)
  | .acknowledge kind pkid granted =>
    let (t, ended) := t.acknowledge kind pkid granted
    (t, ended.toList)
  | .abandon code => t.abandon code

/-- The request that joins the queue with an operation. -/
def joins (t : Tracker κ) : Op κ → List (Kind × Request κ)
  | .submit kind qos completion true => [(kind, ⟨nextId t.lastId, qos, completion⟩)]
  | _ => []

/-- The requests of a kind that wait to be sent, the oldest first. -/
def waiting (t : Tracker κ) (kind : Kind) : List (Request κ) :=
  (t.queued.filter fun entry => entry.1 = kind).map (·.2)

theorem outstanding_eq_nil {t : Tracker κ} : t.outstanding = [] ↔ t.queued = [] ∧ t.sent = [] := by
  simp [outstanding]

/-! ## The queue -/

theorem takeOldest_eq_none {kind : Kind} {l : List (Kind × Request κ)} :
    takeOldest kind l = none ↔ ∀ e ∈ l, e.1 ≠ kind := by
  induction l with
  | nil => simp [takeOldest]
  | cons e l ih =>
    obtain ⟨k, r⟩ := e
    by_cases hk : k = kind <;> simp [takeOldest, hk, ih]

/-- The oldest request of a kind stands before the others of its kind, and taking it leaves
everything else in place. -/
theorem takeOldest_eq_some {kind : Kind} {l rest : List (Kind × Request κ)} {r : Request κ}
    (h : takeOldest kind l = some (r, rest)) :
    ∃ a b, l = a ++ (kind, r) :: b ∧ rest = a ++ b ∧ ∀ e ∈ a, e.1 ≠ kind := by
  induction l generalizing rest with
  | nil => simp [takeOldest] at h
  | cons e l ih =>
    obtain ⟨k, q⟩ := e
    by_cases hk : k = kind
    · simp only [takeOldest, hk, if_true, Option.some.injEq, Prod.mk.injEq] at h
      obtain ⟨rfl, rfl⟩ := h
      exact ⟨[], l, by simp [hk], rfl, by simp⟩
    · simp only [takeOldest, hk, if_false, Option.map_eq_some_iff] at h
      obtain ⟨⟨r', rest'⟩, htake, heq⟩ := h
      obtain ⟨rfl, rfl⟩ : r' = r ∧ (k, q) :: rest' = rest := by simpa using heq
      obtain ⟨a, b, rfl, rfl, ha⟩ := ih htake
      exact ⟨(k, q) :: a, b, rfl, rfl, by simpa [hk] using ha⟩

theorem waiting_eq_nil {t : Tracker κ} {kind : Kind} :
    t.waiting kind = [] ↔ ∀ e ∈ t.queued, e.1 ≠ kind := by
  simp [waiting]

/-- A new request joins the end of its own queue. -/
theorem waiting_append (t : Tracker κ) (kind kind' : Kind) (r : Request κ) (id : ℕ) :
    waiting { t with lastId := id, queued := t.queued ++ [(kind, r)] } kind' =
      t.waiting kind' ++ if kind = kind' then [r] else [] := by
  by_cases h : kind = kind' <;> simp [waiting, h]

/-- Taking the oldest request of a kind shortens that queue and no other. -/
theorem waiting_take {t : Tracker κ} {a b : List (Kind × Request κ)} {kind : Kind} {r : Request κ}
    (hq : t.queued = a ++ (kind, r) :: b) (ha : ∀ e ∈ a, e.1 ≠ kind)
    (s : List ((Kind × ℕ) × Request κ)) (kind' : Kind) :
    t.waiting kind' =
      (if kind = kind' then [r] else []) ++ waiting { t with queued := a ++ b, sent := s } kind' := by
  have hnil : a.filter (fun e => decide (e.1 = kind)) = [] := by simpa using ha
  by_cases h : kind = kind'
  · subst h
    simp [waiting, hq, hnil]
  · simp [waiting, hq, h]

/-! ## The packets that were sent

Lists of entries with a key, such as the packets that wait for an acknowledgement. -/

section Keyed

variable {α β : Type} [BEq α] [LawfulBEq α] [DecidableEq α] {l : List (α × β)} {key key' : α} {r : β}

/-- Forgetting a packet forgets no other. -/
theorem lookup_filter_ne (h : key' ≠ key) :
    (l.filter fun e => e.1 ≠ key).lookup key' = l.lookup key' := by
  induction l with
  | nil => rfl
  | cons e l ih =>
    obtain ⟨k, r⟩ := e
    by_cases hk : k = key
    · have hne : (key' == k) = false := by simpa [hk] using h
      rw [List.filter_cons_of_neg (by simpa using hk), List.lookup_cons, hne, ih]
    · rw [List.filter_cons_of_pos (by simpa using hk), List.lookup_cons, List.lookup_cons, ih]

theorem lookup_filter_self : (l.filter fun e => e.1 ≠ key).lookup key = none := by
  rw [List.lookup_eq_none_iff]
  intro e he
  have hne : e.1 ≠ key := by simpa using (List.mem_filter.1 he).2
  simpa using hne.symm

theorem lookup_append_of_none (h : l.lookup key = none) :
    (l ++ [(key, r)]).lookup key' = if key' = key then some r else l.lookup key' := by
  rw [List.lookup_append, List.lookup_cons, List.lookup_nil]
  by_cases hk : key' = key
  · subst hk
    simp only [h, Option.none_or, BEq.rfl, if_true]
  · simp only [beq_eq_false_iff_ne.2 hk, hk, if_false, Option.or_none]

omit [DecidableEq α] in
theorem mem_of_lookup (h : l.lookup key = some r) : (key, r) ∈ l := by
  obtain ⟨a, b, rfl, -⟩ := List.lookup_eq_some_iff.1 h
  simp

omit [DecidableEq α] in
theorem exists_lookup (h : key ∈ l.map (·.1)) : ∃ r, l.lookup key = some r := by
  obtain ⟨e, he, rfl⟩ := List.mem_map.1 h
  cases hlookup : l.lookup e.1 with
  | none => simpa using List.lookup_eq_none_iff.1 hlookup e he
  | some r => exact ⟨r, rfl⟩

/-- With one entry a packet, forgetting a packet takes out just its entry. -/
theorem perm_filter_ne (hn : (l.map (·.1)).Nodup) (h : l.lookup key = some r) :
    l.Perm ((key, r) :: l.filter fun e => e.1 ≠ key) := by
  obtain ⟨a, b, rfl, hne⟩ := List.lookup_eq_some_iff.1 h
  have ha : a.filter (fun e => e.1 ≠ key) = a :=
    List.filter_eq_self.2 fun e he => by
      have : key ≠ e.1 := by simpa using hne e he
      simpa using this.symm
  have hb : b.filter (fun e => e.1 ≠ key) = b :=
    List.filter_eq_self.2 fun e he => by
      simp only [List.map_append, List.map_cons, List.nodup_append, List.nodup_cons] at hn
      have hk : key ∉ b.map (·.1) := hn.2.1.1
      have : e.1 ≠ key := fun heq => hk (heq ▸ List.mem_map_of_mem he)
      simpa using this
  rw [List.filter_append, List.filter_cons_of_neg (by simp), ha, hb]
  exact List.perm_middle

end Keyed

/-! ## The eight things -/

/-- What an operation leaves and which requests it ends. -/
inductive Effect (t : Tracker κ) : Op κ → Tracker κ → List (Outcome κ) → Prop
  | accepted (kind : Kind) (qos : Qos) (completion : κ) :
    Effect t (.submit kind qos completion true)
      { t with
        lastId := nextId t.lastId
        queued := t.queued ++ [(kind, ⟨nextId t.lastId, qos, completion⟩)] } []
  | refused (kind : Kind) (qos : Qos) (completion : κ) :
    Effect t (.submit kind qos completion false) { t with lastId := nextId t.lastId } []
  /-- The packet waits for its acknowledgement already, or nothing of its kind waits. -/
  | repeated (kind : Kind) (pkid : ℕ)
    (h : t.sent.lookup (kind, pkid) ≠ none ∨ t.waiting kind = []) :
    Effect t (.outgoing kind pkid) t []
  | finished (kind : Kind) (pkid : ℕ) (a b : List (Kind × Request κ)) (r : Request κ)
    (hnew : t.sent.lookup (kind, pkid) = none) (hq : t.queued = a ++ (kind, r) :: b)
    (ha : ∀ e ∈ a, e.1 ≠ kind) (hack : kind.awaitsAck r.qos = false) :
    Effect t (.outgoing kind pkid) { t with queued := a ++ b } [⟨r, .atMostOnce, 0⟩]
  | sent (kind : Kind) (pkid : ℕ) (a b : List (Kind × Request κ)) (r : Request κ)
    (hnew : t.sent.lookup (kind, pkid) = none) (hq : t.queued = a ++ (kind, r) :: b)
    (ha : ∀ e ∈ a, e.1 ≠ kind) (hack : kind.awaitsAck r.qos = true) :
    Effect t (.outgoing kind pkid)
      { t with queued := a ++ b, sent := t.sent ++ [((kind, pkid), r)] } []
  | stray (kind : Kind) (pkid : ℕ) (granted : Qos) (h : t.sent.lookup (kind, pkid) = none) :
    Effect t (.acknowledge kind pkid granted) t []
  | acknowledged (kind : Kind) (pkid : ℕ) (granted : Qos) (r : Request κ)
    (h : t.sent.lookup (kind, pkid) = some r) :
    Effect t (.acknowledge kind pkid granted)
      { t with sent := t.sent.filter fun e => e.1 ≠ (kind, pkid) } [⟨r, granted, 0⟩]
  | abandoned (code : ErrorCode) :
    Effect t (.abandon code) { t with queued := [], sent := [] }
      (t.outstanding.map fun r => ⟨r, .failure, code.code⟩)

theorem effect_outgoing (t : Tracker κ) (kind : Kind) (pkid : ℕ) :
    Effect t (.outgoing kind pkid) (t.apply (.outgoing kind pkid)).1
      (t.apply (.outgoing kind pkid)).2 := by
  simp only [apply, outgoing]
  split
  · exact .repeated kind pkid (.inl (Option.isSome_iff_ne_none.1 ‹_›))
  · have hnew : t.sent.lookup (kind, pkid) = none := Option.not_isSome_iff_eq_none.1 ‹¬_›
    split
    · exact .repeated kind pkid (.inr (waiting_eq_nil.2 (takeOldest_eq_none.1 ‹_›)))
    · rename_i r rest htake
      obtain ⟨a, b, hq, rfl, ha⟩ := takeOldest_eq_some htake
      split
      · exact .finished kind pkid a b r hnew hq ha (Kind.not_awaitsAck.2 ‹_›)
      · refine .sent kind pkid a b r hnew hq ha ?_
        rw [← Bool.not_eq_false, Kind.not_awaitsAck]
        exact ‹¬_›

/-- What an operation does, in eight cases. -/
theorem effect_of (t : Tracker κ) (op : Op κ) : Effect t op (t.apply op).1 (t.apply op).2 := by
  cases op with
  | submit kind qos completion accepted =>
    cases accepted
    · exact .refused kind qos completion
    · exact .accepted kind qos completion
  | outgoing kind pkid => exact effect_outgoing t kind pkid
  | acknowledge kind pkid granted =>
    simp only [apply, acknowledge]
    split
    · exact .stray kind pkid granted ‹_›
    · exact .acknowledged kind pkid granted _ ‹_›
  | abandon code => exact .abandoned code

/-- A packet that was sent takes at most the oldest request out of the queue of its kind. -/
theorem Effect.waiting_outgoing {t t' : Tracker κ} {kind : Kind} {pkid : ℕ}
    {ended : List (Outcome κ)} (h : Effect t (.outgoing kind pkid) t' ended) (k : Kind) :
    t'.waiting k = t.waiting k ∨ kind = k ∧ ∃ r, t.waiting k = r :: t'.waiting k := by
  have htake {a b : List (Kind × Request κ)} {r : Request κ} (hq : t.queued = a ++ (kind, r) :: b)
      (ha : ∀ e ∈ a, e.1 ≠ kind) (s : List ((Kind × ℕ) × Request κ)) :
      waiting { t with queued := a ++ b, sent := s } k = t.waiting k ∨
        kind = k ∧ ∃ r, t.waiting k = r :: waiting { t with queued := a ++ b, sent := s } k := by
    have hwaiting := waiting_take hq ha s k
    by_cases hk : kind = k
    · rw [if_pos hk] at hwaiting
      exact .inr ⟨hk, r, hwaiting⟩
    · rw [if_neg hk] at hwaiting
      exact .inl hwaiting.symm
  cases h with
  | repeated => exact .inl rfl
  | finished _ _ a b r _ hq ha => exact htake hq ha t.sent
  | sent _ _ a b r _ hq ha => exact htake hq ha _

end Tracker

end DeviceLink.Link
