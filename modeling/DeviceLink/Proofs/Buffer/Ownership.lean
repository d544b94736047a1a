import DeviceLink.Buffer.Pool
import Mathlib.Data.List.Induction
import Mathlib.Data.List.ReduceOption
/-!
# Who owns memory

Memory that was granted belongs to one live buffer until it is freed, and it is freed once,
whatever is done to the buffers in whatever order. What an operation does to the slots is summed
up in `Change`; the facts about runs are case analyses over it.
-/

namespace DeviceLink.Buffer

theorem length_overwrite (bytes : List UInt8) (offset : Nat) (patch : List UInt8) :
    (overwrite bytes offset patch).1.length = bytes.length := by
  simp only [overwrite, List.length_append, List.length_take, List.length_drop]
  omega

/-- Writing changes neither the size nor the owner of memory. -/
theorem write?_eq_some {b b' : Buffer} {offset count : Nat} {patch : List UInt8}
    (h : b.write? offset patch = some (b', count)) :
    b.owned = true ∧ b'.owned = true ∧ b'.size = b.size := by
  unfold write? at h
  split at h
  next howned =>
    cases h
    exact ⟨howned.1, rfl, length_overwrite ..⟩
  next => cases h

/-! ## What an operation changes -/

/-- What an operation does to the slots. -/
inductive Change
  | nothing
  /-- A buffer in a new slot. Memory it owns was granted for it. -/
  | made (b : Buffer)
  /-- The buffer of a slot in a new slot, and the empty one in its place. -/
  | moved (i : Nat) (b : Buffer)
  /-- The buffer of a slot freed, and something else or nothing left in its place. -/
  | freed (i : Nat) (b : Buffer) (left : Option Buffer)
  /-- The buffer of a slot with other bytes in it. -/
  | written (i : Nat) (b : Buffer)

/-- The slot that a change is made in, if it is not just a new one. -/
def Change.slot? : Change → Option Nat
  | nothing | made _ => none
  | moved i _ | freed i _ _ | written i _ => some i

/-- The slot that an operation takes from, frees or writes to. -/
def Op.slot? : Op → Option Nat
  | create _ | copyOf _ | borrow _ | empty | copySlot _ => none
  | take i | release i | drop i | write i _ _ => some i

/-- The size of the memory that an operation asks for. -/
def Op.wanted? (p : Pool) : Op → Option Nat
  | create size => some size
  | copyOf bytes => some bytes.length
  | copySlot i => (p.get? i).map size
  | borrow _ | empty | take _ | release _ | drop _ | write .. => none

/-- The slot that an operation makes an end of. -/
def Op.ends? : Op → Option Nat
  | release i | drop i => some i
  | create _ | copyOf _ | borrow _ | empty | take _ | copySlot _ | write .. => none

namespace Pool

/-- What an operation will change. -/
def change (grants : Grants) (p : Pool) : Op → Change
  | .create size => .made (allocated (grants size) (List.replicate size 0))
  | .copyOf bytes => .made (allocated (grants bytes.length) bytes)
  | .borrow bytes => .made (borrowed bytes)
  | .empty => .made Buffer.empty
  | .take i => (p.get? i).elim .nothing (.moved i)
  | .copySlot i =>
    (p.get? i).elim .nothing fun b => .made (allocated (grants b.bytes.length) b.bytes)
  | .release i => (p.get? i).elim .nothing fun b => .freed i b (some Buffer.empty)
  | .drop i => (p.get? i).elim .nothing fun b => .freed i b none
  | .write i offset patch =>
    ((p.get? i).bind (·.write? offset patch)).elim .nothing fun written => .written i written.1

/-- The pool after a change. -/
def apply (p : Pool) : Change → Pool
  | .nothing => p
  | .made b => { p.add b with granted := p.granted + b.owned.toNat }
  | .moved i b => (p.put i (some Buffer.empty)).add b
  | .freed i b left => (p.free b).put i left
  | .written i b => p.put i (some b)

/-- What holds of a change in the pool it is made in. -/
inductive Fits (p : Pool) : Change → Prop
  | nothing : Fits p .nothing
  | made {b : Buffer} (hfull : b.owned = true → b.bytes ≠ []) : Fits p (.made b)
  | moved {i : Nat} {b : Buffer} (h : p.get? i = some b) : Fits p (.moved i b)
  | freed {i : Nat} {b : Buffer} {left : Option Buffer} (h : p.get? i = some b)
      (hleft : left = none ∨ left = some Buffer.empty) : Fits p (.freed i b left)
  | written {i : Nat} {b b' : Buffer} (h : p.get? i = some b) (howned : b.owned = true)
      (howned' : b'.owned = true) (hsize : b'.size = b.size) : Fits p (.written i b')

variable (p : Pool) (grants : Grants) (op : Op)

theorem step_eq : (p.step grants op).1 = p.apply (p.change grants op) := by
  cases op with
  | create size =>
    by_cases h : grants size = true
    · simp [step, create, change, apply, allocate, h]
    · simp [step, create, change, apply, allocated, Buffer.empty, h]
      rfl
  | copyOf bytes | borrow bytes | empty => rfl
  | take i | copySlot i | release i | drop i =>
    cases h : p.get? i <;> simp [step, change, apply, allocate, h]
  | write i offset patch =>
    cases h : p.get? i with
    | none => simp [step, change, apply, h]
    | some b => cases hwrite : b.write? offset patch <;> simp [step, change, apply, h, hwrite]

variable {p} in
theorem fits_elim {α : Type} {x : Option α} {f : α → Change}
    (h : ∀ a, x = some a → p.Fits (f a)) : p.Fits (x.elim .nothing f) := by
  cases x with
  | none => exact .nothing
  | some a => exact h a rfl

theorem fits_allocated (granted : Bool) (bytes : List UInt8) :
    p.Fits (.made (allocated granted bytes)) := by
  refine .made fun howned => ?_
  unfold allocated at howned ⊢
  split at howned
  next h =>
    rw [if_pos h]
    exact h.2
  next => cases howned

theorem change_fits : p.Fits (p.change grants op) := by
  cases op with
  | create size | copyOf bytes => exact fits_allocated ..
  | borrow bytes | empty => exact .made nofun
  | take i => exact fits_elim fun b h => .moved h
  | copySlot i => exact fits_elim fun b h => fits_allocated ..
  | release i => exact fits_elim fun b h => .freed h (.inr rfl)
  | drop i => exact fits_elim fun b h => .freed h (.inl rfl)
  | write i offset patch =>
    refine fits_elim fun written h => ?_
    obtain ⟨b, hlive, hwrite⟩ := Option.bind_eq_some_iff.1 h
    obtain ⟨howned, howned', hsize⟩ := write?_eq_some hwrite
    exact .written hlive howned howned' hsize

/-- An operation changes no slot but its own. -/
theorem slot?_of_change {i : Nat} (h : (p.change grants op).slot? = some i) :
    op.slot? = some i := by
  have elim {α : Type} {x : Option α} {f : α → Change} (h : (x.elim .nothing f).slot? = some i) :
      ∃ a, (f a).slot? = some i := by
    cases x with
    | none => cases h
    | some a => exact ⟨a, h⟩
  cases op with
  | create size | copyOf bytes | borrow bytes | empty => cases h
  | take j | release j | drop j | write j offset patch => exact (elim h).choose_spec
  | copySlot j => cases (elim h).choose_spec

/-! ## Slots after a change -/

section Slots

variable {p : Pool} {c : Change} {i : Nat}

theorem lt_of_get? {b : Buffer} (h : p.get? i = some b) : i < p.slots.length := by
  by_contra hge
  rw [get?, List.getElem?_eq_none (Nat.le_of_not_lt hge)] at h
  cases h

theorem getElem?_of_get? {b : Buffer} (h : p.get? i = some b) : p.slots[i]? = some (some b) := by
  rwa [get?, Option.join_eq_some_iff] at h

@[simp] theorem get?_add_length (b : Buffer) : (p.add b).get? p.slots.length = some b := by
  simp [get?, add]

theorem get?_add (b : Buffer) (h : i < p.slots.length) : (p.add b).get? i = p.get? i := by
  rw [get?, get?, add, List.getElem?_append_left h]

theorem get?_put (x : Option Buffer) (h : i < p.slots.length) : (p.put i x).get? i = x := by
  simp [get?, put, h]

theorem get?_freed {b : Buffer} (left : Option Buffer) (h : p.get? i = some b) :
    ((p.free b).put i left).get? i = left :=
  get?_put (p := p.free b) left (lt_of_get? h)

@[simp] theorem length_put (x : Option Buffer) : (p.put i x).slots.length = p.slots.length :=
  List.length_set

theorem length_le_apply (p : Pool) (c : Change) : p.slots.length ≤ (p.apply c).slots.length := by
  cases c <;> simp [apply, add, put, free]

/-- A change leaves every other slot as it is. -/
theorem apply_other (hi : i < p.slots.length) (h : c.slot? ≠ some i) :
    (p.apply c).slots[i]? = p.slots[i]? := by
  cases c with
  | nothing => rfl
  | made b => exact List.getElem?_append_left hi
  | moved j b =>
    have hne : j ≠ i := fun heq => h (congrArg some heq)
    simp [apply, add, put, List.getElem?_append_left, hi, hne]
  | freed j b left | written j b =>
    have hne : j ≠ i := fun heq => h (congrArg some heq)
    simp [apply, put, free, hne]

/-- Whether a slot holds a buffer that owns memory. -/
def owns (p : Pool) (i : Nat) : Bool := (p.get? i).any Buffer.owned

/-- A slot that owns nothing will not. -/
theorem owns_apply (hi : i < p.slots.length) (hfits : p.Fits c) (h : p.owns i = false) :
    (p.apply c).owns i = false := by
  by_cases hslot : c.slot? = some i
  · cases hfits with
    | nothing | made => cases hslot
    | moved =>
      cases hslot
      have hlt : i < (p.put i (some Buffer.empty)).slots.length := by rwa [length_put]
      rw [owns, apply, get?_add _ hlt, get?_put _ hi]
      rfl
    | freed hlive hleft =>
      cases hslot
      rw [owns, apply, get?_freed _ hlive]
      rcases hleft with rfl | rfl <;> rfl
    | written hlive howned =>
      cases hslot
      rw [owns, hlive, Option.any_some, howned] at h
      cases h
  · rwa [owns, get?, apply_other hi hslot]

end Slots

end Pool

/-! ## Which memory a buffer owns -/

/-- A pool with the memory that its buffers own told apart: what was granted first is number 0. -/
structure Traced where
  pool : Pool := {}
  /-- The memory that each slot's buffer owns. -/
  memory : List (Option Nat) := []
  /-- The memory that was freed, in order. -/
  freed : List Nat := []

namespace Traced

/-- The memory of a slot. -/
def memory? (t : Traced) (i : Nat) : Option Nat := t.memory[i]?.join

/-- Memory goes where its buffer goes. -/
def apply (t : Traced) (c : Change) : Traced :=
  let pool := t.pool.apply c
  match c with
  | .nothing | .written _ _ => { t with pool }
  | .made b =>
    { t with pool, memory := t.memory ++ [if b.owned then some t.pool.granted else none] }
  | .moved i _ => { t with pool, memory := t.memory.set i none ++ [t.memory? i] }
  | .freed i _ _ =>
    { pool, memory := t.memory.set i none, freed := t.freed ++ (t.memory? i).toList }

@[simp] theorem pool_apply (t : Traced) (c : Change) : (t.apply c).pool = t.pool.apply c := by
  cases c <;> rfl

/-- Which slots own memory, what became of all memory granted, and that owned memory is not of
size 0. -/
structure Sound (t : Traced) : Prop where
  slots : t.memory.map Option.isSome = t.pool.slots.map (Option.any Buffer.owned)
  once : (t.freed ++ t.memory.reduceOption).Perm (List.range t.pool.granted)
  freed : t.freed.length = t.pool.freed
  full : ∀ b, some b ∈ t.pool.slots → b.owned = true → b.bytes ≠ []

/-- Memory taken out of a slot is all that is missing. -/
theorem reduceOption_set_none (memory : List (Option Nat)) (i : Nat) :
    (memory[i]?.join.toList ++ (memory.set i none).reduceOption).Perm memory.reduceOption := by
  induction memory generalizing i with
  | nil => simp
  | cons m memory ih =>
    cases i with
    | zero => cases m <;> simp
    | succ i =>
      rw [List.getElem?_cons_succ, List.set_cons_succ]
      cases m with
      | none => simpa using ih i
      | some m =>
        simp only [List.reduceOption_cons_of_some]
        exact List.perm_middle.trans ((ih i).cons m)

namespace Sound

variable {t : Traced} {c : Change} {i : Nat} {b : Buffer}

theorem isSome_memory? (h : t.Sound) (i : Nat) : (t.memory? i).isSome = t.pool.owns i := by
  have hi : (t.memory[i]?).map Option.isSome = (t.pool.slots[i]?).map (Option.any owned) := by
    rw [← List.getElem?_map, ← List.getElem?_map, h.slots]
  rw [memory?, Pool.owns, Pool.get?]
  cases hm : t.memory[i]? <;> cases hs : t.pool.slots[i]? <;> simp_all

/-- What is left in a slot owns nothing, and no memory is left in its place. -/
theorem slots_set (h : t.Sound) {left : Option Buffer} (hleft : left.any Buffer.owned = false) :
    (t.memory.set i none).map Option.isSome =
      (t.pool.slots.set i left).map (Option.any Buffer.owned) := by
  rw [List.map_set, List.map_set, h.slots, hleft, Option.isSome_none]

theorem full_set (h : t.Sound) {left : Option Buffer}
    (hleft : ∀ b, left = some b → b.owned = true → b.bytes ≠ []) :
    ∀ b, some b ∈ t.pool.slots.set i left → b.owned = true → b.bytes ≠ [] := by
  intro b hb
  rcases List.mem_or_eq_of_mem_set hb with hb | hb
  · exact h.full b hb
  · exact hleft b hb.symm

theorem made (h : t.Sound) (hfull : b.owned = true → b.bytes ≠ []) : (t.apply (.made b)).Sound where
  slots := by
    simp only [apply, Pool.apply, Pool.add, List.map_append, h.slots]
    cases howned : b.owned <;> simp [howned]
  once := by
    cases howned : b.owned with
    | false => simpa [apply, Pool.apply, Pool.add, howned, List.reduceOption_append] using h.once
    | true =>
      simp only [apply, Pool.apply, Pool.add, howned, List.reduceOption_append, Bool.toNat_true,
        List.range_succ, ← List.append_assoc]
      exact h.once.append_right _
  freed := h.freed
  full b' hb' := by
    rcases List.mem_append.1 hb' with hb' | hb'
    · exact h.full b' hb'
    · cases List.mem_singleton.1 hb'
      exact hfull

theorem moved (h : t.Sound) (hlive : t.pool.get? i = some b) : (t.apply (.moved i b)).Sound where
  slots := by
    have hmoved : (t.memory? i).isSome = b.owned := by
      rw [h.isSome_memory?, Pool.owns, hlive, Option.any_some]
    have hleft := h.slots_set (i := i) (show (some Buffer.empty).any Buffer.owned = false from rfl)
    simp only [apply, Pool.apply, Pool.add, Pool.put, List.map_append, hleft, List.map_cons,
      List.map_nil, hmoved, Option.any_some]
  once := by
    have hmoved : (t.memory.set i none ++ [t.memory? i]).reduceOption.Perm
        t.memory.reduceOption := by
      rw [List.reduceOption_append, List.reduceOption_singleton]
      exact List.perm_append_comm.trans (reduceOption_set_none t.memory i)
    exact (hmoved.append_left t.freed).trans h.once
  freed := h.freed
  full b' hb' := by
    rcases List.mem_append.1 hb' with hb' | hb'
    · exact h.full_set (by rintro _ ⟨⟩ ⟨⟩) b' hb'
    · cases List.mem_singleton.1 hb'
      exact h.full b (List.mem_of_getElem? (Pool.getElem?_of_get? hlive))

theorem ended (h : t.Sound) (hlive : t.pool.get? i = some b) {left : Option Buffer}
    (hleft : left = none ∨ left = some Buffer.empty) : (t.apply (.freed i b left)).Sound where
  slots := h.slots_set (by rcases hleft with rfl | rfl <;> rfl)
  once := by
    simp only [apply, List.append_assoc]
    exact ((reduceOption_set_none t.memory i).append_left t.freed).trans h.once
  freed := by
    have hcount : (t.memory? i).toList.length = b.owned.toNat := by
      have howned : (t.memory? i).isSome = b.owned := by
        rw [h.isSome_memory?, Pool.owns, hlive, Option.any_some]
      rw [← howned]
      cases t.memory? i <;> rfl
    simp only [apply, List.length_append, h.freed, hcount]
    rfl
  full := h.full_set (by rcases hleft with rfl | rfl <;> rintro _ ⟨⟩ ⟨⟩)

theorem written (h : t.Sound) {b' : Buffer} (hlive : t.pool.get? i = some b)
    (howned : b.owned = true) (howned' : b'.owned = true) (hsize : b'.size = b.size) :
    (t.apply (.written i b')).Sound where
  slots := by
    have hslot : (t.pool.slots.map (Option.any Buffer.owned))[i]? = some true := by
      rw [List.getElem?_map, Pool.getElem?_of_get? hlive, Option.map_some, Option.any_some, howned]
    obtain ⟨hlt, heq⟩ := List.getElem?_eq_some_iff.1 hslot
    -- The slot owned memory before, so putting an owner there changes nothing.
    have hsame := List.set_getElem_self hlt
    rw [heq] at hsame
    simp only [apply, Pool.apply, Pool.put, List.map_set, Option.any_some, howned', h.slots, hsame]
  once := h.once
  freed := h.freed
  full := h.full_set fun _ heq _ hempty => by
    cases heq
    have hfull := h.full b (List.mem_of_getElem? (Pool.getElem?_of_get? hlive)) howned
    rw [size, size, hempty, List.length_nil] at hsize
    exact hfull (List.eq_nil_of_length_eq_zero hsize.symm)

theorem apply (h : t.Sound) (hfits : t.pool.Fits c) : (t.apply c).Sound := by
  cases hfits with
  | nothing => exact h
  | made hfull => exact h.made hfull
  | moved hlive => exact h.moved hlive
  | freed hlive hleft => exact h.ended hlive hleft
  | written hlive howned howned' hsize => exact h.written hlive howned howned' hsize

end Sound

/-- What a trace says about the account of its pool. -/
structure Accounts (t : Traced) : Prop where
  /-- Just the buffers that own memory have some. -/
  owned : ∀ i, (t.memory? i).isSome = t.pool.owns i
  /-- All memory granted was freed once or belongs to one buffer, and no other memory occurs. -/
  once : ∀ m, t.freed.count m + t.memory.count (some m) = if m < t.pool.granted then 1 else 0
  freed : t.freed.length = t.pool.freed
  balance : t.pool.granted = t.pool.freed + t.pool.slots.countP (Option.any Buffer.owned)

theorem Sound.accounts {t : Traced} (h : t.Sound) : t.Accounts where
  owned := h.isSome_memory?
  once m := by
    have hmemory : t.memory.reduceOption.count m = t.memory.count (some m) := List.count_filterMap
    rw [← hmemory, ← List.count_append, h.once.count_eq, List.nodup_range.count]
    simp only [List.mem_range]
  freed := h.freed
  balance := by
    have howners : t.memory.reduceOption.length =
        t.pool.slots.countP (Option.any Buffer.owned) := by
      rw [List.reduceOption_length_eq, ← List.countP_eq_length_filter]
      simpa [List.countP_map] using congrArg (List.countP id) h.slots
    rw [← h.freed, ← howners, ← List.length_append, h.once.length_eq, List.length_range]

end Traced

/-! ## Runs -/

/-- The pool after operations in a row, each with its own rule for what memory is granted. -/
def Pool.after (steps : List (Grants × Op)) : Pool :=
  steps.foldl (fun p s => (p.step s.1 s.2).1) {}

/-- A run in which one rule says what memory is granted. -/
theorem Pool.run_eq_after (grants : Grants) (ops : List Op) :
    run grants {} ops = after (ops.map (grants, ·)) := by
  rw [run, after, List.foldl_map]

/-- The trace of operations in a row. -/
def Traced.after (steps : List (Grants × Op)) : Traced :=
  steps.foldl (fun t s => t.apply (t.pool.change s.1 s.2)) {}

/-- Whether a slot was released or dropped at some time after it was made. -/
def Ended (steps : List (Grants × Op)) (i : Nat) : Prop :=
  ∃ k < steps.length, i < (Pool.after (steps.take k)).slots.length ∧
    (steps[k]?.bind (·.2.ends?)) = some i

instance (steps : List (Grants × Op)) (i : Nat) : Decidable (Ended steps i) :=
  inferInstanceAs (Decidable (∃ k < steps.length, _ ∧ _))

theorem Pool.after_snoc (steps : List (Grants × Op)) (s : Grants × Op) :
    Pool.after (steps ++ [s]) = (Pool.after steps).apply ((Pool.after steps).change s.1 s.2) := by
  rw [after, List.foldl_append, ← step_eq]
  rfl

theorem Traced.after_snoc (steps : List (Grants × Op)) (s : Grants × Op) :
    after (steps ++ [s]) = (after steps).apply ((after steps).pool.change s.1 s.2) := by
  rw [after, List.foldl_append]
  rfl

theorem Traced.pool_after (steps : List (Grants × Op)) : (after steps).pool = Pool.after steps := by
  induction steps using List.reverseRecOn with
  | nil => rfl
  | append_singleton steps s ih => rw [after_snoc, pool_apply, ih, Pool.after_snoc]

theorem Traced.sound_after (steps : List (Grants × Op)) : (after steps).Sound := by
  induction steps using List.reverseRecOn with
  | nil => exact ⟨rfl, .refl _, rfl, nofun⟩
  | append_singleton steps s ih =>
    rw [after_snoc]
    exact ih.apply (Pool.change_fits ..)

/-- A slot that owned nothing at some time of a run owns nothing at its end. -/
theorem Pool.owns_after (before rest : List (Grants × Op)) {i : Nat}
    (hi : i < (after before).slots.length) (h : (after before).owns i = false) :
    i < (after (before ++ rest)).slots.length ∧ (after (before ++ rest)).owns i = false := by
  induction rest using List.reverseRecOn with
  | nil => rw [List.append_nil]; exact ⟨hi, h⟩
  | append_singleton rest s ih =>
    rw [← List.append_assoc, after_snoc]
    exact ⟨Nat.lt_of_lt_of_le ih.1 (length_le_apply ..), owns_apply ih.1 (change_fits ..) ih.2⟩

/-- The operation that makes an end of a slot leaves it owning nothing. -/
theorem Pool.owns_ends (p : Pool) (grants : Grants) {op : Op} {i : Nat} (h : op.ends? = some i) :
    (p.apply (p.change grants op)).owns i = false := by
  cases op with
  | release j | drop j =>
    cases h
    cases hlive : p.get? i with
    | none => simp [change, apply, owns, hlive]
    | some b =>
      simp only [change, hlive, Option.elim_some, apply]
      rw [owns, get?_freed _ hlive]
      rfl
  | create | copyOf | borrow | empty | take | copySlot | write => cases h

theorem Ended.owns {steps : List (Grants × Op)} {i : Nat} (h : Ended steps i) :
    (Pool.after steps).owns i = false := by
  obtain ⟨k, hk, hi, hends⟩ := h
  -- Cut at the operation that ends the slot: nothing after it gives the slot memory again.
  have hsplit : steps = steps.take k ++ [steps[k]] ++ steps.drop (k + 1) := by
    rw [List.append_assoc, List.singleton_append, ← List.drop_eq_getElem_cons hk,
      List.take_append_drop]
  rw [List.getElem?_eq_getElem hk, Option.bind_some] at hends
  rw [hsplit]
  refine (Pool.owns_after (steps.take k ++ [steps[k]]) _ ?_ ?_).2
  · rw [Pool.after_snoc]
    exact Nat.lt_of_lt_of_le hi (Pool.length_le_apply ..)
  · rw [Pool.after_snoc]
    exact Pool.owns_ends _ _ hends

/-! ## Single operations -/

/-- What each operation does in a pool, where memory is granted by a rule. -/
structure Pool.Lawful (grants : Grants) (p : Pool) : Prop where
  create : ∀ size,
    (p.step grants (.create size)).2 = .slot p.slots.length ∧
    (p.step grants (.create size)).1.get? p.slots.length =
      some (if size ≠ 0 ∧ grants size then ⟨List.replicate size 0, true⟩ else .empty)
  copyOf : ∀ bytes,
    (p.step grants (.copyOf bytes)).2 = .slot p.slots.length ∧
    (p.step grants (.copyOf bytes)).1.get? p.slots.length =
      some (if bytes ≠ [] ∧ grants bytes.length then ⟨bytes, true⟩ else .empty)
  copySlot : ∀ i b, p.get? i = some b →
    (p.step grants (.copySlot i)).2 = .slot p.slots.length ∧
    (p.step grants (.copySlot i)).1.get? p.slots.length =
      some (if b.bytes ≠ [] ∧ grants b.size then ⟨b.bytes, true⟩ else .empty)
  borrow : ∀ bytes,
    (p.step grants (.borrow bytes)).2 = .slot p.slots.length ∧
    (p.step grants (.borrow bytes)).1.get? p.slots.length = some ⟨bytes, false⟩
  empty :
    (p.step grants .empty).2 = .slot p.slots.length ∧
    (p.step grants .empty).1.get? p.slots.length = some .empty
  take : ∀ i b, p.get? i = some b →
    (p.step grants (.take i)).2 = .slot p.slots.length ∧
    (p.step grants (.take i)).1.get? p.slots.length = some b ∧
    (p.step grants (.take i)).1.get? i = some .empty
  release : ∀ i b, p.get? i = some b → (p.step grants (.release i)).1.get? i = some .empty
  /-- A second release changes nothing, the account included. -/
  released : ∀ i, ((p.step grants (.release i)).1.step grants (.release i)).1 =
    (p.step grants (.release i)).1
  drop : ∀ i, (p.step grants (.drop i)).1.get? i = none
  gone : ∀ op i, op.slot? = some i ∨ op = .copySlot i → p.get? i = none →
    p.step grants op = (p, .noSlot)
  /-- No operation touches another buffer. -/
  others : ∀ op i, i < p.slots.length → op.slot? ≠ some i →
    (p.step grants op).1.slots[i]? = p.slots[i]?
  granted : ∀ op, (p.step grants op).1.granted =
    p.granted + ((op.wanted? p).any fun size => size ≠ 0 && grants size).toNat
  freed : ∀ op, (p.step grants op).1.freed = p.freed + ((op.ends?).any p.owns).toNat

namespace Pool

variable (p : Pool) (grants : Grants)

theorem allocated_eq (granted : Bool) (bytes : List UInt8) :
    allocated granted bytes =
      if bytes ≠ [] ∧ granted = true then ⟨bytes, true⟩ else Buffer.empty := by
  simp only [allocated, and_comm]

theorem get?_made (b : Buffer) : (p.apply (.made b)).get? p.slots.length = some b :=
  get?_add_length b

/-- An operation grants memory if it asks for some that the rule grants. -/
theorem granted_step (op : Op) : (p.step grants op).1.granted =
    p.granted + ((op.wanted? p).any fun size => size ≠ 0 && grants size).toNat := by
  have howned (granted : Bool) (bytes : List UInt8) :
      (allocated granted bytes).owned = (bytes.length ≠ 0 && granted) := by
    cases granted <;> cases bytes <;> rfl
  rw [step_eq]
  cases op with
  | create size | copyOf bytes => simp [change, apply, howned, Op.wanted?]
  | borrow bytes | empty => rfl
  | copySlot i => cases hlive : p.get? i <;> simp [change, apply, howned, Op.wanted?, hlive, size]
  | take i | release i | drop i =>
    cases hlive : p.get? i <;> simp [change, apply, Op.wanted?, hlive, add, put, free]
  | write i offset patch =>
    cases hwrite : (p.get? i).bind (·.write? offset patch) <;>
      simp [change, apply, Op.wanted?, hwrite, put]

/-- An operation frees what the buffer owns that it makes an end of. -/
theorem freed_step (op : Op) :
    (p.step grants op).1.freed = p.freed + ((op.ends?).any p.owns).toNat := by
  rw [step_eq]
  cases op with
  | create | copyOf | borrow | empty => rfl
  | take i | copySlot i =>
    cases hlive : p.get? i <;> simp [change, apply, Op.ends?, hlive, add, put]
  | release i | drop i =>
    cases hlive : p.get? i <;> simp [change, apply, Op.ends?, hlive, owns, put, free]
  | write i offset patch =>
    cases hwrite : (p.get? i).bind (·.write? offset patch) <;>
      simp [change, apply, Op.ends?, hwrite, put]

theorem lawful : p.Lawful grants where
  create size := by
    refine ⟨rfl, ?_⟩
    rw [step_eq, change, get?_made, allocated_eq]
    simp
  copyOf bytes := by
    refine ⟨rfl, ?_⟩
    rw [step_eq, change, get?_made, allocated_eq]
  copySlot i b hlive := by
    refine ⟨by simp only [step, hlive], ?_⟩
    rw [step_eq, change, hlive, Option.elim_some, get?_made, allocated_eq, size]
  borrow bytes := by
    refine ⟨rfl, ?_⟩
    rw [step_eq, change, get?_made, borrowed]
  empty := by
    refine ⟨rfl, ?_⟩
    rw [step_eq, change, get?_made]
  take i b hlive := by
    have hi := lt_of_get? hlive
    refine ⟨by simp only [step, hlive], ?_, ?_⟩
    · simp only [step, hlive]
      rw [← length_put (p := p) (i := i), get?_add_length]
    · simp only [step, hlive]
      rw [get?_add _ (by rwa [length_put]), get?_put _ hi]
  release i b hlive := by
    simp only [step, hlive]
    exact get?_freed _ hlive
  released i := by
    cases hlive : p.get? i with
    | none => simp only [step, hlive]
    | some b =>
      simp only [step, hlive, get?_freed _ hlive]
      simp [put, free, Buffer.empty]
  drop i := by
    cases hlive : p.get? i with
    | none => simp only [step, hlive]
    | some b =>
      simp only [step, hlive]
      exact get?_freed _ hlive
  gone op i hslot hgone := by
    rcases hslot with hslot | rfl
    · cases op with
      | create | copyOf | borrow | empty | copySlot => cases hslot
      | take j | release j | drop j | write j =>
        cases hslot
        simp only [step, hgone]
    · simp only [step, hgone]
  others op i hi hslot := by
    rw [step_eq]
    exact apply_other hi fun hchange => hslot (slot?_of_change p grants op hchange)
  granted := p.granted_step grants
  freed := p.freed_step grants

end Pool

/-! ## The account of a run -/

/-- Whatever is done to buffers and whichever requests for memory are granted, all memory that was
granted was freed once or belongs to just one live buffer, which is not of size 0; once every
buffer was released or dropped, all of it was freed. -/
theorem memory_freed_once (steps : List (Grants × Op)) :
    let p := Pool.after steps
    let t := Traced.after steps
    t.pool = p ∧ t.Accounts ∧
    ((∀ i < p.slots.length, Ended steps i) →
      p.granted = p.freed ∧ ∀ m < p.granted, t.freed.count m = 1) ∧
    (∀ i b, p.get? i = some b → (b.owned = true → 0 < b.size) ∧ (b.isEmpty = true ↔ b.size = 0)) ∧
    ∀ grants, p.Lawful grants := by
  intro p t
  have hpool : t.pool = p := Traced.pool_after steps
  have hsound : t.Sound := Traced.sound_after steps
  have haccounts := hsound.accounts
  refine ⟨hpool, haccounts, fun hended => ?_, fun i b hlive => ⟨fun howned => ?_, ?_⟩, p.lawful⟩
  · have hnone : ∀ i, p.owns i = false := by
      intro i
      by_cases hi : i < p.slots.length
      · exact (hended i hi).owns
      · rw [Pool.owns, Pool.get?, List.getElem?_eq_none (Nat.le_of_not_lt hi)]
        rfl
    constructor
    · have howners : p.slots.countP (Option.any owned) = 0 := by
        refine List.countP_eq_zero.2 fun x hx => ?_
        obtain ⟨i, hi⟩ := List.mem_iff_getElem?.1 hx
        have howns := hnone i
        rw [Pool.owns, Pool.get?, hi, Option.join_some] at howns
        rw [howns]
        exact Bool.false_ne_true
      have hbalance := haccounts.balance
      rwa [hpool, howners, Nat.add_zero] at hbalance
    · intro m hm
      have hmemory : t.memory.count (some m) = 0 := by
        refine List.count_eq_zero.2 fun hmem => ?_
        obtain ⟨i, hi⟩ := List.mem_iff_getElem?.1 hmem
        have howned := haccounts.owned i
        rw [hpool, hnone i, Traced.memory?, hi] at howned
        cases howned
      have honce := haccounts.once m
      rwa [hmemory, Nat.add_zero, hpool, if_pos hm] at honce
  · have hmem := List.mem_of_getElem? (Pool.getElem?_of_get? hlive)
    exact List.length_pos_iff.2 (hsound.full b (hpool ▸ hmem) howned)
  · rw [isEmpty, size, List.isEmpty_iff, List.length_eq_zero_iff]

/-- Memory that went to another buffer is freed with that one. A request that was refused and a
view add nothing to the account. -/
theorem memory_freed_once_moved :
    let granting : Grants := fun _ => true
    let refusing : Grants := fun _ => false
    let steps : List (Grants × Op) := [(granting, .create 2), (granting, .take 0),
      (refusing, .copyOf [1, 2, 3]), (granting, .borrow [7]), (granting, .release 0),
      (granting, .drop 1), (granting, .release 2), (granting, .drop 3), (granting, .release 2)]
    (∀ i < (Pool.after steps).slots.length, Ended steps i) ∧
    (Pool.after steps).granted = 1 ∧ (Pool.after steps).freed = 1 ∧
    (Traced.after steps).freed.count 0 = 1 := by
  intro granting refusing steps
  have hended : ∀ i < (Pool.after steps).slots.length, Ended steps i := by decide
  have hgranted : (Pool.after steps).granted = 1 := by decide +kernel
  obtain ⟨-, -, hall, -, -⟩ := memory_freed_once steps
  obtain ⟨hbalance, honce⟩ := hall hended
  have hlt : 0 < (Pool.after steps).granted := by
    rw [hgranted]
    exact Nat.one_pos
  exact ⟨hended, hgranted, hbalance.symm.trans hgranted, honce 0 hlt⟩

end DeviceLink.Buffer
