import DeviceLink.Json.Reader
import DeviceLink.Json.Writer
import Mathlib.Data.List.TakeWhile
/-!
# Numbers come back from their digits

The reader of a number stops where the number stops, so it reads what stands in a longer text as
it reads it alone. An integer that 64 bits hold reads back from its digits.
-/

namespace DeviceLink.Json

/-! ## The exponent -/

/-- The digits of an exponent after its mark and sign. -/
def readPower (negative : Bool) (cs : List Char) : Option (Option Int × List Char) :=
  match readDigits cs with
  | ([], _) => none
  | (digits, rest) =>
    some (some (if negative then -(digitsValue digits : Int) else digitsValue digits), rest)

section Mark

variable {c : Char} (h : c = 'e' ∨ c = 'E')
include h

theorem readExponent_minus (cs : List Char) : readExponent (c :: '-' :: cs) = readPower true cs :=
  if_pos h

theorem readExponent_plus (cs : List Char) : readExponent (c :: '+' :: cs) = readPower false cs :=
  if_pos h

theorem readExponent_end : readExponent [c] = none := if_pos h

theorem readExponent_unsigned {d : Char} (hminus : d ≠ '-') (hplus : d ≠ '+') (cs : List Char) :
    readExponent (c :: d :: cs) = readPower false (d :: cs) := by
  rw [readExponent, if_pos h]
  · rfl
  · exact fun _ heq => hminus (List.cons.inj heq).1
  · exact fun _ heq => hplus (List.cons.inj heq).1

end Mark

/-! ## The sign -/

/-- A number after its sign. -/
def readUnsigned (negative : Bool) (cs : List Char) : Option (Value × List Char) := do
  let (whole, cs) ← readWhole cs
  let (fraction, cs) ← readFraction cs
  let (power, cs) ← readExponent cs
  let v ← ofDigits negative whole fraction power
  pure (v, cs)

theorem readNumber_minus (cs : List Char) : readNumber ('-' :: cs) = readUnsigned true cs := rfl

theorem readNumber_unsigned {c : Char} (h : c ≠ '-') (cs : List Char) :
    readNumber (c :: cs) = readUnsigned false (c :: cs) := by
  rw [readNumber]
  · rfl
  · exact fun _ heq => h (List.cons.inj heq).1

/-- A number starts with its sign or with a digit. -/
theorem head_of_readNumber {cs rest : List Char} {v : Value}
    (h : readNumber cs = some (v, rest)) :
    ∃ c cs', cs = c :: cs' ∧ (c = '-' ∨ c.isDigit = true) := by
  rcases cs with _ | ⟨c, cs⟩
  · cases h
  refine ⟨c, cs, rfl, ?_⟩
  by_cases hminus : c = '-'
  · exact .inl hminus
  cases hdigit : c.isDigit with
  | true => exact .inr rfl
  | false =>
    have hnone : readWhole (c :: cs) = none := by simp [readWhole, readDigits, hdigit]
    rw [readNumber_unsigned hminus, readUnsigned, hnone] at h
    cases h

/-! ## Where a number stops -/

/-- The text after a value: nothing, or what separates and closes. -/
def Follows (rest : List Char) : Prop :=
  rest = [] ∨ ∃ c rest', rest = c :: rest' ∧ (c = ',' ∨ c = ']' ∨ c = '\x7d')

theorem Follows.cons {c : Char} (h : c = ',' ∨ c = ']' ∨ c = '\x7d') (rest : List Char) :
    Follows (c :: rest) :=
  .inr ⟨c, rest, rfl, h⟩

theorem Follows.nil : Follows [] := .inl rfl

section Follows

variable {rest : List Char} (h : Follows rest)
include h

theorem readDigits_append (cs : List Char) :
    readDigits (cs ++ rest) = ((readDigits cs).1, (readDigits cs).2 ++ rest) := by
  induction cs with
  | nil => obtain rfl | ⟨c, rest', rfl, rfl | rfl | rfl⟩ := h <;> rfl
  | cons c cs ih =>
    simp only [readDigits, Prod.mk.injEq] at ih ⊢
    by_cases hc : c.isDigit = true
    · simp [hc, ih]
    · simp [hc]

theorem readWhole_append (cs : List Char) :
    readWhole (cs ++ rest) = (readWhole cs).map fun (ds, left) => (ds, left ++ rest) := by
  rw [readWhole, readDigits_append h, readWhole]
  rcases readDigits cs with ⟨_ | ⟨d, _ | ⟨e, ds⟩⟩, left⟩
  · rfl
  · by_cases hd : d = '0'
    · subst hd
      rfl
    · simp
  · by_cases hd : d = '0'
    · subst hd
      rfl
    · simp [hd]

theorem readFraction_append (cs : List Char) :
    readFraction (cs ++ rest) = (readFraction cs).map fun (ds, left) => (ds, left ++ rest) := by
  cases cs with
  | nil => obtain rfl | ⟨c, rest', rfl, rfl | rfl | rfl⟩ := h <;> rfl
  | cons c cs =>
    by_cases hc : c = '.'
    · subst hc
      simp only [List.cons_append, readFraction, readDigits_append h]
      rcases readDigits cs with ⟨_ | ⟨d, ds⟩, left⟩ <;> rfl
    · simp [readFraction, hc]

theorem readPower_append (negative : Bool) (cs : List Char) :
    readPower negative (cs ++ rest) =
      (readPower negative cs).map fun (power, left) => (power, left ++ rest) := by
  rw [readPower, readDigits_append h, readPower]
  rcases readDigits cs with ⟨_ | ⟨d, ds⟩, left⟩ <;> rfl

theorem readExponent_append (cs : List Char) :
    readExponent (cs ++ rest) = (readExponent cs).map fun (power, left) => (power, left ++ rest) := by
  rcases cs with _ | ⟨c, cs⟩
  · obtain rfl | ⟨c, rest', rfl, rfl | rfl | rfl⟩ := h <;> rfl
  by_cases hc : c = 'e' ∨ c = 'E'
  · rcases cs with _ | ⟨d, cs⟩
    · rw [readExponent_end hc]
      obtain rfl | ⟨c', rest', rfl, rfl | rfl | rfl⟩ := h <;> exact if_pos hc
    · simp only [List.cons_append]
      by_cases hminus : d = '-'
      · rw [hminus, readExponent_minus hc, readExponent_minus hc, readPower_append h]
      by_cases hplus : d = '+'
      · rw [hplus, readExponent_plus hc, readExponent_plus hc, readPower_append h]
      · rw [readExponent_unsigned hc hminus hplus, readExponent_unsigned hc hminus hplus,
          ← List.cons_append, readPower_append h]
  · simp only [List.cons_append, readExponent, if_neg hc, Option.map_some]

theorem readUnsigned_append (negative : Bool) (cs : List Char) :
    readUnsigned negative (cs ++ rest) =
      (readUnsigned negative cs).map fun (v, left) => (v, left ++ rest) := by
  rw [readUnsigned, readWhole_append h, readUnsigned]
  rcases readWhole cs with _ | ⟨whole, cs⟩
  · rfl
  show (readFraction (cs ++ rest)).bind _ = Option.map _ ((readFraction cs).bind _)
  rw [readFraction_append h]
  rcases readFraction cs with _ | ⟨fraction, cs⟩
  · rfl
  show (readExponent (cs ++ rest)).bind _ = Option.map _ ((readExponent cs).bind _)
  rw [readExponent_append h]
  rcases readExponent cs with _ | ⟨power, cs⟩
  · rfl
  show (ofDigits negative whole fraction power).bind _ =
    Option.map _ ((ofDigits negative whole fraction power).bind _)
  cases ofDigits negative whole fraction power <;> rfl

/-- A number is read in front of what follows a value as it is read alone. -/
theorem readNumber_append (cs : List Char) :
    readNumber (cs ++ rest) = (readNumber cs).map fun (v, left) => (v, left ++ rest) := by
  rcases cs with _ | ⟨c, cs⟩
  · obtain rfl | ⟨c, rest', rfl, rfl | rfl | rfl⟩ := h <;> rfl
  by_cases hc : c = '-'
  · rw [hc, List.cons_append, readNumber_minus, readNumber_minus, readUnsigned_append h]
  · rw [List.cons_append, readNumber_unsigned hc, readNumber_unsigned hc, ← List.cons_append,
      readUnsigned_append h]

end Follows

/-! ## Integers -/

theorem le_ofDigitChars (cs : List Char) (start : Nat) : start ≤ Nat.ofDigitChars 10 cs start := by
  induction cs generalizing start with
  | nil => exact Nat.le_refl _
  | cons c cs ih =>
    rw [Nat.ofDigitChars_cons]
    have := ih (10 * start + (c.toNat - '0'.toNat))
    omega

/-- Digits are absorbed as long as what they spell fits. -/
theorem absorb_eq {cs : List Char} {start : Nat}
    (h : (Nat.ofDigitChars 10 cs start : Int) ≤ maxInt) :
    absorb start cs = (Nat.ofDigitChars 10 cs start, 0) := by
  induction cs generalizing start with
  | nil => rfl
  | cons c cs ih =>
    rw [Nat.ofDigitChars_cons] at h ⊢
    have hlonger := le_ofDigitChars cs (10 * start + (c.toNat - '0'.toNat))
    rw [absorb, Nat.mul_comm start 10, if_pos (by omega), ih h]

theorem readDigits_toDigits (n : Nat) :
    readDigits (Nat.toDigits 10 n) = (Nat.toDigits 10 n, []) := by
  have hall : ∀ c ∈ Nat.toDigits 10 n, c.isDigit = true := fun c hc =>
    Nat.isDigit_of_mem_toDigits (by decide) (by decide) hc
  rw [readDigits, List.takeWhile_eq_self_iff.2 hall, List.dropWhile_eq_nil_iff.2 hall]

/-- The digits of a number start with another one than zero, unless the number is zero. -/
theorem head_toDigits {n : Nat} (h : 0 < n) :
    ∃ c cs, Nat.toDigits 10 n = c :: cs ∧ c ≠ '0' := by
  induction n using Nat.strongRecOn with
  | ind n ih =>
    by_cases hlt : n < 10
    · refine ⟨n.digitChar, [], Nat.toDigits_of_lt_base hlt, fun heq => ?_⟩
      rw [Nat.digitChar_eq_zero] at heq
      omega
    · obtain ⟨c, cs, heq, hc⟩ := ih (n / 10) (by omega) (by omega)
      refine ⟨c, cs ++ [(n % 10).digitChar], ?_, hc⟩
      rw [Nat.toDigits_of_base_le (by decide) (by omega), heq]
      rfl

theorem readWhole_toDigits (n : Nat) :
    readWhole (Nat.toDigits 10 n) = some (Nat.toDigits 10 n, []) := by
  rw [readWhole, readDigits_toDigits]
  by_cases hpos : 0 < n
  · obtain ⟨c, cs, heq, hc⟩ := head_toDigits hpos
    rw [heq]
    simp [hc]
  · obtain rfl : n = 0 := by omega
    rfl

theorem readUnsigned_toDigits (negative : Bool) {n : Nat} (hmax : (n : Int) ≤ maxInt)
    (hmin : negative = true → 0 < n ∧ minInt ≤ -(n : Int)) :
    readUnsigned negative (Nat.toDigits 10 n) =
      some (.int (if negative then -(n : Int) else n), []) := by
  have habsorb : absorb 0 (Nat.toDigits 10 n) = (n, 0) := by
    rw [absorb_eq (by rw [Nat.ofDigitChars_ten_toDigits]; exact hmax),
      Nat.ofDigitChars_ten_toDigits]
  have hvalue : ofDigits negative (Nat.toDigits 10 n) none none =
      some (.int (if negative then -(n : Int) else n)) := by
    simp only [ofDigits, habsorb]
    refine if_pos ⟨rfl, rfl, trivial, ?_, fun h => ?_⟩
    · split
      · next hneg => exact (hmin hneg).2
      · unfold minInt
        omega
    · exact absurd h.2 (Nat.ne_of_gt (hmin h.1).1)
  rw [readUnsigned, readWhole_toDigits]
  show (ofDigits negative (Nat.toDigits 10 n) none none).bind _ = _
  rw [hvalue]
  rfl

/-- An integer that is kept as one reads back from its digits. -/
theorem readNumber_writeInt {n : Int} (hmin : minInt ≤ n) (hmax : n ≤ maxInt) :
    readNumber (writeInt n) = some (.int n, []) := by
  have habs : (n.natAbs : Int) ≤ maxInt := by
    unfold minInt at hmin
    unfold maxInt at hmax ⊢
    omega
  rw [writeInt]
  split
  · rw [readNumber_minus, readUnsigned_toDigits true habs fun _ => ⟨by omega, by omega⟩, if_pos rfl,
      show -(n.natAbs : Int) = n by omega]
  · obtain ⟨c, cs, heq⟩ := List.exists_cons_of_ne_nil (Nat.toDigits_ne_nil (n := n.natAbs) (b := 10))
    have hdigit : c.isDigit = true :=
      Nat.isDigit_of_mem_toDigits (by decide) (by decide) (heq ▸ List.mem_cons_self)
    have hminus : c ≠ '-' := by
      rintro rfl
      cases hdigit
    have hread := readUnsigned_toDigits false habs nofun
    rw [heq] at hread ⊢
    rw [readNumber_unsigned hminus, hread, if_neg Bool.false_ne_true,
      show (n.natAbs : Int) = n by omega]

end DeviceLink.Json
