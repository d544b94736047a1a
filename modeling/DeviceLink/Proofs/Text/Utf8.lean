import DeviceLink.Text.Utf8
/-!
# Text comes back from its bytes

The bytes of a character are scanned as that character and leave no begun one behind, whatever
follows them. So the bytes of a text decode to the text.
-/

namespace DeviceLink.Utf8

/-! ## One byte -/

theorem scanFrom_cons (state : Option Pending) (b : UInt8) (rest : List UInt8) :
    scanFrom state (b :: rest) =
      (step state b.toNat).1 ++ scanFrom (step state b.toNat).2 rest := by
  cases state <;> rfl

theorem lead_one {b : Nat} (h : b < 0x80) : lead b = ([.char (Char.ofNat b) 1], none) := if_pos h

theorem lead_two {b : Nat} (h : 0xC2 ≤ b ∧ b ≤ 0xDF) :
    lead b = ([], some ⟨1, 1, 0x80, 0xBF, b - 0xC0⟩) := by
  rw [lead, if_neg (by omega), if_pos h]

/-- After `E0` and `ED` the second byte has a narrower range. -/
theorem lead_three {b : Nat} (h : 0xE0 ≤ b ∧ b ≤ 0xEF) :
    lead b = ([], some ⟨1, 2, if b = 0xE0 then 0xA0 else 0x80, if b = 0xED then 0x9F else 0xBF,
      b - 0xE0⟩) := by
  rw [lead, if_neg (by omega), if_neg (by omega)]
  by_cases he0 : b = 0xE0
  · subst he0
    rfl
  · by_cases hed : b = 0xED
    · subst hed
      rfl
    · rw [if_neg he0, if_neg hed, if_pos (by omega), if_neg he0, if_neg hed]

/-- After `F0` and `F4` the second byte has a narrower range. -/
theorem lead_four {b : Nat} (h : 0xF0 ≤ b ∧ b ≤ 0xF4) :
    lead b = ([], some ⟨1, 3, if b = 0xF0 then 0x90 else 0x80, if b = 0xF4 then 0x8F else 0xBF,
      b - 0xF0⟩) := by
  rw [lead, if_neg (by omega), if_neg (by omega), if_neg (by omega), if_neg (by omega),
    if_neg (by omega)]
  by_cases hf0 : b = 0xF0
  · subst hf0
    rfl
  · by_cases hf4 : b = 0xF4
    · subst hf4
      rfl
    · rw [if_neg hf0, if_pos (by omega), if_neg hf0, if_neg hf4]

theorem step_last {p : Pending} {b : Nat} (h : p.low ≤ b ∧ b ≤ p.high) (howed : p.owed = 1) :
    step (some p) b = ([.char (Char.ofNat (p.bits * 64 + b % 64)) (p.seen + 1)], none) := by
  rw [step, if_pos h]
  exact if_pos howed

theorem step_more {p : Pending} {b : Nat} (h : p.low ≤ b ∧ b ≤ p.high) (howed : p.owed ≠ 1) :
    step (some p) b =
      ([], some ⟨p.seen + 1, p.owed - 1, 0x80, 0xBF, p.bits * 64 + b % 64⟩) := by
  rw [step, if_pos h]
  exact if_neg howed

/-! ## One character -/

theorem toNat_of_lt {n : Nat} (h : n < 256) : (UInt8.ofNat n).toNat = n := by
  rw [UInt8.toNat_ofNat']
  exact Nat.mod_eq_of_lt h

/-- The last byte of a character. -/
theorem scanFrom_last {p : Pending} {n : Nat}
    (h : p.low ≤ n % 64 + 128 ∧ n % 64 + 128 ≤ p.high) (howed : p.owed = 1) (rest : List UInt8) :
    scanFrom (some p) (UInt8.ofNat (n % 64 + 128) :: rest) =
      .char (Char.ofNat (p.bits * 64 + n % 64)) (p.seen + 1) :: scanFrom none rest := by
  rw [scanFrom_cons, toNat_of_lt (by omega), step_last h howed]
  dsimp only
  rw [show (n % 64 + 128) % 64 = n % 64 by omega]
  rfl

/-- A byte in the middle of a character. -/
theorem scanFrom_more {p : Pending} {n : Nat}
    (h : p.low ≤ n % 64 + 128 ∧ n % 64 + 128 ≤ p.high) (howed : p.owed ≠ 1) (rest : List UInt8) :
    scanFrom (some p) (UInt8.ofNat (n % 64 + 128) :: rest) =
      scanFrom (some ⟨p.seen + 1, p.owed - 1, 0x80, 0xBF, p.bits * 64 + n % 64⟩) rest := by
  rw [scanFrom_cons, toNat_of_lt (by omega), step_more h howed]
  dsimp only
  rw [show (n % 64 + 128) % 64 = n % 64 by omega]
  rfl

theorem scanFrom_two {v : Nat} (hlow : 0x80 ≤ v) (hhigh : v ≤ 0x7FF) (rest : List UInt8) :
    scanFrom none (UInt8.ofNat (v / 64 % 32 + 192) :: UInt8.ofNat (v % 64 + 128) :: rest) =
      .char (Char.ofNat v) 2 :: scanFrom none rest := by
  rw [scanFrom_cons, toNat_of_lt (by omega), step, lead_two (by omega)]
  dsimp only
  rw [List.nil_append, scanFrom_last (by dsimp only; omega) rfl]
  dsimp only
  rw [show (v / 64 % 32 + 192 - 0xC0) * 64 + v % 64 = v by omega]

/-- The surrogates, which are no characters, are what the range after `ED` shuts out. -/
theorem scanFrom_three {v : Nat} (hlow : 0x800 ≤ v) (hhigh : v ≤ 0xFFFF)
    (hvalid : v < 0xD800 ∨ 0xDFFF < v) (rest : List UInt8) :
    scanFrom none (UInt8.ofNat (v / 4096 % 16 + 224) :: UInt8.ofNat (v / 64 % 64 + 128) ::
      UInt8.ofNat (v % 64 + 128) :: rest) = .char (Char.ofNat v) 3 :: scanFrom none rest := by
  rw [scanFrom_cons, toNat_of_lt (by omega), step, lead_three (by omega)]
  dsimp only
  rw [List.nil_append, scanFrom_more (by dsimp only; split <;> split <;> omega) (by dsimp only; decide)]
  dsimp only
  rw [scanFrom_last (by dsimp only; omega) rfl]
  dsimp only
  rw [show ((v / 4096 % 16 + 224 - 0xE0) * 64 + v / 64 % 64) * 64 + v % 64 = v by omega]

theorem scanFrom_four {v : Nat} (hlow : 0x10000 ≤ v) (hhigh : v < 0x110000) (rest : List UInt8) :
    scanFrom none (UInt8.ofNat (v / 262144 % 8 + 240) :: UInt8.ofNat (v / 4096 % 64 + 128) ::
      UInt8.ofNat (v / 64 % 64 + 128) :: UInt8.ofNat (v % 64 + 128) :: rest) =
      .char (Char.ofNat v) 4 :: scanFrom none rest := by
  rw [scanFrom_cons, toNat_of_lt (by omega), step, lead_four (by omega)]
  dsimp only
  rw [List.nil_append, scanFrom_more (by dsimp only; split <;> split <;> omega) (by dsimp only; decide)]
  dsimp only
  rw [scanFrom_more (by dsimp only; omega) (by dsimp only; decide)]
  dsimp only
  rw [scanFrom_last (by dsimp only; omega) rfl]
  dsimp only
  rw [show (((v / 262144 % 8 + 240 - 0xF0) * 64 + v / 4096 % 64) * 64 + v / 64 % 64) * 64 + v % 64 = v
    by omega]

/-- The bytes of a character are scanned as it, and what follows them is scanned afresh. -/
theorem scanFrom_encodeChar (c : Char) (rest : List UInt8) :
    ∃ width, scanFrom none (String.utf8EncodeChar c ++ rest) =
      .char c width :: scanFrom none rest := by
  have hchar : Char.ofNat c.val.toNat = c := Char.ofNat_toNat c
  have hvalid : c.val.toNat < 0xD800 ∨ 0xDFFF < c.val.toNat ∧ c.val.toNat < 0x110000 := c.valid
  unfold String.utf8EncodeChar
  dsimp only
  by_cases h₁ : c.val.toNat ≤ 127
  · refine ⟨1, ?_⟩
    rw [if_pos h₁, List.singleton_append, scanFrom_cons, toNat_of_lt (by omega), step,
      lead_one (by omega), hchar]
    rfl
  by_cases h₂ : c.val.toNat ≤ 2047
  · refine ⟨2, ?_⟩
    rw [if_neg h₁, if_pos h₂]
    simpa only [List.cons_append, List.nil_append, hchar] using
      scanFrom_two (by omega) h₂ rest
  by_cases h₃ : c.val.toNat ≤ 65535
  · refine ⟨3, ?_⟩
    rw [if_neg h₁, if_neg h₂, if_pos h₃]
    simpa only [List.cons_append, List.nil_append, hchar] using
      scanFrom_three (by omega) h₃ (by omega) rest
  · refine ⟨4, ?_⟩
    rw [if_neg h₁, if_neg h₂, if_neg h₃]
    simpa only [List.cons_append, List.nil_append, hchar] using
      scanFrom_four (v := c.val.toNat) (by omega) (by omega) rest

/-! ## A text -/

theorem collect_scan (cs : List Char) (offset : Nat) :
    collect offset (scan (cs.flatMap String.utf8EncodeChar)) = .ok cs := by
  induction cs generalizing offset with
  | nil => rfl
  | cons c cs ih =>
    obtain ⟨width, hscan⟩ := scanFrom_encodeChar c (cs.flatMap String.utf8EncodeChar)
    rw [List.flatMap_cons, scan, hscan, collect]
    exact congrArg _ (ih (offset + width))

/-- The bytes of a text decode to it. -/
theorem decode?_encode (s : String) : decode? (encode s) = some s := by
  rw [decode?, decode, encode, collect_scan]
  exact congrArg some String.ofList_toList

end DeviceLink.Utf8
