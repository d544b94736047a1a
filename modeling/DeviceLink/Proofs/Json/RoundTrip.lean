import DeviceLink.Proofs.Json.Number
import DeviceLink.Proofs.Text.Utf8
/-!
# Documents come back from their text

The reader is followed through the text of a value, with whatever may follow it. Each production
of the grammar is one lemma; values, elements and fields are read together, by induction on the
value. The reader has fuel enough for the text, so the only way to fail is to nest too deep.
-/

namespace DeviceLink.Json

/-! ## Strings -/

/-- A character in front of the rest of a string. -/
def prepend (c : Char) (result : Option (List Char × List Char)) : Option (List Char × List Char) :=
  result.map fun (cs, left) => (c :: cs, left)

theorem readString_short {c d : Char} (h : shortEscape? d = some c) (rest : List Char) :
    readString ('\\' :: d :: rest) = prepend c (readString rest) := by
  rw [readString, h]
  · show (readString rest).bind _ = _
    cases readString rest <;> rfl
  · rintro a b c d rest rfl
    cases h

theorem readString_plain {c : Char} (hquote : c ≠ '"') (hslash : c ≠ '\\') (h : 0x20 ≤ c.toNat)
    (rest : List Char) : readString (c :: rest) = prepend c (readString rest) := by
  rw [readString, if_neg fun hbad => hbad.elim (Nat.not_lt.2 h) hslash]
  · show (readString rest).bind _ = _
    cases readString rest <;> rfl
  · exact hquote
  · exact fun _ _ _ _ _ heq => absurd heq hslash
  · exact fun _ _ heq => absurd heq hslash

theorem hex4?_control : ∀ n < 0x20,
    hex4? '0' '0' (Nat.digitChar (n / 16)) (Nat.digitChar (n % 16)) = some n := by
  decide

theorem readString_control {c : Char} (h : c.toNat < 0x20) (rest : List Char) :
    readString ('\\' :: 'u' :: '0' :: '0' :: Nat.digitChar (c.toNat / 16) ::
      Nat.digitChar (c.toNat % 16) :: rest) = prepend c (readString rest) := by
  have hlow : isLowSurrogate c.toNat = false := by simp [isLowSurrogate]; omega
  have hhigh : isHighSurrogate c.toNat = false := by simp [isHighSurrogate]; omega
  rw [readString, hex4?_control _ h]
  show (if isLowSurrogate c.toNat = true then none else _) = _
  rw [hlow, hhigh, Char.ofNat_toNat]
  show (readString rest).bind _ = _
  cases readString rest <;> rfl

/-- A written character is read as itself, whether it is escaped or not. -/
theorem readString_escape (c : Char) (rest : List Char) :
    readString (escape c ++ rest) = prepend c (readString rest) := by
  unfold escape
  split
  · next h =>
    subst h
    exact readString_short rfl rest
  split
  · next h =>
    subst h
    exact readString_short rfl rest
  split
  · next h =>
    subst h
    exact readString_short rfl rest
  split
  · next h =>
    subst h
    exact readString_short rfl rest
  split
  · next h =>
    subst h
    exact readString_short rfl rest
  split
  · next h =>
    subst h
    exact readString_short rfl rest
  split
  · next h =>
    subst h
    exact readString_short rfl rest
  split
  · next h => exact readString_control h rest
  · next hquote hslash _ _ _ _ _ hcontrol =>
    exact readString_plain hquote hslash (Nat.le_of_not_lt hcontrol) rest

theorem readString_flatMap (cs rest : List Char) :
    readString (cs.flatMap escape ++ '"' :: rest) = some (cs, rest) := by
  induction cs with
  | nil => rfl
  | cons c cs ih =>
    rw [List.flatMap_cons, List.append_assoc, readString_escape, ih]
    rfl

/-- A string is read up to its closing quote. -/
theorem readString_write (s : String) (rest : List Char) :
    ∃ text, writeString s ++ rest = '"' :: text ∧ readString text = some (s.toList, rest) := by
  refine ⟨s.toList.flatMap escape ++ '"' :: rest, ?_, readString_flatMap s.toList rest⟩
  rw [writeString, List.append_assoc]
  rfl

/-! ## The fields of an object -/

theorem setField_last {acc : List (String × Value)} {key : String} (h : ∀ f ∈ acc, f.1 < key)
    (value : Value) : setField key value acc = acc ++ [(key, value)] := by
  induction acc with
  | nil => rfl
  | cons f acc ih =>
    obtain ⟨k, v⟩ := f
    rw [List.forall_mem_cons] at h
    have hne : key ≠ k := fun heq => String.lt_irrefl _ (heq ▸ h.1)
    rw [setField, if_neg hne, if_neg (String.lt_asymm h.1), ih h.2]
    rfl

theorem foldl_setField (acc fs : List (String × Value))
    (h : ((acc ++ fs).map (·.1)).Pairwise (· < ·)) :
    fs.foldl (fun acc (k, v) => setField k v acc) acc = acc ++ fs := by
  induction fs generalizing acc with
  | nil => exact (List.append_nil acc).symm
  | cons f fs ih =>
    obtain ⟨key, value⟩ := f
    have hlast : ∀ x ∈ acc, x.1 < key := by
      rw [List.map_append, List.pairwise_append] at h
      exact fun x hx => h.2.2 _ (List.mem_map_of_mem hx) _ List.mem_cons_self
    rw [List.foldl_cons]
    dsimp only
    rw [setField_last hlast, ih _ (by rwa [List.append_assoc]), List.append_assoc]
    rfl

/-- Fields in the order of their keys are the fields of their object. -/
theorem ofFields_eq {fs : List (String × Value)} (h : (fs.map (·.1)).Pairwise (· < ·)) :
    Value.ofFields fs = .object fs :=
  congrArg Value.object (foldl_setField [] fs h)

/-! ## One value -/

/-- What the reader makes of the text of a value in front of what may follow it. -/
structure Value.Reads (v : Value) : Prop where
  /-- The text starts neither with a blank nor with a closing bracket. -/
  head : ∃ c cs, v.write = c :: cs ∧ ¬(c = ' ' ∨ c = '\t' ∨ c = '\n' ∨ c = '\r') ∧ c ≠ ']'
  read (fuel levels : Nat) (rest : List Char) (hrest : Follows rest)
    (hfuel : v.write.length < fuel) :
    readValue fuel levels (v.write ++ rest) = if v.nesting ≤ levels then some (v, rest) else none

theorem skipBlanks_cons {c : Char} (h : ¬(c = ' ' ∨ c = '\t' ∨ c = '\n' ∨ c = '\r'))
    (cs : List Char) : skipBlanks (c :: cs) = c :: cs :=
  if_neg h

/-! ## Scalars -/

theorem not_blank {c : Char} (h : c = '-' ∨ c.isDigit = true) :
    ¬(c = ' ' ∨ c = '\t' ∨ c = '\n' ∨ c = '\r') ∧ c ≠ ']' := by
  refine ⟨?_, ?_⟩
  · rintro (rfl | rfl | rfl | rfl) <;> exact absurd h (by decide)
  · rintro rfl
    exact absurd h (by decide)

/-- A number is told by its first character. -/
theorem readValue_number {c : Char} (h : c = '-' ∨ c.isDigit = true) (fuel levels : Nat)
    (cs : List Char) : readValue (fuel + 1) levels (c :: cs) = readNumber (c :: cs) := by
  rw [readValue, skipBlanks_cons (not_blank h).1]
  -- Every other arm of the reader starts with a character that no number starts with.
  split
  all_goals first
    | rfl
    | next heq =>
      obtain ⟨rfl, -⟩ := List.cons.inj heq
      exact absurd h (by decide)

/-- A number whose text reads back does so in front of what follows. -/
theorem reads_number {v : Value} (h : readNumber v.write = some (v, [])) (hflat : v.nesting = 0) :
    v.Reads := by
  obtain ⟨c, cs, hwrite, hc⟩ := head_of_readNumber h
  refine ⟨⟨c, cs, hwrite, not_blank hc⟩, fun fuel levels rest hrest hfuel => ?_⟩
  obtain ⟨fuel, rfl⟩ := Nat.exists_eq_add_one_of_ne_zero (Nat.ne_zero_of_lt hfuel)
  rw [if_pos (hflat ▸ Nat.zero_le levels), hwrite, List.cons_append, readValue_number hc,
    ← List.cons_append, ← hwrite, readNumber_append hrest, h]
  rfl

theorem reads_null : Value.null.Reads := by
  refine ⟨⟨'n', _, rfl, by decide, by decide⟩, fun fuel levels rest _ hfuel => ?_⟩
  obtain ⟨fuel, rfl⟩ := Nat.exists_eq_add_one_of_ne_zero (Nat.ne_zero_of_lt hfuel)
  rfl

theorem reads_bool (b : Bool) : (Value.bool b).Reads := by
  refine ⟨by cases b <;> exact ⟨_, _, rfl, by decide, by decide⟩, fun fuel levels rest _ hfuel => ?_⟩
  obtain ⟨fuel, rfl⟩ := Nat.exists_eq_add_one_of_ne_zero (Nat.ne_zero_of_lt hfuel)
  cases b <;> rfl

theorem reads_string (s : String) : (Value.string s).Reads := by
  refine ⟨⟨'"', _, rfl, by decide, by decide⟩, fun fuel levels rest _ hfuel => ?_⟩
  obtain ⟨fuel, rfl⟩ := Nat.exists_eq_add_one_of_ne_zero (Nat.ne_zero_of_lt hfuel)
  obtain ⟨text, hwrite, hread⟩ := readString_write s rest
  show readValue (fuel + 1) levels (writeString s ++ rest) = _
  rw [hwrite]
  show (readString text).map _ = _
  rw [hread]
  show some (Value.string (String.ofList s.toList), rest) = _
  rw [String.ofList_toList]
  rfl

/-! ## Arrays -/

section

variable {fuel levels : Nat} {cs rest : List Char} {v : Value}

theorem readElements_last (h : readValue fuel levels cs = some (v, ']' :: rest)) :
    readElements (fuel + 1) levels cs = some ([v], rest) := by
  rw [readElements, h]
  rfl

theorem readElements_more (h : readValue fuel levels cs = some (v, ',' :: rest)) :
    readElements (fuel + 1) levels cs =
      (readElements fuel levels rest).map fun (vs, rest) => (v :: vs, rest) := by
  rw [readElements, h]
  show (readElements fuel levels rest).bind _ = _
  cases readElements fuel levels rest <;> rfl

theorem readElements_none (h : readValue fuel levels cs = none) :
    readElements (fuel + 1) levels cs = none := by
  rw [readElements, h]
  rfl

end

theorem writeElements_cons_append (v : Value) (vs : List Value) (rest : List Char) :
    writeElements (v :: vs) ++ rest = ',' :: (v.write ++ (writeElements vs ++ rest)) := by
  rw [writeElements, List.cons_append, List.append_assoc]

theorem follows_writeElements (vs : List Value) (rest : List Char) :
    Follows (writeElements vs ++ rest) := by
  cases vs with
  | nil => exact .cons (.inr (.inl rfl)) _
  | cons v vs => exact .cons (.inl rfl) _

/-- Elements are read one after another, up to the bracket. -/
theorem readElements_write {v : Value} {vs : List Value} (hv : v.Reads) (hvs : ∀ x ∈ vs, x.Reads)
    (fuel levels : Nat) (rest : List Char)
    (hfuel : v.write.length + (writeElements vs).length < fuel) :
    readElements fuel levels (v.write ++ (writeElements vs ++ rest)) =
      if elementsNesting (v :: vs) ≤ levels then some (v :: vs, rest) else none := by
  induction vs generalizing v fuel with
  | nil =>
    obtain ⟨fuel, rfl⟩ := Nat.exists_eq_add_one_of_ne_zero (Nat.ne_zero_of_lt hfuel)
    simp only [writeElements, List.length_singleton] at hfuel
    have hread := hv.read fuel levels (']' :: rest) (follows_writeElements [] rest) (by omega)
    rw [elementsNesting, elementsNesting, Nat.max_zero, writeElements, List.singleton_append]
    split at hread
    · next hnests => rw [if_pos hnests, readElements_last hread]
    · next hdeep => rw [if_neg hdeep, readElements_none hread]
  | cons x vs ih =>
    -- The comma in front of the next element pays for the fuel spent on this one.
    rw [List.forall_mem_cons] at hvs
    obtain ⟨fuel, rfl⟩ := Nat.exists_eq_add_one_of_ne_zero (Nat.ne_zero_of_lt hfuel)
    simp only [writeElements, List.length_cons, List.length_append] at hfuel
    have hread := hv.read fuel levels _ (follows_writeElements (x :: vs) rest) (by omega)
    rw [writeElements_cons_append] at hread ⊢
    have hmore := ih hvs.1 hvs.2 fuel (by omega)
    rw [elementsNesting]
    split at hread
    · next hnests =>
      rw [readElements_more hread, hmore]
      split
      · next hrest => rw [if_pos (Nat.max_le.2 ⟨hnests, hrest⟩)]; rfl
      · next hdeep => rw [if_neg fun h => hdeep (Nat.max_le.1 h).2]; rfl
    · next hdeep => rw [if_neg fun h => hdeep (Nat.max_le.1 h).1, readElements_none hread]

theorem readValue_array {fuel levels : Nat} {c : Char} {cs : List Char}
    (hblank : ¬(c = ' ' ∨ c = '\t' ∨ c = '\n' ∨ c = '\r')) (hbracket : c ≠ ']') :
    readValue (fuel + 1) (levels + 1) ('[' :: c :: cs) =
      (readElements fuel levels (c :: cs)).map fun (vs, rest) => (.array vs, rest) := by
  have hopen : skipBlanks ('[' :: c :: cs) = '[' :: c :: cs := rfl
  simp only [readValue, hopen, skipBlanks_cons hblank]
  split
  · next heq => exact absurd (List.cons.inj heq).1 hbracket
  · rfl

theorem reads_array {vs : List Value} (hvs : ∀ v ∈ vs, v.Reads) : (Value.array vs).Reads := by
  cases vs with
  | nil =>
    refine ⟨⟨'[', _, rfl, by decide, by decide⟩, fun fuel levels rest _ hfuel => ?_⟩
    obtain ⟨fuel, rfl⟩ := Nat.exists_eq_add_one_of_ne_zero (Nat.ne_zero_of_lt hfuel)
    cases levels <;> rfl
  | cons v vs =>
    rw [List.forall_mem_cons] at hvs
    refine ⟨⟨'[', _, rfl, by decide, by decide⟩, fun fuel levels rest _ hfuel => ?_⟩
    obtain ⟨fuel, rfl⟩ := Nat.exists_eq_add_one_of_ne_zero (Nat.ne_zero_of_lt hfuel)
    simp only [Value.write, List.length_cons, List.length_append] at hfuel
    cases levels with
    | zero => rfl
    | succ levels =>
      have hread := readElements_write hvs.1 hvs.2 fuel levels rest (by omega)
      obtain ⟨c, cs, hwrite, hblank, hbracket⟩ := hvs.1.head
      rw [hwrite, List.cons_append] at hread
      rw [Value.write, List.cons_append, List.append_assoc, hwrite, List.cons_append,
        readValue_array hblank hbracket, hread, Value.nesting]
      split
      · next hnests => rw [if_pos (Nat.succ_le_succ hnests)]; rfl
      · next hdeep => rw [if_neg fun h => hdeep (Nat.le_of_succ_le_succ h)]; rfl

/-! ## Objects -/

section

variable {fuel levels : Nat} {cs text rest : List Char} {key : String} {v : Value}
  (hkey : readString cs = some (key.toList, ':' :: text))
include hkey

theorem readFields_last (h : readValue fuel levels text = some (v, '\x7d' :: rest)) :
    readFields (fuel + 1) levels ('"' :: cs) = some ([(key, v)], rest) := by
  rw [readFields]
  show (readString cs).bind _ = _
  rw [hkey]
  show (readValue fuel levels text).bind _ = _
  rw [h, String.ofList_toList]
  rfl

theorem readFields_more (h : readValue fuel levels text = some (v, ',' :: rest)) :
    readFields (fuel + 1) levels ('"' :: cs) =
      (readFields fuel levels rest).map fun (fs, rest) => ((key, v) :: fs, rest) := by
  rw [readFields]
  show (readString cs).bind _ = _
  rw [hkey]
  show (readValue fuel levels text).bind _ = _
  rw [h, String.ofList_toList]
  show (readFields fuel levels rest).bind _ = _
  cases readFields fuel levels rest <;> rfl

theorem readFields_none (h : readValue fuel levels text = none) :
    readFields (fuel + 1) levels ('"' :: cs) = none := by
  rw [readFields]
  show (readString cs).bind _ = _
  rw [hkey]
  show (readValue fuel levels text).bind _ = _
  rw [h]
  rfl

end

theorem writeFields_cons_append (key : String) (v : Value) (fs : List (String × Value))
    (rest : List Char) : writeFields ((key, v) :: fs) ++ rest =
      ',' :: (writeString key ++ ':' :: (v.write ++ (writeFields fs ++ rest))) := by
  simp only [writeFields, List.cons_append, List.append_assoc]

theorem follows_writeFields (fs : List (String × Value)) (rest : List Char) :
    Follows (writeFields fs ++ rest) := by
  cases fs with
  | nil => exact .cons (.inr (.inr rfl)) _
  | cons f fs => exact .cons (.inl rfl) _

/-- Fields are read one after another, up to the brace. -/
theorem readFields_write (key : String) {v : Value} {fs : List (String × Value)} (hv : v.Reads)
    (hfs : ∀ f ∈ fs, f.2.Reads) (fuel levels : Nat) (rest : List Char)
    (hfuel : v.write.length + (writeFields fs).length < fuel) :
    readFields fuel levels (writeString key ++ ':' :: (v.write ++ (writeFields fs ++ rest))) =
      if fieldsNesting ((key, v) :: fs) ≤ levels then some ((key, v) :: fs, rest) else none := by
  induction fs generalizing key v fuel with
  | nil =>
    obtain ⟨fuel, rfl⟩ := Nat.exists_eq_add_one_of_ne_zero (Nat.ne_zero_of_lt hfuel)
    simp only [writeFields, List.length_singleton] at hfuel
    have hread := hv.read fuel levels ('\x7d' :: rest) (follows_writeFields [] rest) (by omega)
    obtain ⟨cs, hwrite, hkey⟩ := readString_write key
      (':' :: (v.write ++ (writeFields [] ++ rest)))
    rw [hwrite, fieldsNesting, fieldsNesting, Nat.max_zero]
    split at hread
    · next hnests => rw [if_pos hnests, readFields_last hkey hread]
    · next hdeep => rw [if_neg hdeep, readFields_none hkey hread]
  | cons f fs ih =>
    -- Fuel is spent on the values alone; the key is read without.
    obtain ⟨key', x⟩ := f
    rw [List.forall_mem_cons] at hfs
    obtain ⟨fuel, rfl⟩ := Nat.exists_eq_add_one_of_ne_zero (Nat.ne_zero_of_lt hfuel)
    simp only [writeFields, List.length_cons, List.length_append] at hfuel
    have hread := hv.read fuel levels _ (follows_writeFields ((key', x) :: fs) rest) (by omega)
    have hmore := ih key' (v := x) hfs.1 hfs.2 fuel (by omega)
    obtain ⟨cs, hwrite, hkey⟩ := readString_write key
      (':' :: (v.write ++ (writeFields ((key', x) :: fs) ++ rest)))
    rw [hwrite, fieldsNesting]
    split at hread
    · next hnests =>
      rw [writeFields_cons_append] at hread hkey
      rw [readFields_more hkey hread, hmore]
      split
      · next hrest => rw [if_pos (Nat.max_le.2 ⟨hnests, hrest⟩)]; rfl
      · next hdeep => rw [if_neg fun h => hdeep (Nat.max_le.1 h).2]; rfl
    · next hdeep => rw [if_neg fun h => hdeep (Nat.max_le.1 h).1, readFields_none hkey hread]

theorem readValue_object {fuel levels : Nat} (cs : List Char) :
    readValue (fuel + 1) (levels + 1) ('\x7b' :: '"' :: cs) =
      (readFields fuel levels ('"' :: cs)).map fun (fs, rest) => (Value.ofFields fs, rest) := by
  rw [readValue]
  rfl

/-- An object reads back if its fields stand in the order of their keys. -/
theorem reads_object {fs : List (String × Value)} (hsorted : (fs.map (·.1)).Pairwise (· < ·))
    (hfs : ∀ f ∈ fs, f.2.Reads) : (Value.object fs).Reads := by
  have hfields := ofFields_eq hsorted
  refine ⟨by rcases fs with _ | ⟨⟨key, v⟩, fs⟩ <;> exact ⟨'\x7b', _, rfl, by decide, by decide⟩,
    fun fuel levels rest _ hfuel => ?_⟩
  obtain ⟨fuel, rfl⟩ := Nat.exists_eq_add_one_of_ne_zero (Nat.ne_zero_of_lt hfuel)
  rcases fs with _ | ⟨⟨key, v⟩, fs⟩
  · cases levels <;> rfl
  · rw [List.forall_mem_cons] at hfs
    simp only [Value.write, List.length_cons, List.length_append] at hfuel
    cases levels with
    | zero => rfl
    | succ levels =>
      have hread := readFields_write key (v := v) hfs.1 hfs.2 fuel levels rest (by omega)
      have hwrite : writeString key ++ ':' :: (v.write ++ (writeFields fs ++ rest)) =
        '"' :: (key.toList.flatMap escape ++ ['"'] ++ ':' :: (v.write ++ (writeFields fs ++ rest))) :=
        rfl
      rw [Value.write]
      simp only [List.cons_append, List.append_assoc]
      rw [hwrite] at hread ⊢
      rw [readValue_object, hread, Value.nesting]
      split
      · next hnests => rw [if_pos (Nat.succ_le_succ hnests), ← hfields]; rfl
      · next hdeep => rw [if_neg fun h => hdeep (Nat.le_of_succ_le_succ h)]; rfl

/-! ## Values -/

mutual

/-- Whether a value is one that a document can hold: 64 bits hold its integers, its doubles read
back from their digits, and the keys of each object stand in order, each once. -/
def Value.WellFormed : Value → Prop
  | .null | .bool _ | .string _ => True
  | .int n => minInt ≤ n ∧ n ≤ maxInt
  | .double d => readNumber (numberLayout.writeDouble d) = some (.double d, [])
  | .array elements => ElementsWellFormed elements
  | .object fields => (fields.map (·.1)).Pairwise (· < ·) ∧ FieldsWellFormed fields

/-- Whether all elements are well-formed. -/
def ElementsWellFormed : List Value → Prop
  | [] => True
  | v :: vs => v.WellFormed ∧ ElementsWellFormed vs

/-- Whether the values of all fields are well-formed. -/
def FieldsWellFormed : List (String × Value) → Prop
  | [] => True
  | (_, v) :: fs => v.WellFormed ∧ FieldsWellFormed fs

end

mutual

theorem reads_of_wellFormed : ∀ {v : Value}, v.WellFormed → v.Reads
  | .null, _ => reads_null
  | .bool b, _ => reads_bool b
  | .string s, _ => reads_string s
  | .int _, h => reads_number (readNumber_writeInt h.1 h.2) rfl
  | .double _, h => reads_number h rfl
  | .array _, h => reads_array (elements_read h)
  | .object _, h => reads_object h.1 (fields_read h.2)

theorem elements_read : ∀ {vs : List Value}, ElementsWellFormed vs → ∀ v ∈ vs, v.Reads
  | [], _ => nofun
  | _ :: _, h => List.forall_mem_cons.2 ⟨reads_of_wellFormed h.1, elements_read h.2⟩

theorem fields_read : ∀ {fs : List (String × Value)}, FieldsWellFormed fs → ∀ f ∈ fs, f.2.Reads
  | [], _ => nofun
  | (_, _) :: _, h => List.forall_mem_cons.2 ⟨reads_of_wellFormed h.1, fields_read h.2⟩

end

/-- A decimal is written with a point or with an exponent. -/
theorem writeDecimal_ne_nil (l : Layout) (d : Decimal) : l.write d ≠ [] := by
  unfold Layout.write
  split
  · unfold Layout.fixed
    split <;> simp
  · simp [Layout.scientific]

theorem writeDouble_ne_nil (l : Layout) (d : Double) : l.writeDouble d ≠ [] := by
  unfold Layout.writeDouble
  split
  · decide
  · apply List.append_ne_nil_of_right_ne_nil
    split
    · exact writeDecimal_ne_nil l d.shortest
    · decide

theorem Value.write_ne_nil (v : Value) : v.write ≠ [] := by
  cases v with
  | null | string => simp [write, writeString]
  | bool b => cases b <;> simp [write]
  | int n =>
    rw [write, writeInt]
    split <;> simp [Nat.toDigits_ne_nil]
  | double d => exact writeDouble_ne_nil numberLayout d
  | array vs => cases vs <;> simp [write]
  | object fs => cases fs <;> simp [write]

/-- The text of a value is read back as it, unless it nests too deep. -/
theorem parse?_render {v : Value} (h : v.WellFormed) :
    Value.parse? v.render = if v.nesting ≤ maxNesting then some v else none := by
  have hread := (reads_of_wellFormed h).read (v.write.length + 1) maxNesting [] .nil
    (Nat.lt_succ_self _)
  rw [List.append_nil] at hread
  rw [Value.parse?, Value.render, String.toList_ofList, readWithin, hread]
  by_cases hnests : v.nesting ≤ maxNesting
  · rw [if_pos hnests, if_pos hnests]
    rfl
  · rw [if_neg hnests, if_neg hnests]

/-- The bytes of a value are read back as it, unless it nests too deep. -/
theorem ofBytes?_encode {v : Value} (h : v.WellFormed) :
    Value.ofBytes? (Utf8.encode v.render) = if v.nesting ≤ maxNesting then some v else none := by
  rw [Value.ofBytes?, Utf8.decode?_encode]
  exact parse?_render h

/-- The text of a value is never empty. -/
theorem encode_render_ne_nil (v : Value) : Utf8.encode v.render ≠ [] := by
  intro hnil
  have hdecode := Utf8.decode?_encode v.render
  rw [hnil] at hdecode
  have hempty : v.render.toList = [] := by
    rw [← Option.some.inj hdecode]
    rfl
  rw [Value.render, String.toList_ofList] at hempty
  exact v.write_ne_nil hempty

end DeviceLink.Json
