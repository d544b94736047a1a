import DeviceLink.Mqtt.Topic
/-!
# Which topics a filter matches

A filter is read level by level against a topic. `Fits` is the rule of MQTT for two lists of
levels, stated by positions, and `levelsMatch` decides it. The rule for topics that begin
with `$` is coded on the first character of the filter; for the filters that a first level
alone excludes it makes no difference, since a longer first level that begins with a wildcard
is a plain name and no `$` topic has it.
-/

namespace DeviceLink.Mqtt.Topic

/-- As far as both go, each level of a filter is `+` or the level of the topic at its place. -/
def Covers (filter topic : List (List Char)) : Prop :=
  ∀ (i : Nat) (f t : List Char), filter[i]? = some f → topic[i]? = some t → f = ['+'] ∨ f = t

/-- The levels of a topic are those a filter asks for: as many as it has, or at least as many
as stand before its last level `#`. -/
def Fits (filter topic : List (List Char)) : Prop :=
  (['#'] ∉ filter ∧ filter.length = topic.length ∧ Covers filter topic) ∨
    ∃ parent, filter = parent ++ [['#']] ∧ ['#'] ∉ parent ∧ parent.length ≤ topic.length ∧
      Covers parent topic

/-- The first level of a filter is a wildcard. -/
def LeadsWild (filter : List (List Char)) : Prop :=
  filter.head? = some ['+'] ∨ filter.head? = some ['#']

/-! ## Levels side by side -/

theorem covers_nil (topic : List (List Char)) : Covers [] topic := by
  intro i f t hf
  simp at hf

theorem covers_cons {f t : List Char} {filter topic : List (List Char)} :
    Covers (f :: filter) (t :: topic) ↔ (f = ['+'] ∨ f = t) ∧ Covers filter topic := by
  constructor
  · intro h
    exact ⟨h 0 f t rfl rfl,
      fun i g u hg hu => h (i + 1) g u (by simpa using hg) (by simpa using hu)⟩
  · rintro ⟨hhead, htail⟩ i g u hg hu
    cases i with
    | zero =>
      obtain ⟨rfl, rfl⟩ : f = g ∧ t = u := by simpa using And.intro hg hu
      exact hhead
    | succ i => exact htail i g u (by simpa using hg) (by simpa using hu)

/-- A filter of plain names covers only itself. -/
theorem Covers.eq {filter topic : List (List Char)} (h : Covers filter topic)
    (hlen : filter.length = topic.length) (hplus : ['+'] ∉ filter) : filter = topic := by
  apply List.ext_getElem hlen
  intro i hf ht
  have hcase := h i _ _ (List.getElem?_eq_getElem hf) (List.getElem?_eq_getElem ht)
  exact hcase.resolve_left fun he => hplus (he ▸ List.getElem_mem hf)

theorem fits_hash_cons {filter topic : List (List Char)} :
    Fits (['#'] :: filter) topic ↔ filter = [] := by
  constructor
  · rintro (⟨hnone, -⟩ | ⟨parent, heq, hnone, -⟩)
    · simp at hnone
    · cases parent with
      | nil => simpa using heq
      | cons p parent =>
        obtain ⟨rfl, -⟩ : ['#'] = p ∧ _ := by simpa using heq
        simp at hnone
  · rintro rfl
    exact .inr ⟨[], rfl, by simp, by simp, covers_nil topic⟩

theorem fits_cons {f t : List Char} {filter topic : List (List Char)} (hf : f ≠ ['#']) :
    Fits (f :: filter) (t :: topic) ↔ (f = ['+'] ∨ f = t) ∧ Fits filter topic := by
  constructor
  · rintro (⟨hnone, hlen, hcov⟩ | ⟨parent, heq, hnone, hlen, hcov⟩)
    · obtain ⟨hhead, htail⟩ := covers_cons.mp hcov
      exact ⟨hhead, .inl ⟨fun h => hnone (by simp [h]), by simpa using hlen, htail⟩⟩
    · cases parent with
      | nil => exact absurd (by simpa using congrArg List.head? heq) hf
      | cons p parent =>
        obtain ⟨rfl, rfl⟩ : f = p ∧ filter = parent ++ [['#']] := by simpa using heq
        obtain ⟨hhead, htail⟩ := covers_cons.mp hcov
        exact ⟨hhead, .inr ⟨parent, rfl, fun h => hnone (by simp [h]), by simpa using hlen, htail⟩⟩
  · rintro ⟨hhead, ⟨hnone, hlen, hcov⟩ | ⟨parent, rfl, hnone, hlen, hcov⟩⟩
    · exact .inl ⟨by simp [hnone, Ne.symm hf], by simpa using hlen, covers_cons.mpr ⟨hhead, hcov⟩⟩
    · exact .inr ⟨f :: parent, rfl, by simp [hnone, Ne.symm hf], by simpa using hlen,
        covers_cons.mpr ⟨hhead, hcov⟩⟩

theorem fits_nil {topic : List (List Char)} : Fits [] topic ↔ topic = [] := by
  constructor
  · rintro (⟨-, hlen, -⟩ | ⟨parent, heq, -⟩)
    · simpa using hlen.symm
    · simp at heq
  · rintro rfl
    exact .inl ⟨by simp, rfl, covers_nil []⟩

/-- A filter that asks for a level fits no topic that has none left. -/
theorem not_fits_cons_nil {f : List Char} {filter : List (List Char)} (hf : f ≠ ['#']) :
    ¬ Fits (f :: filter) [] := by
  rintro (⟨-, hlen, -⟩ | ⟨parent, heq, -, hlen, -⟩)
  · simp at hlen
  · obtain rfl : parent = [] := by simpa using hlen
    exact hf (by simpa using congrArg List.head? heq)

/-- Reading two lists of levels side by side decides the rule. -/
theorem levelsMatch_iff (filter topic : List (List Char)) :
    levelsMatch filter topic = true ↔ Fits filter topic := by
  induction filter generalizing topic with
  | nil =>
    rw [fits_nil]
    cases topic <;> simp [levelsMatch]
  | cons f filter ih =>
    by_cases hf : f = ['#']
    · subst hf
      simp [levelsMatch, fits_hash_cons]
    · cases topic with
      | nil => simp [levelsMatch, hf, not_fits_cons_nil hf]
      | cons t topic => simp [levelsMatch, fits_cons hf, ih topic]

/-! ## Levels of a text -/

theorem levelsFrom_eq (level text : List Char) :
    levelsFrom level text = (text.splitOn '/').modifyHead (level.reverse ++ ·) := by
  induction text generalizing level with
  | nil => simp [levelsFrom]
  | cons c text ih =>
    rw [List.splitOn, List.splitOnP_cons_eq_if_modifyHead, ← List.splitOn]
    by_cases hc : c = '/'
    · subst hc
      cases hs : text.splitOn '/' <;> simp [levelsFrom, ih, hs]
    · simp [levelsFrom, hc, ih, List.modifyHead_modifyHead, Function.comp_def]

/-- The levels of a text are what stands between its slashes. -/
theorem levels_eq (text : String) : levels text = text.toList.splitOn '/' := by
  rw [levels, levelsFrom_eq]
  cases text.toList.splitOn '/' <;> simp

/-- Texts with the same levels are one text. -/
theorem levels_injective {a b : String} (h : levels a = levels b) : a = b := by
  rw [levels_eq, levels_eq] at h
  have hjoin := congrArg (List.intercalate ['/']) h
  rw [List.intercalate_splitOn, List.intercalate_splitOn] at hjoin
  exact String.toList_inj.mp hjoin

/-- The first level of a text begins with the text's first character, a slash apart. -/
theorem levels_of_head {text : String} {c : Char} (hc : c ≠ '/') (h : text.toList.head? = some c) :
    ∃ level rest, levels text = (c :: level) :: rest := by
  obtain ⟨tail, htext⟩ : ∃ tail, text.toList = c :: tail := by
    cases hl : text.toList with
    | nil => simp [hl] at h
    | cons d tail => exact ⟨tail, by simpa [hl] using h⟩
  rw [levels_eq, htext, List.splitOn, List.splitOnP_cons_eq_if_modifyHead]
  cases hs : tail.splitOnP (· == '/') with
  | nil => exact absurd hs (List.splitOnP_ne_nil _ _)
  | cons level rest => exact ⟨level, rest, by simp [hc]⟩

theorem isReserved_iff {topic : String} :
    isReserved topic = true ↔ topic.toList.head? = some '$' := by
  unfold isReserved
  cases topic.toList <;> simp

theorem startsWild_iff {filter : String} :
    startsWild filter = true ↔
      filter.toList.head? = some '+' ∨ filter.toList.head? = some '#' := by
  unfold startsWild
  cases filter.toList <;> simp

/-- A filter whose first level is a wildcard begins with it. -/
theorem startsWild_of_leadsWild {filter : String} (h : LeadsWild (levels filter)) :
    startsWild filter = true := by
  rw [startsWild_iff]
  cases hl : filter.toList with
  | nil => simp [LeadsWild, levels, levelsFrom, hl] at h
  | cons c rest =>
    by_cases hc : c = '/'
    · simp [LeadsWild, levels, levelsFrom, hl, hc] at h
    · have hhead : filter.toList.head? = some c := by simp [hl]
      obtain ⟨level, tail, hlev⟩ := levels_of_head hc hhead
      rw [LeadsWild, hlev] at h
      rcases h with h | h
      · have hplus : c = '+' ∧ level = [] := by simpa using h
        simp [hplus.1]
      · have hhash : c = '#' ∧ level = [] := by simpa using h
        simp [hhash.1]

/-- A filter that begins with a wildcard character in a longer first level fits no topic that
begins with `$`: that level is a plain name. -/
theorem not_fits_reserved {filter topic : String} (hres : isReserved topic = true)
    (hstart : startsWild filter = true) (hlead : ¬ LeadsWild (levels filter)) :
    ¬ Fits (levels filter) (levels topic) := by
  obtain ⟨c, hc, hhead⟩ : ∃ c, (c = '+' ∨ c = '#') ∧ filter.toList.head? = some c := by
    rcases startsWild_iff.mp hstart with h | h
    · exact ⟨'+', .inl rfl, h⟩
    · exact ⟨'#', .inr rfl, h⟩
  obtain ⟨name, filters, hF⟩ := levels_of_head (by rcases hc with rfl | rfl <;> decide) hhead
  obtain ⟨reserved, topics, hT⟩ := levels_of_head (by decide) (isReserved_iff.mp hres)
  have hplain : c :: name ≠ ['+'] ∧ c :: name ≠ ['#'] := by
    constructor <;> intro h <;> exact hlead (by simp [LeadsWild, hF, h])
  rw [hF, hT, fits_cons hplain.2]
  rintro ⟨hplus | hsame, -⟩
  · exact hplain.1 hplus
  · rcases hc with rfl | rfl <;> simp at hsame

/-- Matching is fitting the levels, unless the topic begins with `$` and the filter's first
level is a wildcard. -/
theorem matchesFilter_iff_fits (filter topic : String) :
    matchesFilter filter topic = true ↔
      ¬ (topic.toList.head? = some '$' ∧ LeadsWild (levels filter)) ∧
        Fits (levels filter) (levels topic) := by
  rw [← isReserved_iff, matchesFilter]
  by_cases hres : isReserved topic = true
  · by_cases hlead : LeadsWild (levels filter)
    · simp [hres, hlead, startsWild_of_leadsWild hlead]
    · by_cases hstart : startsWild filter = true
      · simp [hres, hstart, not_fits_reserved hres hstart hlead]
      · simp [hstart, hlead, levelsMatch_iff]
  · simp [hres, levelsMatch_iff]

/-! ## What a filter matches -/

/-- A filter of plain names matches its own text and nothing else. -/
theorem matchesFilter_plain {filter topic : String} (hplus : ['+'] ∉ levels filter)
    (hhash : ['#'] ∉ levels filter) : matchesFilter filter topic = true ↔ filter = topic := by
  rw [matchesFilter_iff_fits]
  constructor
  · rintro ⟨-, ⟨-, hlen, hcov⟩ | ⟨parent, heq, -⟩⟩
    · exact levels_injective (hcov.eq hlen hplus)
    · exact absurd (by simp [heq]) hhash
  · rintro rfl
    refine ⟨?_, .inl ⟨hhash, rfl, fun i f t hf ht => .inr (Option.some.inj (hf.symm.trans ht))⟩⟩
    rintro ⟨-, hlead | hlead⟩
    · exact hplus (List.mem_of_head? hlead)
    · exact hhash (List.mem_of_head? hlead)

/-- A filter with a `#` before its last level matches nothing. -/
theorem not_fits_hash_inside {before after topic : List (List Char)} (h : after ≠ []) :
    ¬ Fits (before ++ ['#'] :: after) topic := by
  rintro (⟨hnone, -⟩ | ⟨parent, heq, hnone, -⟩)
  · simp at hnone
  · apply hnone
    obtain ⟨front, last, rfl⟩ : ∃ front last, after = front ++ [last] :=
      ⟨after.dropLast, after.getLast h, (List.dropLast_concat_getLast h).symm⟩
    have hsplit : (before ++ ['#'] :: front) ++ [last] = parent ++ [['#']] := by simpa using heq
    have hparent := (List.append_inj' hsplit rfl).1
    rw [← hparent]
    simp

/-- Filter matching is the rule of MQTT on the levels between slashes, for all texts: not a
wildcard first level against a `$` topic, and either as many levels, each `+` or the topic's
own, or a last level `#` after levels of that kind. So a filter of plain names matches its own
text alone, and one with a `#` before its last level nothing. -/
theorem matches_iff_levels (filter topic : String) :
    let F := filter.toList.splitOn '/'
    let T := topic.toList.splitOn '/'
    (matchesFilter filter topic = true ↔
      ¬ (topic.toList.head? = some '$' ∧ (F.head? = some ['+'] ∨ F.head? = some ['#'])) ∧
        ((['#'] ∉ F ∧ F.length = T.length ∧ Covers F T) ∨
          ∃ P, F = P ++ [['#']] ∧ ['#'] ∉ P ∧ P.length ≤ T.length ∧ Covers P T)) ∧
    (['+'] ∉ F → ['#'] ∉ F → (matchesFilter filter topic = true ↔ filter = topic)) ∧
    (∀ before after, F = before ++ ['#'] :: after → after ≠ [] →
      matchesFilter filter topic = false) := by
  intro F T
  have hF : levels filter = F := levels_eq filter
  have hT : levels topic = T := levels_eq topic
  refine ⟨?_, ?_, ?_⟩
  · rw [matchesFilter_iff_fits, hF, hT]
    rfl
  · intro hplus hhash
    exact matchesFilter_plain (hF ▸ hplus) (hF ▸ hhash)
  · intro before after heq hafter
    rw [Bool.eq_false_iff, ne_eq, matchesFilter_iff_fits, hF, heq]
    exact fun h => not_fits_hash_inside hafter h.2

/-- `a/b` matches itself, and `a/#/b` matches nothing. -/
theorem matches_iff_levels_plain :
    matchesFilter "a/b" "a/b" = true ∧ matchesFilter "a/#/b" "a/x/b" = false :=
  ⟨((matches_iff_levels "a/b" "a/b").2.1 (by decide) (by decide)).mpr rfl,
    (matches_iff_levels "a/#/b" "a/x/b").2.2 [['a']] [['b']] (by decide) (by decide)⟩

end DeviceLink.Mqtt.Topic
