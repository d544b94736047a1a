import DeviceLink.Mqtt.Client
import DeviceLink.Proofs.Link.Operations
/-!
# The table of routes

The routes are a map from filters to their latest receivers, in the order in which the filters
were first subscribed since they were last removed. So a message reaches one receiver for each
subscribed filter that matches its topic, however often the filters were subscribed again.
-/

namespace DeviceLink.Link

open Mqtt

variable {ρ : Type}

/-! ## Changes of a table -/

namespace Routes

/-- The filters of a table, in its order. -/
def filters (table : Routes ρ) : List String := table.map (·.1)

theorem filters_cons (entry : String × ρ) (table : Routes ρ) :
    filters (entry :: table) = entry.1 :: filters table := rfl

theorem lookup_cons_if (entry : String × ρ) (table : Routes ρ) (f : String) :
    List.lookup f (entry :: table) = if f = entry.1 then some entry.2 else table.lookup f := by
  rw [List.lookup_cons]
  by_cases hf : f = entry.1
  · rw [beq_iff_eq.2 hf, if_pos hf]
  · rw [beq_eq_false_iff_ne.2 hf, if_neg hf]

theorem filters_put (filter : String) (receiver : ρ) (table : Routes ρ) :
    (table.put filter receiver).filters =
      if filter ∈ table.filters then table.filters else table.filters ++ [filter] := by
  induction table with
  | nil => rfl
  | cons entry table ih =>
    obtain ⟨f, old⟩ := entry
    by_cases hf : f = filter
    · simp [put, filters_cons, hf]
    · simp only [put, hf, if_false, filters_cons, ih, List.mem_cons, Ne.symm hf, false_or]
      split <;> rfl

theorem filters_erase (table : Routes ρ) (filter : String) :
    (table.erase filter).filters = table.filters.filter (· ≠ filter) := by
  rw [filters, filters, erase, List.filter_map]
  rfl

theorem lookup_put (filter : String) (receiver : ρ) (table : Routes ρ) (f : String) :
    (table.put filter receiver).lookup f =
      if f = filter then some receiver else table.lookup f := by
  induction table with
  | nil => exact lookup_cons_if (filter, receiver) [] f
  | cons entry table ih =>
    obtain ⟨g, old⟩ := entry
    by_cases hg : g = filter
    · simp only [put, hg, if_true, lookup_cons_if]
      split <;> rfl
    · simp only [put, hg, if_false, lookup_cons_if, ih]
      by_cases hf : f = filter
      · rw [if_pos hf, if_pos hf, if_neg (hf ▸ Ne.symm hg)]
      · rw [if_neg hf, if_neg hf]

theorem lookup_erase (table : Routes ρ) (filter f : String) :
    (table.erase filter).lookup f = if f = filter then none else table.lookup f := by
  by_cases hf : f = filter
  · subst hf
    rw [if_pos rfl]
    exact Tracker.lookup_filter_self
  · rw [if_neg hf]
    exact Tracker.lookup_filter_ne hf

/-- Of several receivers for one filter the last one counts. -/
theorem lookup_putAll (table : Routes ρ) (entries : List (String × ρ)) (f : String) :
    (table.putAll entries).lookup f = (entries.reverse.lookup f).or (table.lookup f) := by
  induction entries generalizing table with
  | nil => rfl
  | cons entry entries ih =>
    show ((table.put entry.1 entry.2).putAll entries).lookup f = _
    rw [ih, lookup_put, List.reverse_cons, List.lookup_append, Option.or_assoc, lookup_cons_if]
    split <;> rfl

theorem nodup_filters_change {table : Routes ρ} (h : table.filters.Nodup) (x : String × Option ρ) :
    (table.change x).filters.Nodup := by
  obtain ⟨filter, receiver⟩ := x
  cases receiver with
  | none =>
    rw [show (table.change (filter, none)).filters = _ from table.filters_erase filter]
    exact h.filter _
  | some receiver =>
    have hput : (table.change (filter, some receiver)).filters = _ :=
      filters_put filter receiver table
    rw [hput]
    split
    · exact h
    · exact List.nodup_append.2 ⟨h, List.nodup_singleton _, by grind⟩

theorem nodup_filters_changeAll {table : Routes ρ} (h : table.filters.Nodup)
    (changes : List (String × Option ρ)) : (table.changeAll changes).filters.Nodup := by
  induction changes generalizing table with
  | nil => exact h
  | cons x changes ih => exact ih (nodup_filters_change h x)

theorem mem_filters_iff_lookup (table : Routes ρ) (f : String) :
    f ∈ table.filters ↔ (table.lookup f).isSome = true := by
  constructor
  · intro h
    obtain ⟨r, hr⟩ := Tracker.exists_lookup h
    rw [hr]
    rfl
  · intro h
    obtain ⟨r, hr⟩ := Option.isSome_iff_exists.1 h
    exact List.mem_map.2 ⟨_, Tracker.mem_of_lookup hr, rfl⟩

theorem mem_iff_lookup {table : Routes ρ} (hn : table.filters.Nodup) (f : String) (r : ρ) :
    (f, r) ∈ table ↔ table.lookup f = some r := by
  induction table with
  | nil => simp
  | cons entry table ih =>
    rw [filters_cons, List.nodup_cons] at hn
    rw [lookup_cons_if, List.mem_cons, ih hn.2]
    by_cases hf : f = entry.1
    · subst hf
      have hnone : table.lookup entry.1 ≠ some r := fun hr =>
        hn.1 (List.mem_map.2 ⟨_, Tracker.mem_of_lookup hr, rfl⟩)
      simp [hnone, Prod.ext_iff, eq_comm]
    · simp [hf, Prod.ext_iff]

end Routes

/-! ## The order of the filters -/

/-- The place among some changes at which a filter was first subscribed since its last removal. -/
structure FirstSince (changes : List (String × Option ρ)) (f : String) (i : ℕ) : Prop where
  subscribed : ∃ receiver, changes[i]? = some (f, some receiver)
  kept : ∀ j, i < j → changes[j]? ≠ some (f, none)
  first : ∀ j < i, ∀ receiver, changes[j]? = some (f, some receiver) →
    ∃ k, j < k ∧ k < i ∧ changes[k]? = some (f, none)

/-- Whether one filter was first subscribed before another one, each since its last removal. -/
def Earlier (changes : List (String × Option ρ)) (f g : String) : Prop :=
  ∃ i j, FirstSince changes f i ∧ FirstSince changes g j ∧ i < j

theorem getElem?_snoc {α : Type} (l : List α) (x y : α) (i : ℕ) :
    (l ++ [x])[i]? = some y ↔ l[i]? = some y ∨ i = l.length ∧ x = y := by
  rw [List.getElem?_append]
  grind

section Places

variable {changes : List (String × Option ρ)} {x : String × Option ρ} {f g : String} {i j : ℕ}

theorem FirstSince.lt_length (h : FirstSince changes f i) : i < changes.length := by
  obtain ⟨receiver, hi⟩ := h.subscribed
  exact (List.getElem?_eq_some_iff.1 hi).1

/-- There is no later such place: the filter would have been removed in between. -/
theorem FirstSince.le (hi : FirstSince changes f i) (hj : FirstSince changes f j) : j ≤ i := by
  obtain ⟨receiver, hsubscribed⟩ := hi.subscribed
  by_contra hlt
  obtain ⟨k, hik, -, hremoved⟩ := hj.first i (Nat.lt_of_not_le hlt) receiver hsubscribed
  exact hi.kept k hik hremoved

/-- A later change keeps the place of a filter that it does not remove. -/
theorem FirstSince.snoc (h : FirstSince changes f i) (hx : x ≠ (f, none)) :
    FirstSince (changes ++ [x]) f i := by
  have hlt := h.lt_length
  refine ⟨?_, ?_, ?_⟩
  · obtain ⟨receiver, hi⟩ := h.subscribed
    exact ⟨receiver, (getElem?_snoc ..).2 (.inl hi)⟩
  · intro j hij hj
    rcases (getElem?_snoc ..).1 hj with hj | ⟨-, hj⟩
    · exact h.kept j hij hj
    · exact hx hj
  · intro j hji receiver hj
    rcases (getElem?_snoc ..).1 hj with hj | ⟨rfl, -⟩
    · obtain ⟨k, hjk, hki, hk⟩ := h.first j hji receiver hj
      exact ⟨k, hjk, hki, (getElem?_snoc ..).2 (.inl hk)⟩
    · omega

theorem Earlier.snoc (h : Earlier changes f g) (hf : x ≠ (f, none)) (hg : x ≠ (g, none)) :
    Earlier (changes ++ [x]) f g := by
  obtain ⟨i, j, hi, hj, hij⟩ := h
  exact ⟨i, j, hi.snoc hf, hj.snoc hg, hij⟩

end Places

/-- A table in the order that some changes call for. -/
structure Placed (changes : List (String × Option ρ)) (filters : List String) : Prop where
  places : ∀ f ∈ filters, ∃ i, FirstSince changes f i
  removed : ∀ f, f ∉ filters → ∀ (i : ℕ) (receiver : ρ), changes[i]? = some (f, some receiver) →
    ∃ k, i < k ∧ changes[k]? = some (f, none)
  ordered : filters.Pairwise (Earlier changes)

namespace Placed

variable {changes : List (String × Option ρ)} {filters : List String} {g : String}

theorem nil : Placed ([] : List (String × Option ρ)) [] :=
  ⟨by simp, by simp, .nil⟩

/-- What was removed stays removed while it is not subscribed. -/
theorem removed_snoc (h : Placed changes filters) {x : String × Option ρ} {f : String}
    (hf : f ∉ filters) (hx : ∀ receiver, x ≠ (f, some receiver)) {i : ℕ} {receiver : ρ}
    (hi : (changes ++ [x])[i]? = some (f, some receiver)) :
    ∃ k, i < k ∧ (changes ++ [x])[k]? = some (f, none) := by
  rcases (getElem?_snoc ..).1 hi with hi | ⟨-, hi⟩
  · obtain ⟨k, hik, hk⟩ := h.removed f hf i receiver hi
    exact ⟨k, hik, (getElem?_snoc ..).2 (.inl hk)⟩
  · exact absurd hi (hx receiver)

/-- A filter that is subscribed again keeps its place. -/
theorem again (h : Placed changes filters) (hg : g ∈ filters) (receiver : ρ) :
    Placed (changes ++ [(g, some receiver)]) filters := by
  refine ⟨?_, ?_, ?_⟩
  · intro f hf
    obtain ⟨i, hi⟩ := h.places f hf
    exact ⟨i, hi.snoc (by simp)⟩
  · intro f hf i r hi
    refine h.removed_snoc hf (fun r' heq => ?_) hi
    cases heq
    exact hf hg
  · exact h.ordered.imp fun hearlier => hearlier.snoc (by simp) (by simp)

/-- A filter that is new, or was removed, has its place after all others. -/
theorem new (h : Placed changes filters) (hg : g ∉ filters) (receiver : ρ) :
    Placed (changes ++ [(g, some receiver)]) (filters ++ [g]) := by
  have hlast : FirstSince (changes ++ [(g, some receiver)]) g changes.length := by
    refine ⟨⟨receiver, by simp⟩, ?_, ?_⟩
    · intro j hlt hj
      obtain ⟨hlt', -⟩ := List.getElem?_eq_some_iff.1 hj
      simp only [List.length_append, List.length_singleton] at hlt'
      omega
    · intro j hlt r hj
      rcases (getElem?_snoc ..).1 hj with hj | ⟨rfl, -⟩
      · obtain ⟨k, hjk, hk⟩ := h.removed g hg j r hj
        exact ⟨k, hjk, (List.getElem?_eq_some_iff.1 hk).1, (getElem?_snoc ..).2 (.inl hk)⟩
      · omega
  have hplaces : ∀ f ∈ filters, ∃ i, FirstSince (changes ++ [(g, some receiver)]) f i ∧
      i < changes.length := by
    intro f hf
    obtain ⟨i, hi⟩ := h.places f hf
    exact ⟨i, hi.snoc (by simp), hi.lt_length⟩
  refine ⟨?_, ?_, ?_⟩
  · intro f hf
    rcases List.mem_append.1 hf with hf | hf
    · obtain ⟨i, hi, -⟩ := hplaces f hf
      exact ⟨i, hi⟩
    · rw [List.mem_singleton.1 hf]
      exact ⟨_, hlast⟩
  · intro f hf i r hi
    rw [List.mem_append, List.mem_singleton, not_or] at hf
    refine h.removed_snoc hf.1 (fun r' heq => ?_) hi
    cases heq
    exact hf.2 rfl
  · refine List.pairwise_append.2 ⟨h.ordered.imp fun he => he.snoc (by simp) (by simp),
      List.pairwise_singleton .., ?_⟩
    intro f hf g' hg'
    rw [List.mem_singleton.1 hg']
    obtain ⟨i, hi, hlt⟩ := hplaces f hf
    exact ⟨i, _, hi, hlast, hlt⟩

/-- Removing a filter keeps the others in their places. -/
theorem erase (h : Placed changes filters) (g : String) :
    Placed (changes ++ [(g, none)]) (filters.filter (· ≠ g)) := by
  have hother : ∀ f ∈ filters.filter (· ≠ g),
      f ∈ filters ∧ ((g, none) : String × Option ρ) ≠ (f, none) := by
    intro f hf
    obtain ⟨hmem, hne⟩ := List.mem_filter.1 hf
    refine ⟨hmem, fun heq => ?_⟩
    cases heq
    simp at hne
  refine ⟨?_, ?_, ?_⟩
  · intro f hf
    obtain ⟨i, hi⟩ := h.places f (hother f hf).1
    exact ⟨i, hi.snoc (hother f hf).2⟩
  · intro f hf i r hi
    by_cases hfg : f = g
    · subst hfg
      rcases (getElem?_snoc ..).1 hi with hi | ⟨-, hi⟩
      · exact ⟨changes.length, (List.getElem?_eq_some_iff.1 hi).1, by simp⟩
      · cases hi
    · exact h.removed_snoc (fun hmem => hf (List.mem_filter.2 ⟨hmem, by simpa using hfg⟩))
        (by simp) hi
  · refine (h.ordered.filter _).imp_of_mem fun {f f'} hf hf' he => ?_
    exact he.snoc (hother f hf).2 (hother f' hf').2

end Placed

/-- A change keeps a table in the order that the changes call for. -/
theorem Routes.placed_change {changes : List (String × Option ρ)} {table : Routes ρ}
    (h : Placed changes table.filters) (x : String × Option ρ) :
    Placed (changes ++ [x]) (table.change x).filters := by
  obtain ⟨g, receiver⟩ := x
  cases receiver with
  | none =>
    rw [show (table.change (g, none)).filters = _ from table.filters_erase g]
    exact h.erase g
  | some receiver =>
    rw [show (table.change (g, some receiver)).filters = _ from filters_put g receiver table]
    split
    · exact h.again ‹_› receiver
    · exact h.new ‹_› receiver

theorem Routes.placed_changeAll (changes : List (String × Option ρ)) :
    Placed changes (Routes.changeAll [] changes).filters := by
  induction changes using List.reverseRecOn with
  | nil => exact .nil
  | append_singleton changes x ih =>
    rw [Routes.changeAll_append]
    exact Routes.placed_change ih x

/-! ## Operations on the table -/

namespace Operation

/-- Whether an operation subscribes or unsubscribes a filter. -/
def names (op : Operation ρ) (f : String) : Bool :=
  match op with
  | subscribe topic .. | unsubscribe topic _ => topic = f
  | subscribeMany topics .. => f ∈ topics.map (·.1)
  | publish .. => false

/-- The receiver that an operation gives a filter, the last one if it gives several. -/
def receiver? (op : Operation ρ) (f : String) : Option ρ :=
  match op with
  | subscribe topic _ onMessage _ => if topic = f then some onMessage else none
  | subscribeMany topics .. => topics.reverse.lookup f
  | unsubscribe .. | publish .. => none

theorem lookup_changes (op : Operation ρ) (table : Routes ρ) (f : String) :
    (table.changeAll op.changes).lookup f =
      if op.names f then op.receiver? f else table.lookup f := by
  cases op with
  | subscribe topic qos onMessage onAck =>
    show (table.put topic onMessage).lookup f = _
    rw [Routes.lookup_put]
    by_cases hf : f = topic
    · simp [names, receiver?, hf]
    · simp [names, hf, Ne.symm hf]
  | subscribeMany topics qos onAck =>
    rw [changes, Routes.changeAll_puts, Routes.lookup_putAll, receiver?]
    by_cases hf : f ∈ topics.map (·.1)
    · have hrev : f ∈ topics.reverse.map (·.1) := by simpa using hf
      obtain ⟨r, hr⟩ := Tracker.exists_lookup hrev
      simp only [names, hf, hr, decide_true, if_true, Option.some_or]
    · have hnone : topics.reverse.lookup f = none := by
        rw [List.lookup_eq_none_iff]
        intro e he
        have hne : f ≠ e.1 := fun heq =>
          hf (heq ▸ List.mem_map_of_mem (List.mem_reverse.1 he))
        simpa using hne
      simp only [names, hf, hnone, decide_false, Bool.false_eq_true, if_false, Option.none_or]
  | unsubscribe topic onAck =>
    show (table.erase topic).lookup f = _
    rw [Routes.lookup_erase]
    by_cases hf : f = topic
    · simp [names, receiver?, hf]
    · simp [names, hf, Ne.symm hf]
  | publish topic qos retain payload onAck => rfl

theorem isSome_receiver? {op : Operation ρ} {f : String} (h : op.names f = true) :
    (op.receiver? f).isSome = true ↔ op.kind = .subscribe := by
  cases op with
  | subscribe topic qos onMessage onAck =>
    have hf : topic = f := by simpa [names] using h
    simp [receiver?, kind, hf]
  | subscribeMany topics qos onAck =>
    have hf : f ∈ topics.reverse.map (·.1) := by simpa [names] using h
    obtain ⟨r, hr⟩ := Tracker.exists_lookup hf
    simp [receiver?, kind, hr]
  | unsubscribe topic onAck => simp [receiver?, kind]
  | publish topic qos retain payload onAck => cases h

end Operation

/-- The last of some operations that names a filter. -/
def lastNaming (ops : List (Operation ρ)) (f : String) : Option (Operation ρ) :=
  (ops.filter (·.names f)).getLast?

theorem names_of_lastNaming {ops : List (Operation ρ)} {f : String} {op : Operation ρ}
    (h : op ∈ lastNaming ops f) : op.names f = true :=
  (List.mem_filter.1 (List.mem_of_getLast? h)).2

/-- The receiver of a filter is the one that the last operation naming it gives. -/
theorem lookup_changeAll (ops : List (Operation ρ)) (f : String) :
    (Routes.changeAll [] (ops.flatMap Operation.changes)).lookup f =
      (lastNaming ops f).bind (·.receiver? f) := by
  induction ops using List.reverseRecOn with
  | nil => rfl
  | append_singleton ops op ih =>
    rw [List.flatMap_append, Routes.changeAll_append, List.flatMap_singleton,
      Operation.lookup_changes, ih, lastNaming, lastNaming, List.filter_append]
    by_cases hop : op.names f = true
    · simp [hop]
    · simp [hop]

/-! ## The table of a link -/

theorem Connection.routes_perform (c : Connection ρ) (op : Operation ρ) :
    (c.perform op).1.routes =
      if (c.perform op).2.isSome then c.routes.changeAll op.changes else c.routes := by
  have hroutes : (c.submitted op).1.routes = c.routes := c.routes_submit ..
  rw [perform_eq]
  split
  · rfl
  · simp only [settled, hroutes]

namespace Trail

/-- The operations that were accepted, in order. -/
def granted (t : Trail ρ) : List (Operation ρ) := t.asked.filterMap fun x => x.2.map fun _ => x.1

/-- What the accepted operations changed about the routes, one filter after the other. -/
def changes (t : Trail ρ) : List (String × Option ρ) := t.granted.flatMap Operation.changes

theorem granted_perform (t : Trail ρ) (op : Operation ρ) : (t.act (.perform op)).granted =
    t.granted ++ if (t.link.perform op).2.isSome then [op] else [] := by
  simp only [granted, act, List.filterMap_append]
  cases (t.link.perform op).2 <;> rfl

theorem routes_act {t : Trail ρ} (h : t.link.routes = Routes.changeAll [] t.changes) (a : Act ρ) :
    (t.act a).link.routes = Routes.changeAll [] (t.act a).changes := by
  cases a with
  | perform op =>
    rw [changes, granted_perform, List.flatMap_append, Routes.changeAll_append]
    show (t.link.perform op).1.routes = (Routes.changeAll [] t.changes).changeAll _
    rw [t.link.routes_perform op, h]
    split
    · rw [List.flatMap_singleton]
    · rfl
  | poll result =>
    simp only [act]
    split
    · exact (t.link.routes_react result).trans h
    · exact h
  | connect options => exact (t.link.routes_connect options).trans h
  | disconnect => exact t.link.routes_disconnect.trans h
  | loop state => exact h

theorem routes_after {c : Connection ρ} (h : c.routes = []) (acts : List (Act ρ)) :
    (Trail.after { link := c } acts).link.routes =
      Routes.changeAll [] (Trail.after { link := c } acts).changes := by
  induction acts using List.reverseRecOn with
  | nil => exact h
  | append_singleton acts a ih =>
    rw [after_snoc]
    exact routes_act ih a

end Trail

/-- Along every trail that starts with an empty table, the routes are the filters that were last
subscribed and not unsubscribed, once each, with their latest receivers, in the order in which they
were first subscribed since their last removal; what is refused changes nothing. A message reaches
in that order one receiver for each of these filters that matches its topic. -/
theorem routes_latest {c : Connection ρ} (hempty : c.routes = []) (acts : List (Act ρ)) :
    let t := Trail.after { link := c } acts
    t.link.routes.filters.Nodup ∧
      (∀ f, f ∈ t.link.routes.filters ↔ ∃ op ∈ lastNaming t.granted f, op.kind = .subscribe) ∧
      (∀ f r, (f, r) ∈ t.link.routes ↔
        ∃ op ∈ lastNaming t.granted f, op.receiver? f = some r) ∧
      (∀ f ∈ t.link.routes.filters, ∃! i, FirstSince t.changes f i) ∧
      t.link.routes.filters.Pairwise (Earlier t.changes) ∧
      (∀ op, (t.link.perform op).2 = none → (t.link.perform op).1.routes = t.link.routes) ∧
      ∀ m : Message, ∃ reached : List String,
        (∀ f, f ∈ reached ↔ f ∈ t.link.routes.filters ∧ Topic.matchesFilter f m.topic = true) ∧
        reached.Nodup ∧ reached.Pairwise (Earlier t.changes) ∧
        List.Forall₂ (fun f d => (f, d.receiver) ∈ t.link.routes ∧ d.signal = .message m)
          reached (t.link.react (.incoming (.publish m))).2 := by
  intro t
  have hroutes : t.link.routes = Routes.changeAll [] t.changes := Trail.routes_after hempty acts
  have hnodup : t.link.routes.filters.Nodup := by
    have hnil : (Routes.filters ([] : Routes ρ)).Nodup := List.nodup_nil
    rw [hroutes]
    exact Routes.nodup_filters_changeAll hnil t.changes
  have hplaced : Placed t.changes t.link.routes.filters :=
    hroutes ▸ Routes.placed_changeAll t.changes
  have hlookup (f : String) :
      t.link.routes.lookup f = (lastNaming t.granted f).bind (·.receiver? f) := by
    rw [hroutes]
    exact lookup_changeAll t.granted f
  refine ⟨hnodup, fun f => ?_, fun f r => ?_, fun f hf => ?_, hplaced.ordered,
    fun op hrefused => ?_, fun m => ?_⟩
  · rw [Routes.mem_filters_iff_lookup, hlookup, Option.isSome_bind, Option.any_eq_true]
    refine exists_congr fun op => and_congr_right fun hop => ?_
    exact Operation.isSome_receiver? (names_of_lastNaming hop)
  · rw [Routes.mem_iff_lookup hnodup, hlookup, Option.bind_eq_some_iff]
    rfl
  · obtain ⟨i, hi⟩ := hplaced.places f hf
    exact ⟨i, hi, fun j hj => Nat.le_antisymm (hi.le hj) (hj.le hi)⟩
  · rw [t.link.routes_perform op, hrefused]
    rfl
  · let matching : Routes ρ := t.link.routes.filter fun e => Topic.matchesFilter e.1 m.topic
    have hsublist : matching.filters.Sublist t.link.routes.filters := List.filter_sublist.map _
    refine ⟨matching.filters, fun f => ?_, hnodup.sublist hsublist,
      hplaced.ordered.sublist hsublist, ?_⟩
    · simp only [matching, Routes.filters, List.mem_map, List.mem_filter]
      constructor
      · rintro ⟨e, ⟨he, hmatches⟩, rfl⟩
        exact ⟨⟨e, he, rfl⟩, hmatches⟩
      · rintro ⟨⟨e, he, rfl⟩, hmatches⟩
        exact ⟨e, ⟨he, hmatches⟩, rfl⟩
    · show List.Forall₂ _ (matching.map (·.1))
        ((matching.map (·.2)).map fun r => (⟨r, .message m⟩ : Delivery ρ))
      rw [List.map_map, List.forall₂_map_left_iff, List.forall₂_map_right_iff, List.forall₂_same]
      exact fun e he => ⟨List.mem_of_mem_filter he, rfl⟩

/-- A filter that is subscribed again keeps its place and changes its receiver; one that is
subscribed after its removal goes to the end. -/
theorem routes_latest_resubscribed :
    let c : Connection ℕ :=
      { config := ⟨"broker", some 1883, .password "user" "word", none, false⟩
        client := true
        loop := some { options := ⟨"device", true, 30, 3000⟩ } }
    let acts : List (Act ℕ) :=
      [.perform (.subscribeMany [("t/a", 1), ("t/b", 2), ("t/+", 3), ("t/a", 4)] .atLeastOnce 0),
        .perform (.unsubscribe "t/b" 0), .perform (.subscribe "t/b" .failure 5 0),
        .perform (.subscribe "t/b" .atLeastOnce 6 0), .perform (.subscribe "t/+" .atMostOnce 7 0)]
    let t := Trail.after { link := c } acts
    c.routes = [] ∧ t.link.routes = [("t/a", 4), ("t/+", 7), ("t/b", 6)] ∧
      t.link.routes.filters.Pairwise (Earlier t.changes) := by
  intro c acts t
  exact ⟨rfl, by decide +kernel, (routes_latest rfl acts).2.2.2.2.1⟩

end DeviceLink.Link
