import DeviceLink.Proofs.Bench.Effects
/-!
# Handles apart from each other

In every run each handle has an object of its own, which only its own steps change.
-/

namespace DeviceLink.Bench

open Mqtt Simulated Library

namespace State

variable {s s' : State} {st : Step} {name : String}

/-! ## What telling leaves alone -/

/-- Nothing has changed but the users' side. -/
structure Heard (s s' : State) : Prop where
  library : s'.library = s.library
  handles : s'.handles = s.handles
  shown : s'.shown = s.shown
  names : s'.sessions.map (·.1) = s.sessions.map (·.1)
  reaction : s'.reaction = s.reaction

theorem Heard.refl (s : State) : Heard s s := ⟨rfl, rfl, rfl, rfl, rfl⟩

theorem Heard.trans {s'' : State} (h : Heard s s') (h' : Heard s' s'') : Heard s s'' :=
  ⟨h'.library.trans h.library, h'.handles.trans h.handles, h'.shown.trans h.shown,
    h'.names.trans h.names, h'.reaction.trans h.reaction⟩

theorem heard_foldl {α : Type} {f : State → α → State} (hf : ∀ s a, Heard s (f s a)) (l : List α)
    (s : State) : Heard s (l.foldl f s) := by
  induction l generalizing s with
  | nil => exact .refl s
  | cons a l ih => exact (hf s a).trans (ih _)

theorem heard_note (s : State) (line : Log.Line) : Heard s (s.note line) := by
  unfold note
  split
  · exact ⟨rfl, rfl, rfl, rfl, rfl⟩
  · exact .refl s

theorem heard_noteAll (s : State) (lines : List Log.Line) : Heard s (s.noteAll lines) :=
  heard_foldl heard_note lines s

theorem heard_invoke (s : State) (name : String) (c : Callback) : Heard s (s.invoke name c) := by
  have hcount : Heard s { s with invocations := s.invocations + 1 } := ⟨rfl, rfl, rfl, rfl, rfl⟩
  unfold invoke
  dsimp only
  split
  · exact hcount.trans (heard_note ..)
  · exact ⟨rfl, rfl, rfl, rfl, rfl⟩

theorem mapAt_eq {α : Type} (f : α → α) (name : String) (entries : List (String × α)) :
    (entries.map fun (n, a) => if n = name then (n, f a) else (n, a)) =
      entries.map fun entry => (entry.1, if entry.1 = name then f entry.2 else entry.2) := by
  refine List.map_congr_left fun entry _ => ?_
  by_cases h : entry.1 = name <;> simp [h]

theorem map_fst_mapAt {α : Type} (f : α → α) (name : String) (entries : List (String × α)) :
    (entries.map fun (n, a) => if n = name then (n, f a) else (n, a)).map (·.1) =
      entries.map (·.1) := by
  rw [mapAt_eq, List.map_map]
  rfl

theorem lookup_mapAt {α : Type} (f : α → α) (name : String) (entries : List (String × α))
    (n : String) :
    (entries.map fun (n, a) => if n = name then (n, f a) else (n, a)).lookup n =
      (entries.lookup n).map fun a => if n = name then f a else a := by
  rw [mapAt_eq]
  exact lookup_map_value (fun n a => if n = name then f a else a) n entries

theorem heard_tellSession (s : State) (name : String) (c : Mqtt.Callback) :
    Heard s (s.tellSession name c) :=
  ⟨rfl, rfl, rfl, map_fst_mapAt (fun session : Agent.Session => session.tell c) name s.sessions,
    rfl⟩

theorem heard_tell (s : State) (r : Receiver) (news : News) : Heard s (s.tell r news) := by
  cases news with
  | mqtt signal =>
    cases r with
    | client name =>
      exact (heard_noteAll ..).trans (heard_foldl (fun s c => heard_invoke s name (.mqtt c)) _ _)
    | session name =>
      exact (heard_noteAll ..).trans (heard_foldl (fun s c => heard_tellSession s name c) _ _)
    | raw => exact ⟨rfl, rfl, rfl, rfl, rfl⟩
    | queue | job | listener | tunnel => exact .refl s
  | jobs signal =>
    cases r with
    | queue name | job name =>
      simp only [tell, tellJobs]
      split
      · exact heard_invoke ..
      · exact .refl s
    | raw => exact ⟨rfl, rfl, rfl, rfl, rfl⟩
    | client | session | listener | tunnel => exact .refl s
  | listener signal =>
    cases r with
    | listener name =>
      simp only [tell, tellListener]
      split
      · exact heard_invoke ..
      · exact heard_note ..
    | client | session | queue | job | tunnel | raw => exact .refl s
  | tunnel e =>
    cases r with
    | tunnel name => exact heard_invoke ..
    | raw => exact ⟨rfl, rfl, rfl, rfl, rfl⟩
    | client | session | queue | job | listener => exact .refl s

theorem heard_tellAll (s : State) (told : List (Receiver × News)) : Heard s (s.tellAll told) :=
  heard_foldl (fun (s : State) (d : Receiver × News) => heard_tell s d.1 d.2) told s

/-- What the work of an object changes besides the users' side. -/
theorem heard_work (s : State) (name : String) (h : Holding) (x : Native Receiver)
    (ds : List Deed) (lines : List Log.Line) :
    Heard (s.withLibrary (s.library.putNative h.own.number
      (x.does s.library.faults (s.receiverOf name h) ds).1))
      ((s.work name h x ds).noteAll lines) :=
  (heard_tellAll ..).trans (heard_noteAll ..)

/-! ## Runs -/

theorem native?_putNative_own {l : Library Receiver} {h : Holding} {x y : Native Receiver}
    (hnative : l.native? h.own = some x) (hsort : y.sort = x.sort) :
    (l.putNative h.own.number y).native? = Function.update l.native? h.own (some y) := by
  have hown : (⟨y.sort, h.own.number⟩ : Object) = h.own := by
    rw [hsort, sort_of_native? hnative]
  rw [native?_putNative (y := x) (by rw [hown]; exact hnative), hown]

theorem native?_work {h : Holding} {x : Native Receiver}
    (hnative : s.library.native? h.own = some x) (ds : List Deed) (lines : List Log.Line) :
    ((s.work name h x ds).noteAll lines).library.native? = Function.update s.library.native? h.own
      (some (x.does s.library.faults (s.receiverOf name h) ds).1) := by
  rw [(heard_work ..).library]
  exact native?_putNative_own hnative (x.sort_does ..)

theorem native?_letGo (l : Library Receiver) (h : Holding) : (letGo l h).native? = l.native? := by
  cases h <;> simp [letGo, native?_releaseConnection, native?_releaseJobsClient,
    native?_releaseTunnelingClient, native?_releaseTunnel]

theorem Builds.lookup {holding : Holding} {x : Native Receiver} (h : Builds s st s' name holding x)
    (n : String) : s'.handles.lookup n =
      if n = name then some ⟨holding, false⟩ else s.handles.lookup n := by
  rw [h.handles, List.lookup_append]
  by_cases hn : n = name
  · subst hn
    rw [lookup_of_notMem h.fresh, if_pos rfl]
    simp
  · rw [if_neg hn]
    have hne : (n == name) = false := beq_eq_false_iff_ne.2 hn
    cases s.handles.lookup n <;> simp [List.lookup_cons, hne]

theorem lookup_dropHandle (s : State) (name : String) (h : Handle) (n : String) :
    (s.dropHandle name h).handles.lookup n = (s.handles.lookup n).map fun other =>
      if n = name then { other with dropped := true } else other :=
  lookup_mapAt (fun other : Handle => { other with dropped := true }) name s.handles n

/-- Every handle still has its object. -/
theorem Effect.natives (heffect : Effect s st s') (h : s.Apart) :
    ∀ entry ∈ s'.handles, ∃ x, s'.library.native? entry.2.holding.own = some x := by
  -- An object that did something is still there, and so are all the others.
  have hworked (s₁ : State) {name : String} {handle : Handle} {x : Native Receiver}
      (hlibrary : s₁.library = s.library) (hhandles : s₁.handles = s.handles)
      (hnative : s₁.library.native? handle.holding.own = some x) (ds : List Deed)
      (lines : List Log.Line) :
      ∀ entry ∈ ((s₁.work name handle.holding x ds).noteAll lines).handles, ∃ y,
        ((s₁.work name handle.holding x ds).noteAll lines).library.native? entry.2.holding.own =
          some y := by
    intro entry hentry
    rw [(heard_work ..).handles] at hentry
    obtain ⟨y, hy⟩ := h.natives entry (hhandles ▸ hentry)
    rw [native?_work hnative, Function.update_apply]
    split
    · exact ⟨_, rfl⟩
    · exact ⟨y, hlibrary ▸ hy⟩
  cases heffect with
  | refused => exact h.natives
  | rests _ hrests =>
    intro entry hentry
    obtain ⟨x, hx⟩ := h.natives entry (hrests.handles ▸ hentry)
    exact ⟨x, hrests.natives _ x hx⟩
  | builds hbuilds =>
    intro entry hentry
    rw [hbuilds.handles] at hentry
    obtain hentry | hentry := List.mem_append.1 hentry
    · obtain ⟨x, hx⟩ := h.natives entry hentry
      exact ⟨x, (hbuilds.adds.kept hx).2⟩
    · obtain rfl := List.mem_singleton.1 hentry
      exact ⟨_, by rw [hbuilds.adds.native?, Function.update_self]⟩
  | works _ _ hnative lines => exact hworked s rfl rfl hnative _ lines
  | handles _ hnative _ _ lines => exact hworked (s.taken _) rfl rfl hnative _ lines
  | drops =>
    intro entry hentry
    obtain ⟨other, hother, rfl⟩ := List.mem_map.1 hentry
    obtain ⟨x, hx⟩ := h.natives other hother
    refine ⟨x, (congrFun (native?_letGo ..) _).trans ?_⟩
    dsimp only
    split <;> exact hx
  | abandons => exact h.natives

theorem Effect.distinct (heffect : Effect s st s') (h : s.Apart) :
    (s'.handles.map (·.2.holding.own)).Nodup := by
  cases heffect with
  | refused => exact h.distinct
  | rests _ hrests => exact hrests.handles ▸ h.distinct
  | builds hbuilds =>
    rw [hbuilds.handles, List.map_append]
    refine h.distinct.append (List.nodup_singleton _) (List.disjoint_singleton.2 fun hmem => ?_)
    -- The object of the new handle was not there, and those of the others were.
    obtain ⟨entry, hentry, hown⟩ := List.mem_map.1 hmem
    obtain ⟨y, hy⟩ := h.natives entry hentry
    exact (hbuilds.adds.kept hy).1 hown
  | works =>
    rw [(heard_work ..).handles]
    exact h.distinct
  | handles =>
    rw [(heard_work ..).handles]
    exact h.distinct
  | @drops name handle _ _ =>
    have hsame : (s.dropHandle name handle).handles.map (·.2.holding.own) =
        s.handles.map (·.2.holding.own) := by
      show (s.handles.map _).map _ = _
      rw [List.map_map]
      refine List.map_congr_left fun entry _ => ?_
      by_cases hname : entry.1 = name <;> simp [hname]
    rw [hsame]
    exact h.distinct
  | abandons => exact h.distinct

theorem Effect.seats (heffect : Effect s st s') (h : s.Apart) : (s'.sessions.map (·.1)).Nodup := by
  cases heffect with
  | refused => exact h.seats
  | rests _ hrests => exact hrests.sessions ▸ h.seats
  | @builds _ _ name _ _ hbuilds =>
    rw [hbuilds.sessions, List.map_append]
    refine h.seats.append ?_ ?_
    · split
      · exact List.nodup_singleton _
      · exact List.nodup_nil
    · split
      · exact List.disjoint_singleton.2 fun hmem => hbuilds.fresh (h.seated name hmem)
      · exact List.disjoint_nil_right _
  | works =>
    rw [(heard_work ..).names]
    exact h.seats
  | handles =>
    rw [(heard_work ..).names]
    exact h.seats
  | drops => exact h.seats
  | abandons =>
    exact (map_fst_mapAt Agent.Session.abandon _ s.sessions).symm ▸ h.seats

/-- Two handles that were not dropped for one another are on different objects. -/
theorem Apart.eq_of_own (h : s.Apart) {entry : String × Handle} {handle : Handle}
    (hentry : entry ∈ s.handles) (hlookup : s.handles.lookup name = some handle)
    (hown : entry.2.holding.own = handle.holding.own) : entry = (name, handle) :=
  List.inj_on_of_nodup_map h.distinct hentry (mem_of_lookup hlookup) hown

theorem isSome_lookup {α : Type} (entries : List (String × α)) (n : String) :
    (entries.lookup n).isSome = decide (n ∈ entries.map (·.1)) := by
  rw [Bool.eq_iff_iff, List.lookup_isSome_iff]
  simp

/-- The user of a handle depends only on who has a session. -/
theorem receiverOf_of_names (h : s'.sessions.map (·.1) = s.sessions.map (·.1)) :
    s'.receiverOf = s.receiverOf := by
  funext n holding
  rw [receiverOf, receiverOf, isSome_lookup, isSome_lookup, h]

theorem Builds.receiverOf {holding : Holding} {x : Native Receiver}
    (hbuilds : Builds s st s' name holding x) (h : s.Apart) :
    s'.receiverOf name holding = holding.receiver name st.seats := by
  have hnew : name ∉ s.sessions.map (·.1) := fun hmem => hbuilds.fresh (h.seated name hmem)
  rw [State.receiverOf, isSome_lookup, hbuilds.sessions, List.map_append]
  congr 1
  cases st.seats with
  | false => simpa using hnew
  | true => simp

/-- What holds of every handle and its object, whatever the object does, holds of them after a step
too. -/
theorem Effect.each (heffect : Effect s st s') (h : s.Apart)
    {P : String → Holding → Native Receiver → Prop}
    (hmade : ∀ name holding x, st.product? name = some (holding.plain, x) →
      s'.receiverOf name holding = holding.receiver name st.seats → P name holding x)
    (hdoes : ∀ name holding x ds, s'.receiverOf = s.receiverOf → P name holding x →
      P name holding (x.does s.library.faults (s.receiverOf name holding) ds).1)
    (hbefore : ∀ entry ∈ s.handles, ∀ x, s.library.native? entry.2.holding.own = some x →
      P entry.1 entry.2.holding x) :
    ∀ entry ∈ s'.handles, ∀ x, s'.library.native? entry.2.holding.own = some x →
      P entry.1 entry.2.holding x := by
  -- The object that did something is that of one handle, and the others are as they were.
  have hworked (s₁ : State) {name : String} {handle : Handle} {x : Native Receiver}
      {ds : List Deed} {lines : List Log.Line} (hlibrary : s₁.library = s.library)
      (hhandles : s₁.handles = s.handles) (hsessions : s₁.sessions = s.sessions)
      (hlookup : s.handles.lookup name = some handle)
      (hnative : s.library.native? handle.holding.own = some x)
      (hs' : s' = (s₁.work name handle.holding x ds).noteAll lines) :
      ∀ entry ∈ s'.handles, ∀ y, s'.library.native? entry.2.holding.own = some y →
        P entry.1 entry.2.holding y := by
    have hnames : s'.sessions.map (·.1) = s.sessions.map (·.1) := by
      rw [hs', (heard_work ..).names, ← hsessions]
      rfl
    have hreceiver : s₁.receiverOf name handle.holding = s.receiverOf name handle.holding := by
      rw [State.receiverOf, hsessions, State.receiverOf]
    intro entry hentry y hy
    rw [hs', (heard_work ..).handles] at hentry
    have hentry : entry ∈ s.handles := hhandles ▸ hentry
    rw [hs', native?_work (hlibrary ▸ hnative), Function.update_apply, hlibrary, hreceiver] at hy
    split at hy
    · next hown =>
      obtain rfl := h.eq_of_own hentry hlookup hown
      obtain rfl := Option.some.inj hy
      exact hdoes _ _ _ _ (receiverOf_of_names hnames) (hbefore _ hentry x hnative)
    · exact hbefore entry hentry y hy
  -- An object that was there before is the same.
  have hkept {entry : String × Handle} (hentry : entry ∈ s.handles)
      (hnatives : ∀ o x, s.library.native? o = some x → s'.library.native? o = some x)
      {x : Native Receiver} (hx : s'.library.native? entry.2.holding.own = some x) :
      P entry.1 entry.2.holding x := by
    obtain ⟨y, hy⟩ := h.natives entry hentry
    obtain rfl := Option.some.inj ((hnatives _ y hy).symm.trans hx)
    exact hbefore entry hentry y hy
  cases heffect with
  | refused => exact hbefore
  | rests _ hrests =>
    exact fun entry hentry x hx => hkept (hrests.handles ▸ hentry) hrests.natives hx
  | @builds _ _ name holding y hbuilds =>
    intro entry hentry x hx
    rw [hbuilds.handles] at hentry
    obtain hentry | hentry := List.mem_append.1 hentry
    · exact hkept hentry (fun o y hy => (hbuilds.adds.kept hy).2) hx
    · obtain rfl := List.mem_singleton.1 hentry
      rw [hbuilds.adds.native?, Function.update_self] at hx
      obtain rfl := Option.some.inj hx
      exact hmade name holding y hbuilds.product (hbuilds.receiverOf h)
  | works _ hlookup hnative lines => exact hworked s rfl rfl rfl hlookup hnative rfl
  | handles hlookup hnative _ _ lines => exact hworked (s.taken _) rfl rfl rfl hlookup hnative rfl
  | @drops name handle =>
    intro entry hentry x hx
    obtain ⟨other, hother, rfl⟩ := List.mem_map.1 hentry
    have hlibrary : (s.dropHandle name handle).library.native? = s.library.native? :=
      native?_letGo ..
    rw [hlibrary] at hx
    have hbefore := hbefore other hother x
    by_cases hname : other.1 = name
    · simp only [hname, if_true] at hx hbefore ⊢
      exact hbefore hx
    · simp only [hname, if_false] at hx hbefore ⊢
      exact hbefore hx
  | abandons => exact hbefore

theorem Apart.run (h : s.Apart) (st : Step) : (s.run st).1.Apart := by
  have heffect := step_effect h st
  refine ⟨h.sound.run st, h.seated.run st, ?_, ?_, heffect.distinct h, heffect.natives h⟩
  · show ((s.step st).1.sessions.map _).map _ |>.Nodup
    rw [List.map_map]
    exact heffect.seats h
  · show ((s.step st).1.shownAfter).map _ = ((s.step st).1.sessions.map _).map _
    rw [shownAfter, List.map_map, List.map_map]
    rfl

theorem Apart.after (h : s.Apart) (steps : List Step) : (s.after steps).Apart := by
  induction steps generalizing s with
  | nil => exact h
  | cons st steps ih => exact ih (h.run st)

theorem apart_fresh (limits : Log.Limits) (reaction : Reaction) : Apart { limits, reaction } where
  sound := sound_fresh limits reaction
  seated := seated_fresh limits reaction
  seats := List.nodup_nil
  shown := rfl
  distinct := List.nodup_nil
  natives := nofun

end State

end DeviceLink.Bench
