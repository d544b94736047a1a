import DeviceLink.Proofs.Bench.Building
/-!
# The ledger of the bench

What the handles hold that were not dropped, and that every step keeps it in balance with the
holders that the library counts. A step does one of four things: it leaves the handles alone and
calls nobody, or it has one object call those who are registered with it, or it builds a handle, or
it drops one.
-/

namespace DeviceLink.Bench

open Mqtt Simulated Library

/-! ## What handles hold -/

/-- The objects that the handles hold which were not dropped, once for each of them. -/
def held (handles : List (String × Handle)) : List Object :=
  handles.flatMap fun h => if h.2.dropped then [] else h.2.holding.objects

theorem mem_held {handles : List (String × Handle)} {name : String} {h : Handle} {o : Object}
    (hmem : (name, h) ∈ handles) (hlive : h.dropped = false) (ho : o ∈ h.holding.objects) :
    o ∈ held handles :=
  List.mem_flatMap.2 ⟨_, hmem, by simpa [hlive] using ho⟩

theorem held_snoc (handles : List (String × Handle)) (name : String) (holding : Holding) :
    held (handles ++ [(name, ⟨holding, false⟩)]) = held handles ++ holding.objects := by
  simp [held]

/-- The handles with those of one name dropped. -/
def marked (handles : List (String × Handle)) (name : String) : List (String × Handle) :=
  handles.map fun (n, h) => if n = name then (n, { h with dropped := true }) else (n, h)

theorem marked_of_notMem {handles : List (String × Handle)} {name : String}
    (h : name ∉ handles.map (·.1)) : marked handles name = handles := by
  refine (List.map_congr_left fun x hx => ?_).trans (List.map_id _)
  have hne : x.1 ≠ name := fun heq => h (heq ▸ List.mem_map_of_mem hx)
  exact if_neg hne

/-- A handle that is dropped no longer holds its objects; the others hold what they held. -/
theorem held_marked {handles : List (String × Handle)} {name : String} {h : Handle}
    (hn : (handles.map (·.1)).Nodup) (hlookup : handles.lookup name = some h)
    (hlive : h.dropped = false) :
    (held handles).Perm (h.holding.objects ++ held (marked handles name)) := by
  induction handles with
  | nil => cases hlookup
  | cons x handles ih =>
    obtain ⟨n, other⟩ := x
    rw [List.map_cons, List.nodup_cons] at hn
    by_cases hname : n = name
    · subst hname
      have hother : other = h := by simpa using hlookup
      subst hother
      have hrest : marked handles n = handles := marked_of_notMem hn.1
      have hmarked : marked ((n, other) :: handles) n =
          (n, { other with dropped := true }) :: handles := by
        rw [marked, List.map_cons]
        exact congrArg₂ _ (if_pos rfl) hrest
      rw [hmarked]
      simp [held, hlive]
    -- The handle is further on, and what this one holds changes places with what that one held.
    · have hlookup : handles.lookup name = some h := by
        rwa [List.lookup_cons, beq_eq_false_iff_ne.2 (Ne.symm hname)] at hlookup
      have hmarked : marked ((n, other) :: handles) name = (n, other) :: marked handles name := by
        rw [marked, List.map_cons]
        exact congrArg₂ _ (if_neg hname) rfl
      rw [hmarked]
      simp only [held, List.flatMap_cons]
      exact ((ih hn.2 hlookup).append_left _).trans (List.perm_append_comm_assoc ..)

/-- What a handle lets go of is released. -/
theorem letGo_trades (l : Library Receiver) (holding : Holding) (others : List Object) :
    Trades l (holding.objects ++ others) (State.letGo l holding) others := by
  cases holding with
  | client i | rawConnection i => exact .released (l.releaseConnection_released i) _
  | queue j i thing | job j i thing job =>
    exact .trans (.released (l.releaseJobsClient_released j) _)
      (.released (releaseConnection_released _ i) _)
  | rawJobs j => exact .released (l.releaseJobsClient_released j) _
  | listener n i thing =>
    exact .trans (.released (l.releaseTunnelingClient_released n) _)
      (.released (releaseConnection_released _ i) _)
  | tunnel t | rawTunnel t => exact .released (l.releaseTunnel_released t) _

/-! ## Names -/

namespace State

/-- Whether the handles have different names, each with the number it was made under. -/
structure Named (s : State) : Prop where
  distinct : (s.handles.map (·.1)).Nodup
  numbered : ∀ name ∈ s.handles.map (·.1), ∃ sort : String, ∃ n,
    sort.length = 1 ∧ n < s.made ∧ name = sort ++ toString n

theorem eq_of_sort_append {a b : String} {m n : ℕ} (ha : a.length = 1) (hb : b.length = 1)
    (h : a ++ toString m = b ++ toString n) : m = n := by
  have hlist : a.toList ++ (toString m).toList = b.toList ++ (toString n).toList := by
    rw [← String.toList_append, h, String.toList_append]
  -- A sort is one letter, so the digits begin at the same place in both names.
  have hlength : a.toList.length = b.toList.length := by
    rw [String.length_toList, String.length_toList, ha, hb]
  have hdigits := (List.append_inj hlist hlength).2
  rw [Nat.toString_eq_ofList_toDigits, Nat.toString_eq_ofList_toDigits, String.toList_ofList,
    String.toList_ofList] at hdigits
  calc m = Nat.ofDigitChars 10 (Nat.toDigits 10 m) 0 := Nat.ofDigitChars_ten_toDigits.symm
    _ = Nat.ofDigitChars 10 (Nat.toDigits 10 n) 0 := by rw [hdigits]
    _ = n := Nat.ofDigitChars_ten_toDigits

/-- The next name is new. -/
theorem Named.fresh {s : State} (h : s.Named) {sort : String} (hsort : sort.length = 1) :
    s.nextName sort ∉ s.handles.map (·.1) := by
  intro hmem
  obtain ⟨sort', n, hsort', hn, heq⟩ := h.numbered _ hmem
  exact hn.ne (eq_of_sort_append hsort hsort' heq).symm

/-! ## Entries -/

/-- A change that keeps the ledger in balance, and who is called in it. -/
structure Turned (told : List Receiver) (s s' : State) : Prop where
  named : s'.Named
  trades : Trades s.library (held s.handles) s'.library (held s'.handles)
  tells : Tells told s s'

variable {told : List Receiver} {s s' : State}

theorem Turned.trans {s'' : State} (h : Turned told s s') (h' : Turned told s' s'') :
    Turned told s s'' :=
  ⟨h'.named, h.trades.trans h'.trades, h.tells.trans h'.tells⟩

theorem Turn.turned (h : Turn told s s') (hnamed : s.Named) : Turned told s s' where
  named := by
    refine ⟨?_, ?_⟩
    · rw [h.steady.handles]
      exact hnamed.distinct
    · rw [h.steady.handles, h.steady.made]
      exact hnamed.numbered
  trades := .kept h.steady.library (by rw [h.steady.handles])
  tells := h.tells

theorem Built.turned {sort : String} (h : Built sort s (held s.handles) s') (hnamed : s.Named)
    (hsort : sort.length = 1) : Turned told s s' := by
  cases h with
  | refused htrades =>
    exact ⟨⟨hnamed.distinct, hnamed.numbered⟩, htrades, tells_of_eq rfl rfl rfl rfl⟩
  | @added library holding sessions htrades hsessions =>
    refine ⟨⟨?_, ?_⟩, ?_, { tells_of_eq rfl rfl rfl rfl with
      mail := fun x hx hmail => .inl ⟨x, hsessions x hx hmail, rfl, hmail⟩ }⟩
    · simp only [withLibrary, addHandle, List.map_append, List.map_cons, List.map_nil]
      exact hnamed.distinct.append (List.nodup_singleton _)
        (List.disjoint_singleton.2 (hnamed.fresh hsort))
    · simp only [withLibrary, addHandle, List.map_append, List.map_cons, List.map_nil]
      intro name hname
      obtain hname | hname := List.mem_append.1 hname
      · obtain ⟨sort, n, hsort, hn, heq⟩ := hnamed.numbered name hname
        exact ⟨sort, n, hsort, Nat.lt_succ_of_lt hn, heq⟩
      · exact ⟨sort, s.made, hsort, Nat.lt_succ_self _, List.mem_singleton.1 hname⟩
    · refine htrades.perm ?_
      simp only [withLibrary, addHandle, held_snoc]
      exact List.perm_append_comm

theorem map_fst_marked (handles : List (String × Handle)) (name : String) :
    (marked handles name).map (·.1) = handles.map (·.1) := by
  rw [marked, List.map_map]
  refine List.map_congr_left fun x _ => ?_
  by_cases h : x.1 = name <;> simp [h]

theorem turned_dropHandle (hnamed : s.Named) {name : String} {h : Handle}
    (hlookup : s.handles.lookup name = some h) (hlive : h.dropped = false) :
    Turned told s (s.dropHandle name h) where
  named := by
    refine ⟨?_, ?_⟩
    · exact (map_fst_marked s.handles name).symm ▸ hnamed.distinct
    · exact (map_fst_marked s.handles name).symm ▸ hnamed.numbered
  trades := Trades.trans (.kept (.refl _) (held_marked hnamed.distinct hlookup hlive))
    (letGo_trades ..)
  tells := tells_of_eq rfl rfl rfl rfl

/-! ## Attempts -/

/-- What every attempt that is not refused leads to. -/
def Leads (P : State → Prop) (a : Attempt (State × Answer)) : Prop := ∀ r, a = .ok r → P r.1

variable {P : State → Prop}

theorem leads_bind {α : Type} {x : Attempt α} {f : α → Attempt (State × Answer)}
    (h : ∀ a, x = .ok a → Leads P (f a)) : Leads P (x >>= f) := by
  cases x with
  | error answer => intro r hr; cases hr
  | ok a => exact h a rfl

theorem leads_pure {r : State × Answer} (h : P r.1) : Leads P (pure r) := by
  rintro _ ⟨⟩
  exact h

theorem leads_throw (answer : Answer) : Leads P (throw answer) := by
  rintro _ ⟨⟩

/-! ## Lookups -/

theorem lookUp_eq_ok {name : String} {number : Holding → Option ℕ} {found : Handle × ℕ}
    (h : s.lookUp name number = .ok found) :
    s.handles.lookup name = some found.1 ∧ number found.1.holding = some found.2 := by
  unfold lookUp at h
  split at h
  · cases h
  · next hlookup =>
    split at h
    · cases h
    · next hnumber =>
      cases h
      exact ⟨hlookup, hnumber⟩

theorem lookUpLive_eq_ok {name : String} {number : Holding → Option ℕ} {found : Handle × ℕ}
    (h : s.lookUpLive name number = .ok found) :
    s.lookUp name number = .ok found ∧ found.1.dropped = false := by
  obtain ⟨found, hlookUp, h⟩ := bind_eq_ok.1 h
  dsimp only at h
  split at h
  · exact absurd h throw_ne_ok
  · next hlive =>
    cases h
    exact ⟨hlookUp, Bool.eq_false_iff.2 hlive⟩

/-- The client that a handle is built on is held. -/
theorem held_of_clientOf {name : String} {i : ℕ} (h : s.clientOf name = .ok i) :
    ⟨.connection, i⟩ ∈ held s.handles := by
  obtain ⟨⟨handle, j⟩, hfound, h⟩ := bind_eq_ok.1 h
  dsimp only at h
  split at h
  · exact absurd h throw_ne_ok
  · cases h
    obtain ⟨hlookUp, hlive⟩ := lookUpLive_eq_ok hfound
    obtain ⟨hlookup, hnumber⟩ := lookUp_eq_ok hlookUp
    obtain ⟨before, rest, heq, -⟩ := List.lookup_eq_some_iff.1 hlookup
    have hmem : (name, handle) ∈ s.handles := by rw [heq]; simp
    refine mem_held hmem hlive ?_
    obtain ⟨holding, dropped⟩ := handle
    cases holding with
    | client k | rawConnection k =>
      obtain rfl : k = i := Option.some.inj hnumber
      exact List.mem_singleton_self _
    | queue | job | rawJobs | listener | tunnel | rawTunnel => cases hnumber

theorem object_eq_ok {α : Type} {name : String} {number : Holding → Option ℕ}
    {shelf : Simulated.Shelf α} {p : ℕ × α} (h : s.object name number shelf = .ok p) :
    (∃ handle, s.lookUp name number = .ok (handle, p.1)) ∧ shelf.get? p.1 = some p.2 := by
  obtain ⟨found, hlookUp, h⟩ := bind_eq_ok.1 h
  dsimp only at h
  split at h
  · next hget =>
    cases h
    exact ⟨⟨found.1, hlookUp⟩, hget⟩
  · exact absurd h throw_ne_ok

end State

/-! ## Steps -/

/-- The number of the object of a sort that a handle is on. -/
def Holding.number? : ObjectSort → Holding → Option ℕ
  | .connection => connection?
  | .jobsClient => jobsClient?
  | .tunnelingClient => listener?
  | .tunnel => tunnel?

/-- The event of an object that a step brings about: a handle on the object, and its sort. -/
def Step.event? : Step → Option (String × ObjectSort)
  | fireCompleted h .. | fireClosed h | fireInterrupted h _ | fireResumed h .. | receive h ..
  | ack h .. | ackAll h _ => some (h, .connection)
  | completeSubscriptions h _ | completePublishes h _ | fire h .. => some (h, .jobsClient)
  | completeListeners h _ | fireOpened h .. => some (h, .tunnelingClient)
  | fireTunnel h _ => some (h, .tunnel)
  | _ => none

namespace State

variable {told : List Receiver} {s s' : State} {P : State → Prop}

/-- The object whose event a step brings about. -/
def speaker? (s : State) (st : Step) : Option Object :=
  match st.event? with
  | none => none
  | some (name, sort) =>
    match s.lookUp name (Holding.number? sort) with
    | .ok (_, i) => some ⟨sort, i⟩
    | .error _ => none

/-- What a step does: it calls nobody, or has a live object call those registered with it. -/
inductive Turns (s : State) (st : Step) (s' : State) : Prop
  | quiet (h : Turned [] s s')
  | called {o : Object} (hspeaker : s.speaker? st = some o) (halive : 0 < s.library.holders o)
    (h : Turned (s.library.registered o) s s')

section

variable {st : Step} {name : String}

/-- A live object that was looked up calls whom it has registered. -/
theorem Turns.of_object {α : Type} (sort : ObjectSort) {shelf : Simulated.Shelf α}
    {receivers : α → List Receiver} {p : ℕ × α} (hnamed : s.Named)
    (hobject : s.object name (Holding.number? sort) shelf = .ok p)
    (hshelf : s.library.shelf sort = shelf.holders)
    (hregistered : s.library.registered ⟨sort, p.1⟩ = shelf.receivers receivers p.1)
    (hevent : st.event? = some (name, sort)) (hturn : Turn (receivers p.2) s s') :
    Turns s st s' := by
  obtain ⟨⟨handle, hlookUp⟩, hget⟩ := object_eq_ok hobject
  refine .called (o := ⟨sort, p.1⟩) ?_ ?_ ?_
  · simp only [speaker?, hevent, hlookUp]
  · rw [Library.holders, hshelf]
    exact Simulated.Shelf.holders_of_get? hget
  · rw [hregistered, Simulated.Shelf.receivers_of_get? hget]
    exact hturn.turned hnamed

theorem Turns.of_connection {p : ℕ × Simulated.Connection Receiver}
    (hobject : s.connectionOf name = .ok p) (hnamed : s.Named)
    (hevent : st.event? = some (name, .connection)) (hturn : Turn p.2.receivers s s') :
    Turns s st s' :=
  .of_object .connection hnamed hobject rfl rfl hevent hturn

theorem Turns.of_jobsClient {p : ℕ × JobsClient Receiver}
    (hobject : s.jobsClientOf name = .ok p) (hnamed : s.Named)
    (hevent : st.event? = some (name, .jobsClient)) (hturn : Turn p.2.receivers s s') :
    Turns s st s' :=
  .of_object .jobsClient hnamed hobject rfl rfl hevent hturn

theorem Turns.of_listener {p : ℕ × TunnelingClient Receiver}
    (hobject : s.listenerOf name = .ok p) (hnamed : s.Named)
    (hevent : st.event? = some (name, .tunnelingClient)) (hturn : Turn p.2.receivers s s') :
    Turns s st s' :=
  .of_object .tunnelingClient hnamed hobject rfl rfl hevent hturn

theorem Turns.of_tunnel {p : ℕ × Simulated.Tunnel Receiver}
    (hobject : s.tunnelOf name = .ok p) (hnamed : s.Named)
    (hevent : st.event? = some (name, .tunnel)) (hturn : Turn p.2.receivers s s') :
    Turns s st s' :=
  .of_object .tunnel hnamed hobject rfl rfl hevent hturn

end

theorem turn_answerMade (reporting : Reporting) (answer : String → Answer)
    (result : State × Except ClientError String) :
    Turn told result.1 (answerMade reporting answer result).1 := by
  obtain ⟨s, name | e⟩ := result
  · cases reporting
    · exact .refl s
    · exact s.turn_note _
  · exact .refl s

theorem answerId_fst (result : State × Option ℕ) : (answerId result).1 = result.1 := by
  obtain ⟨s, _ | id⟩ := result <;> rfl

theorem answerRaw_fst (result : State × Except LibraryError String) :
    (answerRaw result).1 = result.1 := by
  obtain ⟨s, _ | name⟩ := result <;> rfl

/-- Building a handle by a plan, with its note before and the answer after it. -/
theorem Outcome.turned {plan : Plan} {sort : String} {base : List Object} {note : Log.Line}
    {result : State × Except ClientError String} (hnamed : s.Named) (hsort : sort.length = 1)
    (h : Outcome plan sort base (s.note note) (held (s.note note).handles) result)
    (reporting : Reporting) (answer : String → Answer) :
    Turned told s (answerMade reporting answer result).1 := by
  have hnote : Turned told s (s.note note) := (s.turn_note note).turned hnamed
  have hbuilt : Turned told (s.note note) result.1 := h.shape.turned hnote.named hsort
  exact (hnote.trans hbuilt).trans ((turn_answerMade ..).turned hbuilt.named)

theorem held_note {note : Log.Line} {o : Object} (h : o ∈ held s.handles) :
    o ∈ held (s.note note).handles := by
  have hturn : Turn [] s (s.note note) := s.turn_note note
  rwa [hturn.steady.handles]

theorem turn_dropEvents (s : State) (name : String) :
    Turn told s { s with
      sessions := s.sessions.map fun (n, session) =>
        if n = name then (n, session.abandon) else (n, session) } := by
  refine ⟨⟨rfl, rfl, .refl _⟩,
    { tells_of_eq rfl rfl rfl rfl with mail := fun x hx hmail => .inl ?_ }⟩
  obtain ⟨y, hy, rfl⟩ := List.mem_map.1 hx
  by_cases hname : y.1 = name
  · simp [hname, Agent.Session.abandon] at hmail
  · simp only [hname, if_false] at hmail ⊢
    exact ⟨y, hy, rfl, hmail⟩

theorem handleEvents_leads (quiet : ∀ s', Turn told s s' → P s') (name : String)
    (topics : List String) (qos : ℤ) : Leads P (s.stepHandleEvents name topics qos) := by
  refine leads_bind fun _ _ => ?_
  split
  · exact leads_throw _
  · next events _ =>
    dsimp only
    have hshown (shown) : Turn told s { s with shown } :=
      ⟨⟨rfl, rfl, .refl _⟩, tells_of_eq rfl rfl rfl rfl⟩
    split
    · exact leads_pure (quiet _ (hshown _))
    · exact leads_pure (quiet _ ((hshown _).trans (turn_handleEvents ..)))

/-- What a step does that is not refused. -/
theorem attempt_turns (hnamed : s.Named) (st : Step) : Leads (Turns s st) (s.attempt st) := by
  -- One case for each step. Most leave the handles alone and call nobody; the events of objects,
  -- the builders and `drop` are the others.
  have quiet {s'} (h : Turn [] s s') : Turns s st s' := .quiet (h.turned hnamed)
  have same : Turns s st s := quiet (.refl s)
  cases st with
  | inject | clear => exact leads_bind fun _ _ => leads_pure (quiet (s.turn_withFaults _))
  | clearFaults => exact leads_pure (quiet (s.turn_withFaults _))
  | panicOn => exact leads_pure (quiet ⟨⟨rfl, rfl, .refl _⟩, tells_of_eq rfl rfl rfl rfl⟩)
  | counts => exact leads_pure same
  | drop h =>
    simp only [attempt]
    split
    · exact leads_throw _
    · next handle hlookup =>
      split
      · exact leads_throw _
      · next hlive =>
        exact leads_pure (.quiet (turned_dropHandle hnamed hlookup (Bool.eq_false_iff.2 hlive)))
  | wraps h =>
    simp only [attempt]
    split
    · exact leads_throw _
    · split
      · exact leads_throw _
      · split
        all_goals first | exact leads_throw _ | exact leads_pure same
  | newClient config reporting session =>
    exact leads_pure (.quiet (Outcome.turned hnamed rfl (newClient_outcome ..) ..))
  | subscribe | subscribeMany =>
    refine leads_bind fun _ _ => leads_bind fun _ _ => leads_pure ?_
    rw [answerId_fst]
    exact quiet (s.turn_onConnection ..)
  | unsubscribe =>
    refine leads_bind fun _ _ => leads_pure ?_
    rw [answerId_fst]
    exact quiet (s.turn_onConnection ..)
  | publish =>
    refine leads_bind fun _ _ => leads_bind fun _ _ => leads_pure ?_
    rw [answerId_fst]
    exact quiet (s.turn_publishTimes ..)
  | disconnect => exact leads_bind fun _ _ => leads_pure (quiet (s.turn_onConnection _ false _))
  | connection | isSubscribed | jobsClient | listener | tunnel =>
    exact leads_bind fun _ _ => leads_pure same
  | fireCompleted h | fireResumed h =>
    exact leads_bind fun _ hobject => leads_bind fun _ _ =>
      leads_pure (.of_connection hobject hnamed rfl (s.turn_fireLifecycle ..))
  | fireClosed h | fireInterrupted h =>
    exact leads_bind fun _ hobject =>
      leads_pure (.of_connection hobject hnamed rfl (s.turn_fireLifecycle ..))
  | receive h =>
    exact leads_bind fun _ hobject => leads_bind fun _ _ =>
      leads_pure (.of_connection hobject hnamed rfl (s.turn_receive ..))
  | ack h =>
    exact leads_bind fun _ hobject =>
      leads_pure (.of_connection hobject hnamed rfl (s.turn_ack ..))
  | ackAll h =>
    exact leads_bind fun _ hobject =>
      leads_pure (.of_connection hobject hnamed rfl (s.turn_ackAll ..))
  | newRawConnection calls lifecycle =>
    refine leads_pure ?_
    rw [answerRaw_fst]
    exact .quiet ((s.newRawConnection_built ..).turned hnamed rfl)
  | connect =>
    exact leads_bind fun _ _ => leads_pure (quiet (s.turn_withLibrary (putConnection_kept ..)))
  | sessionStatus h =>
    simp only [attempt]
    split
    · exact leads_pure same
    · exact leads_throw _
  | dropEvents h =>
    simp only [attempt]
    split
    · exact leads_throw _
    · exact leads_pure (quiet (s.turn_dropEvents h))
  | handleEvents h topics qos => exact handleEvents_leads (fun _ => quiet) h topics qos
  | newQueue m thing qos reporting =>
    exact leads_bind fun _ _ => leads_bind fun _ hi => leads_pure (.quiet
      (Outcome.turned hnamed rfl (s.newQueue_outcome (held_note (held_of_clientOf hi)) thing) ..))
  | newJob m thing job qos reporting =>
    exact leads_bind fun _ _ => leads_bind fun _ hi => leads_pure (.quiet
      (Outcome.turned hnamed rfl (s.newJob_outcome (held_note (held_of_clientOf hi)) thing job) ..))
  | getPending | startNext | describe | update =>
    refine leads_bind fun found _ => ?_
    obtain ⟨handle, j⟩ := found
    dsimp only
    split
    all_goals first
      | exact leads_throw _
      | exact leads_bind fun _ _ => leads_pure (quiet (s.turn_sendRequest ..))
      | exact leads_bind fun _ _ => leads_pure (quiet (s.turn_request ..))
  | completeSubscriptions h =>
    exact leads_bind fun _ hobject =>
      leads_pure (.of_jobsClient hobject hnamed rfl (s.turn_completeSubscriptions ..))
  | completePublishes h =>
    exact leads_bind fun _ hobject =>
      leads_pure (.of_jobsClient hobject hnamed rfl (s.turn_completePublishes ..))
  | fire h =>
    exact leads_bind fun _ hobject => leads_bind fun _ _ =>
      leads_pure (.of_jobsClient hobject hnamed rfl (s.turn_fireJobs ..))
  | newRawJobs =>
    refine leads_bind fun _ _ => leads_pure ?_
    rw [answerRaw_fst]
    exact .quiet (s.newRawJobs_built.turned hnamed rfl)
  | subscribeRawJobs =>
    refine leads_bind fun _ _ => leads_bind fun found _ => ?_
    obtain ⟨handle, j⟩ := found
    dsimp only
    split
    · exact leads_throw _
    · exact leads_bind fun _ _ => leads_pure (quiet (s.turn_subscribeRawJobs ..))
  | newListener m thing qos reporting =>
    exact leads_bind fun _ _ => leads_bind fun _ hi => leads_pure (.quiet
      (Outcome.turned hnamed rfl
        (s.newListener_outcome (held_note (held_of_clientOf hi)) thing _) ..))
  | completeListeners h =>
    exact leads_bind fun _ hobject =>
      leads_pure (.of_listener hobject hnamed rfl (s.turn_completeListeners ..))
  | fireOpened h =>
    exact leads_bind fun _ hobject =>
      leads_pure (.of_listener hobject hnamed rfl (s.turn_fireOpened ..))
  | newTunnel endpoint accessToken mode reporting =>
    exact leads_bind fun _ _ => leads_pure (.quiet
      (Outcome.turned hnamed rfl (newTunnel_outcome ..) ..))
  | newRawTunnel draft =>
    exact leads_bind fun _ _ => leads_pure (.quiet ((s.newRawTunnel_built _).turned hnamed rfl))
  | start => exact leads_bind fun _ _ => leads_pure (quiet (s.turn_startTunnel ..))
  | stop => exact leads_bind fun _ _ => leads_pure (quiet (s.turn_stopTunnel ..))
  | send => exact leads_bind fun _ _ => leads_pure (quiet (s.turn_onTunnel ..))
  | fireTunnel h =>
    exact leads_bind fun _ hobject => leads_bind fun _ _ =>
      leads_pure (.of_tunnel hobject hnamed rfl (s.turn_fireTunnel ..))

theorem step_turns (hnamed : s.Named) (st : Step) : Turns s st (s.step st).1 := by
  unfold step
  split
  · next result heq => exact attempt_turns hnamed st result heq
  · exact .quiet ((Turn.refl s).turned hnamed)

/-! ## Runs -/

/-- Who is called according to a report. -/
def Report.receivers (r : Report) : List Receiver :=
  r.calls.map (fun call => call.2.receiver call.1) ++ r.raw.map (fun _ => .raw) ++
    r.events.map (fun event => .session event.1)

/-- Whether a step calls nobody. -/
def Quiet (s : State) (st : Step) : Prop :=
  (s.run st).2.receivers = [] ∧ (s.run st).1.invocations = s.invocations

/-- Whether a step has an object call, and nobody but those registered with it. -/
def Called (s : State) (st : Step) (o : Object) : Prop :=
  s.speaker? st = some o ∧ ∀ r ∈ (s.run st).2.receivers, r ∈ s.library.registered o

/-- The bench after steps. -/
def after (s : State) (steps : List Step) : State := steps.foldl (fun s st => (s.run st).1) s

/-- Between two steps: the ledger is in balance and all that was told has been taken. -/
structure Sound (s : State) : Prop where
  named : s.Named
  accounts : Accounts s.library (held s.handles)
  journal : s.journal = {}
  mail : ∀ x ∈ s.sessions, x.2.mailbox = []

theorem perm_insertByName {α : Type} (name : String) (a : α) (entries : List (String × α)) :
    (insertByName name a entries).Perm ((name, a) :: entries) := by
  induction entries with
  | nil => exact .refl _
  | cons entry entries ih =>
    rw [insertByName]
    split
    · exact .refl _
    · exact (ih.cons entry).trans (.swap ..)

/-- The sessions in the order of their names are the same sessions. -/
theorem perm_sessionsByName (s : State) : s.sessionsByName.Perm s.sessions := by
  -- Sorting goes through the sessions and adds each to those sorted so far.
  have hfold (entries sorted : List (String × Agent.Session)) :
      (entries.foldl (fun sorted (n, session) => insertByName n session sorted) sorted).Perm
        (entries.reverse ++ sorted) := by
    induction entries generalizing sorted with
    | nil => exact .refl _
    | cons entry entries ih =>
      refine (ih _).trans ?_
      rw [List.reverse_cons, List.append_assoc]
      exact (perm_insertByName ..).append_left _
  refine (hfold s.sessions []).trans ?_
  rw [List.append_nil]
  exact List.reverse_perm _

/-- A report shows nobody who was not called. -/
theorem receivers_of_turned (h : Sound s) {st : Step} (hturned : Turned told s (s.step st).1) :
    ∀ r ∈ (s.run st).2.receivers, r ∈ told := by
  intro r hr
  unfold Report.receivers run at hr
  simp only [List.mem_append, List.mem_map, List.mem_reverse, List.mem_flatMap] at hr
  obtain (⟨x, hx, rfl⟩ | ⟨x, hx, rfl⟩) | ⟨_, ⟨y, hy, e, he, rfl⟩, rfl⟩ := hr
  · obtain hold | hnew := hturned.tells.calls x hx
    · rw [h.journal] at hold
      cases hold
    · exact hnew
  · obtain hold | hnew := hturned.tells.raw
    · rw [hold, h.journal] at hx
      cases hx
    · exact hnew
  · have hmail : y.2.mailbox ≠ [] := List.ne_nil_of_mem he
    obtain ⟨z, hz, -, hmail'⟩ | hnew := hturned.tells.mail y ((perm_sessionsByName _).mem_iff.1 hy) hmail
    · exact absurd (h.mail z hz) hmail'
    · exact hnew

/-- A step calls nobody, or has an object call that a handle holds. -/
theorem Sound.calls (h : Sound s) (st : Step) :
    s.Quiet st ∨ ∃ o ∈ held s.handles, s.Called st o := by
  cases step_turns h.named st with
  | quiet hturned =>
    refine .inl ⟨List.eq_nil_iff_forall_not_mem.2 fun r hr => ?_, hturned.tells.invocations rfl⟩
    exact List.not_mem_nil (receivers_of_turned h hturned r hr)
  | @called o hspeaker halive hturned =>
    refine .inr ⟨o, ?_, hspeaker, receivers_of_turned h hturned⟩
    rwa [h.accounts.count, List.count_pos_iff] at halive

theorem trades_step (hnamed : s.Named) (st : Step) : (s.step st).1.Named ∧
    Trades s.library (held s.handles) (s.step st).1.library (held (s.step st).1.handles) := by
  cases step_turns hnamed st with
  | quiet h | called _ _ h => exact ⟨h.named, h.trades⟩

theorem Sound.run (h : Sound s) (st : Step) : Sound (s.run st).1 := by
  obtain ⟨hnamed, htrades⟩ := trades_step h.named st
  refine ⟨⟨hnamed.distinct, hnamed.numbered⟩, htrades.accounts h.accounts, rfl, fun x hx => ?_⟩
  obtain ⟨y, hy, rfl⟩ := List.mem_map.1 hx
  rfl

theorem Sound.dead (h : Sound s) {o : Object} (hdead : Dead s.library o) (st : Step) :
    Dead (s.run st).1.library o :=
  (trades_step h.named st).2.dead h.accounts hdead

/-- What holds between steps and is kept by each of them holds after all of them. -/
theorem Sound.after (h : Sound s) (steps : List Step) : Sound (s.after steps) := by
  induction steps generalizing s with
  | nil => exact h
  | cons st steps ih => exact ih (h.run st)

theorem Sound.dead_after (h : Sound s) {o : Object} (hdead : Dead s.library o)
    (steps : List Step) : Dead (s.after steps).library o := by
  induction steps generalizing s with
  | nil => exact hdead
  | cons st steps ih => exact ih (h.run st) (h.dead hdead st)

theorem sound_fresh (limits : Log.Limits) (reaction : Reaction) :
    Sound { limits, reaction } where
  named := ⟨List.nodup_nil, fun _ h => by cases h⟩
  accounts := by
    refine ⟨fun o => ?_, rfl⟩
    obtain ⟨sort, n⟩ := o
    cases sort <;> rfl
  journal := rfl
  mail _ h := by cases h

end State

end DeviceLink.Bench
