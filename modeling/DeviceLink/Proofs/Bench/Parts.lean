import DeviceLink.Proofs.Bench.Apart
/-!
# One handle on its own

What the bench has of one handle: its object, whoever its receivers are, the session in the place of
its user, and what was told to them. A step of the handle changes it by what it is and by the faults
in force, and the steps of other handles leave it alone.
-/

namespace DeviceLink.Simulated

/-- Every fault there is. -/
def Fault.all : List Fault :=
  [newConnection, connect, jobsClient, tunnelingClient, notifySubscribe, tunnelBuild,
    operationsRejected] ++
  [.getPendingAccepted, .getPendingRejected, .executionsChanged, .nextExecutionChanged,
    .startNextAccepted, .startNextRejected, .describeAccepted, .describeRejected, .updateAccepted,
    .updateRejected].map subscribe

/-- The faults that are in force. -/
def Faults.ofInForce (inForce : Fault → Bool) : Faults := Fault.all.filter inForce

theorem Fault.mem_all (fault : Fault) : fault ∈ Fault.all := by
  cases fault with
  | subscribe topic => cases topic <;> decide
  | _ => decide

theorem Faults.isSet_ofInForce (inForce : Fault → Bool) :
    (Faults.ofInForce inForce).isSet = inForce := by
  funext fault
  simp [isSet, ofInForce, Fault.mem_all]

end DeviceLink.Simulated

namespace DeviceLink.Bench

open Mqtt Simulated Library

/-- The handle without the numbers of its objects. -/
def Handle.plain (h : Handle) : Handle := ⟨h.holding.plain, h.dropped⟩

/-- An object, whoever its receivers are. -/
def bare (x : Native Receiver) : Native Unit := x.map fun _ => ()

/-- What there is of one handle. -/
structure Part where
  handle : Option Handle
  native : Option (Native Unit)
  session : Option Agent.Session
  shown : Option (List Agent.Event)
  /-- The callbacks that were made, the first thing first. -/
  calls : List Callback

namespace Part

/-- News to the user, who is of a sort. -/
def tell (p : Part) : Receiver → News → Part
  | .client _, .mqtt signal => { p with calls := p.calls ++ signal.callbacks.map .mqtt }
  | .session _, .mqtt signal =>
    { p with session := p.session.map fun session => signal.callbacks.foldl .tell session }
  | .queue _, .jobs signal =>
    { p with calls := p.calls ++ (Jobs.Queue.callback signal).toList.map .queue }
  | .job _, .jobs signal =>
    { p with calls := p.calls ++ (Jobs.Job.callback signal).toList.map .job }
  | .listener _, .listener signal =>
    { p with calls := p.calls ++ (Tunnel.Listener.callback signal).toOption.toList.map .listener }
  | .tunnel _, .tunnel e => { p with calls := p.calls ++ [.tunnel e.callback] }
  | _, _ => p

/-- What is left of the part when its object, which was `x`, has done deeds. -/
def work (p : Part) (holding : Holding) (x : Native Unit) (faults : Faults) (ds : List Deed) :
    Part :=
  let result := x.does faults () ds
  let receiver := holding.receiver "" p.session.isSome
  result.2.foldl (fun p d => p.tell receiver d.2) { p with native := some result.1 }

/-- A step on the handle. -/
def act (p : Part) (handle : Handle) (x : Native Unit) (faults : Faults) : Step → Part
  | .drop _ => { p with handle := some { handle with dropped := true } }
  | .dropEvents _ => { p with session := p.session.map (·.abandon) }
  | .handleEvents _ topics code =>
    match Coded.decode code, p.shown with
    | .ok qos, some events =>
      { p with shown := some [] }.work handle.holding x faults
        (State.handlings handle topics qos events)
    | _, _ => p
  | st => p.work handle.holding x faults (st.deeds handle.holding)

/-- The step that makes the handle. -/
def make (p : Part) (st : Step) : Part :=
  match st.product? "" with
  | some (holding, x) =>
    { p with
      handle := some ⟨holding, false⟩
      native := some (bare x)
      session := p.session.or (if st.seats then some {} else none) }
  | none => p

/-- A step of the handle. -/
def step (p : Part) (faults : Faults) (st : Step) : Part :=
  match p.handle, p.native with
  | some handle, some x => p.act handle x faults st
  | _, _ => p.make st

/-- What the user has heard: callbacks, and the events of a session. -/
def heard (p : Part) : List (Callback ⊕ Agent.Event) :=
  p.calls.map .inl ++ (p.session.elim [] (·.mailbox)).map .inr

/-- The part between two steps, once all that was told has been taken. -/
def rested (p : Part) : Part :=
  { p with
    session := p.session.map fun session => { session with mailbox := [] }
    shown := p.session.map fun session => p.shown.getD [] ++ session.mailbox
    calls := [] }

end Part

namespace State

/-- What the bench has of a handle. -/
def part (s : State) (name : String) : Part where
  handle := (s.handles.lookup name).map Handle.plain
  native := (s.handles.lookup name).bind fun h => (s.library.native? h.holding.own).map bare
  session := s.sessions.lookup name
  shown := s.shown.lookup name
  calls := (s.journal.calls.reverse.filter (·.1 = name)).map (·.2)

variable {s s' : State} {name : String}

/-! ## Telling -/

theorem part_note (s : State) (line : Log.Line) : (s.note line).part = s.part := by
  funext name
  unfold note
  split <;> rfl

theorem part_noteAll (s : State) (lines : List Log.Line) : (s.noteAll lines).part = s.part := by
  induction lines generalizing s with
  | nil => rfl
  | cons line lines ih => exact (ih _).trans (s.part_note line)

/-- A callback is told to one user, if nobody panics. -/
theorem part_invoke (hcalm : s.reaction = calm) (n : String) (c : Callback) (name : String) :
    (s.invoke n c).part name = if n = name then
      { s.part name with calls := (s.part name).calls ++ [c] } else s.part name := by
  unfold invoke
  rw [hcalm]
  by_cases hn : n = name <;> simp [calm, part, hn]

/-- Callbacks to one user. -/
theorem part_invokes {α : Type} (hcalm : s.reaction = calm) (n : String) (call : α → Callback)
    (cs : List α) (name : String) :
    (cs.foldl (fun s c => s.invoke n (call c)) s).part name = if n = name then
      { s.part name with calls := (s.part name).calls ++ cs.map call } else s.part name := by
  induction cs generalizing s with
  | nil => by_cases hn : n = name <;> simp [hn]
  | cons c cs ih =>
    rw [List.foldl_cons, ih ((heard_invoke ..).reaction.trans hcalm), part_invoke hcalm]
    by_cases hn : n = name <;> simp [hn]

theorem part_tellSessions (s : State) (n : String) (cs : List Mqtt.Callback) (name : String) :
    (cs.foldl (fun s c => s.tellSession n c) s).part name = if n = name then
      { s.part name with
        session := (s.part name).session.map fun session => cs.foldl .tell session }
      else s.part name := by
  induction cs generalizing s with
  | nil => by_cases hn : n = name <;> simp [hn]
  | cons c cs ih =>
    have hlookup : (s.tellSession n c).sessions.lookup name =
        (s.sessions.lookup name).map fun session => if name = n then session.tell c else session :=
      lookup_mapAt (fun session : Agent.Session => session.tell c) n s.sessions name
    have hsession : (s.tellSession n c).part name = if n = name then
        { s.part name with session := (s.part name).session.map (·.tell c) } else s.part name := by
      show { s.part name with session := (s.tellSession n c).sessions.lookup name } = _
      rw [hlookup]
      by_cases hn : n = name
      · simp [hn, part]
      · simp [hn, Ne.symm hn, part]
    rw [List.foldl_cons, ih, hsession]
    by_cases hn : n = name <;> simp [hn, Function.comp_def]

/-- News to a user, or to the session in the place of one. -/
theorem part_tell (hcalm : s.reaction = calm) (holding : Holding) (n : String) (seated : Bool)
    (news : News) (name : String) :
    (s.tell (holding.receiver n seated) news).part name = if n = name then
      (s.part name).tell (holding.receiver "" seated) news else s.part name := by
  have hcalls (signal : Signal) :
      (s.noteAll signal.note.toList).reaction = calm := (heard_noteAll ..).reaction.trans hcalm
  cases holding with
  | client i =>
    cases news with
    | mqtt signal =>
      cases seated with
      | true =>
        refine (part_tellSessions ..).trans ?_
        rw [part_noteAll]
        rfl
      | false =>
        refine (part_invokes (hcalls signal) ..).trans ?_
        rw [part_noteAll]
        rfl
    | _ => cases seated <;> exact (ite_self _).symm
  | queue =>
    cases news with
    | jobs signal =>
      simp only [Holding.receiver, tell, tellJobs, Part.tell]
      cases Jobs.Queue.callback signal with
      | none => simp
      | some c => exact part_invoke hcalm ..
    | _ => exact (ite_self _).symm
  | job =>
    cases news with
    | jobs signal =>
      simp only [Holding.receiver, tell, tellJobs, Part.tell]
      cases Jobs.Job.callback signal with
      | none => simp
      | some c => exact part_invoke hcalm ..
    | _ => exact (ite_self _).symm
  | listener =>
    cases news with
    | listener signal =>
      simp only [Holding.receiver, tell, tellListener, Part.tell]
      cases Tunnel.Listener.callback signal with
      | error line => simp [part_note, Except.toOption]
      | ok c => exact part_invoke hcalm ..
    | _ => exact (ite_self _).symm
  | tunnel =>
    cases news with
    | tunnel e => exact part_invoke hcalm ..
    | _ => exact (ite_self _).symm
  | rawConnection | rawJobs | rawTunnel =>
    cases news <;> exact (ite_self _).symm

/-- News one after the other. -/
theorem part_tellAll (hcalm : s.reaction = calm) (holding : Holding) (n : String) (seated : Bool)
    (told : List News) (name : String) :
    (s.tellAll (told.map (holding.receiver n seated, ·))).part name = if n = name then
      told.foldl (·.tell (holding.receiver "" seated)) (s.part name) else s.part name := by
  induction told generalizing s with
  | nil => exact (ite_self _).symm
  | cons news told ih =>
    have hrest := ih ((heard_tell s (holding.receiver n seated) news).reaction.trans hcalm)
    rw [part_tell hcalm] at hrest
    refine hrest.trans ?_
    by_cases hn : n = name <;> simp [hn]

/-! ## Work -/

/-- Whether everyone who is registered with the object of a handle is its user. -/
def Owned (s : State) : Prop :=
  ∀ entry ∈ s.handles, ∀ x, s.library.native? entry.2.holding.own = some x →
    (x.map fun _ => s.receiverOf entry.1 entry.2.holding) = x

theorem receiver_plain (h : Holding) (n : String) (seated : Bool) :
    h.plain.receiver n seated = h.receiver n seated := by
  cases h <;> rfl

/-- An object that is put in the place of the object of one handle. -/
theorem part_putNative (hdistinct : (s.handles.map (·.2.holding.own)).Nodup) {n : String}
    {handle : Handle} {x y : Native Receiver} (hlookup : s.handles.lookup n = some handle)
    (hnative : s.library.native? handle.holding.own = some x) (hsort : y.sort = x.sort)
    (name : String) :
    (s.withLibrary (s.library.putNative handle.holding.own.number y)).part name = if n = name then
      { s.part name with native := some (bare y) } else s.part name := by
  have hput : (s.withLibrary (s.library.putNative handle.holding.own.number y)).part name =
      { s.part name with
        native := (s.handles.lookup name).bind fun other => Option.map bare
          (Function.update s.library.native? handle.holding.own (some y) other.holding.own) } := by
    rw [← native?_putNative_own hnative hsort]
    rfl
  rw [hput]
  by_cases hn : n = name
  · subst hn
    rw [if_pos rfl, hlookup, Option.bind_some, Function.update_self]
    rfl
  · rw [if_neg hn]
    cases hother : s.handles.lookup name with
    | none => simp [part, hother]
    | some other =>
      -- The objects of two handles are two.
      have hne : other.holding.own ≠ handle.holding.own := fun hown =>
        hn (congrArg Prod.fst (List.inj_on_of_nodup_map hdistinct (mem_of_lookup hother)
          (mem_of_lookup hlookup) hown)).symm
      simp [part, hother, Function.update_of_ne hne]

/-- The work of the object of a handle whose receivers are all its user. -/
theorem part_work (hcalm : s.reaction = calm)
    (hdistinct : (s.handles.map (·.2.holding.own)).Nodup) {n : String} {handle : Handle}
    {x : Native Receiver} (hlookup : s.handles.lookup n = some handle)
    (hnative : s.library.native? handle.holding.own = some x)
    (howned : (x.map fun _ => s.receiverOf n handle.holding) = x) {faults : Faults}
    (hfaults : faults.isSet = s.library.faults.isSet) (ds : List Deed) (name : String) :
    (s.work n handle.holding x ds).part name = if n = name then
      (s.part name).work handle.holding.plain (bare x) faults ds else s.part name := by
  let r := s.receiverOf n handle.holding
  let told := (x.does s.library.faults r ds).2.map (·.2)
  have hbare : (bare x).does faults () ds = _ := x.does_map (f := fun _ => ()) hfaults r ds
  have htold : (x.does s.library.faults r ds).2 = told.map (r, ·) :=
    (Native.does_of_one howned s.library.faults ds).2
  let put := s.withLibrary
    (s.library.putNative handle.holding.own.number (x.does s.library.faults r ds).1)
  show (put.tellAll (x.does s.library.faults r ds).2).part name = _
  rw [htold]
  refine (part_tellAll (s := put) hcalm handle.holding n (s.sessions.lookup n).isSome told
    name).trans ?_
  rw [part_putNative hdistinct hlookup hnative (x.sort_does ..)]
  by_cases hn : n = name
  · subst hn
    rw [if_pos rfl, if_pos rfl, if_pos rfl, Part.work, hbare]
    simp only [told, List.foldl_map, receiver_plain]
    rfl
  · rw [if_neg hn, if_neg hn, if_neg hn]

/-! ## Other effects -/

theorem Rests.part (hrests : Rests s s') (h : s.Apart) : s'.part = s.part := by
  funext name
  unfold State.part
  rw [hrests.handles, hrests.sessions, hrests.shown, hrests.calls]
  cases hlookup : s.handles.lookup name with
  | none => rfl
  | some handle =>
    obtain ⟨x, hx⟩ := h.native hlookup
    simp only [Option.bind_some, hx, hrests.natives _ x hx]

/-- What a handle is made as depends on its name only as its user does. -/
theorem product?_bare (st : Step) (n n' : String) :
    (st.product? n).map (Prod.map id bare) = (st.product? n').map (Prod.map id bare) := by
  cases st with
  | newClient config reporting session =>
    simp only [Step.product?]
    split <;> cases session <;> rfl
  | newListener | newTunnel =>
    simp only [Step.product?]
    split <;> rfl
  | _ => rfl

theorem Builds.part {st : Step} {n : String} {holding : Holding} {x : Native Receiver}
    (hbuilds : Builds s st s' n holding x) (h : s.Apart) (name : String) :
    s'.part name = if n = name then (s.part name).make st else s.part name := by
  have hsessions : s'.sessions.lookup name =
      (s.sessions.lookup name).or (if n = name ∧ st.seats then some {} else none) := by
    rw [hbuilds.sessions, List.lookup_append]
    by_cases hn : n = name
    · cases st.seats <;> simp [hn]
    · have hne : (name == n) = false := beq_eq_false_iff_ne.2 fun heq => hn heq.symm
      cases st.seats <;> simp [List.lookup_cons, hne, hn]
  by_cases hn : n = name
  · subst hn
    have hproduct : (st.product? "").map (Prod.map id bare) = some (holding.plain, bare x) := by
      rw [product?_bare st "" n, hbuilds.product]
      rfl
    obtain ⟨⟨plain, y⟩, hy, heq⟩ := Option.map_eq_some_iff.1 hproduct
    obtain ⟨rfl, hbare⟩ : plain = holding.plain ∧ bare y = bare x := Prod.mk.inj heq
    rw [if_pos rfl, Part.make, hy]
    unfold State.part
    rw [hbuilds.lookup, hsessions, hbuilds.shown, hbuilds.calls, if_pos rfl]
    simp [hbuilds.adds.native?, hbare, Handle.plain]
  · have hne : name ≠ n := fun heq => hn heq.symm
    rw [if_neg hn]
    unfold State.part
    rw [hbuilds.lookup, hsessions, hbuilds.shown, hbuilds.calls, if_neg hne]
    cases hlookup : s.handles.lookup name with
    | none => simp [hn]
    | some handle =>
      obtain ⟨y, hy⟩ := h.native hlookup
      simp [hn, hy, (hbuilds.adds.kept hy).2]

theorem part_dropHandle {n : String} {handle : Handle}
    (hlookup : s.handles.lookup n = some handle) (name : String) :
    (s.dropHandle n handle).part name = if n = name then
      { s.part name with handle := some { handle.plain with dropped := true } }
      else s.part name := by
  unfold State.part
  rw [lookup_dropHandle]
  have hnatives : (s.dropHandle n handle).library.native? = s.library.native? := native?_letGo ..
  rw [hnatives]
  by_cases hn : n = name
  · subst hn
    simp [hlookup, Handle.plain, dropHandle]
  · have hne : name ≠ n := fun heq => hn heq.symm
    simp [hn, hne, dropHandle]

theorem part_taken (s : State) (n name : String) :
    (s.taken n).part name = if n = name then
      { s.part name with shown := (s.part name).shown.map fun _ => [] } else s.part name := by
  have hshown : (s.taken n).shown.lookup name =
      (s.shown.lookup name).map fun events => if name = n then [] else events :=
    lookup_mapAt (fun _ : List Agent.Event => []) n s.shown name
  show { s.part name with shown := (s.taken n).shown.lookup name } = _
  rw [hshown]
  by_cases hn : n = name
  · simp [hn, part]
  · have hne : name ≠ n := fun heq => hn heq.symm
    simp [hn, hne, part]

theorem part_abandon (s : State) (n name : String) :
    ({ s with
      sessions := s.sessions.map fun (m, session) =>
        if m = n then (m, session.abandon) else (m, session) } : State).part name =
      if n = name then { s.part name with session := (s.part name).session.map (·.abandon) }
      else s.part name := by
  have hlookup : (s.sessions.map fun (m, session) =>
      if m = n then (m, session.abandon) else (m, session)).lookup name =
        (s.sessions.lookup name).map fun session => if name = n then session.abandon else session :=
    lookup_mapAt Agent.Session.abandon n s.sessions name
  unfold State.part
  dsimp only
  rw [hlookup]
  by_cases hn : n = name
  · simp [hn]
  · have hne : name ≠ n := fun heq => hn heq.symm
    simp [hn, hne]

/-! ## Steps -/

theorem deeds_plain (st : Step) (h : Holding) : st.deeds h.plain = st.deeds h := by
  cases st <;> first | rfl | (cases h <;> rfl)

theorem handlings_plain (h : Handle) (topics : List String) (qos : Qos)
    (events : List Agent.Event) :
    handlings h.plain topics qos events = handlings h topics qos events := by
  obtain ⟨holding, dropped⟩ := h
  cases holding <;> rfl

theorem subject?_of_worker {st : Step} {n : String} (h : st.worker? = some n) :
    st.subject? = some n := by
  cases st <;> first | exact h | cases h

theorem subject?_of_product {st : Step} {n : String} {made : Holding × Native Receiver}
    (h : st.product? n = some made) : st.subject? = none := by
  cases st <;> first | rfl | cases h

theorem act_of_worker {st : Step} {n : String} (h : st.worker? = some n) (p : Part)
    (handle : Handle) (x : Native Unit) (faults : Faults) :
    p.act handle x faults st = p.work handle.holding x faults (st.deeds handle.holding) := by
  cases st <;> first | rfl | cases h

theorem part_step {handle : Handle} {x : Native Receiver}
    (hlookup : s.handles.lookup name = some handle)
    (hnative : s.library.native? handle.holding.own = some x) (faults : Faults) (st : Step) :
    (s.part name).step faults st = (s.part name).act handle.plain (bare x) faults st := by
  have hhandle : (s.part name).handle = some handle.plain := by rw [part, hlookup]; rfl
  have hbare : (s.part name).native = some (bare x) := by
    rw [part, hlookup, Option.bind_some, hnative]
    rfl
  rw [Part.step, hhandle, hbare]

section

variable {st : Step} {faults : Faults}

/-- A step on another handle leaves the part of this one as it is. -/
theorem Effect.part_other (heffect : Effect s st s') (hcalm : s.reaction = calm) (h : s.Apart)
    (howned : s.Owned)
    (hsubject : ∀ handle, s.handles.lookup name = some handle → st.subject? ≠ some name)
    (hbuilt : s.handles.lookup name = none → s'.handles.lookup name = none) :
    s'.part name = s.part name := by
  have hne {n : String} {handle : Handle} (hlookup : s.handles.lookup n = some handle)
      (hn : st.subject? = some n) : n ≠ name := by
    rintro rfl
    exact hsubject handle hlookup hn
  cases heffect with
  | refused => rfl
  | rests _ hrests => rw [hrests.part h]
  | @builds _ _ n _ _ hbuilds =>
    have hn : n ≠ name := by
      rintro rfl
      have habsent := hbuilt (lookup_of_notMem hbuilds.fresh)
      rw [hbuilds.lookup, if_pos rfl] at habsent
      cases habsent
    rw [hbuilds.part h, if_neg hn]
  | works hworker hlookup hnative lines =>
    rw [part_noteAll, part_work hcalm h.distinct hlookup hnative
      (howned _ (mem_of_lookup hlookup) _ hnative) rfl,
      if_neg (hne hlookup (subject?_of_worker hworker))]
  | @handles n _ _ _ _ _ _ hlookup hnative _ _ lines =>
    rw [part_noteAll, part_work (s := s.taken n) hcalm h.distinct hlookup hnative
      (howned _ (mem_of_lookup hlookup) _ hnative) rfl, part_taken, if_neg (hne hlookup rfl),
      if_neg (hne hlookup rfl)]
  | drops hlookup => rw [part_dropHandle hlookup, if_neg (hne hlookup rfl)]
  | @abandons n session hlookup =>
    obtain ⟨handle, hhandle⟩ := h.handle_of_seat (List.mem_map_of_mem (mem_of_lookup hlookup))
    rw [part_abandon, if_neg (hne hhandle rfl)]

/-- A step on a handle that is not refused. -/
theorem Effect.part_own (heffect : Effect s st s') (hcalm : s.reaction = calm) (h : s.Apart)
    (howned : s.Owned) (hfaults : faults.isSet = s.library.faults.isSet) {handle : Handle}
    (hlookup : s.handles.lookup name = some handle) (hsubject : st.subject? = some name)
    (haccepted : ∀ answer, s.attempt st ≠ .error answer) :
    s'.part name = (s.part name).step faults st := by
  obtain ⟨x, hnative⟩ := h.native hlookup
  rw [part_step hlookup hnative]
  cases heffect with
  | refused hrefused => exact absurd hrefused (haccepted _)
  | rests hnone => rw [hnone] at hsubject; cases hsubject
  | builds hbuilds => rw [subject?_of_product hbuilds.product] at hsubject; cases hsubject
  | works hworker hlookup' hnative' lines =>
    obtain rfl := Option.some.inj ((subject?_of_worker hworker).symm.trans hsubject)
    obtain rfl := Option.some.inj (hlookup.symm.trans hlookup')
    obtain rfl := Option.some.inj (hnative.symm.trans hnative')
    rw [part_noteAll, part_work hcalm h.distinct hlookup hnative
      (howned _ (mem_of_lookup hlookup) _ hnative) hfaults, if_pos rfl, act_of_worker hworker]
    exact congrArg _ (deeds_plain st handle.holding).symm
  | @handles n _ _ topics code qos events hlookup' hnative' hqos hshown lines =>
    obtain rfl : n = name := Option.some.inj hsubject
    obtain rfl := Option.some.inj (hlookup.symm.trans hlookup')
    obtain rfl := Option.some.inj (hnative.symm.trans hnative')
    have hevents : (s.part n).shown = some events := hshown
    rw [part_noteAll, part_work (s := s.taken n) hcalm h.distinct hlookup hnative
      (howned _ (mem_of_lookup hlookup) _ hnative) hfaults, part_taken, if_pos rfl, if_pos rfl]
    simp only [Part.act, hqos, hevents, handlings_plain]
    rfl
  | @drops n _ hlookup' =>
    obtain rfl : n = name := Option.some.inj hsubject
    obtain rfl := Option.some.inj (hlookup.symm.trans hlookup')
    rw [part_dropHandle hlookup, if_pos rfl]
    rfl
  | @abandons n _ _ =>
    obtain rfl : n = name := Option.some.inj hsubject
    rw [part_abandon, if_pos rfl]
    rfl

/-- A step that makes the handle. -/
theorem Effect.part_made (heffect : Effect s st s') (h : s.Apart)
    (hlookup : s.handles.lookup name = none) (hmade : s'.handles.lookup name ≠ none) :
    s'.part name = (s.part name).step faults st := by
  have hmake : (s.part name).step faults st = (s.part name).make st := by
    have hhandle : (s.part name).handle = none := by rw [part, hlookup]; rfl
    rw [Part.step, hhandle]
  have hkept (hhandles : s'.handles = s.handles) : False := hmade (hhandles ▸ hlookup)
  rw [hmake]
  cases heffect with
  | refused => exact absurd hlookup hmade
  | rests _ hrests => exact (hkept hrests.handles).elim
  | @builds _ _ n _ _ hbuilds =>
    have hn : n = name := by
      by_contra hn
      rw [hbuilds.lookup, if_neg fun heq => hn heq.symm] at hmade
      exact hmade hlookup
    rw [hbuilds.part h, if_pos hn]
  | works => exact (hkept (heard_work ..).handles).elim
  | handles => exact (hkept (heard_work ..).handles).elim
  | drops =>
    rw [lookup_dropHandle, hlookup] at hmade
    exact absurd rfl hmade
  | abandons => exact (hkept rfl).elim

/-- Deeds that are refused though the handle was not dropped. -/
theorem act_of_refused (h : s.Apart) {holding : Holding} {x : Native Receiver}
    (hlookup : s.handles.lookup name = some ⟨holding, false⟩)
    (hnative : s.library.native? holding.own = some x) (hworker : st.worker? = some name)
    {answer : Answer} (hrefused : s.attempt st = .error answer) :
    (s.part name).act (Handle.plain ⟨holding, false⟩) (bare x) faults st = s.part name := by
  have hbare : (s.part name).native = some (bare x) := by
    rw [part, hlookup, Option.bind_some, hnative]
    rfl
  have hidle : st.deeds (Handle.plain ⟨holding, false⟩).holding = [] :=
    (deeds_plain st holding).trans (idle_of_refused h hlookup hworker answer hrefused)
  rw [act_of_worker hworker, hidle]
  show { s.part name with native := some (bare x) } = _
  rw [← hbare]

/-- A step that is refused though the handle was not dropped. -/
theorem part_refused (h : s.Apart) {holding : Holding}
    (hlookup : s.handles.lookup name = some ⟨holding, false⟩) (hsubject : st.subject? = some name)
    {answer : Answer} (hrefused : s.attempt st = .error answer) :
    (s.part name).step faults st = s.part name := by
  obtain ⟨x, hnative⟩ := h.native hlookup
  rw [part_step hlookup hnative]
  cases st with
  | drop n =>
    obtain rfl : n = name := Option.some.inj hsubject
    rw [attempt, hlookup] at hrefused
    cases hrefused
  | dropEvents n =>
    obtain rfl : n = name := Option.some.inj hsubject
    cases hsession : s.sessions.lookup n with
    | none => simp [Part.act, part, hsession]
    | some session =>
      rw [attempt, hsession] at hrefused
      cases hrefused
  | handleEvents n topics code =>
    obtain rfl : n = name := Option.some.inj hsubject
    cases hcode : (Coded.decode code : Except UnknownCode Qos) with
    | error e => simp only [Part.act, hcode]
    | ok qos =>
      cases hshown : s.shown.lookup n with
      | none => simp only [Part.act, hcode, part, hshown]
      | some events =>
        -- The events are there to be taken, whatever comes of it.
        have hended : Ends False (s.attempt (.handleEvents n topics code)) := by
          refine ends_bind ?_ fun _ _ => ?_
          · rw [decoded, hcode]
            rintro _ ⟨⟩
          · rw [hshown]
            dsimp only
            split <;> exact ends_pure _
        exact (hended _ hrefused).elim
  | _ =>
    refine act_of_refused h hlookup hnative ?_ hrefused
    exact hsubject

end

/-! ## Reports -/

/-- A part between two steps, once all that was told has been taken. -/
theorem part_rested (s : State) (name : String) : s.rested.part name = (s.part name).rested := by
  have hsession : s.rested.sessions.lookup name =
      (s.sessions.lookup name).map fun session => { session with mailbox := [] } :=
    lookup_map_value (fun _ (session : Agent.Session) =>
      ({ session with mailbox := [] } : Agent.Session)) name s.sessions
  have hshown : s.rested.shown.lookup name = (s.sessions.lookup name).map fun session =>
      (s.shown.lookup name).getD [] ++ session.mailbox :=
    lookup_map_value (fun n (session : Agent.Session) =>
      (s.shown.lookup n).getD [] ++ session.mailbox) name s.sessions
  unfold part
  rw [hsession, hshown]
  rfl

/-- Between two steps nothing is left to be heard. -/
theorem Apart.heard_part (h : s.Apart) (name : String) : (s.part name).heard = [] := by
  have hmail : (s.sessions.lookup name).elim [] (·.mailbox) = [] := by
    cases hlookup : s.sessions.lookup name with
    | none => rfl
    | some session => exact h.sound.mail _ (mem_of_lookup hlookup)
  simp [part, Part.heard, h.sound.journal, hmail]

theorem Apart.rested_part (h : s.Apart) (name : String) :
    (s.part name).rested = s.part name := by
  have hseat : (s.shown.lookup name).isSome = (s.sessions.lookup name).isSome := by
    rw [isSome_lookup, isSome_lookup, h.shown]
  unfold part Part.rested
  cases hlookup : s.sessions.lookup name with
  | none =>
    rw [hlookup] at hseat
    simp [Option.not_isSome_iff_eq_none.1 (Bool.not_eq_true _ ▸ hseat), h.sound.journal]
  | some session =>
    rw [hlookup] at hseat
    obtain ⟨events, hevents⟩ := Option.isSome_iff_exists.1 hseat
    have hmail : session.mailbox = [] := h.sound.mail _ (mem_of_lookup hlookup)
    obtain ⟨status, mailbox, isOpen⟩ := session
    obtain rfl : mailbox = [] := hmail
    simp [hevents, h.sound.journal]

end State

end DeviceLink.Bench
