import DeviceLink.Bench.Script
import DeviceLink.Proofs.Bench.Panics
import DeviceLink.Proofs.Bench.Parts
/-!
# Handles are isolated

What the user of a handle hears depends on nothing but the steps of the handle and the faults in
force at each of them. It is the same whatever other handles there are, in between and before, and
whatever becomes of them.
-/

namespace DeviceLink.Bench

open Mqtt Simulated Library

/-! ## Steps -/

namespace Step

/-- Whether the handlers that a step registers without a handle are all of the bench's own. -/
def Plain : Step → Prop
  | newRawConnection _ lifecycle => lifecycle.map (fun _ => Receiver.raw) = lifecycle
  | newRawTunnel (.ok draft) => ∀ entry ∈ draft.slots, entry.2 = Receiver.raw
  | _ => True

/-- The same step under another name of its handle, or of the client that its handle is made
with. -/
def onto (name : String) : Step → Step
  | drop _ => drop name
  | subscribe _ topic qos => subscribe name topic qos
  | subscribeMany _ topics qos => subscribeMany name topics qos
  | unsubscribe _ topic => unsubscribe name topic
  | publish _ topic qos retain payload times => publish name topic qos retain payload times
  | disconnect _ => disconnect name
  | fireCompleted _ code returnCode sessionPresent =>
    fireCompleted name code returnCode sessionPresent
  | fireClosed _ => fireClosed name
  | fireInterrupted _ code => fireInterrupted name code
  | fireResumed _ returnCode sessionPresent => fireResumed name returnCode sessionPresent
  | receive _ topic payload dup qos retain => receive name topic payload dup qos retain
  | ack _ id code => ack name id code
  | ackAll _ code => ackAll name code
  | connect _ options => connect name options
  | dropEvents _ => dropEvents name
  | handleEvents _ topics qos => handleEvents name topics qos
  | newQueue _ thing qos reporting => newQueue name thing qos reporting
  | newJob _ thing job qos reporting => newJob name thing job qos reporting
  | getPending _ token qos => getPending name token qos
  | startNext _ token qos request => startNext name token qos request
  | describe _ token qos request => describe name token qos request
  | update _ token qos request => update name token qos request
  | completeSubscriptions _ ioError => completeSubscriptions name ioError
  | completePublishes _ ioError => completePublishes name ioError
  | fire _ event ioError => fire name event ioError
  | newRawJobs _ => newRawJobs name
  | subscribeRawJobs _ topic qos scope => subscribeRawJobs name topic qos scope
  | newListener _ thing qos reporting => newListener name thing qos reporting
  | completeListeners _ code => completeListeners name code
  | fireOpened _ response ioError => fireOpened name response ioError
  | start _ => start name
  | stop _ => stop name
  | send _ m => send name m
  | fireTunnel _ event => fireTunnel name event
  | st => st

theorem plain_registerAll (draft : Tunnel.Draft Receiver) (slots : List Tunnel.Slot)
    (h : ∀ entry ∈ draft.slots, entry.2 = Receiver.raw) :
    ∀ entry ∈ (draft.registerAll slots Receiver.raw).slots, entry.2 = Receiver.raw := by
  induction slots generalizing draft with
  | nil => exact h
  | cons slot slots ih =>
    refine ih _ fun entry hentry => ?_
    obtain rfl | hentry := List.mem_cons.1 hentry
    · rfl
    · exact h entry (List.mem_of_mem_filter hentry)

/-- The handlers of a step of a script are the bench's own. -/
theorem plain_of_ofJson? {v : Json.Value} {st : Step} (h : ofJson? v = some st) : st.Plain := by
  unfold ofJson? at h
  dsimp only at h
  split at h
  all_goals cases h
  -- Two sorts of steps register handlers.
  all_goals try trivial
  · have hslot (c : Prop) [Decidable c] : (if c then some Receiver.raw else none).map
        (fun _ => Receiver.raw) = if c then some Receiver.raw else none := by split <;> rfl
    simp only [Plain, Lifecycle.map, Lifecycle.ofJson, hslot]
  · unfold Tunnel.Draft.ofJson
    cases Tunnel.Mode.ofName (v.textAt? "mode") with
    | error e => trivial
    | ok mode => exact plain_registerAll _ _ nofun

end Step

namespace Part

/-- What the user of a handle hears of its steps, one after the other. -/
def replay (p : Part) : List ((Fault → Bool) × Step) → List (Callback ⊕ Agent.Event)
  | [] => []
  | (inForce, st) :: record =>
    let p := p.step (.ofInForce inForce) st
    p.heard ++ p.rested.replay record

theorem act_onto (p : Part) (handle : Handle) (x : Native Unit) (faults : Faults) (name : String)
    (st : Step) : p.act handle x faults (st.onto name) = p.act handle x faults st := by
  cases st <;> rfl

theorem make_onto (p : Part) (name : String) (st : Step) : p.make (st.onto name) = p.make st := by
  cases st <;> rfl

/-- It does not matter to a part what it is called. -/
theorem step_onto (p : Part) (faults : Faults) (name : String) (st : Step) :
    p.step faults (st.onto name) = p.step faults st := by
  unfold step
  split
  · exact act_onto ..
  · exact make_onto ..

end Part

namespace State

/-- What the user of a handle hears of a step: callbacks, and the events of a session. -/
def Report.heardBy (r : Report) (name : String) : List (Callback ⊕ Agent.Event) :=
  (r.calls.filter (·.1 = name)).map (.inl ·.2) ++ (r.events.filter (·.1 = name)).map (.inr ·.2)

/-- Whether a step is one of a handle: it makes the handle, or is on it. A step that comes after the
handle was dropped is on it only if there still is what it is for. -/
def concerns (s : State) (name : String) (st : Step) : Bool :=
  match s.handles.lookup name with
  | some handle => decide (st.subject? = some name) && (!handle.dropped || (s.attempt st).isOk)
  | none => ((s.run st).1.handles.lookup name).isSome

/-- The steps of a handle among steps, each with the faults in force. -/
def record (s : State) (name : String) : List Step → List ((Fault → Bool) × Step)
  | [] => []
  | st :: steps =>
    (if s.concerns name st then [(s.library.faults.isSet, st.onto "")] else []) ++
      (s.run st).1.record name steps

/-- What the user of a handle hears of steps, at whatever callbacks there are panics. -/
def received (s : State) (name : String) : List Step → List (Callback ⊕ Agent.Event)
  | [] => []
  | st :: steps =>
    ((s.withReaction calm).run st).2.heardBy name ++ (s.run st).1.received name steps

variable {s s' : State} {name : String} {st : Step}

/-! ## Who is registered -/

/-- Who has been the user of a handle stays so. -/
theorem Effect.receiverOf (heffect : Effect s st s') {entry : String × Handle}
    (hentry : entry ∈ s.handles) : s'.receiverOf entry.1 = s.receiverOf entry.1 := by
  have hnames (hsame : s'.sessions.map (·.1) = s.sessions.map (·.1)) :
      s'.receiverOf entry.1 = s.receiverOf entry.1 := by rw [receiverOf_of_names hsame]
  cases heffect with
  | refused => rfl
  | rests _ hrests => exact hnames (by rw [hrests.sessions])
  | @builds _ _ n _ _ hbuilds =>
    have hne : (entry.1 == n) = false := by
      refine beq_eq_false_iff_ne.2 fun heq => hbuilds.fresh ?_
      exact heq ▸ List.mem_map_of_mem hentry
    funext holding
    rw [State.receiverOf, State.receiverOf, hbuilds.sessions, List.lookup_append]
    cases st.seats <;> simp [List.lookup_cons, hne]
  | works => exact hnames (heard_work ..).names
  | handles => exact hnames (heard_work ..).names
  | drops => rfl
  | abandons => exact hnames (map_fst_mapAt Agent.Session.abandon _ s.sessions)

theorem product?_owned {holding : Holding} {x : Native Receiver} (hplain : st.Plain)
    (hproduct : st.product? name = some (holding.plain, x)) :
    (x.map fun _ => holding.receiver name st.seats) = x := by
  cases st with
  | newClient config reporting session =>
    simp only [Step.product?] at hproduct
    split at hproduct
    · obtain ⟨hholding, rfl⟩ := Prod.mk.inj (Option.some.inj hproduct)
      cases holding with
      | client => rfl
      | _ => cases hholding
    · cases hproduct
  | newRawConnection calls lifecycle =>
    simp only [Step.product?] at hproduct
    split at hproduct
    · next config hconfig =>
      obtain ⟨hholding, rfl⟩ := Prod.mk.inj (Option.some.inj hproduct)
      cases holding with
      | rawConnection =>
        exact congrArg (fun l => Native.connection { config, lifecycle := l }) hplain
      | _ => cases hholding
    · cases hproduct
  | newRawTunnel draft =>
    simp only [Step.product?] at hproduct
    split at hproduct
    · next draft =>
      obtain ⟨hholding, rfl⟩ := Prod.mk.inj (Option.some.inj hproduct)
      cases holding with
      | rawTunnel =>
        have hraw (entry) (hentry : entry ∈ draft.slots) :
            Prod.map id (fun _ => Receiver.raw) entry = id entry :=
          Prod.ext rfl (hplain entry hentry).symm
        have hslots : draft.slots.map (Prod.map id fun _ => Receiver.raw) = draft.slots :=
          (List.map_congr_left hraw).trans (List.map_id _)
        exact congrArg (fun slots => Native.tunnel { draft := { draft with slots } }) hslots
      | _ => cases hholding
    · cases hproduct
  | newListener | newTunnel =>
    simp only [Step.product?] at hproduct
    split at hproduct
    · obtain ⟨hholding, rfl⟩ := Prod.mk.inj (Option.some.inj hproduct)
      cases holding with
      | listener | tunnel => first | rfl | cases hholding
      | _ => cases hholding
    · cases hproduct
  | newQueue | newJob | newRawJobs =>
    obtain ⟨hholding, rfl⟩ := Prod.mk.inj (Option.some.inj hproduct)
    cases holding with
    | queue | job | rawJobs => first | rfl | cases hholding
    | _ => cases hholding
  | _ => cases hproduct

theorem Owned.step (howned : s.Owned) (h : s.Apart) (hplain : st.Plain) : (s.step st).1.Owned := by
  have heffect := step_effect h st
  refine heffect.each (P := fun n holding x =>
    (x.map fun _ => (s.step st).1.receiverOf n holding) = x) h
    (fun n holding x hproduct hreceiver => ?_) (fun n holding x ds hreceiver hx => ?_)
    fun entry hentry x hx => ?_
  · rw [hreceiver]
    exact product?_owned hplain hproduct
  · rw [hreceiver] at hx ⊢
    exact (Native.does_of_one hx s.library.faults ds).1
  · rw [heffect.receiverOf hentry]
    exact howned entry hentry x hx

theorem Owned.run (howned : s.Owned) (h : s.Apart) (hplain : st.Plain) : (s.run st).1.Owned := by
  have hnames : (s.run st).1.receiverOf = (s.step st).1.receiverOf := by
    refine receiverOf_of_names ?_
    show List.map Prod.fst ((s.step st).1.sessions.map _) = _
    rw [List.map_map]
    rfl
  intro entry hentry x hx
  rw [hnames]
  exact howned.step h hplain entry hentry x hx

/-! ## Reports -/

/-- Under names that are all different, what is told with a name is what is told under it. -/
theorem told_of_name {sessions : List (String × Agent.Session)}
    (hn : (sessions.map (·.1)).Nodup) (name : String) :
    ((sessions.flatMap fun entry => entry.2.mailbox.map (entry.1, ·)).filter (·.1 = name)).map
      (·.2) = (sessions.lookup name).elim [] (·.mailbox) := by
  induction sessions with
  | nil => rfl
  | cons entry sessions ih =>
    obtain ⟨hnot, hrest⟩ := List.nodup_cons.1 hn
    rw [List.flatMap_cons, List.filter_append, List.map_append, ih hrest, List.lookup_cons]
    by_cases hname : entry.1 = name
    · subst hname
      simp [lookup_of_notMem hnot, List.filter_map, Function.comp_def]
    · have hne : (name == entry.1) = false := beq_eq_false_iff_ne.2 fun heq => hname heq.symm
      simp [hne, hname]

theorem lookup_of_perm {α : Type} {l l' : List (String × α)} (hperm : l.Perm l')
    (hn : (l'.map (·.1)).Nodup) (name : String) : l.lookup name = l'.lookup name := by
  have hn' : (l.map (·.1)).Nodup := (hperm.map _).nodup_iff.2 hn
  cases hlookup : l'.lookup name with
  | some a => exact lookup_of_mem hn' (hperm.mem_iff.2 (mem_of_lookup hlookup))
  | none =>
    refine lookup_of_notMem fun hmem => ?_
    obtain ⟨entry, hentry, rfl⟩ := List.mem_map.1 hmem
    rw [lookup_of_mem hn (hperm.mem_iff.1 hentry)] at hlookup
    cases hlookup

/-- What the user of a handle hears of a step is what there is to be heard of the handle. -/
theorem heardBy_run (hseats : ((s.step st).1.sessions.map (·.1)).Nodup) (name : String) :
    (s.run st).2.heardBy name = ((s.step st).1.part name).heard := by
  have hsorted := perm_sessionsByName (s.step st).1
  have htold := told_of_name ((hsorted.map _).nodup_iff.2 hseats) name
  rw [lookup_of_perm hsorted hseats] at htold
  rw [Report.heardBy, Part.heard]
  refine congrArg₂ (· ++ ·) ?_ ?_
  · show _ = (((s.step st).1.journal.calls.reverse.filter (·.1 = name)).map (·.2)).map Sum.inl
    rw [List.map_map]
    rfl
  · show _ = (((s.step st).1.sessions.lookup name).elim [] (·.mailbox)).map Sum.inr
    rw [← htold, List.map_map]
    rfl

/-! ## One step -/

theorem Apart.withReaction (h : s.Apart) (reaction : Reaction) :
    (s.withReaction reaction).Apart where
  sound :=
    { named := ⟨h.sound.named.distinct, h.sound.named.numbered⟩
      accounts := h.sound.accounts
      journal := h.sound.journal
      mail := h.sound.mail }
  seated := h.seated
  seats := h.seats
  shown := h.shown
  distinct := h.distinct
  natives := h.natives

theorem isOk_attempt (h : s.Apart) (hst : st.recasts = false) :
    ((s.withReaction calm).attempt st).isOk = (s.attempt st).isOk := by
  have htried : BesideTried _ _ _ (s.attempt st) ((s.withReaction calm).attempt st) :=
    (beside_calm h.sound.journal h.seated s.reaction).attempt hst
  generalize s.attempt st = tried at htried
  generalize (s.withReaction calm).attempt st = calmly at htried
  cases htried <;> rfl

/-- A run with calm users leaves the same but for them. -/
theorem part_run (h : s.Apart) (st : Step) (name : String) :
    (s.run st).1.part name = (((s.withReaction calm).step st).1.part name).rested ∧
      (s.run st).1.handles = ((s.withReaction calm).step st).1.handles := by
  cases hst : st.recasts with
  | true =>
    cases st with
    | panicOn => exact ⟨part_rested .., rfl⟩
    | _ => cases hst
  | false =>
    obtain ⟨-, hsame, -⟩ := run_withReaction h.sound.journal h.seated s.reaction hst
    have hrun : (s.run st).1 = ((s.withReaction calm).run st).1.withReaction s.reaction := hsame
    rw [hrun]
    exact ⟨part_rested ((s.withReaction calm).step st).1 name, rfl⟩

theorem recasts_of_subject (h : st.subject? = some name) : st.recasts = false := by
  cases st <;> first | rfl | cases h

/-- What a step leaves of a handle, with calm users: if it is one of the handle, what follows from
what the handle is and from the faults in force, and otherwise what there was. -/
theorem part_concerned (h : s.Apart) (howned : s.Owned) (st : Step) (name : String) :
    ((s.withReaction calm).step st).1.part name =
      if s.concerns name st then
        (s.part name).step (.ofInForce s.library.faults.isSet) (st.onto "")
      else s.part name := by
  have hcalm := h.withReaction calm
  have heffect := step_effect hcalm st
  have hfaults := Faults.isSet_ofInForce s.library.faults.isSet
  have hother (hsubject : ∀ handle, s.handles.lookup name = some handle → st.subject? ≠ some name)
      (hbuilt : s.handles.lookup name = none →
        ((s.withReaction calm).step st).1.handles.lookup name = none) :
      ((s.withReaction calm).step st).1.part name = s.part name :=
    heffect.part_other rfl hcalm howned hsubject hbuilt
  rw [Part.step_onto]
  unfold concerns
  cases hlookup : s.handles.lookup name with
  | none =>
    dsimp only
    rw [(part_run h st name).2]
    split
    · next hmade =>
      exact heffect.part_made hcalm hlookup (Option.isSome_iff_ne_none.1 hmade)
    · next hunmade =>
      refine hother (fun handle hhandle => ?_) fun _ => Option.not_isSome_iff_eq_none.1 hunmade
      cases hlookup.symm.trans hhandle
  | some handle =>
    dsimp only
    by_cases hsubject : st.subject? = some name
    · have hok := isOk_attempt h (recasts_of_subject hsubject)
      cases hattempt : (s.withReaction calm).attempt st with
      | error answer =>
        have hsame : ((s.withReaction calm).step st).1 = s.withReaction calm := by
          rw [State.step, hattempt]
        have hrefused : (s.attempt st).isOk = false := by rw [← hok, hattempt]; rfl
        rw [hsame, hrefused]
        obtain ⟨holding, dropped⟩ := handle
        cases dropped with
        | true =>
          rw [if_neg (by simp)]
          rfl
        | false =>
          rw [if_pos (by simp [hsubject])]
          exact (part_refused hcalm hlookup hsubject hattempt).symm
      | ok r =>
        have haccepted : (s.attempt st).isOk = true := by rw [← hok, hattempt]; rfl
        rw [haccepted, if_pos (by simp [hsubject])]
        refine heffect.part_own rfl hcalm howned hfaults hlookup hsubject fun answer herror => ?_
        cases hattempt.symm.trans herror
    · rw [if_neg (by simp [hsubject])]
      refine hother (fun _ _ => hsubject) fun habsent => ?_
      cases hlookup.symm.trans habsent

/-! ## Runs -/

/-- What the user of a handle hears of steps follows from those of the handle. -/
theorem received_eq_replay (h : s.Apart) (howned : s.Owned) {steps : List Step}
    (hplain : ∀ st ∈ steps, st.Plain) :
    s.received name steps = (s.part name).replay (s.record name steps) := by
  induction steps generalizing s with
  | nil => rfl
  | cons st steps ih =>
    have hrest := ih (h.run st) (howned.run h (hplain st List.mem_cons_self)) fun st' hst' =>
      hplain st' (List.mem_cons_of_mem st hst')
    have hseats := (step_effect (h.withReaction calm) st).seats (h.withReaction calm)
    have hpart := part_concerned h howned st name
    rw [received, record, heardBy_run hseats, hrest, (part_run h st name).1]
    rw [hpart]
    split
    · rfl
    · rw [h.heard_part, h.rested_part]
      rfl

theorem owned_fresh (limits : Log.Limits) (reaction : Reaction) :
    Owned { limits, reaction } := by
  intro entry hentry
  cases hentry

/-- Handles are isolated: whatever steps there are in two runs of the bench, if those of a handle in
the one and those of a handle in the other are the same but for the name, and at each of them the
same faults are in force, then their users hear the same. Whether a step is one of a handle says
nothing about other handles: how many there are, what is done with them and what fails. The steps of
a script are all plain (`Step.plain_of_ofJson?`). -/
theorem handles_isolated (limits limits' : Log.Limits) (reaction reaction' : Reaction)
    (steps steps' : List Step) (name name' : String) (hplain : ∀ st ∈ steps, st.Plain)
    (hplain' : ∀ st ∈ steps', st.Plain) :
    let s : State := { limits, reaction }
    let s' : State := { limits := limits', reaction := reaction' }
    s.record name steps = s'.record name' steps' →
      s.received name steps = s'.received name' steps' := by
  intro s s' hrecord
  rw [received_eq_replay (apart_fresh limits reaction) (owned_fresh limits reaction) hplain,
    received_eq_replay (apart_fresh limits' reaction') (owned_fresh limits' reaction') hplain']
  exact congrArg _ hrecord

/-- A client alone, and one that is made between others, one of which fails and one of which is
dropped: a message and an acknowledgement are told to both alike. -/
theorem handles_isolated_amid :
    let steps : List Step := [.newClient .sample .logged false, .subscribe "m0" "a" 1,
      .receive "m0" "a" [104] false 1 false, .ack "m0" 1 0]
    let steps' : List Step := [.newClient .sample .answered true,
      .newClient .sample .logged false, .newQueue "m0" "lamp" 1 .logged,
      .subscribe "m1" "a" 1, .inject (.ok .jobsClient), .newQueue "m1" "lamp" 1 .logged,
      .receive "m0" "a" [105] false 1 false, .clear (.ok .jobsClient),
      .receive "m1" "a" [104] false 1 false, .drop "m0", .completeSubscriptions "j2" 3,
      .ack "m1" 1 0]
    let s : State := { limits := [], reaction := calm }
    let s' : State := { limits := [.error], reaction := fun _ _ => some .other }
    let own : List ((Fault → Bool) × Step) := [
      (Faults.isSet [], .newClient .sample .logged false),
      (Faults.isSet [], .subscribe "" "a" 1),
      (Faults.isSet [], .receive "" "a" [104] false 1 false),
      (Faults.isSet [], .ack "" 1 0)]
    s.record "m0" steps = own ∧ s'.record "m1" steps' = own ∧
      s.received "m0" steps = s'.received "m1" steps' ∧
      (s.received "m0" steps).length = 2 := by
  intro steps steps' s s' own
  have hrecord : s.record "m0" steps = own := by
    subst steps s own
    rfl
  have hrecord' : s'.record "m1" steps' = own := by
    subst steps' s' own
    rfl
  have hplain : ∀ st ∈ steps, st.Plain := by
    simp [steps, Step.Plain]
  have hplain' : ∀ st ∈ steps', st.Plain := by
    simp [steps', Step.Plain]
  exact ⟨hrecord, hrecord', handles_isolated [] [.error] calm (fun _ _ => some .other) steps steps'
    "m0" "m1" hplain hplain' (hrecord.trans hrecord'.symm), by decide⟩

end State

end DeviceLink.Bench
