import DeviceLink.Proofs.Link.Operations
/-!
# Opening and closing a link

A link is opened by a connect that succeeds; a disconnect that succeeds begins to close it, and
the end of its event loop closes it. `marks` takes down these three in the order they happen. The
last of them settles the flags of the link, so that nothing of an earlier connection is left when
it is opened again.
-/

namespace DeviceLink.Link

open Mqtt

variable {ρ : Type}

/-- What opens or closes a link. -/
inductive Mark
  /-- A connect succeeded. -/
  | opened
  /-- A disconnect succeeded. -/
  | parting
  /-- The event loop ended. -/
  | ended
  deriving DecidableEq, Repr

namespace Trail

/-- What an act opens or closes. -/
def mark? (t : Trail ρ) : Act ρ → Option Mark
  | .connect options => if (t.link.connect options).2 then some .opened else none
  | .disconnect => if t.link.disconnect.2 then some .parting else none
  | .poll result =>
    if t.link.loop.isSome ∧ ¬(t.act (.poll result)).link.loop.isSome then some .ended else none
  | .perform _ | .loop _ => none

/-- The marks of some acts, in order. -/
def marks (t : Trail ρ) : List (Act ρ) → List Mark
  | [] => []
  | a :: acts => (t.mark? a).toList ++ (t.act a).marks acts

theorem marks_snoc (t : Trail ρ) (acts : List (Act ρ)) (a : Act ρ) :
    t.marks (acts ++ [a]) = t.marks acts ++ ((t.after acts).mark? a).toList := by
  induction acts generalizing t with
  | nil => simp [marks, after]
  | cons b acts ih =>
    rw [List.cons_append, marks, ih, marks, List.append_assoc]
    rfl

end Trail

/-! ## What the last mark says -/

namespace Connection

/-- No event loop runs: nothing is left of the last connection. -/
structure Down (c : Connection ρ) : Prop where
  loop : c.loop = none
  client : c.client = false
  online : c.online = false
  outstanding : c.tracker.outstanding = []

/-- An event loop runs. Before the broker has accepted the link it is not online. -/
structure Running (c : Connection ρ) (closing : Bool) : Prop where
  loop : c.loop.isSome = true
  client : c.client = true
  closing : c.closing = closing
  offline : c.connectedOnce = false → c.online = false

/-- How a link stands after a mark, or before the first one. -/
def Stands (c : Connection ρ) : Option Mark → Prop
  | none | some .ended => c.Down
  | some .opened => c.Running false
  | some .parting => c.Running true

end Connection

/-- Which mark may follow another one, or stand first. -/
inductive Mark.Follows : Option Mark → Mark → Prop
  | first : Follows none .opened
  | again : Follows (some .ended) .opened
  | parting : Follows (some .opened) .parting
  | lost : Follows (some .opened) .ended
  | parted : Follows (some .parting) .ended

theorem Mark.Follows.opened_of_parting {last : Option Mark} (h : Mark.Follows last .parting) :
    last = some .opened := by
  cases h
  rfl

namespace Connection

theorem Down.stands {c : Connection ρ} {last : Option Mark} (h : c.Down)
    (hlast : last = none ∨ last = some .ended) : c.Stands last := by
  obtain rfl | rfl := hlast <;> exact h

/-- A link stands after its last mark with an event loop or without one. -/
theorem Stands.cases {c : Connection ρ} {last : Option Mark} (h : c.Stands last) :
    (c.Down ∧ (last = none ∨ last = some .ended)) ∨
      ∃ closing, c.Running closing ∧ last = some (if closing then .parting else .opened) := by
  match last with
  | none => exact .inl ⟨h, .inl rfl⟩
  | some .ended => exact .inl ⟨h, .inr rfl⟩
  | some .opened => exact .inr ⟨false, h, rfl⟩
  | some .parting => exact .inr ⟨true, h, rfl⟩

theorem Running.stands {c : Connection ρ} {closing : Bool} (h : c.Running closing) :
    c.Stands (some (if closing then .parting else .opened)) := by
  cases closing <;> exact h

theorem Stands.of_running {c : Connection ρ} {last : Option Mark} (h : c.Stands last)
    (hloop : c.loop.isSome = true) :
    ∃ closing, c.Running closing ∧ last = some (if closing then .parting else .opened) := by
  obtain ⟨hdown, -⟩ | hrunning := h.cases
  · rw [hdown.loop] at hloop
    cases hloop
  · exact hrunning

theorem Stands.of_down {c : Connection ρ} {last : Option Mark} (h : c.Stands last)
    (hloop : ¬c.loop.isSome = true) : c.Down ∧ (last = none ∨ last = some .ended) := by
  obtain hdown | ⟨closing, hrunning, -⟩ := h.cases
  · exact hdown
  · exact absurd hrunning.loop hloop

/-! ## One act -/

theorem closing_perform (c : Connection ρ) (op : Operation ρ) :
    (c.perform op).1.closing = c.closing := by
  have hsubmitted : (c.submitted op).1.closing = c.closing := by
    unfold submitted submit
    split
    · rfl
    · split
      · rfl
      · dsimp only
        split <;> rfl
  rw [perform_eq]
  split
  · rfl
  · exact hsubmitted

/-- Operations are accepted only with a client and while the link is not closing. -/
theorem open_of_accepted (c : Connection ρ) {op : Operation ρ} {id : ℕ}
    (h : (c.perform op).2 = some id) : c.client = true ∧ c.closing = false ∧ 0 < id := by
  have hsubmitted : (c.submitted op).2 = some id := by
    rw [perform_eq] at h
    split at h
    · cases h
    · exact h
  have hanswer := c.answer_step op.onAck (.submit op.kind op.qos op.completion op.command)
  rw [show (c.step op.onAck (.submit op.kind op.qos op.completion op.command)).answer =
    (c.submitted op).2 from rfl, hsubmitted, op?] at hanswer
  by_cases hopen : c.client = true ∧ ¬c.closing = true
  · refine ⟨hopen.1, Bool.eq_false_iff.2 hopen.2, ?_⟩
    rw [if_pos hopen] at hanswer
    split at hanswer
    · obtain rfl := Option.some.inj hanswer
      exact Nat.succ_pos _
    · cases hanswer
  · rw [if_neg hopen] at hanswer
    cases hanswer

theorem perform_stands {c : Connection ρ} {last : Option Mark} (h : c.Stands last)
    (op : Operation ρ) : (c.perform op).1.Stands last := by
  have halike := c.perform_alike op
  obtain ⟨hdown, hlast⟩ | ⟨closing, hrunning, rfl⟩ := h.cases
  · refine Down.stands ⟨?_, ?_, ?_, ?_⟩ hlast
    · rw [← Option.isNone_iff_eq_none, ← Option.not_isSome, halike.loop, hdown.loop]
      rfl
    · rw [halike.client, hdown.client]
    · rw [halike.online, hdown.online]
    · rw [(c.perform_of_no_client hdown.client op).2, hdown.outstanding]
  · refine Running.stands ⟨?_, ?_, ?_, ?_⟩
    · rw [halike.loop, hrunning.loop]
    · rw [halike.client, hrunning.client]
    · rw [closing_perform, hrunning.closing]
    · rw [halike.connectedOnce, halike.online]
      exact hrunning.offline

/-- A disconnect succeeds only on an open link, which it begins to close; otherwise it leaves the
link as it was. -/
theorem disconnect_cases (c : Connection ρ) :
    (c.disconnect.2 = true ∧ c.client = true ∧ c.closing = false ∧
        c.disconnect.1 = { c with closing := true }.hand .disconnect) ∨
      c.disconnect.2 = false ∧ c.disconnect.1 = c := by
  unfold disconnect
  split
  · exact .inr ⟨rfl, rfl⟩
  · next hopen =>
    split
    · have hclient : c.client = true := by
        by_contra hclient
        exact hopen (.inl hclient)
      exact .inl ⟨rfl, hclient, Bool.eq_false_iff.2 fun hclosing => hopen (.inr hclosing), rfl⟩
    · exact .inr ⟨rfl, rfl⟩

/-- A connect succeeds only where no event loop runs, and starts one; otherwise it leaves its
reason and nothing else. -/
theorem connect_cases (c : Connection ρ) (options : ConnectOptions) :
    ((c.connect options).2 = true ∧ c.loop = none ∧
        (c.connect options).1 = { c with
          loop := some { options, credentials := c.credentials }
          client := true
          closing := false
          connectedOnce := false }) ∨
      (c.connect options).2 = false ∧ ∃ e, (c.connect options).1 = c.fail e := by
  unfold connect
  split
  · exact .inr ⟨rfl, _, rfl⟩
  · split
    · exact .inr ⟨rfl, _, rfl⟩
    · next hloop => exact .inl ⟨rfl, Option.not_isSome_iff_eq_none.1 hloop, rfl⟩

theorem fail_stands {c : Connection ρ} {last : Option Mark} (h : c.Stands last) (e : ErrorCode) :
    (c.fail e).Stands last := by
  obtain ⟨⟨hloop, hclient, honline, hdown⟩, hlast⟩ | ⟨closing, hrunning, rfl⟩ := h.cases
  · exact Down.stands ⟨hloop, hclient, honline, hdown⟩ hlast
  · obtain ⟨hloop, hclient, hclosing, hoffline⟩ := hrunning
    exact Running.stands ⟨hloop, hclient, hclosing, hoffline⟩

/-- The end of an event loop leaves nothing: both ways of closing fail all requests. -/
theorem down_of_closed (c : Connection ρ) : (stopped c.closed).1.Down := ⟨rfl, rfl, rfl, rfl⟩

theorem down_of_connectFailed {c : Connection ρ} (hoffline : c.online = false) (f : Failure) :
    (stopped (c.connectFailed f)).1.Down := ⟨rfl, rfl, hoffline, rfl⟩

/-- A poll leaves the event loop running, or the link with nothing of it. -/
theorem Running.react {c : Connection ρ} {closing : Bool} (h : c.Running closing) (p : Poll) :
    (c.react p).1.Running closing ∨ (c.react p).1.Down := by
  obtain ⟨hloop, hclient, hclosing, hoffline⟩ := h
  cases p with
  | incoming packet =>
    refine .inl ?_
    cases packet with
    | connAck code sessionPresent => exact ⟨hloop, hclient, hclosing, fun honce => by cases honce⟩
    | _ => exact ⟨hloop, hclient, hclosing, hoffline⟩
  | outgoing packet =>
    cases packet with
    | disconnect => exact .inr (down_of_closed c)
    | _ => exact .inl ⟨hloop, hclient, hclosing, hoffline⟩
  | failed f =>
    simp only [Connection.react]
    split
    · exact .inr (down_of_closed c)
    · split
      · exact .inl ⟨Option.isSome_map.trans hloop, hclient, hclosing, fun _ => rfl⟩
      · next honce =>
        have hoff : (c.fail f.code).online = false := hoffline (Bool.eq_false_iff.2 honce)
        exact .inr (down_of_connectFailed hoff f)

end Connection

/-! ## Runs of acts -/

namespace Trail

/-- A mark follows the last one and says how the link then stands; an act without a mark leaves it
standing as it did. -/
theorem stands_act {t : Trail ρ} {last : Option Mark} (h : t.link.Stands last) (a : Act ρ) :
    (t.mark? a = none ∧ (t.act a).link.Stands last) ∨
      ∃ m, t.mark? a = some m ∧ Mark.Follows last m ∧ (t.act a).link.Stands (some m) := by
  cases a with
  | perform op => exact .inl ⟨rfl, Connection.perform_stands h op⟩
  | poll p =>
    by_cases hloop : t.link.loop.isSome = true
    · obtain ⟨closing, hrunning, rfl⟩ := h.of_running hloop
      have hact : (t.act (.poll p)).link = (t.link.react p).1 := by rw [act_poll hloop]
      obtain hstays | hdown := hrunning.react p
      · refine .inl ⟨?_, ?_⟩
        · rw [mark?, if_neg (fun hends => hends.2 (hact ▸ hstays.loop))]
        · rw [hact]
          exact hstays.stands
      · refine .inr ⟨.ended, ?_, by cases closing <;> constructor, ?_⟩
        · have hends : ¬(t.act (.poll p)).link.loop.isSome = true := by
            rw [hact, hdown.loop]
            exact Bool.false_ne_true
          rw [mark?, if_pos ⟨hloop, hends⟩]
        · rw [hact]
          exact hdown
    · refine .inl ⟨?_, ?_⟩
      · rw [mark?, if_neg fun hends => hloop hends.1]
      · rwa [show t.act (.poll p) = t from if_neg hloop]
  | connect options =>
    obtain ⟨haccepted, hloop, hlink⟩ | ⟨hrefused, e, hlink⟩ := t.link.connect_cases options
    · obtain ⟨hdown, hlast⟩ := h.of_down (by rw [hloop]; exact Bool.false_ne_true)
      refine .inr ⟨.opened, ?_, ?_, ?_⟩
      · rw [mark?, if_pos haccepted]
      · obtain rfl | rfl := hlast <;> constructor
      · show (t.link.connect options).1.Running false
        rw [hlink]
        exact ⟨rfl, rfl, rfl, fun _ => hdown.online⟩
    · refine .inl ⟨?_, ?_⟩
      · rw [mark?, hrefused, if_neg Bool.false_ne_true]
      · show (t.link.connect options).1.Stands last
        rw [hlink]
        exact Connection.fail_stands h e
  | disconnect =>
    obtain ⟨haccepted, hclient, hclosing, hlink⟩ | ⟨hrefused, hlink⟩ := t.link.disconnect_cases
    · obtain ⟨hdown, -⟩ | ⟨closing, hrunning, rfl⟩ := h.cases
      · rw [hdown.client] at hclient
        cases hclient
      · obtain rfl : closing = false := hrunning.closing.symm.trans hclosing
        refine .inr ⟨.parting, ?_, .parting, ?_⟩
        · rw [mark?, if_pos haccepted]
        · show t.link.disconnect.1.Running true
          rw [hlink]
          exact ⟨Option.isSome_map.trans hrunning.loop, hclient, rfl, hrunning.offline⟩
    · refine .inl ⟨?_, ?_⟩
      · rw [mark?, hrefused, if_neg Bool.false_ne_true]
      · show t.link.disconnect.1.Stands last
        rwa [hlink]
  | loop state =>
    refine .inl ⟨rfl, ?_⟩
    obtain ⟨⟨hloop, hclient, honline, hdown⟩, hlast⟩ | ⟨closing, hrunning, rfl⟩ := h.cases
    · refine Connection.Down.stands ⟨?_, hclient, honline, hdown⟩ hlast
      show t.link.loop.map _ = none
      rw [hloop]
      rfl
    · obtain ⟨hloop, hclient, hclosing, hoffline⟩ := hrunning
      exact Connection.Running.stands
        ⟨Option.isSome_map.trans hloop, hclient, hclosing, hoffline⟩

/-- In every run the marks follow one another as they may, and the last one says how the link
stands. -/
theorem stands_after {t : Trail ρ} (h : t.link.Down) (acts : List (Act ρ)) :
    (∀ before m rest, t.marks acts = before ++ m :: rest → Mark.Follows before.getLast? m) ∧
      (t.after acts).link.Stands (t.marks acts).getLast? := by
  induction acts using List.reverseRecOn with
  | nil => exact ⟨fun before m rest heq => by simp [marks] at heq, h⟩
  | append_singleton acts a ih =>
    obtain ⟨hfollows, hstands⟩ := ih
    rw [marks_snoc, after_snoc]
    obtain ⟨hnone, hstands'⟩ | ⟨m, hsome, hm, hstands'⟩ := stands_act hstands a
    · rw [hnone, Option.toList_none, List.append_nil]
      exact ⟨hfollows, hstands'⟩
    · rw [hsome, Option.toList_some, List.getLast?_concat]
      refine ⟨fun before m' rest heq => ?_, hstands'⟩
      -- The mark in question is the new one or one of those before.
      obtain rfl | ⟨rest, last, rfl⟩ := List.eq_nil_or_concat rest
      · obtain ⟨hbefore, hlast⟩ := List.append_inj' heq rfl
        rw [← hbefore, ← List.singleton_inj.1 hlast]
        exact hm
      · rw [List.concat_eq_append, ← List.cons_append, ← List.append_assoc] at heq
        exact hfollows _ _ rest (List.append_inj' heq rfl).1

end Trail

/-- In every run of a link: an operation is accepted only while the last connect that succeeded
has been followed neither by a disconnect that succeeded nor by the end of its event loop. A
disconnect succeeds at most once after each such connect, and one that is refused changes nothing.
While an event loop runs a connect is refused and leaves only its reason. While none runs there is
no client, the link is not online and no request is outstanding, and so a connect that succeeds
starts from there. -/
theorem accepted_only_while_open (config : Config) (lifecycle : Lifecycle ρ)
    (acts : List (Act ρ)) :
    let start : Trail ρ := { link := { config, lifecycle } }
    let t := start.after acts
    (∀ op id, (t.link.perform op).2 = some id →
      0 < id ∧ (start.marks acts).getLast? = some .opened) ∧
    (∀ before rest, start.marks acts = before ++ .parting :: rest →
      before.getLast? = some .opened) ∧
    (t.link.disconnect.2 = false → t.link.disconnect.1 = t.link) ∧
    (t.link.loop.isSome = true → ∀ options, (t.link.connect options).2 = false ∧
      ∃ e, (t.link.connect options).1 = { t.link with lastError := e }) ∧
    (t.link.loop = none → t.link.client = false ∧ t.link.online = false ∧
      t.link.tracker.queued = [] ∧ t.link.tracker.sent = []) ∧
    ∀ options, (t.link.connect options).2 = true →
      let c := (t.link.connect options).1
      c.loop.isSome = true ∧ c.client = true ∧ c.closing = false ∧ c.connectedOnce = false ∧
        c.online = false ∧ c.tracker.queued = [] ∧ c.tracker.sent = [] := by
  intro start t
  obtain ⟨hfollows, hstands⟩ := Trail.stands_after (t := start) ⟨rfl, rfl, rfl, rfl⟩ acts
  have hdown (hloop : t.link.loop = none) : t.link.Down :=
    (hstands.of_down (show ¬t.link.loop.isSome = true by rw [hloop]; exact Bool.false_ne_true)).1
  refine ⟨fun op id haccepted => ?_, fun before rest heq => ?_, fun hrefused => ?_,
    fun hloop options => ?_, fun hloop => ?_, fun options haccepted => ?_⟩
  · obtain ⟨hclient, hclosing, hid⟩ := t.link.open_of_accepted haccepted
    refine ⟨hid, ?_⟩
    obtain ⟨hdown, -⟩ | ⟨closing, hrunning, hlast⟩ := hstands.cases
    · rw [hdown.client] at hclient
      cases hclient
    · obtain rfl : closing = false := hrunning.closing.symm.trans hclosing
      exact hlast
  · exact (hfollows before .parting rest heq).opened_of_parting
  · obtain ⟨haccepted, -⟩ | ⟨-, hlink⟩ := t.link.disconnect_cases
    · rw [hrefused] at haccepted
      cases haccepted
    · exact hlink
  · obtain ⟨-, hnone, -⟩ | ⟨hrefused, e, hlink⟩ := t.link.connect_cases options
    · rw [hnone] at hloop
      cases hloop
    · exact ⟨hrefused, _, hlink⟩
  · obtain ⟨-, hclient, honline, houtstanding⟩ := hdown hloop
    exact ⟨hclient, honline, Tracker.outstanding_eq_nil.1 houtstanding⟩
  · obtain ⟨-, hloop, hlink⟩ | ⟨hrefused, -⟩ := t.link.connect_cases options
    · obtain ⟨-, -, honline, houtstanding⟩ := hdown hloop
      rw [hlink]
      exact ⟨rfl, rfl, rfl, rfl, honline, Tracker.outstanding_eq_nil.1 houtstanding⟩
    · rw [hrefused] at haccepted
      cases haccepted

/-- A publish that is handed over before a disconnect is accepted, and one after it is refused. -/
example :
    let config : Config := ⟨"broker", none, .password "user" "word", none, false⟩
    let start : Trail ℕ := { link := { config } }
    let publish : Act ℕ := .perform (.publish "t" .atLeastOnce false [] 0)
    let acts : List (Act ℕ) := [.connect ⟨"sensor", true, 30, 3000⟩, publish, .disconnect, publish,
      .poll (.outgoing .disconnect), .connect ⟨"sensor", true, 30, 3000⟩]
    start.marks acts = [.opened, .parting, .ended, .opened] ∧
      (start.after acts).asked.map (·.2) = [some 1, none] := by
  decide

end DeviceLink.Link
