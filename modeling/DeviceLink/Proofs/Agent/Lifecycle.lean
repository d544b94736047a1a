import DeviceLink.Proofs.Agent.Delivery
import DeviceLink.Proofs.Link.Operations
/-!
# The life of a connection

The events of a connection that is started once: it connects, is interrupted and resumed in
turns, and ends with one event after which nothing follows. That event comes when the event loop
has stopped and every accepted request has been told its end.
-/

namespace DeviceLink.Agent

open Mqtt Link

/-! ## Events -/

/-- Whether an event tells of the connection itself. -/
def Event.isLifecycle : Event → Bool
  | connected _ | connectFailed .. | interrupted _ | resumed .. | closed => true
  | message .. | subAck .. | published .. | unsubscribed .. => false

/-- Whether an event tells the end of a request. -/
def Event.isCompletion : Event → Bool
  | subAck .. | published .. | unsubscribed .. => true
  | connected _ | connectFailed .. | interrupted _ | resumed .. | closed | message .. => false

/-- The events that a session was sent, if nobody has taken any. -/
def heard (told : List (Delivery Unit)) : List Event :=
  ((told.flatMap fun d => d.signal.callbacks).foldl Session.tell {}).mailbox

theorem heard_eq (told : List (Delivery Unit)) :
    heard told = told.flatMap fun d => d.signal.callbacks.map Event.ofCallback := by
  rw [heard, (foldl_tell _ _ rfl).2, List.map_flatMap]
  rfl

theorem heard_append (a b : List (Delivery Unit)) : heard (a ++ b) = heard a ++ heard b := by
  simp only [heard_eq, List.flatMap_append]

/-- The signals that end requests make the completions, and no other events. -/
theorem ofCallback_of_endCode? (s : Signal) (e : Event)
    (he : e ∈ s.callbacks.map Event.ofCallback) :
    e.isCompletion = s.endCode?.isSome ∧ (s.endCode?.isSome = true → e.isLifecycle = false) := by
  cases s with
  | completed code returnCode sessionPresent =>
    obtain rfl := List.mem_singleton.1 he
    simp only [Event.ofCallback]
    split <;> exact ⟨rfl, nofun⟩
  | closed | interrupted code | resumed returnCode sessionPresent | message m =>
    obtain rfl := List.mem_singleton.1 he
    exact ⟨rfl, nofun⟩
  | subscribed id topic granted code | unsubscribed id code | published id code =>
    obtain rfl := List.mem_singleton.1 he
    exact ⟨rfl, fun _ => rfl⟩
  | subscribedMany id topics granted code =>
    simp only [Signal.callbacks, List.map_map, List.mem_map] at he
    obtain ⟨t, -, rfl⟩ := he
    exact ⟨rfl, fun _ => rfl⟩

/-- The completions are the events of the signals that end requests. -/
theorem completions_heard (told : List (Delivery Unit)) :
    (heard told).filter Event.isCompletion = heard (endings told) := by
  rw [heard_eq, heard_eq]
  induction told with
  | nil => rfl
  | cons d told ih =>
    rw [List.flatMap_cons, List.filter_append, ih, endings, endings, List.filter_cons]
    have hd := ofCallback_of_endCode? d.signal
    cases hcode : d.signal.endCode?.isSome with
    | true =>
      rw [List.filter_eq_self.2 fun e he => (hd e he).1.trans hcode]
      rfl
    | false =>
      rw [List.filter_eq_nil_iff.2 fun e he => by rw [(hd e he).1, hcode]; simp]
      rfl

/-- The events that tell of the connection itself. -/
def lifecycle (told : List (Delivery Unit)) : List Event := (heard told).filter Event.isLifecycle

theorem lifecycle_append (a b : List (Delivery Unit)) :
    lifecycle (a ++ b) = lifecycle a ++ lifecycle b := by
  rw [lifecycle, heard_append, List.filter_append]
  rfl

/-! ## One life -/

/-- The events of a connection that was accepted: the first acceptance, then interruptions and
resumptions in turns. It is up after an acceptance and down after an interruption. -/
inductive Alternating : (up : Bool) → List Event → Prop
  | connected (sessionPresent : Bool) : Alternating true [.connected sessionPresent]
  | interrupted {l : List Event} (h : Alternating true l) (code : Int) :
    Alternating false (l ++ [.interrupted code])
  | resumed {l : List Event} (h : Alternating false l) (sessionPresent : Bool) :
    Alternating true (l ++ [.resumed .accepted sessionPresent])

/-- The events of a connection that has ended. -/
inductive Lifetime : List Event → Prop
  | closed : Lifetime [.closed]
  | failed (code : Int) (returnCode : ReturnCode) : Lifetime [.connectFailed code returnCode]
  | lived {up : Bool} {l : List Event} (h : Alternating up l) : Lifetime (l ++ [.closed])

/-- Whether the broker only ever accepts the connection, and does so in the first poll or right
after a failure. -/
def Orderly (polls : List Poll) : Prop :=
  ∀ before code sessionPresent rest,
    polls = before ++ .incoming (.connAck code sessionPresent) :: rest →
      code = .accepted ∧ (before = [] ∨ ∃ f, before.getLast? = some (.failed f))

theorem Orderly.init {polls more : List Poll} (h : Orderly (polls ++ more)) : Orderly polls := by
  intro before code sessionPresent rest heq
  refine h before code sessionPresent (rest ++ more) ?_
  rw [heq, List.append_assoc, List.cons_append]

/-- Whether no poll is an answer of the broker to the connection. -/
def Unanswered (polls : List Poll) : Prop :=
  ∀ code sessionPresent, .incoming (.connAck code sessionPresent) ∉ polls

theorem Unanswered.snoc {polls : List Poll} (h : Unanswered polls) {p : Poll}
    (hp : ∀ code sessionPresent, p ≠ .incoming (.connAck code sessionPresent)) :
    Unanswered (polls ++ [p]) := by
  intro code sessionPresent hmem
  rcases List.mem_append.1 hmem with hmem | hmem
  · exact h code sessionPresent hmem
  · exact hp code sessionPresent (List.mem_singleton.1 hmem).symm

/-- The polls among some acts. -/
def polls (acts : List (Act Unit)) : List Poll :=
  acts.filterMap fun
    | .poll p => some p
    | .perform _ | .connect _ | .disconnect | .loop _ => none

/-- A link without an event loop and without open requests. -/
structure AtRest (c : Connection Unit) : Prop where
  loop : c.loop = none
  online : c.online = false
  idle : c.tracker.outstanding = []

/-- A connection while its event loop runs, after some polls. -/
structure Alive (t : Trail Unit) (polls : List Poll) : Prop where
  loop : t.link.loop.isSome = true
  client : t.link.client = true
  handlers : t.link.lifecycle = .all ()
  before : t.link.connectedOnce = false →
    t.link.online = false ∧ lifecycle t.told = [] ∧ Unanswered polls
  once : t.link.connectedOnce = true → Alternating t.link.online (lifecycle t.told)
  unended : ∀ e ∈ heard t.told, e.endsSession = false
  first : polls = [] → t.link.connectedOnce = false
  failed : ∀ f, polls.getLast? = some (.failed f) →
    t.link.connectedOnce = true ∧ t.link.online = false

/-- A connection whose event loop has stopped. -/
structure Ended (t : Trail Unit) : Prop where
  rest : AtRest t.link
  client : t.link.client = false
  lifetime : Lifetime (lifecycle t.told)
  last : ∃ front e, heard t.told = front ++ [e] ∧ e.endsSession = true ∧
    ∀ x ∈ front, x.endsSession = false

/-! ## Quiet polls -/

/-- Signals that say nothing of the connection itself. -/
def Quiet (signals : List (Delivery Unit)) : Prop := ∀ e ∈ heard signals, e.isLifecycle = false

theorem Quiet.lifecycle {signals : List (Delivery Unit)} (h : Quiet signals) :
    lifecycle signals = [] :=
  List.filter_eq_nil_iff.2 fun e he => by rw [h e he]; exact Bool.false_ne_true

theorem Quiet.endsSession {signals : List (Delivery Unit)} (h : Quiet signals) :
    ∀ e ∈ heard signals, e.endsSession = false := by
  intro e he
  have hlifecycle := h e he
  cases e with
  | connectFailed code returnCode | closed => cases hlifecycle
  | _ => rfl

theorem quiet_nil : Quiet [] := by
  intro e he
  cases he

theorem quiet_delivery (os : List (Outcome (Completion × Unit))) :
    Quiet (os.map Outcome.delivery) := by
  intro e he
  rw [heard_eq, List.mem_flatMap] at he
  obtain ⟨d, hd, he⟩ := he
  obtain ⟨o, -, rfl⟩ := List.mem_map.1 hd
  refine (ofCallback_of_endCode? _ e he).2 ?_
  simp only [Outcome.delivery, Completion.endCode?_signal, Option.isSome_some]

theorem quiet_delivery? (o : Option (Outcome (Completion × Unit))) :
    Quiet (o.map Outcome.delivery).toList := by
  cases o with
  | none => exact quiet_nil
  | some o => exact quiet_delivery [o]

theorem quiet_route (c : Connection Unit) (m : Message) : Quiet (c.route m) := by
  intro e he
  rw [heard_eq, List.mem_flatMap] at he
  obtain ⟨d, hd, he⟩ := he
  obtain ⟨r, -, rfl⟩ := List.mem_map.1 hd
  obtain rfl := List.mem_singleton.1 he
  rfl

theorem quiet_incoming (c : Connection Unit) {packet : Packet}
    (h : ∀ code sessionPresent, packet ≠ .connAck code sessionPresent) :
    Connection.Alike c (c.incoming packet).1 ∧ Quiet (c.incoming packet).2 := by
  cases packet with
  | connAck code sessionPresent => exact absurd rfl (h code sessionPresent)
  | publish m => exact ⟨.refl c, quiet_route c m⟩
  | subAck pkid codes | unsubAck pkid | pubAck pkid | pubComp pkid =>
    exact ⟨⟨rfl, rfl, rfl, rfl, rfl⟩, quiet_delivery? _⟩
  | pubRec pkid | pubRel pkid | pingReq | pingResp | disconnect => exact ⟨.refl c, quiet_nil⟩

theorem quiet_outgoing (c : Connection Unit) {packet : Outgoing} (h : packet ≠ .disconnect) :
    Connection.Alike c (c.react (.outgoing packet)).1 ∧ Quiet (c.react (.outgoing packet)).2 := by
  cases packet with
  | disconnect => exact absurd rfl h
  | publish pkid | subscribe pkid | unsubscribe pkid =>
    exact ⟨⟨rfl, rfl, rfl, rfl, rfl⟩, quiet_delivery? _⟩
  | pubAck pkid | pubRec pkid | pubRel pkid | pubComp pkid | pingReq | pingResp | awaitAck pkid =>
    exact ⟨.refl c, quiet_nil⟩

/-! ## One act -/

namespace Alive

variable {t : Trail Unit} {polls : List Poll}

/-- What leaves the connection as it stands and says nothing of it keeps it alive. -/
theorem of_quiet (h : Alive t polls) {t' : Trail Unit} {signals : List (Delivery Unit)}
    {polls' : List Poll} (halike : Connection.Alike t.link t'.link) (hquiet : Quiet signals)
    (htold : t'.told = t.told ++ signals)
    (hbefore : t.link.connectedOnce = false → Unanswered polls')
    (hfirst : polls' = [] → t.link.connectedOnce = false)
    (hfailed : ∀ f, polls'.getLast? = some (.failed f) →
      t.link.connectedOnce = true ∧ t.link.online = false) : Alive t' polls' := by
  have hlifecycle : lifecycle t'.told = lifecycle t.told := by
    rw [htold, lifecycle_append, hquiet.lifecycle, List.append_nil]
  refine ⟨?_, ?_, ?_, ?_, ?_, ?_, ?_, ?_⟩
  · rw [halike.loop, h.loop]
  · rw [halike.client, h.client]
  · rw [halike.lifecycle, h.handlers]
  · rw [halike.connectedOnce, halike.online, hlifecycle]
    exact fun honce => ⟨(h.before honce).1, (h.before honce).2.1, hbefore honce⟩
  · rw [halike.connectedOnce, halike.online, hlifecycle]
    exact h.once
  · rw [htold, heard_append]
    intro e he
    rcases List.mem_append.1 he with he | he
    · exact h.unended e he
    · exact hquiet.endsSession e he
  · rwa [halike.connectedOnce]
  · rwa [halike.connectedOnce, halike.online]

/-- A connection that has been accepted and tells one thing more of itself lives on. -/
theorem of_event (h : Alive t polls) {c : Connection Unit} {signals : List (Delivery Unit)}
    {e : Event} {p : Poll} (hheard : heard signals = [e]) (hlifecycle : e.isLifecycle = true)
    (hunended : e.endsSession = false) (hloop : c.loop.isSome = true) (hclient : c.client = true)
    (hhandlers : c.lifecycle = .all ()) (honce : c.connectedOnce = true)
    (halternating : Alternating c.online (lifecycle t.told ++ [e]))
    (hfailed : ∀ f, p = .failed f → c.online = false) :
    Alive { t with link := c, told := t.told ++ signals } (polls ++ [p]) := by
  have hsignals : lifecycle signals = [e] := by
    rw [lifecycle, hheard, List.filter_cons_of_pos hlifecycle]
    rfl
  refine ⟨hloop, hclient, hhandlers, ?_, fun _ => ?_, ?_, by simp, ?_⟩
  · intro hnever
    rw [show c.connectedOnce = false from hnever] at honce
    cases honce
  · show Alternating c.online (lifecycle (t.told ++ signals))
    rwa [lifecycle_append, hsignals]
  · show ∀ x ∈ heard (t.told ++ signals), x.endsSession = false
    rw [heard_append, hheard]
    intro x hx
    rcases List.mem_append.1 hx with hx | hx
    · exact h.unended x hx
    · rwa [List.mem_singleton.1 hx]
  · intro f hlast
    rw [List.getLast?_append, List.getLast?_singleton, Option.some_or, Option.some.injEq] at hlast
    exact ⟨honce, hfailed f hlast⟩

/-- An acceptance comes first or follows a failure: it connects or resumes. -/
theorem accepted (h : Alive t polls) (sessionPresent : Bool)
    (horderly : polls = [] ∨ ∃ f, polls.getLast? = some (.failed f)) :
    Alive (t.act (.poll (.incoming (.connAck .accepted sessionPresent))))
      (polls ++ [.incoming (.connAck .accepted sessionPresent)]) := by
  rw [Trail.act_poll h.loop]
  show Alive { t with
    link := (t.link.accepted .accepted sessionPresent).1
    told := t.told ++ (t.link.accepted .accepted sessionPresent).2 } _
  simp only [Connection.accepted, h.handlers]
  cases honce : t.link.connectedOnce with
  | false =>
    have hnil := (h.before honce).2.1
    refine h.of_event (e := .connected sessionPresent) rfl rfl rfl h.loop h.client rfl rfl ?_
      fun _ hp => by cases hp
    rw [hnil]
    exact .connected sessionPresent
  | true =>
    have hoffline : t.link.online = false := by
      rcases horderly with hnil | ⟨f, hf⟩
      · rw [h.first hnil] at honce
        cases honce
      · exact (h.failed f hf).2
    have halternating := h.once honce
    rw [hoffline] at halternating
    exact h.of_event (e := .resumed .accepted sessionPresent) rfl rfl rfl h.loop h.client rfl rfl
      (halternating.resumed sessionPresent) fun _ hp => by cases hp

/-- A failure of a connection that was accepted and is not closing interrupts it, unless it is
interrupted already. -/
theorem interrupted (h : Alive t polls) {f : Failure} (hclosing : t.link.closing = false)
    (honce : t.link.connectedOnce = true) :
    Alive (t.act (.poll (.failed f))) (polls ++ [.failed f]) := by
  have hreact : t.link.react (.failed f) =
      Connection.rested ((t.link.fail f.code).interrupted f.code) := by
    have honce' : (t.link.fail f.code).connectedOnce = true := honce
    simp only [Connection.react, hclosing, honce', if_true, if_false, Bool.false_eq_true]
  have hloop : (t.link.react (.failed f)).1.loop.isSome = true := by
    rw [hreact]
    exact Option.isSome_map.trans h.loop
  cases honline : t.link.online with
  | false =>
    refine h.of_quiet ?_ quiet_nil ?_ (by simp [honce]) (by simp) fun _ _ => ⟨honce, honline⟩
    · rw [Trail.act_poll h.loop, hreact]
      exact ⟨rfl, rfl, rfl, honline.symm, Option.isSome_map⟩
    · rw [Trail.act_poll h.loop, hreact]
      simp [Connection.rested, Connection.interrupted, Connection.fail, honline]
  | true =>
    have halternating := h.once honce
    rw [honline] at halternating
    have hsignals : (t.link.react (.failed f)).2 = [⟨(), .interrupted f.code.code⟩] := by
      rw [hreact]
      simp [Connection.rested, Connection.interrupted, Connection.fail, honline, h.handlers,
        deliver, Lifecycle.all]
    rw [Trail.act_poll h.loop]
    refine h.of_event (e := .interrupted f.code.code) ?_ rfl rfl hloop ?_ ?_ ?_ ?_ ?_
    · rw [hsignals]
      rfl
    · rw [hreact]
      exact h.client
    · rw [hreact]
      exact h.handlers
    · rw [hreact]
      exact honce
    · rw [hreact]
      exact halternating.interrupted _
    · rw [hreact]
      exact fun _ _ => rfl

/-- The event loop stops with one last signal, after the requests that fail. -/
theorem ended (h : Alive t polls) {c : Connection Unit} {failed : List (Delivery Unit)}
    (hfailed : Quiet failed) {s : Signal} {e : Event} (hs : heard [⟨(), s⟩] = [e])
    (he : e.endsSession = true) (hlife : Lifetime (lifecycle t.told ++ [e])) (hrest : AtRest c)
    (hclient : c.client = false) :
    Ended { t with link := c, told := t.told ++ (failed ++ [⟨(), s⟩]) } := by
  have hheard : heard (t.told ++ (failed ++ [⟨(), s⟩])) =
      (heard t.told ++ heard failed) ++ [e] := by
    rw [heard_append, heard_append, hs, List.append_assoc]
  refine ⟨hrest, hclient, ?_, ⟨_, e, hheard, he, ?_⟩⟩
  · have hlast : lifecycle [⟨(), s⟩] = [e] := by
      rw [lifecycle, hs]
      cases e with
      | connectFailed code returnCode | closed => rfl
      | _ => cases he
    show Lifetime (lifecycle (t.told ++ (failed ++ [⟨(), s⟩])))
    rwa [lifecycle_append, lifecycle_append, hfailed.lifecycle, hlast]
  · intro x hx
    rcases List.mem_append.1 hx with hx | hx
    · exact h.unended x hx
    · exact hfailed.endsSession x hx

theorem closed (h : Alive t polls) {p : Poll}
    (hreact : t.link.react p = Connection.stopped t.link.closed) : Ended (t.act (.poll p)) := by
  have hslot : t.link.lifecycle.closed = some () := by rw [h.handlers]; rfl
  rw [Trail.act_poll h.loop, hreact]
  simp only [Connection.stopped, Connection.closed, Connection.abandon, Tracker.abandon, hslot]
  refine h.ended (e := .closed) (quiet_delivery _) rfl rfl ?_ ⟨rfl, rfl, rfl⟩ rfl
  cases honce : t.link.connectedOnce with
  | false =>
    rw [(h.before honce).2.1]
    exact .closed
  | true => exact .lived (h.once honce)

/-- The loop stops at a failure before the broker has ever accepted the connection. -/
theorem connectFailed (h : Alive t polls) {f : Failure} (hclosing : t.link.closing = false)
    (honce : t.link.connectedOnce = false) : Ended (t.act (.poll (.failed f))) := by
  obtain ⟨hoffline, hnil, -⟩ := h.before honce
  have hslot : t.link.lifecycle.completed = some () := by rw [h.handlers]; rfl
  rw [Trail.act_poll h.loop]
  simp only [Connection.react, hclosing, honce, Bool.false_eq_true, if_false, Connection.stopped,
    Connection.connectFailed, Connection.abandon, Tracker.abandon, Connection.fail, hslot]
  refine h.ended (e := .connectFailed f.code.code f.returnCode) (quiet_delivery _) ?_ rfl ?_
    ⟨rfl, hoffline, rfl⟩ rfl
  · have hcode : ¬(f.code.code = 0 ∧ f.returnCode = .accepted) := fun h =>
      errorCode_ne_zero f.code h.1
    simp [heard_eq, Signal.callbacks, Event.ofCallback, hcode]
  · rw [hnil]
    exact .failed ..

/-- A poll keeps the connection alive or ends it. -/
theorem poll (h : Alive t polls) {p : Poll} (horderly : Orderly (polls ++ [p])) :
    Alive (t.act (.poll p)) (polls ++ [p]) ∨ Ended (t.act (.poll p)) := by
  cases p with
  | incoming packet =>
    by_cases hack : ∃ code sessionPresent, packet = .connAck code sessionPresent
    · obtain ⟨code, sessionPresent, rfl⟩ := hack
      obtain ⟨rfl, hbefore⟩ := horderly polls code sessionPresent [] rfl
      exact .inl (h.accepted sessionPresent hbefore)
    · push Not at hack
      obtain ⟨halike, hquiet⟩ := quiet_incoming t.link hack
      have hp : ∀ code sessionPresent,
          Poll.incoming packet ≠ .incoming (.connAck code sessionPresent) := by
        rintro code sessionPresent ⟨⟩
        exact hack code sessionPresent rfl
      rw [Trail.act_poll h.loop]
      exact .inl (h.of_quiet halike hquiet rfl (fun honce => (h.before honce).2.2.snoc hp) (by simp)
        (by simp))
  | outgoing packet =>
    by_cases hdisconnect : packet = .disconnect
    · subst hdisconnect
      exact .inr (h.closed rfl)
    · obtain ⟨halike, hquiet⟩ := quiet_outgoing t.link hdisconnect
      rw [Trail.act_poll h.loop]
      exact .inl (h.of_quiet halike hquiet rfl (fun honce => (h.before honce).2.2.snoc nofun)
        (by simp) (by simp))
  | failed f =>
    cases hclosing : t.link.closing with
    | true => exact .inr (h.closed (by simp only [Connection.react, hclosing, if_true]))
    | false =>
      cases honce : t.link.connectedOnce with
      | true => exact .inl (h.interrupted hclosing honce)
      | false => exact .inr (h.connectFailed hclosing honce)

/-- What is asked of the connection keeps it alive. -/
theorem of_alike (h : Alive t polls) {t' : Trail Unit}
    (halike : Connection.Alike t.link t'.link) (htold : t'.told = t.told) : Alive t' polls :=
  h.of_quiet halike quiet_nil (by rw [htold, List.append_nil]) (fun honce => (h.before honce).2.2)
    h.first h.failed

end Alive

theorem polls_snoc (acts : List (Act Unit)) (a : Act Unit) :
    polls (acts ++ [a]) = polls acts ++ polls [a] :=
  List.filterMap_append

theorem Alive.act {t : Trail Unit} {before : List Poll} (h : Alive t before) {a : Act Unit}
    (hconnect : ∀ options, a ≠ .connect options) (horderly : Orderly (before ++ polls [a])) :
    Alive (t.act a) (before ++ polls [a]) ∨ Ended (t.act a) := by
  cases a with
  | poll p => exact h.poll horderly
  | connect options => exact absurd rfl (hconnect options)
  | perform op =>
    rw [show before ++ polls [.perform op] = before from List.append_nil _]
    exact .inl (h.of_alike (t.link.perform_alike op) rfl)
  | disconnect =>
    rw [show before ++ polls [.disconnect] = before from List.append_nil _]
    exact .inl (h.of_alike t.link.disconnect_alike rfl)
  | loop state =>
    rw [show before ++ polls [.loop state] = before from List.append_nil _]
    exact .inl (h.of_alike ⟨rfl, rfl, rfl, rfl, Option.isSome_map⟩ rfl)

/-- After the end nothing more is told and no request is accepted. -/
theorem Ended.act {t : Trail Unit} (h : Ended t) {a : Act Unit}
    (hconnect : ∀ options, a ≠ .connect options) : Ended (t.act a) := by
  have hstays {t' : Trail Unit} (halike : Connection.Alike t.link t'.link)
      (htracker : t'.link.tracker = t.link.tracker) (htold : t'.told = t.told) : Ended t' := by
    refine ⟨⟨?_, ?_, ?_⟩, ?_, ?_, ?_⟩
    · rw [← Option.isNone_iff_eq_none, ← Option.not_isSome, halike.loop, h.rest.loop]
      rfl
    · rw [halike.online, h.rest.online]
    · rw [htracker, h.rest.idle]
    · rw [halike.client, h.client]
    · rw [htold]
      exact h.lifetime
    · rw [htold]
      exact h.last
  cases a with
  | poll p =>
    have hact : t.act (.poll p) = t := if_neg (by rw [h.rest.loop]; exact Bool.false_ne_true)
    rwa [hact]
  | connect options => exact absurd rfl (hconnect options)
  | perform op =>
    exact hstays (t.link.perform_alike op) (t.link.perform_of_no_client h.client op).2 rfl
  | disconnect => exact hstays t.link.disconnect_alike t.link.tracker_disconnect rfl
  | loop state => exact hstays ⟨rfl, rfl, rfl, rfl, Option.isSome_map⟩ rfl rfl

/-- A connection that is started once is alive until it ends. -/
theorem alive_or_ended {t : Trail Unit} (h : Alive t []) (acts : List (Act Unit))
    (hconnect : ∀ options, .connect options ∉ acts) (horderly : Orderly (polls acts)) :
    Alive (t.after acts) (polls acts) ∨ Ended (t.after acts) := by
  induction acts using List.reverseRecOn with
  | nil => exact .inl h
  | append_singleton acts a ih =>
    have hlast : ∀ options, a ≠ .connect options := fun options heq =>
      hconnect options (by simp [heq])
    rw [polls_snoc] at horderly ⊢
    rw [Trail.after_snoc]
    rcases ih (fun options hmem => hconnect options (List.mem_append_left _ hmem))
      horderly.init with halive | hended
    · exact halive.act hlast horderly
    · exact .inr (hended.act hlast)

/-! ## The requests -/

/-- The events that tell the end of a request under its id: one for each topic of a subscription,
and one for any other request. -/
def completions (o : Outcome (Completion × Unit)) : List Event :=
  match o.request.completion.1 with
  | .subscribe topic => [.subAck o.request.id topic o.granted o.code]
  | .subscribeMany topics => topics.map fun topic => .subAck o.request.id topic o.granted o.code
  | .unsubscribe => [.unsubscribed o.request.id o.code]
  | .publish => [.published o.request.id o.code]

theorem ofCallback_delivery (o : Outcome (Completion × Unit)) :
    o.delivery.signal.callbacks.map Event.ofCallback = completions o := by
  simp only [completions, Outcome.delivery]
  cases o.request.completion.1 with
  | subscribeMany topics => exact List.map_map
  | subscribe | unsubscribe | publish => rfl

theorem heard_delivery (os : List (Outcome (Completion × Unit))) :
    heard (os.map Outcome.delivery) = os.flatMap completions := by
  rw [heard_eq, List.flatMap_map]
  exact List.flatMap_congr fun o _ => ofCallback_delivery o

/-- The end of an accepted request is told by at least one event. -/
theorem completions_ne_nil {op : Operation Unit} (hop : op.fault? = none) (id : ℕ) (granted : Qos)
    (code : Int) : completions ⟨op.request id, granted, code⟩ ≠ [] := by
  cases op with
  | subscribe topic qos onMessage onAck | unsubscribe topic onAck
  | publish topic qos retain payload onAck => exact List.cons_ne_nil _ _
  | subscribeMany topics qos onAck =>
    simpa [completions, Operation.request, Operation.completion] using
      Operation.topics_ne_nil hop

/-! ## Failed attempts -/

/-- Signals that tell no interruption. -/
def Uninterrupted (signals : List (Delivery Unit)) : Prop :=
  ∀ e ∈ heard signals, ∀ code, e ≠ .interrupted code

theorem Quiet.uninterrupted {signals : List (Delivery Unit)} (h : Quiet signals) :
    Uninterrupted signals := by
  rintro e he code rfl
  cases h _ he

theorem Uninterrupted.append {a b : List (Delivery Unit)} (ha : Uninterrupted a)
    (hb : Uninterrupted b) : Uninterrupted (a ++ b) := by
  intro e he
  rw [heard_append, List.mem_append] at he
  exact he.elim (ha e) (hb e)

theorem uninterrupted_closed (c : Connection Unit) : Uninterrupted c.closed.2 := by
  refine (quiet_delivery _).uninterrupted.append ?_
  rintro e he code rfl
  cases hslot : c.lifecycle.closed with
  | none => rw [hslot] at he; cases he
  | some receiver => rw [hslot] at he; cases List.mem_singleton.1 he

theorem uninterrupted_connectFailed (c : Connection Unit) (f : Failure) :
    Uninterrupted (c.connectFailed f).2 := by
  refine (quiet_delivery _).uninterrupted.append ?_
  rintro e he code rfl
  cases hslot : c.lifecycle.completed with
  | none => rw [hslot] at he; cases he
  | some receiver =>
    rw [hslot] at he
    have he : Event.interrupted code = Event.ofCallback _ := List.mem_singleton.1 he
    simp only [Event.ofCallback] at he
    split at he <;> cases he

/-- A connection that is not online is not interrupted until the broker accepts it again. -/
theorem react_offline {c : Connection Unit} (hoffline : c.online = false) {p : Poll}
    (hack : ∀ code sessionPresent, p ≠ .incoming (.connAck code sessionPresent)) :
    (c.react p).1.online = false ∧ Uninterrupted (c.react p).2 := by
  cases p with
  | incoming packet =>
    have hpacket : ∀ code sessionPresent, packet ≠ .connAck code sessionPresent := by
      rintro code sessionPresent rfl
      exact hack code sessionPresent rfl
    obtain ⟨halike, hquiet⟩ := quiet_incoming c hpacket
    exact ⟨halike.online.trans hoffline, hquiet.uninterrupted⟩
  | outgoing packet =>
    by_cases hdisconnect : packet = .disconnect
    · subst hdisconnect
      exact ⟨rfl, uninterrupted_closed c⟩
    · obtain ⟨halike, hquiet⟩ := quiet_outgoing c hdisconnect
      exact ⟨halike.online.trans hoffline, hquiet.uninterrupted⟩
  | failed f =>
    simp only [Connection.react]
    split
    · exact ⟨rfl, uninterrupted_closed c⟩
    · split
      · refine ⟨rfl, ?_⟩
        have hsignals : (Connection.rested ((c.fail f.code).interrupted f.code)).2 = [] := by
          simp [Connection.rested, Connection.interrupted, Connection.fail, hoffline]
        rw [hsignals]
        exact quiet_nil.uninterrupted
      · exact ⟨hoffline, uninterrupted_connectFailed _ f⟩

theorem online_connect (c : Connection Unit) (options : ConnectOptions) :
    (c.connect options).1.online = c.online := by
  unfold Connection.connect
  split
  · rfl
  · split <;> rfl

theorem act_offline {t : Trail Unit} (hoffline : t.link.online = false) {a : Act Unit}
    (hack : ∀ code sessionPresent, a ≠ .poll (.incoming (.connAck code sessionPresent))) :
    (t.act a).link.online = false ∧
      ∃ signals, (t.act a).told = t.told ++ signals ∧ Uninterrupted signals := by
  have hsilent {t' : Trail Unit} (htold : t'.told = t.told) :
      ∃ signals, t'.told = t.told ++ signals ∧ Uninterrupted signals :=
    ⟨[], by rw [htold, List.append_nil], quiet_nil.uninterrupted⟩
  cases a with
  | poll p =>
    by_cases hloop : t.link.loop.isSome = true
    · have hp : ∀ code sessionPresent, p ≠ .incoming (.connAck code sessionPresent) := by
        rintro code sessionPresent rfl
        exact hack code sessionPresent rfl
      obtain ⟨honline, hsignals⟩ := react_offline hoffline hp
      rw [Trail.act_poll hloop]
      exact ⟨honline, _, rfl, hsignals⟩
    · rw [show t.act (.poll p) = t from if_neg hloop]
      exact ⟨hoffline, hsilent rfl⟩
  | connect options => exact ⟨(online_connect t.link options).trans hoffline, hsilent rfl⟩
  | perform op => exact ⟨(t.link.perform_alike op).online.trans hoffline, hsilent rfl⟩
  | disconnect => exact ⟨t.link.disconnect_alike.online.trans hoffline, hsilent rfl⟩
  | loop state => exact ⟨hoffline, hsilent rfl⟩

/-- While the broker accepts nothing, however often the loop fails, no interruption is told. -/
theorem after_offline {t : Trail Unit} (hoffline : t.link.online = false) (acts : List (Act Unit))
    (hack : ∀ code sessionPresent, .poll (.incoming (.connAck code sessionPresent)) ∉ acts) :
    ∃ signals, (t.after acts).told = t.told ++ signals ∧ Uninterrupted signals := by
  induction acts generalizing t with
  | nil => exact ⟨[], (List.append_nil _).symm, quiet_nil.uninterrupted⟩
  | cons a acts ih =>
    have hfirst : ∀ code sessionPresent, a ≠ .poll (.incoming (.connAck code sessionPresent)) :=
      fun code sessionPresent heq => hack code sessionPresent (heq ▸ List.mem_cons_self)
    obtain ⟨honline, first, htold, hquiet⟩ := act_offline hoffline hfirst
    obtain ⟨rest, hrest, hquiet'⟩ := ih honline fun code sessionPresent hmem =>
      hack code sessionPresent (List.mem_cons_of_mem _ hmem)
    refine ⟨first ++ rest, ?_, hquiet.append hquiet'⟩
    rw [show t.after (a :: acts) = (t.act a).after acts from rfl, hrest, htold, List.append_assoc]

/-! ## From the start -/

/-- A link that has started to connect is alive, with the requests it had. -/
theorem alive_of_start {c c' : Connection Unit} {config : ClientConfig} (hrest : AtRest c)
    (hstart : Client.start c () config = (c', .ok ())) :
    Alive { link := c' } [] ∧ c'.tracker = c.tracker := by
  let started := (c.setHandlers (.all ())).connect config.options
  have hok : started.2 = true ∧ started.1 = c' := by
    change (if started.2 then (started.1, Except.ok ()) else (started.1, Except.error _)) =
      (c', Except.ok ()) at hstart
    split at hstart
    · cases hstart
      exact ⟨‹_›, rfl⟩
    · cases hstart
  obtain ⟨hstarted, rfl⟩ := hok
  simp only [started, Connection.connect] at hstarted ⊢
  split at hstarted
  · cases hstarted
  · split at hstarted
    · cases hstarted
    · rename_i hadmits hloop
      simp only [hadmits, hloop, if_false]
      refine ⟨⟨rfl, rfl, rfl, fun _ => ⟨hrest.online, rfl, fun _ _ => List.not_mem_nil⟩,
        (fun honce => by cases honce), ?_, fun _ => rfl, ?_⟩, rfl⟩
      all_goals
        intro x hx
        cases hx

/-- From a failure on no interruption is told until the broker accepts the connection again. -/
theorem after_failure {t : Trail Unit} (h : Alive t []) {before more : List (Act Unit)}
    {f : Failure}
    (hconnect : ∀ options, .connect options ∉ before ++ .poll (.failed f) :: more)
    (horderly : Orderly (polls (before ++ .poll (.failed f) :: more)))
    (hack : ∀ code sessionPresent, .poll (.incoming (.connAck code sessionPresent)) ∉ more) :
    ∃ later, heard (t.after (before ++ .poll (.failed f) :: more)).told =
        heard (t.after (before ++ [.poll (.failed f)])).told ++ later ∧
      ∀ e ∈ later, ∀ code, e ≠ .interrupted code := by
  rw [List.append_cons] at hconnect horderly ⊢
  rw [polls, List.filterMap_append] at horderly
  have hlife := alive_or_ended h _
    (fun options hmem => hconnect options (List.mem_append_left _ hmem)) horderly.init
  have hoffline : (t.after (before ++ [.poll (.failed f)])).link.online = false := by
    rcases hlife with halive | hended
    · have hlast : (polls (before ++ [.poll (.failed f)])).getLast? = some (.failed f) := by
        rw [polls_snoc]
        exact List.getLast?_concat
      exact (halive.failed f hlast).2
    · exact hended.rest.online
  obtain ⟨signals, htold, hquiet⟩ := after_offline hoffline more hack
  refine ⟨heard signals, ?_, hquiet⟩
  rw [Trail.after_append, htold, heard_append]

/-- The life of one connection. While its event loop runs, the events tell of no end, and those of
the connection itself are none until the broker accepts it, and alternate from then on. When the
loop has stopped, one event that ends the session is the last of all, the ends of all accepted
requests come before it, and the link can be started again. From a failure on no interruption is
told until the broker accepts the connection again. -/
theorem connection_lives {c c' : Connection Unit} {config : ClientConfig} (hrest : AtRest c)
    (hstart : Client.start c () config = (c', .ok ())) (acts : List (Act Unit))
    (hconnect : ∀ options, .connect options ∉ acts) (horderly : Orderly (polls acts)) :
    let t := Trail.after { link := c' } acts
    (t.link.loop.isSome = true →
      (∀ e ∈ heard t.told, e.endsSession = false) ∧
      (lifecycle t.told = [] ∧ Unanswered (polls acts) ∨
        ∃ up, Alternating up (lifecycle t.told))) ∧
    (t.link.loop = none →
      Lifetime (lifecycle t.told) ∧ AtRest t.link ∧
      ∃ front e, ∃ ended : List (Outcome (Completion × Unit)),
        heard t.told = front ++ [e] ∧ e.endsSession = true ∧
        (∀ x ∈ front, x.endsSession = false) ∧
        t.requests.Perm (ended.map (·.request)) ∧
        front.filter Event.isCompletion = ended.flatMap completions ∧
        ∀ o ∈ ended, completions o ≠ []) ∧
    ∀ before f more, acts = before ++ .poll (.failed f) :: more →
      (∀ code sessionPresent, .poll (.incoming (.connAck code sessionPresent)) ∉ more) →
      ∃ later, heard t.told =
          heard (Trail.after { link := c' } (before ++ [.poll (.failed f)])).told ++ later ∧
        ∀ e ∈ later, ∀ code, e ≠ .interrupted code := by
  intro t
  obtain ⟨halive, htracker⟩ := alive_of_start hrest hstart
  have hlife := alive_or_ended halive acts hconnect horderly
  refine ⟨fun hloop => ?_, fun hloop => ?_, ?_⟩
  · rcases hlife with h | h
    · refine ⟨h.unended, ?_⟩
      cases honce : t.link.connectedOnce with
      | false => exact .inl (h.before honce).2
      | true => exact .inr ⟨_, h.once honce⟩
    · rw [show t.link.loop = none from h.rest.loop] at hloop
      cases hloop
  · rcases hlife with h | h
    · have hloop' := h.loop
      rw [show (Trail.after { link := c' } acts).link.loop = none from hloop] at hloop'
      cases hloop'
    · have hidle : c'.tracker.outstanding = [] := htracker ▸ hrest.idle
      obtain ⟨-, ended, hended, hperm⟩ := (Trail.conserved_of_idle hidle).after acts
      rw [show t.link.tracker.outstanding = [] from h.rest.idle, List.nil_append] at hperm
      obtain ⟨front, e, hheard, he, hfront⟩ := h.last
      refine ⟨h.lifetime, h.rest, front, e, ended, hheard, he, hfront, hperm, ?_, ?_⟩
      · have hcompletion : e.isCompletion = false := by
          cases e with
          | connectFailed code returnCode | closed => rfl
          | _ => cases he
        have hcompletions := completions_heard (Trail.after { link := c' } acts).told
        rw [hheard, hended, heard_delivery, List.filter_append,
          List.filter_cons_of_neg (by simp [hcompletion]), List.filter_nil,
          List.append_nil] at hcompletions
        exact hcompletions
      · rintro ⟨q, granted, code⟩ ho
        have hq : q ∈ t.requests := hperm.symm.subset (List.mem_map_of_mem ho)
        obtain ⟨kind, op, id, hop, -, rfl⟩ := Trail.makes_of_request c' acts q hq
        exact completions_ne_nil hop id granted code
  · rintro before f more rfl hack
    exact after_failure halive hconnect horderly hack

/-- A connection with a request that is connected, interrupted once by two failures, resumed and
closed. -/
theorem connection_lives_closed :
    let c : Connection Unit :=
      { config := ⟨"broker", some 1883, .password "user" "word", none, false⟩ }
    let config : ClientConfig := { endpoint := "broker", clientId := "device" }
    let c' := (Client.start c () config).1
    let acts : List (Act Unit) :=
      [.poll (.incoming (.connAck .accepted false)), .poll (.failed .io), .poll (.failed .io),
        .perform (.publish "t/x" .atLeastOnce false [] ()), .disconnect,
        .poll (.incoming (.connAck .accepted true)), .poll (.outgoing .disconnect)]
    let t := Trail.after { link := c' } acts
    AtRest c ∧ Client.start c () config = (c', .ok ()) ∧ (∀ options, .connect options ∉ acts) ∧
      Orderly (polls acts) ∧ t.link.loop = none ∧
      lifecycle t.told = [.connected false, .interrupted ErrorCode.unexpectedHangup.code,
        .resumed .accepted true, .closed] ∧
      Lifetime (lifecycle t.told) := by
  intro c config c' acts t
  have hrest : AtRest c := ⟨rfl, rfl, rfl⟩
  have hstart : Client.start c () config = (c', .ok ()) := rfl
  have hconnect : ∀ options, .connect options ∉ acts := by simp [acts]
  have horderly : Orderly (polls acts) := by
    rintro before code sessionPresent rest heq
    rcases before with _ | ⟨_, _ | ⟨_, _ | ⟨_, _ | ⟨_, _ | ⟨_, before⟩⟩⟩⟩⟩ <;>
      simp_all [polls, acts]
    -- The second acceptance stands right after the second failure.
    exact ⟨.io, heq.2.2.1.symm⟩
  have hloop : t.link.loop = none := by decide +kernel
  have hlifecycle : lifecycle t.told = [.connected false,
      .interrupted ErrorCode.unexpectedHangup.code, .resumed .accepted true, .closed] := by
    decide +kernel
  exact ⟨hrest, hstart, hconnect, horderly, hloop, hlifecycle,
    ((connection_lives hrest hstart acts hconnect horderly).2.1 hloop).1⟩

end DeviceLink.Agent
