import DeviceLink.Proofs.Link.Conservation
import DeviceLink.Proofs.Link.Routes
/-!
# Operations of a link

Subscribing, unsubscribing and publishing, as one type. An operation is refused at once, or it is
submitted as a request; the routes change only when that request is accepted. A trail is a link
with all that was asked of it and all that it told, while its event loop goes on as it likes.
-/

namespace DeviceLink.Link

open Mqtt

variable {ρ : Type}

/-! ## The table -/

namespace Routes

/-- The table after a filter got a receiver, or lost it. -/
def change (table : Routes ρ) (x : String × Option ρ) : Routes ρ :=
  match x.2 with
  | some receiver => table.put x.1 receiver
  | none => table.erase x.1

/-- The table after several changes in order. -/
def changeAll (table : Routes ρ) (changes : List (String × Option ρ)) : Routes ρ :=
  changes.foldl change table

theorem changeAll_puts (table : Routes ρ) (entries : List (String × ρ)) :
    table.changeAll (entries.map fun e => (e.1, some e.2)) = table.putAll entries := by
  rw [changeAll, List.foldl_map]
  rfl

theorem changeAll_append (table : Routes ρ) (a b : List (String × Option ρ)) :
    table.changeAll (a ++ b) = (table.changeAll a).changeAll b :=
  List.foldl_append ..

end Routes

/-! ## One operation -/

/-- An operation with the receivers of its messages and of its end. -/
inductive Operation (ρ : Type)
  | subscribe (topic : String) (qos : Qos) (onMessage onAck : ρ)
  | subscribeMany (topics : List (String × ρ)) (qos : Qos) (onAck : ρ)
  | unsubscribe (topic : String) (onAck : ρ)
  | publish (topic : String) (qos : Qos) (retain : Bool) (payload : List UInt8) (onAck : ρ)

namespace Operation

/-- The kind of the request. -/
def kind : Operation ρ → Kind
  | subscribe .. | subscribeMany .. => .subscribe
  | unsubscribe .. => .unsubscribe
  | publish .. => .publish

/-- The quality asked for; ending a subscription has none of its own. -/
def qos : Operation ρ → Qos
  | subscribe _ qos _ _ | subscribeMany _ qos _ | publish _ qos _ _ _ => qos
  | unsubscribe .. => .atLeastOnce

/-- What the operation waits to be told. -/
def completion : Operation ρ → Completion
  | subscribe topic .. => .subscribe topic
  | subscribeMany topics .. => .subscribeMany (topics.map (·.1))
  | unsubscribe .. => .unsubscribe
  | publish .. => .publish

/-- Who is told of the end. -/
def onAck : Operation ρ → ρ
  | subscribe _ _ _ onAck | subscribeMany _ _ onAck | unsubscribe _ onAck
  | publish _ _ _ _ onAck => onAck

/-- What the event loop is asked to send. -/
def command : Operation ρ → Command
  | subscribe topic qos _ _ => .subscribe [(topic, qos)]
  | subscribeMany topics qos _ => .subscribe ((topics.map (·.1)).map (·, qos))
  | unsubscribe topic _ => .unsubscribe topic
  | publish topic qos retain payload _ => .publish topic qos retain payload

/-- Why an operation is not even submitted. -/
def fault? : Operation ρ → Option ErrorCode
  | subscribe _ qos _ _ | publish _ qos _ _ _ =>
    if qos.isRequestable then none else some .invalidQos
  | subscribeMany topics qos _ =>
    if ¬qos.isRequestable then some .invalidQos
    else if topics.isEmpty then some .connectionResubscribeNoTopics
    else none
  | unsubscribe .. => none

/-- The filters that the operation names, each with its new receiver or with none. -/
def changes : Operation ρ → List (String × Option ρ)
  | subscribe topic _ onMessage _ => [(topic, some onMessage)]
  | subscribeMany topics _ _ => topics.map fun e => (e.1, some e.2)
  | unsubscribe topic _ => [(topic, none)]
  | publish .. => []

/-- The request that an operation is accepted as. -/
def request (op : Operation ρ) (id : ℕ) : Request (Completion × ρ) :=
  ⟨id, op.qos, (op.completion, op.onAck)⟩

theorem topics_ne_nil {topics : List (String × ρ)} {qos : Qos} {onAck : ρ}
    (h : (subscribeMany topics qos onAck).fault? = none) : topics ≠ [] := by
  rintro rfl
  simp only [fault?] at h
  split at h <;> cases h

end Operation

namespace Connection

/-- The link after an operation, and the id of its request if it was accepted. -/
def perform (c : Connection ρ) : Operation ρ → Connection ρ × Option ℕ
  | .subscribe topic qos onMessage onAck => c.subscribe topic qos onMessage onAck
  | .subscribeMany topics qos onAck => c.subscribeMany topics qos onAck
  | .unsubscribe topic onAck => c.unsubscribe topic onAck
  | .publish topic qos retain payload onAck => c.publish topic qos retain payload onAck

/-- The submission of an operation. -/
def submitted (c : Connection ρ) (op : Operation ρ) : Connection ρ × Option ℕ :=
  c.submit op.kind op.qos op.completion op.onAck op.command

/-- What a submission and its answer make of the routes. -/
def settled (r : Connection ρ × Option ℕ) (changes : List (String × Option ρ)) :
    Connection ρ × Option ℕ :=
  ({ r.1 with routes := if r.2.isSome then r.1.routes.changeAll changes else r.1.routes }, r.2)

theorem settled_eq (r : Connection ρ × Option ℕ) (changes : List (String × Option ρ)) :
    settled r changes =
      (if r.2.isSome then { r.1 with routes := r.1.routes.changeAll changes } else r.1, r.2) := by
  unfold settled
  cases r.2 <;> rfl

theorem routed_eq_settled (r : Connection ρ × Option ℕ) (entries : List (String × ρ)) :
    routed r entries = settled r (entries.map fun e => (e.1, some e.2)) := by
  rw [settled_eq, Routes.changeAll_puts]
  rfl

/-- Every operation is one submission, unless it is refused before; an accepted one changes the
routes as it says. -/
theorem perform_eq (c : Connection ρ) (op : Operation ρ) : c.perform op =
    match op.fault? with
    | some e => (c.fail e, none)
    | none => settled (c.submitted op) op.changes := by
  cases op with
  | subscribe topic qos onMessage onAck =>
    by_cases hqos : qos.isRequestable = true
    · simp only [perform, subscribe, Operation.fault?, hqos, not_true_eq_false, if_true, if_false,
        routed_eq_settled]
      rfl
    · simp [perform, subscribe, Operation.fault?, hqos]
  | subscribeMany topics qos onAck =>
    by_cases hqos : qos.isRequestable = true
    · by_cases htopics : topics.isEmpty = true
      · simp [perform, subscribeMany, Operation.fault?, hqos, htopics]
      · simp only [perform, subscribeMany, Operation.fault?, hqos, htopics, not_true_eq_false,
          if_false, Bool.false_eq_true, routed_eq_settled]
        rfl
    · simp [perform, subscribeMany, Operation.fault?, hqos]
  | unsubscribe topic onAck =>
    simp only [perform, Operation.fault?, settled_eq]
    rfl
  | publish topic qos retain payload onAck =>
    by_cases hqos : qos.isRequestable = true
    · simp only [perform, publish, Operation.fault?, hqos, not_true_eq_false, if_true, if_false,
        settled]
      split <;> rfl
    · simp [perform, publish, Operation.fault?, hqos]

end Connection

/-! ## Requests -/

/-- A tracker before and after at most one operation, the requests that were accepted, with their
kinds, and those that ended. -/
inductive Tracker.Moved {κ : Type} (t : Tracker κ) :
    Tracker κ → List (Kind × Request κ) → List (Outcome κ) → Prop
  | still : Moved t t [] []
  | moved {op : Op κ} {t' : Tracker κ} {ended : List (Outcome κ)} (h : Effect t op t' ended) :
    Moved t t' (t.joins op) ended

namespace Tracker.Moved

variable {κ : Type} {t t' : Tracker κ} {joined : List (Kind × Request κ)}
  {ended : List (Outcome κ)}

theorem conserves (h : Moved t t' joined ended) (hn : (t.sent.map (·.1)).Nodup) :
    (t'.sent.map (·.1)).Nodup ∧
      (t.outstanding ++ joined.map (·.2)).Perm (t'.outstanding ++ ended.map (·.request)) := by
  cases h with
  | still => exact ⟨hn, .refl _⟩
  | moved heffect => exact heffect.conserves hn

end Tracker.Moved

/-- Whether all requests of a tracker, with their kinds, have a property. -/
structure Tracker.All {κ : Type} (P : Kind → Request κ → Prop) (t : Tracker κ) : Prop where
  queued : ∀ x ∈ t.queued, P x.1 x.2
  sent : ∀ x ∈ t.sent, P x.1.1 x.2

/-- What all requests have that a tracker holds and that join it, it goes on to hold. -/
theorem Tracker.Moved.all {κ : Type} {P : Kind → Request κ → Prop} {t t' : Tracker κ}
    {joined : List (Kind × Request κ)} {ended : List (Outcome κ)} (h : Moved t t' joined ended)
    (hall : t.All P) (hjoined : ∀ x ∈ joined, P x.1 x.2) : t'.All P := by
  obtain ⟨hqueued, hsent⟩ := hall
  cases h with
  | still => exact ⟨hqueued, hsent⟩
  | moved heffect =>
    -- A request that leaves the queue was in its middle.
    have hrest {a b : List (Kind × Request κ)} {x : Kind × Request κ}
        (hq : t.queued = a ++ x :: b) : P x.1 x.2 ∧ ∀ y ∈ a ++ b, P y.1 y.2 := by
      rw [hq] at hqueued
      refine ⟨hqueued x (by simp), fun y hy => hqueued y ?_⟩
      exact (List.sublist_cons_self x b).append_left a |>.subset hy
    cases heffect with
    | accepted kind qos completion =>
      refine ⟨fun x hx => ?_, hsent⟩
      exact (List.mem_append.1 hx).elim (hqueued x) (hjoined x)
    | refused | repeated | stray => exact ⟨hqueued, hsent⟩
    | finished kind pkid a b r _ hq => exact ⟨(hrest hq).2, hsent⟩
    | sent kind pkid a b r _ hq =>
      refine ⟨(hrest hq).2, fun x hx => ?_⟩
      rcases List.mem_append.1 hx with hx | hx
      · exact hsent x hx
      · rw [List.mem_singleton.1 hx]
        exact (hrest hq).1
    | acknowledged kind pkid granted r =>
      exact ⟨hqueued, fun x hx => hsent x (List.mem_of_mem_filter hx)⟩
    | abandoned code => exact ⟨nofun, nofun⟩

/-- Whether a request is one that an operation of its kind is accepted as. -/
def Operation.Makes (kind : Kind) (q : Request (Completion × ρ)) : Prop :=
  ∃ op : Operation ρ, ∃ id, op.fault? = none ∧ op.kind = kind ∧ q = op.request id

namespace Connection

theorem submitted_moved (c : Connection ρ) (op : Operation ρ) :
    Tracker.Moved c.tracker (c.submitted op).1.tracker
      ((c.submitted op).2.map fun id => (op.kind, op.request id)).toList [] := by
  let st : Step := .submit op.kind op.qos op.completion op.command
  have htracker : (c.submitted op).1.tracker = _ := c.tracker_step op.onAck st
  have hanswer : (c.submitted op).2 = _ := c.answer_step op.onAck st
  rw [htracker, hanswer]
  simp only [st, op?]
  split
  · have heffect := c.tracker.effect_of
      (.submit op.kind op.qos (op.completion, op.onAck) (c.takes op.command))
    have hmoved := Tracker.Moved.moved heffect
    cases htakes : c.takes op.command <;> rw [htakes] at hmoved <;> exact hmoved
  · exact .still

/-- An operation adds the request it is accepted as, and ends none. -/
theorem perform_moved (c : Connection ρ) (op : Operation ρ) :
    Tracker.Moved c.tracker (c.perform op).1.tracker
      ((c.perform op).2.map fun id => (op.kind, op.request id)).toList [] := by
  rw [perform_eq]
  split
  · exact .still
  · exact c.submitted_moved op

/-- The step that a poll of the event loop amounts to. -/
def stepOf (c : Connection ρ) : Poll → Step
  | .incoming packet => .incoming packet
  | .outgoing .disconnect => .closed
  | .outgoing packet => .outgoing packet
  | .failed f =>
    if c.closing then .closed
    else if c.connectedOnce then .interrupted f.code
    else .connectFailed f

theorem react_stepOf (c : Connection ρ) (poll : Poll) (callback : ρ) :
    (c.react poll).2 = (c.step callback (c.stepOf poll)).signals ∧
      (c.react poll).1.tracker = (c.step callback (c.stepOf poll)).link.tracker := by
  cases poll with
  | incoming packet => exact ⟨rfl, rfl⟩
  | outgoing packet => cases packet <;> exact ⟨rfl, rfl⟩
  | failed f =>
    by_cases hclosing : c.closing = true
    · simp only [react, stepOf, hclosing, if_true]
      exact ⟨rfl, rfl⟩
    · by_cases honce : c.connectedOnce = true
      · have hfail : (c.fail f.code).connectedOnce = true := honce
        simp only [react, stepOf, hclosing, honce, hfail, if_true, if_false, Bool.false_eq_true]
        exact ⟨rfl, rfl⟩
      · have hfail : ¬(c.fail f.code).connectedOnce = true := honce
        simp only [react, stepOf, hclosing, honce, hfail, if_false, Bool.false_eq_true]
        exact ⟨rfl, rfl⟩

/-- No poll submits a request. -/
theorem joins_stepOf (c : Connection ρ) {poll : Poll} {callback : ρ}
    {op : Tracker.Op (Completion × ρ)} (h : c.op? callback (c.stepOf poll) = some op) :
    c.tracker.joins op = [] := by
  cases poll with
  | incoming packet => cases packet <;> cases h <;> rfl
  | outgoing packet => cases packet <;> cases h <;> rfl
  | failed f =>
    simp only [stepOf] at h
    split at h
    · cases h
      rfl
    · split at h <;> cases h
      rfl

/-- The callbacks that a poll invokes for requests are those of the requests it ends. -/
theorem react_moved [Inhabited ρ] (c : Connection ρ) (poll : Poll) : ∃ ended,
    Tracker.Moved c.tracker (c.react poll).1.tracker [] ended ∧
      endings (c.react poll).2 = ended.map Outcome.delivery := by
  obtain ⟨hsignals, htracker⟩ := c.react_stepOf poll default
  rw [hsignals, htracker, tracker_step, endings_step, outcomes]
  cases hop : c.op? default (c.stepOf poll) with
  | none => exact ⟨[], .still, rfl⟩
  | some op =>
    have hmoved := Tracker.Moved.moved (c.tracker.effect_of op)
    rw [c.joins_stepOf hop] at hmoved
    exact ⟨_, hmoved, rfl⟩

theorem tracker_connect (c : Connection ρ) (options : ConnectOptions) :
    (c.connect options).1.tracker = c.tracker := by
  unfold connect
  split
  · rfl
  · split <;> rfl

theorem tracker_disconnect (c : Connection ρ) : c.disconnect.1.tracker = c.tracker := by
  unfold disconnect
  split
  · rfl
  · split <;> rfl

/-! ## What is left alone -/

/-- Two states of a link with the same handlers that stand alike: as to its event loop, to whether
it takes requests, and to whether the broker has accepted it. -/
structure Alike (c c' : Connection ρ) : Prop where
  lifecycle : c'.lifecycle = c.lifecycle
  client : c'.client = c.client
  connectedOnce : c'.connectedOnce = c.connectedOnce
  online : c'.online = c.online
  loop : c'.loop.isSome = c.loop.isSome

theorem Alike.refl (c : Connection ρ) : Alike c c := ⟨rfl, rfl, rfl, rfl, rfl⟩

theorem submit_alike (c : Connection ρ) (kind : Kind) (qos : Qos) (completion : Completion)
    (onAck : ρ) (command : Command) :
    Alike c (c.submit kind qos completion onAck command).1 := by
  unfold submit
  split
  · exact ⟨rfl, rfl, rfl, rfl, rfl⟩
  · split
    · exact ⟨rfl, rfl, rfl, rfl, rfl⟩
    · dsimp only
      split
      · exact ⟨rfl, rfl, rfl, rfl, Option.isSome_map⟩
      · exact ⟨rfl, rfl, rfl, rfl, rfl⟩

theorem perform_alike (c : Connection ρ) (op : Operation ρ) : Alike c (c.perform op).1 := by
  rw [perform_eq]
  split
  · exact ⟨rfl, rfl, rfl, rfl, rfl⟩
  · obtain ⟨h₁, h₂, h₃, h₄, h₅⟩ : Alike c (c.submitted op).1 := c.submit_alike ..
    exact ⟨h₁, h₂, h₃, h₄, h₅⟩

theorem disconnect_alike (c : Connection ρ) : Alike c c.disconnect.1 := by
  unfold disconnect
  split
  · exact .refl c
  · split
    · exact ⟨rfl, rfl, rfl, rfl, Option.isSome_map⟩
    · exact .refl c

/-- Without a client every operation is refused and leaves the requests alone. -/
theorem perform_of_no_client (c : Connection ρ) (h : c.client = false) (op : Operation ρ) :
    (c.perform op).2 = none ∧ (c.perform op).1.tracker = c.tracker := by
  have hsubmitted : c.submitted op = (c.fail .notConnected, none) := by
    unfold submitted submit
    rw [if_pos (by simp [h])]
  rw [perform_eq]
  split
  · exact ⟨rfl, rfl⟩
  · rw [hsubmitted]
    exact ⟨rfl, rfl⟩

/-- What is accepted was not refused before it was submitted. -/
theorem fault?_of_accepted (c : Connection ρ) {op : Operation ρ}
    (h : (c.perform op).2.isSome = true) : op.fault? = none := by
  rw [perform_eq] at h
  split at h
  · cases h
  · assumption

end Connection

/-! ## Trails -/

/-- What may happen to a link: an operation, a poll of its event loop, starting a loop, starting
to close the connection, and a change inside the loop. -/
inductive Act (ρ : Type)
  | perform (op : Operation ρ)
  | poll (result : Poll)
  | connect (options : ConnectOptions)
  | disconnect
  | loop (state : Loop)

/-- A link, the operations asked of it with their answers, and what it told. -/
structure Trail (ρ : Type) where
  link : Connection ρ
  asked : List (Operation ρ × Option ℕ) := []
  told : List (Delivery ρ) := []

namespace Trail

/-- The trail after one more act. A link whose event loop has ended is not polled. -/
def act (t : Trail ρ) : Act ρ → Trail ρ
  | .perform op =>
    let (link, answer) := t.link.perform op
    { t with link, asked := t.asked ++ [(op, answer)] }
  | .poll result =>
    if t.link.loop.isSome then
      let (link, signals) := t.link.react result
      { t with link, told := t.told ++ signals }
    else t
  | .connect options => { t with link := (t.link.connect options).1 }
  | .disconnect => { t with link := t.link.disconnect.1 }
  | .loop state => { t with link.loop := t.link.loop.map fun _ => state }

/-- The trail after some acts. -/
def after (t : Trail ρ) (acts : List (Act ρ)) : Trail ρ := acts.foldl act t

theorem after_append (t : Trail ρ) (first more : List (Act ρ)) :
    t.after (first ++ more) = (t.after first).after more :=
  List.foldl_append

theorem after_snoc (t : Trail ρ) (acts : List (Act ρ)) (a : Act ρ) :
    t.after (acts ++ [a]) = (t.after acts).act a := by
  rw [after_append]
  rfl

theorem act_poll {t : Trail ρ} (h : t.link.loop.isSome = true) (result : Poll) :
    t.act (.poll result) =
      { t with link := (t.link.react result).1, told := t.told ++ (t.link.react result).2 } :=
  if_pos h

/-- The requests that were accepted, in order. -/
def requests (t : Trail ρ) : List (Request (Completion × ρ)) :=
  t.asked.filterMap fun x => x.2.map x.1.request

/-- Every accepted request is outstanding or was told its end. -/
structure Conserved (t : Trail ρ) : Prop where
  packets : (t.link.tracker.sent.map (·.1)).Nodup
  requests : ∃ ended : List (Outcome (Completion × ρ)),
    endings t.told = ended.map Outcome.delivery ∧
      t.requests.Perm (t.link.tracker.outstanding ++ ended.map (·.request))

theorem Conserved.of_moved {t t' : Trail ρ} (h : t.Conserved)
    {joined : List (Kind × Request (Completion × ρ))} {ended : List (Outcome (Completion × ρ))}
    (hmoved : Tracker.Moved t.link.tracker t'.link.tracker joined ended)
    (hrequests : t'.requests = t.requests ++ joined.map (·.2))
    (htold : endings t'.told = endings t.told ++ ended.map Outcome.delivery) : t'.Conserved := by
  obtain ⟨hpackets, past, hpast, hperm⟩ := h
  obtain ⟨hpackets', hmove⟩ := hmoved.conserves hpackets
  refine ⟨hpackets', past ++ ended, ?_, ?_⟩
  · rw [htold, hpast, List.map_append]
  · rw [hrequests, List.map_append]
    exact Tracker.perm_settle hperm hmove

theorem Conserved.act [Inhabited ρ] {t : Trail ρ} (h : t.Conserved) (a : Act ρ) :
    (t.act a).Conserved := by
  cases a with
  | perform op =>
    refine h.of_moved (t.link.perform_moved op) ?_ (List.append_nil _).symm
    simp only [Trail.requests, Trail.act, List.filterMap_append]
    cases (t.link.perform op).2 <;> rfl
  | poll result =>
    by_cases hloop : t.link.loop.isSome = true
    · obtain ⟨ended, hmoved, hended⟩ := t.link.react_moved result
      rw [act_poll hloop]
      refine h.of_moved hmoved (List.append_nil _).symm ?_
      rw [Connection.endings_append, hended]
    · rwa [show t.act (.poll result) = t from if_neg hloop]
  | connect options =>
    refine ⟨?_, ?_⟩ <;> simp only [Trail.act, Connection.tracker_connect]
    exacts [h.packets, h.requests]
  | disconnect =>
    refine ⟨?_, ?_⟩ <;> simp only [Trail.act, Connection.tracker_disconnect]
    exacts [h.packets, h.requests]
  | loop state => exact ⟨h.packets, h.requests⟩

theorem Conserved.after [Inhabited ρ] {t : Trail ρ} (h : t.Conserved) (acts : List (Act ρ)) :
    (t.after acts).Conserved := by
  induction acts using List.reverseRecOn with
  | nil => exact h
  | append_singleton acts a ih =>
    rw [after_snoc]
    exact ih.act a

theorem conserved_of_idle {c : Connection ρ} (h : c.tracker.outstanding = []) :
    Conserved { link := c } := by
  obtain ⟨-, hsent⟩ := Tracker.outstanding_eq_nil.1 h
  refine ⟨?_, [], rfl, ?_⟩
  · rw [hsent]
    exact .nil
  · rw [h]
    exact .refl _

theorem makes_of_accepted {c : Connection ρ} {op : Operation ρ} {id : ℕ}
    (h : (c.perform op).2 = some id) : Operation.Makes op.kind (op.request id) :=
  ⟨op, id, c.fault?_of_accepted (by rw [h]; rfl), rfl, rfl⟩

/-- Every accepted request is one that an operation makes. -/
theorem makes_of_request (c : Connection ρ) (acts : List (Act ρ)) :
    ∀ q ∈ (Trail.after { link := c } acts).requests, ∃ kind, Operation.Makes kind q := by
  induction acts using List.reverseRecOn with
  | nil => exact nofun
  | append_singleton acts a ih =>
    rw [after_snoc]
    cases a with
    | perform op =>
      intro q hq
      simp only [Trail.requests, act, List.filterMap_append, List.mem_append] at hq
      rcases hq with hq | hq
      · exact ih q hq
      · cases hanswer : ((Trail.after { link := c } acts).link.perform op).2 with
        | none => simp [hanswer] at hq
        | some id =>
          have hq : q = op.request id := by simpa [hanswer] using hq
          exact ⟨op.kind, hq ▸ makes_of_accepted hanswer⟩
    | poll result =>
      simp only [act]
      split <;> exact ih
    | connect options | disconnect | loop state => exact ih

/-- Every outstanding request is one that an operation of its kind makes. -/
theorem makes_of_outstanding [Inhabited ρ] {c : Connection ρ} (h : c.tracker.outstanding = [])
    (acts : List (Act ρ)) :
    (Trail.after { link := c } acts).link.tracker.All Operation.Makes := by
  induction acts using List.reverseRecOn with
  | nil =>
    obtain ⟨hqueued, hsent⟩ := Tracker.outstanding_eq_nil.1 h
    exact ⟨by simp [after, hqueued], by simp [after, hsent]⟩
  | append_singleton acts a ih =>
    rw [after_snoc]
    cases a with
    | perform op =>
      refine (Connection.perform_moved _ op).all ih fun x hx => ?_
      obtain ⟨id, hanswer, rfl⟩ := Option.map_eq_some_iff.1 (Option.mem_toList.1 hx)
      exact makes_of_accepted hanswer
    | poll result =>
      simp only [act]
      split
      · obtain ⟨ended, hmoved, -⟩ := Connection.react_moved (after { link := c } acts).link result
        exact hmoved.all ih nofun
      · exact ih
    | connect options =>
      simp only [act, Connection.tracker_connect]
      exact ih
    | disconnect =>
      simp only [act, Connection.tracker_disconnect]
      exact ih
    | loop state => exact ih

end Trail

end DeviceLink.Link
