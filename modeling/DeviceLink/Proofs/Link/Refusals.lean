import DeviceLink.Proofs.Link.Opening
/-!
# Refused operations

An operation is refused for the first of five reasons that applies to it. It leaves that reason, at
most an id that is used up, and nothing else: a request that the event loop does not take has
joined the queue before, and what is taken back out of it is that very request. So no callback of a
refused operation is ever invoked.
-/

namespace DeviceLink

open Mqtt

/-- Who is told of a connection as a whole. -/
def Mqtt.Lifecycle.receivers {ρ : Type} (l : Lifecycle ρ) : List ρ :=
  l.completed.toList ++ l.closed.toList ++ l.interrupted.toList ++ l.resumed.toList

namespace Link

variable {ρ : Type}

/-! ## Taking a request back -/

namespace Tracker

variable {κ : Type} (t : Tracker κ) (kind : Kind) (qos : Qos) (completion : κ)

/-- The tracker with a request at the end of the queue, under the next id. -/
def enqueue : Tracker κ :=
  { t with
    lastId := nextId t.lastId
    queued := t.queued ++ [(kind, ⟨nextId t.lastId, qos, completion⟩)] }

/-- The tracker without the newest queued request of a kind. -/
def withdraw : Tracker κ :=
  { t with queued := (t.queued.reverse.eraseP fun entry => entry.1 = kind).reverse }

/-- Taking back right after a request has joined takes back that one. -/
theorem withdraw_enqueue :
    (t.enqueue kind qos completion).withdraw kind = { t with lastId := nextId t.lastId } := by
  simp [enqueue, withdraw]

/-- Every request joins the queue, and one that is refused is taken back. -/
theorem submit_eq (accepted : Bool) : t.submit kind qos completion accepted =
    if accepted then (t.enqueue kind qos completion, some (nextId t.lastId))
    else ((t.enqueue kind qos completion).withdraw kind, none) := by
  rw [withdraw_enqueue]
  rfl

end Tracker

/-! ## Reasons -/

/-- Whether an operation subscribes to no topics at all. -/
def Operation.isVacant : Operation ρ → Bool
  | subscribeMany topics .. => topics.isEmpty
  | subscribe .. | unsubscribe .. | publish .. => false

theorem Operation.fault?_eq (op : Operation ρ) : op.fault? =
    if op.qos = .failure then some .invalidQos
    else if op.isVacant then some .connectionResubscribeNoTopics
    else none := by
  cases op with
  | subscribe topic qos | subscribeMany topics qos | publish topic qos =>
    by_cases hqos : qos = .failure <;>
      simp [fault?, Operation.qos, Qos.isRequestable, isVacant, hqos]
  | unsubscribe topic onAck => rfl

namespace Connection

variable (c : Connection ρ) (op : Operation ρ)

/-- What an operation is checked for, in this order, and whether it fails the check. -/
def checks : List (ErrorCode × Bool) :=
  [(.invalidQos, op.qos = .failure),
    (.connectionResubscribeNoTopics, op.isVacant),
    (.notConnected, !c.client),
    (.connectionDisconnecting, c.closing),
    (.queueFull, !c.takes op.command)]

/-- The first check that an operation fails. -/
def reason? : Option ErrorCode := ((c.checks op).find? (·.2)).map (·.1)

/-- An operation with a reason against it leaves the reason, and any other one its request. -/
theorem perform_by_reason : c.perform op =
    match c.reason? op with
    | some e =>
      ({ c with
        tracker :=
          if e = .queueFull then
            (c.tracker.enqueue op.kind op.qos (op.completion, op.onAck)).withdraw op.kind
          else c.tracker
        lastError := e.code }, none)
    | none =>
      ({ c with
        tracker := c.tracker.enqueue op.kind op.qos (op.completion, op.onAck)
        routes := c.routes.changeAll op.changes
        loop := c.loop.map (·.hand op.command) }, some (nextId c.tracker.lastId)) := by
  rw [perform_eq, Operation.fault?_eq]
  by_cases hqos : op.qos = .failure
  · simp [reason?, checks, hqos, fail]
  · by_cases hvacant : op.isVacant = true
    · simp [reason?, checks, hqos, hvacant, fail]
    · by_cases hclient : c.client = true <;> by_cases hclosing : c.closing = true <;>
        by_cases htakes : c.takes op.command = true <;>
        simp [reason?, checks, hqos, hvacant, hclient, hclosing, htakes, settled, submitted, submit,
          Tracker.submit_eq, fail, hand]

/-- A refusal leaves its reason and may use up an id. -/
theorem perform_refused {e : ErrorCode} (h : c.reason? op = some e) :
    ∃ n, c.perform op =
      ({ c with tracker := { c.tracker with lastId := n }, lastError := e.code }, none) := by
  rw [perform_by_reason, h]
  simp only [Tracker.withdraw_enqueue]
  split
  · exact ⟨_, rfl⟩
  · exact ⟨_, rfl⟩

end Connection

/-! ## Callbacks -/

/-- The callbacks that are passed to an operation. -/
def Operation.callbacks : Operation ρ → List ρ
  | subscribe _ _ onMessage onAck => [onMessage, onAck]
  | subscribeMany topics _ onAck => topics.map (·.2) ++ [onAck]
  | unsubscribe _ onAck | publish _ _ _ _ onAck => [onAck]

theorem Operation.onAck_mem_callbacks (op : Operation ρ) : op.onAck ∈ op.callbacks := by
  cases op <;> simp [onAck, callbacks]

theorem Operation.callbacks_of_changes {op : Operation ρ} {f : String} {r : ρ}
    (h : (f, some r) ∈ op.changes) : r ∈ op.callbacks := by
  cases op with
  | subscribe topic qos onMessage onAck =>
    cases List.mem_singleton.1 h
    exact .head _
  | subscribeMany topics qos onAck =>
    obtain ⟨e, he, heq⟩ := List.mem_map.1 h
    cases heq
    exact List.mem_append_left _ (List.mem_map_of_mem he)
  | unsubscribe topic onAck => cases List.mem_singleton.1 h
  | publish => cases h

theorem Routes.mem_put {filter : String} {receiver : ρ} {table : Routes ρ} {e : String × ρ}
    (h : e ∈ table.put filter receiver) : e ∈ table ∨ e = (filter, receiver) := by
  induction table with
  | nil => exact .inr (List.mem_singleton.1 h)
  | cons entry table ih =>
    obtain ⟨f, old⟩ := entry
    by_cases hf : f = filter
    · rw [put, if_pos hf] at h
      obtain rfl | h := List.mem_cons.1 h
      · exact .inr (by rw [hf])
      · exact .inl (.tail _ h)
    · rw [put, if_neg hf] at h
      obtain rfl | h := List.mem_cons.1 h
      · exact .inl (.head _)
      · exact (ih h).imp_left (.tail _)

/-- Every receiver in a table was there before or was brought by a change. -/
theorem Routes.mem_changeAll {table : Routes ρ} {changes : List (String × Option ρ)}
    {e : String × ρ} (h : e ∈ table.changeAll changes) :
    e ∈ table ∨ (e.1, some e.2) ∈ changes := by
  induction changes generalizing table with
  | nil => exact .inl h
  | cons x changes ih =>
    obtain ⟨filter, receiver⟩ := x
    obtain h | h := ih (show e ∈ (table.change (filter, receiver)).changeAll changes from h)
    · cases receiver with
      | none => exact .inl (List.mem_of_mem_filter h)
      | some receiver =>
        obtain h | rfl := mem_put (show e ∈ table.put filter receiver from h)
        · exact .inl h
        · exact .inr (.head _)
    · exact .inr (.tail _ h)

/-- Whoever a link may call has a property: those who are told of the connection, the receivers of
messages, and those who wait for the end of a request. -/
structure Connection.Confined (P : ρ → Prop) (c : Connection ρ) : Prop where
  lifecycle : ∀ x ∈ c.lifecycle.receivers, P x
  routes : ∀ e ∈ c.routes, P e.2
  tracker : c.tracker.All fun _ q => P q.completion.2

/-- Whoever is told of the end of a request was waiting for it. -/
theorem Tracker.All.ended {P : ρ → Prop} {t : Tracker (Completion × ρ)}
    (h : t.All fun _ q => P q.completion.2) (op : Op (Completion × ρ)) :
    ∀ d ∈ (t.apply op).2.map Outcome.delivery, P d.receiver := by
  intro d hd
  obtain ⟨o, ho, rfl⟩ := List.mem_map.1 hd
  show P o.request.completion.2
  have heffect := t.effect_of op
  generalize (t.apply op).2 = ended at heffect ho
  generalize (t.apply op).1 = t' at heffect
  cases heffect with
  | accepted | refused | repeated | sent | stray => cases ho
  | finished kind pkid a b r _ hq =>
    rw [List.mem_singleton.1 ho]
    exact h.queued (kind, r) (by rw [hq]; simp)
  | acknowledged kind pkid granted r hr =>
    rw [List.mem_singleton.1 ho]
    exact h.sent _ (mem_of_lookup hr)
  | abandoned code =>
    obtain ⟨q, hq, rfl⟩ := List.mem_map.1 ho
    obtain hq | hq := List.mem_append.1 hq
    · obtain ⟨entry, hentry, rfl⟩ := List.mem_map.1 hq
      exact h.queued _ hentry
    · obtain ⟨entry, hentry, rfl⟩ := List.mem_map.1 hq
      exact h.sent _ hentry

theorem Connection.lifecycle_react (c : Connection ρ) (poll : Poll) :
    (c.react poll).1.lifecycle = c.lifecycle := by
  cases poll with
  | incoming packet => cases packet <;> rfl
  | outgoing packet => cases packet <;> rfl
  | failed f =>
    simp only [react]
    split
    · rfl
    · split <;> rfl

namespace Connection.Confined

variable {P : ρ → Prop} {c : Connection ρ}

theorem deliver (h : c.Confined P) {slot : Option ρ} {signal : Signal}
    (hslot : ∀ x ∈ slot.toList, x ∈ c.lifecycle.receivers) :
    ∀ d ∈ Mqtt.deliver slot signal, P d.receiver :=
  fun _ hd => h.lifecycle _ (hslot _ (receiver_of_deliver hd))

/-- Whoever is told of a request that an event ended was waiting for it. -/
theorem ended? (h : c.Confined P) (op : Tracker.Op (Completion × ρ))
    {o : Option (Outcome (Completion × ρ))} (ho : (c.tracker.apply op).2 = o.toList) :
    ∀ d ∈ (o.map Outcome.delivery).toList, P d.receiver := by
  have hended := h.tracker.ended op
  rw [ho] at hended
  cases o with
  | none => exact List.forall_mem_nil _
  | some o => exact hended

theorem incoming (h : c.Confined P) (packet : Packet) :
    ∀ d ∈ (c.incoming packet).2, P d.receiver := by
  cases packet with
  | connAck code sessionPresent =>
    simp only [Connection.incoming, accepted]
    split <;> exact h.deliver (by simp +contextual [Lifecycle.receivers])
  | publish m =>
    intro d hd
    obtain ⟨r, hr, rfl⟩ := List.mem_map.1 hd
    obtain ⟨e, he, rfl⟩ := List.mem_map.1 hr
    exact h.routes e (List.mem_of_mem_filter he)
  | subAck pkid codes => exact h.ended? (.acknowledge .subscribe pkid (granted codes)) rfl
  | unsubAck pkid => exact h.ended? (.acknowledge .unsubscribe pkid .atMostOnce) rfl
  | pubAck pkid => exact h.ended? (.acknowledge .publish pkid .atLeastOnce) rfl
  | pubComp pkid => exact h.ended? (.acknowledge .publish pkid .exactlyOnce) rfl
  | pubRec | pubRel | pingReq | pingResp | disconnect => exact List.forall_mem_nil _

theorem outgoing (h : c.Confined P) (packet : Outgoing) :
    ∀ d ∈ (c.outgoing packet).2, P d.receiver := by
  cases packet with
  | publish pkid => exact h.ended? (.outgoing .publish pkid) rfl
  | subscribe pkid => exact h.ended? (.outgoing .subscribe pkid) rfl
  | unsubscribe pkid => exact h.ended? (.outgoing .unsubscribe pkid) rfl
  | pubAck | pubRec | pubRel | pubComp | pingReq | pingResp | disconnect | awaitAck =>
    exact List.forall_mem_nil _

theorem interrupted (h : c.Confined P) (code : ErrorCode) :
    ∀ d ∈ (c.interrupted code).2, P d.receiver := by
  simp only [Connection.interrupted]
  split
  · exact h.deliver (by simp +contextual [Lifecycle.receivers])
  · exact List.forall_mem_nil _

theorem closed (h : c.Confined P) : ∀ d ∈ c.closed.2, P d.receiver := by
  intro d hd
  obtain hd | hd := List.mem_append.1 hd
  · exact h.tracker.ended (.abandon .connectionShutdown) d hd
  · exact h.deliver (by simp +contextual [Lifecycle.receivers]) d hd

theorem connectFailed (h : c.Confined P) (f : Failure) :
    ∀ d ∈ (c.connectFailed f).2, P d.receiver := by
  intro d hd
  obtain hd | hd := List.mem_append.1 hd
  · exact h.tracker.ended (.abandon f.code) d hd
  · exact h.deliver (by simp +contextual [Lifecycle.receivers]) d hd

/-- The event loop tells nobody else than those the link may call. -/
theorem signals (h : c.Confined P) (poll : Poll) : ∀ d ∈ (c.react poll).2, P d.receiver := by
  have hfail (e : ErrorCode) : (c.fail e).Confined P := ⟨h.lifecycle, h.routes, h.tracker⟩
  cases poll with
  | incoming packet => exact h.incoming packet
  | outgoing packet =>
    cases packet with
    | disconnect => exact h.closed
    | _ => exact h.outgoing _
  | failed f =>
    simp only [Connection.react]
    split
    · exact h.closed
    · split
      · exact (hfail f.code).interrupted f.code
      · exact (hfail f.code).connectFailed f

theorem react [Inhabited ρ] (h : c.Confined P) (poll : Poll) : (c.react poll).1.Confined P := by
  obtain ⟨ended, hmoved, -⟩ := c.react_moved poll
  refine ⟨?_, ?_, hmoved.all h.tracker nofun⟩
  · rw [lifecycle_react]
    exact h.lifecycle
  · rw [c.routes_react]
    exact h.routes

/-- An operation adds its callbacks to those a link may call, if it is accepted. -/
theorem perform (h : c.Confined P) {op : Operation ρ}
    (hop : (c.perform op).2.isSome = true → ∀ x ∈ op.callbacks, P x) :
    (c.perform op).1.Confined P := by
  cases hreason : c.reason? op with
  | some e =>
    obtain ⟨n, hperform⟩ := c.perform_refused op hreason
    rw [hperform]
    exact ⟨h.lifecycle, h.routes, h.tracker.queued, h.tracker.sent⟩
  | none =>
    have hperform := c.perform_by_reason op
    rw [hreason] at hperform
    rw [hperform] at hop ⊢
    refine ⟨h.lifecycle, fun e he => ?_, fun x hx => ?_, h.tracker.sent⟩
    · obtain he | he := Routes.mem_changeAll he
      · exact h.routes e he
      · exact hop rfl _ (Operation.callbacks_of_changes he)
    · obtain hx | hx := List.mem_append.1 hx
      · exact h.tracker.queued x hx
      · rw [List.mem_singleton.1 hx]
        exact hop rfl _ op.onAck_mem_callbacks

end Connection.Confined

/-! ## From the first call on -/

/-- What may happen to a link, a change of its handlers included. -/
inductive Occurrence (ρ : Type)
  | act (a : Act ρ)
  | setHandlers (lifecycle : Lifecycle ρ)

/-- The callbacks that are passed to a link. -/
def Occurrence.callbacks : Occurrence ρ → List ρ
  | act (.perform op) => op.callbacks
  | act (.poll _) | act (.connect _) | act .disconnect | act (.loop _) => []
  | setHandlers lifecycle => lifecycle.receivers

namespace Trail

/-- The trail after one more occurrence. -/
def occur (t : Trail ρ) : Occurrence ρ → Trail ρ
  | .act a => t.act a
  | .setHandlers lifecycle => { t with link := t.link.setHandlers lifecycle }

/-- The trail after some occurrences. -/
def through (t : Trail ρ) (os : List (Occurrence ρ)) : Trail ρ := os.foldl occur t

/-- Whoever the link may call, and whoever it has called, has a property. -/
structure Confined (P : ρ → Prop) (t : Trail ρ) : Prop where
  link : t.link.Confined P
  told : ∀ d ∈ t.told, P d.receiver

namespace Confined

variable {P : ρ → Prop} {t : Trail ρ}

theorem perform (h : t.Confined P) {op : Operation ρ}
    (hop : (t.link.perform op).2.isSome = true → ∀ x ∈ op.callbacks, P x) :
    (t.act (.perform op)).Confined P :=
  ⟨h.link.perform hop, h.told⟩

variable [Inhabited ρ]

theorem act (h : t.Confined P) {a : Act ρ} (ha : ∀ x ∈ Occurrence.callbacks (.act a), P x) :
    (t.act a).Confined P := by
  obtain ⟨hlink, htold⟩ := h
  cases a with
  | perform op => exact perform ⟨hlink, htold⟩ fun _ => ha
  | poll result =>
    by_cases hloop : t.link.loop.isSome = true
    · rw [act_poll hloop]
      refine ⟨hlink.react result, fun d hd => ?_⟩
      exact (List.mem_append.1 hd).elim (htold d) (hlink.signals result d)
    · rw [show t.act (.poll result) = t from if_neg hloop]
      exact ⟨hlink, htold⟩
  | connect options =>
    refine ⟨?_, htold⟩
    obtain ⟨-, -, hconnect⟩ | ⟨-, e, hconnect⟩ := t.link.connect_cases options
    all_goals
      show (t.link.connect options).1.Confined P
      rw [hconnect]
      exact ⟨hlink.lifecycle, hlink.routes, hlink.tracker⟩
  | disconnect =>
    refine ⟨?_, htold⟩
    obtain ⟨-, -, -, hdisconnect⟩ | ⟨-, hdisconnect⟩ := t.link.disconnect_cases
    all_goals
      show t.link.disconnect.1.Confined P
      rw [hdisconnect]
      exact ⟨hlink.lifecycle, hlink.routes, hlink.tracker⟩
  | loop state => exact ⟨⟨hlink.lifecycle, hlink.routes, hlink.tracker⟩, htold⟩

theorem occur (h : t.Confined P) {o : Occurrence ρ} (ho : ∀ x ∈ o.callbacks, P x) :
    (t.occur o).Confined P := by
  cases o with
  | act a => exact h.act ho
  | setHandlers lifecycle => exact ⟨⟨ho, h.link.routes, h.link.tracker⟩, h.told⟩

theorem through (h : t.Confined P) {os : List (Occurrence ρ)}
    (hos : ∀ o ∈ os, ∀ x ∈ o.callbacks, P x) : (t.through os).Confined P := by
  induction os generalizing t with
  | nil => exact h
  | cons o os ih =>
    exact ih (h.occur (hos o (.head _))) fun o' ho' => hos o' (.tail _ ho')

end Confined

theorem confined_start {P : ρ → Prop} (config : Config) {lifecycle : Lifecycle ρ}
    (h : ∀ x ∈ lifecycle.receivers, P x) : Confined P { link := { config, lifecycle } } :=
  ⟨⟨h, nofun, nofun, nofun⟩, nofun⟩

end Trail

/-- Whatever has happened to a link, an operation is refused just if it fails a check. It then
leaves the code of the first check it fails and may use up an id; everything else is as it was,
since a request that was queued is taken back again. None of the callbacks passed to it, unless
they are passed elsewhere too, is ever invoked. An operation that is accepted leaves the last error
alone and adds one request to the end of the queue of its kind. -/
theorem refused_for_first_reason (config : Config) (lifecycle : Lifecycle ρ)
    (before : List (Occurrence ρ)) (op : Operation ρ) :
    let t : Trail ρ := Trail.through { link := { config, lifecycle } } before
    let c := t.link
    let c' := (c.perform op).1
    ((c.perform op).2 = none →
      ∃ e n, c.reason? op = some e ∧
        c' = { c with tracker := { c.tracker with lastId := n }, lastError := e.code } ∧
        (e = .queueFull → c'.tracker =
          (c.tracker.enqueue op.kind op.qos (op.completion, op.onAck)).withdraw op.kind) ∧
        ∀ after, ∀ x ∈ op.callbacks, x ∉ lifecycle.receivers →
          (∀ o ∈ before ++ after, x ∉ o.callbacks) →
          ∀ d ∈ ((t.act (.perform op)).through after).told, d.receiver ≠ x) ∧
    ∀ id, (c.perform op).2 = some id →
      0 < id ∧ c.reason? op = none ∧ c'.lastError = c.lastError ∧
        c'.tracker.sent = c.tracker.sent ∧
        ∀ kind, c'.tracker.waiting kind =
          c.tracker.waiting kind ++ if op.kind = kind then [op.request id] else [] := by
  intro t c c'
  have : Inhabited ρ := ⟨op.onAck⟩
  have hperform : c.perform op = _ := c.perform_by_reason op
  cases hreason : c.reason? op with
  | some e =>
    obtain ⟨n, hrefused⟩ := c.perform_refused op hreason
    rw [hreason] at hperform
    refine ⟨fun hnone => ⟨e, n, rfl, congrArg Prod.fst hrefused, fun hfull => ?_, ?_⟩, ?_⟩
    · show (c.perform op).1.tracker = _
      rw [hperform]
      exact if_pos hfull
    · intro after x hx hlifecycle hfresh
      -- Only the refused operation brings `x`, so no step lets the link call it.
      have hstart : Trail.Confined (· ≠ x) { link := { config, lifecycle } } :=
        Trail.confined_start config fun y hy heq => hlifecycle (heq ▸ hy)
      have hcallbacks (o : Occurrence ρ) (ho : o ∈ before ++ after) (y : ρ)
          (hy : y ∈ o.callbacks) : y ≠ x := fun heq => hfresh o ho (heq ▸ hy)
      have hbefore : t.Confined (· ≠ x) :=
        hstart.through fun o ho => hcallbacks o (List.mem_append_left _ ho)
      have hop : (t.act (.perform op)).Confined (· ≠ x) :=
        hbefore.perform fun hsome => by rw [hnone] at hsome; cases hsome
      exact (hop.through fun o ho => hcallbacks o (List.mem_append_right _ ho)).told
    · intro id hsome
      rw [hrefused] at hsome
      cases hsome
  | none =>
    rw [hreason] at hperform
    refine ⟨fun hnone => ?_, fun id hsome => ?_⟩
    · rw [hperform] at hnone
      cases hnone
    · rw [hperform] at hsome
      obtain rfl := Option.some.inj hsome
      have hlink : c' = _ := congrArg Prod.fst hperform
      rw [hlink]
      exact ⟨Nat.succ_pos _, rfl, rfl, rfl, fun kind => c.tracker.waiting_append op.kind kind _ _⟩

/-- A publish to a filter is refused behind one that waits, which stays where it is. -/
theorem refused_for_first_reason_publish :
    let start : Trail ℕ :=
      { link :=
          { config := ⟨"broker", none, .password "user" "word", none, false⟩
            lifecycle := .all 0 } }
    let connect : Occurrence ℕ := .act (.connect ⟨"sensor", true, 30, 3000⟩)
    let first : Operation ℕ := .publish "t" .atLeastOnce false [] 1
    let second : Operation ℕ := .publish "#" .atLeastOnce false [] 2
    let after : List (Occurrence ℕ) :=
      [.setHandlers (.all 3), .act (.poll (.outgoing (.publish 7))),
        .act (.poll (.incoming (.pubAck 7)))]
    let t := start.through [connect]
    let t' := start.through [connect, .act (.perform first)]
    (t.link.perform first).2 = some 1 ∧
      t'.link.tracker.waiting .publish = [first.request 1] ∧
      (t'.link.perform second).2 = none ∧ t'.link.reason? second = some .queueFull ∧
      (t'.link.perform second).1.lastError = 5139 ∧
      (t'.link.perform second).1.tracker.waiting .publish = [first.request 1] ∧
      ((t'.act (.perform second)).through after).told = [⟨1, .published 1 0⟩] ∧
      ∀ d ∈ ((t'.act (.perform second)).through after).told, d.receiver ≠ 2 := by
  intro start connect first second after t t'
  have haccepted : (t.link.perform first).2 = some 1 := by decide +kernel
  have hrefused : (t'.link.perform second).2 = none := by decide +kernel
  obtain ⟨-, -, -, -, hwaiting⟩ :=
    (refused_for_first_reason _ (.all 0) [connect] first).2 1 haccepted
  have hwaiting' : t'.link.tracker.waiting .publish = [first.request 1] := hwaiting .publish
  obtain ⟨e, n, hreason, hlink, -, hsilent⟩ :=
    (refused_for_first_reason _ (.all 0) [connect, .act (.perform first)] second).1 hrefused
  have hfull : t'.link.reason? second = some .queueFull := by decide +kernel
  refine ⟨haccepted, hwaiting', hrefused, hfull, by decide +kernel, ?_, by decide +kernel, ?_⟩
  · rw [hlink]
    exact hwaiting'
  · exact hsilent after 2 (by decide) (by decide) (by simp [connect, first, after,
      Occurrence.callbacks, Operation.callbacks, Lifecycle.receivers, Lifecycle.all])

end Link

end DeviceLink
