import DeviceLink.Proofs.Agent.Lifecycle
import DeviceLink.Proofs.Link.Grants
/-!
# Refused subscriptions

What the agent notes of a subscription that the broker refused. The link grants it the quality
`failure` and completes it without an error; the agent looks at the error alone. So it notes every
acknowledged subscription as made, with the quality it was granted, and notes one as failed only
when the event loop stops with the request outstanding.
-/

namespace DeviceLink.Agent

open Mqtt Link

/-! ## Acknowledgements -/

/-- The topics that a completion tells of. -/
def topics? : Completion → Option (List String)
  | .subscribe topic => some [topic]
  | .subscribeMany topics => some topics
  | .unsubscribe | .publish => none

/-- A request to subscribe tells of the topics it asks for, of which there is at least one. -/
theorem topics?_of_makes {q : Request (Completion × Unit)} (h : Operation.Makes .subscribe q) :
    ∃ topics, topics? q.completion.1 = some topics ∧ topics ≠ [] := by
  obtain ⟨op, id, hfault, hkind, rfl⟩ := h
  cases op with
  | subscribe topic qos onMessage onAck => exact ⟨[topic], rfl, List.cons_ne_nil _ _⟩
  | subscribeMany topics qos onAck =>
    exact ⟨topics.map (·.1), rfl, List.map_eq_nil_iff.not.2 (Operation.topics_ne_nil hfault)⟩
  | unsubscribe topic onAck | publish topic qos retain payload onAck => cases hkind

/-- The end of a subscription is told for each of its topics. -/
theorem completions_of_topics {o : Outcome (Completion × Unit)} {topics : List String}
    (h : topics? o.request.completion.1 = some topics) :
    completions o = topics.map fun t => .subAck o.request.id t o.granted o.code := by
  unfold completions
  cases hcompletion : o.request.completion.1 with
  | subscribe topic | subscribeMany topics =>
    rw [hcompletion] at h
    cases h
    rfl
  | unsubscribe | publish =>
    rw [hcompletion] at h
    cases h

/-- A request that is acknowledged is told so with the granted quality and without an error. -/
theorem heard_subAck {c : Connection Unit} {pkid : ℕ} {q : Request (Completion × Unit)}
    (h : c.tracker.sent.lookup (.subscribe, pkid) = some q) (codes : List Qos) :
    heard (c.react (.incoming (.subAck pkid codes))).2 =
      completions ⟨q, granted codes, 0⟩ := by
  rw [react_subAck h codes]
  exact (heard_delivery [⟨q, granted codes, 0⟩]).trans (List.flatMap_singleton ..)

/-! ## Notes -/

/-- The note of a subscription that was made. -/
def subscribedNote (granted : Qos) (topic : String) : Trace :=
  ⟨.info, "subscribed", [("topic", .string topic), ("qos", .string
    (match granted with
    | .atMostOnce => "AtMostOnce"
    | .atLeastOnce => "AtLeastOnce"
    | .exactlyOnce => "ExactlyOnce"
    | .failure => "Failure"))]⟩

/-- Acknowledgements without an error are noted as subscriptions that were made. -/
theorem handle_subAcks (a : State) (id : ℕ) (granted : Qos) (topics : List String) :
    (a.handleUntilEnd (topics.map fun t => .subAck id t granted 0)).1.traces =
      a.traces ++ topics.map (subscribedNote granted) := by
  induction topics generalizing a with
  | nil => exact (List.append_nil _).symm
  | cons topic topics ih =>
    show ((a.handle (.subAck id topic granted 0)).handleUntilEnd _).1.traces = _
    rw [ih, List.map_cons, List.append_cons]
    rfl

/-- Only an acknowledgement with an error is noted as a subscription that failed. -/
theorem subAck_of_failed {e : Event} (h : e.trace.message = "subscribe failed") :
    ∃ id topic granted code, e = .subAck id topic granted code ∧ code ≠ 0 := by
  cases e with
  | subAck id topic granted code =>
    refine ⟨id, topic, granted, code, rfl, fun hcode => ?_⟩
    simp [Event.trace, hcode] at h
  | _ => simp [Event.trace] at h

theorem code_of_completions {o : Outcome (Completion × Unit)} {id : ℕ} {topic : String}
    {granted : Qos} {code : Int} (h : .subAck id topic granted code ∈ completions o) :
    code = o.code := by
  unfold completions at h
  cases hcompletion : o.request.completion.1 with
  | subscribe t =>
    rw [hcompletion] at h
    cases List.mem_singleton.1 h
    rfl
  | subscribeMany topics =>
    rw [hcompletion] at h
    obtain ⟨t, -, heq⟩ := List.mem_map.1 h
    cases heq
    rfl
  | unsubscribe | publish =>
    rw [hcompletion] at h
    cases List.mem_singleton.1 h

/-- An operation that ends a request with an error leaves none outstanding. -/
theorem abandoned_of_code {κ : Type} {t t' : Tracker κ} {op : Tracker.Op κ}
    {ended : List (Outcome κ)} (h : Tracker.Effect t op t' ended) {o : Outcome κ} (ho : o ∈ ended)
    (hcode : o.code ≠ 0) : ∃ code, op = .abandon code ∧ t'.outstanding = [] := by
  cases h with
  | accepted | refused | repeated | sent | stray => cases ho
  | finished | acknowledged =>
    rw [List.mem_singleton.1 ho] at hcode
    exact absurd rfl hcode
  | abandoned code => exact ⟨code, rfl, rfl⟩

/-- A poll that abandons the requests stops the event loop. -/
theorem loop_of_abandons {c : Connection Unit} {p : Poll} (h : (c.stepOf p).abandons? ≠ none) :
    (c.react p).1.loop = none := by
  cases p with
  | incoming packet => exact absurd rfl h
  | outgoing packet =>
    cases packet with
    | disconnect => rfl
    | _ => exact absurd rfl h
  | failed f =>
    simp only [Connection.stepOf] at h
    simp only [Connection.react]
    split at h
    · rw [if_pos ‹_›]
      rfl
    · rw [if_neg ‹_›]
      split at h
      · exact absurd rfl h
      · rename_i honce
        rw [if_neg (show ¬(c.fail f.code).connectedOnce = true from honce)]
        rfl

/-- A request that is told of with an error is abandoned, and the event loop stops. -/
theorem abandoned_of_error {c : Connection Unit} {p : Poll} {id : ℕ} {topic : String}
    {granted : Qos} {code : Int} (h : .subAck id topic granted code ∈ heard (c.react p).2)
    (hcode : code ≠ 0) :
    (c.react p).1.loop = none ∧ (c.react p).1.tracker.outstanding = [] := by
  obtain ⟨hsignals, htracker⟩ := c.react_stepOf p ()
  have hcompletion : .subAck id topic granted code ∈ heard (endings (c.react p).2) := by
    rw [← completions_heard]
    exact List.mem_filter.2 ⟨h, rfl⟩
  rw [hsignals, Connection.endings_step, heard_delivery, List.mem_flatMap] at hcompletion
  obtain ⟨o, ho, hmem⟩ := hcompletion
  rw [code_of_completions hmem] at hcode
  rw [htracker, Connection.tracker_step]
  rw [Connection.outcomes] at ho
  cases hop : c.op? () (c.stepOf p) with
  | none =>
    rw [hop] at ho
    cases ho
  | some op =>
    rw [hop] at ho
    obtain ⟨code', rfl, hidle⟩ := abandoned_of_code (c.tracker.effect_of op) ho hcode
    exact ⟨loop_of_abandons fun hnone => c.op?_ne_abandon hnone hop, hidle⟩

/-! ## From the first request on -/

/-- Whatever the broker answers to an outstanding subscription, the agent notes each of its topics
as subscribed, with the quality `failure` exactly if the broker refused one of them or answered for
none; a subscription is noted as failed only when the event loop stops and abandons it. -/
theorem refusal_noted_subscribed {c : Connection Unit} (hidle : c.tracker.outstanding = [])
    (acts : List (Act Unit)) :
    let t := Trail.after { link := c } acts
    (∀ pkid q codes, t.link.tracker.sent.lookup (.subscribe, pkid) = some q →
      ∃ topics, topics? q.completion.1 = some topics ∧ topics ≠ [] ∧
        heard (t.link.react (.incoming (.subAck pkid codes))).2 =
          topics.map (fun topic => .subAck q.id topic (granted codes) 0) ∧
        (granted codes = .failure ↔ codes = [] ∨ .failure ∈ codes) ∧
        ∀ a : State,
          (a.handleUntilEnd (heard (t.link.react (.incoming (.subAck pkid codes))).2)).1.traces =
            a.traces ++ topics.map (subscribedNote (granted codes))) ∧
    ∀ p e, e ∈ heard (t.link.react p).2 → e.trace.message = "subscribe failed" →
      (t.link.react p).1.loop = none ∧ (t.link.react p).1.tracker.outstanding = [] := by
  intro t
  constructor
  · intro pkid q codes hsent
    have hmakes := (Trail.makes_of_outstanding hidle acts).sent _ (Tracker.mem_of_lookup hsent)
    obtain ⟨topics, htopics, hne⟩ := topics?_of_makes hmakes
    have hheard : heard (t.link.react (.incoming (.subAck pkid codes))).2 =
        topics.map fun topic => .subAck q.id topic (granted codes) 0 :=
      (heard_subAck hsent codes).trans (completions_of_topics htopics)
    refine ⟨topics, htopics, hne, hheard, granted_eq_failure, fun a => ?_⟩
    rw [hheard, handle_subAcks]
  · intro p e he hmessage
    obtain ⟨id, topic, granted, code, rfl, hcode⟩ := subAck_of_failed hmessage
    exact abandoned_of_error he hcode

/-- A subscription to two topics of which the broker refuses one is noted as made for both. -/
theorem refusal_noted_subscribed_two :
    let acts : List (Act Unit) :=
      [.poll (.incoming (.connAck .accepted false)),
        .perform (.subscribeMany [("t/a", ()), ("t/b", ())] .atLeastOnce ()),
        .poll (.outgoing (.subscribe 1))]
    let t := Trail.after { link := Run.sampleAgent.connection } acts
    Run.sampleAgent.connection.tracker.outstanding = [] ∧
      (t.link.tracker.sent.lookup (.subscribe, 1)).isSome = true ∧
      (Run.sampleAgent.handleUntilEnd
          (heard (t.link.react (.incoming (.subAck 1 [.atLeastOnce, .failure]))).2)).1.traces =
        [subscribedNote .failure "t/a", subscribedNote .failure "t/b"] := by
  intro acts t
  have hidle : Run.sampleAgent.connection.tracker.outstanding = [] := rfl
  have hsent : t.link.tracker.sent.lookup (.subscribe, 1) =
      some ⟨1, .atLeastOnce, (.subscribeMany ["t/a", "t/b"], ())⟩ := by
    decide +kernel
  obtain ⟨topics, htopics, -, -, -, hnotes⟩ :=
    (refusal_noted_subscribed hidle acts).1 1 _ [.atLeastOnce, .failure] hsent
  cases htopics
  exact ⟨hidle, by rw [hsent]; rfl, hnotes Run.sampleAgent⟩

/-- The agent notes a subscription that the broker refused as made. -/
theorem refused_subscription_noted :
    let moves : List Move :=
      [.poll (.incoming (.connAck .accepted false)), .take, .poll (.outgoing (.subscribe 1)),
        .poll (.incoming (.subAck 1 [.failure])), .take]
    let r := Run.after { state := Run.sampleAgent } moves
    State.start Run.sampleFiles "" ⟨0, 0⟩ = .ok Run.sampleAgent ∧
      r.handled = [.connected false, .subAck 1 "t/#" .failure 0] ∧
      r.state.traces.map (·.message) = ["connected", "subscribed"] := by
  intro moves r
  exact ⟨Run.start_sampleFiles, by decide +kernel, by decide +kernel⟩

end DeviceLink.Agent
