import DeviceLink.Link.Connection
import DeviceLink.Proofs.Link.Tracker
import Mathlib.Data.List.Induction
/-!
# Runs of a link

A run is any list of steps on a link: requests, what its event loop tells, failures of the
network, and the ends of the connection. The callback of a request is known by the number of
its step, so that no two are the same. A step performs at most one operation on the tracker,
and the requests that ends are the ones whose callbacks it invokes.
-/

namespace DeviceLink

open Mqtt

/-- The error code of a signal that ends a request. -/
def Mqtt.Signal.endCode? : Signal → Option Int
  | .subscribed _ _ _ code | .subscribedMany _ _ _ code | .unsubscribed _ code
  | .published _ code => some code
  | .completed .. | .closed | .interrupted _ | .resumed .. | .message _ => none

/-- What the user of a request is told at its end: its id and a code, and of a subscription also
the topics and the quality that was granted. -/
inductive Mqtt.Completion.Tells (id : ℕ) (granted : Qos) (code : Int) : Completion → Signal → Prop
  | subscribe (topic : String) :
    Tells id granted code (.subscribe topic) (.subscribed id topic granted code)
  | subscribeMany (topics : List String) :
    Tells id granted code (.subscribeMany topics) (.subscribedMany id topics granted code)
  | unsubscribe : Tells id granted code .unsubscribe (.unsubscribed id code)
  | publish : Tells id granted code .publish (.published id code)

theorem Mqtt.Completion.tells_signal (c : Completion) (id : ℕ) (granted : Qos) (code : Int) :
    c.Tells id granted code (c.signal id granted code) := by
  cases c <;> constructor

/-- Every request ends with a signal that carries its code. -/
theorem Mqtt.Completion.endCode?_signal (c : Completion) (id : ℕ) (granted : Qos) (code : Int) :
    (c.signal id granted code).endCode? = some code := by
  cases c <;> rfl

namespace Link

/-- The kind and packet id of an acknowledgement, and the quality it grants. -/
def Packet.acknowledged? : Packet → Option (Kind × ℕ × Qos)
  | .subAck pkid codes => some (.subscribe, pkid, granted codes)
  | .unsubAck pkid => some (.unsubscribe, pkid, .atMostOnce)
  | .pubAck pkid => some (.publish, pkid, .atLeastOnce)
  | .pubComp pkid => some (.publish, pkid, .exactlyOnce)
  | .connAck .. | .publish _ | .pubRec _ | .pubRel _ | .pingReq | .pingResp | .disconnect => none

/-- The kind and packet id of a request that was sent. -/
def Outgoing.request? : Outgoing → Option (Kind × ℕ)
  | .publish pkid => some (.publish, pkid)
  | .subscribe pkid => some (.subscribe, pkid)
  | .unsubscribe pkid => some (.unsubscribe, pkid)
  | .pubAck _ | .pubRec _ | .pubRel _ | .pubComp _ | .pingReq | .pingResp | .disconnect
  | .awaitAck _ => none

/-- A step of a link. The state of the event loop, which decides whether a command is taken,
may change at any time. -/
inductive Step
  | submit (kind : Kind) (qos : Qos) (completion : Completion) (command : Command)
  | outgoing (packet : Outgoing)
  | incoming (packet : Packet)
  | interrupted (code : ErrorCode)
  | abandon (code : ErrorCode)
  | closed
  | connectFailed (failure : Failure)
  | connect (options : ConnectOptions)
  | disconnect
  | loop (state : Option Loop)

/-- The code that every outstanding request fails with, if a step fails them. -/
def Step.abandons? : Step → Option ErrorCode
  | .abandon code => some code
  | .closed => some .connectionShutdown
  | .connectFailed failure => some failure.code
  | .submit .. | .outgoing _ | .incoming _ | .interrupted _ | .connect _ | .disconnect
  | .loop _ => none

/-- A link after a step, the id that was answered, and the signals. -/
structure Turn (ρ : Type) where
  link : Connection ρ
  answer : Option ℕ := none
  signals : List (Delivery ρ) := []

variable {ρ : Type}

/-- The signals that end requests. -/
def endings (signals : List (Delivery ρ)) : List (Delivery ρ) :=
  signals.filter fun d => d.signal.endCode?.isSome

namespace Connection

/-- The link after a step. The callback is that of a request. -/
def step (c : Connection ρ) (callback : ρ) : Step → Turn ρ
  | .submit kind qos completion command =>
    let (link, answer) := c.submit kind qos completion callback command
    { link, answer }
  | .outgoing packet =>
    let (link, signals) := c.outgoing packet
    { link, signals }
  | .incoming packet =>
    let (link, signals) := c.incoming packet
    { link, signals }
  | .interrupted code =>
    let (link, signals) := c.interrupted code
    { link, signals }
  | .abandon code =>
    let (link, signals) := c.abandon code
    { link, signals }
  | .closed =>
    let (link, signals) := c.closed
    { link, signals }
  | .connectFailed failure =>
    let (link, signals) := c.connectFailed failure
    { link, signals }
  | .connect options => { link := (c.connect options).1 }
  | .disconnect => { link := c.disconnect.1 }
  | .loop state => { link := { c with loop := state } }

/-- The operation that a step performs on the tracker. -/
def op? (c : Connection ρ) (callback : ρ) : Step → Option (Tracker.Op (Completion × ρ))
  | .submit kind qos completion command =>
    if c.client ∧ ¬c.closing then
      some (.submit kind qos (completion, callback) (c.takes command))
    else none
  | .outgoing packet => packet.request?.map fun (kind, pkid) => .outgoing kind pkid
  | .incoming packet =>
    packet.acknowledged?.map fun (kind, pkid, granted) => .acknowledge kind pkid granted
  | .abandon code => some (.abandon code)
  | .closed => some (.abandon .connectionShutdown)
  | .connectFailed failure => some (.abandon failure.code)
  | .interrupted _ | .connect _ | .disconnect | .loop _ => none

/-- The requests that a step ends. -/
def outcomes (c : Connection ρ) (callback : ρ) (st : Step) : List (Outcome (Completion × ρ)) :=
  (c.op? callback st).elim [] fun op => (c.tracker.apply op).2

theorem endings_deliver (slot : Option ρ) {s : Signal} (h : s.endCode? = none) :
    endings (deliver slot s) = [] := by
  cases slot <;> simp [endings, deliver, h]

theorem endings_route (c : Connection ρ) (m : Message) : endings (c.route m) = [] := by
  simp only [endings, route, List.filter_eq_nil_iff, List.mem_map]
  rintro d ⟨x, -, rfl⟩
  simp [Signal.endCode?]

theorem endings_delivery (os : List (Outcome (Completion × ρ))) :
    endings (os.map Outcome.delivery) = os.map Outcome.delivery := by
  simp only [endings, List.filter_eq_self, List.mem_map]
  rintro d ⟨o, -, rfl⟩
  simp [Outcome.delivery, Completion.endCode?_signal]

theorem endings_delivery? (o : Option (Outcome (Completion × ρ))) :
    endings (o.map Outcome.delivery).toList = o.toList.map Outcome.delivery := by
  cases o with
  | none => rfl
  | some o => exact endings_delivery [o]

theorem endings_append (a b : List (Delivery ρ)) : endings (a ++ b) = endings a ++ endings b :=
  List.filter_append ..

/-- A step changes the tracker by its operation only. -/
theorem tracker_step (c : Connection ρ) (callback : ρ) (st : Step) :
    (c.step callback st).link.tracker =
      (c.op? callback st).elim c.tracker fun op => (c.tracker.apply op).1 := by
  cases st with
  | submit kind qos completion command =>
    by_cases hc : c.client = true <;> by_cases hg : c.closing = true <;>
      by_cases ht : c.takes command = true <;>
      simp [step, submit, op?, Tracker.apply, Tracker.submit, fail, hand, hc, hg, ht]
  | outgoing packet => cases packet <;> rfl
  | incoming packet => cases packet <;> rfl
  | interrupted code => rfl
  | abandon code => rfl
  | closed => rfl
  | connectFailed failure => rfl
  | connect options =>
    simp only [step, connect, op?]
    split
    · rfl
    · split <;> rfl
  | disconnect =>
    simp only [step, disconnect, op?]
    split
    · rfl
    · split <;> rfl
  | loop state => rfl

/-- The callbacks that a step invokes are those of the requests it ends. -/
theorem endings_step (c : Connection ρ) (callback : ρ) (st : Step) :
    endings (c.step callback st).signals = (c.outcomes callback st).map Outcome.delivery := by
  cases st with
  | submit kind qos completion command =>
    by_cases hc : c.client = true <;> by_cases hg : c.closing = true <;>
      simp [step, outcomes, op?, Tracker.apply, endings, hc, hg]
  | outgoing packet =>
    cases packet with
    | publish pkid | subscribe pkid | unsubscribe pkid =>
      exact endings_delivery? _
    | _ => rfl
  | incoming packet =>
    cases packet with
    | connAck code sessionPresent =>
      simp only [step, incoming, accepted]
      split <;> exact endings_deliver _ rfl
    | publish m => exact endings_route c m
    | subAck pkid _ | unsubAck pkid | pubAck pkid | pubComp pkid =>
      exact endings_delivery? _
    | _ => rfl
  | interrupted code =>
    simp only [step, interrupted]
    split
    · exact endings_deliver _ rfl
    · rfl
  | abandon code => exact endings_delivery _
  | closed =>
    simp only [step, closed, endings_append, endings_deliver _ (s := .closed) rfl,
      List.append_nil]
    exact endings_delivery _
  | connectFailed failure =>
    simp only [step, connectFailed, endings_append, endings_deliver _
      (s := .completed failure.code.code failure.returnCode false) rfl, List.append_nil]
    exact endings_delivery _
  | connect options => rfl
  | disconnect => rfl
  | loop state => rfl

/-- A request is submitted with the callback of its step. -/
theorem callback_of_submit (c : Connection ρ) {callback : ρ} {st : Step} {kind : Kind} {qos : Qos}
    {completion : Completion × ρ} {accepted : Bool}
    (h : c.op? callback st = some (.submit kind qos completion accepted)) :
    completion.2 = callback := by
  cases st with
  | submit k q completion' command =>
    simp only [op?] at h
    split at h
    · cases h
      rfl
    · cases h
  | outgoing packet => cases packet <;> cases h
  | incoming packet => cases packet <;> cases h
  | interrupted code | abandon code | closed | connectFailed failure | connect options | disconnect
  | loop state => cases h

theorem op?_ne_abandon (c : Connection ρ) {callback : ρ} {st : Step} (h : st.abandons? = none)
    {code : ErrorCode} : c.op? callback st ≠ some (.abandon code) := by
  intro hop
  cases st with
  | submit kind qos completion command =>
    simp only [op?] at hop
    split at hop <;> cases hop
  | outgoing packet => cases packet <;> cases hop
  | incoming packet => cases packet <;> cases hop
  | abandon code' | closed | connectFailed failure => cases h
  | interrupted code' | connect options | disconnect | loop state => cases hop

/-- Only a request that is accepted is answered by an id, the next one. -/
theorem answer_step (c : Connection ρ) (callback : ρ) (st : Step) :
    (c.step callback st).answer =
      match c.op? callback st with
      | some (.submit _ _ _ true) => some (nextId c.tracker.lastId)
      | _ => none := by
  cases st with
  | submit kind qos completion command =>
    by_cases hc : c.client = true <;> by_cases hg : c.closing = true <;>
      by_cases ht : c.takes command = true <;>
      simp [step, submit, op?, Tracker.submit, hc, hg, ht]
  | outgoing packet => cases packet <;> rfl
  | incoming packet => cases packet <;> rfl
  | interrupted code | abandon code | closed | connectFailed failure | connect options | disconnect
  | loop state => rfl

end Connection

/-! ## Runs -/

/-- A link with a client on which nothing has happened. -/
def Connection.fresh (config : Config) : Connection ρ := { config, client := true }

/-- A step that was taken, on what link, and what came of it. -/
structure Entry where
  number : ℕ
  step : Step
  before : Connection ℕ
  answer : Option ℕ
  signals : List (Delivery ℕ)

/-- A request whose callback has a number. -/
abbrev Call := Request (Completion × ℕ)

/-- The number of a request's callback. -/
def Request.number (q : Call) : ℕ := q.completion.2

/-- A link and the steps that brought it there. -/
structure Run where
  link : Connection ℕ
  entries : List Entry := []

namespace Run

/-- The next step as an entry; its number is its place in the run. -/
def entry (r : Run) (st : Step) : Entry :=
  let turn := r.link.step r.entries.length st
  { number := r.entries.length
    step := st
    before := r.link
    answer := turn.answer
    signals := turn.signals }

/-- The run with one step more. -/
def next (r : Run) (st : Step) : Run :=
  { link := (r.link.step r.entries.length st).link
    entries := r.entries ++ [r.entry st] }

end Run

/-- The run of some steps on a link. -/
def Connection.run (c : Connection ℕ) (steps : List Step) : Run :=
  steps.foldl Run.next { link := c }

theorem run_snoc (c : Connection ℕ) (steps : List Step) (st : Step) :
    c.run (steps ++ [st]) = (c.run steps).next st := by
  simp only [Connection.run, List.foldl_append, List.foldl_cons, List.foldl_nil]

namespace Entry

/-- The operation of a step on the tracker. -/
def op? (e : Entry) : Option (Tracker.Op (Completion × ℕ)) := e.before.op? e.number e.step

/-- The request that a step submitted, if it was accepted, and its kind. -/
def accepted? (e : Entry) : Option (Kind × Call) :=
  match e.op?, e.answer with
  | some (.submit kind qos completion _), some id => some (kind, ⟨id, qos, completion⟩)
  | _, _ => none

/-- The requests that a step ended. -/
def outcomes (e : Entry) : List (Outcome (Completion × ℕ)) := e.before.outcomes e.number e.step

/-- What the callback with a number was told. -/
def told (e : Entry) (n : ℕ) : List Signal :=
  ((endings e.signals).filter fun d => d.receiver = n).map (·.signal)

end Entry

namespace Run

/-- The accepted requests with their kinds, in the order of acceptance. -/
def accepted (r : Run) : List (Kind × Call) := r.entries.filterMap Entry.accepted?

/-- What the callback with a number was told, and in which steps. -/
def told (r : Run) (n : ℕ) : List (ℕ × Signal) :=
  r.entries.flatMap fun e => (e.told n).map (e.number, ·)

variable (r : Run) (st : Step)

theorem endings_entry :
    endings (r.entry st).signals = (r.entry st).outcomes.map Outcome.delivery :=
  r.link.endings_step r.entries.length st

theorem told_entry (n : ℕ) :
    (r.entry st).told n = (((r.entry st).outcomes.filter fun o => o.request.number = n).map
      fun o => o.request.completion.1.signal o.request.id o.granted o.code) := by
  rw [Entry.told, endings_entry, List.filter_map, List.map_map]
  rfl

theorem next_entries : (r.next st).entries = r.entries ++ [r.entry st] := rfl

theorem next_accepted : (r.next st).accepted = r.accepted ++ (r.entry st).accepted?.toList := by
  simp only [accepted, next_entries, List.filterMap_append, List.filterMap_cons,
    List.filterMap_nil]
  cases (r.entry st).accepted? <;> rfl

theorem next_told (n : ℕ) : (r.next st).told n =
    r.told n ++ ((r.entry st).told n).map (r.entries.length, ·) := by
  simp [told, next_entries, entry]

/-- What a step does to a run: nothing that concerns requests, or an operation on the tracker,
with what is accepted and ended. -/
theorem next_cases :
    ((r.entry st).op? = none ∧ (r.entry st).accepted? = none ∧ (r.entry st).outcomes = [] ∧
      (r.next st).link.tracker = r.link.tracker) ∨
    ∃ op, (r.entry st).op? = some op ∧
      Tracker.Effect r.link.tracker op (r.next st).link.tracker (r.entry st).outcomes := by
  have htracker := r.link.tracker_step r.entries.length st
  cases hop : r.link.op? r.entries.length st with
  | none =>
    have hop' : (r.entry st).op? = none := hop
    refine .inl ⟨hop', by simp [Entry.accepted?, hop'], ?_, ?_⟩
    · simp [Entry.outcomes, Connection.outcomes, entry, hop]
    · rw [hop] at htracker
      exact htracker
  | some op =>
    refine .inr ⟨op, hop, ?_⟩
    have hout : (r.entry st).outcomes = (r.link.tracker.apply op).2 := by
      simp [Entry.outcomes, Connection.outcomes, entry, hop]
    have hlink : (r.next st).link.tracker = (r.link.tracker.apply op).1 := by
      rw [hop] at htracker
      exact htracker
    rw [hout, hlink]
    exact r.link.tracker.effect_of op

/-- A step accepts the request that joins the queue. -/
theorem accepted?_entry {op : Tracker.Op (Completion × ℕ)} (h : (r.entry st).op? = some op) :
    (r.entry st).accepted?.toList = r.link.tracker.joins op := by
  have hanswer := r.link.answer_step r.entries.length st
  rw [show r.link.op? r.entries.length st = some op from h] at hanswer
  simp only [Entry.accepted?, h, show (r.entry st).answer = _ from hanswer]
  cases op with
  | submit kind qos completion accepted => cases accepted <;> rfl
  | _ => rfl

/-- Whether a submitted request was accepted shows in the answer. -/
theorem accepted?_of_submit {kind : Kind} {qos : Qos} {completion : Completion} {command : Command}
    (h : st = .submit kind qos completion command) :
    (r.entry st).accepted? =
      (r.entry st).answer.map fun id => (kind, ⟨id, qos, (completion, r.entries.length)⟩) := by
  subst h
  have hanswer := r.link.answer_step r.entries.length (.submit kind qos completion command)
  have hop : (r.entry (.submit kind qos completion command)).op? =
      r.link.op? r.entries.length (.submit kind qos completion command) := rfl
  rw [← hop] at hanswer
  simp only [Entry.accepted?, show (r.entry (.submit kind qos completion command)).answer = _
    from hanswer]
  by_cases hopen : r.link.client ∧ ¬r.link.closing
  · have hsome : (r.entry (.submit kind qos completion command)).op? =
        some (.submit kind qos (completion, r.entries.length) (r.link.takes command)) := by
      rw [hop, Connection.op?, if_pos hopen]
    rw [hsome]
    cases r.link.takes command <;> rfl
  · have hnone : (r.entry (.submit kind qos completion command)).op? = none := by
      rw [hop, Connection.op?, if_neg hopen]
    rw [hnone]
    rfl

/-- The callback of a request that a step accepts has the number of the step. -/
theorem number_of_accepted {e : Entry} {kind : Kind} {q : Call}
    (h : e.accepted? = some (kind, q)) : q.number = e.number := by
  unfold Entry.accepted? at h
  split at h
  · rename_i k qos completion _ id hop _
    obtain ⟨rfl, rfl⟩ : k = kind ∧ ⟨id, qos, completion⟩ = q := by simpa using h
    exact e.before.callback_of_submit hop
  · cases h

end Run

/-- Every entry of a run is the next step of a shorter run. -/
theorem mem_entries_run {c : Connection ℕ} {steps : List Step} {e : Entry}
    (h : e ∈ (c.run steps).entries) : ∃ before st, e = (c.run before).entry st := by
  induction steps using List.reverseRecOn with
  | nil => cases h
  | append_singleton steps st ih =>
    rw [run_snoc, Run.next_entries, List.mem_append, List.mem_singleton] at h
    rcases h with h | rfl
    · exact ih h
    · exact ⟨steps, st, rfl⟩

/-- The steps of a run are numbered from zero. -/
theorem numbers_run (c : Connection ℕ) (steps : List Step) :
    (c.run steps).entries.map (·.number) = List.range (c.run steps).entries.length := by
  induction steps using List.reverseRecOn with
  | nil => rfl
  | append_singleton steps st ih =>
    rw [run_snoc, Run.next_entries, List.map_append, ih, List.length_append, List.length_singleton,
      List.range_succ]
    rfl

end Link

end DeviceLink
