import DeviceLink.Proofs.Link.Run
/-!
# The outbox

What the link relies on to carry its requests: a queue that puts them on the wire, keeps what it
can when the network fails, and starts again when the broker accepts a new network. `System` is a
link with its outbox, and the record of what was on the wire and what the broker acknowledged. A
credit is a callback that is told of success; it is right if the request was on the wire and, unless
nothing acknowledges it, the broker acknowledged it.
-/

namespace DeviceLink.Link

open Mqtt

/-- A request as the outbox carries it, which is also its callback. -/
structure Parcel where
  number : ℕ
  kind : Kind
  qos : Qos
  deriving DecidableEq, Repr, Inhabited

/-- The parcel of a tracked request. -/
def Request.parcel (q : Request (Completion × Parcel)) : Parcel := q.completion.2

/-- Whether the broker acknowledges a parcel. -/
def Parcel.awaitsAck (x : Parcel) : Bool := x.kind.awaitsAck x.qos

/-- The event that tells that a request of a kind was sent. -/
def Kind.outgoing (kind : Kind) (pkid : ℕ) : Outgoing :=
  match kind with
  | subscribe => .subscribe pkid
  | unsubscribe => .unsubscribe pkid
  | publish => .publish pkid

/-- The packet that acknowledges a parcel. -/
def Parcel.ackPacket (x : Parcel) (pkid : ℕ) (codes : List Qos) : Packet :=
  match x.kind with
  | .subscribe => .subAck pkid codes
  | .unsubscribe => .unsubAck pkid
  | .publish => if x.qos = .exactlyOnce then .pubComp pkid else .pubAck pkid

/-- The outbox. -/
structure Outbox where
  online : Bool := false
  /-- Accepted and not yet on the wire. -/
  waiting : List Parcel := []
  /-- Kept when a network failed, with the packet id of a publish that was on the wire. -/
  pending : List (Option ℕ × Parcel) := []
  /-- On the wire and not acknowledged. -/
  unacked : List (ℕ × Parcel) := []

namespace Outbox

/-- What may be acknowledged, with its packet id. -/
def inflight (o : Outbox) : List (ℕ × Parcel) :=
  o.unacked ++ o.pending.filterMap fun e => e.1.map (·, e.2)

/-- What was not on the wire yet, in the order of acceptance. -/
def unsent (o : Outbox) : List Parcel :=
  (o.pending.filterMap fun e => if e.1.isNone then some e.2 else none) ++ o.waiting

/-- What is sent next, with its old packet id if it has one: what was kept goes first. -/
def next? (o : Outbox) : Option (Option ℕ × Parcel × Outbox) :=
  match o.pending, o.waiting with
  | (old, x) :: rest, _ => some (old, x, { o with pending := rest })
  | [], x :: rest => some (none, x, { o with waiting := rest })
  | [], [] => none

/-- A parcel on the wire. -/
def carried (o : Outbox) (pkid : ℕ) (x : Parcel) : Outbox :=
  { o with unacked := if x.awaitsAck then o.unacked ++ [(pkid, x)] else o.unacked }

/-- The network failed: publishes are kept with their packet ids, other requests only if they
were not on the wire yet. -/
def interrupted (o : Outbox) : Outbox :=
  if o.online then
    { online := false
      waiting := []
      pending := o.pending ++
        (o.unacked.filter fun e => e.2.kind = .publish).map (fun e => (some e.1, e.2)) ++
        o.waiting.map (none, ·)
      unacked := [] }
  else o

/-- The broker accepted a new network. What was kept is dropped with the session. -/
def accepted (o : Outbox) (sessionPresent : Bool) : Outbox :=
  { o with online := true, pending := if sessionPresent then o.pending else [] }

end Outbox

/-- A link, its outbox, and the parcels that were on the wire and that the broker has
acknowledged. -/
structure System where
  link : Connection Parcel
  outbox : Outbox := {}
  calls : ℕ := 0
  wired : List Parcel := []
  acked : List Parcel := []

/-- What may happen to a link and its outbox. -/
inductive Move
  | submit (kind : Kind) (qos : Qos) (completion : Completion) (command : Command)
  | loop (state : Option Loop)
  | send (pkid : ℕ)
  | ack (pkid : ℕ) (codes : List Qos)
  | interrupted (code : ErrorCode)
  | connAck (sessionPresent : Bool)

namespace System

/-- What a move leaves, and the signals it gives. -/
def step (s : System) : Move → System × List (Delivery Parcel)
  | .submit kind qos completion command =>
    let x : Parcel := ⟨s.calls, kind, qos⟩
    let (link, answer) := s.link.submit kind qos completion x command
    let waiting := if answer.isSome then s.outbox.waiting ++ [x] else s.outbox.waiting
    ({ s with link, outbox := { s.outbox with waiting }, calls := s.calls + 1 }, [])
  | .loop state => ({ s with link := { s.link with loop := state } }, [])
  | .send pkid =>
    match s.outbox.next? with
    | none => (s, [])
    | some (_, x, rest) =>
      let (link, signals) := s.link.outgoing (x.kind.outgoing pkid)
      ({ s with link, outbox := rest.carried pkid x, wired := x :: s.wired }, signals)
  | .ack pkid codes =>
    match s.outbox.unacked.lookup pkid with
    | none => (s, [])
    | some x =>
      let (link, signals) := s.link.incoming (x.ackPacket pkid codes)
      let unacked := s.outbox.unacked.filter fun e => e.1 ≠ pkid
      ({ s with link, outbox := { s.outbox with unacked }, acked := x :: s.acked }, signals)
  | .interrupted code =>
    let (link, signals) := s.link.interrupted code
    ({ s with link, outbox := s.outbox.interrupted }, signals)
  | .connAck sessionPresent =>
    let (link, signals) := s.link.incoming (.connAck .accepted sessionPresent)
    ({ s with link, outbox := s.outbox.accepted sessionPresent }, signals)

/-- Whether a move is possible. A parcel goes under its old packet id, or under one that nothing
unacknowledged uses; only what is not acknowledged is acknowledged. -/
def Allows (s : System) : Move → Prop
  | .send pkid =>
    s.outbox.online = true ∧
      match s.outbox.next? with
      | some (some old, _) => pkid = old
      | some (none, _) => pkid ∉ s.outbox.inflight.map (·.1)
      | none => False
  | .ack pkid _ => s.outbox.online = true ∧ pkid ∈ s.outbox.unacked.map (·.1)
  | .connAck _ => s.outbox.online = false
  | .submit .. | .loop _ | .interrupted _ => True

/-- Whether a move makes the outbox forget a request. -/
def Drops (s : System) : Move → Prop
  | .interrupted _ => s.outbox.online = true ∧ ∃ e ∈ s.outbox.unacked, e.2.kind ≠ .publish
  | .connAck sessionPresent => sessionPresent = false ∧ s.outbox.pending ≠ []
  | .submit .. | .loop _ | .send _ | .ack .. => False

/-- Whether a callback that was told of success was told so rightly. -/
def Right (s : System) (d : Delivery Parcel) : Prop :=
  d.receiver ∈ s.wired ∧ (d.receiver.awaitsAck = true → d.receiver ∈ s.acked)

/-- The system after some moves. -/
def after (s : System) (moves : List Move) : System := moves.foldl (fun s m => (s.step m).1) s

/-- Whether moves are possible one after the other. -/
def Allowed (s : System) : List Move → Prop
  | [] => True
  | m :: moves => s.Allows m ∧ (s.step m).1.Allowed moves

/-- Whether the outbox forgets no request along some moves. -/
def Keeps (s : System) : List Move → Prop
  | [] => True
  | m :: moves => ¬s.Drops m ∧ (s.step m).1.Keeps moves

/-- Whether all credits along some moves are right. -/
def Credits (s : System) : List Move → Prop
  | [] => True
  | m :: moves =>
    (∀ d ∈ (s.step m).2, d.signal.endCode? = some 0 → (s.step m).1.Right d) ∧
      (s.step m).1.Credits moves

/-- A link with its outbox before anything happened. -/
def start (link : Connection Parcel) : System := { link }

end System

/-- A link with a client and without requests. -/
structure Connection.Idle {ρ : Type} (c : Connection ρ) : Prop where
  client : c.client = true
  closing : c.closing = false
  outstanding : c.tracker.outstanding = []

/-! ## The outbox step by step -/

namespace Outbox

variable {o rest : Outbox} {x : Parcel}

/-- What was on the wire before goes there again. -/
theorem next?_again {old : ℕ} (h : o.next? = some (some old, x, rest)) :
    rest.unsent = o.unsent ∧ o.inflight.Perm ((old, x) :: rest.inflight) := by
  obtain ⟨online, waiting, pending, unacked⟩ := o
  cases pending with
  | nil => cases waiting <;> cases h
  | cons e pending =>
    obtain ⟨id, y⟩ := e
    cases h
    exact ⟨rfl, List.perm_middle⟩

/-- What was not on the wire yet goes there in the order of acceptance. -/
theorem next?_first (h : o.next? = some (none, x, rest)) :
    o.unsent = x :: rest.unsent ∧ rest.inflight = o.inflight := by
  obtain ⟨online, waiting, pending, unacked⟩ := o
  cases pending with
  | nil =>
    cases waiting with
    | nil => cases h
    | cons y waiting =>
      cases h
      exact ⟨rfl, rfl⟩
  | cons e pending =>
    obtain ⟨id, y⟩ := e
    cases h
    exact ⟨rfl, rfl⟩

theorem next?_inflight {old : Option ℕ} (h : o.next? = some (old, x, rest)) :
    ∀ e ∈ rest.inflight, e ∈ o.inflight := by
  intro e he
  cases old with
  | some old => exact (next?_again h).2.mem_iff.2 (List.mem_cons_of_mem _ he)
  | none => exact (next?_first h).2 ▸ he

theorem next?_eq_none (h : o.next? = none) : o.pending = [] ∧ o.waiting = [] := by
  obtain ⟨online, waiting, pending, unacked⟩ := o
  cases pending with
  | nil =>
    cases waiting with
    | nil => exact ⟨rfl, rfl⟩
    | cons y waiting => cases h
  | cons e pending => cases h

theorem next?_online {old : Option ℕ} (h : o.next? = some (old, x, rest)) :
    rest.online = o.online := by
  obtain ⟨online, waiting, pending, unacked⟩ := o
  cases pending with
  | nil => cases waiting <;> cases h; rfl
  | cons e pending => cases h; rfl

/-- Sending empties the outbox. -/
theorem next?_length {old : Option ℕ} (h : o.next? = some (old, x, rest)) :
    rest.pending.length + rest.waiting.length < o.pending.length + o.waiting.length := by
  obtain ⟨online, waiting, pending, unacked⟩ := o
  cases pending with
  | nil => cases waiting <;> cases h; simp
  | cons e pending => cases h; simp

theorem inflight_carried (o : Outbox) (pkid : ℕ) (x : Parcel) :
    (o.carried pkid x).inflight.Perm
      (if x.awaitsAck then (pkid, x) :: o.inflight else o.inflight) := by
  unfold carried inflight
  split
  · rw [List.append_assoc]
    exact List.perm_middle
  · exact .refl _

theorem mem_inflight_carried {pkid : ℕ} {e : ℕ × Parcel} (h : e ∈ (o.carried pkid x).inflight) :
    e = (pkid, x) ∨ e ∈ o.inflight := by
  have hmem := (o.inflight_carried pkid x).mem_iff.1 h
  split at hmem
  · exact List.mem_cons.1 hmem
  · exact .inr hmem

theorem lookup_carried {pkid : ℕ} (h : pkid ∉ o.inflight.map (·.1)) (hx : x.awaitsAck = true) :
    (o.carried pkid x).unacked.lookup pkid = some x := by
  have hnone : o.unacked.lookup pkid = none := by
    cases hlookup : o.unacked.lookup pkid with
    | none => rfl
    | some y =>
      have hmem : (pkid, y) ∈ o.inflight := List.mem_append_left _ (Tracker.mem_of_lookup hlookup)
      exact absurd (List.mem_map_of_mem hmem) h
  rw [carried, if_pos hx, Tracker.lookup_append_of_none hnone, if_pos rfl]

/-- A failure of the network reorders what is in the outbox if all that is on the wire is kept. -/
theorem unsent_interrupted (o : Outbox) : o.interrupted.unsent = o.unsent := by
  unfold interrupted
  split
  · simp [unsent, List.filterMap_append, List.filterMap_map]
  · rfl

theorem inflight_interrupted (h : o.online = true → ∀ e ∈ o.unacked, e.2.kind = .publish) :
    o.interrupted.inflight.Perm o.inflight := by
  unfold interrupted
  split
  · have hall : o.unacked.filter (fun e => decide (e.2.kind = .publish)) = o.unacked :=
      List.filter_eq_self.2 fun e he => decide_eq_true (h ‹_› e he)
    simp only [inflight, hall, List.filterMap_append, List.filterMap_map, List.nil_append]
    simpa [Function.comp_def] using List.perm_append_comm
  · exact .refl _

theorem mem_inflight_interrupted (honline : o.online = true) {e : ℕ × Parcel}
    (he : e ∈ o.interrupted.inflight) :
    e ∈ o.pending.filterMap (fun e => e.1.map (·, e.2)) ∨ e ∈ o.unacked ∧ e.2.kind = .publish := by
  rw [interrupted, if_pos honline] at he
  simp only [inflight, List.filterMap_append, List.filterMap_map, List.nil_append,
    List.mem_append] at he
  rcases he with (he | he) | he
  · exact .inl he
  · obtain ⟨e', he', heq⟩ := List.mem_filterMap.1 he
    obtain rfl : e' = e := Option.some.inj heq
    obtain ⟨hmem, hkind⟩ := List.mem_filter.1 he'
    exact .inr ⟨hmem, of_decide_eq_true hkind⟩
  · simp at he

end Outbox

/-! ## The link under the outbox -/

theorem Connection.outgoing_kind {ρ : Type} (c : Connection ρ) (kind : Kind) (pkid : ℕ) :
    c.outgoing (kind.outgoing pkid) = c.sent kind pkid := by
  cases kind <;> rfl

theorem Connection.incoming_ackPacket {ρ : Type} (c : Connection ρ) (x : Parcel) (pkid : ℕ)
    (codes : List Qos) :
    ∃ granted, c.incoming (x.ackPacket pkid codes) = c.acknowledge x.kind pkid granted := by
  obtain ⟨number, kind, qos⟩ := x
  cases kind with
  | subscribe => exact ⟨_, rfl⟩
  | unsubscribe => exact ⟨_, rfl⟩
  | publish =>
    simp only [Parcel.ackPacket]
    split <;> exact ⟨_, rfl⟩

/-- A submission queues its request if it is accepted, and changes nothing of the tracker but its
last id otherwise. -/
theorem Connection.submit_cases {ρ : Type} (c : Connection ρ) (kind : Kind) (qos : Qos)
    (completion : Completion) (callback : ρ) (command : Command) :
    ((c.submit kind qos completion callback command).1.client = c.client ∧
      (c.submit kind qos completion callback command).1.closing = c.closing ∧
      (c.submit kind qos completion callback command).1.tracker.sent = c.tracker.sent) ∧
    if c.client ∧ ¬c.closing ∧ c.takes command then
      (c.submit kind qos completion callback command).2.isSome = true ∧
      ∃ id, (c.submit kind qos completion callback command).1.tracker.queued =
        c.tracker.queued ++ [(kind, ⟨id, qos, (completion, callback)⟩)]
    else
      (c.submit kind qos completion callback command).2.isSome = false ∧
      (c.submit kind qos completion callback command).1.tracker.queued = c.tracker.queued := by
  by_cases hclient : c.client = true <;> by_cases hclosing : c.closing = true <;>
    by_cases htakes : c.takes command = true <;>
    simp [submit, Tracker.submit, fail, hand, hclient, hclosing, htakes]

namespace System

variable (s : System)

/-- Sending is one operation on the tracker. -/
theorem step_send (pkid : ℕ) {old : Option ℕ} {x : Parcel} {rest : Outbox}
    (h : s.outbox.next? = some (old, x, rest)) :
    ∃ t ended, Tracker.Effect s.link.tracker (.outgoing x.kind pkid) t ended ∧
      s.step (.send pkid) = ({ s with
        link := { s.link with tracker := t }
        outbox := rest.carried pkid x
        wired := x :: s.wired }, ended.map Outcome.delivery) := by
  refine ⟨_, _, Tracker.effect_of _ _, ?_⟩
  simp only [step, h, Connection.outgoing_kind, Connection.sent, Tracker.apply]
  cases (s.link.tracker.outgoing x.kind pkid).2 <;> rfl

/-- So is an acknowledgement. -/
theorem step_ack {pkid : ℕ} {x : Parcel} (codes : List Qos)
    (h : s.outbox.unacked.lookup pkid = some x) :
    ∃ granted t ended, Tracker.Effect s.link.tracker (.acknowledge x.kind pkid granted) t ended ∧
      s.step (.ack pkid codes) = ({ s with
        link := { s.link with tracker := t }
        outbox := { s.outbox with unacked := s.outbox.unacked.filter fun e => e.1 ≠ pkid }
        acked := x :: s.acked }, ended.map Outcome.delivery) := by
  obtain ⟨granted, hgranted⟩ := s.link.incoming_ackPacket x pkid codes
  refine ⟨granted, _, _, Tracker.effect_of _ _, ?_⟩
  simp only [step, h, hgranted, Connection.acknowledge, Tracker.apply]
  cases (s.link.tracker.acknowledge x.kind pkid granted).2 <;> rfl

/-- A failure of the network and a new one tell of no request. -/
theorem endings_interrupted (code : ErrorCode) : endings (s.step (.interrupted code)).2 = [] :=
  s.link.endings_step default (.interrupted code)

theorem endings_connAck (sessionPresent : Bool) :
    endings (s.step (.connAck sessionPresent)).2 = [] :=
  s.link.endings_step default (.incoming (.connAck .accepted sessionPresent))

end System

end DeviceLink.Link
