import DeviceLink.Proofs.Bench.Requests
import DeviceLink.Proofs.Link.Tracker
import Mathlib.Data.List.Sort
/-!
# What passes between a client, its user and its connection

The calls of a user and the events of the native connection, the history of them with what each was
answered, and what is due at the next one. A call that was accepted is pending until the first
acknowledgement of its id, and a filter is subscribed to until the first call that ends it.
-/

namespace DeviceLink.Bench

open Mqtt Simulated

/-! ## Calls and events -/

/-- A call of the user that starts an operation. -/
inductive ClientCall
  | subscribe (topic : String) (qos : Qos)
  | subscribeMany (topics : List String) (qos : Qos)
  | unsubscribe (topic : String)
  | publish (topic : String) (qos : Qos) (retain : Bool) (payload : List UInt8)

/-- An event in the life of a connection. -/
inductive LifecycleEvent
  | completed (code : ℤ) (returnCode : ReturnCode) (sessionPresent : Bool)
  | closed
  | interrupted (code : ℤ)
  | resumed (returnCode : ReturnCode) (sessionPresent : Bool)

/-- What passes between a client, its user and its connection. Faults come and go in between. -/
inductive Exchange
  | call (c : ClientCall)
  | disconnect
  | lifecycle (e : LifecycleEvent)
  | deliver (m : Message)
  | ack (id : ℕ) (code : ℤ)
  | ackAll (code : ℤ)
  | fault (change : FaultChange)

namespace ClientCall

/-- The call as a step. -/
def step (name : String) : ClientCall → Step
  | subscribe topic qos => .subscribe name topic (Coded.code qos)
  | subscribeMany topics qos => .subscribeMany name topics (Coded.code qos)
  | unsubscribe topic => .unsubscribe name topic
  | publish topic qos retain payload => .publish name topic (Coded.code qos) retain payload 1

/-- The filters it subscribes to. -/
def topics : ClientCall → List String
  | subscribe topic _ => [topic]
  | subscribeMany topics _ => topics
  | unsubscribe _ | publish .. => []

/-- Whether it ends the subscriptions to a filter. -/
def ends (filter : String) : ClientCall → Bool
  | unsubscribe topic => filter = topic
  | subscribe .. | subscribeMany .. | publish .. => false

/-- Whether it asks for nothing. -/
def isEmpty : ClientCall → Bool
  | subscribeMany topics _ => topics.isEmpty
  | subscribe .. | unsubscribe _ | publish .. => false

/-- The callbacks when it is acknowledged: one, or one for each topic it asked for, which is granted
what was asked for unless there is an error. -/
def completion (id : ℕ) (code : ℤ) : ClientCall → List Mqtt.Callback
  | subscribe topic qos => [.subAck id topic (if code = 0 then qos else .failure) code]
  | subscribeMany topics qos =>
    topics.map fun topic => .subAck id topic (if code = 0 then qos else .failure) code
  | unsubscribe _ => [.unsubscribed id code]
  | publish .. => [.published id code]

end ClientCall

namespace LifecycleEvent

/-- The event as a step. -/
def step (name : String) : LifecycleEvent → Step
  | completed code returnCode sessionPresent =>
    .fireCompleted name code (Coded.code returnCode) sessionPresent
  | closed => .fireClosed name
  | interrupted code => .fireInterrupted name code
  | resumed returnCode sessionPresent =>
    .fireResumed name (Coded.code returnCode) sessionPresent

/-- The callback it leads to. -/
def callback : LifecycleEvent → Mqtt.Callback
  | completed code returnCode sessionPresent => .completed code returnCode sessionPresent
  | closed => .closed
  | interrupted code => .interrupted code
  | resumed returnCode sessionPresent => .resumed returnCode sessionPresent

end LifecycleEvent

namespace Exchange

/-- The exchange as a step. -/
def step (name : String) : Exchange → Step
  | call c => c.step name
  | disconnect => .disconnect name
  | lifecycle e => e.step name
  | deliver m => .receive name m.topic m.payload m.dup (Coded.code m.qos) m.retain
  | ack id code => .ack name id code
  | ackAll code => .ackAll name code
  | fault change => change.step

/-- Whether it acknowledges an operation. -/
def acknowledges (id : ℕ) : Exchange → Bool
  | ack i _ => id = i
  | ackAll _ => true
  | call _ | disconnect | lifecycle _ | deliver _ | fault _ => false

/-- Whether it closes the connection. -/
def closes : Exchange → Bool
  | disconnect => true
  | call _ | lifecycle _ | deliver _ | ack .. | ackAll _ | fault _ => false

/-- Whether operations are refused after it, by whether they were before it. -/
def refuses (refused : Bool) : Exchange → Bool
  | fault change => change.refuses refused
  | call _ | disconnect | lifecycle _ | deliver _ | ack .. | ackAll _ => refused

end Exchange

/-! ## Histories -/

/-- Exchanges with what each was answered, the first one first. -/
abbrev History := List (Exchange × Answer)

/-- The call that was accepted in an exchange, and its id. -/
def accepted? : Exchange × Answer → Option (ℕ × ClientCall)
  | (.call c, .number id) => some (id.toNat, c)
  | _ => none

/-- Whether the subscriptions to a filter were ended in an exchange. -/
def ended (filter : String) (x : Exchange × Answer) : Bool :=
  (accepted? x).any fun p => p.2.ends filter

/-- The calls that were accepted and not acknowledged since, by id. -/
def pendingIn : History → List (ℕ × ClientCall)
  | [] => []
  | x :: later =>
    ((accepted? x).toList.filter fun p => !later.any (·.1.acknowledges p.1)) ++ pendingIn later

/-- The filters that were subscribed to and not ended since. -/
def filtersIn : History → List String
  | [] => []
  | x :: later =>
    ((accepted? x).toList.flatMap (·.2.topics)).filter (fun filter => !later.any (ended filter)) ++
      filtersIn later

/-- Whether the connection was closed by its user. -/
def closedIn (h : History) : Bool := h.any (·.1.closes)

/-- Whether operations are refused by a fault. -/
def refusedIn (refused : Bool) (h : History) : Bool :=
  h.foldl (fun refused x => x.1.refuses refused) refused

/-- Whether an exchange hands out no id that is still pending. -/
def FreshAfter (h : History) (x : Exchange × Answer) : Prop :=
  ∀ p, accepted? x = some p → p.1 ∉ (pendingIn h).map (·.1)

/-- Whether an id that was handed out was never one still pending. -/
def Fresh (h : History) : Prop :=
  ∀ before x later, h = before ++ x :: later → FreshAfter before x

namespace Exchange

/-- The callbacks that are due at an exchange. -/
def image (h : History) : Exchange → List Mqtt.Callback
  | call _ | disconnect | fault _ => []
  | lifecycle e => [e.callback]
  | deliver m =>
    ((filtersIn h).filter fun filter => Topic.matchesFilter filter m.topic).map fun _ =>
      .message m.topic (Buffer.borrowed m.payload) m.dup m.qos m.retain
  | ack id code =>
    match (pendingIn h).lookup id with
    | some c => c.completion id code
    | none => []
  | ackAll code =>
    ((pendingIn h).insertionSort fun p q => p.1 ≤ q.1).flatMap fun p => p.2.completion p.1 code

/-- The answer that is due at an exchange. An operation is refused once the connection is closed,
under a fault, and if it asks for nothing; any other is given an id. -/
def Answered (refused : Bool) (h : History) (answer : Answer) : Exchange → Prop
  | call c =>
    if closedIn h || refusedIn refused h || c.isEmpty then answer = .nothing
    else ∃ id : ℕ, 1 ≤ id ∧ id ≤ 65535 ∧ answer = .number id
  | disconnect => answer = .yes !closedIn h
  | lifecycle _ => answer = .yes true
  | deliver m =>
    answer = .number ((filtersIn h).filter fun filter =>
      Topic.matchesFilter filter m.topic).length
  | ack id _ => answer = .yes ((pendingIn h).lookup id).isSome
  | ackAll _ => answer = .number (pendingIn h).length
  | fault _ => answer = .nothing

end Exchange

/-- The callbacks that are due at exchanges one after the other. -/
def imagesIn : History → History → List Mqtt.Callback
  | _, [] => []
  | past, x :: later => x.1.image past ++ imagesIn (past ++ [x]) later

/-! ## One exchange more -/

variable (h : History) (x : Exchange × Answer)

theorem pendingIn_snoc : pendingIn (h ++ [x]) =
    (pendingIn h).filter (fun p => !x.1.acknowledges p.1) ++ (accepted? x).toList := by
  induction h with
  | nil => simp [pendingIn]
  | cons y h ih =>
    rw [List.cons_append, pendingIn, ih, pendingIn, List.filter_append, List.append_assoc,
      List.filter_filter]
    congr 2
    funext p
    simp [Bool.and_comm]

theorem filtersIn_snoc : filtersIn (h ++ [x]) =
    (filtersIn h).filter (fun filter => !ended filter x) ++
      (accepted? x).toList.flatMap (·.2.topics) := by
  induction h with
  | nil => simp [filtersIn]
  | cons y h ih =>
    rw [List.cons_append, filtersIn, ih, filtersIn, List.filter_append, List.append_assoc,
      List.filter_filter]
    congr 2
    funext filter
    simp [Bool.and_comm]

/-- An exchange that starts no operation changes no subscription. -/
theorem filtersIn_snoc_none (hx : accepted? x = none) : filtersIn (h ++ [x]) = filtersIn h := by
  simp [filtersIn_snoc, hx, ended]

theorem closedIn_snoc : closedIn (h ++ [x]) = (closedIn h || x.1.closes) := by
  simp [closedIn]

theorem refusedIn_snoc (refused : Bool) :
    refusedIn refused (h ++ [x]) = x.1.refuses (refusedIn refused h) := by
  simp [refusedIn]

variable {h x}

theorem Fresh.init (hfresh : Fresh (h ++ [x])) : Fresh h := by
  rintro before y later rfl
  exact hfresh before y (later ++ [x]) (by simp)

theorem Fresh.last (hfresh : Fresh (h ++ [x])) : FreshAfter h x := hfresh h x [] rfl

/-! ## Pending calls -/

/-- A call is pending if it was accepted and not acknowledged since. -/
theorem mem_pendingIn {p : ℕ × ClientCall} : p ∈ pendingIn h ↔
    ∃ before x later, h = before ++ x :: later ∧ accepted? x = some p ∧
      later.any (·.1.acknowledges p.1) = false := by
  induction h with
  | nil => simp [pendingIn]
  | cons y h ih =>
    rw [pendingIn, List.mem_append, ih]
    constructor
    · rintro (hmem | ⟨before, x, later, rfl, hx, hlater⟩)
      · have ⟨hy, hlater⟩ := List.mem_filter.1 hmem
        exact ⟨[], y, h, rfl, by simpa using hy, by simpa using hlater⟩
      · exact ⟨y :: before, x, later, rfl, hx, hlater⟩
    · rintro ⟨before, x, later, heq, hx, hlater⟩
      cases before with
      | nil =>
        obtain ⟨rfl, rfl⟩ := List.cons.inj heq
        exact .inl (List.mem_filter.2 ⟨by simpa using hx, by simpa using hlater⟩)
      | cons z before =>
        obtain ⟨rfl, rfl⟩ := List.cons.inj heq
        exact .inr ⟨before, x, later, rfl, hx, hlater⟩

/-- No two pending calls have one id. -/
theorem Fresh.nodup (hfresh : Fresh h) : ((pendingIn h).map (·.1)).Nodup := by
  induction h using List.reverseRecOn with
  | nil => exact List.nodup_nil
  | append_singleton h x ih =>
    rw [pendingIn_snoc, List.map_append]
    have hkept := (ih hfresh.init).sublist ((List.filter_sublist
      (p := fun p : ℕ × ClientCall => !x.1.acknowledges p.1)).map (·.1))
    cases hx : accepted? x with
    | none => simpa using hkept
    | some p =>
      have hnew := hfresh.last p hx
      refine List.nodup_append.2 ⟨hkept, List.nodup_singleton _, ?_⟩
      rintro a ha b hb rfl
      obtain rfl := List.mem_singleton.1 hb
      obtain ⟨q, hq, hkey⟩ := List.mem_map.1 ha
      exact hnew (List.mem_map.2 ⟨q, List.mem_of_mem_filter hq, hkey⟩)

/-- Ids that are all different are never handed out while one is pending. -/
theorem fresh_of_nodup (hn : ((h.filterMap accepted?).map (·.1)).Nodup) : Fresh h := by
  rintro before x later rfl p hx hmem
  obtain ⟨q, hq, hkey⟩ := List.mem_map.1 hmem
  obtain ⟨front, y, middle, rfl, hy, -⟩ := mem_pendingIn.1 hq
  simp only [List.filterMap_append, List.filterMap_cons, hx, hy, List.map_append,
    List.map_cons] at hn
  exact (List.nodup_append.1 hn).2.2 q.1 (by simp) p.1 (by simp) hkey

/-- A call that was accepted is pending until its id is acknowledged. -/
theorem Fresh.lookup_of_unacknowledged {before later : History} {c : ClientCall} {id : ℕ}
    (hfresh : Fresh (before ++ (.call c, .number id) :: later))
    (hlater : later.any (·.1.acknowledges id) = false) :
    (pendingIn (before ++ (.call c, .number id) :: later)).lookup id = some c :=
  lookup_of_mem hfresh.nodup (mem_pendingIn.2 ⟨before, _, later, rfl, rfl, hlater⟩)

/-- Once its id is acknowledged it is not pending, unless the id is handed out again. -/
theorem lookup_of_acknowledged {before later : History} {c : ClientCall} {id : ℕ}
    (hlater : later.any (·.1.acknowledges id) = true)
    (hagain : ∀ x ∈ later, ∀ p, accepted? x = some p → p.1 ≠ id) :
    (pendingIn (before ++ (.call c, .number id) :: later)).lookup id = none := by
  refine lookup_of_notMem fun hmem => ?_
  obtain ⟨p, hp, rfl⟩ := List.mem_map.1 hmem
  obtain ⟨front, x, rest, heq, hx, hrest⟩ := mem_pendingIn.1 hp
  -- A call that is pending under the id came after this one, or it would be acknowledged too.
  have hrest' : ¬rest.any (·.1.acknowledges p.1) = true := Bool.eq_false_iff.1 hrest
  obtain ⟨middle, -, hmiddle⟩ | ⟨middle, -, hmiddle⟩ := List.append_eq_append_iff.1 heq
  · cases middle with
    | nil =>
      obtain ⟨-, rfl⟩ := List.cons.inj hmiddle
      exact hrest' hlater
    | cons y middle =>
      obtain ⟨-, rfl⟩ := List.cons.inj hmiddle
      exact hagain x (by simp) _ hx rfl
  · cases middle with
    | nil =>
      obtain ⟨-, rfl⟩ := List.cons.inj hmiddle
      exact hrest' hlater
    | cons y middle =>
      obtain ⟨-, rfl⟩ := List.cons.inj hmiddle
      exact hrest' (by simp [hlater])

end DeviceLink.Bench
