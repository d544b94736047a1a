import DeviceLink.Proofs.Bench.Holders
import DeviceLink.Proofs.Simulated.Subscriptions
/-!
# What one native object does

The four sorts of native objects as one type, and all that can be done to one of them as another.
What an object does depends on nothing but itself and the faults in force, and it is the same
whoever its receivers are: it commutes with putting others in their place.
-/

namespace DeviceLink.Mqtt

variable {ρ τ : Type} (f : ρ → τ)

/-- The same slots with other receivers. -/
def Lifecycle.map (l : Lifecycle ρ) : Lifecycle τ :=
  ⟨l.completed.map f, l.closed.map f, l.interrupted.map f, l.resumed.map f⟩

/-- The same signal to another receiver. -/
def Delivery.map (d : Delivery ρ) : Delivery τ := ⟨f d.receiver, d.signal⟩

end DeviceLink.Mqtt

namespace DeviceLink.Link

/-- The same operation with other receivers. -/
def Operation.map {ρ τ : Type} (f : ρ → τ) : Operation ρ → Operation τ
  | subscribe topic qos onMessage onAck => subscribe topic qos (f onMessage) (f onAck)
  | subscribeMany topics qos onAck => subscribeMany (topics.map (Prod.map id f)) qos (f onAck)
  | unsubscribe topic onAck => unsubscribe topic (f onAck)
  | publish topic qos retain payload onAck => publish topic qos retain payload (f onAck)

end DeviceLink.Link

namespace DeviceLink.Simulated

open Mqtt
open Link (Operation)

/-! ## Natives -/

/-- A native object of any sort. -/
inductive Native (ρ : Type)
  | connection (c : Connection ρ)
  | jobsClient (c : JobsClient ρ)
  | tunnelingClient (c : TunnelingClient ρ)
  | tunnel (t : Tunnel ρ)

/-- What a native object tells a receiver. -/
inductive News
  | mqtt (s : Mqtt.Signal)
  | jobs (s : Jobs.Signal)
  | listener (s : DeviceLink.Tunnel.Listener.Signal)
  | tunnel (e : DeviceLink.Tunnel.Event)

/-- Something done to a native object: a call on it, or an event given by hand. Who the receivers
of an operation are is left open. -/
inductive Deed
  | connect (options : ConnectOptions)
  | operate (op : Operation Unit)
  | disconnect
  | fire (s : Mqtt.Signal)
  | receive (m : Message)
  | ack (id : ℕ) (code : ℤ)
  | ackAll (code : ℤ)
  | subscribeJobs (scope : Jobs.Scope) (topic : Jobs.Topic)
  | request (r : Jobs.Request) (qos : Qos) (token : Token)
  | completeSubscriptions (ioError : ℤ)
  | completePublishes (ioError : ℤ)
  | fireJobs (e : Jobs.Event) (ioError : ℤ)
  | completeListeners (code : ℤ)
  | fireOpened (response : Option DeviceLink.Tunnel.Opened) (ioError : ℤ)
  | start
  | stop
  | send (m : DeviceLink.Tunnel.Outbound)
  | fireTunnel (e : DeviceLink.Tunnel.Event)

section

variable {ρ : Type}

/-- The connection after a deed, and what it tells. -/
def Connection.act (c : Connection ρ) (faults : Faults) (r : ρ) :
    Deed → Connection ρ × List (ρ × News)
  | .connect options => ((c.connect faults options).1, [])
  | .operate op => ((c.perform faults (op.map fun _ => r)).1, [])
  | .disconnect => (c.disconnect.1, [])
  | .fire s => (c, (c.fire s).map fun d => (d.receiver, .mqtt d.signal))
  | .receive m => (c, (c.receive m).map fun d => (d.receiver, .mqtt d.signal))
  | .ack id code =>
    ((c.ack id code).1, (c.ack id code).2.toList.map fun d => (d.receiver, .mqtt d.signal))
  | .ackAll code =>
    ((c.ackAll code).1, (c.ackAll code).2.map fun d => (d.receiver, .mqtt d.signal))
  | _ => (c, [])

/-- The jobs client after a deed, and what it tells. -/
def JobsClient.act (c : JobsClient ρ) (faults : Faults) (r : ρ) :
    Deed → JobsClient ρ × List (ρ × News)
  | .subscribeJobs scope topic => ((c.subscribe faults scope topic r).1, [])
  | .request request qos token => ((c.publish faults request qos token r).1, [])
  | .completeSubscriptions ioError =>
    ((c.completeSubscriptions ioError).1,
      (c.completeSubscriptions ioError).2.map fun d => (d.1, .jobs d.2))
  | .completePublishes ioError =>
    ((c.completePublishes ioError).1,
      (c.completePublishes ioError).2.map fun d => (d.1, .jobs d.2))
  | .fireJobs e ioError => (c, (c.fire e ioError).map fun d => (d.1, .jobs d.2))
  | _ => (c, [])

/-- The tunneling client after a deed, and what it tells. -/
def TunnelingClient.act (c : TunnelingClient ρ) : Deed → TunnelingClient ρ × List (ρ × News)
  | .completeListeners code =>
    ((c.complete code).1, (c.complete code).2.map fun d => (d.1, .listener d.2))
  | .fireOpened response ioError =>
    (c, (c.fire response ioError).map fun d => (d.1, .listener d.2))
  | _ => (c, [])

/-- The tunnel after a deed, and what it tells. -/
def Tunnel.act (t : Tunnel ρ) (faults : Faults) : Deed → Tunnel ρ × List (ρ × News)
  | .start => ((t.start faults).1, [])
  | .stop => (t.stop.1, [])
  | .send m => ((t.send faults m).1, [])
  | .fireTunnel e => (t, (t.fire e).toList.map fun d => (d.1, .tunnel d.2))
  | _ => (t, [])

namespace Native

/-- The sort of an object. -/
def sort : Native ρ → ObjectSort
  | connection _ => .connection
  | jobsClient _ => .jobsClient
  | tunnelingClient _ => .tunnelingClient
  | tunnel _ => .tunnel

/-- The object after a deed, and what it tells. New receivers are all `r`. -/
def act (x : Native ρ) (faults : Faults) (r : ρ) (d : Deed) : Native ρ × List (ρ × News) :=
  match x with
  | connection c => (connection (c.act faults r d).1, (c.act faults r d).2)
  | jobsClient c => (jobsClient (c.act faults r d).1, (c.act faults r d).2)
  | tunnelingClient c => (tunnelingClient (c.act d).1, (c.act d).2)
  | tunnel t => (tunnel (t.act faults d).1, (t.act faults d).2)

/-- The object after deeds one after the other, and what it tells. -/
def does (x : Native ρ) (faults : Faults) (r : ρ) : List Deed → Native ρ × List (ρ × News)
  | [] => (x, [])
  | d :: ds =>
    let rest := (x.act faults r d).1.does faults r ds
    (rest.1, (x.act faults r d).2 ++ rest.2)

theorem sort_act (x : Native ρ) (faults : Faults) (r : ρ) (d : Deed) :
    (x.act faults r d).1.sort = x.sort := by
  cases x <;> rfl

theorem sort_does (x : Native ρ) (faults : Faults) (r : ρ) (ds : List Deed) :
    (x.does faults r ds).1.sort = x.sort := by
  induction ds generalizing x with
  | nil => rfl
  | cons d ds ih => exact (ih _).trans (x.sort_act faults r d)

theorem does_singleton (x : Native ρ) (faults : Faults) (r : ρ) (d : Deed) :
    x.does faults r [d] = x.act faults r d := by
  simp [does]

end Native

/-- The connection after operations that all have one receiver. -/
def Connection.performAll (c : Connection ρ) (faults : Faults) (r : ρ)
    (ops : List (Operation Unit)) : Connection ρ :=
  ops.foldl (fun c op => (c.perform faults (op.map fun _ => r)).1) c

/-- Operations tell nobody before they are acknowledged. -/
theorem Native.does_operations (c : Connection ρ) (faults : Faults) (r : ρ)
    (ops : List (Operation Unit)) : (connection c).does faults r (ops.map .operate) =
      (connection (c.performAll faults r ops), []) := by
  induction ops generalizing c with
  | nil => rfl
  | cons op ops ih =>
    rw [List.map_cons, does, act, Connection.act, ih]
    rfl

end

/-! ## Other receivers -/

section

variable {ρ τ : Type} (f : ρ → τ)

/-- The operation with another receiver. -/
def Awaiting.map (a : Awaiting ρ) : Awaiting τ := ⟨a.completion, a.qos, f a.onAck⟩

/-- The connection with other receivers. -/
def Connection.map (c : Connection ρ) : Connection τ where
  config := c.config
  lifecycle := c.lifecycle.map f
  options := c.options
  subscriptions := c.subscriptions.map (Prod.map id f)
  pending := c.pending.map (Prod.map id (Awaiting.map f))
  published := c.published
  lastId := c.lastId
  shutDown := c.shutDown
  lastError := c.lastError

/-- The subscription with another receiver. -/
def JobsSubscription.map (x : JobsSubscription ρ) : JobsSubscription τ :=
  ⟨x.scope, x.topic, f x.receiver⟩

/-- The jobs client with other receivers. -/
def JobsClient.map (c : JobsClient ρ) : JobsClient τ where
  subscriptions := c.subscriptions.map (JobsSubscription.map f)
  pendingSubscriptions := c.pendingSubscriptions.map (Prod.map id f)
  requests := c.requests
  pendingPublishes := c.pendingPublishes.map (Prod.map id f)

/-- The tunneling client with other receivers. -/
def TunnelingClient.map (c : TunnelingClient ρ) : TunnelingClient τ where
  requests := c.requests
  handlers := c.handlers.map f
  pending := c.pending.map f

/-- The tunnel with other receivers. -/
def Tunnel.map (t : Tunnel ρ) : Tunnel τ where
  draft :=
    { endpoint := t.draft.endpoint
      accessToken := t.draft.accessToken
      mode := t.draft.mode
      clientToken := t.draft.clientToken
      slots := t.draft.slots.map (Prod.map id f) }
  started := t.started
  sent := t.sent

/-- The object with other receivers. -/
def Native.map : Native ρ → Native τ
  | connection c => connection (c.map f)
  | jobsClient c => jobsClient (c.map f)
  | tunnelingClient c => tunnelingClient (c.map f)
  | tunnel t => tunnel (t.map f)

variable {f} {faults faults' : Faults}

/-- An entry is put in its place whatever it is. -/
theorem putById_map {α β : Type} (g : α → β) (n : ℕ) (a : α) (entries : List (ℕ × α)) :
    putById n (g a) (entries.map (Prod.map id g)) = (putById n a entries).map (Prod.map id g) := by
  induction entries with
  | nil => rfl
  | cons entry entries ih =>
    obtain ⟨k, e⟩ := entry
    by_cases hlt : k < n
    · simp [putById, hlt]
    · by_cases heq : k = n
      · simp [putById, heq]
      · simpa [putById, hlt, heq] using ih

/-- The entry of a key after every entry was changed. -/
theorem lookup_map_value {κ α β : Type} [BEq κ] [LawfulBEq κ] (g : κ → α → β) (k : κ)
    (entries : List (κ × α)) :
    (entries.map fun e => (e.1, g e.1 e.2)).lookup k = (entries.lookup k).map (g k) := by
  induction entries with
  | nil => rfl
  | cons entry entries ih =>
    rw [List.map_cons, List.lookup_cons, List.lookup_cons]
    cases hk : k == entry.1 with
    | true => rw [eq_of_beq hk]; rfl
    | false => exact ih

theorem lookup_map_snd {κ α β : Type} [BEq κ] [LawfulBEq κ] (g : α → β) (k : κ)
    (entries : List (κ × α)) :
    (entries.map (Prod.map id g)).lookup k = (entries.lookup k).map g :=
  lookup_map_value (fun _ => g) k entries

namespace Connection

variable (c : Connection ρ)

theorem rejects_map (h : faults'.isSet = faults.isSet) :
    (c.map f).rejects faults' = c.rejects faults := by
  rw [rejects, rejects, h]
  rfl

theorem await_map (a : Awaiting ρ) :
    (c.map f).await (a.map f) = ((c.await a).1.map f, (c.await a).2) := by
  simp only [await, map, putById_map]

theorem perform_map (h : faults'.isSet = faults.isSet) (op : Operation ρ) :
    (c.map f).perform faults' (op.map f) =
      ((c.perform faults op).1.map f, (c.perform faults op).2) := by
  cases op with
  | subscribe topic qos onMessage onAck =>
    simp only [perform, Operation.map, subscribe, c.rejects_map h]
    split
    · rfl
    · rw [← await_map]
      simp [map, Awaiting.map]
  | subscribeMany topics qos onAck =>
    simp only [perform, Operation.map, subscribeMany, c.rejects_map h, List.isEmpty_map]
    split
    · rfl
    · split
      · rfl
      · rw [← await_map]
        simp [map, Awaiting.map, Function.comp_def]
  | unsubscribe topic onAck =>
    simp only [perform, Operation.map, unsubscribe, c.rejects_map h]
    split
    · rfl
    · rw [← await_map]
      simp [map, Awaiting.map, List.filter_map, Function.comp_def]
  | publish topic qos retain payload onAck =>
    simp only [perform, Operation.map, publish, c.rejects_map h]
    split
    · rfl
    · rw [← await_map]
      rfl

theorem connect_map (h : faults'.isSet = faults.isSet) (options : ConnectOptions) :
    ((c.map f).connect faults' options).1 = (c.connect faults options).1.map f := by
  rw [connect, connect, h]
  split <;> rfl

theorem fire_map (s : Mqtt.Signal) : (c.map f).fire s = (c.fire s).map (Delivery.map f) := by
  have hdeliver : ∀ (slot : Option ρ) (s : Mqtt.Signal),
      deliver (slot.map f) s = (deliver slot s).map (Delivery.map f) := by
    intro slot s
    cases slot <;> rfl
  cases s with
  | completed | closed | interrupted | resumed => exact hdeliver _ _
  | message | subscribed | subscribedMany | unsubscribed | published => rfl

theorem receive_map (m : Message) : (c.map f).receive m = (c.receive m).map (Delivery.map f) := by
  simp [receive, map, List.filter_map, Function.comp_def, Delivery.map]

theorem ack_map (id : ℕ) (code : ℤ) : (c.map f).ack id code =
    ((c.ack id code).1.map f, (c.ack id code).2.map (Delivery.map f)) := by
  have hlookup : (c.map f).pending.lookup id = (c.pending.lookup id).map (Awaiting.map f) :=
    lookup_map_snd ..
  unfold ack
  rw [hlookup]
  cases c.pending.lookup id with
  | none => rfl
  | some a => simp [map, List.filter_map, Function.comp_def, Awaiting.delivery, Awaiting.map,
      Delivery.map]

theorem ackAll_map (code : ℤ) : (c.map f).ackAll code =
    ((c.ackAll code).1.map f, (c.ackAll code).2.map (Delivery.map f)) := by
  simp [ackAll, map, Function.comp_def, Awaiting.delivery, Awaiting.map, Delivery.map]

/-- A connection does the same whoever its receivers are. -/
theorem act_map (h : faults'.isSet = faults.isSet) (r : ρ) (d : Deed) :
    (c.map f).act faults' (f r) d =
      ((c.act faults r d).1.map f, (c.act faults r d).2.map (Prod.map f id)) := by
  cases d with
  | connect options => simp [act, c.connect_map h]
  | operate op =>
    have hop : (op.map fun _ => f r) = (op.map fun _ => r).map f := by
      cases op <;> simp [Operation.map, Function.comp_def, Prod.map]
    simp [act, hop, c.perform_map h]
  | fire s => simp [act, fire_map, Delivery.map]
  | receive m => simp [act, receive_map, Delivery.map]
  | ack id code =>
    simp only [act, ack_map]
    cases (c.ack id code).2 <;> rfl
  | ackAll code => simp [act, ackAll_map, Delivery.map]
  | disconnect => rfl
  | _ => rfl

end Connection

namespace JobsClient

variable (c : JobsClient ρ)

theorem subscribe_map (h : faults'.isSet = faults.isSet) (scope : Jobs.Scope) (topic : Jobs.Topic)
    (r : ρ) : (c.map f).subscribe faults' scope topic (f r) =
      ((c.subscribe faults scope topic r).1.map f, (c.subscribe faults scope topic r).2) := by
  simp only [subscribe, h]
  split
  · rfl
  · simp [map, JobsSubscription.map]

/-- A jobs client does the same whoever its receivers are. -/
theorem act_map (h : faults'.isSet = faults.isSet) (r : ρ) (d : Deed) :
    (c.map f).act faults' (f r) d =
      ((c.act faults r d).1.map f, (c.act faults r d).2.map (Prod.map f id)) := by
  cases d with
  | subscribeJobs scope topic => simp [act, c.subscribe_map h]
  | request request qos token =>
    simp only [act, publish, h]
    split <;> simp [map]
  | completeSubscriptions ioError => simp [act, completeSubscriptions, map]
  | completePublishes ioError => simp [act, completePublishes, map]
  | fireJobs e ioError =>
    simp only [act, fire, map, List.filter_map, List.map_map]
    rfl
  | _ => rfl

end JobsClient

/-- A tunneling client does the same whoever its receivers are. -/
theorem TunnelingClient.act_map (c : TunnelingClient ρ) (d : Deed) :
    (c.map f).act d = ((c.act d).1.map f, (c.act d).2.map (Prod.map f id)) := by
  cases d with
  | completeListeners code => simp [act, complete, map]
  | fireOpened response ioError => simp [act, fire, map]
  | _ => rfl

/-- A tunnel does the same whoever its receivers are. -/
theorem Tunnel.act_map (t : Tunnel ρ) (h : faults'.isSet = faults.isSet) (d : Deed) :
    (t.map f).act faults' d =
      ((t.act faults d).1.map f, (t.act faults d).2.map (Prod.map f id)) := by
  cases d with
  | start =>
    simp only [act, start, h]
    split <;> rfl
  | send m =>
    simp only [act, send, h, map]
    split <;> rfl
  | fireTunnel e =>
    simp only [act, fire, map, lookup_map_snd]
    cases t.draft.slots.lookup e.slot <;> rfl
  | _ => rfl

/-- An object does the same whoever its receivers are, and under the same faults. -/
theorem Native.act_map (x : Native ρ) (h : faults'.isSet = faults.isSet) (r : ρ) (d : Deed) :
    (x.map f).act faults' (f r) d =
      ((x.act faults r d).1.map f, (x.act faults r d).2.map (Prod.map f id)) := by
  cases x with
  | connection c => simp [act, map, c.act_map h]
  | jobsClient c => simp [act, map, c.act_map h]
  | tunnelingClient c => simp [act, map, c.act_map]
  | tunnel t => simp [act, map, t.act_map h]

theorem Native.does_map (x : Native ρ) (h : faults'.isSet = faults.isSet) (r : ρ)
    (ds : List Deed) : (x.map f).does faults' (f r) ds =
      ((x.does faults r ds).1.map f, (x.does faults r ds).2.map (Prod.map f id)) := by
  induction ds generalizing x with
  | nil => rfl
  | cons d ds ih => simp [does, x.act_map h, ih]

/-- An object that has one receiver keeps it, and tells nobody else. -/
theorem Native.does_of_one {x : Native ρ} {r : ρ} (h : (x.map fun _ => r) = x) (faults : Faults)
    (ds : List Deed) : ((x.does faults r ds).1.map fun _ => r) = (x.does faults r ds).1 ∧
      (x.does faults r ds).2 = ((x.does faults r ds).2.map (·.2)).map (r, ·) := by
  have hsame : (x.map fun _ => r).does faults r ds = _ := x.does_map (f := fun _ => r) rfl r ds
  rw [h] at hsame
  refine ⟨(congrArg Prod.fst hsame).symm, ?_⟩
  rw [List.map_map]
  exact congrArg Prod.snd hsame

end

/-! ## Objects of the library -/

namespace Shelf

variable {α : Type} (s : Shelf α) (i j : ℕ)

/-- The object with a number, alive or not. -/
def object? : Option α := s[i]?.map (·.object)

theorem object?_put (a : α) :
    (s.put i a).object? j = if i = j then (s.object? j).map fun _ => a else s.object? j := by
  rw [object?, object?, put, List.getElem?_modify]
  by_cases h : i = j <;> cases s[j]? <;> simp [h]

/-- An object that is put where it is. -/
theorem put_self {a : α} (h : s.object? i = some a) : s.put i a = s := by
  refine List.ext_getElem? fun j => ?_
  rw [put, List.getElem?_modify]
  by_cases hij : i = j
  · subst hij
    rw [object?] at h
    obtain ⟨x, hx, rfl⟩ := Option.map_eq_some_iff.1 h
    simp [hx]
  · simp [hij]

theorem put_put (a b : α) : (s.put i a).put i b = s.put i b := by
  refine List.ext_getElem? fun j => ?_
  simp only [put, List.getElem?_modify]
  by_cases hij : i = j <;> cases s[j]? <;> simp [hij]

theorem object?_modify (f : Held α → Held α) (h : ∀ x, (f x).object = x.object) :
    object? (s.modify i f) j = s.object? j := by
  rw [object?, object?, List.getElem?_modify]
  by_cases hij : i = j <;> cases s[j]? <;> simp [hij, h]

theorem object?_snoc (x : Held α) :
    object? (s ++ [x]) j = if j = s.length then some x.object else s.object? j := by
  rw [object?, object?]
  obtain hlt | rfl | hgt := Nat.lt_trichotomy j s.length
  · simp [List.getElem?_append_left hlt, hlt.ne]
  · simp
  · rw [List.getElem?_eq_none (by simp; omega), List.getElem?_eq_none (by omega), if_neg hgt.ne']

theorem object?_of_get? {a : α} (h : s.get? i = some a) : s.object? i = some a := by
  obtain ⟨holders, -, heq⟩ := getElem?_of_get? h
  rw [object?, heq]
  rfl

end Shelf

namespace Library

variable {ρ : Type}

/-- The object of a number, alive or not. -/
def native? (l : Library ρ) (o : Object) : Option (Native ρ) :=
  match o.sort with
  | .connection => (l.connections.object? o.number).map .connection
  | .jobsClient => (l.jobsClients.object? o.number).map .jobsClient
  | .tunnelingClient => (l.tunnelingClients.object? o.number).map .tunnelingClient
  | .tunnel => (l.tunnels.object? o.number).map .tunnel

/-- The library with an object replaced by another one of its sort. -/
def putNative (l : Library ρ) (i : ℕ) : Native ρ → Library ρ
  | .connection c => l.putConnection i c
  | .jobsClient c => l.putJobsClient i c
  | .tunnelingClient c => l.putTunnelingClient i c
  | .tunnel t => l.putTunnel i t

/-- A library with an object more. -/
structure Adds (l l' : Library ρ) (o : Object) (x : Native ρ) : Prop where
  absent : l.native? o = none
  native? : l'.native? = Function.update l.native? o (some x)

variable {l l' : Library ρ} {o : Object} {x y : Native ρ} {i : ℕ}

theorem sort_of_native? (h : l.native? o = some x) : x.sort = o.sort := by
  obtain ⟨sort, n⟩ := o
  cases sort <;>
  · obtain ⟨a, -, rfl⟩ := Option.map_eq_some_iff.1 h
    rfl

theorem native?_connection {c : Connection ρ} (h : l.connections.get? i = some c) :
    l.native? ⟨.connection, i⟩ = some (.connection c) :=
  congrArg (Option.map Native.connection) (Shelf.object?_of_get? _ _ h)

theorem native?_jobsClient {c : JobsClient ρ} (h : l.jobsClients.get? i = some c) :
    l.native? ⟨.jobsClient, i⟩ = some (.jobsClient c) :=
  congrArg (Option.map Native.jobsClient) (Shelf.object?_of_get? _ _ h)

theorem native?_tunnelingClient {c : TunnelingClient ρ} (h : l.tunnelingClients.get? i = some c) :
    l.native? ⟨.tunnelingClient, i⟩ = some (.tunnelingClient c) :=
  congrArg (Option.map Native.tunnelingClient) (Shelf.object?_of_get? _ _ h)

theorem native?_tunnel {t : Tunnel ρ} (h : l.tunnels.get? i = some t) :
    l.native? ⟨.tunnel, i⟩ = some (.tunnel t) :=
  congrArg (Option.map Native.tunnel) (Shelf.object?_of_get? _ _ h)

theorem native?_putNative (h : l.native? ⟨x.sort, i⟩ = some y) :
    (l.putNative i x).native? = Function.update l.native? ⟨x.sort, i⟩ (some x) := by
  funext o
  obtain ⟨sort, n⟩ := o
  by_cases ho : (⟨sort, n⟩ : Object) = ⟨x.sort, i⟩
  · obtain ⟨rfl, rfl⟩ : sort = x.sort ∧ n = i := by simpa using ho
    rw [Function.update_self]
    cases x <;>
    · obtain ⟨a, ha, -⟩ := Option.map_eq_some_iff.1 h
      simp only [putNative, native?, Native.sort, putConnection, putJobsClient, putTunnelingClient,
        putTunnel, Shelf.object?_put] at ha ⊢
      simp [ha]
  · rw [Function.update_of_ne ho]
    cases x <;> cases sort <;>
      simp only [putNative, native?, putConnection, putJobsClient, putTunnelingClient, putTunnel,
        Shelf.object?_put]
    all_goals
      have hn : i ≠ n := fun heq => ho (by rw [heq]; rfl)
      rw [if_neg hn]

/-- An object that is put where it is. -/
theorem putNative_self (h : l.native? ⟨x.sort, i⟩ = some x) : l.putNative i x = l := by
  cases x <;>
  · obtain ⟨a, ha, heq⟩ := Option.map_eq_some_iff.1 h
    cases heq
    simp only [putNative, putConnection, putJobsClient, putTunnelingClient, putTunnel,
      Shelf.put_self _ _ ha]

theorem putNative_putNative (h : x.sort = y.sort) :
    (l.putNative i x).putNative i y = l.putNative i y := by
  cases x <;> cases y <;> cases h <;>
    simp only [putNative, putConnection, putJobsClient, putTunnelingClient, putTunnel,
      Shelf.put_put]

/-- Holders come and go without a change of the object. -/
theorem native?_retainConnection (l : Library ρ) (i : ℕ) :
    (l.retainConnection i).native? = l.native? := by
  funext o
  simp [native?, retainConnection, Shelf.retain, Shelf.object?_modify]

theorem native?_releaseConnection (l : Library ρ) (i : ℕ) :
    (l.releaseConnection i).native? = l.native? := by
  funext o
  simp [native?, releaseConnection, discount, Shelf.release, Shelf.object?_modify]

theorem native?_releaseJobsClient (l : Library ρ) (i : ℕ) :
    (l.releaseJobsClient i).native? = l.native? := by
  funext o
  simp [native?, releaseJobsClient, discount, Shelf.release, Shelf.object?_modify]

theorem native?_releaseTunnelingClient (l : Library ρ) (i : ℕ) :
    (l.releaseTunnelingClient i).native? = l.native? := by
  funext o
  simp [native?, releaseTunnelingClient, discount, Shelf.release, Shelf.object?_modify]

theorem native?_releaseTunnel (l : Library ρ) (i : ℕ) :
    (l.releaseTunnel i).native? = l.native? := by
  funext o
  simp [native?, releaseTunnel, discount, Shelf.release, Shelf.object?_modify]

/-! ## New objects -/

theorem Adds.of_eq {l'' : Library ρ} (h : Adds l l' o x) (heq : l''.native? = l'.native?) :
    Adds l l'' o x :=
  ⟨h.absent, heq.trans h.native?⟩

/-- What is put in the place of a new object. -/
theorem Adds.put (h : Adds l l' ⟨y.sort, i⟩ x) : Adds l (l'.putNative i y) ⟨y.sort, i⟩ y := by
  have hx : l'.native? ⟨y.sort, i⟩ = some x := by rw [h.native?, Function.update_self]
  refine ⟨h.absent, ?_⟩
  rw [native?_putNative hx, h.native?, Function.update_idem]

/-- The objects that were there before are there as they were. -/
theorem Adds.kept (h : Adds l l' o x) {p : Object} (hp : l.native? p = some y) :
    p ≠ o ∧ l'.native? p = some y := by
  have hne : p ≠ o := by
    rintro rfl
    rw [h.absent] at hp
    cases hp
  exact ⟨hne, by rw [h.native?, Function.update_of_ne hne, hp]⟩

theorem adds_newConnection {config : Config} (h : l.newConnection config = .ok (l', i)) :
    Adds l l' ⟨.connection, i⟩ (.connection { config }) := by
  unfold newConnection at h
  split at h
  · cases h
  · cases h
    refine ⟨by simp [native?, Shelf.object?], funext fun ⟨sort, n⟩ => ?_⟩
    cases sort <;> by_cases hn : n = l.connections.length <;>
      simp [native?, Shelf.object?_snoc, Function.update, count, hn]

theorem adds_newJobsClient (h : l.newJobsClient = .ok (l', i)) :
    Adds l l' ⟨.jobsClient, i⟩ (.jobsClient {}) := by
  unfold newJobsClient at h
  split at h
  · cases h
  · cases h
    refine ⟨by simp [native?, Shelf.object?], funext fun ⟨sort, n⟩ => ?_⟩
    cases sort <;> by_cases hn : n = l.jobsClients.length <;>
      simp [native?, Shelf.object?_snoc, Function.update, count, hn]

theorem adds_newTunnelingClient (h : l.newTunnelingClient = some (l', i)) :
    Adds l l' ⟨.tunnelingClient, i⟩ (.tunnelingClient {}) := by
  unfold newTunnelingClient at h
  split at h
  · cases h
  · cases h
    refine ⟨by simp [native?, Shelf.object?], funext fun ⟨sort, n⟩ => ?_⟩
    cases sort <;> by_cases hn : n = l.tunnelingClients.length <;>
      simp [native?, Shelf.object?_snoc, Function.update, count, hn]

theorem adds_newTunnel {draft : DeviceLink.Tunnel.Draft ρ} (h : l.newTunnel draft = some (l', i)) :
    Adds l l' ⟨.tunnel, i⟩ (.tunnel { draft }) := by
  unfold newTunnel at h
  split at h
  · cases h
  · cases h
    refine ⟨by simp [native?, Shelf.object?], funext fun ⟨sort, n⟩ => ?_⟩
    cases sort <;> by_cases hn : n = l.tunnels.length <;>
      simp [native?, Shelf.object?_snoc, Function.update, count, hn]

end Library

end DeviceLink.Simulated
