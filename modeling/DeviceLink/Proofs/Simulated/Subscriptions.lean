import DeviceLink.Proofs.Link.RouteTable
import DeviceLink.Simulated.Connection
import Mathlib.Data.List.Perm.Subperm
/-!
# The subscriptions of the two connections

A simulated connection lists its subscriptions, a filter as often as it was subscribed; a link
keeps a table with each filter once. After the same accepted calls the table is what putting the
list in order makes, so both deliver a message alike as long as no filter that matches its topic
stands in the list twice.
-/

namespace DeviceLink.Link

open Mqtt

variable {ρ : Type}

/-! ## Tables put together from a list -/

namespace Routes

theorem putAll_append (table : Routes ρ) (entries more : List (String × ρ)) :
    table.putAll (entries ++ more) = (table.putAll entries).putAll more :=
  List.foldl_append ..

theorem filter_put (p : String → Bool) (filter : String) (receiver : ρ) (table : Routes ρ) :
    (table.put filter receiver).filter (fun e => p e.1) =
      if p filter then put filter receiver (table.filter fun e => p e.1)
      else table.filter fun e => p e.1 := by
  induction table with
  | nil => cases hp : p filter <;> simp [put, hp]
  | cons entry table ih =>
    obtain ⟨f, old⟩ := entry
    by_cases hf : f = filter
    · subst hf
      cases hp : p f <;> simp [put, hp]
    · simp only [put, hf, if_false, List.filter_cons, ih]
      cases hpf : p f <;> cases hp : p filter <;> simp [put, hf]

/-- Entries may be picked by their filters before they are put into a table or after. -/
theorem filter_putAll (p : String → Bool) (entries : List (String × ρ)) (table : Routes ρ) :
    (table.putAll entries).filter (fun e => p e.1) =
      putAll (table.filter fun e => p e.1) (entries.filter fun e => p e.1) := by
  induction entries generalizing table with
  | nil => rfl
  | cons entry entries ih =>
    show ((table.put entry.1 entry.2).putAll entries).filter _ = _
    rw [ih, filter_put, List.filter_cons]
    split <;> rfl

theorem erase_putAll (entries : List (String × ρ)) (filter : String) :
    erase (putAll [] entries) filter = putAll [] (entries.filter fun e => e.1 ≠ filter) :=
  filter_putAll (fun f => f ≠ filter) entries []

theorem put_of_notMem {filter : String} (receiver : ρ) {table : Routes ρ}
    (h : filter ∉ table.filters) : table.put filter receiver = table ++ [(filter, receiver)] := by
  induction table with
  | nil => rfl
  | cons entry table ih =>
    rw [filters_cons, List.mem_cons, not_or] at h
    rw [put, if_neg (Ne.symm h.1), ih h.2, List.cons_append]

/-- Filters that are new to a table, each once, go to its end. -/
theorem putAll_of_nodup (entries : List (String × ρ)) (table : Routes ρ)
    (h : (filters (table ++ entries)).Nodup) : table.putAll entries = table ++ entries := by
  induction entries generalizing table with
  | nil => exact (List.append_nil _).symm
  | cons entry entries ih =>
    have hnew : entry.1 ∉ table.filters := by
      simp only [filters, List.map_append, List.map_cons] at h ⊢
      grind
    rw [List.append_cons] at h ⊢
    show (table.put entry.1 entry.2).putAll entries = _
    rw [put_of_notMem entry.2 hnew]
    exact ih _ h

/-- A list that is no longer than the table made of it has no filter twice. -/
theorem nodup_of_length_putAll {entries : List (String × ρ)}
    (h : entries.length ≤ (putAll [] entries).length) : (filters entries).Nodup := by
  have hnil : (filters ([] : Routes ρ)).Nodup := List.nodup_nil
  have hnodup : (filters (putAll [] entries)).Nodup := by
    rw [← changeAll_puts]
    exact nodup_filters_changeAll hnil _
  have hsub : filters (putAll [] entries) ⊆ filters entries := by
    intro f hf
    simpa [filters] using (mem_filters_putAll entries [] f).1 hf
  have hperm : (filters (putAll [] entries)).Perm (filters entries) :=
    (List.subperm_of_subset hnodup hsub).perm_of_length_le (by simpa [filters] using h)
  exact hperm.nodup_iff.1 hnodup

end Routes

/-! ## Accepted operations -/

namespace Operation

/-- The subscriptions after an operation, a filter as often as it was subscribed. -/
def enlist (subscriptions : List (String × ρ)) : Operation ρ → List (String × ρ)
  | subscribe topic _ onMessage _ => subscriptions ++ [(topic, onMessage)]
  | subscribeMany topics _ _ => subscriptions ++ topics
  | unsubscribe topic _ => subscriptions.filter fun e => e.1 ≠ topic
  | publish .. => subscriptions

/-- A table follows a list of subscriptions through an operation. -/
theorem changeAll_putAll (op : Operation ρ) (subscriptions : List (String × ρ)) :
    (Routes.putAll [] subscriptions).changeAll op.changes =
      Routes.putAll [] (op.enlist subscriptions) := by
  cases op with
  | subscribe topic qos onMessage onAck =>
    exact (Routes.putAll_append [] subscriptions [(topic, onMessage)]).symm
  | subscribeMany topics qos onAck =>
    rw [changes, Routes.changeAll_puts]
    exact (Routes.putAll_append [] subscriptions topics).symm
  | unsubscribe topic onAck => exact Routes.erase_putAll ..
  | publish topic qos retain payload onAck => rfl

/-- A table follows a list of subscriptions through any operations. -/
theorem changeAll_flatMap (ops : List (Operation ρ)) :
    Routes.changeAll [] (ops.flatMap changes) = Routes.putAll [] (ops.foldl enlist []) := by
  induction ops using List.reverseRecOn with
  | nil => rfl
  | append_singleton ops op ih =>
    rw [List.flatMap_append, Routes.changeAll_append, ih, List.flatMap_singleton,
      changeAll_putAll, List.foldl_append]
    rfl

/-- The operations among some that are not publishes. -/
def routing (ops : List (Operation ρ)) : List (Operation ρ) :=
  ops.filter fun op => op.kind ≠ .publish

/-- Publishing has no part in the subscriptions. -/
theorem foldl_enlist_routing (ops : List (Operation ρ)) (subscriptions : List (String × ρ)) :
    (routing ops).foldl enlist subscriptions = ops.foldl enlist subscriptions := by
  induction ops generalizing subscriptions with
  | nil => rfl
  | cons op ops ih => cases op <;> exact ih _

end Operation

end DeviceLink.Link

namespace DeviceLink.Simulated

open Mqtt
open Link (Operation Routes)

variable {ρ : Type}

/-! ## A simulated connection in the course of time -/

namespace Connection

/-- The connection after an operation, and its id if it was accepted. -/
def perform (c : Connection ρ) (faults : Faults) : Operation ρ → Connection ρ × Option ℕ
  | .subscribe topic qos onMessage onAck => c.subscribe faults topic qos onMessage onAck
  | .subscribeMany topics qos onAck => c.subscribeMany faults topics qos onAck
  | .unsubscribe topic onAck => c.unsubscribe faults topic onAck
  | .publish topic qos retain payload onAck => c.publish faults topic qos retain payload onAck

/-- An accepted operation is enlisted, and a refused one changes no subscription. -/
theorem subscriptions_perform (c : Connection ρ) (faults : Faults) (op : Operation ρ) :
    (c.perform faults op).1.subscriptions =
      if (c.perform faults op).2.isSome then op.enlist c.subscriptions else c.subscriptions := by
  cases op with
  | subscribe topic qos onMessage onAck =>
    simp only [perform, subscribe]
    split <;> rfl
  | subscribeMany topics qos onAck =>
    simp only [perform, subscribeMany]
    split
    · rfl
    · split <;> rfl
  | unsubscribe topic onAck =>
    simp only [perform, unsubscribe]
    split <;> rfl
  | publish topic qos retain payload onAck =>
    simp only [perform, publish]
    split <;> rfl

end Connection

/-- What may happen to a simulated connection, under the faults in force. -/
inductive Act (ρ : Type)
  | perform (faults : Faults) (op : Operation ρ)
  | connect (faults : Faults) (options : ConnectOptions)
  | setHandlers (lifecycle : Lifecycle ρ)
  | disconnect
  | ack (id : ℕ) (code : Int)
  | ackAll (code : Int)

/-- A simulated connection and the operations it has accepted, in order. -/
structure Trail (ρ : Type) where
  connection : Connection ρ
  granted : List (Operation ρ) := []

namespace Trail

/-- The trail after one more act. -/
def act (t : Trail ρ) : Act ρ → Trail ρ
  | .perform faults op =>
    let (connection, answer) := t.connection.perform faults op
    ⟨connection, if answer.isSome then t.granted ++ [op] else t.granted⟩
  | .connect faults options => { t with connection := (t.connection.connect faults options).1 }
  | .setHandlers lifecycle => { t with connection := t.connection.setHandlers lifecycle }
  | .disconnect => { t with connection := t.connection.disconnect.1 }
  | .ack id code => { t with connection := (t.connection.ack id code).1 }
  | .ackAll code => { t with connection := (t.connection.ackAll code).1 }

/-- The trail after some acts. -/
def after (t : Trail ρ) (acts : List (Act ρ)) : Trail ρ := acts.foldl act t

theorem subscriptions_act {t : Trail ρ}
    (h : t.connection.subscriptions = t.granted.foldl Operation.enlist []) (a : Act ρ) :
    (t.act a).connection.subscriptions = (t.act a).granted.foldl Operation.enlist [] := by
  cases a with
  | perform faults op =>
    simp only [act, t.connection.subscriptions_perform faults op, h]
    split
    · rw [List.foldl_append]
      rfl
    · rfl
  | connect faults options =>
    simp only [act, Connection.connect]
    split <;> exact h
  | setHandlers lifecycle => exact h
  | disconnect => exact h
  | ack id code =>
    simp only [act, Connection.ack]
    split <;> exact h
  | ackAll code => exact h

/-- The subscriptions are those of the accepted operations. -/
theorem subscriptions_after {c : Connection ρ} (h : c.subscriptions = []) (acts : List (Act ρ)) :
    (Trail.after { connection := c } acts).connection.subscriptions =
      (Trail.after { connection := c } acts).granted.foldl Operation.enlist [] := by
  have hkept : ∀ t : Trail ρ, t.connection.subscriptions = t.granted.foldl Operation.enlist [] →
      (t.after acts).connection.subscriptions =
        (t.after acts).granted.foldl Operation.enlist [] := by
    induction acts with
    | nil => exact fun t ht => ht
    | cons a acts ih => exact fun t ht => ih _ (subscriptions_act ht a)
  exact hkept _ h

end Trail

/-! ## The same calls on both -/

/-- The subscriptions whose filters match a topic, in order. -/
def Connection.matching (c : Connection ρ) (topic : String) : List (String × ρ) :=
  c.subscriptions.filter fun e => Topic.matchesFilter e.1 topic

/-- A message for each of some subscriptions. -/
def forwarded (entries : List (String × ρ)) (m : Message) : List (Delivery ρ) :=
  entries.map fun e => ⟨e.2, .message m⟩

theorem length_forwarded (entries : List (String × ρ)) (m : Message) :
    (forwarded entries m).length = entries.length := List.length_map ..

/-- The routes of a link that has accepted the same subscriptions and removals of them. -/
theorem routes_of_granted {c : Link.Connection ρ} {d : Connection ρ} (hc : c.routes = [])
    (hd : d.subscriptions = []) (acts : List (Link.Act ρ)) (acts' : List (Act ρ))
    (hsame : Operation.routing (Link.Trail.after { link := c } acts).granted =
      Operation.routing (Trail.after { connection := d } acts').granted) :
    (Link.Trail.after { link := c } acts).link.routes =
      Routes.putAll [] (Trail.after { connection := d } acts').connection.subscriptions := by
  rw [Link.Trail.routes_after hc, Link.Trail.changes, Operation.changeAll_flatMap,
    ← Operation.foldl_enlist_routing, hsame, Operation.foldl_enlist_routing,
    Trail.subscriptions_after hd]

/-- After the same accepted subscriptions and removals of them, in the same order, whatever else
happened to either, the link has of the simulated connection's subscriptions each filter once, in
its first place and with its last receiver. A message reaches the same receivers, as often and in
the same order, exactly if no filter that matches its topic stands in the simulated connection's
list twice. -/
theorem deliveries_agree_iff_once {c : Link.Connection ρ} {d : Connection ρ} (hc : c.routes = [])
    (hd : d.subscriptions = []) (acts : List (Link.Act ρ)) (acts' : List (Act ρ))
    (hsame : Operation.routing (Link.Trail.after { link := c } acts).granted =
      Operation.routing (Trail.after { connection := d } acts').granted) (m : Message) :
    let link := (Link.Trail.after { link := c } acts).link
    let simulated := (Trail.after { connection := d } acts').connection
    simulated.receive m = forwarded (simulated.matching m.topic) m ∧
      (link.react (.incoming (.publish m))).2 =
        forwarded (Routes.putAll [] (simulated.matching m.topic)) m ∧
      ((link.react (.incoming (.publish m))).2 = simulated.receive m ↔
        (simulated.filters.filter fun f => Topic.matchesFilter f m.topic).Nodup) := by
  intro link simulated
  have hroutes : link.routes = Routes.putAll [] simulated.subscriptions :=
    routes_of_granted hc hd acts acts' hsame
  have hreceive : simulated.receive m = forwarded (simulated.matching m.topic) m := rfl
  have hroute : (link.react (.incoming (.publish m))).2 =
      forwarded (Routes.putAll [] (simulated.matching m.topic)) m := by
    have hpicked := Routes.filter_putAll (Topic.matchesFilter · m.topic) simulated.subscriptions []
    show (link.routes.receivers m.topic).map _ = _
    rw [Routes.receivers, hroutes, hpicked, List.map_map]
    rfl
  have hfilters : simulated.filters.filter (fun f => Topic.matchesFilter f m.topic) =
      Routes.filters (simulated.matching m.topic) := by
    rw [Connection.filters, List.filter_map]
    rfl
  refine ⟨hreceive, hroute, ?_⟩
  rw [hreceive, hroute, hfilters]
  constructor
  · intro heq
    have hlength := congrArg List.length heq
    rw [length_forwarded, length_forwarded] at hlength
    exact Routes.nodup_of_length_putAll (Nat.le_of_eq hlength.symm)
  · intro hnodup
    have hsame := Routes.putAll_of_nodup (simulated.matching m.topic) [] hnodup
    rw [hsame, List.nil_append]

/-- Several filters that match one topic, each subscribed once, reach the same receivers in the
same order on both. -/
theorem deliveries_agree_overlapping :
    let config : Config := ⟨"broker", some 1883, .password "user" "word", none, false⟩
    let c : Link.Connection ℕ :=
      { config, client := true, loop := some { options := ⟨"device", true, 30, 3000⟩ } }
    let d : Connection ℕ := { config }
    let m : Message := ⟨"t/a", [1, 2], false, .atLeastOnce, true⟩
    let ops : List (Operation ℕ) :=
      [.subscribe "t/a" .atLeastOnce 1 0, .unsubscribe "t/a" 0,
        .subscribeMany [("t/+", 2), ("t/a", 3)] .atLeastOnce 0]
    let link := (Link.Trail.after { link := c } (ops.map .perform)).link
    let simulated := (Trail.after { connection := d } (ops.map (.perform []))).connection
    (link.react (.incoming (.publish m))).2 = simulated.receive m ∧
      simulated.receive m = [⟨2, .message m⟩, ⟨3, .message m⟩] := by
  intro config c d m ops link simulated
  have hagree := deliveries_agree_iff_once (c := c) (d := d) rfl rfl (ops.map .perform)
    (ops.map (.perform [])) (by rfl) m
  exact ⟨hagree.2.2.2 (by decide), by decide⟩

/-- A filter that both accept twice: the link tells the later receiver alone, the simulated
connection both. -/
theorem resubscribed_delivered_twice :
    let config : Config := ⟨"broker", some 1883, .password "user" "word", none, false⟩
    let c : Link.Connection ℕ :=
      { config, client := true, loop := some { options := ⟨"device", true, 30, 3000⟩ } }
    let d : Connection ℕ := { config }
    let m : Message := ⟨"t", [1, 2], false, .atLeastOnce, false⟩
    let ops : List (Operation ℕ) :=
      [.subscribe "t" .atLeastOnce 1 0, .subscribe "t" .atLeastOnce 2 0]
    let link := Link.Trail.after { link := c } (ops.map .perform)
    let simulated := Trail.after { connection := d } (ops.map (.perform []))
    link.granted = ops ∧ simulated.granted = ops ∧
      (link.link.react (.incoming (.publish m))).2 = [⟨2, .message m⟩] ∧
      simulated.connection.receive m = [⟨1, .message m⟩, ⟨2, .message m⟩] :=
  ⟨rfl, rfl, by decide, by decide⟩

end DeviceLink.Simulated
