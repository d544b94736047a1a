import DeviceLink.Link.Connection
/-!
# What changes the routes

Subscribing puts its filters into the table if the request was accepted. Nothing that the event
loop tells changes the table.
-/

namespace DeviceLink.Link

open Mqtt

variable {ρ : Type}

namespace Routes

theorem mem_filters_put (filter : String) (receiver : ρ) (table : Routes ρ) (f : String) :
    f ∈ (table.put filter receiver).map (·.1) ↔ f = filter ∨ f ∈ table.map (·.1) := by
  induction table with
  | nil => simp [put]
  | cons entry table ih =>
    obtain ⟨g, old⟩ := entry
    by_cases hg : g = filter
    · simp [put, hg]
    · simp only [put, hg, if_false, List.map_cons, List.mem_cons, ih]
      exact or_left_comm

/-- The filters of a table are those it had and those that were put into it. -/
theorem mem_filters_putAll (entries : List (String × ρ)) (table : Routes ρ) (f : String) :
    f ∈ (table.putAll entries).map (·.1) ↔ f ∈ entries.map (·.1) ∨ f ∈ table.map (·.1) := by
  induction entries generalizing table with
  | nil => simp [putAll]
  | cons entry entries ih =>
    show f ∈ ((table.put entry.1 entry.2).putAll entries).map (·.1) ↔ _
    rw [ih, mem_filters_put, List.map_cons, List.mem_cons, or_left_comm, or_assoc]

end Routes

namespace Connection

variable (c : Connection ρ)

theorem routes_submit (kind : Kind) (qos : Qos) (completion : Completion) (onAck : ρ)
    (command : Command) : (c.submit kind qos completion onAck command).1.routes = c.routes := by
  unfold submit
  split
  · rfl
  · split
    · rfl
    · dsimp only
      split <;> rfl

theorem routes_subscribeMany (topics : List (String × ρ)) (qos : Qos) (onAck : ρ) :
    (c.subscribeMany topics qos onAck).1.routes =
      if (c.subscribeMany topics qos onAck).2.isSome then c.routes.putAll topics
      else c.routes := by
  unfold subscribeMany
  split
  · rfl
  · split
    · rfl
    · simp only [routed]
      split <;> simp_all [routes_submit]

theorem routes_incoming (packet : Packet) : (c.incoming packet).1.routes = c.routes := by
  cases packet <;> rfl

/-- No poll of the event loop changes the routes. -/
theorem routes_react (poll : Poll) : (c.react poll).1.routes = c.routes := by
  cases poll with
  | incoming packet => exact c.routes_incoming packet
  | outgoing packet => cases packet <;> rfl
  | failed f =>
    simp only [react]
    split
    · rfl
    · split <;> rfl

theorem routes_connect (options : ConnectOptions) : (c.connect options).1.routes = c.routes := by
  unfold connect
  split
  · rfl
  · split <;> rfl

theorem routes_disconnect : c.disconnect.1.routes = c.routes := by
  unfold disconnect
  split
  · rfl
  · split <;> rfl

end Connection

end DeviceLink.Link
