import DeviceLink.Mqtt.Topic
/-!
# Routes

The table that says who gets the messages of a topic: filters with their receivers, each
filter once, in the order they were first subscribed.
-/

namespace DeviceLink.Link

open Mqtt

/-- Filters and their receivers. -/
abbrev Routes (ρ : Type) := List (String × ρ)

namespace Routes

variable {ρ : Type}

/-- The table with a receiver for a filter: in the place of an earlier one, or at the end. -/
def put (filter : String) (receiver : ρ) : Routes ρ → Routes ρ
  | [] => [(filter, receiver)]
  | (f, old) :: rest =>
    if f = filter then (f, receiver) :: rest else (f, old) :: put filter receiver rest

/-- The table with several filters put in order. -/
def putAll (table : Routes ρ) (entries : List (String × ρ)) : Routes ρ :=
  entries.foldl (fun table entry => put entry.1 entry.2 table) table

/-- The table without a filter. -/
def erase (table : Routes ρ) (filter : String) : Routes ρ :=
  List.filter (fun entry => entry.1 ≠ filter) table

/-- The receivers for a topic, in the order of the table. -/
def receivers (table : Routes ρ) (topic : String) : List ρ :=
  (List.filter (fun entry => Topic.matchesFilter entry.1 topic) table).map (·.2)

end Routes

end DeviceLink.Link
