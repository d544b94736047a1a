/-!
# Optional fields

A field that a message may leave out is an `Option`. `overlay` writes present values over a
field; `presentNames` lists the fields that are there.
-/

namespace DeviceLink

/-- The new value of a field when one is present, else the old one. -/
def overlay {α : Type} (target source : Option α) : Option α :=
  match source with
  | some value => some value
  | none => target

/-- The values of a field after each of several overlays. -/
def overlays {α : Type} (target : Option α) : List (Option α) → List (Option α)
  | [] => []
  | source :: rest => overlay target source :: overlays (overlay target source) rest

/-- The names of the fields that are present, in the order given. -/
def presentNames (fields : List (String × Bool)) : List String :=
  (fields.filter (·.2)).map (·.1)

end DeviceLink
