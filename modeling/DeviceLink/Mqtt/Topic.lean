/-!
# Topic filters

A topic and a filter are lists of levels between slashes. In a filter `+` stands for one
level and a last `#` for any number of them, none included; neither stands for a first level
that begins with `$`.
-/

namespace DeviceLink.Mqtt.Topic

/-- The levels of a topic or a filter; an empty text has one empty level. -/
def levelsFrom (level : List Char) : List Char → List (List Char)
  | [] => [level.reverse]
  | c :: rest => if c = '/' then level.reverse :: levelsFrom [] rest else levelsFrom (c :: level) rest

/-- The levels of a topic or a filter. -/
def levels (text : String) : List (List Char) := levelsFrom [] text.toList

/-- Whether the levels of a topic match those of a filter, read side by side. -/
def levelsMatch : List (List Char) → List (List Char) → Bool
  | ['#'] :: filter, _ => filter.isEmpty
  | f :: filter, t :: topic => (f = ['+'] || f = t) && levelsMatch filter topic
  | [], [] => true
  | _, _ => false

/-- Whether a text begins with a wildcard. -/
def startsWild (filter : String) : Bool :=
  match filter.toList with
  | c :: _ => c = '+' || c = '#'
  | [] => false

/-- Whether a topic is reserved, which no leading wildcard matches. -/
def isReserved (topic : String) : Bool :=
  match topic.toList with
  | c :: _ => c = '$'
  | [] => false

/-- Whether a topic matches a filter. -/
def matchesFilter (filter topic : String) : Bool :=
  if isReserved topic && startsWild filter then false
  else levelsMatch (levels filter) (levels topic)

/-- Whether a topic holds a wildcard character, which makes it unfit to publish to. -/
def hasWildcard (topic : String) : Bool := topic.toList.any fun c => c = '+' || c = '#'

end DeviceLink.Mqtt.Topic
