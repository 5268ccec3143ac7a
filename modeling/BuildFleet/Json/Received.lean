import BuildFleet.Json.Parser
import BuildFleet.Json.Printer

/-!
# Values that are received

A value that is sent is written as a text, and whoever receives it reads the text. It arrives
as it was except for its binary64 numbers: the text of one determines it, but a reader of
numbers rounds twice and may end up next to it. All else of the value stays.
-/

namespace BuildFleet

/-- The number that is read from the text of a binary64 value. -/
def Binary64.received (x : Binary64) : Binary64 :=
  match Json.parse? (Json.floatText x) with
  | some (.float y) => y
  | _ => x

namespace Json

mutual

/-- The value that is read from the text of a value. -/
def received : Json → Json
  | float x => float x.received
  | arr items => arr (receivedItems items)
  | obj fields => obj (receivedFields fields)
  | null => null
  | bool b => bool b
  | int n => int n
  | str s => str s

/-- Every item as it is received. -/
def receivedItems : List Json → List Json
  | [] => []
  | v :: rest => v.received :: receivedItems rest

/-- Every member's value as it is received. -/
def receivedFields : List (String × Json) → List (String × Json)
  | [] => []
  | (k, v) :: rest => (k, v.received) :: receivedFields rest

end

end Json

end BuildFleet
