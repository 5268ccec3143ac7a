import BuildFleet.Json.Basic
import BuildFleet.Text.Pieces

/-!
# Places in a JSON value

A pointer names a place in a value: it is a text of segments, each after a slash, that lead
from the whole value to a part of it. A segment is the name of a member, with `~1` for a
slash and `~0` for a tilde, or the number of an item without leading zeros.
-/

namespace BuildFleet.Json

/-- A segment with its slashes and tildes restored. -/
def unescapeSegment : List Char → List Char
  | '~' :: '1' :: rest => '/' :: unescapeSegment rest
  | '~' :: '0' :: rest => '~' :: unescapeSegment rest
  | c :: rest => c :: unescapeSegment rest
  | [] => []

/-- The number of an item. -/
def itemIndex? (s : List Char) : Option Nat :=
  if s.isEmpty ∨ ¬ s.all Char.isDigit ∨ (s.head? = some '0' ∧ 1 < s.length) then none
  else some (s.foldl (fun n c => n * 10 + (c.toNat - '0'.toNat)) 0)

/-- The part of a value that a segment names. -/
def part? (segment : List Char) : Json → Option Json
  | obj fields => Entries.get? (String.ofList (unescapeSegment segment)) fields
  | arr items => (itemIndex? segment).bind fun i => items[i]?
  | _ => none

/-- The value at a place. -/
def at? (pointer : String) (j : Json) : Option Json :=
  match pointer.toList with
  | [] => some j
  | '/' :: rest => (Text.pieces '/' rest).foldlM (fun j segment => j.part? segment) j
  | _ => none

end BuildFleet.Json
