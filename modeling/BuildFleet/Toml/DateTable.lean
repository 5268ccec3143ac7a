import BuildFleet.Toml.Scalar
import BuildFleet.Toml.Tables

/-!
# Tables that stand for dates

Where a value is expected, a table whose first key is `dateKey` stands for a date. Its value
must then be a string that spells a date or a time the way the document itself would, and what
else the table holds does not matter. The whole document is no value: its own keys are free.
-/

namespace BuildFleet.Toml

/-- The first key of a table that stands for a date. -/
def dateKey : String := "$__toml_private_datetime"

/-- Whether a string spells a date, a time or both, and nothing else. -/
def isDateText (s : String) : Bool := (dateTime? s.toList).any List.isEmpty

mutual

/-- Whether every table in a value that stands for a date spells one. -/
def Node.isReadable : Node → Bool
  | .text _ => true
  | .scalar => true
  | .list items => itemsReadable items
  | .inline entries => tableReadable entries
  | .table _ _ entries => tableReadable entries
  | .tables earlier last => tablesReadable earlier && tableReadable last

/-- The same for each value of a list. -/
def itemsReadable : List Node → Bool
  | [] => true
  | n :: rest => n.isReadable && itemsReadable rest

/-- The same for each table of a list. -/
def tablesReadable : List (List (String × Node)) → Bool
  | [] => true
  | entries :: rest => tableReadable entries && tablesReadable rest

/-- The same for a table. -/
def tableReadable : List (String × Node) → Bool
  | [] => true
  | (k, n) :: rest =>
    if k = dateKey then
      match n with
      | .text s => isDateText s
      | _ => false
    else n.isReadable && entriesReadable rest

/-- The same for each value of a table. -/
def entriesReadable : List (String × Node) → Bool
  | [] => true
  | (_, n) :: rest => n.isReadable && entriesReadable rest

end

end BuildFleet.Toml
