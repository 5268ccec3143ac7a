import BuildFleet.Entries

/-!
# What a TOML document defines

A document builds up nested tables. A table may be opened by a header (`[a.b]`), extended by
dotted keys (`a.b = 1`), or come into being on the way to either. The rules of TOML 1.0
forbid defining anything twice and reopening what is closed:

* a header opens a table that is new or has only been on the way of other headers;
* a header in double brackets adds a table to a list of tables, which nothing else may have
  made;
* a dotted key goes only through tables that no header has opened, and ends in one made by
  dotted keys;
* values, inline tables among them, are closed.

The keys of a table keep the order in which they were defined. A table that a header opens
comes last, also if it has been there before.
-/

namespace BuildFleet.Toml

/-- What a key of a table holds. -/
inductive Node where
  /-- A string. -/
  | text (s : String)
  /-- A number, a truth value, a date or a time. -/
  | scalar
  /-- A list of values. -/
  | list (items : List Node)
  /-- A table that is a value, which is closed. -/
  | inline (entries : List (String × Node))
  /-- A table: whether it came into being on the way to something else, whether dotted keys
  made it, and what it holds. -/
  | table (implicit dotted : Bool) (entries : List (String × Node))
  /-- A list of tables, of which only the last one can still grow. -/
  | tables (earlier : List (List (String × Node))) (last : List (String × Node))

/-- What a table holds. -/
abbrev Contents := List (String × Node)

namespace Contents

/-- Puts a node in place of the one under the key, or to the end. -/
def put (k : String) (n : Node) : Contents → Contents
  | [] => [(k, n)]
  | (k', n') :: rest => if k' = k then (k, n) :: rest else (k', n') :: put k n rest

/-- Puts a node to the end, instead of one under the key. -/
def putLast (k : String) (n : Node) (entries : Contents) : Contents :=
  Entries.filterKeys (· != k) entries ++ [(k, n)]

end Contents

/-- Changes the table at the end of a path, making the tables on the way. The flag says
whether the path is that of a dotted key; the change sees whether dotted keys made the
table. -/
def alter (dottedPath : Bool) (change : Bool → Contents → Option Contents) :
    List String → Bool → Contents → Option Contents
  | [], dotted, entries => change dotted entries
  | k :: path, _, entries =>
    match Entries.get? k entries with
    | none =>
      (alter dottedPath change path dottedPath []).map fun inner =>
        Contents.put k (.table true dottedPath inner) entries
    | some (.tables earlier last) =>
      (alter dottedPath change path false last).map fun inner =>
        Contents.put k (.tables earlier inner) entries
    | some (.table implicit dotted inner) =>
      if dottedPath ∧ ¬ implicit then none
      else (alter dottedPath change path dotted inner).map fun inner =>
        Contents.put k (.table implicit dotted inner) entries
    | some _ => none

/-- Gives a table a value under a dotted key. -/
def defineKey (path : List String) (name : String) (value : Node) (dotted : Bool)
    (entries : Contents) : Option Contents :=
  alter true (fun dotted entries =>
    if dotted = path.isEmpty ∨ (Entries.get? name entries).isSome then none
    else some (Contents.put name value entries)) path dotted entries

/-- Gives the table that a header opened a value under a dotted key. -/
def defineIn (header path : List String) (name : String) (value : Node) (root : Contents) :
    Option Contents :=
  alter false (fun dotted entries => defineKey path name value dotted entries) header false root

/-- Opens a table. -/
def openTable (path : List String) (name : String) (root : Contents) : Option Contents :=
  alter false (fun _ entries =>
    match Entries.get? name entries with
    | none => some (Contents.putLast name (.table false false []) entries)
    | some (.table true false inner) =>
      some (Contents.putLast name (.table false false inner) entries)
    | some _ => none) path false root

/-- Adds a table to a list of tables. -/
def appendTable (path : List String) (name : String) (root : Contents) : Option Contents :=
  alter false (fun _ entries =>
    match Entries.get? name entries with
    | none => some (Contents.put name (.tables [] []) entries)
    | some (.tables earlier last) =>
      some (Contents.put name (.tables (earlier ++ [last]) []) entries)
    | some _ => none) path false root

end BuildFleet.Toml
