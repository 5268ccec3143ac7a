import BuildFleet.Toml.DateTable

/-!
# TOML documents

`isDocument` tells whether a text is a TOML 1.0 document: whether it follows the grammar,
whether its definitions go together, and whether the tables in it that stand for dates spell
dates. What the document says does not matter here.
-/

namespace BuildFleet.Toml

mutual

/-- A value that lies inside the given number of others. -/
def value? : Nat → Nat → List Char → Option (Node × List Char)
  | 0, _, _ => none
  | fuel + 1, depth, cs =>
    match cs with
    | '"' :: _ => (stringValue? cs).map fun (s, rest) => (.text s, rest)
    | '\'' :: _ => (stringValue? cs).map fun (s, rest) => (.text s, rest)
    | '[' :: rest => if depth < depthLimit then items? fuel (depth + 1) [] rest else none
    | '\x7b' :: rest =>
      if depth < depthLimit then
        match skipBlanks rest with
        | '\x7d' :: rest => some (.inline [], rest)
        | rest => pairs? fuel (depth + 1) [] rest
      else none
    | _ => (scalar? cs).map fun rest => (.scalar, rest)

/-- The items of a list up to its closing bracket; a comma may come after the last one. Items
are collected in reverse. -/
def items? : Nat → Nat → List Node → List Char → Option (Node × List Char)
  | 0, _, _, _ => none
  | fuel + 1, depth, acc, cs => do
    let cs ← skipLines (cs.length + 1) cs
    match cs with
    | ']' :: rest => return (.list acc.reverse, rest)
    | cs =>
      let (item, rest) ← value? fuel depth cs
      let rest ← skipLines (rest.length + 1) rest
      match rest with
      | ',' :: rest => items? fuel depth (item :: acc) rest
      | ']' :: rest => return (.list (item :: acc).reverse, rest)
      | _ => none

/-- The pairs of an inline table up to its closing brace. -/
def pairs? : Nat → Nat → Contents → List Char → Option (Node × List Char)
  | 0, _, _, _ => none
  | fuel + 1, depth, entries, cs => do
    let ((path, name), rest) ← key? cs
    match rest with
    | '=' :: rest =>
      let (value, rest) ← value? fuel depth (skipBlanks rest)
      let entries ← defineKey path name value false entries
      match skipBlanks rest with
      | ',' :: rest => pairs? fuel depth entries rest
      | '\x7d' :: rest => return (.inline entries, rest)
      | _ => none
    | _ => none

end

/-- A document being read: what it has defined so far, and the header that is open. -/
structure State where
  /-- What is defined. -/
  root : Contents := []
  /-- The path of the table that pairs go into. -/
  header : List String := []

/-- A header, after its first bracket. -/
def header? (s : State) (cs : List Char) : Option (State × List Char) :=
  match cs with
  | '[' :: rest => do
    let ((path, name), rest) ← key? rest
    match rest with
    | ']' :: ']' :: rest => return (⟨← appendTable path name s.root, path ++ [name]⟩, rest)
    | _ => none
  | rest => do
    let ((path, name), rest) ← key? rest
    match rest with
    | ']' :: rest => return (⟨← openTable path name s.root, path ++ [name]⟩, rest)
    | _ => none

/-- A pair of key and value. -/
def pair? (s : State) (cs : List Char) : Option (State × List Char) := do
  let ((path, name), rest) ← key? cs
  match rest with
  | '=' :: rest =>
    let (value, rest) ← value? (2 * cs.length + 2) 0 (skipBlanks rest)
    return ({ s with root := ← defineIn s.header path name value s.root }, rest)
  | _ => none

/-- Reads the lines of a document. -/
def lines? : Nat → State → List Char → Option State
  | 0, _, _ => none
  | fuel + 1, s, cs =>
    match skipBlanks cs with
    | [] => some s
    | '[' :: rest => do
      let (s, rest) ← header? s rest
      lines? fuel s (← lineEnd? rest)
    | c :: rest =>
      if c = '#' ∨ c = '\n' ∨ c = '\r' then (lineEnd? (c :: rest)).bind (lines? fuel s)
      else do
        let (s, rest) ← pair? s (c :: rest)
        lines? fuel s (← lineEnd? rest)

/-- Whether the text is a document. A byte order mark may come first. -/
def isDocument (text : String) : Bool :=
  let cs := match text.toList with
    | '\ufeff' :: rest => rest
    | cs => cs
  match lines? (cs.length + 1) {} cs with
  | some s => entriesReadable s.root
  | none => false

end BuildFleet.Toml
