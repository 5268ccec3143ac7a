import BuildFleet.Json.Printer

/-!
# Writing YAML documents

A JSON value is written as a YAML document in block style: each member of an object and each
item of a list has lines of its own. Members of an object in an object are indented by two
blanks; items of a list are not indented, and what is in an item starts behind its dash. A
text stands as it is if it cannot be taken for anything else, between single quotes
otherwise, and in a literal block if it has several lines.
-/

namespace BuildFleet.Yaml

/-- Characters that have a meaning at the start of a text. -/
def isIndicator (c : Char) : Bool := "-?:,[]{}#&*!|>'\"%@`".toList.contains c

/-- Words that are not texts when they stand as they are. -/
def reserved : List String := ["null", "~", "true", "false", "yes", "no", "on", "off", "y", "n"]

/-- Whether a colon or a number sign would end the text. -/
def breaksOff : List Char → Bool
  | [] => false
  | [c] => c == ':'
  | c :: d :: rest => (c == ':' && d == ' ') || (c == ' ' && d == '#') || breaksOff (d :: rest)

/-- Whether a character can only be written as in JSON. -/
def isControl (c : Char) : Bool := (c.toNat < 0x20 && c != '\n') || c.toNat == 0x7F

/-- Whether a text stands as it is. -/
def standsAlone (s : String) : Bool :=
  match s.toList with
  | [] => false
  | c :: rest =>
    !(isIndicator c || c.isDigit || c == '+' || c == '.' && (rest.headD ' ').isDigit || c == ' '
      || rest.getLastD c == ' ' || breaksOff (c :: rest)
      || reserved.contains (s.map Char.toLower))

/-- A text between single quotes, of which one inside is doubled. -/
def quote (s : String) : String :=
  "'" ++ String.ofList (s.toList.flatMap fun c => if c = '\'' then [c, c] else [c]) ++ "'"

/-- The lines of a text. -/
def textLines (s : String) : List String :=
  let step (c : Char) : List (List Char) → List (List Char)
    | [] => [[c]]
    | line :: rest => if c = '\n' then [] :: line :: rest else (c :: line) :: rest
  (s.toList.foldr step [[]]).map String.ofList

/-- Indents a line by two blanks unless it is empty. -/
def indentLine (line : String) : String := if line.isEmpty then line else "  " ++ line

/-- What stands after a name or a dash, and the lines below it. -/
structure Block where
  /-- What stands on the line of the name or dash. -/
  head : Option String
  /-- The lines below. -/
  below : List String

namespace Block

/-- A value on one line. -/
def flat (s : String) : Block := ⟨some s, []⟩

/-- A literal block, which ends in a line without a break or in one line break. -/
def ofLines (lines : List String) : Block :=
  if lines.getLast? = some "" then ⟨some "|", lines.dropLast.map indentLine⟩
  else ⟨some "|-", lines.map indentLine⟩

/-- Whether lines can be a literal block: the first is not empty and not indented, nor is
the last but one of a text that ends in a line break. -/
def isLiteral (lines : List String) : Bool :=
  (lines.headD "").toList.headD ' ' != ' '
    && !(lines.getLast? == some "" && lines.dropLast.getLast? == some "")

/-- A text in the plainest form that fits. -/
def ofText (s : String) : Block :=
  if s.any isControl then flat (Json.quote s)
  else
    match textLines s with
    | [_] => flat (if standsAlone s then s else quote s)
    | lines => if isLiteral lines then ofLines lines else flat (Json.quote s)

/-- The lines of a member of an object. -/
def member (name : String) (b : Block) : List String :=
  match b.head with
  | some h => (name ++ ": " ++ h) :: b.below
  | none => (name ++ ":") :: b.below

/-- The lines of an item of a list, the first of which stands behind the dash. -/
def item (b : Block) : List String :=
  match b.head, b.below with
  | some h, below => ("- " ++ h) :: below
  | none, [] => ["-"]
  | none, first :: rest => ("- " ++ first) :: rest.map indentLine

end Block

/-- The name of a member. -/
def nameText (name : String) : String :=
  if name.any fun c => isControl c || c == '\n' then Json.quote name
  else if standsAlone name then name
  else quote name

mutual

/-- The lines of a value. -/
def block : Json → Block
  | .str s => .ofText s
  | .arr [] => .flat "[]"
  | .obj [] => .flat "{}"
  | .arr (v :: rest) => ⟨none, itemLines (v :: rest)⟩
  | .obj (e :: rest) => ⟨none, memberLines (e :: rest)⟩
  | v => .flat v.render

/-- The lines of the items of a list. -/
def itemLines : List Json → List String
  | [] => []
  | v :: rest => (block v).item ++ itemLines rest

/-- The lines of the members of an object. An object below a name is indented, a list is not. -/
def memberLines : List (String × Json) → List String
  | [] => []
  | (name, v) :: rest =>
    let b := block v
    let below := match v with
      | .obj _ => b.below.map indentLine
      | _ => b.below
    Block.member (nameText name) { b with below } ++ memberLines rest

end

/-- The text of a document with one value. -/
def render (j : Json) : String :=
  let b := block j
  String.join ((b.head.toList ++ b.below).map fun line => line ++ "\n")

end BuildFleet.Yaml
