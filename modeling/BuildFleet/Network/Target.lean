import BuildFleet.Dict
import BuildFleet.Text.Pieces

/-!
# Targets of requests

The target of an HTTP request is a path and, after a question mark, a query of parameters.
`ofText?` reads a target; what follows a number sign does not belong to it. Paths and queries
are kept as they are spelled: nothing is decoded. `parameter` spells a parameter so that its
name and value can hold any character.
-/

namespace BuildFleet

/-- What a request is about. -/
structure RequestTarget where
  /-- The path. -/
  path : String
  /-- The parameters of the query, as they are spelled. -/
  query : Dict String

namespace RequestTarget

/-- How many bytes a target may have. -/
def maxSize : Nat := 65534

/-- A character that both a path and a query may hold: no blank, no control character of
ASCII, and no angle bracket. -/
def isTargetChar (c : Char) : Bool := ' ' < c && c != '\x7f' && c != '<' && c != '>'

/-- A character that a path may hold. -/
def isPathChar (c : Char) : Bool := isTargetChar c && c != '`'

/-- A character that a query may hold. -/
def isQueryChar (c : Char) : Bool := isTargetChar c && c != '"'

/-- The parameters of a query; a part without a sign of equality is none, and the last one of
a name counts. -/
def readQuery (cs : List Char) : Dict String :=
  Dict.ofList (((Text.pieces '&' cs).filterMap (Text.cut? '=')).map fun (name, value) =>
    (String.ofList name, String.ofList value))

/-- Reads a target. -/
def ofText? (s : String) : Option RequestTarget :=
  let cs := s.toList.takeWhile (· != '#')
  let (path, query) := (Text.cut? '?' cs).getD (cs, [])
  if maxSize < s.utf8ByteSize ∨ ¬ path.all isPathChar ∨ ¬ query.all isQueryChar then none
  else some ⟨String.ofList path, readQuery query⟩

/-- A character that stands for itself in a parameter. -/
def isPlain (c : Char) : Bool :=
  c.isAlphanum || c == '*' || c == '-' || c == '.' || c == '_'

/-- A byte as a percent sign and two hexadecimal digits in upper case. -/
def encodeByte (b : UInt8) : List Char :=
  '%' :: [b.toNat / 16, b.toNat % 16].map fun n => (Nat.digitChar n).toUpper

/-- A character in a parameter: a space is a plus sign, and every byte of a character that
does not stand for itself is written as its number. -/
def encodeChar (c : Char) : List Char :=
  if isPlain c then [c]
  else if c = ' ' then ['+']
  else (String.utf8EncodeChar c).flatMap encodeByte

/-- A text in a parameter. -/
def encode (s : String) : String := String.ofList (s.toList.flatMap encodeChar)

/-- A parameter of a query. -/
def parameter (name value : String) : String := encode name ++ "=" ++ encode value

end RequestTarget

end BuildFleet
