/-!
# Characters, strings and keys of TOML

The lexical part of TOML 1.0. Each reader takes the characters that are left and gives back
what it read and the rest, or nothing if the grammar is broken. The number of characters
bounds every loop.
-/

namespace BuildFleet.Toml

/-- A space or tab. -/
def isBlank (c : Char) : Bool := c == ' ' || c == '\t'

/-- A character that can stand in a comment or, quotes and backslashes apart, in a string: a
tab or any character that is not a control character of ASCII. -/
def isContent (c : Char) : Bool :=
  c == '\t' || (0x20 ≤ c.toNat && c.toNat ≠ 0x7F)

/-- The text after spaces and tabs. -/
def skipBlanks (cs : List Char) : List Char := cs.dropWhile isBlank

/-- The text after the end of a line, which is a line feed with or without a carriage return
before it. -/
def newline? : List Char → Option (List Char)
  | '\n' :: rest => some rest
  | '\r' :: '\n' :: rest => some rest
  | _ => none

/-- The text after a comment, if one starts here. -/
def skipComment : List Char → List Char
  | '#' :: rest => rest.dropWhile isContent
  | cs => cs

/-- The text after blanks, a comment, and the end of the line or of the document. -/
def lineEnd? (cs : List Char) : Option (List Char) :=
  match skipComment (skipBlanks cs) with
  | [] => some []
  | cs => newline? cs

/-- The text after any blanks, comments and ends of lines; none if a comment is broken off. -/
def skipLines : Nat → List Char → Option (List Char)
  | 0, _ => none
  | fuel + 1, cs =>
    match skipBlanks cs with
    | '#' :: rest => (newline? (rest.dropWhile isContent)).bind (skipLines fuel)
    | cs =>
      match newline? cs with
      | some rest => skipLines fuel rest
      | none => some cs

/-- The value of a hexadecimal digit. -/
def hexDigit? (c : Char) : Option Nat :=
  if c.isDigit then some (c.toNat - '0'.toNat)
  else if 'a' ≤ c ∧ c ≤ 'f' then some (c.toNat - 'a'.toNat + 10)
  else if 'A' ≤ c ∧ c ≤ 'F' then some (c.toNat - 'A'.toNat + 10)
  else none

/-- The character with a number of so many hexadecimal digits; halves of characters are none. -/
def codePoint? (width : Nat) (cs : List Char) : Option (Char × List Char) := do
  let ds ← (cs.take width).mapM hexDigit?
  let n := ds.foldl (fun n d => n * 16 + d) 0
  if ds.length = width ∧ (n < 0xD800 ∨ (0xE000 ≤ n ∧ n < 0x110000)) then
    return (Char.ofNat n, cs.drop width)
  else none

/-- The character that an escape stands for, after its backslash. -/
def escape? : List Char → Option (Char × List Char)
  | 'b' :: rest => some ('\x08', rest)
  | 't' :: rest => some ('\t', rest)
  | 'n' :: rest => some ('\n', rest)
  | 'f' :: rest => some ('\x0c', rest)
  | 'r' :: rest => some ('\r', rest)
  | '"' :: rest => some ('"', rest)
  | '\\' :: rest => some ('\\', rest)
  | 'u' :: rest => codePoint? 4 rest
  | 'U' :: rest => codePoint? 8 rest
  | _ => none

/-- A string on one line, after its opening quote. Characters are collected in reverse. -/
def basicString? (acc : List Char) : Nat → List Char → Option (String × List Char)
  | 0, _ => none
  | _ + 1, [] => none
  | _ + 1, '"' :: rest => some (String.ofList acc.reverse, rest)
  | fuel + 1, '\\' :: rest => (escape? rest).bind fun (c, rest) => basicString? (c :: acc) fuel rest
  | fuel + 1, c :: rest => if isContent c then basicString? (c :: acc) fuel rest else none

/-- A string without escapes on one line, after its opening quote. -/
def literalString? (cs : List Char) : Option (String × List Char) :=
  let inside := cs.takeWhile fun c => isContent c && c != '\''
  match cs.drop inside.length with
  | '\'' :: rest => some (String.ofList inside, rest)
  | _ => none

/-- The text after a backslash at the end of a line: blanks, the end of the line, and all
blanks and ends of lines that follow. -/
def lineContinuation? (cs : List Char) : Option (List Char) :=
  (newline? (skipBlanks cs)).map fun rest => go rest.length rest
where
  /-- The text after blanks and ends of lines. -/
  go : Nat → List Char → List Char
    | 0, cs => cs
    | fuel + 1, cs =>
      match newline? (skipBlanks cs) with
      | some rest => go fuel rest
      | none => skipBlanks cs

/-- A string over several lines, after its opening quotes; an end of line directly after those
does not belong to it. Three quotes close it, and one or two more before them belong to it.
Characters are collected in reverse. -/
def multiline? (quote : Char) (escapes : Bool) (cs : List Char) : Option (String × List Char) :=
  go [] (cs.length + 1) ((newline? cs).getD cs)
where
  /-- The rest of the string. -/
  go (acc : List Char) : Nat → List Char → Option (String × List Char)
    | 0, _ => none
    | _ + 1, [] => none
    | fuel + 1, c :: rest =>
      if c = quote then
        let run := 1 + (rest.takeWhile (· == quote)).length
        if run < 3 then go (c :: acc) fuel rest
        else
          let own := min run 5 - 3
          some (String.ofList (List.replicate own quote ++ acc).reverse, rest.drop (own + 2))
      else if c = '\\' ∧ escapes then
        match lineContinuation? rest with
        | some rest => go acc fuel rest
        | none => (escape? rest).bind fun (c, rest) => go (c :: acc) fuel rest
      else if isContent c then go (c :: acc) fuel rest
      else (newline? (c :: rest)).bind (go ('\n' :: acc) fuel)

/-- A string value. -/
def stringValue? (cs : List Char) : Option (String × List Char) :=
  match cs with
  | '"' :: '"' :: '"' :: rest => multiline? '"' true rest
  | '\'' :: '\'' :: '\'' :: rest => multiline? '\'' false rest
  | '"' :: rest => basicString? [] (cs.length + 1) rest
  | '\'' :: rest => literalString? rest
  | _ => none

/-- A character of a key without quotes. -/
def isKeyChar (c : Char) : Bool := c.isAlphanum || c == '_' || c == '-'

/-- One part of a key. -/
def simpleKey? (cs : List Char) : Option (String × List Char) :=
  match cs with
  | '"' :: rest => basicString? [] (cs.length + 1) rest
  | '\'' :: rest => literalString? rest
  | _ =>
    let inside := cs.takeWhile isKeyChar
    if inside.isEmpty then none else some (String.ofList inside, cs.drop inside.length)

/-- How many parts a key may have, and how deep values may nest. -/
def depthLimit : Nat := 79

/-- The parts of a key, with points between them and blanks around each. -/
def keyParts? : Nat → List Char → Option (List String × List Char)
  | 0, _ => none
  | fuel + 1, cs => do
    let (part, rest) ← simpleKey? (skipBlanks cs)
    match skipBlanks rest with
    | '.' :: rest =>
      let (parts, rest) ← keyParts? fuel rest
      return (part :: parts, rest)
    | rest => return ([part], rest)

/-- A key: the path to the table it speaks of, and the name in that table. -/
def key? (cs : List Char) : Option ((List String × String) × List Char) := do
  let (parts, rest) ← keyParts? (cs.length + 1) cs
  if depthLimit < parts.length then none
  let last ← parts.getLast?
  return ((parts.dropLast, last), rest)

end BuildFleet.Toml
