/-!
# Arguments of a command line

An argument is a long option, which may have a value attached, a group of short options, the
mark after which no argument is an option, or any other text.
-/

namespace BuildFleet

/-- One argument. -/
inductive Argument where
  /-- Two dashes: no option follows. -/
  | endOfOptions
  /-- Two dashes and a name, perhaps with an equals sign and a value. -/
  | long (name : String) (value : Option String)
  /-- One dash and a letter, perhaps with more letters. -/
  | short (letter : Char) (more : List Char)
  /-- Any other text. -/
  | plain (text : String)
  deriving DecidableEq, Repr

/-- The text before and after the first equals sign. -/
def splitValue : List Char → List Char × Option (List Char)
  | [] => ([], none)
  | c :: rest =>
    if c = '=' then ([], some rest)
    else
      let (name, value) := splitValue rest
      (c :: name, value)

/-- Tells what kind of argument a text is. -/
def Argument.ofText (s : String) : Argument :=
  match s.toList with
  | ['-', '-'] => endOfOptions
  | '-' :: '-' :: rest =>
    let (name, value) := splitValue rest
    long (String.ofList name) (value.map String.ofList)
  | '-' :: letter :: more => short letter more
  | _ => plain s

/-- Why a command line is refused. -/
inductive UsageError where
  /-- An option without the value that it needs, or with one that is none of its few. -/
  | invalidValue (option : String)
  /-- An option with a value that is out of its range or not of its form. -/
  | malformedValue (option value : String)
  /-- An argument that means nothing. -/
  | unknownArgument (text : String)
  /-- An option that is given twice. -/
  | repeated (option : String)
  /-- A value for an option that takes none. -/
  | unexpectedValue (option value : String)
  deriving DecidableEq, Repr

/-- What is wrong with a command line. -/
def UsageError.message : UsageError → String
  | invalidValue option => "error: invalid or missing value for '" ++ option ++ "'"
  | malformedValue option value => "error: invalid value '" ++ value ++ "' for '" ++ option ++ "'"
  | unknownArgument text => "error: unexpected argument '" ++ text ++ "' found"
  | repeated option =>
    "error: the argument '" ++ option ++ "' cannot be used multiple times"
  | unexpectedValue option value =>
    "error: unexpected value '" ++ value ++ "' for '" ++ option ++ "' found"

end BuildFleet
