/-!
# Texts in pieces

A text that a mark divides into pieces, of which there is always one more than there are marks.
Texts are lists of characters here.
-/

namespace BuildFleet.Text

/-- The pieces between the marks. -/
def pieces (mark : Char) : List Char → List (List Char)
  | [] => [[]]
  | c :: rest =>
    if c = mark then [] :: pieces mark rest
    else match pieces mark rest with
      | [] => [[c]]
      | piece :: others => (c :: piece) :: others

/-- What is before the first mark and what is after it; none if there is no mark. -/
def cut? (mark : Char) : List Char → Option (List Char × List Char)
  | [] => none
  | c :: rest =>
    if c = mark then some ([], rest)
    else (cut? mark rest).map fun (before, after) => (c :: before, after)

end BuildFleet.Text
