/-
Splitting a text at a separator, and moving the lines of a text to the right.
-/

namespace ShowControl.Text

/-- The pieces of a text between separators; there is always at least one. -/
def pieces (separator : Char) : List Char → List (List Char)
  | [] => [[]]
  | c :: r =>
    if c == separator then [] :: pieces separator r
    else
      match pieces separator r with
      | [] => [[c]]
      | piece :: rest => (c :: piece) :: rest

/-- The pieces that are not empty. -/
def filledPieces (separator : Char) (s : List Char) : List (List Char) :=
  (pieces separator s).filter (! ·.isEmpty)

/-- A text with a margin in front of all its lines but the first. -/
def hanging (margin : List Char) (s : List Char) : List Char :=
  s.flatMap fun c => if c == '\n' then c :: margin else [c]

end ShowControl.Text
