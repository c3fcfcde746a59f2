/-
Which log lines are shown.

A filter is a list of directives with commas between them.  Of the directives that fit a line the
most specific one decides: the one with the longest target, then one with a field, then the last
one.  Directives for spans and for values of fields are understood, but the program opens no span,
so they show nothing.  A filter without any directive shows errors alone.
-/
import ShowControl.CommandLine.Directive
import ShowControl.Text.Pieces

namespace ShowControl.CommandLine

/-- A filter. -/
structure LogFilter where
  directives : List Directive

namespace LogFilter

/-- The filter of a text whose directives are all well formed. -/
def read? (s : List Char) : Option LogFilter :=
  match (Text.filledPieces ',' s).mapM Directive.read with
  | .ok directives => some ⟨directives⟩
  | .error _ => none

/-- The filter of the well-formed directives of a text, and word about the others. -/
def readLossy (s : List Char) : LogFilter × List String :=
  let add (piece : List Char) (done : LogFilter × List String) : LogFilter × List String :=
    match Directive.read piece with
    | .ok d => (⟨d :: done.1.directives⟩, done.2)
    | .error fault =>
      (done.1, ("ignoring \x60" ++ String.ofList piece ++ "\x60: " ++ fault.message) :: done.2)
  (Text.filledPieces ',' s).foldr add (⟨[]⟩, [])

/-- How specific a directive is that fits a target: the targets that do so are told apart by their
lengths, and a field counts less than a target. -/
def weight (d : Directive) : Nat :=
  let target : Nat :=
    match d.target with
    | none => 0
    | some target => target.length + 1
  2 * target + if d.field.isSome then 1 else 0

/-- The directive that decides about the lines of a target. -/
def deciding? (f : LogFilter) (target : List Char) : Option Directive :=
  (f.directives.filter (Directive.fits target)).foldl
    (fun best d =>
      match best with
      | none => some d
      | some b => if weight b ≤ weight d then some d else best)
    none

/-- Whether lines of a level are shown for a target. -/
def shows (f : LogFilter) (target : List Char) (level : LogLevel) : Bool :=
  let most :=
    if f.directives.isEmpty then LogLevel.error
    else
      match f.deciding? target with
      | some d => d.level
      | none => .off
  level.rank ≤ most.rank

end LogFilter

end ShowControl.CommandLine
