/-
What a cue means for the lights.

Two shapes of payload carry lighting intent.  A level cue has the id `lighting.level` and sets a
run of slots, counted from 1, to one level between 0 and 1.  Raw levels are a list of numbers from
0 to 255 under `levels`.  `handoffFor` turns either into a handoff; any other payload has none, and
neither has one for a universe that does not exist.  Show editors send numbers as texts too, so a
number may always be given as a text.
-/
import ShowControl.Lighting.Handoff

namespace ShowControl.Lighting

/-- The id that marks a level cue. -/
def levelCueId : String := "lighting.level"

/-- The universe of a cue that names none. -/
def standardUniverse : Int := 1

/-- The number under a name, cut to a signed 64-bit word. -/
def wordUnder? (args : Json) (name : String) : Option Int :=
  ((args.field? name).bind Json.finiteNumber?).map fun x => Number.saturate x.truncate

/-- The number `i`, moved into the range from `lo` to `hi`. -/
def clampTo (lo hi i : Int) : Int := max lo (min i hi)

/-- The bounds of the run that a level cue sets, for a run of `count` slots from slot `start`: how
many slots lie before it and how many before its end, slots outside the universe being dropped. -/
def run (start count : Int) : Int × Int :=
  let before := Number.saturate (start - 1)
  let first := clampTo 0 Handoff.channels before
  let last := clampTo first Handoff.channels (Number.saturate (before + max count 0))
  (first, last)

/-- The levels, from place `first` up to but not including place `last` set to one level.  Bounds
that are not in order or lead out of the list enclose no part of it. -/
def setPart? (levels : List Number.Extended) (first last : Int) (level : Number.Extended) :
    Option (List Number.Extended) :=
  if 0 ≤ first ∧ first ≤ last ∧ last ≤ levels.length then
    some (levels.take first.toNat ++
      (List.replicate (last - first).toNat level ++ levels.drop last.toNat))
  else none

/-- The levels of a universe with one run of slots lit. -/
def frame? (start count : Int) (level : Number.Extended) : Option (List Number.Extended) :=
  let (first, last) := run start count
  setPart? (List.replicate Handoff.channels (.finite .zero)) first last level

/-- The whole level from 0 to 255 for a level from 0 to 1. -/
def scaled (level : Number.Binary64) : Number.Extended :=
  (level.clampUnit.mul (.ofNat 255 (by decide))).round

/-- The handoff of a level cue. -/
def ofLevelCue (args : Json) : Option Handoff :=
  let start := (wordUnder? args "start").getD 1
  let count := (wordUnder? args "count").getD 1
  let level := ((args.field? "level").bind Json.finiteNumber?).getD .zero
  let universeNumber := (wordUnder? args "universe").getD standardUniverse
  (frame? start count (scaled level)).bind fun levels =>
    Handoff.ofLevels universeNumber levels ((args.field? "dest").bind Json.text?)

/-- The handoff of raw levels; an unreadable level is dark. -/
def ofRawLevels (payload : Fields) (levels : List Json) : Option Handoff :=
  let universeNumber := (wordUnder? (.object payload) "universe").getD standardUniverse
  Handoff.ofLevels universeNumber (levels.map fun j => .finite (j.finiteNumber?.getD .zero))
    ((payload.get? "dest").bind Json.text?)

/-- The handoff that a payload asks for. -/
def handoffFor (payload : Fields) : Option Handoff :=
  if (payload.get? "id").bind Json.text? = some levelCueId then
    ofLevelCue ((payload.get? "args").getD .null)
  else
    match (payload.get? "levels").bind Json.items? with
    | some levels => ofRawLevels payload levels
    | none => none

end ShowControl.Lighting
