/-
Names for new cues.

A cue is named by sixteen random bytes in the form of a version 4 UUID: groups of lower-case
hexadecimal digits, with the bits that tell version and variant fixed.
-/
import ShowControl.Cue.Registry
import ShowControl.Text.Hex

namespace ShowControl.CueId

/-- The two digits of a byte. -/
def digits (b : UInt8) : List Char := [Text.hexDigit (b.toNat / 16), Text.hexDigit (b.toNat % 16)]

/-- The id of random bytes, of which the first sixteen count. -/
def ofRandom (bytes : List UInt8) : CueId :=
  let b (i : Nat) : UInt8 := bytes.getD i 0
  let group (start count : Nat) : List Char :=
    (List.range count).flatMap fun k => digits (b (start + k))
  ⟨String.ofList <|
    group 0 4 ++ '-' :: group 4 2 ++
      '-' :: digits (b 6 % 16 + 0x40) ++ group 7 1 ++
      '-' :: digits (b 8 % 64 + 0x80) ++ group 9 1 ++ '-' :: group 10 6⟩

end ShowControl.CueId
