/-
Handoffs written and read back.

The written form of a handoff is read as the handoff (`Handoff.read?_text`), well formed or not,
with any number of levels and any text for the destination.  A handoff for everyone and one for the
host of the empty name are written differently.
-/
import Mathlib.Data.List.Forall2
import ShowControl.Proofs.Json.ReadBack
import ShowControl.Proofs.Lighting.Resubmission

namespace ShowControl

/-- A natural number is written as its digits. -/
lemma Json.chars_nat {n : ℕ} (h : n < 2 ^ 64) : (Json.nat n h).chars = Number.natText n := by
  have hsign : ¬ (n : ℤ) < 0 := by omega
  rw [Json.nat, chars_number]
  show Number.intText n = Number.natText n
  rw [Number.intText, if_neg hsign, Int.natAbs_natCast]

namespace Handoff

open Json.Tree (Reads ReadsField nameOf pieceOf)

/-- The members of the written form, as they are read. -/
def writtenMembers (h : Handoff) : List (List Json.Piece × Json.Tree) :=
  [(nameOf "universe", numberTree h.universeNumber.toNat),
    (nameOf "levels", .array (h.levels.map fun l => numberTree l.toNat))] ++
    (h.destination.map fun d => (nameOf "dest", Json.Tree.string (d.toList.map pieceOf))).toList

lemma reads_nat {n : ℕ} (h : n < 2 ^ 64) : Reads (Json.nat n h).chars (numberTree n) := by
  rw [Json.chars_nat]
  exact Json.Tree.reads_natText n

lemma reads_levels (levels : List UInt8) :
    Reads (Json.array (levels.map levelJson)).chars
      (.array (levels.map fun l => numberTree l.toNat)) := by
  apply Json.Tree.reads_array
  rw [List.forall₂_map_left_iff, List.forall₂_map_right_iff, List.forall₂_same]
  intro l _
  exact reads_nat _

/-- The text of the written form is read as its members. -/
lemma reads_json (h : Handoff) : Reads h.json.chars (.object h.writtenMembers) := by
  obtain ⟨u, levels, destination⟩ := h
  refine Json.Tree.reads_object
    (.cons ⟨rfl, reads_nat _⟩ (.cons ⟨rfl, reads_levels levels⟩ ?_))
  cases destination with
  | none => exact .nil
  | some d =>
    refine .cons ⟨rfl, ?_⟩ .nil
    rw [Json.chars_string]
    exact Json.Tree.reads_quoted d

/-- The members of the written form make the handoff. -/
lemma ofTree?_writtenMembers (h : Handoff) : ofTree? (.object h.writtenMembers) = some h := by
  obtain ⟨u, levels, destination⟩ := h
  have hname : ∀ k, Json.Tree.piecesText? (nameOf k) = some k := Json.Tree.piecesText?_pieceOf
  cases destination with
  | none => simp [writtenMembers, ofTree?, Json.Tree.members?, hname, Json.Tree.unique?,
      readUniverse?_numberTree, readLevels?_numberTree]
  | some d => simp [writtenMembers, ofTree?, Json.Tree.members?, hname, Json.Tree.unique?,
      readUniverse?_numberTree, readLevels?_numberTree, readDestination?, text?,
      Json.Tree.piecesText?_pieceOf]

/-- **What is written is read back.**  The text of a handoff is read as the handoff, so different
handoffs have different texts: one for everyone differs from one for the host of the empty name. -/
theorem read?_text (h : Handoff) :
    read? h.json.text.toList = some h ∧
      Json.text { h with destination := none }.json ≠
        Json.text { h with destination := some "" }.json := by
  have hread : ∀ h : Handoff, read? h.json.text.toList = some h := by
    intro h
    rw [Json.text, String.toList_ofList, read?, h.reads_json.readAll?, Option.bind_some,
      ofTree?_writtenMembers]
  refine ⟨hread h, fun heq => ?_⟩
  have heveryone := hread { h with destination := none }
  rw [heq, hread] at heveryone
  exact Option.some_ne_none _ (congrArg destination (Option.some.inj heveryone))

end Handoff

end ShowControl
