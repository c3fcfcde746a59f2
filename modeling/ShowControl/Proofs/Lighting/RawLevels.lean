/-
The levels of a raw frame.

A raw frame is a list of doubles, one for each channel.  What a double comes to as a level is said
by its exact value (`Handoff.exactLevel`): rounded, a half away from zero, and moved into the range
from 0 to 255.  It keeps the order of the doubles (`Handoff.exactLevel_mono`).  A frame has 512
levels, whatever the length of the list (`Handoff.getElem?_fitted`), so later numbers do not matter
and missing ones are dark.

A payload of raw levels is read item by item, in place: one that gives no double is dark and does
not move the others.  All of this is put together in `Lighting.raw_frames`.
-/
import Mathlib.Data.List.Forall2
import ShowControl.Proofs.Lighting.LevelCue
import ShowControl.Proofs.Number.Value

namespace ShowControl

/-- One double is not above another.  What is no number is in no order. -/
def Number.Extended.AtMost : Number.Extended → Number.Extended → Prop
  | .nan, _ => False
  | _, .nan => False
  | .infinite true, _ => True
  | _, .infinite false => True
  | .finite x, .finite y => x.value ≤ y.value
  | _, _ => False

namespace Handoff

/-! ### One level -/

/-- The level of a double, by its exact value. -/
def exactLevel : Number.Extended → ℤ
  | .nan => 0
  | .infinite negative => if negative then 0 else 255
  | .finite x => max 0 (min (Number.halfAway x.value) 255)

lemma exactLevel_bounds (x : Number.Extended) : 0 ≤ exactLevel x ∧ exactLevel x ≤ 255 := by
  cases x with
  | nan => decide
  | infinite negative => cases negative <;> decide
  | finite x =>
    rw [exactLevel]
    omega

/-- The level of a double is the one that its exact value says. -/
lemma toNat_level (x : Number.Extended) : ((level x).toNat : ℤ) = exactLevel x := by
  cases x with
  | nan => rfl
  | infinite negative => cases negative <;> rfl
  | finite x =>
    rw [level, exactLevel, ← x.signed_wholeMagnitude]
    cases hneg : x.negative with
    | true =>
      rw [if_pos rfl, if_pos rfl, UInt8.toNat_zero]
      omega
    | false =>
      rw [if_neg (by decide), if_neg (by decide), Nat.toUInt8_eq, UInt8.toNat_ofNat']
      omega

/-- A greater double has no lower level. -/
lemma exactLevel_mono {x y : Number.Extended} (h : x.AtMost y) : exactLevel x ≤ exactLevel y := by
  -- The cases are the lines of the order itself.
  unfold Number.Extended.AtMost at h
  split at h
  case h_1 | h_2 | h_6 => exact h.elim
  case h_3 => exact (exactLevel_bounds y).1
  case h_4 => exact (exactLevel_bounds x).2
  case h_5 x y =>
    have hround : Number.halfAway x.value ≤ Number.halfAway y.value := Number.halfAway_mono h
    rw [exactLevel, exactLevel]
    omega

lemma level_mono {x y : Number.Extended} (h : x.AtMost y) : level x ≤ level y := by
  have hle := exactLevel_mono h
  rw [← toNat_level, ← toNat_level] at hle
  exact UInt8.le_iff_toNat_le.mpr (Int.ofNat_le.mp hle)

/-! ### All levels -/

/-- A level that is given keeps its place, and one that is missing is dark. -/
lemma getElem?_fitted {n j : ℕ} (levels : List UInt8) (hj : j < n) :
    (fitted n levels)[j]? = some (levels[j]?.getD 0) := by
  rw [fitted, List.getElem?_append, List.length_take, List.getElem?_take_of_lt hj,
    List.getElem?_replicate]
  by_cases hlong : j < levels.length
  · rw [if_pos (by omega), List.getElem?_eq_getElem hlong, Option.getD_some]
  · rw [if_neg (by omega), if_pos (by omega), List.getElem?_eq_none (by omega), Option.getD_none]

/-- The levels of a frame are those of the numbers, one by one. -/
lemma getElem?_frame_levels (levels : List Number.Extended) {j : ℕ} (hj : j < channels) :
    ∃ l, (fitted channels (levels.map level))[j]? = some l ∧
      (l.toNat : ℤ) = ((levels[j]?).map exactLevel).getD 0 := by
  refine ⟨_, getElem?_fitted _ hj, ?_⟩
  rw [List.getElem?_map]
  cases levels[j]? with
  | none => rfl
  | some x => exact toNat_level x

/-- Numbers beyond the last channel do not matter. -/
lemma fitted_congr {n : ℕ} {levels levels' : List UInt8} (h : levels'.take n = levels.take n) :
    fitted n levels' = fitted n levels := by
  have hlength : n - levels'.length = n - levels.length := by
    have htake := congrArg List.length h
    rw [List.length_take, List.length_take] at htake
    omega
  rw [fitted, fitted, h, hlength]

lemma ofLevels_congr {levels levels' : List Number.Extended}
    (h : levels'.take channels = levels.take channels) (i : ℤ) (destination : Option String) :
    ofLevels i levels' destination = ofLevels i levels destination := by
  have htake : (levels'.map level).take channels = (levels.map level).take channels := by
    rw [← List.map_take, ← List.map_take, h]
  rw [ofLevels, ofLevels, fitted_congr htake]

/-- Numbers that are not above others give levels that are not above the others. -/
lemma fitted_mono {levels levels' : List Number.Extended}
    (h : List.Forall₂ Number.Extended.AtMost levels levels') (n : ℕ) :
    List.Forall₂ (· ≤ ·) (fitted n (levels.map level)) (fitted n (levels'.map level)) := by
  have hmap : List.Forall₂ (· ≤ ·) (levels.map level) (levels'.map level) := by
    rw [List.forall₂_map_left_iff, List.forall₂_map_right_iff]
    exact h.imp fun x y => level_mono
  have hdark : List.Forall₂ (· ≤ ·) (List.replicate (n - (levels.map level).length) (0 : UInt8))
      (List.replicate (n - (levels'.map level).length) 0) := by
    rw [hmap.length_eq, List.forall₂_same]
    exact fun l _ => UInt8.le_refl l
  exact List.rel_append (List.forall₂_take n hmap) hdark

end Handoff

namespace Lighting

variable {payload : Fields}

/-- A payload of raw levels is read number by number. -/
lemma handoffFor_of_levels {items : List Json} (hcue : ¬ IsLevelCue payload)
    (hlevels : payload.get? "levels" = some (.array items)) :
    handoffFor payload =
      Handoff.ofLevels ((wordUnder? (.object payload) "universe").getD standardUniverse)
        (items.map fun item => .finite (item.finiteNumber?.getD .zero))
        ((payload.get? "dest").bind Json.text?) := by
  rw [handoffFor, if_neg (mt isLevelCue_iff.mpr hcue), hlevels]
  rfl

/-- A payload that is neither a level cue nor one of raw levels asks for nothing. -/
lemma handoffFor_of_neither (hcue : ¬ IsLevelCue payload)
    (hlevels : ∀ items, payload.get? "levels" ≠ some (.array items)) :
    handoffFor payload = none := by
  have hitems : (payload.get? "levels").bind Json.items? = none := by
    cases hget : payload.get? "levels" with
    | none => rfl
    | some value =>
      cases value with
      | array items => exact absurd hget (hlevels items)
      | _ => rfl
  rw [handoffFor, if_neg (mt isLevelCue_iff.mpr hcue), hitems]

/-- **Raw frames.**  For every universe, every list of doubles and every destination:
* there is a handoff exactly when the universe exists;
* it has this universe, this destination and 512 levels, where each level is that of the number at
  its place, rounded with a half going away from zero and moved into range, and dark where the list
  has ended;
* numbers beyond the 512th do not matter, and numbers that are not above others, place by place,
  give levels that are not above the others.

For a payload of raw levels this is done with as many numbers as there are items, each the double
that the item at the same place gives, or zero if it gives none, with the word of the universe, 1 if
it is not given, and with the destination that is given as a text.  A payload of neither shape has
no handoff. -/
theorem raw_frames (i : ℤ) (levels : List Number.Extended) (destination : Option String) :
    ((∃ h, Handoff.ofLevels i levels destination = some h) ↔ 1 ≤ i ∧ i ≤ 63999) ∧
    (∀ h, Handoff.ofLevels i levels destination = some h →
      (h.universeNumber.toNat : ℤ) = i ∧ h.destination = destination ∧ h.levels.length = 512 ∧
      ∀ j < 512, ∃ l, h.levels[j]? = some l ∧
        (l.toNat : ℤ) = ((levels[j]?).map Handoff.exactLevel).getD 0) ∧
    (∀ levels', levels'.take 512 = levels.take 512 →
      Handoff.ofLevels i levels' destination = Handoff.ofLevels i levels destination) ∧
    (∀ levels' h h', List.Forall₂ Number.Extended.AtMost levels levels' →
      Handoff.ofLevels i levels destination = some h →
      Handoff.ofLevels i levels' destination = some h' →
      List.Forall₂ (· ≤ ·) h.levels h'.levels) ∧
    (∀ payload items, ¬ IsLevelCue payload → payload.get? "levels" = some (.array items) →
      ∃ (numbers : List Number.Extended) (u : Number.Binary64) (destination : Option String),
        numbers.length = items.length ∧
        (∀ (j : ℕ) item, items[j]? = some item →
          ∃ x, Json.StandsFor (some item) .zero x ∧ numbers[j]? = some (.finite x)) ∧
        Json.StandsFor (payload.get? "universe") standardNumber u ∧
        (∀ host, destination = some host ↔ payload.get? "dest" = some (.string host)) ∧
        handoffFor payload = Handoff.ofLevels (word u) numbers destination) ∧
    ∀ payload, ¬ IsLevelCue payload → (∀ items, payload.get? "levels" ≠ some (.array items)) →
      handoffFor payload = none := by
  refine ⟨?_, ?_, fun levels' htake => Handoff.ofLevels_congr htake i destination, ?_, ?_,
    fun payload => handoffFor_of_neither⟩
  · constructor
    · rintro ⟨h, hmade⟩
      exact (Handoff.ofLevels_eq_some_iff.mp hmade).1
    · intro hrange
      rw [Handoff.ofLevels, Handoff.universeNumber?, if_pos hrange]
      exact ⟨_, rfl⟩
  · intro h hmade
    obtain ⟨-, huniverse, hlevels, hdestination⟩ := Handoff.ofLevels_eq_some_iff.mp hmade
    refine ⟨huniverse, hdestination, ?_, ?_⟩
    · rw [hlevels, Handoff.length_fitted]
      rfl
    · rw [hlevels]
      exact fun j => Handoff.getElem?_frame_levels levels
  · intro levels' h h' hatMost hmade hmade'
    obtain ⟨-, -, hlevels, -⟩ := Handoff.ofLevels_eq_some_iff.mp hmade
    obtain ⟨-, -, hlevels', -⟩ := Handoff.ofLevels_eq_some_iff.mp hmade'
    rw [hlevels, hlevels']
    exact Handoff.fitted_mono hatMost Handoff.channels
  · intro payload items hcue hitems
    obtain ⟨u, hu⟩ := Json.exists_standsFor (payload.get? "universe") standardNumber
    refine ⟨items.map fun item => Number.Extended.finite (item.finiteNumber?.getD .zero), u,
      (payload.get? "dest").bind Json.text?, List.length_map _, ?_, hu,
      fun host => text?_eq_some_iff, ?_⟩
    · intro j item hitem
      refine ⟨_, Json.standsFor_iff.mpr rfl, ?_⟩
      rw [List.getElem?_map, hitem, Option.map_some, Option.bind_some]
    · have huniverse : (wordUnder? (.object payload) "universe").getD standardUniverse = word u :=
        wordUnder?_getD hu
      rw [handoffFor_of_levels hcue hitems, huniverse]

/-- No number, both infinities and a number beyond the universe, levels that are not above others,
and a payload with an item that gives no double in front of one that does. -/
theorem raw_frames_of_odd_numbers :
    let levels : List Number.Extended := [.nan, .infinite true, .infinite false]
    let long : List Number.Extended := levels ++ List.replicate 509 .nan
    let payload : Fields :=
      [("levels", .array [.null, .string " 300 "]), ("universe", .nat 4),
        ("dest", .string "10.0.0.2")]
    (∃ h l, Handoff.ofLevels 2 levels none = some h ∧ h.levels.length = 512 ∧
      h.levels[2]? = some l ∧ (l.toNat : ℤ) = 255) ∧
    Handoff.ofLevels 2 (long ++ [.infinite false]) none = Handoff.ofLevels 2 long none ∧
    (∃ h h', Handoff.ofLevels 2 [.infinite true] none = some h ∧
      Handoff.ofLevels 2 [.finite .zero] none = some h' ∧
      List.Forall₂ (· ≤ ·) h.levels h'.levels) ∧
    (∃ h numbers l, numbers[0]? = some (.finite .zero) ∧
      numbers[1]? = some (.finite (.ofNat 300 (by decide))) ∧
      handoffFor payload = some h ∧ Handoff.ofLevels 4 numbers (some "10.0.0.2") = some h ∧
      h.levels[1]? = some l ∧ (l.toNat : ℤ) = 255) ∧
    handoffFor [("levels", .null)] = none := by
  intro levels long payload
  obtain ⟨hsome, hparts, -, -, hpayload, hneither⟩ := raw_frames 2 levels none
  obtain ⟨-, -, hcut, -⟩ := raw_frames 2 long none
  obtain ⟨hsome₁, -, -, hmono, -⟩ := raw_frames 2 [.infinite true] none
  obtain ⟨hsome₂, -⟩ := raw_frames 2 [.finite .zero] none
  have hlong : long.length = 512 := by
    rw [List.length_append, List.length_replicate]
    rfl
  refine ⟨?_, hcut _ (List.take_append_of_le_length hlong.ge), ?_, ?_, hneither _ (by decide) ?_⟩
  · obtain ⟨h, hmade⟩ := hsome.mpr (by decide)
    obtain ⟨-, -, hlength, hlevel⟩ := hparts h hmade
    obtain ⟨l, hl, hvalue⟩ := hlevel 2 (by decide)
    exact ⟨h, l, hmade, hlength, hl, hvalue⟩
  · obtain ⟨h, hmade⟩ := hsome₁.mpr (by decide)
    obtain ⟨h', hmade'⟩ := hsome₂.mpr (by decide)
    exact ⟨h, h', hmade, hmade', hmono [.finite .zero] h h' (.cons trivial .nil) hmade hmade'⟩
  · obtain ⟨numbers, u, destination, -, hread, hu, hdestination, hraw⟩ :=
      hpayload payload [.null, .string " 300 "] (by decide) rfl
    have huniverse : word u = 4 := by
      rw [Json.standsFor_iff.mp hu, word_eq]
      decide +kernel
    have hhost : destination = some "10.0.0.2" := (hdestination "10.0.0.2").mpr rfl
    rw [huniverse, hhost] at hraw
    obtain ⟨hsome₃, hframe, -⟩ := raw_frames 4 numbers (some "10.0.0.2")
    obtain ⟨h, hmade⟩ := hsome₃.mpr (by decide)
    obtain ⟨x, hx, hzero⟩ := hread 0 .null rfl
    obtain ⟨y, hy, hnumber⟩ := hread 1 (.string " 300 ") rfl
    have hdark : x = .zero := hx.missing (by rintro j ⟨⟩ z ⟨⟩)
    have hlit : y = .ofNat 300 (by decide) := by
      refine hy.given _ rfl _ (Json.finiteNumber?_eq_some_iff.mp ?_)
      decide +kernel
    rw [hdark] at hzero
    rw [hlit] at hnumber
    obtain ⟨-, -, -, hlevel⟩ := hframe h hmade
    obtain ⟨l, hl, hvalue⟩ := hlevel 1 (by decide)
    have hfull : Handoff.exactLevel (.finite (.ofNat 300 (by decide))) = 255 := by
      rw [← Handoff.toNat_level]
      decide +kernel
    rw [hnumber, Option.map_some, Option.getD_some, hfull] at hvalue
    exact ⟨h, numbers, l, hzero, hnumber, hraw.trans hmade, hmade, hl, hvalue⟩
  · intro items hitems
    cases hitems

end Lighting

end ShowControl
