/-
Well-formed handoffs.

What goes to the lighting bridge has 512 levels and names a universe that exists
(`Handoff.WellFormed`).  The handoffs that `Handoff.ofLevels` makes are the well-formed ones, all of
them: a level is its own nearest level, and 512 levels are neither cut nor filled up
(`Handoff.wellFormed_iff_made`).  The handoff of a cue is made in this way, whatever the payload.

A handoff that is read from a document need not be well formed.  Reading takes the universe and the
levels as they stand there, so it is up to the document (`Handoff.wellFormed_iff_sized`), and a
document can hold any handoff at all (`Handoff.ofTree?_tree`).
-/
import ShowControl.Lighting.Intent
import ShowControl.Proofs.Number.Exact

namespace ShowControl

namespace Handoff

/-- What the lighting bridge relies on. -/
structure WellFormed (h : Handoff) : Prop where
  length_eq : h.levels.length = channels
  one_le : 1 ≤ h.universeNumber.toNat
  le_last : h.universeNumber.toNat ≤ 63999

/-! ### Making handoffs -/

/-- There are as many levels as asked for. -/
@[simp] lemma length_fitted (n : ℕ) (levels : List UInt8) : (fitted n levels).length = n := by
  rw [fitted, List.length_append, List.length_take, List.length_replicate]
  omega

/-- Levels that fit are left alone. -/
lemma fitted_of_length {n : ℕ} {levels : List UInt8} (h : levels.length = n) :
    fitted n levels = levels := by
  rw [fitted, List.take_of_length_le (Nat.le_of_eq h), h, Nat.sub_self, List.replicate_zero,
    List.append_nil]

/-- A universe is known by its number. -/
lemma universeNumber?_eq_some_iff {i : ℤ} {u : UInt16} :
    universeNumber? i = some u ↔ (1 ≤ i ∧ i ≤ 63999) ∧ (u.toNat : ℤ) = i := by
  unfold universeNumber?
  constructor
  · intro h
    split at h
    · obtain rfl := Option.some.inj h
      rename_i hrange
      refine ⟨hrange, ?_⟩
      rw [Nat.toUInt16_eq, UInt16.toNat_ofNat']
      omega
    · cases h
  · rintro ⟨hrange, rfl⟩
    rw [if_pos hrange, Int.toNat_natCast, Nat.toUInt16_eq, UInt16.ofNat_toNat]

/-- Only the number decides about the universe of a handoff. -/
lemma map_universeNumber_ofLevels (i : ℤ) (levels : List Number.Extended)
    (destination : Option String) :
    (ofLevels i levels destination).map (·.universeNumber) = universeNumber? i := by
  rw [ofLevels, Option.map_map]
  exact Option.map_id'

/-- What `ofLevels` makes. -/
lemma ofLevels_eq_some_iff {i : ℤ} {levels : List Number.Extended} {destination : Option String}
    {h : Handoff} :
    ofLevels i levels destination = some h ↔
      (1 ≤ i ∧ i ≤ 63999) ∧ (h.universeNumber.toNat : ℤ) = i ∧
        h.levels = fitted channels (levels.map level) ∧ h.destination = destination := by
  obtain ⟨u, ls, dest⟩ := h
  rw [ofLevels, Option.map_eq_some_iff]
  constructor
  · rintro ⟨v, hv, heq⟩
    obtain ⟨rfl, rfl, rfl⟩ := Handoff.mk.inj heq
    obtain ⟨hrange, hnum⟩ := universeNumber?_eq_some_iff.mp hv
    exact ⟨hrange, hnum, rfl, rfl⟩
  · rintro ⟨hrange, hnum, rfl, rfl⟩
    exact ⟨u, universeNumber?_eq_some_iff.mpr ⟨hrange, hnum⟩, rfl⟩

lemma wellFormed_of_ofLevels {i : ℤ} {levels : List Number.Extended}
    {destination : Option String} {h : Handoff} (hmade : ofLevels i levels destination = some h) :
    h.WellFormed := by
  obtain ⟨hrange, hnum, hlevels, -⟩ := ofLevels_eq_some_iff.mp hmade
  exact ⟨by rw [hlevels, length_fitted], by omega, by omega⟩

/-- A level as a number. -/
def levelNumber (l : UInt8) : Number.Extended :=
  .finite (.ofNat l.toNat (by have := l.toNat_lt; omega))

/-- A level is the one nearest to it. -/
@[simp] lemma level_levelNumber (l : UInt8) : level (levelNumber l) = l := by
  have hl := l.toNat_lt
  have hmin : min l.toNat 255 = l.toNat := by omega
  simp only [level, levelNumber, Number.Binary64.wholeMagnitude_ofNat, hmin]
  rw [Nat.toUInt8_eq, UInt8.ofNat_toNat]
  rfl

/-- A well-formed handoff is made from its own parts. -/
lemma WellFormed.ofLevels_self {h : Handoff} (hwf : h.WellFormed) :
    ofLevels h.universeNumber.toNat (h.levels.map levelNumber) h.destination = some h := by
  have hlevels : (h.levels.map levelNumber).map level = h.levels := by
    simp [Function.comp_def]
  rw [ofLevels_eq_some_iff, hlevels, fitted_of_length hwf.length_eq]
  have hone := hwf.one_le
  have hlast := hwf.le_last
  exact ⟨by omega, rfl, rfl, rfl⟩

/-- The well-formed handoffs are those that are made. -/
lemma wellFormed_iff_made {h : Handoff} :
    h.WellFormed ↔ ∃ i levels destination, ofLevels i levels destination = some h := by
  constructor
  · intro hwf
    exact ⟨_, _, _, hwf.ofLevels_self⟩
  · rintro ⟨i, levels, destination, hmade⟩
    exact wellFormed_of_ofLevels hmade

end Handoff

/-- The handoff of a cue is made from levels, whatever the shape of the payload. -/
lemma Lighting.exists_ofLevels {payload : Fields} {h : Handoff}
    (hfor : handoffFor payload = some h) :
    ∃ i levels destination, Handoff.ofLevels i levels destination = some h := by
  unfold handoffFor at hfor
  split at hfor
  · obtain ⟨levels, -, hmade⟩ := Option.bind_eq_some_iff.mp hfor
    exact ⟨_, levels, _, hmade⟩
  · split at hfor
    · exact ⟨_, _, _, hfor⟩
    · cases hfor

namespace Handoff

/-! ### Reading handoffs -/

/-- A string is read as its characters. -/
lemma joinPieces?_plain (s acc : List Char) :
    Json.Tree.joinPieces? (s.map .plain) acc = some (acc.reverse ++ s) := by
  induction s generalizing acc with
  | nil => simp [Json.Tree.joinPieces?]
  | cons c s ih => simp [Json.Tree.joinPieces?, ih]

/-- A whole number in a document. -/
def numberTree (n : ℕ) : Json.Tree := .number true ⟨false, n, 0⟩

lemma nat?_numberTree {n most : ℕ} (h : n ≤ most) : (numberTree n).nat? most = some n := by
  simp [numberTree, Json.Tree.nat?, h]

/-- The document of the three parts of a handoff in a row. -/
def tree (h : Handoff) : Json.Tree :=
  .array
    [numberTree h.universeNumber.toNat, .array (h.levels.map fun l => numberTree l.toNat),
      (h.destination.map fun s => Json.Tree.string (s.toList.map .plain)).getD .null]

lemma readUniverse?_numberTree (u : UInt16) : readUniverse? (numberTree u.toNat) = some u := by
  have hu : u.toNat ≤ 65535 := Nat.le_of_lt_succ u.toNat_lt
  rw [readUniverse?, nat?_numberTree hu, Option.map_some, Nat.toUInt16_eq, UInt16.ofNat_toNat]

lemma readLevels?_numberTree (levels : List UInt8) :
    readLevels? (.array (levels.map fun l => numberTree l.toNat)) = some levels := by
  rw [readLevels?]
  induction levels with
  | nil => rfl
  | cons l levels ih =>
    have hl : l.toNat ≤ 255 := Nat.le_of_lt_succ l.toNat_lt
    rw [List.map_cons, List.mapM_cons, nat?_numberTree hl, ih]
    simp [Nat.toUInt8_eq, UInt8.ofNat_toNat]

/-- The document of a handoff is read as the handoff, well formed or not. -/
lemma ofTree?_tree (h : Handoff) : ofTree? h.tree = some h := by
  obtain ⟨u, levels, destination⟩ := h
  cases destination with
  | none =>
    simp [tree, ofTree?, readUniverse?_numberTree, readLevels?_numberTree, readDestination?]
  | some s =>
    simp [tree, ofTree?, readUniverse?_numberTree, readLevels?_numberTree, readDestination?, text?,
      Json.Tree.piecesText?, joinPieces?_plain]

/-! ### What a document has to hold -/

/-- The parts of a document that the universe and the levels are read from. -/
def parts? : Json.Tree → Option (Json.Tree × Json.Tree)
  | .array [u, ls, _] => some (u, ls)
  | .object members => do
    let members ← (Json.Tree.object members).members?
    return (← ← Json.Tree.unique? members "universe", ← ← Json.Tree.unique? members "levels")
  | _ => none

/-- Universe and levels are read from these parts. -/
lemma exists_parts? {t : Json.Tree} {h : Handoff} (hread : ofTree? t = some h) :
    ∃ u ls, parts? t = some (u, ls) ∧ readUniverse? u = some h.universeNumber ∧
      readLevels? ls = some h.levels := by
  unfold ofTree? at hread
  split at hread
  case h_1 u ls d =>
    simp only [Option.bind_eq_bind, Option.bind_eq_some_iff] at hread
    obtain ⟨n, hn, levels, hlevels, destination, -, heq⟩ := hread
    cases heq
    exact ⟨u, ls, rfl, hn, hlevels⟩
  case h_2 members =>
    simp only [Option.bind_eq_bind, Option.bind_eq_some_iff] at hread
    obtain ⟨named, hnamed, _, hu, u, rfl, _, hls, ls, rfl, member, -, hrest⟩ := hread
    have hparts : parts? (.object members) = some (u, ls) := by simp [parts?, hnamed, hu, hls]
    -- the destination may be left out, and it has no say in the rest
    cases member with
    | none =>
      obtain ⟨n, hn, levels, hlevels, heq⟩ := by
        simpa only [Option.bind_some, Option.bind_eq_some_iff] using hrest
      cases heq
      exact ⟨u, ls, hparts, hn, hlevels⟩
    | some d =>
      obtain ⟨destination, -, n, hn, levels, hlevels, heq⟩ := by
        simpa only [Option.bind_eq_some_iff] using hrest
      cases heq
      exact ⟨u, ls, hparts, hn, hlevels⟩
  case h_3 => cases hread

/-- A number that is at most `most` is one that is at most `next`, and not above `most`. -/
lemma nat?_eq_some_iff_of_le {t : Json.Tree} {most next n : ℕ} (hle : most ≤ next) :
    t.nat? most = some n ↔ t.nat? next = some n ∧ n ≤ most := by
  cases t with
  | number whole d =>
    cases whole with
    | false => simp [Json.Tree.nat?]
    | true =>
      simp only [Json.Tree.nat?, Option.ite_none_right_eq_some, Bool.and_eq_true,
        Bool.not_eq_true', decide_eq_true_eq, Option.some.injEq]
      constructor
      · rintro ⟨⟨hsign, hmost⟩, rfl⟩
        exact ⟨⟨⟨hsign, Nat.le_trans hmost hle⟩, rfl⟩, hmost⟩
      · rintro ⟨⟨⟨hsign, -⟩, rfl⟩, hmost⟩
        exact ⟨⟨hsign, hmost⟩, rfl⟩
  | _ => simp [Json.Tree.nat?]

lemma nat?_of_readUniverse? {t : Json.Tree} {u : UInt16} (h : readUniverse? t = some u) :
    t.nat? 65535 = some u.toNat := by
  obtain ⟨n, hn, rfl⟩ := Option.map_eq_some_iff.mp h
  have hle : n ≤ 65535 := ((nat?_eq_some_iff_of_le (Nat.le_refl _)).mp hn).2
  rw [hn, Nat.toUInt16_eq, UInt16.toNat_ofNat', Nat.mod_eq_of_lt (by omega)]

/-- Every item of the list is read as one level. -/
lemma exists_of_readLevels? {t : Json.Tree} {levels : List UInt8}
    (h : readLevels? t = some levels) :
    ∃ items, t = .array items ∧ items.length = levels.length := by
  unfold readLevels? at h
  split at h
  case h_2 => cases h
  case h_1 items =>
    refine ⟨items, rfl, ?_⟩
    induction items generalizing levels with
    | nil =>
      cases h
      rfl
    | cons item items ih =>
      simp only [List.mapM_cons, Option.bind_eq_bind, Option.bind_eq_some_iff] at h
      obtain ⟨l, -, rest, hrest, heq⟩ := h
      cases heq
      rw [List.length_cons, List.length_cons, ih hrest]

/-- A document of a well-formed handoff lists 512 levels and names a universe that exists. -/
def Sized (t : Json.Tree) : Prop :=
  ∃ u items n, parts? t = some (u, .array items) ∧ items.length = channels ∧
    u.nat? 63999 = some n ∧ 1 ≤ n

/-- Nothing is cut, filled up or moved into range on the way in. -/
lemma wellFormed_iff_sized {t : Json.Tree} {h : Handoff} (hread : ofTree? t = some h) :
    h.WellFormed ↔ Sized t := by
  obtain ⟨u, ls, hparts, hu, hls⟩ := exists_parts? hread
  obtain ⟨items, rfl, hlength⟩ := exists_of_readLevels? hls
  have hnumber := nat?_of_readUniverse? hu
  constructor
  · intro hwf
    exact ⟨u, items, _, hparts, hlength.trans hwf.length_eq,
      (nat?_eq_some_iff_of_le (by omega)).mpr ⟨hnumber, hwf.le_last⟩, hwf.one_le⟩
  · rintro ⟨u', items', n, hparts', hchannels, hn, hone⟩
    cases hparts.symm.trans hparts'
    obtain ⟨hwide, hlast⟩ := (nat?_eq_some_iff_of_le (by omega : 63999 ≤ 65535)).mp hn
    cases hnumber.symm.trans hwide
    exact ⟨hlength.symm.trans hchannels, hone, hlast⟩

/-- **Where well-formed handoffs come from.**
* A handoff that is made from levels is well formed, and so is the handoff of a cue.
* Every well-formed handoff is made from its own parts.
* A handoff that is read from a text is well formed exactly when the document lists 512 levels and
  names a universe that exists; nothing else keeps a handoff, whatever it is, out of a document. -/
theorem wellFormed_by_origin (h : Handoff) :
    (∀ i levels destination, ofLevels i levels destination = some h → h.WellFormed) ∧
    (∀ payload, Lighting.handoffFor payload = some h → h.WellFormed) ∧
    (h.WellFormed →
      ofLevels h.universeNumber.toNat (h.levels.map levelNumber) h.destination = some h) ∧
    (∀ s, read? s = some h → (h.WellFormed ↔ ∃ t, Json.Tree.readAll? s = some t ∧ Sized t)) ∧
    ∃ t, ofTree? t = some h := by
  refine ⟨fun i levels destination => wellFormed_of_ofLevels, ?_, fun hwf => hwf.ofLevels_self, ?_,
    h.tree, ofTree?_tree h⟩
  · intro payload hfor
    exact wellFormed_iff_made.mpr (Lighting.exists_ofLevels hfor)
  · intro s hread
    obtain ⟨t, hs, ht⟩ := Option.bind_eq_some_iff.mp hread
    rw [wellFormed_iff_sized ht]
    constructor
    · intro hsized
      exact ⟨t, hs, hsized⟩
    · rintro ⟨t', hs', hsized⟩
      cases hs.symm.trans hs'
      exact hsized

/-- One level above the range, as a payload and as numbers. -/
theorem wellFormed_by_origin_of_one_level :
    let h : Handoff := ⟨1, fitted channels [255], none⟩
    Lighting.handoffFor [("levels", .array [.string "300"])] = some h ∧
      ofLevels 1 [.infinite false] none = some h ∧ h.WellFormed ∧
      ofLevels h.universeNumber.toNat (h.levels.map levelNumber) h.destination = some h := by
  intro h
  obtain ⟨hmade, hcue, hself, -⟩ := wellFormed_by_origin h
  have hpayload : Lighting.handoffFor [("levels", .array [.string "300"])] = some h := by
    decide +kernel
  have hlevels : ofLevels 1 [.infinite false] none = some h := by
    decide +kernel
  exact ⟨hpayload, hlevels, hmade _ _ _ hlevels, hself (hcue _ hpayload)⟩

/-- A text of a universe that does not exist, with one level. -/
theorem read_not_wellFormed :
    ∃ h, read? "\x7b\"universe\":65535,\"levels\":[0]\x7d".toList = some h ∧ ¬ h.WellFormed := by
  refine ⟨⟨65535, [0], none⟩, by decide +kernel, ?_⟩
  intro hwf
  exact absurd hwf.length_eq (by decide)

end Handoff

end ShowControl
