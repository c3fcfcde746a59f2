/-
The universe of a handoff.

Both shapes of payload name a universe, a level cue among its arguments and raw levels beside the
list (`Lighting.universeScope?`).  Nothing or null asks for the first universe, and what has a value
asks for the universe of this number, if it exists (`Lighting.AsksUniverse`).  On the way a number
is rounded to a double, truncated and cut to a signed 64-bit word, and none of this leads into the
range of universes or out of it (`Lighting.exists_wordUnder?`).

A field that holds anything else is not told from one that is not there, so such a payload goes to
the first universe (`Lighting.universe_selected`).
-/
import ShowControl.Proofs.Lighting.RawLevels

namespace ShowControl

open Number (towardZero)

namespace Handoff

/-- A universe that exists is known by its number. -/
lemma map_universeNumber?_eq_some_iff {i k : ℤ} :
    (universeNumber? i).map (fun u => (u.toNat : ℤ)) = some k ↔ i = k ∧ 1 ≤ k ∧ k ≤ 63999 := by
  rw [Option.map_eq_some_iff]
  constructor
  · rintro ⟨u, hu, rfl⟩
    obtain ⟨hrange, hi⟩ := universeNumber?_eq_some_iff.mp hu
    exact ⟨hi.symm, hi ▸ hrange⟩
  · rintro ⟨rfl, hrange⟩
    have hsome : universeNumber? i = some i.toNat.toUInt16 := by rw [universeNumber?, if_pos hrange]
    exact ⟨_, hsome, (universeNumber?_eq_some_iff.mp hsome).2⟩

end Handoff

namespace Lighting

/-- The part of a payload that its universe is named in: the arguments of a level cue, or the
payload itself for raw levels. -/
def universeScope? (payload : Fields) : Option Json :=
  if IsLevelCue payload then some (arguments payload)
  else ((payload.get? "levels").bind Json.items?).map fun _ => .object payload

/-- The field asks for the universe: for the first one if it is missing or null, and otherwise for
that of its value, truncated toward zero, if there is such a universe. -/
inductive AsksUniverse : Option Json → ℤ → Prop where
  | missing : AsksUniverse none 1
  | null : AsksUniverse (some .null) 1
  | value {value : Json} {q : ℚ} (h : value.HasValue q)
      (hrange : 1 ≤ towardZero q ∧ towardZero q ≤ 63999) :
      AsksUniverse (some value) (towardZero q)

/-- Something stands in a field that is no number and whose text denotes none. -/
def IsUnreadable (field : Option Json) : Prop :=
  ∃ value, field = some value ∧ value ≠ .null ∧ ∀ q, ¬ value.HasValue q

variable {payload : Fields} {scope : Json}

lemma eq_array_of_items? {value : Option Json} {items : List Json}
    (h : value.bind Json.items? = some items) : value = some (.array items) := by
  cases value with
  | none => cases h
  | some value =>
    cases value with
    | array items' =>
      cases h
      rfl
    | _ => cases h

/-- The universe of the handoff, in both shapes. -/
lemma universe_handoffFor (h : universeScope? payload = some scope) :
    (handoffFor payload).map (·.universeNumber) =
      Handoff.universeNumber? ((wordUnder? scope "universe").getD standardUniverse) := by
  unfold universeScope? at h
  split at h
  case isTrue hcue =>
    cases h
    obtain ⟨lit, -, hfor⟩ := handoffFor_of_isLevelCue hcue
    rw [hfor, Handoff.map_universeNumber_ofLevels]
  case isFalse hcue =>
    obtain ⟨items, hitems, rfl⟩ := Option.map_eq_some_iff.mp h
    rw [handoffFor_of_levels hcue (eq_array_of_items? hitems), Handoff.map_universeNumber_ofLevels]

/-- What has a value is cut to a word that names the universe of the value, truncated toward zero,
if either of them names one. -/
lemma exists_wordUnder? {name : String} {value : Json} {q : ℚ}
    (hfield : scope.field? name = some value) (hvalue : value.HasValue q) :
    ∃ i, wordUnder? scope name = some i ∧ ∀ k, 1 ≤ k ∧ k ≤ 63999 → (i = k ↔ towardZero q = k) := by
  obtain ⟨x, hx, hsides⟩ := hvalue.exists_gives
  refine ⟨Number.saturate x.truncate, ?_, ?_⟩
  · rw [wordUnder?, hfield, Option.bind_some, Json.finiteNumber?_eq_some_iff.mpr hx,
      Option.map_some]
  · -- below, between and above the universes the double is on the side of the value
    intro k hk
    obtain ⟨n, rfl⟩ := Int.eq_ofNat_of_zero_le (by omega : 0 ≤ k)
    have hle := hsides n (by omega)
    have hge := hsides (n + 1) (by omega)
    have hbelow := hsides (n - 1) (by omega)
    unfold Number.saturate
    omega

/-- What has no value is not told from a field that is not there. -/
lemma wordUnder?_of_unreadable {name : String} (h : IsUnreadable (scope.field? name)) :
    wordUnder? scope name = none := by
  obtain ⟨value, hfield, -, hvalue⟩ := h
  rw [wordUnder?, hfield, Option.bind_some, Json.finiteNumber?_eq_none_iff.mpr hvalue,
    Option.map_none]

lemma not_asksUniverse_of_unreadable {field : Option Json} (h : IsUnreadable field) (i : ℤ) :
    ¬ AsksUniverse field i := by
  obtain ⟨value, rfl, hnull, hvalue⟩ := h
  rintro (_ | _ | ⟨hq, -⟩)
  · exact hnull rfl
  · exact hvalue _ hq

/-- A field that is absent, null or has a value asks for the universe that its word names. -/
lemma wordUnder?_getD_eq_iff {name : String} (hreadable : ¬ IsUnreadable (scope.field? name))
    {i : ℤ} :
    (wordUnder? scope name).getD standardUniverse = i ∧ 1 ≤ i ∧ i ≤ 63999 ↔
      AsksUniverse (scope.field? name) i := by
  cases hfield : scope.field? name with
  | none =>
    have hnone : wordUnder? scope name = none := by rw [wordUnder?, hfield]; rfl
    rw [hnone, Option.getD_none]
    constructor
    · rintro ⟨rfl, -⟩
      exact .missing
    · rintro ⟨⟩
      decide
  | some value =>
    by_cases hvalue : ∃ q, value.HasValue q
    · constructor
      · rintro ⟨hi, hrange⟩
        obtain ⟨q, hq⟩ := hvalue
        obtain ⟨k, hk, hsame⟩ := exists_wordUnder? hfield hq
        rw [hk, Option.getD_some] at hi
        have heq := (hsame i hrange).mp hi
        subst heq
        exact .value hq hrange
      · intro hasks
        cases hasks with
        | null =>
          obtain ⟨q, hq⟩ := hvalue
          cases hq
        | value hq hrange =>
          obtain ⟨k, hk, hsame⟩ := exists_wordUnder? hfield hq
          rw [hk, Option.getD_some]
          exact ⟨(hsame _ hrange).mpr rfl, hrange⟩
    · -- what is left without a value is null
      have hnull : value = .null := by
        by_contra hne
        exact hreadable ⟨value, hfield, hne, fun q hq => hvalue ⟨q, hq⟩⟩
      subst hnull
      have hnone : wordUnder? scope name = none := by rw [wordUnder?, hfield]; rfl
      rw [hnone, Option.getD_none]
      constructor
      · rintro ⟨rfl, -⟩
        exact .null
      · intro hasks
        cases hasks with
        | null => decide
        | value hq => cases hq

/-- **The universe that is selected.**  For every payload of the two shapes:
* there is a handoff exactly when the universe field asks for a universe that exists, and the
  handoff is for this universe, if and only if the field is absent or null, or holds a number or a
  text that denotes one: without a value it asks for the first universe, and otherwise for that of
  the value, truncated toward zero;
* if the field holds anything else, it asks for no universe, and yet there is a handoff, for the
  first one. -/
theorem universe_selected (payload : Fields) (scope : Json)
    (h : universeScope? payload = some scope) :
    let field := scope.field? "universe"
    let selected := (handoffFor payload).map fun h => (h.universeNumber.toNat : ℤ)
    ((∀ i, selected = some i ↔ AsksUniverse field i) ↔ ¬ IsUnreadable field) ∧
    (IsUnreadable field → (∀ i, ¬ AsksUniverse field i) ∧ selected = some 1) := by
  intro field selected
  have hselected (i : ℤ) : selected = some i ↔
      (wordUnder? scope "universe").getD standardUniverse = i ∧ 1 ≤ i ∧ i ≤ 63999 := by
    have hmap : selected = (Handoff.universeNumber?
        ((wordUnder? scope "universe").getD standardUniverse)).map fun u => (u.toNat : ℤ) := by
      rw [← universe_handoffFor h, Option.map_map]
      rfl
    rw [hmap, Handoff.map_universeNumber?_eq_some_iff]
  have hfirst : IsUnreadable field → (∀ i, ¬ AsksUniverse field i) ∧ selected = some 1 := by
    intro hunreadable
    refine ⟨not_asksUniverse_of_unreadable hunreadable, (hselected 1).mpr ⟨?_, by decide⟩⟩
    rw [wordUnder?_of_unreadable hunreadable]
    rfl
  refine ⟨⟨?_, ?_⟩, hfirst⟩
  · intro hasked hunreadable
    obtain ⟨hnone, hone⟩ := hfirst hunreadable
    exact hnone 1 ((hasked 1).mp hone)
  · intro hreadable i
    rw [hselected, wordUnder?_getD_eq_iff hreadable]

/-- The last universe as a text with a fraction, the number after it, and a truth value. -/
theorem universe_selected_of_last_universe :
    let raw (value : Json) : Fields := [("levels", .array []), ("universe", value)]
    let cue : Fields :=
      [("id", .string "lighting.level"), ("args", .object [("universe", .nat 64000)])]
    universeScope? cue = some (.object [("universe", .nat 64000)]) ∧ handoffFor cue = none ∧
      (∃ h, handoffFor (raw (.string " 63999.5 ")) = some h ∧
        AsksUniverse (some (.string " 63999.5 ")) (h.universeNumber.toNat : ℤ)) ∧
      (∀ i, ¬ AsksUniverse (some (.bool true)) i) ∧
      ∃ h, handoffFor (raw (.bool true)) = some h ∧ (h.universeNumber.toNat : ℤ) = 1 := by
  intro raw cue
  have hcue := universe_selected cue (.object [("universe", .nat 64000)]) rfl
  have htext := universe_selected (raw (.string " 63999.5 "))
    (.object (raw (.string " 63999.5 "))) rfl
  have hbool := universe_selected (raw (.bool true)) (.object (raw (.bool true))) rfl
  refine ⟨rfl, ?_, ?_, ?_⟩
  · have hreadable : ¬ IsUnreadable (some (.nat 64000)) := by
      rintro ⟨value, hfield, -, hvalue⟩
      cases hfield
      exact hvalue _ (.number _)
    rw [← Option.map_eq_none_iff, Option.eq_none_iff_forall_ne_some]
    intro i hi
    cases (hcue.1.mpr hreadable i).mp hi with
    | value hvalue hrange =>
      cases hvalue with
      | number =>
        have hlast : Number.towardZero (JsonNumber.value (.ofNat 64000 (by decide))) = 64000 :=
          Number.towardZero_intCast 64000
        rw [hlast] at hrange
        exact absurd hrange.2 (by decide)
  · have hsome : (handoffFor (raw (.string " 63999.5 "))).isSome := by decide +kernel
    obtain ⟨h, hfor⟩ := Option.isSome_iff_exists.mp hsome
    have hreadable : ¬ IsUnreadable (some (.string " 63999.5 ")) := by
      rintro ⟨value, hfield, -, hvalue⟩
      cases hfield
      have hnumber : ((Json.string " 63999.5 ").finiteNumber?).isSome := by decide +kernel
      rw [Json.finiteNumber?_eq_none_iff.mpr hvalue] at hnumber
      cases hnumber
    refine ⟨h, hfor, (htext.1.mpr hreadable _).mp ?_⟩
    rw [hfor]
    rfl
  · obtain ⟨hnone, hfirst⟩ := hbool.2 ⟨.bool true, rfl, Json.noConfusion, by rintro q ⟨⟩⟩
    obtain ⟨h, hfor, hone⟩ := Option.map_eq_some_iff.mp hfirst
    exact ⟨hnone, h, hfor, hone⟩

/-- Raw levels whose universe is a text that denotes no number, and a level cue whose universe is
infinite, go to the first universe, although their fields ask for none. -/
theorem unreadable_universe_replaced :
    let payload : Fields := [("levels", .array [.nat 255]), ("universe", .string "x")]
    let cue : Fields :=
      [("id", .string "lighting.level"), ("args", .object [("universe", .string "1e401")])]
    universeScope? payload = some (.object payload) ∧
      (∀ i, ¬ AsksUniverse (payload.get? "universe") i) ∧
      (handoffFor payload).map (·.universeNumber) = some 1 ∧
      universeScope? cue = some (.object [("universe", .string "1e401")]) ∧
      (∀ i, ¬ AsksUniverse (some (.string "1e401")) i) ∧
      (handoffFor cue).map (·.universeNumber) = some 1 := by
  intro payload cue
  have hword : IsUnreadable (payload.get? "universe") :=
    ⟨.string "x", rfl, Json.noConfusion, Json.finiteNumber?_eq_none_iff.mp (by decide +kernel)⟩
  have hinfinite : IsUnreadable (some (.string "1e401")) :=
    ⟨.string "1e401", rfl, Json.noConfusion,
      Json.finiteNumber?_eq_none_iff.mp (by decide +kernel)⟩
  exact ⟨rfl, not_asksUniverse_of_unreadable hword, by decide +kernel, rfl,
    not_asksUniverse_of_unreadable hinfinite, by decide +kernel⟩

end Lighting

end ShowControl
