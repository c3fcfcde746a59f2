/-
The slots of a level cue.

A level cue lights `count` slots from slot `start` on.  Both are cut to signed 64-bit words
(`word`), the sums are saturating, and what lies outside the universe is dropped.  The bounds that
come out enclose a part of the universe (`run_bounds`), so the slots can be set (`exists_frame`),
and for a slot of the universe all of this comes to the same as the interval from `start` to
`start + count` among all integers (`mem_run_iff`).  The level is scaled and rounded in doubles and
stays between 0 and 255 (`scalesTo_level`).

The main result is `level_cue_slots`: a level cue is known by its start, its count, its level and
its destination, and the universe decides whether there is a handoff.
-/
import ShowControl.Proofs.Json.NumberText
import ShowControl.Proofs.Lighting.WellFormed
import ShowControl.Proofs.Number.Nearest

namespace ShowControl

namespace Number

namespace Binary64

/-- Moved into the range from 0 to 1, a number is at most one. -/
lemma steps_clampUnit_le (x : Binary64) : x.clampUnit.steps ≤ one := by
  unfold clampUnit
  split
  · exact Nat.zero_le _
  · split
    · exact Nat.le_of_eq (Nat.one_mul one)
    · omega

/-- Below zero there is nothing left but the negative zero. -/
lemma steps_of_negative_clampUnit {x : Binary64} (h : x.clampUnit.negative = true) :
    x.clampUnit.steps = 0 := by
  unfold clampUnit at h ⊢
  split
  · rfl
  · rename_i hsigned
    rw [if_neg hsigned] at h
    split
    · rename_i hone
      rw [if_pos hone] at h
      cases h
    · rename_i hone
      rw [if_neg hone] at h
      rw [signedSteps, if_pos h] at hsigned
      omega

lemma wholeMagnitude_of_steps {x : Binary64} (h : x.steps = 0) : x.wholeMagnitude = 0 := by
  rw [← Nat.le_zero]
  exact roundHalfUp_le one_pos (by rw [h]; exact Nat.zero_le _)

end Binary64

end Number

namespace Lighting

/-! ### The level -/

lemma full_lt : 255 < 2 ^ 53 := by decide

/-- Full brightness. -/
def fullLevel : Number.Binary64 := .ofNat 255 full_lt

/-- A level from 0 to 1 times 255, rounded as doubles are, is at most 255. -/
lemma exists_product (level : Number.Binary64) :
    ∃ x : Number.Binary64, level.clampUnit.mul fullLevel = .finite x ∧
      x.negative = level.clampUnit.negative ∧ x.steps ≤ 255 * Number.one ∧
      (level.clampUnit.steps = 0 → x.steps = 0) := by
  have hfull : Number.Representable (255 * Number.one) :=
    Number.Binary64.representable_mul_one (by omega)
  have hsteps : Number.nearestSteps (level.clampUnit.steps * (255 * Number.one)) Number.one ≤
      255 * Number.one := by
    refine Number.nearestSteps_le Number.one_pos hfull.2 ?_
    rw [Nat.mul_comm]
    exact Nat.mul_le_mul_left _ level.steps_clampUnit_le
  have hlt : Number.nearestSteps (level.clampUnit.steps * (255 * Number.one)) Number.one <
      Number.beyond := Nat.lt_of_le_of_lt hsteps hfull.1
  refine ⟨_, dif_pos hlt, ?_, hsteps, ?_⟩
  · exact Bool.bne_false _
  · intro hzero
    show Number.nearestSteps (level.clampUnit.steps * (255 * Number.one)) Number.one = 0
    rw [hzero, Nat.zero_mul, ← Nat.le_zero]
    exact Number.nearestSteps_le Number.one_pos (Nat.dvd_zero _) (Nat.zero_le _)

/-- The level from 0 to 255 that a level comes to: moved into the range from 0 to 1, times 255 in
doubles, and made whole, a half going away from zero. -/
def ScalesTo (v : Number.Binary64) (l : UInt8) : Prop :=
  ∃ unit product : Number.Binary64,
    unit.value = max 0 (min v.value 1) ∧ unit.mul fullLevel = .finite product ∧
    (∀ y : Number.Binary64, |product.value - unit.value * 255| ≤ |y.value - unit.value * 255|) ∧
    (l.toNat : ℤ) = Number.halfAway product.value

/-- The slots of a level cue hold what the level comes to. -/
lemma scalesTo_level (v : Number.Binary64) : ScalesTo v (Handoff.level (scaled v)) := by
  obtain ⟨x, hx, hsign, hsteps, hzero⟩ := exists_product v
  have hwhole : x.wholeMagnitude ≤ 255 := Number.roundHalfUp_le Number.one_pos hsteps
  -- rounding to a whole number is exact in doubles
  have hrep : Number.Representable (x.wholeMagnitude * Number.one) :=
    Number.Binary64.representable_mul_one (by omega)
  have hnearest := Number.nearest_mul_right x.negative hrep Nat.one_pos
  rw [Nat.mul_one] at hnearest
  have hscaled : scaled v = .finite ⟨x.negative, x.wholeMagnitude * Number.one, hrep⟩ := by
    rw [show scaled v = (v.clampUnit.mul fullLevel).round from rfl, hx]
    exact hnearest
  refine ⟨v.clampUnit, x, v.value_clampUnit, hx, fun y => ?_, ?_⟩
  · have hfull : fullLevel.value = 255 := Number.Binary64.value_ofNat full_lt
    have hclosest := Number.Binary64.mul_closest hx y
    rwa [hfull] at hclosest
  · rw [hscaled, Handoff.level, ← x.signed_wholeMagnitude]
    cases hneg : x.negative with
    | true =>
      have hnone : x.steps = 0 :=
        hzero (Number.Binary64.steps_of_negative_clampUnit (hsign.symm.trans hneg))
      simp [Number.Binary64.wholeMagnitude_of_steps hnone]
    | false =>
      have hsame : Number.Binary64.wholeMagnitude ⟨false, x.wholeMagnitude * Number.one, hrep⟩ =
          x.wholeMagnitude := Number.Binary64.wholeMagnitude_ofNat (by omega)
      rw [if_neg (by decide), if_neg (by decide), hsame, Nat.min_eq_left hwhole, Nat.toUInt8_eq,
        UInt8.toNat_ofNat']
      omega

/-! ### The slots -/

/-- The bounds of the run are in order and inside the universe. -/
lemma run_bounds (start count : ℤ) :
    0 ≤ (run start count).1 ∧ (run start count).1 ≤ (run start count).2 ∧
      (run start count).2 ≤ 512 := by
  simp only [run, clampTo, Number.saturate, Handoff.channels]
  omega

/-- Among the slots of the universe, the run is the interval that it would be without any bounds. -/
lemma mem_run_iff {start count : ℤ} (hlo : -(2 ^ 63) ≤ start) (hhi : start < 2 ^ 63)
    (hcount : count < 2 ^ 63) {i : ℕ} (hi : i < Handoff.channels) :
    (run start count).1 ≤ i ∧ (i : ℤ) < (run start count).2 ↔
      start ≤ i + 1 ∧ (i : ℤ) + 1 < start + max count 0 := by
  have hchannels : (Handoff.channels : ℤ) = 512 := rfl
  simp only [Handoff.channels] at hi
  simp only [run, clampTo, Number.saturate, hchannels]
  omega

/-- Bounds that are in order and inside the list enclose a part, and only this part is set. -/
lemma exists_setPart (levels : List Number.Extended) {first last : ℤ} (hfirst : 0 ≤ first)
    (horder : first ≤ last) (hlast : last ≤ levels.length) (level : Number.Extended) :
    ∃ set, setPart? levels first last level = some set ∧ set.length = levels.length ∧
      ∀ i < levels.length, set[i]? = if first ≤ i ∧ i < last then some level else levels[i]? := by
  refine ⟨_, if_pos ⟨hfirst, horder, hlast⟩, ?_, ?_⟩
  · simp only [List.length_append, List.length_take, List.length_replicate, List.length_drop]
    omega
  · intro i hi
    simp only [List.getElem?_append, List.length_take, List.length_replicate]
    by_cases hbefore : (i : ℤ) < first
    · rw [if_pos (by omega), List.getElem?_take_of_lt (by omega), if_neg (by omega)]
    · rw [if_neg (by omega)]
      by_cases hset : (i : ℤ) < last
      · rw [if_pos (by omega), List.getElem?_replicate, if_pos (by omega), if_pos (by omega)]
      · rw [if_neg (by omega), List.getElem?_drop, if_neg (by omega)]
        congr 1
        omega

/-- There is a frame for every run: the slots of the run are lit, and the others are dark. -/
lemma exists_frame (start count : ℤ) (level : Number.Extended) :
    ∃ lit, frame? start count level = some lit ∧ lit.length = Handoff.channels ∧
      ∀ i < Handoff.channels, lit[i]? = some
        (if (run start count).1 ≤ i ∧ i < (run start count).2 then level else .finite .zero) := by
  obtain ⟨hfirst, horder, hlast⟩ := run_bounds start count
  obtain ⟨lit, hlit, hlength, hslot⟩ :=
    exists_setPart (List.replicate Handoff.channels (.finite .zero)) hfirst horder
      (by rw [List.length_replicate]; exact hlast) level
  rw [List.length_replicate] at hlength hslot
  refine ⟨lit, hlit, hlength, fun i hi => ?_⟩
  rw [hslot i hi, List.getElem?_replicate, if_pos hi, apply_ite some]

/-! ### The cue -/

/-- The payload is that of a level cue. -/
def IsLevelCue (payload : Fields) : Prop := payload.get? "id" = some (.string "lighting.level")

/-- The id tells level cues from other payloads. -/
lemma isLevelCue_iff {payload : Fields} :
    IsLevelCue payload ↔ (payload.get? "id").bind Json.text? = some levelCueId := by
  rw [IsLevelCue]
  cases payload.get? "id" with
  | none => simp
  | some id => cases id <;> simp [Json.text?, levelCueId]

instance (payload : Fields) : Decidable (IsLevelCue payload) :=
  decidable_of_iff _ isLevelCue_iff.symm

/-- The arguments of a level cue. -/
def arguments (payload : Fields) : Json := (payload.get? "args").getD .null

/-- The handoff of a level cue is made from a frame. -/
lemma handoffFor_of_isLevelCue {payload : Fields} (h : IsLevelCue payload) :
    let args := arguments payload
    ∃ lit, frame? ((wordUnder? args "start").getD 1) ((wordUnder? args "count").getD 1)
        (scaled (((args.field? "level").bind Json.finiteNumber?).getD .zero)) = some lit ∧
      handoffFor payload = Handoff.ofLevels ((wordUnder? args "universe").getD standardUniverse) lit
        ((args.field? "dest").bind Json.text?) := by
  intro args
  obtain ⟨lit, hlit, -⟩ := exists_frame ((wordUnder? args "start").getD 1)
    ((wordUnder? args "count").getD 1)
    (scaled (((args.field? "level").bind Json.finiteNumber?).getD .zero))
  refine ⟨lit, hlit, ?_⟩
  calc handoffFor payload = ofLevelCue args := if_pos (isLevelCue_iff.mp h)
    _ = _ := by rw [ofLevelCue, hlit, Option.bind_some]

lemma standard_lt : 1 < 2 ^ 53 := by decide

/-- The start, the count or the universe of a cue that gives none. -/
def standardNumber : Number.Binary64 := .ofNat 1 standard_lt

/-- The signed 64-bit word of a double: its value, truncated toward zero and moved into the range of
words. -/
def word (x : Number.Binary64) : ℤ :=
  max (-(2 ^ 63)) (min (Number.towardZero x.value) (2 ^ 63 - 1))

lemma word_eq (x : Number.Binary64) : word x = Number.saturate x.truncate := by
  rw [word, ← x.truncate_eq]
  rfl

lemma word_bounds (x : Number.Binary64) : -(2 ^ 63) ≤ word x ∧ word x < 2 ^ 63 := by
  rw [word]
  omega

/-- The word that is read under a name is that of the double which the field stands for. -/
lemma wordUnder?_getD {args : Json} {name : String} {x : Number.Binary64}
    (h : Json.StandsFor (args.field? name) standardNumber x) :
    (wordUnder? args name).getD 1 = word x := by
  rw [Json.standsFor_iff.mp h, wordUnder?, word_eq]
  cases (args.field? name).bind Json.finiteNumber? with
  | none =>
    rw [Option.map_none, Option.getD_none, Option.getD_none, standardNumber,
      Number.Binary64.truncate_ofNat]
    rfl
  | some y => rfl

lemma text?_eq_some_iff {field : Option Json} {s : String} :
    field.bind Json.text? = some s ↔ field = some (.string s) := by
  cases field with
  | none => simp
  | some j => cases j <;> simp [Json.text?]

lemma level_zero : Handoff.level (.finite .zero) = 0 := by
  have hdark : Number.Binary64.zero.wholeMagnitude = 0 :=
    Number.Binary64.wholeMagnitude_of_steps rfl
  simp [Handoff.level, hdark]

/-- The levels of a frame: among the slots, counted from 1, the run is an interval of integers. -/
lemma exists_levels (s c : Number.Binary64) (level : Number.Extended) :
    ∃ lit, frame? (word s) (word c) level = some lit ∧ (lit.map Handoff.level).length = 512 ∧
      ∀ i : ℕ, 1 ≤ i → i ≤ 512 → (lit.map Handoff.level)[i - 1]? = some
        (if word s ≤ i ∧ i < word s + max (word c) 0 then Handoff.level level else 0) := by
  obtain ⟨lit, hlit, hlength, hslot⟩ := exists_frame (word s) (word c) level
  refine ⟨lit, hlit, ?_, fun i hone hlast => ?_⟩
  · rw [List.length_map, hlength]
    rfl
  · obtain ⟨hlow, hhigh⟩ := word_bounds s
    have hi : i - 1 < Handoff.channels := by
      rw [Handoff.channels]
      omega
    have hrun := mem_run_iff hlow hhigh (word_bounds c).2 hi
    rw [show ((i - 1 : ℕ) : ℤ) + 1 = i by omega] at hrun
    rw [List.getElem?_map, hslot _ hi, Option.map_some, apply_ite Handoff.level, level_zero]
    simp only [hrun]

/-- The handoffs of a level cue whose arguments stand for these numbers. -/
lemma handoffFor_eq_some_iff {payload : Fields} {s c v u : Number.Binary64}
    {lit : List Number.Extended} (hcue : IsLevelCue payload)
    (hs : Json.StandsFor ((arguments payload).field? "start") standardNumber s)
    (hc : Json.StandsFor ((arguments payload).field? "count") standardNumber c)
    (hv : Json.StandsFor ((arguments payload).field? "level") .zero v)
    (hu : Json.StandsFor ((arguments payload).field? "universe") standardNumber u)
    (hlit : frame? (word s) (word c) (scaled v) = some lit)
    (hlength : (lit.map Handoff.level).length = 512) (h : Handoff) :
    handoffFor payload = some h ↔
      (1 ≤ word u ∧ word u ≤ 63999) ∧ (h.universeNumber.toNat : ℤ) = word u ∧
        h.levels = lit.map Handoff.level ∧
        h.destination = ((arguments payload).field? "dest").bind Json.text? := by
  obtain ⟨lit', hlit', heq⟩ := handoffFor_of_isLevelCue hcue
  rw [wordUnder?_getD hs, wordUnder?_getD hc, ← Json.standsFor_iff.mp hv] at hlit'
  obtain rfl : lit = lit' := Option.some.inj (hlit.symm.trans hlit')
  have huniverse : (wordUnder? (arguments payload) "universe").getD standardUniverse = word u :=
    wordUnder?_getD hu
  have hfitted : Handoff.fitted Handoff.channels (lit.map Handoff.level) =
      lit.map Handoff.level := Handoff.fitted_of_length hlength
  rw [heq, huniverse, Handoff.ofLevels_eq_some_iff, hfitted]

/-- **The slots of a level cue.**  Whatever the arguments are, with the words of the start and the
count, both 1 if they are not given, and with the level, 0 if it is not given:
* the bounds of the run of slots are in order and inside the universe, so there is a frame;
* there are 512 levels, where slot `i`, counted from 1, holds what the level comes to if
  `start ≤ i < start + count` among all integers, and is dark otherwise;
* a level cue of these arguments has a handoff just if its universe, which is 1 if it is not given,
  exists, and then the handoff has this universe, these levels and the destination that is given as
  a text; so in the payload nothing but start, count, level, destination and universe has a part in
  it. -/
theorem level_cue_slots (args : Json) :
    ∃ (s c v : Number.Binary64) (l : UInt8) (levels : List UInt8) (destination : Option String),
      Json.StandsFor (args.field? "start") standardNumber s ∧
      Json.StandsFor (args.field? "count") standardNumber c ∧
      Json.StandsFor (args.field? "level") .zero v ∧
      ScalesTo v l ∧
      (∀ host, destination = some host ↔ args.field? "dest" = some (.string host)) ∧
      let start := word s
      let count := word c
      let bounds := run start count
      (0 ≤ bounds.1 ∧ bounds.1 ≤ bounds.2 ∧ bounds.2 ≤ 512) ∧
      (frame? start count (scaled v)).isSome ∧
      levels.length = 512 ∧
      (∀ i : ℕ, 1 ≤ i → i ≤ 512 → levels[i - 1]? = some
        (if start ≤ i ∧ i < start + max count 0 then l else 0)) ∧
      ∀ payload, IsLevelCue payload →
        (∀ name ∈ ["start", "count", "level", "dest"],
          (arguments payload).field? name = args.field? name) →
        ∃ u, Json.StandsFor ((arguments payload).field? "universe") standardNumber u ∧
          ∀ h, handoffFor payload = some h ↔
            (1 ≤ word u ∧ word u ≤ 63999) ∧ (h.universeNumber.toNat : ℤ) = word u ∧
              h.levels = levels ∧ h.destination = destination := by
  obtain ⟨s, hs⟩ := Json.exists_standsFor (args.field? "start") standardNumber
  obtain ⟨c, hc⟩ := Json.exists_standsFor (args.field? "count") standardNumber
  obtain ⟨v, hv⟩ := Json.exists_standsFor (args.field? "level") .zero
  obtain ⟨lit, hlit, hlength, hslot⟩ := exists_levels s c (scaled v)
  refine ⟨s, c, v, Handoff.level (scaled v), lit.map Handoff.level,
    (args.field? "dest").bind Json.text?, hs, hc, hv, scalesTo_level v,
    fun host => text?_eq_some_iff, run_bounds (word s) (word c),
    Option.isSome_iff_exists.mpr ⟨lit, hlit⟩, hlength, hslot, ?_⟩
  intro payload hcue hsame
  obtain ⟨u, hu⟩ := Json.exists_standsFor ((arguments payload).field? "universe") standardNumber
  refine ⟨u, hu, fun h => ?_⟩
  rw [← hsame "start" (by decide)] at hs
  rw [← hsame "count" (by decide)] at hc
  rw [← hsame "level" (by decide)] at hv
  rw [← hsame "dest" (by decide)]
  exact handoffFor_eq_some_iff hcue hs hc hv hu hlit hlength h

/-- A run that begins before the first slot and reaches in, by itself and beside raw levels and with
another universe. -/
theorem level_cue_slots_of_start_below_one :
    let args : Fields :=
      [("start", .string "-3"), ("count", .nat 9), ("level", .string " 0.5 "),
        ("dest", .string "10.0.0.2")]
    let other : Fields :=
      [("levels", .array [.nat 9]), ("id", .string "lighting.level"),
        ("args", .object (("universe", .nat 7) :: args))]
    ∃ levels : List UInt8, levels.length = 512 ∧
      handoffFor [("id", .string "lighting.level"), ("args", .object args)] =
        some ⟨1, levels, some "10.0.0.2"⟩ ∧
      handoffFor other = some ⟨7, levels, some "10.0.0.2"⟩ ∧
      levels[4]? = some 128 ∧ levels[5]? = some 0 := by
  intro args other
  obtain ⟨s, c, v, l, levels, destination, hs, hc, hv, hl, hdestination, -, -, hlength, hslot,
    hfor⟩ := level_cue_slots (.object args)
  have hstart : word s = -3 := by
    rw [Json.standsFor_iff.mp hs, word_eq]
    decide +kernel
  have hcount : word c = 9 := by
    rw [Json.standsFor_iff.mp hc, word_eq]
    decide +kernel
  have hhalf : v.value = 1 / 2 := by
    let half : Number.Binary64 := ⟨false, Number.one / 2, by decide +kernel⟩
    have hvalue : half.value = (1 : ℕ) / (2 : ℕ) :=
      Number.Binary64.value_eq_div rfl Nat.two_pos (by decide +kernel)
    have hread : v = half := by
      rw [Json.standsFor_iff.mp hv]
      decide +kernel
    rw [hread, hvalue]
    norm_num
  have hlevel : l = 128 := by
    obtain ⟨unit, product, hunit, -, hclosest, hround⟩ := hl
    -- the exact product is a double, so nothing is lost
    let exact : Number.Binary64 := ⟨false, 255 * Number.one / 2, by decide +kernel⟩
    have hexact : exact.value = (255 : ℕ) / (2 : ℕ) :=
      Number.Binary64.value_eq_div rfl Nat.two_pos (by decide +kernel)
    have hnear := hclosest exact
    rw [hexact, hunit, hhalf] at hnear
    norm_num at hnear
    have hproduct : product.value = 255 / 2 := by linarith
    rw [hproduct] at hround
    norm_num [Number.halfAway] at hround
    exact UInt8.toNat_inj.mp (by exact_mod_cast hround)
  have hhost : destination = some "10.0.0.2" := (hdestination "10.0.0.2").mpr rfl
  simp only [hstart, hcount] at hslot
  have hlit := hslot 5 (by omega) (by omega)
  rw [if_pos (by decide), hlevel] at hlit
  have hdark := hslot 6 (by omega) (by omega)
  rw [if_neg (by decide)] at hdark
  have hsame : ∀ name ∈ ["start", "count", "level", "dest"],
      (arguments other).field? name = (Json.object args).field? name := by
    intro name hname
    simp only [List.mem_cons, List.not_mem_nil, or_false] at hname
    rcases hname with rfl | rfl | rfl | rfl <;> rfl
  refine ⟨levels, hlength, ?_, ?_, hlit, hdark⟩
  · obtain ⟨u, hu, heq⟩ := hfor [("id", .string "lighting.level"), ("args", .object args)]
      (by decide) fun name _ => rfl
    have hone : word u = 1 := by
      rw [Json.standsFor_iff.mp hu, word_eq]
      decide +kernel
    rw [heq, hone]
    exact ⟨by decide, rfl, rfl, hhost.symm⟩
  · obtain ⟨u, hu, heq⟩ := hfor other (by decide) hsame
    have hseven : word u = 7 := by
      rw [Json.standsFor_iff.mp hu, word_eq]
      decide +kernel
    rw [heq, hseven]
    exact ⟨by decide, rfl, rfl, hhost.symm⟩

end Lighting

end ShowControl
