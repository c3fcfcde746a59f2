/-
The texts of doubles.

A text denotes a double if it is a decimal number, which need not be one that a double can hold, or
a word for infinity or for no number, with a sign in front or without one (`Denotes`).  A decimal
number is digits, at least one, with a point before, among or after them or without one, and a power
of ten may follow (`WritesDecimal`).  The reader reads these texts and no others
(`readExtended?_eq_some_iff`), so what a text denotes is known from its parts.
-/
import Mathlib.Data.List.TakeWhile
import ShowControl.Proofs.Number.IntegerText

namespace ShowControl.Number

/-! ### Parts -/

/-- A sign, which may be left out; whether it is a minus. -/
inductive Sign : List Char → Bool → Prop where
  | absent : Sign [] false
  | plus : Sign ['+'] false
  | minus : Sign ['-'] true

/-- Digits with a point before, among or after them or without one: those before it, and those after
it. -/
inductive Mantissa : List Char → List Char → List Char → Prop where
  | whole {ds : List Char} (h : AreDigits ds) : Mantissa ds ds []
  | pointed {whole fraction : List Char} (h : AreDigits (whole ++ fraction)) :
      Mantissa (whole ++ '.' :: fraction) whole fraction

/-- A power of ten after its letter, which may be left out. -/
inductive Power : List Char → ℤ → Prop where
  | absent : Power [] 0
  | given {c : Char} {s : List Char} {i : ℤ} (hletter : c = 'e' ∨ c = 'E')
      (h : WritesInteger s i) : Power (c :: s) i

/-- The text writes the decimal number, but for its sign. -/
inductive WritesDecimal (negative : Bool) : List Char → Decimal → Prop where
  | mk {mantissa whole fraction power : List Char} {i : ℤ} (hm : Mantissa mantissa whole fraction)
      (hp : Power power i) :
      WritesDecimal negative (mantissa ++ power) (.ofParts negative whole fraction i)

/-- The text writes the decimal number, but for its sign, in the strict way of documents: no zero in
front of other digits, digits on both sides of a point, and a point or a power, since without them
it would be a whole number. -/
inductive WritesStrictly (negative : Bool) : List Char → Decimal → Prop where
  | pointed {whole fraction power : List Char} {i : ℤ} (hwhole : AreDigits whole)
      (hlead : whole.head? = some '0' → whole.length = 1) (hfraction : AreDigits fraction)
      (hp : Power power i) :
      WritesStrictly negative (whole ++ '.' :: (fraction ++ power))
        (.ofParts negative whole fraction i)
  | powered {whole s : List Char} {c : Char} {i : ℤ} (hwhole : AreDigits whole)
      (hlead : whole.head? = some '0' → whole.length = 1) (hletter : c = 'e' ∨ c = 'E')
      (h : WritesInteger s i) :
      WritesStrictly negative (whole ++ c :: s) (.ofParts negative whole [] i)

/-- The text denotes the double. -/
inductive Denotes : List Char → Extended → Prop where
  | decimal {sign s : List Char} {negative : Bool} {d : Decimal} (hsign : Sign sign negative)
      (h : WritesDecimal negative s d) : Denotes (sign ++ s) d.nearest
  | infinite {sign s : List Char} {negative : Bool} (hsign : Sign sign negative)
      (h : s.map Char.toLower ∈ ["inf".toList, "infinity".toList]) :
      Denotes (sign ++ s) (.infinite negative)
  | nan {sign s : List Char} {negative : Bool} (hsign : Sign sign negative)
      (h : s.map Char.toLower = "nan".toList) : Denotes (sign ++ s) .nan

/-! ### Signs -/

/-- The reader takes the sign. -/
lemma sign_takeSign (s : List Char) :
    ∃ sign, Sign sign (takeSign s).1 ∧ s = sign ++ (takeSign s).2 := by
  unfold takeSign
  split
  · exact ⟨_, .minus, rfl⟩
  · exact ⟨_, .plus, rfl⟩
  · exact ⟨_, .absent, rfl⟩

/-- A minus, or nothing, in front of a text is a sign. -/
lemma exists_sign (negative : Bool) (s : List Char) :
    ∃ sign, Sign sign negative ∧ (if negative then '-' :: s else s) = sign ++ s := by
  cases negative with
  | true => exact ⟨_, .minus, rfl⟩
  | false => exact ⟨_, .absent, rfl⟩

/-- A text that begins with no sign. -/
def Unsigned (s : List Char) : Prop := s.head? ≠ some '+' ∧ s.head? ≠ some '-'

lemma takeSign_append {sign s : List Char} {negative : Bool} (hsign : Sign sign negative)
    (hs : Unsigned s) : takeSign (sign ++ s) = (negative, s) := by
  cases hsign with
  | absent =>
    show takeSign s = (false, s)
    unfold takeSign
    split
    · exact absurd rfl hs.2
    · exact absurd rfl hs.1
    · rfl
  | plus => rfl
  | minus => rfl

/-! ### Digits -/

/-- The reader takes the digits. -/
lemma takeDigits_eq (s : List Char) :
    s = (takeDigits s).1 ++ (takeDigits s).2 ∧ (∀ c ∈ (takeDigits s).1, c.isDigit = true) ∧
      ∀ c ∈ (takeDigits s).2.head?, c.isDigit = false := by
  rw [takeDigits, List.span_eq_takeWhile_dropWhile]
  refine ⟨List.takeWhile_append_dropWhile.symm, fun c hc => List.mem_takeWhile_imp hc, ?_⟩
  intro c hc
  have hnot := List.head?_dropWhile_not Char.isDigit s
  rw [Option.mem_def.mp hc] at hnot
  simpa using hnot

lemma natOfDigits_eq (ds : List Char) : natOfDigits ds = Nat.ofDigitChars 10 ds 0 :=
  (natOfDigits_eq_foldl ds).trans Nat.ofDigitChars_eq_foldl.symm

lemma AreDigits.unsigned {ds : List Char} (h : AreDigits ds) (rest : List Char) :
    Unsigned (ds ++ rest) := by
  obtain ⟨c, ds, rfl⟩ := List.exists_cons_of_ne_nil h.1
  have hc := h.2 c List.mem_cons_self
  constructor <;> rintro ⟨rfl⟩ <;> exact absurd hc (by decide)

lemma AreDigits.append {ds es : List Char} (h : AreDigits ds) (hes : ∀ c ∈ es, c.isDigit = true) :
    AreDigits (ds ++ es) := by
  refine ⟨List.append_ne_nil_of_left_ne_nil h.1 es, fun c hc => ?_⟩
  rcases List.mem_append.mp hc with hc | hc
  · exact h.2 c hc
  · exact hes c hc

/-! ### Powers -/

/-- An integer is a sign and digits. -/
lemma writesInteger_iff {s : List Char} {i : ℤ} :
    WritesInteger s i ↔ ∃ sign negative ds, Sign sign negative ∧ AreDigits ds ∧ s = sign ++ ds ∧
      i = if negative then -(Nat.ofDigitChars 10 ds 0 : ℤ) else Nat.ofDigitChars 10 ds 0 := by
  constructor
  · intro h
    cases h with
    | bare h => exact ⟨_, _, _, .absent, h, rfl, rfl⟩
    | plus h => exact ⟨_, _, _, .plus, h, rfl, rfl⟩
    | minus h => exact ⟨_, _, _, .minus, h, rfl, rfl⟩
  · rintro ⟨sign, negative, ds, hsign, hds, rfl, rfl⟩
    cases hsign with
    | absent => exact .bare hds
    | plus => exact .plus hds
    | minus => exact .minus hds

/-- The reader of powers reads an integer that ends where no digit follows. -/
lemma WritesInteger.takePower?_append {s rest : List Char} {i : ℤ} (h : WritesInteger s i)
    (hrest : ∀ c ∈ rest.head?, c.isDigit = false) : takePower? (s ++ rest) = some (i, rest) := by
  obtain ⟨sign, negative, ds, hsign, hds, rfl, rfl⟩ := writesInteger_iff.mp h
  have hsigned : takeSign (sign ++ (ds ++ rest)) = (negative, ds ++ rest) :=
    takeSign_append hsign (hds.unsigned rest)
  simp [takePower?, hsigned, takeDigits_append hds.2 hrest, natOfDigits_eq, hds.1]

/-- The reader of powers reads integers to the end of the text. -/
lemma takePower?_eq_some_iff {s : List Char} {i : ℤ} :
    takePower? s = some (i, []) ↔ WritesInteger s i := by
  constructor
  · intro h
    rw [writesInteger_iff]
    obtain ⟨sign, hsign, hs⟩ := sign_takeSign s
    obtain ⟨hrest, hdigits, -⟩ := takeDigits_eq (takeSign s).2
    simp only [takePower?] at h
    split at h
    case isTrue => cases h
    case isFalse hne =>
      simp only [Option.some.injEq, Prod.mk.injEq, natOfDigits_eq] at h
      rw [h.2, List.append_nil] at hrest
      exact ⟨sign, _, _, hsign, ⟨by simpa using hne, hdigits⟩, hs.trans (by rw [← hrest]), h.1.symm⟩
  · intro h
    have hread : takePower? (s ++ []) = some (i, []) := h.takePower?_append (by rintro c ⟨⟩)
    rwa [List.append_nil] at hread

/-- The power at the end of a decimal number. -/
def powerPart? : List Char → Option ℤ
  | [] => some 0
  | c :: s =>
    if c = 'e' ∨ c = 'E' then
      match takePower? s with
      | some (i, []) => some i
      | _ => none
    else none

lemma powerPart?_eq_some_iff {s : List Char} {i : ℤ} : powerPart? s = some i ↔ Power s i := by
  constructor
  · intro h
    unfold powerPart? at h
    split at h
    case h_1 => cases h; exact .absent
    case h_2 c s =>
      split at h
      case isTrue hletter =>
        split at h
        case h_1 j hread => cases h; exact .given hletter (takePower?_eq_some_iff.mp hread)
        case h_2 => cases h
      case isFalse => cases h
  · rintro (_ | ⟨hletter, hi⟩)
    · rfl
    · rw [powerPart?, if_pos hletter, takePower?_eq_some_iff.mpr hi]

/-- A power is told from the digits before it by its first character. -/
lemma Power.takeDigits_append {ds s : List Char} {i : ℤ} (h : Power s i)
    (hdigits : ∀ c ∈ ds, c.isDigit = true) : takeDigits (ds ++ s) = (ds, s) := by
  refine Number.takeDigits_append hdigits ?_
  cases h with
  | absent => rintro c ⟨⟩
  | given hletter _ => rintro c ⟨⟩; rcases hletter with rfl | rfl <;> rfl

/-! ### Decimal numbers -/

/-- The digits before and after the point at the front of a text, and what follows them. -/
def takeMantissa (s : List Char) : List Char × List Char × List Char :=
  ((takeDigits s).1,
    match (takeDigits s).2 with
    | '.' :: r => takeDigits r
    | _ => ([], (takeDigits s).2))

/-- A decimal number is read part by part. -/
lemma readDecimal?_eq (negative : Bool) (s : List Char) :
    readDecimal? negative s =
      if (takeMantissa s).1 ++ (takeMantissa s).2.1 = [] then none
      else (powerPart? (takeMantissa s).2.2).map
        (.ofParts negative (takeMantissa s).1 (takeMantissa s).2.1) := by
  have hempty (whole fraction : List Char) :
      (whole.isEmpty && fraction.isEmpty) = true ↔ whole ++ fraction = [] := by
    simp
  have hpower (whole fraction r : List Char) :
      (match r with
        | [] => some (Decimal.ofParts negative whole fraction 0)
        | c :: r =>
          if c == 'e' || c == 'E' then
            match takePower? r with
            | some (power, []) => some (.ofParts negative whole fraction power)
            | _ => none
          else none) = (powerPart? r).map (.ofParts negative whole fraction) := by
    unfold powerPart?
    simp only [Bool.or_eq_true, beq_iff_eq]
    split
    · rfl
    · split
      · split <;> rfl
      · rfl
  exact if_congr (hempty _ _) rfl
    (hpower (takeMantissa s).1 (takeMantissa s).2.1 (takeMantissa s).2.2)

/-- What is written strictly is written. -/
lemma WritesStrictly.writesDecimal {negative : Bool} {s : List Char} {d : Decimal}
    (h : WritesStrictly negative s d) : WritesDecimal negative s d := by
  cases h with
  | pointed hwhole _ hfraction hp =>
    have hmantissa := Mantissa.pointed (hwhole.append hfraction.2)
    have hwrites : WritesDecimal negative _ _ := .mk hmantissa hp
    rwa [List.append_assoc, List.cons_append] at hwrites
  | powered hwhole _ hletter h => exact .mk (.whole hwhole) (.given hletter h)

/-- A number in the strict way begins with a digit. -/
lemma WritesStrictly.exists_head {negative : Bool} {s : List Char} {d : Decimal}
    (h : WritesStrictly negative s d) : ∃ c r, s = c :: r ∧ c.isDigit = true := by
  cases h with
  | pointed hwhole | powered hwhole =>
    obtain ⟨c, ds, rfl⟩ := List.exists_cons_of_ne_nil hwhole.1
    exact ⟨c, _, rfl, hwhole.2 c List.mem_cons_self⟩

lemma Mantissa.ne_nil {mantissa whole fraction : List Char} (h : Mantissa mantissa whole fraction) :
    whole ++ fraction ≠ [] := by
  cases h with
  | whole h => simpa using h.1
  | pointed h => exact h.1

lemma Mantissa.takeMantissa_append {mantissa whole fraction power : List Char} {i : ℤ}
    (h : Mantissa mantissa whole fraction) (hp : Power power i) :
    takeMantissa (mantissa ++ power) = (whole, fraction, power) := by
  cases h with
  | whole h =>
    rw [takeMantissa, hp.takeDigits_append h.2]
    cases hp with
    | absent => rfl
    | given hletter _ => rcases hletter with rfl | rfl <;> rfl
  | pointed h =>
    have hwhole : ∀ c ∈ whole, c.isDigit = true := fun c hc => h.2 c (List.mem_append_left _ hc)
    have hfraction : ∀ c ∈ fraction, c.isDigit = true :=
      fun c hc => h.2 c (List.mem_append_right _ hc)
    have hpoint : takeDigits (whole ++ '.' :: (fraction ++ power)) =
        (whole, '.' :: (fraction ++ power)) :=
      takeDigits_append hwhole (by rintro c ⟨⟩; rfl)
    rw [List.append_assoc, List.cons_append, takeMantissa, hpoint]
    simp only [hp.takeDigits_append hfraction]

lemma exists_mantissa {s : List Char} (hne : (takeMantissa s).1 ++ (takeMantissa s).2.1 ≠ []) :
    ∃ mantissa, Mantissa mantissa (takeMantissa s).1 (takeMantissa s).2.1 ∧
      s = mantissa ++ (takeMantissa s).2.2 := by
  obtain ⟨hs, hwhole, -⟩ := takeDigits_eq s
  unfold takeMantissa at hne ⊢
  dsimp only at hne ⊢
  split at hne
  case h_1 r hr =>
    obtain ⟨hrest, hfraction, -⟩ := takeDigits_eq r
    refine ⟨_, .pointed ⟨hne, ?_⟩, ?_⟩
    · intro c hc
      rcases List.mem_append.mp hc with hc | hc
      · exact hwhole c hc
      · exact hfraction c hc
    · rw [List.append_assoc, List.cons_append, ← hrest, ← hr]
      exact hs
  case h_2 =>
    rw [List.append_nil] at hne
    exact ⟨_, .whole ⟨hne, hwhole⟩, hs⟩

/-- The reader of decimal numbers reads those that are written to the end of the text. -/
lemma readDecimal?_eq_some_iff {negative : Bool} {s : List Char} {d : Decimal} :
    readDecimal? negative s = some d ↔ WritesDecimal negative s d := by
  rw [readDecimal?_eq]
  constructor
  · intro h
    split at h
    case isTrue => cases h
    case isFalse hne =>
      obtain ⟨i, hi, rfl⟩ := Option.map_eq_some_iff.mp h
      obtain ⟨mantissa, hm, hs⟩ := exists_mantissa hne
      have hwrites : WritesDecimal negative _ _ := .mk hm (powerPart?_eq_some_iff.mp hi)
      rwa [← hs] at hwrites
  · rintro ⟨hm, hp⟩
    rw [hm.takeMantissa_append hp, if_neg hm.ne_nil, powerPart?_eq_some_iff.mpr hp, Option.map_some]

/-- A decimal number begins with a digit or with its point. -/
lemma WritesDecimal.exists_head {negative : Bool} {s : List Char} {d : Decimal}
    (h : WritesDecimal negative s d) : ∃ c r, s = c :: r ∧ (c.isDigit = true ∨ c = '.') := by
  obtain @⟨mantissa, whole, fraction, power, i, hm, hp⟩ := h
  clear hp
  cases hm with
  | whole h =>
    obtain ⟨c, ds, rfl⟩ := List.exists_cons_of_ne_nil h.1
    exact ⟨c, _, rfl, .inl (h.2 c List.mem_cons_self)⟩
  | pointed h =>
    cases whole with
    | nil => exact ⟨'.', _, rfl, .inr rfl⟩
    | cons c whole => exact ⟨c, _, rfl, .inl (h.2 c List.mem_cons_self)⟩

lemma WritesDecimal.unsigned {negative : Bool} {s : List Char} {d : Decimal}
    (h : WritesDecimal negative s d) : Unsigned s := by
  obtain ⟨c, r, rfl, hc⟩ := h.exists_head
  constructor <;> rintro ⟨rfl⟩ <;> simp at hc

/-! ### Doubles -/

/-- The words for infinity and for no number. -/
def words : List (List Char) := ["nan".toList, "inf".toList, "infinity".toList]

/-- A word begins with a letter, and the letters stand beyond digits, signs and the point. -/
lemma exists_head_of_word {s : List Char} (h : s.map Char.toLower ∈ words) :
    ∃ c r, s = c :: r ∧ 65 ≤ c.toNat := by
  cases s with
  | nil => simp [words] at h
  | cons c r =>
    refine ⟨c, r, rfl, ?_⟩
    by_contra hlow
    have hsmall : ¬ (c.val ≥ 'A'.val ∧ c.val ≤ 'Z'.val) :=
      fun hrange => hlow (UInt32.le_iff_toNat_le.mp hrange.1)
    have hsame : c.toLower = c := dif_neg hsmall
    simp only [words, List.map_cons, List.mem_cons, List.not_mem_nil, or_false, hsame] at h
    rcases h with h | h | h
    all_goals
      rw [(List.cons.inj h).1] at hlow
      exact hlow (by decide)

/-- So it is no decimal number and has no sign. -/
lemma not_of_word {s : List Char} (h : s.map Char.toLower ∈ words) :
    (∀ negative, readDecimal? negative s = none) ∧ Unsigned s := by
  obtain ⟨c, r, rfl, hc⟩ := exists_head_of_word h
  constructor
  · intro negative
    cases hread : readDecimal? negative (c :: r) with
    | none => rfl
    | some d =>
      obtain ⟨c', r', hs, hhead⟩ := (readDecimal?_eq_some_iff.mp hread).exists_head
      cases hs
      rcases hhead with hdigit | rfl
      · have hrange : 48 ≤ c.toNat ∧ c.toNat ≤ 57 := Char.isDigit_iff_toNat.mp hdigit
        omega
      · exact absurd hc (by decide)
  · constructor <;> rintro ⟨rfl⟩ <;> exact absurd hc (by decide)

/-- **The texts of doubles.**  A text is read as the double that it denotes. -/
lemma readExtended?_eq_some_iff {s : List Char} {x : Extended} :
    readExtended? s = some x ↔ Denotes s x := by
  constructor
  · intro h
    obtain ⟨sign, hsign, hs⟩ := sign_takeSign s
    rw [hs]
    simp only [readExtended?] at h
    split at h
    case h_1 d hread =>
      cases h
      exact .decimal hsign (readDecimal?_eq_some_iff.mp hread)
    case h_2 =>
      simp only [beq_iff_eq, Bool.or_eq_true] at h
      split at h
      case isTrue hnan =>
        cases h
        exact .nan hsign hnan
      case isFalse =>
        split at h
        case isTrue hinf =>
          cases h
          exact .infinite hsign (by simpa using hinf)
        case isFalse => cases h
  · intro h
    cases h with
    | decimal hsign h =>
      rw [readExtended?, takeSign_append hsign h.unsigned]
      simp only [readDecimal?_eq_some_iff.mpr h]
    | infinite hsign h =>
      obtain ⟨hnone, hunsigned⟩ := not_of_word (List.mem_cons_of_mem _ h)
      rw [readExtended?, takeSign_append hsign hunsigned]
      simp only [List.mem_cons, List.not_mem_nil, or_false] at h
      rcases h with h | h <;> simp only [hnone, h] <;> rfl
    | nan hsign h =>
      obtain ⟨hnone, hunsigned⟩ := not_of_word (List.mem_cons.mpr (.inl h))
      rw [readExtended?, takeSign_append hsign hunsigned]
      simp only [hnone, h]
      rfl

end ShowControl.Number
