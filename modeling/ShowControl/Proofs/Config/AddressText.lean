/-
The texts of socket addresses.

A version 4 address has its standard text only.  A version 6 address has many: a text writes it if
it is the eight groups with colons between them, where one run of zero groups may be left out and
the last two groups may be shown as a version 4 address (`SocketAddress.WritesIpv6`).  A group is
one to four hexadecimal digits of either case, and zeros in front of it do not matter.

The text of a host is a version 4 address, or a version 6 address in brackets, which may name its
scope (`SocketAddress.WritesHost`).  What is read as a socket address is the text of a host with a
colon and the digits of a port after it, and nothing else (`SocketAddress.read?_eq_some_iff`).

The reader never tries a second way, so the grammar has to say where each part ends: digits end
where no digit follows, and a list of groups ends where no colon and group can follow.
-/
import Mathlib.Data.List.TakeWhile
import Mathlib.Data.Nat.Digits.Lemmas
import ShowControl.Config.Address
import ShowControl.Proofs.Number.DecimalText

namespace ShowControl

open Number (AreDigits natText)

namespace SocketAddress

/-! ### The grammar -/

/-- The text is a group: one to four hexadecimal digits, which denote it. -/
structure WritesGroup (ds : List Char) (g : UInt16) : Prop where
  ne_nil : ds ≠ []
  length_le : ds.length ≤ 4
  isSome : ∀ c ∈ ds, (Text.hexValue? c).isSome = true
  ofDigits_eq : Nat.ofDigits 16 (ds.filterMap Text.hexValue?).reverse = g.toNat

/-- What stands in front of a group: a colon, unless it is the `first`. -/
def groupMark (first : Bool) : List Char := if first then [] else [':']

/-- The text is a list of groups with a mark in front of each.  If a version 4 address is `shown`,
it stands for the last two of them. -/
inductive WritesGroups : (first shown : Bool) → List Char → List UInt16 → Prop where
  | nil {first : Bool} : WritesGroups first false [] []
  | group {first shown : Bool} {ds t : List Char} {g : UInt16} {gs : List UInt16}
      (h : WritesGroup ds g) (ht : WritesGroups false shown t gs) :
      WritesGroups first shown (groupMark first ++ (ds ++ t)) (g :: gs)
  | address {first : Bool} (ip : Ipv4) :
      WritesGroups first true (groupMark first ++ ip.chars) ip.groups

/-- The text is the version 6 address. -/
inductive WritesIpv6 : List Char → Ipv6 → Prop where
  | whole {shown : Bool} {t : List Char} {ip : Ipv6} (h : WritesGroups true shown t ip.groups) :
      WritesIpv6 t ip
  /-- Two colons stand for one zero group or more. -/
  | shortened {shown : Bool} {s t : List Char} {front back : List UInt16} {n : ℕ} {ip : Ipv6}
      (hs : WritesGroups true false s front) (ht : WritesGroups true shown t back)
      (h : ip.groups = front ++ (List.replicate (n + 1) 0 ++ back)) :
      WritesIpv6 (s ++ ':' :: ':' :: t) ip

/-- The text is that of a scope, which may be left out if it is zero. -/
inductive WritesScope : List Char → UInt32 → Prop where
  | absent : WritesScope [] 0
  | number {ds : List Char} {scope : UInt32} (h : AreDigits ds)
      (hvalue : Nat.ofDigitChars 10 ds 0 = scope.toNat) : WritesScope ('%' :: ds) scope

/-- The text is that of the host of the address: all of it but the port. -/
inductive WritesHost : List Char → SocketAddress → Prop where
  | v4 (ip : Ipv4) (port : UInt16) : WritesHost ip.chars (.v4 ip port)
  | v6 {ip : Ipv6} {scope : UInt32} {s t : List Char} (hs : WritesIpv6 s ip)
      (ht : WritesScope t scope) (port : UInt16) :
      WritesHost ('[' :: (s ++ (t ++ [']']))) (.v6 ip scope port)

/-! ### Numbers -/

lemma after?_eq_some_iff {c : Char} {s r : List Char} : after? c s = some r ↔ s = c :: r := by
  cases s with
  | nil => simp [after?]
  | cons d s =>
    rw [after?, List.cons.injEq]
    split <;> simp [*]

@[simp] lemma after?_cons_self (c : Char) (r : List Char) : after? c (c :: r) = some r := if_pos rfl

/-- The text goes on with something else than a digit. -/
def EndsDigits (rest : List Char) : Prop := ∀ c ∈ rest.head?, c.isDigit = false

lemma endsDigits_cons {c : Char} (h : c.isDigit = false) (rest : List Char) :
    EndsDigits (c :: rest) := by
  rintro _ ⟨⟩
  exact h

/-- A number is read with all the digits at the front of the text. -/
lemma readNumber?_eq_some_iff {most n : ℕ} {s r : List Char} :
    readNumber? most s = some (n, r) ↔
      ∃ ds, s = ds ++ r ∧ AreDigits ds ∧ Nat.ofDigitChars 10 ds 0 = n ∧ n ≤ most ∧
        EndsDigits r := by
  constructor
  · intro h
    obtain ⟨hsplit, hdigits, hend⟩ := Number.takeDigits_eq s
    simp only [readNumber?, Number.natOfDigits_eq] at h
    split at h
    case isTrue => cases h
    case isFalse hok =>
      cases h
      simp only [Bool.or_eq_true, List.isEmpty_iff, decide_eq_true_eq, not_or, Nat.not_lt] at hok
      exact ⟨_, hsplit, ⟨hok.1, hdigits⟩, rfl, hok.2, hend⟩
  · rintro ⟨ds, rfl, hdigits, rfl, hle, hend⟩
    have hne : ds.isEmpty = false := List.isEmpty_eq_false_iff.mpr hdigits.1
    rw [readNumber?, Number.takeDigits_append hdigits.2 hend]
    simp only [Number.natOfDigits_eq, hne, Bool.false_or, decide_eq_true_eq,
      if_neg (Nat.not_lt.mpr hle)]

/-! ### Version 4 addresses -/

lemma readOctet?_natText (b : UInt8) {rest : List Char} (hrest : EndsDigits rest) :
    readOctet? (natText b.toNat ++ rest) = some (b, rest) := by
  have hb : b.toNat < 256 := b.toNat_lt
  have hne : (natText b.toNat).isEmpty = false :=
    List.isEmpty_eq_false_iff.mpr (Number.natText_ne_nil _)
  have hlength : ¬ 3 < (natText b.toNat).length := by
    rw [Nat.not_lt, natText, Nat.length_toDigits_le_iff (by decide) (by decide)]
    omega
  have hlead : (decide (1 < (natText b.toNat).length) &&
      (natText b.toNat).head? == some '0') = false := by
    rw [Bool.and_eq_false_iff]
    by_cases hzero : (natText b.toNat).head? = some '0'
    · -- only zero begins with a zero
      rw [Number.eq_zero_of_head?_natText hzero]
      exact .inl rfl
    · exact .inr (beq_eq_false_iff_ne.mpr hzero)
  have hfits : ¬ 255 < b.toNat := by omega
  rw [readOctet?, Number.takeDigits_append (fun _ => Number.isDigit_of_mem_natText) hrest]
  simp only [Number.natOfDigits_natText, hne, hlead, hlength, hfits, decide_false, Bool.or_self,
    Bool.false_eq_true, if_false]
  rw [Nat.toUInt8_eq, UInt8.ofNat_toNat]

/-- A number of a version 4 address is read from its standard text. -/
lemma readOctet?_eq_some_iff {s r : List Char} {b : UInt8} :
    readOctet? s = some (b, r) ↔ s = natText b.toNat ++ r ∧ EndsDigits r := by
  constructor
  · intro h
    obtain ⟨hsplit, hdigits, hend⟩ := Number.takeDigits_eq s
    simp only [readOctet?, Number.natOfDigits_eq] at h
    split at h
    case isTrue => cases h
    case isFalse hok =>
      cases h
      simp only [Bool.or_eq_true, Bool.and_eq_true, List.isEmpty_iff, decide_eq_true_eq, beq_iff_eq,
        not_or, not_and, Nat.not_lt] at hok
      obtain ⟨⟨⟨hne, -⟩, hlead⟩, hle⟩ := hok
      have hlength := List.length_pos_of_ne_nil hne
      have htext := AreDigits.natText_eq ⟨hne, hdigits⟩ fun hzero => by
        by_contra hone
        exact hlead (by omega) hzero
      refine ⟨?_, hend⟩
      rwa [Nat.toUInt8_eq, UInt8.toNat_ofNat', Nat.mod_eq_of_lt (by omega), htext]
  · rintro ⟨rfl, hrest⟩
    exact readOctet?_natText b hrest

/-- A version 4 address is read from its standard text. -/
lemma readIpv4?_eq_some_iff {s r : List Char} {ip : Ipv4} :
    readIpv4? s = some (ip, r) ↔ s = ip.chars ++ r ∧ EndsDigits r := by
  have hpoint (s : List Char) : EndsDigits ('.' :: s) := endsDigits_cons (by decide) s
  constructor
  · intro h
    simp only [readIpv4?, Option.bind_eq_bind, Option.bind_eq_some_iff, Prod.exists,
      after?_eq_some_iff, readOctet?_eq_some_iff, Option.pure_def, Option.some.injEq,
      Prod.mk.injEq] at h
    obtain ⟨a, _, ⟨rfl, -⟩, _, rfl, b, _, ⟨rfl, -⟩, _, rfl, c, _, ⟨rfl, -⟩, _, rfl, d, _,
      ⟨rfl, hend⟩, rfl, rfl⟩ := h
    exact ⟨by simp [Ipv4.chars], hend⟩
  · rintro ⟨rfl, hrest⟩
    simp only [Ipv4.chars, List.append_assoc, List.cons_append, readIpv4?,
      readOctet?_natText _ (hpoint _), readOctet?_natText _ hrest, after?_cons_self,
      Option.bind_eq_bind, Option.bind_some, Option.pure_def]

/-! ### Groups -/

/-- Where a group ends: no hexadecimal digit follows, and no point. -/
def EndsGroup (rest : List Char) : Prop := ∀ c ∈ rest.head?, c ≠ '.' ∧ Text.hexValue? c = none

lemma endsGroup_cons {c : Char} (hpoint : c ≠ '.') (hhex : Text.hexValue? c = none)
    (r : List Char) : EndsGroup (c :: r) := by
  rintro _ ⟨⟩
  exact ⟨hpoint, hhex⟩

lemma endsGroup_colon (r : List Char) : EndsGroup (':' :: r) :=
  endsGroup_cons (by decide) (by decide) r

lemma isSome_hexValue?_of_isDigit {c : Char} (h : c.isDigit = true) :
    (Text.hexValue? c).isSome = true := by
  rw [Text.hexValue?, if_pos h]
  rfl

lemma EndsGroup.endsDigits {rest : List Char} (h : EndsGroup rest) : EndsDigits rest := by
  intro c hc
  by_contra hdigit
  have hhex := isSome_hexValue?_of_isDigit (Bool.eq_true_of_not_eq_false hdigit)
  rw [(h c hc).2] at hhex
  cases hhex

lemma hexValue?_lt {c : Char} {v : ℕ} (h : Text.hexValue? c = some v) : v < 16 := by
  have hle {d : Char} (hcd : c ≤ d) : c.toNat ≤ d.toNat := hcd
  rw [Text.hexValue?] at h
  split at h
  case isTrue hdigit =>
    obtain rfl := Option.some.inj h
    have hlt := (Number.digitChar_of_isDigit hdigit).1
    omega
  case isFalse =>
    split at h
    case isTrue hlower =>
      obtain rfl := Option.some.inj h
      have hlt : c.toNat ≤ 102 := hle hlower.2
      omega
    case isFalse =>
      split at h
      case isTrue hupper =>
        obtain rfl := Option.some.inj h
        have hlt : c.toNat ≤ 70 := hle hupper.2
        omega
      case isFalse => cases h

/-- The number of hexadecimal digits is built from the left. -/
lemma foldl_hexValue? {ds : List Char} (h : ∀ c ∈ ds, (Text.hexValue? c).isSome = true) :
    ds.foldl (fun n c => 16 * n + (Text.hexValue? c).getD 0) 0 =
      Nat.ofDigits 16 (ds.filterMap Text.hexValue?).reverse := by
  have hvalues (n : ℕ) : ds.foldl (fun n c => 16 * n + (Text.hexValue? c).getD 0) n =
      (ds.filterMap Text.hexValue?).foldl (fun n v => v + 16 * n) n := by
    induction ds generalizing n with
    | nil => rfl
    | cons c ds ih =>
      obtain ⟨hc, hds⟩ := List.forall_mem_cons.mp h
      obtain ⟨v, hv⟩ := Option.isSome_iff_exists.mp hc
      rw [List.foldl_cons, List.filterMap_cons_some hv, List.foldl_cons, hv, Option.getD_some,
        ih hds, Nat.add_comm]
  rw [hvalues, Nat.ofDigits_eq_foldr, List.foldr_reverse]
  rfl

/-- Up to four hexadecimal digits denote a group. -/
lemma ofDigits_lt {ds : List Char} (h : ds.length ≤ 4) :
    Nat.ofDigits 16 (ds.filterMap Text.hexValue?).reverse < 2 ^ 16 := by
  have hsmall : ∀ v ∈ (ds.filterMap Text.hexValue?).reverse, v < 16 := by
    intro v hv
    obtain ⟨c, -, hc⟩ := List.mem_filterMap.mp (List.mem_reverse.mp hv)
    exact hexValue?_lt hc
  have hlength : (ds.filterMap Text.hexValue?).reverse.length ≤ 4 := by
    rw [List.length_reverse]
    exact (List.length_filterMap_le _ ds).trans h
  calc Nat.ofDigits 16 (ds.filterMap Text.hexValue?).reverse
      < 16 ^ (ds.filterMap Text.hexValue?).reverse.length :=
        Nat.ofDigits_lt_base_pow_length (by decide) hsmall
    _ ≤ 16 ^ 4 := Nat.pow_le_pow_right (by decide) hlength

/-- What is read as a group is one. -/
lemma writesGroup_of_readGroup? {s r : List Char} {g : UInt16}
    (h : readGroup? s = some (g, r)) : ∃ ds, s = ds ++ r ∧ WritesGroup ds g := by
  have hhex : ∀ c ∈ s.takeWhile fun c => (Text.hexValue? c).isSome,
      (Text.hexValue? c).isSome = true := fun c hc => List.mem_takeWhile_imp (l := s) hc
  simp only [readGroup?, List.span_eq_takeWhile_dropWhile] at h
  split at h
  case isTrue => cases h
  case isFalse hok =>
    cases h
    simp only [Bool.or_eq_true, List.isEmpty_iff, decide_eq_true_eq, not_or, Nat.not_lt] at hok
    refine ⟨_, List.takeWhile_append_dropWhile.symm, hok.1, hok.2, hhex, ?_⟩
    rw [foldl_hexValue? hhex, Nat.toUInt16_eq, UInt16.toNat_ofNat',
      Nat.mod_eq_of_lt (ofDigits_lt hok.2)]

/-- The hexadecimal digits at the front of a text end where no such digit follows. -/
lemma span_hexValue? {ds rest : List Char} (hds : ∀ c ∈ ds, (Text.hexValue? c).isSome = true)
    (hrest : EndsGroup rest) :
    ((ds ++ rest).span fun c => (Text.hexValue? c).isSome) = (ds, rest) := by
  have hend : rest.takeWhile (fun c => (Text.hexValue? c).isSome) = [] ∧
      rest.dropWhile (fun c => (Text.hexValue? c).isSome) = rest := by
    cases rest with
    | nil => exact ⟨rfl, rfl⟩
    | cons c rest => simp [(hrest c rfl).2]
  rw [List.span_eq_takeWhile_dropWhile, List.takeWhile_append_of_pos hds,
    List.dropWhile_append_of_pos hds, hend.1, hend.2, List.append_nil]

/-- A group is read up to where it ends. -/
lemma WritesGroup.readGroup?_eq {ds rest : List Char} {g : UInt16} (h : WritesGroup ds g)
    (hrest : EndsGroup rest) : readGroup? (ds ++ rest) = some (g, rest) := by
  have hne : ds.isEmpty = false := List.isEmpty_eq_false_iff.mpr h.ne_nil
  rw [readGroup?, span_hexValue? h.isSome hrest]
  simp only [hne, foldl_hexValue? h.isSome, h.ofDigits_eq, Nat.not_lt.mpr h.length_le,
    decide_false, Bool.or_self, Bool.false_eq_true, if_false]
  rw [Nat.toUInt16_eq, UInt16.ofNat_toNat]

lemma readGroup?_of_endsGroup {rest : List Char} (hrest : EndsGroup rest) :
    readGroup? rest = none := by
  have hspan : (([] ++ rest).span fun c => (Text.hexValue? c).isSome) = ([], rest) :=
    span_hexValue? nofun hrest
  rw [List.nil_append] at hspan
  rw [readGroup?, hspan]
  rfl

/-- Hexadecimal digits are not taken for a version 4 address, since no point follows them. -/
lemma readIpv4?_of_endsGroup {ds rest : List Char}
    (hds : ∀ c ∈ ds, (Text.hexValue? c).isSome = true) (hrest : EndsGroup rest) :
    readIpv4? (ds ++ rest) = none := by
  refine Option.eq_none_iff_forall_ne_some.mpr ?_
  rintro ⟨ip, r⟩ hread
  obtain ⟨hsplit, -⟩ := readIpv4?_eq_some_iff.mp hread
  rw [Ipv4.chars, List.append_assoc] at hsplit
  rcases List.append_eq_append_iff.mp hsplit with ⟨more, hmore, hrest'⟩ | ⟨more, hmore, hpoint⟩
  · -- the rest begins with a digit or with the point
    cases more with
    | nil => exact (hrest '.' (hrest' ▸ rfl)).1 rfl
    | cons c more =>
      have hmem : c ∈ natText ip.a.toNat := hmore ▸ List.mem_append_right ds List.mem_cons_self
      have hdigit := hrest.endsDigits c (hrest' ▸ rfl)
      rw [Number.isDigit_of_mem_natText hmem] at hdigit
      cases hdigit
  · -- the point stands among the digits or at the front of the rest
    cases more with
    | nil => exact (hrest '.' (by rw [← show _ = rest from hpoint]; rfl)).1 rfl
    | cons c more =>
      obtain ⟨rfl, -⟩ := List.cons.inj hpoint
      exact absurd (hds '.' (hmore ▸ List.mem_append_right _ List.mem_cons_self)) (by decide)

/-! ### Lists of groups -/

/-- Where a list of groups ends: no group can follow, with or without a colon. -/
structure EndsGroups (rest : List Char) : Prop where
  endsGroup : EndsGroup rest
  endsGroup_after : ∀ r, rest = ':' :: r → EndsGroup r

lemma endsGroups_cons {c : Char} (hcolon : c ≠ ':') (hpoint : c ≠ '.')
    (hhex : Text.hexValue? c = none) (r : List Char) : EndsGroups (c :: r) where
  endsGroup := endsGroup_cons hpoint hhex r
  endsGroup_after := by
    rintro _ ⟨⟩
    exact absurd rfl hcolon

lemma endsGroups_colons (r : List Char) : EndsGroups (':' :: ':' :: r) where
  endsGroup := endsGroup_colon _
  endsGroup_after := by
    rintro _ ⟨⟩
    exact endsGroup_colon r

/-- What the reader goes on with is what stands behind the mark. -/
lemma mark_eq_some_iff {first : Bool} {s r : List Char} :
    (if first then some s else after? ':' s) = some r ↔ s = groupMark first ++ r := by
  cases first with
  | true => simp [groupMark]
  | false => simp [groupMark, after?_eq_some_iff]

/-- What is read as a list of groups is one, and there is room for it. -/
lemma writesGroups_of_readGroups {first shown : Bool} {room : ℕ} {s r : List Char}
    {gs : List UInt16} (h : readGroups first room s = (gs, shown, r)) :
    ∃ t, s = t ++ r ∧ WritesGroups first shown t gs ∧ gs.length ≤ room := by
  induction room generalizing first shown s r gs with
  | zero =>
    cases h
    exact ⟨[], rfl, .nil, Nat.le_refl 0⟩
  | succ room ih =>
    have hstop (hnil : ([], false, s) = (gs, shown, r)) :
        ∃ t, s = t ++ r ∧ WritesGroups first shown t gs ∧ gs.length ≤ room + 1 := by
      cases hnil
      exact ⟨[], rfl, .nil, Nat.zero_le _⟩
    rw [readGroups] at h
    split at h
    case h_1 => exact hstop h
    case h_2 u hmark =>
      rw [mark_eq_some_iff] at hmark
      split at h
      case h_1 ip v haddress =>
        cases h
        split at haddress
        case isTrue => cases haddress
        case isFalse hroom =>
          obtain ⟨rfl, -⟩ := readIpv4?_eq_some_iff.mp haddress
          refine ⟨_, by rw [hmark, List.append_assoc], .address ip, ?_⟩
          show 2 ≤ room + 1
          omega
      case h_2 =>
        split at h
        case h_1 g v hgroup =>
          obtain ⟨ds, rfl, hds⟩ := writesGroup_of_readGroup? hgroup
          rcases hread : readGroups false room v with ⟨gs', shown', r'⟩
          rw [hread] at h
          cases h
          obtain ⟨t, rfl, ht, hle⟩ := ih hread
          exact ⟨_, by rw [hmark, List.append_assoc, List.append_assoc], .group hds ht,
            Nat.succ_le_succ hle⟩
        case h_2 => exact hstop h

lemma readGroups_of_endsGroups {rest : List Char} (hrest : EndsGroups rest) (first : Bool)
    (room : ℕ) : readGroups first room rest = ([], false, rest) := by
  cases room with
  | zero => rfl
  | succ room =>
    rw [readGroups]
    cases hmark : (if first then some rest else after? ':' rest) with
    | none => rfl
    | some r =>
      have hr : EndsGroup r := by
        have hsplit := mark_eq_some_iff.mp hmark
        cases first with
        | true => rw [show rest = r from hsplit] at hrest; exact hrest.endsGroup
        | false => exact hrest.endsGroup_after r hsplit
      have hnoAddress : readIpv4? ([] ++ r) = none := readIpv4?_of_endsGroup nofun hr
      rw [List.nil_append] at hnoAddress
      simp only [hnoAddress, ite_self, readGroup?_of_endsGroup hr]

/-- Behind a group the list goes on with a colon, or it ends. -/
lemma WritesGroups.endsGroup {shown : Bool} {t rest : List Char} {gs : List UInt16}
    (h : WritesGroups false shown t gs) (hrest : EndsGroup rest) : EndsGroup (t ++ rest) := by
  cases h with
  | nil => exact hrest
  | group => exact endsGroup_colon _
  | address => exact endsGroup_colon _

/-- A list of groups is read up to where it ends, if there is room for it. -/
lemma WritesGroups.readGroups_eq {first shown : Bool} {t rest : List Char} {gs : List UInt16}
    (h : WritesGroups first shown t gs) (hrest : EndsGroups rest) {room : ℕ}
    (hroom : gs.length ≤ room) : readGroups first room (t ++ rest) = (gs, shown, rest) := by
  induction h generalizing room with
  | nil => exact readGroups_of_endsGroups hrest _ room
  | @group first shown ds t g gs hg ht ih =>
    obtain ⟨room, rfl⟩ : ∃ k, room = k + 1 := ⟨room - 1, by rw [List.length_cons] at hroom; omega⟩
    have hend := ht.endsGroup hrest.endsGroup
    have hmark := mark_eq_some_iff.mpr
      (show groupMark first ++ (ds ++ t) ++ rest = groupMark first ++ (ds ++ (t ++ rest)) by simp)
    rw [readGroups, hmark]
    simp only [readIpv4?_of_endsGroup hg.isSome hend, ite_self, hg.readGroup?_eq hend,
      ih (Nat.le_of_succ_le_succ hroom)]
  | @address first ip =>
    obtain ⟨room, rfl⟩ : ∃ k, room = k + 1 := ⟨room - 1, by
      rw [show ip.groups.length = 2 from rfl] at hroom; omega⟩
    have hne : room ≠ 0 := by
      rw [show ip.groups.length = 2 from rfl] at hroom
      omega
    have hmark := mark_eq_some_iff.mpr (List.append_assoc (groupMark first) ip.chars rest)
    rw [readGroups, hmark]
    simp only [if_neg hne, readIpv4?_eq_some_iff.mpr ⟨rfl, hrest.endsGroup.endsDigits⟩]

/-! ### Version 6 addresses -/

lemma padded?_eq_some_iff {ip : Ipv6} {front back : List UInt16} :
    padded? front back = some ip ↔
      ip.groups = front ++ (List.replicate (8 - (front.length + back.length)) 0 ++ back) := by
  obtain ⟨groups, eight⟩ := ip
  rw [padded?]
  constructor
  · intro h
    split at h
    case isTrue => exact congrArg Ipv6.groups (Option.some.inj h).symm
    case isFalse => cases h
  · rintro rfl
    exact dif_pos eight

/-- What is read as a version 6 address is one. -/
lemma writesIpv6_of_readIpv6? {s r : List Char} {ip : Ipv6} (h : readIpv6? s = some (ip, r)) :
    ∃ t, s = t ++ r ∧ WritesIpv6 t ip := by
  rw [readIpv6?] at h
  rcases hread : readGroups true 8 s with ⟨front, shown, u⟩
  obtain ⟨t, rfl, ht, hle⟩ := writesGroups_of_readGroups hread
  rw [hread] at h
  dsimp only at h
  split at h
  case isTrue hfull =>
    obtain ⟨ip', hip, heq⟩ := Option.map_eq_some_iff.mp h
    cases heq
    rw [padded?_eq_some_iff, hfull] at hip
    simp only [List.length_nil, Nat.add_zero, Nat.sub_self, List.replicate_zero,
      List.append_nil] at hip
    exact ⟨t, rfl, .whole (hip ▸ ht)⟩
  case isFalse hne =>
    split at h
    case isTrue => cases h
    case isFalse hplain =>
      rw [Bool.not_eq_true] at hplain
      subst hplain
      split at h
      case h_1 v =>
        rcases hback : readGroups true (7 - front.length) v with ⟨back, shown', w⟩
        obtain ⟨t', rfl, ht', hle'⟩ := writesGroups_of_readGroups hback
        rw [hback] at h
        obtain ⟨ip', hip, heq⟩ := Option.map_eq_some_iff.mp h
        cases heq
        rw [padded?_eq_some_iff,
          show 8 - (front.length + back.length) = 7 - (front.length + back.length) + 1 by omega]
          at hip
        exact ⟨t ++ ':' :: ':' :: t', by simp, .shortened ht ht' hip⟩
      case h_2 => cases h

/-- A version 6 address is read up to where it ends. -/
lemma readIpv6?_of_writes {ip : Ipv6} {t rest : List Char} (h : WritesIpv6 t ip)
    (hrest : EndsGroups rest) : readIpv6? (t ++ rest) = some (ip, rest) := by
  have height := ip.eight
  cases h with
  | whole h =>
    have hip : padded? ip.groups [] = some ip := padded?_eq_some_iff.mpr (by simp [height])
    rw [readIpv6?, h.readGroups_eq hrest (Nat.le_of_eq height)]
    simp only [height, if_true, hip, Option.map_some]
  | @shortened shown s t front back n _ hs ht hgroups =>
    rw [hgroups, List.length_append, List.length_append, List.length_replicate] at height
    have hip : padded? front back = some ip := by
      rw [padded?_eq_some_iff, show 8 - (front.length + back.length) = n + 1 by omega]
      exact hgroups
    have hfront := hs.readGroups_eq (endsGroups_colons (t ++ rest))
      (show front.length ≤ 8 by omega)
    have hback := ht.readGroups_eq hrest (show back.length ≤ 7 - front.length by omega)
    rw [List.append_assoc, readIpv6?, List.cons_append, List.cons_append, hfront]
    simp only [if_neg (show front.length ≠ 8 by omega), Bool.false_eq_true, if_false, hback, hip,
      Option.map_some]

/-! ### Scopes and ports -/

lemma writesScope_of_readScope? {s r : List Char} {scope : UInt32}
    (h : readScope? s = some (scope, r)) : ∃ t, s = t ++ r ∧ WritesScope t scope := by
  unfold readScope? at h
  split at h
  case h_1 u =>
    obtain ⟨⟨n, v⟩, hread, heq⟩ := Option.map_eq_some_iff.mp h
    obtain ⟨ds, rfl, hds, hvalue, hle, -⟩ := readNumber?_eq_some_iff.mp hread
    cases heq
    refine ⟨'%' :: ds, rfl, .number hds ?_⟩
    rw [hvalue, Nat.toUInt32_eq, UInt32.toNat_ofNat', Nat.mod_eq_of_lt (by omega)]
  case h_2 =>
    cases h
    exact ⟨[], rfl, .absent⟩

lemma readScope?_of_writes {t : List Char} {scope : UInt32} (h : WritesScope t scope)
    (r : List Char) : readScope? (t ++ ']' :: r) = some (scope, ']' :: r) := by
  cases h with
  | absent => rfl
  | @number ds scope hds hvalue =>
    have hread : readNumber? (2 ^ 32 - 1) (ds ++ ']' :: r) = some (scope.toNat, ']' :: r) :=
      readNumber?_eq_some_iff.mpr ⟨ds, rfl, hds, hvalue, Nat.le_of_lt_succ scope.toNat_lt,
        endsDigits_cons (by decide) r⟩
    rw [List.cons_append, readScope?, hread, Option.map_some]
    simp only [Nat.toUInt32_eq, UInt32.ofNat_toNat]

lemma endsGroups_scope {t : List Char} {scope : UInt32} (h : WritesScope t scope)
    (r : List Char) : EndsGroups (t ++ ']' :: r) := by
  cases h with
  | absent => exact endsGroups_cons (by decide) (by decide) (by decide) r
  | number => exact endsGroups_cons (by decide) (by decide) (by decide) _

/-- The port is the digits to the end of the text. -/
lemma readPort?_eq_some_iff {s : List Char} {port : UInt16} :
    readPort? s = some port ↔
      ∃ ds, s = ':' :: ds ∧ AreDigits ds ∧ Nat.ofDigitChars 10 ds 0 = port.toNat := by
  rw [readPort?, Option.bind_eq_bind, Option.bind_eq_some_iff]
  constructor
  · rintro ⟨u, hcolon, h⟩
    rw [after?_eq_some_iff] at hcolon
    obtain ⟨⟨n, r⟩, hread, hend⟩ := Option.bind_eq_some_iff.mp h
    obtain ⟨ds, rfl, hds, hvalue, hle, -⟩ := readNumber?_eq_some_iff.mp hread
    cases r with
    | nil =>
      obtain rfl := Option.some.inj hend
      refine ⟨ds, by rw [hcolon, List.append_nil], hds, ?_⟩
      rw [hvalue, Nat.toUInt16_eq, UInt16.toNat_ofNat', Nat.mod_eq_of_lt (by omega)]
    | cons c r => cases hend
  · rintro ⟨ds, rfl, hds, hvalue⟩
    have hread : readNumber? (2 ^ 16 - 1) ds = some (port.toNat, []) :=
      readNumber?_eq_some_iff.mpr ⟨ds, (List.append_nil ds).symm, hds, hvalue,
        Nat.le_of_lt_succ port.toNat_lt, nofun⟩
    refine ⟨ds, after?_cons_self _ _, ?_⟩
    rw [hread, Option.bind_eq_bind, Option.bind_some]
    simp only [Nat.toUInt16_eq, UInt16.ofNat_toNat, Option.pure_def]

/-! ### Socket addresses -/

/-- A text that begins with no bracket. -/
lemma read?_of_head {s : List Char} (h : s.head? ≠ some '[') :
    read? s = (do let (ip, r) ← readIpv4? s; return .v4 ip (← readPort? r)) := by
  unfold read?
  split
  · exact absurd rfl h
  · rfl

/-- A version 4 address begins with a digit. -/
lemma head?_ipv4_ne (ip : Ipv4) (rest : List Char) : (ip.chars ++ rest).head? ≠ some '[' := by
  intro h
  rw [Ipv4.chars, List.append_assoc, List.head?_append_of_ne_nil _ (Number.natText_ne_nil _)] at h
  exact absurd (Number.isDigit_of_mem_natText (List.mem_of_head? h)) (by decide)

/-- What is read as a socket address is the text of its host with a port. -/
lemma writesHost_of_read? {s : List Char} {a : SocketAddress} (h : read? s = some a) :
    ∃ host ds, s = host ++ ':' :: ds ∧ WritesHost host a ∧ AreDigits ds ∧
      Nat.ofDigitChars 10 ds 0 = a.port.toNat := by
  unfold read? at h
  split at h
  case h_1 =>
    simp only [Option.bind_eq_bind, Option.bind_eq_some_iff, Prod.exists, after?_eq_some_iff,
      readPort?_eq_some_iff, Option.pure_def, Option.some.injEq] at h
    obtain ⟨ip, _, hip, scope, _, hscope, _, rfl, port, ⟨ds, rfl, hds, hport⟩, rfl⟩ := h
    obtain ⟨s, rfl, hs⟩ := writesIpv6_of_readIpv6? hip
    obtain ⟨t, rfl, ht⟩ := writesScope_of_readScope? hscope
    exact ⟨_, ds, by simp, .v6 hs ht port, hds, hport⟩
  case h_2 =>
    simp only [Option.bind_eq_bind, Option.bind_eq_some_iff, Prod.exists, readPort?_eq_some_iff,
      Option.pure_def, Option.some.injEq] at h
    obtain ⟨ip, _, hip, port, ⟨ds, rfl, hds, hport⟩, rfl⟩ := h
    obtain ⟨rfl, -⟩ := readIpv4?_eq_some_iff.mp hip
    exact ⟨_, ds, rfl, .v4 ip port, hds, hport⟩

/-- The text of a host with a port is read as the address. -/
lemma WritesHost.read?_eq {host ds : List Char} {a : SocketAddress} (h : WritesHost host a)
    (hds : AreDigits ds) (hvalue : Nat.ofDigitChars 10 ds 0 = a.port.toNat) :
    read? (host ++ ':' :: ds) = some a := by
  have hport := readPort?_eq_some_iff.mpr ⟨ds, rfl, hds, hvalue⟩
  cases h with
  | v4 ip port =>
    have hip : readIpv4? (ip.chars ++ ':' :: ds) = some (ip, ':' :: ds) :=
      readIpv4?_eq_some_iff.mpr ⟨rfl, endsDigits_cons (by decide) ds⟩
    rw [read?_of_head (head?_ipv4_ne ip _), hip, Option.bind_eq_bind, Option.bind_some]
    dsimp only
    rw [hport]
    rfl
  | @v6 ip scope s t hs ht port =>
    have hip := readIpv6?_of_writes hs (endsGroups_scope ht (':' :: ds))
    have hscope := readScope?_of_writes ht (':' :: ds)
    have hassoc : '[' :: (s ++ (t ++ [']'])) ++ ':' :: ds =
        '[' :: (s ++ (t ++ ']' :: ':' :: ds)) := by simp
    rw [hassoc, read?, hip]
    simp only [Option.bind_eq_bind, Option.bind_some, hscope, after?_cons_self, hport]
    rfl

/-- **What is read as a socket address.**  It is the text of a host, a colon, and the digits of the
port. -/
lemma read?_eq_some_iff {s : List Char} {a : SocketAddress} :
    read? s = some a ↔ ∃ host ds, s = host ++ ':' :: ds ∧ WritesHost host a ∧ AreDigits ds ∧
      Nat.ofDigitChars 10 ds 0 = a.port.toNat := by
  refine ⟨writesHost_of_read?, ?_⟩
  rintro ⟨host, ds, rfl, hhost, hds, hvalue⟩
  exact hhost.read?_eq hds hvalue

end SocketAddress

end ShowControl
