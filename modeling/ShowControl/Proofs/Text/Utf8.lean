/-
UTF-8 read back.

The bytes of a character are its UTF-8 form as the standard library has it.  A character is read
from the front of bytes that begin with its form (`next?_charBytes_append`), and from no others
(`eq_append_of_next?`), so bytes are the form of a text just if they are read as that text
(`decode?_eq_some_iff`), and reading with replacements leaves such bytes alone
(`decodeLossy_encode`).
-/
import Mathlib.Data.List.Basic
import Mathlib.Tactic.Lemma
import ShowControl.Text.Utf8

namespace ShowControl.Text.Utf8

/-! ### Bytes and their values -/

lemma toNat_toUInt8 {n : ℕ} (h : n < 256) : n.toUInt8.toNat = n := by
  rw [Nat.toUInt8_eq, UInt8.toNat_ofNat']
  omega

lemma toUInt8_of_toNat {b : UInt8} {n : ℕ} (h : b.toNat = n) : n.toUInt8 = b := by
  subst h
  rw [← UInt8.toNat_inj, toNat_toUInt8 b.toNat_lt]

/-- A continuation byte carries six bits. -/
lemma continuation?_eq_some_iff {b : UInt8} {m : ℕ} :
    continuation? b = some m ↔ b.toNat = 0x80 + m ∧ m < 64 := by
  have hrange : (0x80 ≤ b && b < 0xC0) = true ↔ 0x80 ≤ b.toNat ∧ b.toNat < 0xC0 := by
    rw [Bool.and_eq_true, decide_eq_true_eq, decide_eq_true_eq, UInt8.le_iff_toNat_le,
      UInt8.lt_iff_toNat_lt]
    rfl
  rw [continuation?]
  constructor
  · intro h
    split at h
    · next hb =>
      rw [hrange] at hb
      have hm := Option.some.inj h
      omega
    · cases h
  · rintro ⟨hb, hm⟩
    rw [if_pos (hrange.mpr (by omega)), hb, Nat.add_sub_cancel_left]

lemma scalar?_eq_some_iff {least n : ℕ} {c : Char} :
    scalar? least n = some c ↔ c.toNat = n ∧ least ≤ n := by
  rw [scalar?]
  constructor
  · intro h
    by_cases hvalid : n.isValidChar
    · rw [dif_pos hvalid] at h
      by_cases hle : least ≤ n
      · rw [if_pos hle] at h
        obtain rfl := Option.some.inj h
        exact ⟨rfl, hle⟩
      · rw [if_neg hle] at h
        cases h
    · rw [dif_neg hvalid] at h
      cases h
  · rintro ⟨rfl, hle⟩
    have hvalid : c.toNat.isValidChar := c.valid
    rw [dif_pos hvalid, if_pos hle]
    rfl

lemma toNat_char_lt (c : Char) : c.toNat < 0x110000 := by
  have hvalid : c.toNat.isValidChar := c.valid
  rw [Nat.isValidChar] at hvalid
  omega

/-- The bytes of a character are those of the standard library. -/
lemma charBytes_eq (c : Char) : charBytes c = String.utf8EncodeChar c := by
  have hlt := toNat_char_lt c
  simp only [charBytes, String.utf8EncodeChar, Char.toNat_val]
  generalize c.toNat = n at hlt ⊢
  by_cases one : n < 0x80
  · have hone : n ≤ 127 := by omega
    rw [if_pos one, if_pos hone]
  have hone : ¬ n ≤ 127 := by omega
  rw [if_neg one, if_neg hone]
  by_cases two : n < 0x800
  · have htwo : n ≤ 2047 := by omega
    rw [if_pos two, if_pos htwo, show n / 64 % 32 + 192 = 0xC0 + n / 64 by omega,
      Nat.add_comm (n % 64)]
  have htwo : ¬ n ≤ 2047 := by omega
  rw [if_neg two, if_neg htwo]
  by_cases three : n < 0x10000
  · have hthree : n ≤ 65535 := by omega
    rw [if_pos three, if_pos hthree, show n / 4096 % 16 + 224 = 0xE0 + n / 4096 by omega,
      Nat.add_comm (n / 64 % 64), Nat.add_comm (n % 64)]
  have hthree : ¬ n ≤ 65535 := by omega
  rw [if_neg three, if_neg hthree, show n / 262144 % 8 + 240 = 0xF0 + n / 262144 by omega,
    Nat.add_comm (n / 4096 % 64), Nat.add_comm (n / 64 % 64), Nat.add_comm (n % 64)]

lemma encode_eq (s : List Char) : encode s = s.flatMap String.utf8EncodeChar := by
  rw [encode, funext charBytes_eq]

/-! ### One character -/

/-- A character is read back from its bytes. -/
lemma next?_charBytes_append (c : Char) (bytes : List UInt8) :
    next? (charBytes c ++ bytes) = some (c, bytes) := by
  have hlt := toNat_char_lt c
  have hchar : ∀ {least n : ℕ}, n = c.toNat → least ≤ n → scalar? least n = some c :=
    fun hn hle => scalar?_eq_some_iff.mpr ⟨hn.symm, hle⟩
  have hcont : ∀ m, m < 64 → continuation? (0x80 + m).toUInt8 = some m := fun m hm =>
    continuation?_eq_some_iff.mpr ⟨toNat_toUInt8 (by omega), hm⟩
  rw [charBytes]
  generalize c.toNat = n at hlt hchar ⊢
  -- in each case the first byte is outside the ranges before its own
  by_cases one : n < 0x80
  · have hlead : n.toUInt8.toNat = n := toNat_toUInt8 (by omega)
    rw [if_pos one, List.singleton_append, next?.eq_def]
    simp only [UInt8.lt_iff_toNat_lt, UInt8.reduceToNat, hlead, if_pos one]
    exact Option.map_eq_some_iff.mpr ⟨c, hchar rfl (Nat.zero_le n), rfl⟩
  by_cases two : n < 0x800
  · have hlead : (0xC0 + n / 64).toUInt8.toNat = 0xC0 + n / 64 := toNat_toUInt8 (by omega)
    rw [if_neg one, if_pos two, List.cons_append, List.singleton_append, next?.eq_def]
    simp (disch := omega) only [UInt8.lt_iff_toNat_lt, UInt8.le_iff_toNat_le, UInt8.reduceToNat,
      hlead, if_neg, if_pos]
    refine Option.bind_eq_some_iff.mpr ⟨_, hcont _ (Nat.mod_lt _ (by decide)), ?_⟩
    rw [Nat.add_sub_cancel_left]
    exact Option.bind_eq_some_iff.mpr ⟨c, hchar (by omega) (by omega), rfl⟩
  by_cases three : n < 0x10000
  · have hlead : (0xE0 + n / 4096).toUInt8.toNat = 0xE0 + n / 4096 := toNat_toUInt8 (by omega)
    rw [if_neg one, if_neg two, if_pos three, List.cons_append, List.cons_append,
      List.singleton_append, next?.eq_def]
    simp (disch := omega) only [UInt8.lt_iff_toNat_lt, UInt8.reduceToNat, hlead, if_neg, if_pos]
    refine Option.bind_eq_some_iff.mpr ⟨_, hcont _ (Nat.mod_lt _ (by decide)), ?_⟩
    refine Option.bind_eq_some_iff.mpr ⟨_, hcont _ (Nat.mod_lt _ (by decide)), ?_⟩
    rw [Nat.add_sub_cancel_left]
    exact Option.bind_eq_some_iff.mpr ⟨c, hchar (by omega) (by omega), rfl⟩
  · have hlead : (0xF0 + n / 262144).toUInt8.toNat = 0xF0 + n / 262144 :=
      toNat_toUInt8 (by omega)
    rw [if_neg one, if_neg two, if_neg three, List.cons_append, List.cons_append,
      List.cons_append, List.singleton_append, next?.eq_def]
    simp (disch := omega) only [UInt8.lt_iff_toNat_lt, UInt8.reduceToNat, hlead, if_neg]
    refine Option.bind_eq_some_iff.mpr ⟨_, hcont _ (Nat.mod_lt _ (by decide)), ?_⟩
    refine Option.bind_eq_some_iff.mpr ⟨_, hcont _ (Nat.mod_lt _ (by decide)), ?_⟩
    refine Option.bind_eq_some_iff.mpr ⟨_, hcont _ (Nat.mod_lt _ (by decide)), ?_⟩
    rw [Nat.add_sub_cancel_left]
    exact Option.bind_eq_some_iff.mpr ⟨c, hchar (by omega) (by omega), rfl⟩

lemma eq_of_scalar?_bind {least n : ℕ} {c : Char} {r rest : List UInt8}
    (h : ((scalar? least n).bind fun c => some (c, r)) = some (c, rest)) :
    c.toNat = n ∧ least ≤ n ∧ r = rest := by
  obtain ⟨c', hc, hpair⟩ := Option.bind_eq_some_iff.mp h
  obtain ⟨rfl, rfl⟩ := Prod.mk.inj (Option.some.inj hpair)
  obtain ⟨hn, hle⟩ := scalar?_eq_some_iff.mp hc
  exact ⟨hn, hle, rfl⟩

/-- What is read from bytes is what they begin with. -/
lemma eq_append_of_next? {bytes rest : List UInt8} {c : Char}
    (h : next? bytes = some (c, rest)) : bytes = charBytes c ++ rest := by
  -- one case for each length that the first byte can announce, and one where bytes are missing
  fun_cases next? bytes with
  | case1 => cases h
  | case2 b r one =>
    rw [next?.eq_def] at h
    simp only [if_pos one, Option.map_eq_some_iff, Prod.mk.injEq, scalar?_eq_some_iff] at h
    obtain ⟨c', ⟨hn, -⟩, hc, rfl⟩ := h
    subst hc
    rw [UInt8.lt_iff_toNat_lt] at one
    rw [charBytes, if_pos (hn ▸ one), toUInt8_of_toNat hn.symm]
    rfl
  | case3 b one two b1 r =>
    rw [next?.eq_def] at h
    simp only [if_neg one, if_pos two, Option.bind_eq_bind, Option.pure_def] at h
    obtain ⟨n1, h1, h⟩ := Option.bind_eq_some_iff.mp h
    split at h
    · next hlead =>
      obtain ⟨hn, hle, rfl⟩ := eq_of_scalar?_bind h
      rw [continuation?_eq_some_iff] at h1
      simp only [UInt8.lt_iff_toNat_lt, UInt8.le_iff_toNat_le, UInt8.reduceToNat] at one two hlead
      have hb : b.toNat = 0xC0 + c.toNat / 64 := by omega
      have hb1 : b1.toNat = 0x80 + c.toNat % 64 := by omega
      simp (disch := omega) only [charBytes, if_neg, if_pos, toUInt8_of_toNat hb,
        toUInt8_of_toNat hb1, List.cons_append, List.nil_append]
    · cases h
  | case5 b one two three b1 b2 r =>
    rw [next?.eq_def] at h
    simp only [if_neg one, if_neg two, if_pos three, Option.bind_eq_bind, Option.pure_def] at h
    obtain ⟨n1, h1, h⟩ := Option.bind_eq_some_iff.mp h
    obtain ⟨n2, h2, h⟩ := Option.bind_eq_some_iff.mp h
    obtain ⟨hn, hle, rfl⟩ := eq_of_scalar?_bind h
    rw [continuation?_eq_some_iff] at h1 h2
    simp only [UInt8.lt_iff_toNat_lt, UInt8.reduceToNat] at one two three
    have hb : b.toNat = 0xE0 + c.toNat / 4096 := by omega
    have hb1 : b1.toNat = 0x80 + c.toNat / 64 % 64 := by omega
    have hb2 : b2.toNat = 0x80 + c.toNat % 64 := by omega
    simp (disch := omega) only [charBytes, if_neg, if_pos, toUInt8_of_toNat hb,
      toUInt8_of_toNat hb1, toUInt8_of_toNat hb2, List.cons_append, List.nil_append]
  | case7 b one two three b1 b2 b3 r =>
    rw [next?.eq_def] at h
    simp only [if_neg one, if_neg two, if_neg three, Option.bind_eq_bind, Option.pure_def] at h
    obtain ⟨n1, h1, h⟩ := Option.bind_eq_some_iff.mp h
    obtain ⟨n2, h2, h⟩ := Option.bind_eq_some_iff.mp h
    obtain ⟨n3, h3, h⟩ := Option.bind_eq_some_iff.mp h
    obtain ⟨hn, hle, rfl⟩ := eq_of_scalar?_bind h
    rw [continuation?_eq_some_iff] at h1 h2 h3
    simp only [UInt8.lt_iff_toNat_lt, UInt8.reduceToNat] at one two three
    have hb : b.toNat = 0xF0 + c.toNat / 262144 := by omega
    have hb1 : b1.toNat = 0x80 + c.toNat / 4096 % 64 := by omega
    have hb2 : b2.toNat = 0x80 + c.toNat / 64 % 64 := by omega
    have hb3 : b3.toNat = 0x80 + c.toNat % 64 := by omega
    simp (disch := omega) only [charBytes, if_neg, toUInt8_of_toNat hb, toUInt8_of_toNat hb1,
      toUInt8_of_toNat hb2, toUInt8_of_toNat hb3, List.cons_append, List.nil_append]
  | case4 b r one two short =>
    rw [next?.eq_def] at h
    simp only [if_neg one, if_pos two] at h
    cases h
  | case6 b r one two three short =>
    rw [next?.eq_def] at h
    simp only [if_neg one, if_neg two, if_pos three] at h
    cases h
  | case8 b r one two three short =>
    rw [next?.eq_def] at h
    simp only [if_neg one, if_neg two, if_neg three] at h
    cases h

/-! ### Texts -/

lemma encode_cons (c : Char) (s : List Char) : encode (c :: s) = charBytes c ++ encode s := rfl

lemma length_charBytes_pos (c : Char) : 0 < (charBytes c).length := by
  rw [charBytes_eq, String.length_utf8EncodeChar]
  exact Char.utf8Size_pos c

lemma length_le_length_encode (s : List Char) : s.length ≤ (encode s).length := by
  induction s with
  | nil => exact Nat.le_refl _
  | cons c s ih =>
    have hc := length_charBytes_pos c
    rw [encode_cons, List.length_append, List.length_cons]
    omega

/-- What is read and what is left make up the bytes. -/
lemma encode_readFrom {rounds : ℕ} {bytes rest : List UInt8} {acc s : List Char}
    (h : readFrom rounds bytes acc = (s, rest)) :
    encode acc.reverse ++ bytes = encode s ++ rest := by
  induction rounds generalizing bytes acc with
  | zero =>
    obtain ⟨rfl, rfl⟩ := Prod.mk.inj h
    rfl
  | succ rounds ih =>
    rw [readFrom] at h
    split at h
    · next c more hnext =>
      have hmore := ih h
      rw [eq_append_of_next? hnext, ← hmore, List.reverse_cons, encode, encode,
        List.flatMap_append, List.append_assoc, List.flatMap_singleton]
    · obtain ⟨rfl, rfl⟩ := Prod.mk.inj h
      rfl

/-- A text is read from its form, if the rounds suffice. -/
lemma readFrom_encode {s : List Char} {rounds : ℕ} (h : s.length ≤ rounds) (acc : List Char) :
    readFrom rounds (encode s) acc = (acc.reverse ++ s, []) := by
  induction s generalizing rounds acc with
  | nil => cases rounds <;> simp [encode, readFrom, next?]
  | cons c s ih =>
    cases rounds with
    | zero => cases h
    | succ rounds =>
      rw [encode_cons, readFrom, next?_charBytes_append]
      simp only
      rw [ih (Nat.le_of_succ_le_succ h), List.reverse_cons, List.append_assoc,
        List.singleton_append]

/-- **Reading UTF-8.**  Bytes are read as a text just if they are its UTF-8 form. -/
theorem decode?_eq_some_iff {bytes : List UInt8} {s : List Char} :
    decode? bytes = some s ↔ bytes = encode s := by
  rw [decode?]
  constructor
  · intro h
    split at h
    · next s' hread =>
      obtain rfl := Option.some.inj h
      simpa [encode] using encode_readFrom hread
    · cases h
  · rintro rfl
    rw [readable, readFrom_encode (length_le_length_encode s)]
    rfl

/-- Every character takes up one round. -/
lemma go_encode {s : List Char} {rounds : ℕ} (h : s.length ≤ rounds) (acc : List Char) :
    decodeLossy.go rounds (encode s) acc = acc.reverse ++ s := by
  induction s generalizing rounds acc with
  | nil => cases rounds <;> simp [encode, decodeLossy.go, next?]
  | cons c s ih =>
    cases rounds with
    | zero => cases h
    | succ rounds =>
      rw [encode_cons, decodeLossy.go.eq_2 _ _ _ _ _ (next?_charBytes_append c (encode s)),
        ih (Nat.le_of_succ_le_succ h), List.reverse_cons, List.append_assoc,
        List.singleton_append]

/-- Reading with replacements leaves the form of a text alone. -/
lemma decodeLossy_encode (s : List Char) : decodeLossy (encode s) = s :=
  go_encode (length_le_length_encode s) []

end ShowControl.Text.Utf8
