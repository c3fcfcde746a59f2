/-
Queries that are written as they are meant.

A text of ASCII characters without `%` and `+` stands for itself (`Query.word_of_plain`).  Digits
are such characters, so the target `/queue?limit=n` asks for `n` cues, for every limit that fits in
64 bits (`Query.limit_limitQuery`); a query without a pair of the name `limit` asks for no limit
(`Query.limit_of_forall_ne`).
-/
import Mathlib.Data.List.TakeDrop
import Mathlib.Data.List.TakeWhile
import ShowControl.Http.Endpoint
import ShowControl.Http.Query
import ShowControl.Proofs.Number.Digits
import ShowControl.Proofs.Text.Utf8

namespace ShowControl

namespace Text

/-- A text without the separator is a piece by itself. -/
lemma pieces_of_not_mem {separator : Char} {s : List Char} (h : separator ∉ s) :
    pieces separator s = [s] := by
  induction s with
  | nil => rfl
  | cons c s ih =>
    rw [List.mem_cons, not_or] at h
    rw [pieces, if_neg (by simpa using Ne.symm h.1), ih h.2]

end Text

namespace Http

namespace Query

/-- Bytes that are neither `%` nor `+` stand for themselves. -/
lemma unescape_of_forall_ne {bytes : List UInt8} (h : ∀ b ∈ bytes, b ≠ 0x25 ∧ b ≠ 0x2B) :
    unescape bytes = bytes := by
  have hplain : ∀ b ∈ bytes, plain b = b := by
    intro b hb
    rw [plain, if_neg (by simpa using (h b hb).2)]
  fun_induction unescape bytes with
  | case1 => rfl
  | case2 c a b r byte hbyte ih =>
    -- only a `%` starts an escape
    rw [if_neg (by simpa using (h c List.mem_cons_self).1)] at hbyte
    cases hbyte
  | case3 c a b r hnone ih =>
    rw [hplain c List.mem_cons_self,
      ih (fun d hd => h d (List.mem_cons_of_mem c hd))
        fun d hd => hplain d (List.mem_cons_of_mem c hd)]
  | case4 c r hshort ih =>
    rw [hplain c List.mem_cons_self,
      ih (fun d hd => h d (List.mem_cons_of_mem c hd))
        fun d hd => hplain d (List.mem_cons_of_mem c hd)]

/-- A character that stands for itself in a query. -/
structure IsPlain (c : Char) : Prop where
  ascii : c.toNat < 0x80
  ne_percent : c ≠ '%'
  ne_plus : c ≠ '+'

/-- A text of plain characters stands for itself. -/
lemma word_of_plain {s : List Char} (h : ∀ c ∈ s, IsPlain c) : word s = s := by
  have hbytes : ∀ b ∈ Text.Utf8.encode s, b ≠ 0x25 ∧ b ≠ 0x2B := by
    intro b hb
    obtain ⟨c, hc, hbc⟩ := List.mem_flatMap.mp hb
    have hplain := h c hc
    have hlt := hplain.ascii
    rw [Text.Utf8.charBytes] at hbc
    simp only [if_pos hlt, List.mem_singleton] at hbc
    have hof : ∀ n : ℕ, n < 0x80 → b = n.toUInt8 → c = Char.ofNat n := by
      rintro n hn rfl
      have hnat := congrArg UInt8.toNat hbc
      rw [Text.Utf8.toNat_toUInt8 (by omega), Text.Utf8.toNat_toUInt8 (by omega)] at hnat
      rw [show n = c.toNat by omega, Char.ofNat_toNat]
    exact ⟨fun hb => hplain.ne_percent (hof 0x25 (by omega) hb),
      fun hb => hplain.ne_plus (hof 0x2B (by omega) hb)⟩
  rw [word, unescape_of_forall_ne hbytes, Text.Utf8.decodeLossy_encode]

lemma isPlain_of_isDigit {c : Char} (h : c.isDigit = true) : IsPlain c := by
  refine ⟨?_, ?_, ?_⟩
  · simp only [Char.isDigit, Bool.and_eq_true, decide_eq_true_eq, UInt32.le_iff_toNat_le] at h
    exact Nat.lt_of_le_of_lt h.2 (by decide)
  · rintro rfl
    exact absurd h (by decide)
  · rintro rfl
    exact absurd h (by decide)

/-! ### Limits -/

lemma limitAmong_of_forall_ne {found : Option ℕ} {ps : List (List Char × List Char)}
    (h : ∀ p ∈ ps, p.1 ≠ "limit".toList) : limitAmong found ps = .ok found := by
  induction ps with
  | nil => rfl
  | cons p ps ih =>
    have hp : (p.1 == "limit".toList) = false := beq_false_of_ne (h p List.mem_cons_self)
    rw [limitAmong.eq_def]
    simp only [hp, Bool.false_eq_true, if_false]
    exact ih fun q hq => h q (List.mem_cons_of_mem p hq)

/-- A query that does not name a limit asks for none. -/
lemma limit_of_forall_ne {query : List Char} (h : ∀ p ∈ pairs query, p.1 ≠ "limit".toList) :
    limit query = .ok none :=
  limitAmong_of_forall_ne h

/-- The query for the first `n` cues. -/
def limitQuery (n : ℕ) : List Char := "limit=".toList ++ Number.natText n

lemma pairs_limitQuery (n : ℕ) :
    pairs (limitQuery n) = [("limit".toList, Number.natText n)] := by
  have hdigit : ∀ c ∈ Number.natText n, c.isDigit = true := fun c => Number.isDigit_of_mem_natText
  have hamp : '&' ∉ limitQuery n := by
    intro hmem
    rcases List.mem_append.mp hmem with hmem | hmem
    · exact absurd hmem (by decide)
    · exact absurd (hdigit _ hmem) (by decide)
  have hfilled : Text.filledPieces '&' (limitQuery n) = [limitQuery n] := by
    rw [Text.filledPieces, Text.pieces_of_not_mem hamp]
    rfl
  have hspan : (limitQuery n).span (· != '=') = ("limit".toList, '=' :: Number.natText n) := by
    rw [List.span_eq_takeWhile_dropWhile]
    rfl
  have hname : word "limit".toList = "limit".toList := by decide
  have hvalue : word (Number.natText n) = Number.natText n :=
    word_of_plain fun c hc => isPlain_of_isDigit (hdigit c hc)
  rw [pairs, hfilled, List.map_singleton, hspan]
  simp only [List.drop_one, List.tail_cons, hname, hvalue]

/-- It asks for `n` cues. -/
lemma limit_limitQuery {n : ℕ} (h : n < 2 ^ 64) : limit (limitQuery n) = .ok (some n) := by
  have hread : Number.readInteger .unsigned64 (Number.natText n) = .ok (n : ℤ) :=
    Number.readInteger_natText (Nat.le_pred_of_lt h)
  rw [limit, pairs_limitQuery, limitAmong, if_pos (by simp), hread]
  rfl

end Query

/-- The target of a read of the first `n` cues. -/
lemma Target.ofText_limit (n : ℕ) :
    ofText ("/queue?limit=".toList ++ Number.natText n) =
      ⟨"/queue".toList, Query.limitQuery n⟩ := by
  have hfragment : (Number.natText n).takeWhile (· != '#') = Number.natText n := by
    rw [List.takeWhile_eq_self_iff]
    intro c hc
    have hdigit := Number.isDigit_of_mem_natText hc
    rw [bne_iff_ne]
    rintro rfl
    exact absurd hdigit (by decide)
  have hpath : ofText ("/queue?limit=".toList ++ Number.natText n) =
      ofPath ("/queue?limit=".toList ++ Number.natText n) := rfl
  have hprefix : ∀ c ∈ "/queue?limit=".toList, (c != '#') = true := List.all_eq_true.mp rfl
  have hwhole : ("/queue?limit=".toList ++ Number.natText n).takeWhile (· != '#') =
      "/queue?limit=".toList ++ Number.natText n := by
    rw [List.takeWhile_append_of_pos hprefix, hfragment]
  rw [hpath, ofPath, hwhole, List.span_eq_takeWhile_dropWhile]
  rfl

end Http

end ShowControl
