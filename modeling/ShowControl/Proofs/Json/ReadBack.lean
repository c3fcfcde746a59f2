/-
Texts that are read as one document.

`Reads s t` says that `s` is the text of the document `t`: wherever a document may begin, `s` is
read as `t`, whatever follows, as long as a number could not go on with it.  The texts of strings,
whole numbers and doubles are read like this, and so are arrays and objects of texts that are.

The reader goes from place to place, and `Reaches` says that it gets from one place to another with
rounds to spare, so that steps can be put together (`Reaches.trans`).
-/
import Mathlib.Tactic.IntervalCases
import ShowControl.Proofs.Json.Text
import ShowControl.Proofs.Number.ReadBack
import ShowControl.Json.Tree

namespace ShowControl.Json.Tree

/-! ### Strings -/

/-- The piece that a written character is read as: its number, if it is written by its number. -/
def pieceOf (c : Char) : Piece := if (escape c).length = 6 then .unit c.toNat else .plain c

/-- A character is read back as its piece. -/
lemma readPieces?_escape (c : Char) (r : List Char) (acc : List Piece) :
    readPieces? (escape c ++ r) acc = readPieces? r (pieceOf c :: acc) := by
  by_cases hquote : c = '"'
  · subst hquote
    rfl
  by_cases hslash : c = '\\'
  · subst hslash
    rfl
  by_cases hcontrol : c.toNat < 0x20
  · obtain ⟨n, hn, rfl⟩ : ∃ n < 0x20, c = Char.ofNat n := ⟨c.toNat, hcontrol, c.ofNat_toNat.symm⟩
    interval_cases n <;> rfl
  · have hplain : escape c = [c] := by simp [escape, hquote, hslash, hcontrol]
    have hpiece : pieceOf c = .plain c := by simp [pieceOf, hplain]
    rw [hplain, hpiece, List.singleton_append, readPieces?]
    all_goals simp_all

/-- A string is read back as its pieces. -/
lemma readPieces?_quoted (s : List Char) (r : List Char) (acc : List Piece) :
    readPieces? (s.flatMap escape ++ '"' :: r) acc = some (acc.reverse ++ s.map pieceOf, r) := by
  induction s generalizing acc with
  | nil => simp [readPieces?]
  | cons c s ih =>
    rw [List.flatMap_cons, List.append_assoc, readPieces?_escape, ih]
    simp

/-- A piece is worth its character. -/
lemma joinPieces?_pieceOf (s acc : List Char) :
    joinPieces? (s.map pieceOf) acc = some (acc.reverse ++ s) := by
  induction s generalizing acc with
  | nil => simp [joinPieces?]
  | cons c s ih =>
    have hjoin : joinPieces? (pieceOf c :: s.map pieceOf) acc =
        joinPieces? (s.map pieceOf) (c :: acc) := by
      by_cases hlong : (escape c).length = 6
      · -- only control characters are written by their numbers, and those are no surrogates
        have hcontrol : c.toNat < 0x20 := by
          by_contra hno
          simp only [escape, hno, if_false] at hlong
          split_ifs at hlong <;> simp at hlong
        have hhigh : ¬ (0xD800 ≤ c.toNat ∧ c.toNat < 0xDC00) := by omega
        have hlow : ¬ (0xDC00 ≤ c.toNat ∧ c.toNat < 0xE000) := by omega
        rw [pieceOf, if_pos hlong, joinPieces?.eq_def]
        simp only [if_neg hhigh, if_neg hlow, Char.ofNat_toNat]
      · rw [pieceOf, if_neg hlong, joinPieces?]
    rw [List.map_cons, hjoin, ih]
    simp

/-- A string is worth its text. -/
lemma piecesText?_pieceOf (s : String) : piecesText? (s.toList.map pieceOf) = some s := by
  rw [piecesText?, joinPieces?_pieceOf]
  simp

/-! ### Numbers -/

/-- A number that ends here does not go on in the text that follows. -/
def Stops (rest : List Char) : Prop :=
  ∀ c ∈ rest.head?, c.isDigit = false ∧ c ≠ '.' ∧ c ≠ 'e' ∧ c ≠ 'E'

lemma stops_nil : Stops [] := by
  rintro c ⟨⟩

lemma stops_cons {c : Char} (h : c.isDigit = false ∧ c ≠ '.' ∧ c ≠ 'e' ∧ c ≠ 'E')
    (rest : List Char) : Stops (c :: rest) := by
  rintro d ⟨⟩
  exact h

/-- A whole number that has no zero in front is told by its digits from what follows. -/
lemma readNumber?_natText (negative : Bool) (n : ℕ) {rest : List Char} (hrest : Stops rest) :
    readNumber? negative (Number.natText n ++ rest) =
      some (.number true ⟨negative, n, 0⟩, rest) := by
  have hdigits : Number.takeDigits (Number.natText n ++ rest) = (Number.natText n, rest) :=
    Number.takeDigits_append (fun c => Number.isDigit_of_mem_natText) fun c hc => (hrest c hc).1
  have hne : (Number.natText n).isEmpty = false := by
    rw [List.isEmpty_eq_false_iff]
    exact Number.natText_ne_nil _
  have hlead :
      ((Number.natText n).length != 1 && (Number.natText n).head? == some '0') = false := by
    by_cases hzero : (Number.natText n).head? = some '0'
    · rw [Number.eq_zero_of_head?_natText hzero]
      rfl
    · rw [beq_false_of_ne hzero, Bool.and_false]
  have hparts : Number.Decimal.ofParts negative (Number.natText n) [] 0 = ⟨negative, n, 0⟩ := by
    rw [Number.Decimal.ofParts, List.append_nil, Number.natOfDigits_natText]
    rfl
  rw [readNumber?, hdigits]
  simp only [hne, hlead, Bool.or_self, Bool.false_eq_true, if_false]
  cases rest with
  | nil => simp only [hparts]
  | cons c rest =>
    obtain ⟨-, hpoint, hlower, hupper⟩ := hrest c rfl
    simp [hpoint, hlower, hupper, hparts]

/-- A number with a point or a power is read back. -/
lemma readNumber?_of_writesStrictly {negative : Bool} {s : List Char} {d : Number.Decimal}
    (h : Number.WritesStrictly negative s d) {rest : List Char} (hrest : Stops rest) :
    readNumber? negative (s ++ rest) = some (.number false d, rest) := by
  have hwhole {whole : List Char} (hdigits : Number.AreDigits whole)
      (hlead : whole.head? = some '0' → whole.length = 1) :
      (whole.isEmpty || (whole.length != 1 && whole.head? == some '0')) = false := by
    by_cases hzero : whole.head? = some '0'
    · simp [hlead hzero, hdigits.1]
    · simp [hzero, hdigits.1]
  cases h with
  | @pointed whole fraction power i hdigits hlead hfraction hp =>
    have hpoint : Number.takeDigits (whole ++ '.' :: (fraction ++ power ++ rest)) =
        (whole, '.' :: (fraction ++ power ++ rest)) :=
      Number.takeDigits_append hdigits.2 (by rintro c ⟨⟩; rfl)
    have hempty : fraction.isEmpty = false := List.isEmpty_eq_false_iff.mpr hfraction.1
    rw [List.append_assoc, List.cons_append, readNumber?, hpoint]
    simp only [hwhole hdigits hlead, Bool.false_eq_true, if_false]
    cases hp with
    | absent =>
      have hend : Number.takeDigits (fraction ++ [] ++ rest) = (fraction, rest) := by
        rw [List.append_nil]
        exact Number.takeDigits_append hfraction.2 fun c hc => (hrest c hc).1
      simp only [hend, hempty, Bool.false_eq_true, if_false]
      cases rest with
      | nil => rfl
      | cons c rest =>
        obtain ⟨-, -, hlower, hupper⟩ := hrest c rfl
        simp [hlower, hupper]
    | @given c s i hletter h =>
      have hend : Number.takeDigits (fraction ++ c :: s ++ rest) =
          (fraction, c :: (s ++ rest)) := by
        rw [List.append_assoc]
        refine Number.takeDigits_append hfraction.2 ?_
        rintro c ⟨⟩
        rcases hletter with rfl | rfl <;> rfl
      have hread := h.takePower?_append fun c hc => (hrest c hc).1
      simp only [hend, hempty, Bool.false_eq_true, if_false]
      simp [hletter, hread]
  | @powered whole s c i hdigits hlead hletter h =>
    have hpower : Number.takeDigits (whole ++ c :: (s ++ rest)) = (whole, c :: (s ++ rest)) := by
      refine Number.takeDigits_append hdigits.2 ?_
      rintro c ⟨⟩
      rcases hletter with rfl | rfl <;> rfl
    have hread := h.takePower?_append fun c hc => (hrest c hc).1
    have hpoint : c ≠ '.' := by rcases hletter with rfl | rfl <;> decide
    rw [List.append_assoc, List.cons_append, readNumber?, hpower]
    simp only [hwhole hdigits hlead, Bool.false_eq_true, if_false]
    simp [hpoint, hletter, hread]

/-! ### Places -/

/-- Where the reader stands: the containers that are open, the document at hand, and the text that
is left. -/
structure Place where
  frames : List Frame
  found : Option Tree
  rest : List Char

/-- The reader gets from one place to another, and has rounds to spare there if it had before. -/
def Reaches (p q : Place) : Prop :=
  ∀ rounds, p.rest.length < rounds → ∃ rounds', q.rest.length < rounds' ∧
    readOn rounds p.frames p.found p.rest = readOn rounds' q.frames q.found q.rest

lemma Reaches.trans {p q r : Place} (hpq : Reaches p q) (hqr : Reaches q r) : Reaches p r := by
  intro rounds hrounds
  obtain ⟨rounds', hrounds', hread'⟩ := hpq rounds hrounds
  obtain ⟨rounds'', hrounds'', hread''⟩ := hqr rounds' hrounds'
  exact ⟨rounds'', hrounds'', hread'.trans hread''⟩

/-- One round that takes at least one character. -/
lemma reaches_of_round {p q : Place} (hrest : q.rest.length < p.rest.length)
    (hread : ∀ rounds, readOn (rounds + 1) p.frames p.found p.rest =
      readOn rounds q.frames q.found q.rest) : Reaches p q := by
  intro rounds hrounds
  cases rounds with
  | zero => omega
  | succ rounds => exact ⟨rounds, by omega, hread rounds⟩

/-- The characters that JSON takes as blanks. -/
def IsGap (c : Char) : Prop := c = ' ' ∨ c = '\t' ∨ c = '\n' ∨ c = '\r'

instance (c : Char) : Decidable (IsGap c) := inferInstanceAs (Decidable (_ ∨ _))

lemma skipBlanks_cons {c : Char} (h : ¬ IsGap c) (r : List Char) :
    skipBlanks (c :: r) = c :: r := by
  simp only [IsGap, not_or] at h
  simp [skipBlanks, h]

/-- A text that is read as a document wherever one may begin. -/
structure Reads (s : List Char) (t : Tree) : Prop where
  /-- A document begins with no blank, and not with the end of an array. -/
  begins : ∃ c r, s = c :: r ∧ ¬ IsGap c ∧ c ≠ ']'
  reaches : ∀ rest frames, Stops rest → Reaches ⟨frames, none, s ++ rest⟩ ⟨frames, some t, rest⟩

/-- A whole text that is read as a document. -/
lemma Reads.readAll? {s : List Char} {t : Tree} (h : Reads s t) : readAll? s = some t := by
  obtain ⟨rounds, -, hread⟩ := h.reaches [] [] stops_nil (s.length + 1) (by simp)
  rw [List.append_nil] at hread
  have hread? : read? s = some (t, []) := by
    rw [read?, hread, readOn_nil]
  rw [Tree.readAll?, hread?]
  rfl

/-! ### Documents that hold no other -/

lemma reads_leaf {s : List Char} {t : Tree}
    (hbegins : ∃ c r, s = c :: r ∧ ¬ IsGap c ∧ c ≠ ']' ∧ c ≠ '[' ∧ c ≠ '\x7b')
    (hleaf : ∀ rest, Stops rest → readLeaf? (s ++ rest) = some (t, rest)) : Reads s t := by
  obtain ⟨c, r, rfl, hgap, hend, hitems, hmembers⟩ := hbegins
  refine ⟨⟨c, r, rfl, hgap, hend⟩, fun rest frames hrest => ?_⟩
  have hroom : rest.length < (c :: r ++ rest).length := by
    simp only [List.length_append, List.length_cons]
    omega
  refine reaches_of_round hroom fun rounds => ?_
  have hleaf := hleaf rest hrest
  rw [List.cons_append] at hleaf
  rw [readOn.eq_3]
  simp only [List.cons_append, skipBlanks_cons hgap]
  split
  · rename_i heq
    exact absurd (List.cons.inj heq).1 hitems
  · rename_i heq
    exact absurd (List.cons.inj heq).1 hmembers
  · simp only [hleaf]

lemma reads_null : Reads Json.null.chars .null :=
  reads_leaf ⟨'n', _, rfl, by decide, by decide, by decide, by decide⟩ fun _ _ => rfl

lemma reads_bool (b : Bool) : Reads (Json.bool b).chars (.bool b) := by
  cases b with
  | false =>
    exact reads_leaf ⟨'f', _, rfl, by decide, by decide, by decide, by decide⟩ fun _ _ => rfl
  | true =>
    exact reads_leaf ⟨'t', _, rfl, by decide, by decide, by decide, by decide⟩ fun _ _ => rfl

/-- The text of a number: a minus or nothing, and what the reader of numbers reads. -/
lemma reads_number {negative : Bool} {s : List Char} {t : Tree}
    (hbegins : ∃ c r, s = c :: r ∧ c.isDigit = true)
    (hread : ∀ rest, Stops rest → readNumber? negative (s ++ rest) = some (t, rest)) :
    Reads (if negative then '-' :: s else s) t := by
  obtain ⟨c, r, rfl, hdigit⟩ := hbegins
  cases negative with
  | true =>
    refine reads_leaf ⟨'-', _, rfl, by decide, by decide, by decide, by decide⟩ ?_
    intro rest hrest
    exact hread rest hrest
  | false =>
    have hne : ∀ d : Char, d.isDigit = false → c ≠ d := by
      rintro d hd rfl
      rw [hdigit] at hd
      cases hd
    refine reads_leaf ⟨c, r, rfl, ?_, hne _ (by decide), hne _ (by decide), hne _ (by decide)⟩ ?_
    · rintro (h | h | h | h) <;> exact hne _ (by decide) h
    · intro rest hrest
      rw [readLeaf?.eq_def]
      split
      case h_6 => exact hread rest hrest
      all_goals
        rename_i heq
        exact absurd (List.cons.inj heq).1 (hne _ (by decide))

lemma exists_head_natText (n : ℕ) : ∃ c r, Number.natText n = c :: r ∧ c.isDigit = true := by
  obtain ⟨c, r, htext⟩ := List.exists_cons_of_ne_nil (Number.natText_ne_nil n)
  exact ⟨c, r, htext, Number.isDigit_of_mem_natText (by rw [htext]; exact List.mem_cons_self)⟩

/-- The text of a natural number. -/
lemma reads_natText (n : ℕ) : Reads (Number.natText n) (.number true ⟨false, n, 0⟩) :=
  reads_number (exists_head_natText n) fun _ => readNumber?_natText false n

/-- The text of a whole number. -/
lemma reads_intText (i : ℤ) :
    Reads (Number.intText i) (.number true ⟨decide (i < 0), i.natAbs, 0⟩) := by
  have hreads := reads_number (exists_head_natText i.natAbs) fun _ =>
    readNumber?_natText (decide (i < 0)) i.natAbs
  simp only [decide_eq_true_eq] at hreads
  exact hreads

/-- The text of a double. -/
lemma exists_reads_write (l : Number.Layout) (x : Number.Binary64) :
    ∃ d, Reads (l.write x) (.number false d) ∧ d.nearest = .finite x := by
  obtain ⟨d, hd, hnearest⟩ := l.exists_writesStrictly_magnitude x
  exact ⟨d, reads_number hd.exists_head fun _ => readNumber?_of_writesStrictly hd, hnearest⟩

/-- The text of a string. -/
lemma reads_quoted (s : String) : Reads (quoted s.toList) (.string (s.toList.map pieceOf)) := by
  refine reads_leaf ⟨'"', _, rfl, by decide, by decide, by decide, by decide⟩ ?_
  intro rest _
  have hread := readPieces?_quoted s.toList rest []
  rw [quoted, List.cons_append, List.append_assoc, List.singleton_append, readLeaf?, hread]
  rfl

/-! ### Arrays -/

section Arrays

variable {frames : List Frame} {done : List Tree} {t : Tree} {s : List Char}

lemma reaches_no_items :
    Reaches ⟨frames, none, '[' :: ']' :: s⟩ ⟨frames, some (.array []), s⟩ := by
  refine reaches_of_round (by simp only [List.length_cons]; omega) fun rounds => ?_
  simp only [readOn, skipBlanks_cons (show ¬ IsGap '[' by decide),
    skipBlanks_cons (show ¬ IsGap ']' by decide)]

lemma reaches_open_items (hbegins : ∃ c r, s = c :: r ∧ ¬ IsGap c ∧ c ≠ ']') :
    Reaches ⟨frames, none, '[' :: s⟩ ⟨.items [] :: frames, none, s⟩ := by
  obtain ⟨c, r, rfl, hgap, hend⟩ := hbegins
  refine reaches_of_round (by simp) fun rounds => ?_
  simp only [readOn, skipBlanks_cons (show ¬ IsGap '[' by decide), skipBlanks_cons hgap]
  split
  · rename_i heq
    exact absurd (List.cons.inj heq).1 hend
  · rfl

lemma reaches_next_item :
    Reaches ⟨.items done :: frames, some t, ',' :: s⟩ ⟨.items (t :: done) :: frames, none, s⟩ := by
  refine reaches_of_round (by simp) fun rounds => ?_
  simp only [readOn, skipBlanks_cons (show ¬ IsGap ',' by decide)]

lemma reaches_close_items :
    Reaches ⟨.items done :: frames, some t, ']' :: s⟩
      ⟨frames, some (.array (t :: done).reverse), s⟩ := by
  refine reaches_of_round (by simp) fun rounds => ?_
  simp only [readOn, skipBlanks_cons (show ¬ IsGap ']' by decide)]

/-- The items of an array, from one on to its end. -/
lemma reaches_items {first : Json} {more : List Json} {ts : List Tree}
    (hfirst : Reads first.chars t) (hmore : List.Forall₂ (fun x t => Reads x.chars t) more ts)
    (done : List Tree) (frames : List Frame) (rest : List Char) :
    Reaches ⟨.items done :: frames, none, first.chars ++ (itemChars more ++ ']' :: rest)⟩
      ⟨frames, some (.array (done.reverse ++ t :: ts)), rest⟩ := by
  induction hmore generalizing first t done with
  | nil =>
    have hlast := hfirst.reaches (']' :: rest) (.items done :: frames) (stops_cons (by decide) rest)
    have hclose := hlast.trans reaches_close_items
    rwa [List.reverse_cons] at hclose
  | @cons next t' more ts hnext hmore ih =>
    have hitem := hfirst.reaches (',' :: (next.chars ++ (itemChars more ++ ']' :: rest)))
      (.items done :: frames) (stops_cons (by decide) _)
    have hall := (hitem.trans reaches_next_item).trans (ih hnext (t :: done))
    simpa [itemChars] using hall

/-- The text of an array is read as the array of what its items are read as. -/
lemma reads_array {items : List Json} {ts : List Tree}
    (h : List.Forall₂ (fun x t => Reads x.chars t) items ts) :
    Reads (Json.array items).chars (.array ts) := by
  cases h with
  | nil =>
    refine ⟨⟨'[', _, rfl, by decide, by decide⟩, fun rest frames _ => ?_⟩
    exact reaches_no_items
  | @cons first t more ts hfirst hmore =>
    rw [chars_array_cons]
    refine ⟨⟨'[', _, rfl, by decide, by decide⟩, fun rest frames _ => ?_⟩
    obtain ⟨c, r, hbegins, hc⟩ := hfirst.begins
    have hopen : Reaches ⟨frames, none, '[' :: (first.chars ++ (itemChars more ++ ']' :: rest))⟩
        ⟨.items [] :: frames, none, first.chars ++ (itemChars more ++ ']' :: rest)⟩ :=
      reaches_open_items ⟨c, _, by rw [hbegins, List.cons_append], hc⟩
    have hall := hopen.trans (reaches_items hfirst hmore [] frames rest)
    simpa using hall

end Arrays

/-! ### Objects -/

section Objects

variable {frames : List Frame} {done : List (List Piece × Tree)} {name : List Piece} {t : Tree}
  {s : List Char}

/-- The name of a member. -/
def nameOf (k : String) : List Piece := k.toList.map pieceOf

lemma readName?_quoted (k : String) (s : List Char) :
    readName? (quoted k.toList ++ ':' :: s) = some (nameOf k, s) := by
  have hread := readPieces?_quoted k.toList (':' :: s) []
  rw [List.reverse_nil, List.nil_append] at hread
  rw [readName?, quoted, List.cons_append, List.append_assoc, List.singleton_append,
    skipBlanks_cons (show ¬ IsGap '"' by decide)]
  simp only [hread, skipBlanks_cons (show ¬ IsGap ':' by decide)]
  rfl

lemma reaches_no_members :
    Reaches ⟨frames, none, '\x7b' :: '\x7d' :: s⟩ ⟨frames, some (.object []), s⟩ := by
  refine reaches_of_round (by simp only [List.length_cons]; omega) fun rounds => ?_
  simp only [readOn, skipBlanks_cons (show ¬ IsGap '\x7b' by decide),
    skipBlanks_cons (show ¬ IsGap '\x7d' by decide)]

lemma reaches_open_members (k : String) :
    Reaches ⟨frames, none, '\x7b' :: (quoted k.toList ++ ':' :: s)⟩
      ⟨.members [] (nameOf k) :: frames, none, s⟩ := by
  refine reaches_of_round (by simp only [List.length_cons, List.length_append]; omega)
    fun rounds => ?_
  have hname := readName?_quoted k s
  rw [quoted, List.cons_append] at hname ⊢
  simp only [readOn, skipBlanks_cons (show ¬ IsGap '\x7b' by decide),
    skipBlanks_cons (show ¬ IsGap '"' by decide)]
  split
  · rename_i heq
    exact absurd (List.cons.inj heq).1 (by decide)
  · rw [hname]

lemma reaches_next_member (k : String) :
    Reaches ⟨.members done name :: frames, some t, ',' :: (quoted k.toList ++ ':' :: s)⟩
      ⟨.members ((name, t) :: done) (nameOf k) :: frames, none, s⟩ := by
  refine reaches_of_round (by simp only [List.length_cons, List.length_append]; omega)
    fun rounds => ?_
  simp only [readOn, skipBlanks_cons (show ¬ IsGap ',' by decide), readName?_quoted]

lemma reaches_close_members :
    Reaches ⟨.members done name :: frames, some t, '\x7d' :: s⟩
      ⟨frames, some (.object ((name, t) :: done).reverse), s⟩ := by
  refine reaches_of_round (by simp) fun rounds => ?_
  simp only [readOn, skipBlanks_cons (show ¬ IsGap '\x7d' by decide)]

/-- A field whose text is read as this member. -/
def ReadsField (f : String × Json) (m : List Piece × Tree) : Prop :=
  m.1 = nameOf f.1 ∧ Reads f.2.chars m.2

/-- The members of an object, from the value of one on to the end. -/
lemma reaches_members {v : Json} {more : Fields} {ms : List (List Piece × Tree)}
    (hv : Reads v.chars t) (hmore : List.Forall₂ ReadsField more ms)
    (done : List (List Piece × Tree)) (name : List Piece) (frames : List Frame)
    (rest : List Char) :
    Reaches ⟨.members done name :: frames, none,
        v.chars ++ ((more.flatMap fun g => ',' :: fieldChars g) ++ '\x7d' :: rest)⟩
      ⟨frames, some (.object (done.reverse ++ (name, t) :: ms)), rest⟩ := by
  induction hmore generalizing v t done name with
  | nil =>
    have hlast := hv.reaches ('\x7d' :: rest) (.members done name :: frames)
      (stops_cons (by decide) rest)
    have hclose := hlast.trans reaches_close_members
    rwa [List.reverse_cons] at hclose
  | @cons f m more ms hf hmore ih =>
    obtain ⟨k, w⟩ := f
    obtain ⟨_, t'⟩ := m
    obtain ⟨rfl, hw⟩ := hf
    have hvalue := hv.reaches (',' :: (quoted k.toList ++ ':' ::
        (w.chars ++ ((more.flatMap fun g => ',' :: fieldChars g) ++ '\x7d' :: rest))))
      (.members done name :: frames) (stops_cons (by decide) _)
    have hall := (hvalue.trans (reaches_next_member k)).trans (ih hw ((name, t) :: done) (nameOf k))
    simpa [fieldChars] using hall

/-- The text of an object is read as the object of what its fields are read as. -/
lemma reads_object {fields : Fields} {ms : List (List Piece × Tree)}
    (h : List.Forall₂ ReadsField fields ms) : Reads (Json.object fields).chars (.object ms) := by
  cases h with
  | nil =>
    refine ⟨⟨'\x7b', _, rfl, by decide, by decide⟩, fun rest frames _ => ?_⟩
    exact reaches_no_members
  | @cons f m more ms hf hmore =>
    obtain ⟨k, v⟩ := f
    obtain ⟨_, t⟩ := m
    obtain ⟨rfl, hv⟩ := hf
    rw [chars_object_cons]
    refine ⟨⟨'\x7b', _, rfl, by decide, by decide⟩, fun rest frames _ => ?_⟩
    have hall :=
      (reaches_open_members k).trans (reaches_members hv hmore [] (nameOf k) frames rest)
    simpa [fieldChars] using hall

end Objects

end ShowControl.Json.Tree
