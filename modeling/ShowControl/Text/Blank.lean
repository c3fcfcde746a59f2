/-
Blank characters.

Fields that people type are read without the blanks around them.  A blank is a character of the
Unicode property White_Space, given here as its list of code points.  `trim` drops the blanks at
both ends of a text and keeps those inside.
-/

namespace ShowControl.Text

/-- The characters with the Unicode property White_Space. -/
def isBlank (c : Char) : Bool :=
  let n := c.toNat
  (0x9 ≤ n && n ≤ 0xD) || n == 0x20 || n == 0x85 || n == 0xA0 || n == 0x1680 ||
    (0x2000 ≤ n && n ≤ 0x200A) || n == 0x2028 || n == 0x2029 || n == 0x202F || n == 0x205F ||
    n == 0x3000

/-- The text without the blanks at its front. -/
def trimStart (s : List Char) : List Char := s.dropWhile isBlank

/-- The text without the blanks at its two ends. -/
def trim (s : List Char) : List Char := (trimStart (trimStart s).reverse).reverse

theorem trimStart_cons {c : Char} (h : isBlank c = false) (s : List Char) :
    trimStart (c :: s) = c :: s := by
  simp [trimStart, h]

/-- A text with no blank at either end is left alone. -/
theorem trim_eq_self {s : List Char} (hfront : ∀ c ∈ s.head?, isBlank c = false)
    (hback : ∀ c ∈ s.getLast?, isBlank c = false) : trim s = s := by
  have front : trimStart s = s := by
    cases s with
    | nil => rfl
    | cons c s => exact trimStart_cons (hfront c rfl) s
  have back : trimStart s.reverse = s.reverse := by
    cases hs : s.reverse with
    | nil => rfl
    | cons c r =>
      refine trimStart_cons (hback c ?_) r
      rw [List.getLast?_eq_head?_reverse, hs]
      rfl
  rw [trim, front, back, List.reverse_reverse]

end ShowControl.Text
