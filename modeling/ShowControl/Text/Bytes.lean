/-
Cutting a text at a number of bytes.

Places in a text may be counted in the bytes of its UTF-8 form.  A cut is possible only between two
characters.
-/

namespace ShowControl.Text

/-- The text after its first `n` bytes. -/
def dropBytes? (n : Nat) : List Char → Option (List Char)
  | [] => if n = 0 then some [] else none
  | c :: r =>
    if n = 0 then some (c :: r)
    else if c.utf8Size ≤ n then dropBytes? (n - c.utf8Size) r
    else none

/-- The first `n` bytes of a text. -/
def takeBytes? (n : Nat) : List Char → Option (List Char)
  | [] => if n = 0 then some [] else none
  | c :: r =>
    if n = 0 then some []
    else if c.utf8Size ≤ n then (takeBytes? (n - c.utf8Size) r).map (c :: ·)
    else none

end ShowControl.Text
