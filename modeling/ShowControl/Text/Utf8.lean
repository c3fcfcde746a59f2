/-
UTF-8.

Request bodies and files arrive as bytes.  `charBytes` is the written form of a character,
`next?` reads one character back and refuses over-long forms, surrogates and everything beyond
U+10FFFF, and `readable` is the longest front of a byte list that is well formed, with what is
left of the list after it.
-/

namespace ShowControl.Text.Utf8

/-- The bytes of one character. -/
def charBytes (c : Char) : List UInt8 :=
  let n := c.toNat
  if n < 0x80 then [n.toUInt8]
  else if n < 0x800 then [(0xC0 + n / 64).toUInt8, (0x80 + n % 64).toUInt8]
  else if n < 0x10000 then
    [(0xE0 + n / 4096).toUInt8, (0x80 + n / 64 % 64).toUInt8, (0x80 + n % 64).toUInt8]
  else
    [(0xF0 + n / 262144).toUInt8, (0x80 + n / 4096 % 64).toUInt8, (0x80 + n / 64 % 64).toUInt8,
      (0x80 + n % 64).toUInt8]

/-- The bytes of a text. -/
def encode (s : List Char) : List UInt8 := s.flatMap charBytes

/-- The six bits that a continuation byte carries. -/
def continuation? (b : UInt8) : Option Nat :=
  if 0x80 ≤ b && b < 0xC0 then some (b.toNat - 0x80) else none

/-- The character of a code point that no shorter form could have carried. -/
def scalar? (least n : Nat) : Option Char :=
  if h : n.isValidChar then if least ≤ n then some (Char.ofNatAux n h) else none else none

/-- The first character of a byte list and the bytes after it. -/
def next? : List UInt8 → Option (Char × List UInt8)
  | [] => none
  | b :: r =>
    if b < 0x80 then (scalar? 0 b.toNat).map (·, r)
    else if b < 0xE0 then
      match r with
      | b1 :: r => do
        let n1 ← continuation? b1
        let c ← if 0xC0 ≤ b then scalar? 0x80 ((b.toNat - 0xC0) * 64 + n1) else none
        return (c, r)
      | _ => none
    else if b < 0xF0 then
      match r with
      | b1 :: b2 :: r => do
        let n1 ← continuation? b1
        let n2 ← continuation? b2
        let c ← scalar? 0x800 ((b.toNat - 0xE0) * 4096 + n1 * 64 + n2)
        return (c, r)
      | _ => none
    else
      match r with
      | b1 :: b2 :: b3 :: r => do
        let n1 ← continuation? b1
        let n2 ← continuation? b2
        let n3 ← continuation? b3
        let c ← scalar? 0x10000 ((b.toNat - 0xF0) * 262144 + n1 * 4096 + n2 * 64 + n3)
        return (c, r)
      | _ => none

/-- Reads characters as long as they are well formed; every character takes at least one byte, so
as many rounds as there are bytes are enough. -/
def readFrom : Nat → List UInt8 → List Char → List Char × List UInt8
  | 0, bytes, acc => (acc.reverse, bytes)
  | rounds + 1, bytes, acc =>
    match next? bytes with
    | some (c, rest) => readFrom rounds rest (c :: acc)
    | none => (acc.reverse, bytes)

/-- The longest well-formed front of the bytes, and the bytes after it. -/
def readable (bytes : List UInt8) : List Char × List UInt8 := readFrom bytes.length bytes []

/-- The text of bytes that are well formed throughout. -/
def decode? (bytes : List UInt8) : Option (List Char) :=
  match readable bytes with
  | (s, []) => some s
  | _ => none

/-- Reads bytes that may be ill formed: each maximal ill-formed piece becomes one replacement
character. -/
def decodeLossy (bytes : List UInt8) : List Char := go bytes.length bytes []
where
  /-- The bytes of an ill-formed piece after its first byte: the continuation bytes that a longer
  well-formed character could still have had there. -/
  skip : UInt8 → List UInt8 → List UInt8
    | b, r =>
      let second (lo hi : UInt8) (k : Nat) : List UInt8 :=
        match r with
        | b1 :: r1 => if lo ≤ b1 && b1 ≤ hi then tail k r1 else r
        | [] => []
      if 0xC2 ≤ b && b ≤ 0xDF then second 0x80 0xBF 0
      else if b == 0xE0 then second 0xA0 0xBF 1
      else if b == 0xED then second 0x80 0x9F 1
      else if 0xE1 ≤ b && b ≤ 0xEF then second 0x80 0xBF 1
      else if b == 0xF0 then second 0x90 0xBF 2
      else if 0xF1 ≤ b && b ≤ 0xF3 then second 0x80 0xBF 2
      else if b == 0xF4 then second 0x80 0x8F 2
      else r
  /-- Up to `k` further continuation bytes. -/
  tail : Nat → List UInt8 → List UInt8
    | 0, r => r
    | k + 1, b :: r => if 0x80 ≤ b && b ≤ 0xBF then tail k r else b :: r
    | _ + 1, [] => []
  go : Nat → List UInt8 → List Char → List Char
    | 0, _, acc => acc.reverse
    | rounds + 1, bytes, acc =>
      match next? bytes, bytes with
      | some (c, rest), _ => go rounds rest (c :: acc)
      | none, b :: r => go rounds (skip b r) ('\uFFFD' :: acc)
      | none, [] => acc.reverse

end ShowControl.Text.Utf8
