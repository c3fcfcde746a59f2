/-
Socket addresses.

A socket address is an IP address and a TCP port.  Version 4 addresses are four numbers with points
between them, and version 6 addresses eight groups of hexadecimal digits with colons between them,
where one run of zero groups may be left out and the last two groups may be written as a version 4
address.  With a port, a version 6 address stands in brackets and may name the scope that it
belongs to.  Each address has one standard text, which is what `text` writes.
-/
import ShowControl.Number.Decimal
import ShowControl.Text.Hex

namespace ShowControl

/-- A version 4 address. -/
structure Ipv4 where
  a : UInt8
  b : UInt8
  c : UInt8
  d : UInt8
deriving DecidableEq

/-- A version 6 address. -/
structure Ipv6 where
  groups : List UInt16
  eight : groups.length = 8
deriving DecidableEq

/-- An IP address. -/
inductive IpAddress where
  | v4 (ip : Ipv4)
  | v6 (ip : Ipv6)
deriving DecidableEq

/-- An address that a server can be bound to. -/
inductive SocketAddress where
  | v4 (ip : Ipv4) (port : UInt16)
  /-- A scope of zero is no scope. -/
  | v6 (ip : Ipv6) (scope : UInt32) (port : UInt16)
deriving DecidableEq

/-! ### Writing -/

namespace Ipv4

/-- The standard text of a version 4 address. -/
def chars (ip : Ipv4) : List Char :=
  Number.natText ip.a.toNat ++ '.' :: (Number.natText ip.b.toNat ++
    '.' :: (Number.natText ip.c.toNat ++ '.' :: Number.natText ip.d.toNat))

/-- The address as two groups of a version 6 address. -/
def groups (ip : Ipv4) : List UInt16 :=
  [256 * ip.a.toUInt16 + ip.b.toUInt16, 256 * ip.c.toUInt16 + ip.d.toUInt16]

/-- The address in two groups of a version 6 address. -/
def ofGroups (high low : UInt16) : Ipv4 :=
  ⟨(high / 256).toUInt8, high.toUInt8, (low / 256).toUInt8, low.toUInt8⟩

end Ipv4

namespace Ipv6

/-- The text of a group: hexadecimal digits without leading zeros. -/
def groupChars (g : UInt16) : List Char := Nat.toDigits 16 g.toNat

/-- The text of groups with colons between them. -/
def joined : List UInt16 → List Char
  | [] => []
  | [g] => groupChars g
  | g :: gs => groupChars g ++ ':' :: joined gs

/-- A run of zero groups: how many groups stand before it, and how long it is. -/
structure Run where
  start : Nat
  length : Nat

/-- The longest run of zero groups, the first one if there are several: `index` groups were seen so
far, the last ones of them in the run `current`, and `best` is the longest run among them. -/
def longestRun : (index : Nat) → (current best : Run) → List UInt16 → Run
  | _, _, best, [] => best
  | index, current, best, g :: gs =>
    if g = 0 then
      let current : Run :=
        if current.length = 0 then ⟨index, 1⟩ else ⟨current.start, current.length + 1⟩
      longestRun (index + 1) current (if best.length < current.length then current else best) gs
    else longestRun (index + 1) ⟨0, 0⟩ best gs

/-- The standard text of a version 6 address: the longest run of at least two zero groups is left
out, and an address that stands for a version 4 address shows it. -/
def chars (ip : Ipv6) : List Char :=
  match ip.groups with
  | [0, 0, 0, 0, 0, 0xFFFF, high, low] => "::ffff:".toList ++ (Ipv4.ofGroups high low).chars
  | groups =>
    let run := longestRun 0 ⟨0, 0⟩ ⟨0, 0⟩ groups
    if 1 < run.length then
      joined (groups.take run.start) ++
        ':' :: ':' :: joined (groups.drop (run.start + run.length))
    else joined groups

end Ipv6

/-- The standard text of an IP address. -/
def IpAddress.text : IpAddress → String
  | v4 ip => String.ofList ip.chars
  | v6 ip => String.ofList ip.chars

namespace SocketAddress

/-- The TCP port of an address. -/
def port : SocketAddress → UInt16
  | v4 _ port => port
  | v6 _ _ port => port

/-- The IP address alone. -/
def ip : SocketAddress → IpAddress
  | v4 ip _ => .v4 ip
  | v6 ip _ _ => .v6 ip

/-- Whether the IP address is of version 6. -/
def isV6 : SocketAddress → Bool
  | v4 _ _ => false
  | v6 _ _ _ => true

/-- The standard text of an address. -/
def chars : SocketAddress → List Char
  | v4 ip port => ip.chars ++ ':' :: Number.natText port.toNat
  | v6 ip scope port =>
    let suffix := if scope = 0 then [] else '%' :: Number.natText scope.toNat
    '[' :: (ip.chars ++ (suffix ++ ']' :: ':' :: Number.natText port.toNat))

/-- The standard text of an address. -/
def text (a : SocketAddress) : String := String.ofList a.chars

end SocketAddress

/-! ### Reading -/

namespace SocketAddress

/-- The text after a character at its front. -/
def after? (c : Char) : List Char → Option (List Char)
  | [] => none
  | d :: r => if d = c then some r else none

/-- A number of a version 4 address: up to 255, without leading zeros. -/
def readOctet? (s : List Char) : Option (UInt8 × List Char) :=
  let (ds, r) := Number.takeDigits s
  let n := Number.natOfDigits ds
  if ds.isEmpty || 3 < ds.length || (1 < ds.length && ds.head? == some '0') || 255 < n then none
  else some (n.toUInt8, r)

/-- A version 4 address at the front of a text, and what follows it. -/
def readIpv4? (s : List Char) : Option (Ipv4 × List Char) := do
  let (a, r) ← readOctet? s
  let (b, r) ← readOctet? (← after? '.' r)
  let (c, r) ← readOctet? (← after? '.' r)
  let (d, r) ← readOctet? (← after? '.' r)
  return (⟨a, b, c, d⟩, r)

/-- A group of a version 6 address: up to four hexadecimal digits. -/
def readGroup? (s : List Char) : Option (UInt16 × List Char) :=
  let (ds, r) := s.span fun c => (Text.hexValue? c).isSome
  if ds.isEmpty || 4 < ds.length then none
  else some ((ds.foldl (fun n c => 16 * n + (Text.hexValue? c).getD 0) 0).toUInt16, r)

/-- Groups at the front of a text, at most `room` of them, with a colon before each but the
`first`.  Where there is room for two, a version 4 address may stand for the last two of them,
which the flag tells. -/
def readGroups : (first : Bool) → (room : Nat) → List Char → List UInt16 × Bool × List Char
  | _, 0, s => ([], false, s)
  | first, room + 1, s =>
    match if first then some s else after? ':' s with
    | none => ([], false, s)
    | some r =>
      match if room = 0 then none else readIpv4? r with
      | some (ip, r) => (ip.groups, true, r)
      | none =>
        match readGroup? r with
        | some (g, r) =>
          let (gs, shown, r) := readGroups false room r
          (g :: gs, shown, r)
        | none => ([], false, s)

/-- The address of two lists of groups with zeros between them. -/
def padded? (front back : List UInt16) : Option Ipv6 :=
  let zeros := List.replicate (8 - (front.length + back.length)) 0
  if h : (front ++ (zeros ++ back)).length = 8 then some ⟨front ++ (zeros ++ back), h⟩ else none

/-- A version 6 address at the front of a text, and what follows it. -/
def readIpv6? (s : List Char) : Option (Ipv6 × List Char) :=
  let (front, shown, r) := readGroups true 8 s
  if front.length = 8 then (padded? front []).map (·, r)
  else if shown then none
  else
    match r with
    | ':' :: ':' :: r =>
      let (back, _, r) := readGroups true (7 - front.length) r
      (padded? front back).map (·, r)
    | _ => none

/-- A number of up to `most` at the front of a text, and what follows it. -/
def readNumber? (most : Nat) (s : List Char) : Option (Nat × List Char) :=
  let (ds, r) := Number.takeDigits s
  let n := Number.natOfDigits ds
  if ds.isEmpty || most < n then none else some (n, r)

/-- A scope at the front of a text, and what follows it; zero if there is none. -/
def readScope? : List Char → Option (UInt32 × List Char)
  | '%' :: r => (readNumber? (2 ^ 32 - 1) r).map fun (n, r) => (n.toUInt32, r)
  | s => some (0, s)

/-- The TCP port that the rest of a text gives. -/
def readPort? (s : List Char) : Option UInt16 := do
  match ← readNumber? (2 ^ 16 - 1) (← after? ':' s) with
  | (n, []) => return n.toUInt16
  | _ => none

/-- The address that a text is. -/
def read? (s : List Char) : Option SocketAddress :=
  match s with
  | '[' :: r => do
    let (ip, r) ← readIpv6? r
    let (scope, r) ← readScope? r
    return .v6 ip scope (← readPort? (← after? ']' r))
  | s => do
    let (ip, r) ← readIpv4? s
    return .v4 ip (← readPort? r)

end SocketAddress

end ShowControl
