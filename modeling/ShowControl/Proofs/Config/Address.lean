/-
Reading back the text of a socket address.

The standard text of an address is one of its texts, so it is read as the address
(`SocketAddress.read?_chars`).  Of a version 6 address the longest run of zero groups may be left
out.  It is a run of zeros indeed (`longestRun_zeros`), so what stands before and after the two
colons are the other groups (`writesIpv6_chars`).
-/
import ShowControl.Proofs.Config.AddressText

namespace ShowControl

open Number (natText)

namespace SocketAddress

/-! ### Groups -/

lemma hexValue?_digitChar : ∀ d < 16, Text.hexValue? d.digitChar = some d := by decide

/-- Hexadecimal digits of a number. -/
lemma exists_of_mem_toDigits {n : ℕ} {c : Char} (h : c ∈ Nat.toDigits 16 n) :
    ∃ d < 16, c = d.digitChar := by
  induction n using Nat.strongRecOn with
  | ind n ih =>
    rw [Nat.toDigits_eq_if (by decide)] at h
    split at h
    case isTrue hsmall => exact ⟨n, hsmall, List.mem_singleton.mp h⟩
    case isFalse hlarge =>
      rcases List.mem_append.mp h with hfront | hlast
      · exact ih (n / 16) (by omega) hfront
      · exact ⟨n % 16, Nat.mod_lt _ (by decide), List.mem_singleton.mp hlast⟩

/-- The hexadecimal digits of a number denote it. -/
lemma foldl_hexValue?_toDigits (n : ℕ) :
    (Nat.toDigits 16 n).foldl (fun n c => 16 * n + (Text.hexValue? c).getD 0) 0 = n := by
  induction n using Nat.strongRecOn with
  | ind n ih =>
    rw [Nat.toDigits_eq_if (by decide)]
    split
    case isTrue hsmall => simp [hexValue?_digitChar n hsmall]
    case isFalse hlarge =>
      rw [List.foldl_append, ih (n / 16) (by omega), List.foldl_cons, List.foldl_nil,
        hexValue?_digitChar _ (Nat.mod_lt _ (by decide)), Option.getD_some]
      omega

lemma isSome_hexValue?_of_mem {g : UInt16} {c : Char} (h : c ∈ Ipv6.groupChars g) :
    (Text.hexValue? c).isSome = true := by
  obtain ⟨d, hd, rfl⟩ := exists_of_mem_toDigits h
  rw [hexValue?_digitChar d hd]
  rfl

lemma writesGroup_groupChars (g : UInt16) : WritesGroup (Ipv6.groupChars g) g := by
  have hg : g.toNat < 16 ^ 4 := g.toNat_lt
  have hhex : ∀ c ∈ Ipv6.groupChars g, (Text.hexValue? c).isSome = true :=
    fun _ => isSome_hexValue?_of_mem
  refine ⟨Nat.toDigits_ne_nil, ?_, hhex, ?_⟩
  · rwa [Ipv6.groupChars, Nat.length_toDigits_le_iff (by decide) (by decide)]
  · rw [← foldl_hexValue? hhex]
    exact foldl_hexValue?_toDigits g.toNat

/-- Groups with a colon before each. -/
def tailChars (gs : List UInt16) : List Char := gs.flatMap fun g => ':' :: Ipv6.groupChars g

lemma joined_cons (g : UInt16) (gs : List UInt16) :
    Ipv6.joined (g :: gs) = Ipv6.groupChars g ++ tailChars gs := by
  induction gs generalizing g with
  | nil => rw [Ipv6.joined, tailChars, List.flatMap_nil, List.append_nil]
  | cons g' gs ih =>
    rw [Ipv6.joined, ih, tailChars, tailChars, List.flatMap_cons, List.cons_append]
    exact List.cons_ne_nil g' gs

lemma writesGroups_tailChars (gs : List UInt16) : WritesGroups false false (tailChars gs) gs := by
  induction gs with
  | nil => exact .nil
  | cons g gs ih => exact .group (writesGroup_groupChars g) ih

/-- Groups with colons between them are a list of groups. -/
lemma writesGroups_joined (gs : List UInt16) : WritesGroups true false (Ipv6.joined gs) gs := by
  cases gs with
  | nil => exact .nil
  | cons g gs =>
    rw [joined_cons]
    exact .group (writesGroup_groupChars g) (writesGroups_tailChars gs)

end SocketAddress

/-! ### Runs of zeros -/

namespace Ipv6

/-- The run is one of zeros among the groups. -/
def Run.Inside (r : Run) (groups : List UInt16) : Prop :=
  r.length = 0 ∨ ∃ front back,
    groups = front ++ (List.replicate r.length 0 ++ back) ∧ front.length = r.start

/-- The run is one of zeros at the end of the groups. -/
def Run.AtEnd (r : Run) (groups : List UInt16) : Prop :=
  r.length = 0 ∨ ∃ front, groups = front ++ List.replicate r.length 0 ∧ front.length = r.start

lemma Run.AtEnd.inside {r : Run} {groups : List UInt16} (h : r.AtEnd groups) :
    r.Inside groups := by
  refine h.imp_right ?_
  rintro ⟨front, hgroups, hstart⟩
  exact ⟨front, [], by rw [List.append_nil]; exact hgroups, hstart⟩

lemma Run.Inside.append {r : Run} {groups : List UInt16} (h : r.Inside groups)
    (more : List UInt16) : r.Inside (groups ++ more) := by
  refine h.imp_right ?_
  rintro ⟨front, back, rfl, hstart⟩
  exact ⟨front, back ++ more, by simp only [List.append_assoc], hstart⟩

/-- A run at the end goes on with one more zero. -/
lemma Run.AtEnd.concat_zero {r : Run} {seen : List UInt16} (h : r.AtEnd seen) :
    Run.AtEnd (if r.length = 0 then ⟨seen.length, 1⟩ else ⟨r.start, r.length + 1⟩)
      (seen ++ [0]) := by
  refine Or.inr ?_
  split
  case isTrue => exact ⟨seen, rfl, rfl⟩
  case isFalse hne =>
    obtain ⟨front, rfl, hstart⟩ := h.resolve_left hne
    refine ⟨front, ?_, hstart⟩
    rw [List.append_assoc, ← List.replicate_succ']

/-- What the search keeps: the best run lies inside the groups seen so far, and the current one at
their end. -/
lemma longestRun_inside (seen : List UInt16) {gs : List UInt16} {current best : Run}
    (hcurrent : current.AtEnd seen) (hbest : best.Inside seen) :
    (longestRun seen.length current best gs).Inside (seen ++ gs) := by
  induction gs generalizing seen current best with
  | nil => rwa [longestRun, List.append_nil]
  | cons g gs ih =>
    have hlength : seen.length + 1 = (seen ++ [g]).length := by simp
    have hassoc : seen ++ g :: gs = (seen ++ [g]) ++ gs := by simp
    rw [longestRun, hlength, hassoc]
    split
    case isTrue hzero =>
      subst hzero
      have hnext := hcurrent.concat_zero
      dsimp only
      generalize (if current.length = 0 then (⟨seen.length, 1⟩ : Run)
        else ⟨current.start, current.length + 1⟩) = next at hnext ⊢
      refine ih _ hnext ?_
      split
      · exact hnext.inside
      · exact hbest.append [0]
    case isFalse => exact ih _ (.inl rfl) (hbest.append [g])

/-- The longest run is one of zeros. -/
lemma longestRun_zeros (gs : List UInt16) : (longestRun 0 ⟨0, 0⟩ ⟨0, 0⟩ gs).Inside gs :=
  longestRun_inside [] (.inl rfl) (.inl rfl)

end Ipv6

/-! ### Version 6 addresses -/

namespace SocketAddress

/-- Two groups that show a version 4 address are those of the address. -/
lemma groups_ofGroups (high low : UInt16) : (Ipv4.ofGroups high low).groups = [high, low] := by
  have hgroup (g : UInt16) : 256 * (g / 256).toUInt8.toUInt16 + g.toUInt8.toUInt16 = g := by
    apply UInt16.toNat.inj
    have hg := g.toNat_lt
    simp
    omega
  simp only [Ipv4.groups, Ipv4.ofGroups, hgroup]

/-- The text of a version 6 address is one of its texts. -/
lemma writesIpv6_chars (ip : Ipv6) : WritesIpv6 ip.chars ip := by
  rw [Ipv6.chars]
  split
  case h_1 high low hgroups =>
    -- five zero groups are left out, and the last two groups are shown
    have hshown : WritesGroups true true ("ffff:".toList ++ (Ipv4.ofGroups high low).chars)
        [0xFFFF, high, low] := by
      rw [← groups_ofGroups high low]
      exact .group (writesGroup_groupChars 0xFFFF) (.address (Ipv4.ofGroups high low))
    exact .shortened .nil hshown (n := 4) hgroups
  case h_2 =>
    dsimp only
    split
    case isTrue hlong =>
      have hzeros := Ipv6.longestRun_zeros ip.groups
      generalize Ipv6.longestRun 0 ⟨0, 0⟩ ⟨0, 0⟩ ip.groups = run at hlong hzeros
      obtain ⟨front, back, hgroups, hstart⟩ := hzeros.resolve_left (by omega)
      have htake : ip.groups.take run.start = front := by
        rw [hgroups, ← hstart, List.take_left]
      have hdrop : ip.groups.drop (run.start + run.length) = back := by
        rw [hgroups, ← hstart, ← List.drop_drop, List.drop_left, List.drop_left' (by simp)]
      rw [htake, hdrop]
      refine .shortened (writesGroups_joined front) (writesGroups_joined back)
        (n := run.length - 1) ?_
      rw [hgroups, show run.length - 1 + 1 = run.length by omega]
    case isFalse => exact .whole (writesGroups_joined ip.groups)

/-! ### Socket addresses -/

/-- The text of a scope, which is left out if it is zero. -/
def scopeChars (scope : UInt32) : List Char :=
  if scope = 0 then [] else '%' :: natText scope.toNat

lemma writesScope_scopeChars (scope : UInt32) : WritesScope (scopeChars scope) scope := by
  rw [scopeChars]
  split
  case isTrue hzero => rw [hzero]; exact .absent
  case isFalse => exact .number (Number.areDigits_natText _) Nat.ofDigitChars_ten_toDigits

/-- The text of the host of an address. -/
def hostChars : SocketAddress → List Char
  | v4 ip _ => ip.chars
  | v6 ip scope _ => '[' :: (ip.chars ++ (scopeChars scope ++ [']']))

lemma writesHost_hostChars (a : SocketAddress) : WritesHost a.hostChars a := by
  cases a with
  | v4 ip port => exact .v4 ip port
  | v6 ip scope port => exact .v6 (writesIpv6_chars ip) (writesScope_scopeChars scope) port

lemma chars_eq (a : SocketAddress) : a.chars = a.hostChars ++ ':' :: natText a.port.toNat := by
  cases a with
  | v4 ip port => rfl
  | v6 ip scope port => simp [chars, hostChars, scopeChars, SocketAddress.port]

/-- **Addresses are read back.**  The text of a socket address is read as the address. -/
lemma read?_chars (a : SocketAddress) : read? a.chars = some a :=
  (congrArg read? (chars_eq a)).trans ((writesHost_hostChars a).read?_eq
    (Number.areDigits_natText _) Nat.ofDigitChars_ten_toDigits)

end SocketAddress

end ShowControl
