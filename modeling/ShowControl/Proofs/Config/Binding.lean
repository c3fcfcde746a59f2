/-
The addresses that the service can be bound to.

The address of the settings and the port are put together with a colon between them, and the text is
read as a socket address.  This is the text of a version 4 address with its port, so every version 4
address can be bound.  A version 6 address has colons of its own and would have to stand in
brackets: without them it is refused, every one of them, whatever the port, and with them it is
bound (`Settings.bound_addresses`).

The address may be any text.  It never reaches the port: the colon in front of a port is the last
one of a text that is read, and that is the one between address and port
(`SocketAddress.eq_of_last_colon`).  So the port that is bound is that of the settings, and the
address is the text of a host (`Settings.bind_text_names_host`).
-/
import ShowControl.Config.Settings
import ShowControl.Proofs.Config.Address

namespace ShowControl

namespace SocketAddress

/-- Groups with a colon after them begin with the digits of a group, or with none, and a colon. -/
lemma exists_colon_of_joined (gs : List UInt16) (r : List Char) :
    ∃ ds rest, Ipv6.joined gs ++ ':' :: r = ds ++ ':' :: rest ∧
      ∀ c ∈ ds, (Text.hexValue? c).isSome = true := by
  cases gs with
  | nil => exact ⟨[], r, rfl, List.forall_mem_nil _⟩
  | cons g gs =>
    rw [joined_cons, List.append_assoc]
    cases gs with
    | nil => exact ⟨_, r, rfl, fun _ => isSome_hexValue?_of_mem⟩
    | cons g' gs => exact ⟨_, _, rfl, fun _ => isSome_hexValue?_of_mem⟩

/-- So does a version 6 address with a colon after it. -/
lemma exists_colon_of_ipv6 (ip : Ipv6) (r : List Char) :
    ∃ ds rest, ip.chars ++ ':' :: r = ds ++ ':' :: rest ∧
      ∀ c ∈ ds, (Text.hexValue? c).isSome = true := by
  rw [Ipv6.chars]
  split
  case h_1 => exact ⟨[], _, rfl, List.forall_mem_nil _⟩
  case h_2 =>
    dsimp only
    split
    · rw [List.append_assoc]
      exact exists_colon_of_joined _ _
    · exact exists_colon_of_joined _ r

/-- Without brackets a version 6 address is not read. -/
lemma read?_ipv6_colon (ip : Ipv6) (r : List Char) : read? (ip.chars ++ ':' :: r) = none := by
  obtain ⟨ds, rest, hsplit, hds⟩ := exists_colon_of_ipv6 ip r
  have hhead : (ds ++ ':' :: rest).head? ≠ some '[' := by
    cases ds with
    | nil => exact nofun
    | cons d ds =>
      rintro ⟨⟩
      exact absurd (hds '[' List.mem_cons_self) (by decide)
  have hnoAddress : readIpv4? (ds ++ ':' :: rest) = none :=
    readIpv4?_of_endsGroup hds (endsGroup_colon rest)
  rw [hsplit, read?_of_head hhead, hnoAddress]
  rfl

/-- The text of a host does not say which port of it is meant. -/
lemma WritesHost.exists_port {host : List Char} {a : SocketAddress} (h : WritesHost host a)
    (port : UInt16) : ∃ b, WritesHost host b ∧ b.port = port ∧ b.ip = a.ip := by
  cases h with
  | v4 ip => exact ⟨_, .v4 ip port, rfl, rfl⟩
  | v6 hs ht => exact ⟨_, .v6 hs ht port, rfl, rfl⟩

/-- Hosts with ports are cut at the last colon. -/
lemma eq_of_last_colon {host host' ds ds' : List Char} (h : host ++ ':' :: ds = host' ++ ':' :: ds')
    (hds : ':' ∉ ds) (hds' : ':' ∉ ds') : host = host' ∧ ds = ds' := by
  rcases List.append_eq_append_iff.mp h with ⟨more, hhost, hrest⟩ | ⟨more, hhost, hrest⟩
  · cases more with
    | nil =>
      rw [List.append_nil] at hhost
      exact ⟨hhost.symm, (List.cons.inj hrest).2⟩
    | cons c more =>
      obtain ⟨-, rfl⟩ := List.cons.inj hrest
      exact absurd (List.mem_append_right more List.mem_cons_self) hds
  · cases more with
    | nil =>
      rw [List.append_nil] at hhost
      exact ⟨hhost, (List.cons.inj hrest).2.symm⟩
    | cons c more =>
      obtain ⟨-, rfl⟩ := List.cons.inj hrest
      exact absurd (List.mem_append_right more List.mem_cons_self) hds'

lemma colon_not_mem {ds : List Char} (h : Number.AreDigits ds) : ':' ∉ ds :=
  fun hmem => absurd (h.2 ':' hmem) (by decide)

end SocketAddress

namespace Settings

lemma toList_bindText (s : Settings) :
    s.bindText.toList = s.bindAddress.toList ++ ':' :: Number.natText s.port.toNat := by
  simp [bindText]

/-- The text that is put together is read as a socket address. -/
lemma socketAddress_eq_ok {s : Settings} {a : SocketAddress} (h : s.bindText.toList = a.chars) :
    s.socketAddress = .ok a := by
  rw [socketAddress, h, SocketAddress.read?_chars]

/-- What is bound is the host that the address of the settings names, at the port of the
settings. -/
lemma socketAddress_eq_ok_iff {s : Settings} {a : SocketAddress} :
    s.socketAddress = .ok a ↔
      a.port = s.port ∧ SocketAddress.WritesHost s.bindAddress.toList a := by
  have hread : s.socketAddress = .ok a ↔ SocketAddress.read? s.bindText.toList = some a := by
    rw [socketAddress]
    cases SocketAddress.read? s.bindText.toList <;> simp
  have hport := Number.areDigits_natText s.port.toNat
  have hvalue : Nat.ofDigitChars 10 (Number.natText s.port.toNat) 0 = s.port.toNat :=
    Nat.ofDigitChars_ten_toDigits
  rw [hread, SocketAddress.read?_eq_some_iff, toList_bindText]
  constructor
  · rintro ⟨host, ds, htext, hhost, hds, hsame⟩
    obtain ⟨rfl, rfl⟩ := SocketAddress.eq_of_last_colon htext (SocketAddress.colon_not_mem hport)
      (SocketAddress.colon_not_mem hds)
    exact ⟨UInt16.toNat.inj (hsame.symm.trans hvalue), hhost⟩
  · rintro ⟨hsame, hhost⟩
    exact ⟨_, _, rfl, hhost, hport, by rw [hsame, hvalue]⟩

/-- **The addresses that can be bound.**  Whatever the other settings are, the standard text of a
version 4 address gives this address with the port of the settings.  The standard text of a version
6 address is refused as no socket address.  In brackets it gives the address with the port. -/
theorem bound_addresses (s : Settings) :
    (∀ ip : Ipv4, { s with bindAddress := (IpAddress.v4 ip).text }.socketAddress =
      .ok (.v4 ip s.port)) ∧
    (∀ ip : Ipv6, { s with bindAddress := (IpAddress.v6 ip).text }.socketAddress =
      .error (.configuration ("Invalid bind address " ++ ((IpAddress.v6 ip).text ++ ":" ++
        String.ofList (Number.natText s.port.toNat)) ++ ": invalid socket address syntax"))) ∧
    ∀ ip : Ipv6, { s with bindAddress := "[" ++ (IpAddress.v6 ip).text ++ "]" }.socketAddress =
      .ok (.v6 ip 0 s.port) := by
  refine ⟨fun ip => ?_, fun ip => ?_, fun ip => ?_⟩
  · refine socketAddress_eq_ok ?_
    rw [toList_bindText, IpAddress.text, String.toList_ofList]
    rfl
  · have hread : SocketAddress.read?
        { s with bindAddress := (IpAddress.v6 ip).text }.bindText.toList = none := by
      rw [toList_bindText, IpAddress.text, String.toList_ofList]
      exact SocketAddress.read?_ipv6_colon ip _
    rw [socketAddress, hread]
    rfl
  · refine socketAddress_eq_ok ?_
    rw [toList_bindText, IpAddress.text]
    simp [SocketAddress.chars]

/-- The address of the machine itself is refused. -/
theorem loopback_refused :
    let loopback : Ipv6 := ⟨[0, 0, 0, 0, 0, 0, 0, 1], rfl⟩
    let s : Settings := ⟨"::1", 8000, none, 2000, "info", .defaults ""⟩
    s.bindAddress = (IpAddress.v6 loopback).text ∧
      s.socketAddress ≠ .ok (.v6 loopback 0 8000) ∧
      s.socketAddress = .error (.configuration
        "Invalid bind address ::1:8000: invalid socket address syntax") := by
  decide +kernel

/-- With another port the same host is bound. -/
lemma exists_socketAddress_of_port {s : Settings} {a : SocketAddress} (h : s.socketAddress = .ok a)
    (port : UInt16) : ∃ b, { s with port := port }.socketAddress = .ok b ∧ b.ip = a.ip := by
  obtain ⟨b, hhost, hport, hip⟩ := (socketAddress_eq_ok_iff.mp h).2.exists_port port
  exact ⟨b, socketAddress_eq_ok_iff.mpr ⟨hport, hhost⟩, hip⟩

/-- **The bind text names the host only.**  Whatever text the settings give as the address to bind
to:
* a socket address results exactly if its port is that of the settings and the text is that of its
  host: the standard text of its version 4 address, or in brackets a text of its version 6 address
  with or without a scope;
* otherwise the text is refused, in words that name it and the port;
* with any other port the outcome is the same, up to the port. -/
theorem bind_text_names_host (s : Settings) :
    (∀ a, s.socketAddress = .ok a ↔
      a.port = s.port ∧ SocketAddress.WritesHost s.bindAddress.toList a) ∧
    ((∃ a, s.socketAddress = .ok a) ∨
      s.socketAddress = .error (.configuration ("Invalid bind address " ++ (s.bindAddress ++ ":" ++
        String.ofList (Number.natText s.port.toNat)) ++ ": invalid socket address syntax"))) ∧
    ∀ port : UInt16, { s with port := port }.socketAddress.toOption.map SocketAddress.ip =
      s.socketAddress.toOption.map SocketAddress.ip := by
  refine ⟨fun a => socketAddress_eq_ok_iff, ?_, fun port => ?_⟩
  · rw [socketAddress]
    cases SocketAddress.read? s.bindText.toList with
    | some a => exact .inl ⟨a, rfl⟩
    | none => exact .inr rfl
  · cases hs : s.socketAddress with
    | ok a =>
      obtain ⟨b, hb, hip⟩ := exists_socketAddress_of_port hs port
      rw [hb]
      exact congrArg some hip
    | error fault =>
      cases hother : { s with port := port }.socketAddress with
      | error => rfl
      | ok b =>
        -- back to the port of the settings
        obtain ⟨a, ha, -⟩ := exists_socketAddress_of_port hother s.port
        rw [show ({ s with port := s.port } : Settings) = s from rfl] at ha
        exact absurd (ha.symm.trans hs) nofun

/-- Capital letters and zeros in front are read, and so are a version 4 address and a scope. -/
example : (⟨"[0:00::00A:1.2.3.4%07]", 8000, none, 2000, "info", .defaults ""⟩ :
      Settings).socketAddress =
    .ok (.v6 ⟨[0, 0, 0, 0, 0, 10, 0x102, 0x304], rfl⟩ 7 8000) := by
  decide +kernel

end Settings

end ShowControl
