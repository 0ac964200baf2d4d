import MeshProxy.Proofs.Net.Destination
import MeshProxy.Routing.Dial

/-!
# The texts that stand for an address

An IPv4 address has one text (`Ipv4.eq_chars_of_ofChars?`), a port has many: digits with any number of zeros, with or
without a plus sign in front of them. So a target that names an IPv4 address and a port (`Target.Names`) need not be the
text of that socket address. It is exactly if the port is plain (`Names.eq_toText_iff`).
But a dial makes no difference between such targets: each is dialed at the address it names (`Names.addresses`).
-/

namespace MeshProxy

namespace Ipv4

lemma eq_decimal_of_octet? {cs : List Char} {octet : UInt8} (read : octet? cs = some octet) :
    cs = Text.decimal octet.toNat := by
  rw [octet?] at read
  split at read
  case isFalse => cases read
  case isTrue tight =>
    obtain ⟨n, digits, rfl⟩ := Option.map_eq_some_iff.mp read
    obtain ⟨-, -, -, le⟩ := Text.boundedDigits?_eq_some_iff.mp digits
    have lt : n < 2 ^ 8 := Nat.lt_succ_of_le le
    rw [UInt8.toNat_ofNat', Nat.mod_eq_of_lt lt]
    exact Text.decimal_of_boundedDigits? digits tight.2

/-- An address is read from its text and from no other. -/
theorem eq_chars_of_ofChars? {cs : List Char} {ip : Ipv4} (read : ofChars? cs = some ip) :
    cs = ip.chars := by
  rw [ofChars?] at read
  split at read
  case h_2 => cases read
  case h_1 a b c d pieces =>
    simp only [Option.bind_eq_bind, Option.bind_eq_some_iff, Option.pure_def, Option.some.injEq] at read
    obtain ⟨a', first, b', second, c', third, d', fourth, rfl⟩ := read
    rw [← Text.intercalate_fields '.' cs, pieces, eq_decimal_of_octet? first,
      eq_decimal_of_octet? second, eq_decimal_of_octet? third, eq_decimal_of_octet? fourth]
    simp [List.intercalate, chars]

/-- Every octet is read from its digits. -/
lemma octet?_decimal (octet : UInt8) : octet? (Text.decimal octet.toNat) = some octet := by
  have le : octet.toNat ≤ 255 := Nat.le_of_lt_succ octet.toNat_lt
  have tight : (Text.decimal octet.toNat).head? ≠ some '0' ∨ (Text.decimal octet.toNat).length = 1 := by
    by_cases zero : octet.toNat = 0
    · right
      rw [zero]
      rfl
    · exact .inl (Text.head?_decimal_ne_zero (Nat.pos_of_ne_zero zero))
  rw [octet?, if_pos ⟨length_octet_le octet, tight⟩, Text.boundedDigits?_decimal le]
  exact congrArg some (UInt8.ofNat_toNat)

lemma fields_chars (ip : Ipv4) :
    Text.fields '.' ip.chars =
      [Text.decimal ip.a.toNat, Text.decimal ip.b.toNat, Text.decimal ip.c.toNat, Text.decimal ip.d.toNat] := by
  have no (octet : UInt8) : '.' ∉ Text.decimal octet.toNat := Text.not_mem_decimal rfl _
  simp only [chars, List.append_assoc, List.cons_append]
  rw [Text.fields_append (no ip.a), Text.fields_append (no ip.b), Text.fields_append (no ip.c),
    Text.fields_of_not_mem (no ip.d)]

/-- The text of an address is read as this address. -/
theorem ofChars?_eq_some_iff {cs : List Char} {ip : Ipv4} : ofChars? cs = some ip ↔ cs = ip.chars := by
  constructor
  · exact eq_chars_of_ofChars?
  · rintro rfl
    rw [ofChars?, fields_chars]
    simp [octet?_decimal]

end Ipv4

namespace Target

/-- What is in front of the last colon of a target is read as an address, and what is behind it as a port. -/
structure Names (target : String) (ip : Ipv4) (port : UInt16) (portText : List Char) : Prop where
  cut : ∃ host, Text.splitLast? ':' target.toList = some (host, portText) ∧
    Ipv4.ofChars? host = some ip
  value : Text.port? portText = some port

variable {target : String} {ip : Ipv4} {port : UInt16} {portText : List Char}

lemma Names.chars (nm : Names target ip port portText) :
    target.toList = ip.chars ++ ':' :: portText := by
  obtain ⟨host, cut, read⟩ := nm.cut
  rw [(Text.splitLast?_eq_some_iff.mp cut).1, Ipv4.eq_chars_of_ofChars? read]

/-- A target that names a socket address is the text of it exactly if the port is plain. -/
theorem Names.eq_toText_iff (nm : Names target ip port portText) :
    target = (SocketAddress.of (.v4 ip) port).toText ↔ Text.Plain portText := by
  have text : (SocketAddress.of (.v4 ip) port).toText.toList =
      ip.chars ++ ':' :: Text.decimal port.toNat := String.toList_ofList
  rw [← Text.eq_decimal_iff_of_port? nm.value, ← String.toList_inj, nm.chars, text]
  simp

/-- A target without a sign is a socket address as it is. -/
lemma Names.socketAddress (nm : Names target ip port portText)
    (plain : Text.boundedDigits? Text.maxPort portText = some port.toNat) :
    SocketAddress.ofChars? target.toList = some (.of (.v4 ip) port) := by
  obtain ⟨host, cut, read⟩ := nm.cut
  have front : ∀ inner, host ≠ '[' :: inner := by
    rintro inner rfl
    have text := Ipv4.eq_chars_of_ofChars? read
    have bracket : '[' ∉ ip.chars := Ipv4.not_mem_chars rfl (by decide) ip
    rw [← text] at bracket
    exact bracket List.mem_cons_self
  simp [SocketAddress.ofChars?, cut, plain, read, SocketAddress.of]

/-- Whatever its port is like, such a target is dialed at the address that it names, if the lookup of an address gives
that address. -/
theorem Names.addresses (nm : Names target ip port portText) {network : Dial.Network}
    (lookup : network.lookup ip.toText = .ok [.v4 ip]) :
    Dial.addresses network target = .ok [.of (.v4 ip) port] := by
  obtain ⟨ds, rfl | rfl, bounded⟩ := Text.port?_eq_some_iff.mp nm.value
  · rw [Dial.addresses, nm.socketAddress bounded]
  · -- A sign is left to the lookup.
    obtain ⟨host, cut, read⟩ := nm.cut
    obtain rfl := Ipv4.eq_chars_of_ofChars? read
    have signed : Text.boundedDigits? Text.maxPort ('+' :: ds) = none := by
      rw [Option.eq_none_iff_forall_ne_some]
      intro n digits
      obtain ⟨-, dg, -⟩ := Text.boundedDigits?_eq_some_iff.mp digits
      exact absurd (dg '+' List.mem_cons_self) (by decide)
    have nul : '\x00' ∉ ip.chars := Ipv4.not_mem_chars rfl (by decide) ip
    have lookup : network.lookup (String.ofList ip.chars) = .ok [.v4 ip] := lookup
    simp [Dial.addresses, SocketAddress.ofChars?, cut, signed, nm.value, nul, lookup, Except.map]

end Target

end MeshProxy
