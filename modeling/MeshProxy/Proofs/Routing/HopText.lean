import MeshProxy.Proofs.Net.Ipv6Text
import MeshProxy.Proofs.Routing.NextHop

/-!
# What can be told from the text of a next hop

The text of a next hop ends in a colon and its port, and the host stands in front of it, in brackets exactly if it is
an IPv6 address (`NextHop.Shown`). Any text can be a host, also one with colons and brackets of its own, so the brackets
around a host may come from the text or be its own. That is all that cannot be told (`NextHop.SameHost`). And if the host
is an address, the text is a socket address, so a dial needs no lookup (`NextHop.legible`).
-/

namespace MeshProxy

/-- The texts of an IP address of either family. -/
def Ip.Spells (cs : List Char) : Ip → Prop
  | .v4 ip => cs = ip.chars
  | .v6 ip => Ipv6.Spells cs ip

namespace NextHop

/-- How a host stands in front of its port. -/
inductive Shown (host : List Char) : List Char → Prop where
  | bracketed {ip : Ipv6} :
    Ipv6.Spells host ip →
    Shown host ('[' :: (host ++ [']']))
  | plain :
    (∀ ip, ¬ Ipv6.Spells host ip) →
    Shown host host

/-- Hosts that are the same, or that differ by the brackets around an IPv6 address. -/
inductive SameHost : List Char → List Char → Prop where
  | same (host : List Char) : SameHost host host
  | left {host : List Char} {ip : Ipv6} :
    Ipv6.Spells host ip →
    SameHost ('[' :: (host ++ [']'])) host
  | right {host : List Char} {ip : Ipv6} :
    Ipv6.Spells host ip →
    SameHost host ('[' :: (host ++ [']']))

/-- What the text of a next hop tells of its host and its port. -/
structure Legible (hop : NextHop) : Prop where
  cut : ∃ shown, Text.splitLast? ':' hop.toText.toList = some (shown, Text.decimal hop.port.toNat) ∧
    Shown hop.host.toList shown
  same_iff : ∀ other : NextHop,
    hop.toText = other.toText ↔ hop.port = other.port ∧ SameHost hop.host.toList other.host.toList
  /-- Whichever address the host is, the text is the socket address of it. -/
  address : ∀ ip, Ip.Spells hop.host.toList ip →
    SocketAddress.ofChars? hop.toText.toList = some (.of ip hop.port)

lemma shown_hostChars (hop : NextHop) : Shown hop.host.toList hop.hostChars := by
  rw [hostChars]
  split
  case isTrue spelled =>
    obtain ⟨ip, read⟩ := Option.isSome_iff_exists.mp spelled
    exact .bracketed (Ipv6.ofChars?_eq_some_iff.mp read)
  case isFalse none =>
    refine .plain ?_
    intro ip spelled
    rw [Ipv6.ofChars?_eq_some_iff.mpr spelled] at none
    exact none rfl

/-- With brackets around it, nothing is an IPv6 address. -/
lemma not_spells_of_brackets (host : List Char) (ip : Ipv6) : ¬ Ipv6.Spells ('[' :: (host ++ [']'])) ip := by
  intro spelled
  exact spelled.not_mem (c := '[') rfl (by decide) (by decide) List.mem_cons_self

lemma Shown.unique {host shown shown' : List Char} (sh : Shown host shown) (sh' : Shown host shown') :
    shown = shown' := by
  cases sh with
  | bracketed spelled =>
    cases sh' with
    | bracketed => rfl
    | plain no => exact absurd spelled (no _)
  | plain no =>
    cases sh' with
    | bracketed spelled => exact absurd spelled (no _)
    | plain => rfl

lemma Shown.sameHost {host host' shown : List Char} (sh : Shown host shown) (sh' : Shown host' shown) :
    SameHost host host' := by
  cases sh with
  | bracketed spelled =>
    generalize eq : '[' :: (host ++ [']']) = shown at sh'
    cases sh' with
    | bracketed =>
      rw [List.cons.injEq, List.append_cancel_right_eq] at eq
      rw [eq.2]
      exact .same _
    | plain =>
      rw [← eq]
      exact .right spelled
  | plain =>
    cases sh' with
    | bracketed spelled => exact .left spelled
    | plain => exact .same _

lemma SameHost.shown_eq {host host' shown shown' : List Char} (same : SameHost host host')
    (sh : Shown host shown) (sh' : Shown host' shown') : shown = shown' := by
  cases same with
  | same => exact sh.unique sh'
  | left spelled =>
    -- The brackets are those of the host on one side, and those of the text on the other.
    rw [sh.unique (.plain (not_spells_of_brackets _)), sh'.unique (.bracketed spelled)]
  | right spelled =>
    rw [sh.unique (.bracketed spelled), sh'.unique (.plain (not_spells_of_brackets _))]

lemma toList_toText (hop : NextHop) : hop.toText.toList = hop.chars := String.toList_ofList

lemma toText_eq_iff {hop other : NextHop} :
    hop.toText = other.toText ↔ hop.port = other.port ∧ hop.hostChars = other.hostChars := by
  constructor
  · intro eq
    have cut := hop.splitLast?_chars
    rw [← toList_toText, eq, toList_toText, other.splitLast?_chars, Option.some.injEq, Prod.mk.injEq] at cut
    have port : Text.port? (Text.decimal hop.port.toNat) = Text.port? (Text.decimal other.port.toNat) := by
      rw [cut.2]
    rw [Text.port?_decimal, Text.port?_decimal, Option.some.injEq] at port
    exact ⟨port, cut.1.symm⟩
  · rintro ⟨port, host⟩
    rw [toText, toText, chars, chars, port, host]

/-- A host that is an IPv4 address, and stands there without brackets. -/
lemma ofChars?_of_ipv4 {hop : NextHop} {ip : Ipv4} (host : hop.host.toList = ip.chars) :
    SocketAddress.ofChars? hop.toText.toList = some (.of (.v4 ip) hop.port) := by
  have plain : Shown hop.host.toList ip.chars := by
    rw [host]
    refine .plain ?_
    intro ip' spelled
    exact Ipv4.not_mem_chars rfl (by decide) ip spelled.colon_mem
  have cut := hop.splitLast?_chars
  rw [hop.shown_hostChars.unique plain, ← toList_toText] at cut
  have names : Target.Names hop.toText ip hop.port (Text.decimal hop.port.toNat) := {
    cut := ⟨ip.chars, cut, Ipv4.ofChars?_eq_some_iff.mpr rfl⟩
    value := Text.port?_decimal hop.port }
  exact names.socketAddress (Text.boundedDigits?_decimal (Nat.le_of_lt_succ hop.port.toNat_lt))

/-- A host that is an IPv6 address, and gets the brackets that a socket address needs. -/
lemma ofChars?_of_ipv6 {hop : NextHop} {ip : Ipv6} (spelled : Ipv6.Spells hop.host.toList ip) :
    SocketAddress.ofChars? hop.toText.toList = some (.of (.v6 ip) hop.port) := by
  have cut := hop.splitLast?_chars
  rw [hop.shown_hostChars.unique (.bracketed spelled), ← toList_toText] at cut
  have port : Text.boundedDigits? Text.maxPort (Text.decimal hop.port.toNat) = some hop.port.toNat :=
    Text.boundedDigits?_decimal (Nat.le_of_lt_succ hop.port.toNat_lt)
  have zone : Text.splitFirst? '%' hop.host.toList = none :=
    Text.splitFirst?_of_not_mem (spelled.not_mem rfl (by decide) (by decide))
  rw [SocketAddress.ofChars?, cut]
  simp [port, SocketAddress.bracketed?, zone, Ipv6.ofChars?_eq_some_iff.mpr spelled, SocketAddress.of]

/-- The text of a next hop tells its port, its host up to the brackets of an IPv6 address, and, if the host is an
address, which one. -/
theorem legible (hop : NextHop) : Legible hop where
  cut := by
    rw [toList_toText]
    exact ⟨_, hop.splitLast?_chars, hop.shown_hostChars⟩
  same_iff := by
    intro other
    rw [toText_eq_iff]
    constructor
    · rintro ⟨port, shown⟩
      have sh := hop.shown_hostChars
      rw [shown] at sh
      exact ⟨port, sh.sameHost other.shown_hostChars⟩
    · rintro ⟨port, same⟩
      exact ⟨port, same.shown_eq hop.shown_hostChars other.shown_hostChars⟩
  address := by
    intro ip spelled
    cases ip with
    | v4 ip => exact ofChars?_of_ipv4 spelled
    | v6 ip => exact ofChars?_of_ipv6 spelled

end NextHop

end MeshProxy
