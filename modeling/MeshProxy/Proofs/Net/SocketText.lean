import MeshProxy.Net.Address
import MeshProxy.Proofs.Net.Destination

/-!
# Which socket addresses are targets

The text of an IPv4 socket address is that of a destination, so it is a target. The text of an IPv6 address always has a
colon in it (`Ipv6.colon_mem_chars`), compressed or not, and brackets do not help: the text of an IPv6 socket address is
short enough and is refused for its host (`SocketAddress.fault?_toText_v6`).
-/

namespace MeshProxy

namespace Ipv6

/-- A group has at most four digits. -/
lemma length_groupChars_le (group : UInt16) : (groupChars group).length ≤ 4 := by
  apply (Nat.length_toDigits_le_iff (by decide) (by decide)).mpr
  exact group.toNat_lt

lemma length_joinGroups_le (groups : List UInt16) : (joinGroups groups).length ≤ 5 * groups.length := by
  induction groups using joinGroups.induct with
  | case1 => exact Nat.le_refl 0
  | case2 g =>
    have four := length_groupChars_le g
    rw [joinGroups, List.length_singleton]
    omega
  | case3 g more ne ih =>
    have four := length_groupChars_le g
    rw [joinGroups, List.length_append, List.length_cons, List.length_cons]
    · omega
    · exact ne

lemma colon_mem_joinGroups {groups : List UInt16} (two : 2 ≤ groups.length) : ':' ∈ joinGroups groups := by
  match groups with
  | [] => cases two
  | [g] => exact absurd two (Nat.not_succ_le_self 1)
  | g :: h :: more =>
    rw [joinGroups]
    · exact List.mem_append_right _ List.mem_cons_self
    · nofun

/-- An IPv6 address is never written without a colon. -/
lemma colon_mem_chars (ip : Ipv6) : ':' ∈ ip.chars := by
  rw [chars]
  split
  case h_1 => exact List.mem_append_left _ List.mem_cons_self
  case h_2 =>
    dsimp only
    split
    case isTrue => simp
    case isFalse =>
      apply colon_mem_joinGroups
      rw [ip.length_eq]
      decide

lemma length_chars_le (ip : Ipv6) : ip.chars.length ≤ 42 := by
  rw [chars]
  split
  case h_1 high low _ =>
    have dotted := (embedded high low).length_chars_le
    rw [List.length_append, List.length_cons, List.length_cons, List.length_cons, List.length_cons,
      List.length_cons, List.length_cons, List.length_cons, List.length_nil]
    omega
  case h_2 =>
    dsimp only
    have eight := ip.length_eq
    split
    case isTrue =>
      -- Whatever is left out, no group is written twice.
      generalize longestZeros 0 ip.groups = zeros
      have front := length_joinGroups_le (ip.groups.take zeros.1)
      have back := length_joinGroups_le (ip.groups.drop (zeros.1 + zeros.2))
      rw [List.length_take] at front
      rw [List.length_drop] at back
      rw [List.length_append, List.length_append, List.length_cons, List.length_singleton]
      omega
    case isFalse =>
      have all := length_joinGroups_le ip.groups
      omega

end Ipv6

namespace SocketAddress

lemma fault?_toText_v4 (ip : Ipv4) (port : UInt16) : Target.fault? (of (.v4 ip) port).toText = none :=
  Destination.fault?_toText ⟨ip, port⟩

lemma fault?_toText_v6 (ip : Ipv6) (port : UInt16) :
    Target.fault? (of (.v6 ip) port).toText = some .badHost := by
  let host : List Char := '[' :: (ip.chars ++ [']'])
  have list : (of (.v6 ip) port).toText.toList = host ++ ':' :: Text.decimal port.toNat := by
    rw [toText, String.toList_ofList, of, chars]
    simp [host, hostChars, SocketAddress.port]
  have short : (of (.v6 ip) port).toText.utf8ByteSize ≤ Target.maxBytes := by
    have size := utf8ByteSize_ofList_le (of (.v6 ip) port).toText.toList
    have address := ip.length_chars_le
    have digits : (Text.decimal port.toNat).length ≤ 5 := by
      apply Text.length_decimal_le _ (by decide)
      have lt := port.toNat_lt
      omega
    have max : Target.maxBytes = 256 := rfl
    rw [list, List.length_append, List.length_cons, List.length_cons, List.length_append,
      List.length_singleton, ← list, String.ofList_toList] at size
    omega
  have cut := Text.splitLast?_append (Text.not_mem_decimal (c := ':') rfl port.toNat) host
  have colon : ':' ∈ host := List.mem_cons_of_mem _ (List.mem_append_left _ ip.colon_mem_chars)
  rw [Target.fault?, if_neg (Nat.not_lt.mpr short), list, cut]
  exact if_pos (.inr colon)

end SocketAddress

end MeshProxy
