import MeshProxy.Handshake.Target
import MeshProxy.Proofs.Text.Decimal
import MeshProxy.Proofs.Text.Fields
import MeshProxy.Text.Utf8
import Mathlib.Data.List.Infix

/-!
# What a target is, and what is left of one that is cut short

A text is a target exactly if it is short enough and has one colon, a host in front of it and a port behind it
(`Target.fault?_eq_none_iff`). Of a target that is cut short anywhere, what is left is a target exactly if the cut is
behind a digit of the port (`Target.fault?_of_cut`): it has the same host then, and a port of fewer digits.

Cutting bytes and cutting characters are the same as long as whole characters are left, since no character begins with
the bytes of another (`prefix_of_bytesOf_prefix`).
-/

namespace MeshProxy

/-- If the bytes of a text begin with those of another, the text begins with the other. -/
lemma prefix_of_bytesOf_prefix {short long : String} (pre : bytesOf short <+: bytesOf long) :
    short.toList <+: long.toList := by
  obtain ⟨more, eq⟩ := pre
  apply List.isPrefix_of_utf8Encode_append_eq_utf8Encode more.toByteArray
  rw [String.utf8Encode_toList, String.utf8Encode_toList, ← toByteArray_bytesOf long, ← eq,
    List.toByteArray_append, toByteArray_bytesOf]

namespace Target

/-- A text with a host, a colon, and a port. -/
structure Spells (text : String) (host port : List Char) : Prop where
  chars : text.toList = host ++ ':' :: port
  host_ne_nil : host ≠ []
  host_plain : ':' ∉ host
  port_ok : (Text.port? port).isSome

lemma Spells.splitLast? {text : String} {host port : List Char} (sp : Spells text host port) :
    Text.splitLast? ':' text.toList = some (host, port) := by
  obtain ⟨n, read⟩ := Option.isSome_iff_exists.mp sp.port_ok
  exact Text.splitLast?_eq_some_iff.mpr ⟨sp.chars, Text.not_mem_of_port? read⟩

/-- A text is a target exactly if it is short enough and spells a host and a port. -/
theorem fault?_eq_none_iff {text : String} :
    fault? text = none ↔ text.utf8ByteSize ≤ maxBytes ∧ ∃ host port, Spells text host port := by
  constructor
  · intro valid
    rw [fault?] at valid
    -- Each check that is not passed has a fault of its own.
    split at valid
    · cases valid
    case isFalse short =>
      refine ⟨Nat.le_of_not_lt short, ?_⟩
      split at valid
      · cases valid
      case h_2 host port cut =>
        split at valid
        · cases valid
        case isFalse plain =>
          split at valid
          · cases valid
          case isFalse ok =>
            rw [not_or] at plain
            obtain ⟨chars, -⟩ := Text.splitLast?_eq_some_iff.mp cut
            exact ⟨host, port, chars, plain.1, plain.2, by simpa [Option.isSome_iff_ne_none] using ok⟩
  · rintro ⟨short, host, port, sp⟩
    rw [fault?, if_neg (Nat.not_lt.mpr short), sp.splitLast?]
    have ok : ¬ (Text.port? port).isNone := by simpa [Option.isSome_iff_ne_none] using sp.port_ok
    simp only [sp.host_ne_nil, sp.host_plain, or_self, if_false, if_neg ok]

/-- The host of a target that is no longer than another one is the host of the other. -/
lemma Spells.host_eq {short long : String} {host host' port port' : List Char}
    (sp : Spells long host port) (sp' : Spells short host' port')
    (pre : short.toList <+: long.toList) : host' = host ∧ port' <+: port := by
  -- Without a colon in it, a host is what is in front of the first one.
  have front {h : List Char} (plain : ':' ∉ h) (rest : List Char) :
      (h ++ ':' :: rest).takeWhile (· != ':') = h := by
    rw [List.takeWhile_append_of_pos]
    · simp
    · intro c mem
      have ne : c ≠ ':' := by
        rintro rfl
        exact plain mem
      simpa using ne
  obtain ⟨more, eq⟩ := pre
  rw [sp.chars, sp'.chars, List.append_assoc, List.cons_append] at eq
  have same : host' = host := by
    rw [← front sp'.host_plain (port' ++ more), eq, front sp.host_plain]
  subst same
  rw [List.append_cancel_left_eq, List.cons.injEq] at eq
  exact ⟨rfl, more, eq.2⟩

/-- What is left of a target is a target exactly if the cut is behind a digit of the port. -/
theorem fault?_of_cut {short long : String} {host port : List Char}
    (valid : fault? long = none) (sp : Spells long host port) (pre : bytesOf short <+: bytesOf long) :
    fault? short = none ↔
      ∃ digits, short.toList = host ++ ':' :: digits ∧ digits <+: port ∧
        ∃ c ∈ digits, c.isDigit = true := by
  have chars := prefix_of_bytesOf_prefix pre
  obtain ⟨long_fits, -⟩ := fault?_eq_none_iff.mp valid
  have size : short.utf8ByteSize ≤ long.utf8ByteSize := by
    rw [← length_bytesOf, ← length_bytesOf]
    exact pre.length_le
  rw [fault?_eq_none_iff]
  constructor
  · rintro ⟨-, host', digits, sp'⟩
    obtain ⟨rfl, less⟩ := sp.host_eq sp' chars
    exact ⟨digits, sp'.chars, less, (Text.isSome_port?_of_cut sp.port_ok less).mp sp'.port_ok⟩
  · rintro ⟨digits, eq, less, digit⟩
    have port_ok := (Text.isSome_port?_of_cut sp.port_ok less).mpr digit
    exact ⟨Nat.le_trans size long_fits, host, digits, eq, sp.host_ne_nil, sp.host_plain, port_ok⟩

end Target

end MeshProxy
