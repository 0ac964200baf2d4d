/-!
# UTF-8

Reading bytes as text. A sequence of bytes is text or it is not; when it is not, the place and extent of
the first fault can be told, and a lossy reading puts a replacement character for each faulty stretch.
-/

namespace MeshProxy

/-- Raw bytes, in the order they travel. -/
abbrev Bytes := List UInt8

/-- The bytes of a text. -/
def bytesOf (s : String) : Bytes := s.toByteArray.data.toList

theorem toByteArray_bytesOf (s : String) : (bytesOf s).toByteArray = s.toByteArray := by
  apply ByteArray.ext
  simp [bytesOf, List.data_toByteArray]

theorem length_bytesOf (s : String) : (bytesOf s).length = s.utf8ByteSize := by
  rw [bytesOf, Array.length_toList]
  exact String.size_toByteArray

namespace Text

/-- Why bytes are not text: where the first faulty sequence starts, and how many bytes it spoils, or
`none` when the bytes end inside it. -/
structure Utf8Fault where
  index : Nat
  length : Option Nat
deriving DecidableEq, Repr

def Utf8Fault.message : Utf8Fault → String
  | ⟨index, some n⟩ =>
    "invalid utf-8 sequence of " ++ toString n ++ " bytes from index " ++ toString index
  | ⟨index, none⟩ => "incomplete utf-8 byte sequence from index " ++ toString index

/-- What must follow a first byte: how many bytes, and between which bounds the next of them lies. -/
structure Owed where
  count : Nat
  low : UInt8
  high : UInt8

/-- What a first byte asks for, if a sequence may start with it. -/
def owedAfter (b : UInt8) : Option Owed :=
  if b ≤ 0x7F then some ⟨0, 0x80, 0xBF⟩
  else if 0xC2 ≤ b ∧ b ≤ 0xDF then some ⟨1, 0x80, 0xBF⟩
  else if b = 0xE0 then some ⟨2, 0xA0, 0xBF⟩
  else if b = 0xED then some ⟨2, 0x80, 0x9F⟩
  else if 0xE1 ≤ b ∧ b ≤ 0xEF then some ⟨2, 0x80, 0xBF⟩
  else if b = 0xF0 then some ⟨3, 0x90, 0xBF⟩
  else if 0xF1 ≤ b ∧ b ≤ 0xF3 then some ⟨3, 0x80, 0xBF⟩
  else if b = 0xF4 then some ⟨3, 0x80, 0x8F⟩
  else none

/-- Scans on from a sequence that began at `start`, of which `seen` bytes have passed and `owed` are
to come. At the end of the bytes the open sequence is the fault. -/
def scanFault (start seen : Nat) (owed : Owed) : Bytes → Utf8Fault
  | [] => ⟨start, none⟩
  | b :: rest =>
    if owed.count = 0 then
      match owedAfter b with
      | some owed' => scanFault (start + seen) 1 owed' rest
      | none => ⟨start + seen, some 1⟩
    else if owed.low ≤ b ∧ b ≤ owed.high then
      scanFault start (seen + 1) ⟨owed.count - 1, 0x80, 0xBF⟩ rest
    else ⟨start, some seen⟩

/-- The first fault of bytes that are not text. -/
def firstFault (bytes : Bytes) : Utf8Fault := scanFault 0 0 ⟨0, 0x80, 0xBF⟩ bytes

/-- The text that the bytes spell, if they are UTF-8. -/
def ofUtf8? (bytes : Bytes) : Option String := String.fromUTF8? bytes.toByteArray

/-- Bytes spell a text exactly if they are its bytes. -/
theorem ofUtf8?_eq_some_iff {bytes : Bytes} {s : String} :
    ofUtf8? bytes = some s ↔ bytes = bytesOf s := by
  constructor
  · intro h
    simp only [ofUtf8?, String.fromUTF8?] at h
    split at h
    · simp only [Option.some.injEq] at h
      subst h
      simp [bytesOf, String.fromUTF8, List.data_toByteArray]
    · simp at h
  · rintro rfl
    have valid : s.toByteArray.IsValidUTF8 := s.isValidUTF8
    simp only [ofUtf8?, String.fromUTF8?, toByteArray_bytesOf]
    rw [dif_pos valid]
    rfl

/-- The text that the bytes spell, or the first fault. -/
def ofUtf8 (bytes : Bytes) : Except Utf8Fault String :=
  match ofUtf8? bytes with
  | some s => .ok s
  | none => .error (firstFault bytes)

/-- The text that the bytes spell, with a replacement character for every faulty stretch. -/
def ofUtf8Lossy : Bytes → String
  | [] => ""
  | b :: rest =>
    match ofUtf8? (b :: rest) with
    | some s => s
    | none =>
      let fault := firstFault (b :: rest)
      let good := (ofUtf8? ((b :: rest).take fault.index)).getD ""
      match fault.length with
      | none => good ++ "\uFFFD"
      | some n => good ++ "\uFFFD" ++ ofUtf8Lossy ((b :: rest).drop (fault.index + max n 1))
termination_by bytes => bytes.length
decreasing_by
  simp only [List.length_drop, List.length_cons]
  omega

end Text

end MeshProxy
