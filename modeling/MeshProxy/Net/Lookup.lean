import MeshProxy.Net.Address
import MeshProxy.Stream.Fault

/-!
# Hosts that need no name service

A host is an IP address or a name. This library resolves the hosts that need no name service: addresses,
`localhost`, and the historical numeric forms, which have one to four parts in decimal, octal or hexadecimal,
the last part filling all the octets that are left. An IPv6 address may name the interface it is reached by;
the address alone counts. For every other host a name service is asked; `Lookup.alone` answers as on a machine that can reach
none.
-/

namespace MeshProxy.Lookup

/-- The value of digits in a base, or `none` if one of them is not a digit of it. -/
def ofBase? (base : Nat) (value : Nat) : List Char → Option Nat
  | [] => some value
  | c :: rest =>
    match Text.hexDigit? c with
    | some d => if d < base then ofBase? base (base * value + d) rest else none
    | none => none

/-- One part of a historical form: hexadecimal after `0x`, octal after `0`, otherwise decimal. -/
def part? : List Char → Option Nat
  | [] => none
  | ['0', 'x'] => none
  | ['0', 'X'] => none
  | '0' :: 'x' :: rest => ofBase? 16 0 rest
  | '0' :: 'X' :: rest => ofBase? 16 0 rest
  | '0' :: rest => ofBase? 8 0 rest
  | cs => ofBase? 10 0 cs

/-- The address whose octets are the base-256 digits of a number. -/
def ofWord (n : Nat) : Ipv4 :=
  ⟨UInt8.ofNat (n / 0x1000000), UInt8.ofNat (n / 0x10000), UInt8.ofNat (n / 0x100), UInt8.ofNat n⟩

/-- The address that the parts make: each but the last is one octet. `filled` octets are already set
and have the value `word`. -/
def assemble? (filled word : Nat) : List Nat → Option Ipv4
  | [] => none
  | [last] =>
    let room := Nat.pow 256 (4 - filled)
    if last < room then some (ofWord (word * room + last)) else none
  | octet :: more =>
    if octet ≤ 255 ∧ filled < 3 then assemble? (filled + 1) (word * 256 + octet) more else none

/-- A historical numeric form. -/
def historical? (cs : List Char) : Option Ipv4 := do
  assemble? 0 0 (← (Text.fields '.' cs).mapM part?)

/-- The address of a host that needs no name service. -/
def host? (name : String) : Option Ipv4 :=
  if name.toList.map Char.toLower = "localhost".toList then some Ipv4.loopback
  else historical? name.toList

/-- Whether an address means something only together with an interface: a link-local address, or a
group of this node or link. -/
def needsInterface (ip : Ipv6) : Bool :=
  match ip.groups with
  | [] => false
  | first :: _ =>
    let n := first.toNat
    n / 0x40 == 0xFE80 / 0x40 || (n / 0x100 == 0xFF && (n % 0x10 == 1 || n % 0x10 == 2))

/-- The interface that every host has. -/
def loopbackInterface : List Char := ['l', 'o']

/-- Whether a text names an interface by its number, or, for an address that needs one, by its name. -/
def isInterface (ip : Ipv6) (cs : List Char) : Bool :=
  (Text.boundedDigits? 0xFFFFFFFF cs).isSome || (needsInterface ip && cs == loopbackInterface)

/-- An IPv6 address with an interface behind a percent sign. -/
def zoned? (cs : List Char) : Option Ipv6 := do
  let (address, interface) ← Text.splitFirst? '%' cs
  let ip ← Ipv6.ofChars? address
  if isInterface ip interface then some ip else none

/-- The address that a host stands for by itself. -/
def address? (text : String) : Option Ip :=
  match Ip.ofChars? text.toList with
  | some ip => some ip
  | none =>
    match host? text with
    | some ip => some (.v4 ip)
    | none => (zoned? text.toList).map .v6

/-- Whether a name service can be asked for a host: its labels have one to sixty-three bytes each, and a dot
may follow the last. -/
def isAskable (host : String) : Bool :=
  let labels := (Text.fields '.' host.toList).map String.ofList
  let named := if labels.getLast? = some "" then labels.dropLast else labels
  host != "*" && named.all fun label => label != "" && label.utf8ByteSize ≤ 63

/-- Why a host stands for no address, when no name service can be reached. -/
def faultText (host : String) : String :=
  "failed to lookup address information: " ++
    if isAskable host then "Temporary failure in name resolution" else "Name or service not known"

/-- What a host is looked up as when no name service can be reached. -/
def alone (host : String) : Except IoFault (List Ip) :=
  match address? host with
  | some ip => .ok [ip]
  | none => .error (.told .other (faultText host))

end MeshProxy.Lookup
