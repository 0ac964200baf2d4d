import MeshProxy.Net.Ipv4

/-!
# The destination of a redirected connection

The kernel keeps the destination that a workload addressed before its connection was redirected, and hands
it out as a sixteen-byte record: the address family in host order (little-endian), the port with its high
byte first, the four octets of the address, and padding.
-/

namespace MeshProxy

/-- What a workload addressed before redirection. -/
structure Destination where
  ip : Ipv4
  port : UInt16
deriving DecidableEq, Repr

namespace Destination

/-- The address family of IPv4. -/
def ipv4Family : Nat := 2

/-- The family field of a record. -/
def family (raw : Vector UInt8 16) : Nat := raw[0].toNat + 256 * raw[1].toNat

/-- The port field of a record. -/
def portField (raw : Vector UInt8 16) : UInt16 := bigEndian raw[2] raw[3]

/-- The destination in a record, or the family that is not IPv4. -/
def ofRecord (raw : Vector UInt8 16) : Except Nat Destination :=
  if family raw = ipv4Family then .ok ⟨⟨raw[4], raw[5], raw[6], raw[7]⟩, portField raw⟩
  else .error (family raw)

def chars (dest : Destination) : List Char :=
  dest.ip.chars ++ ':' :: Text.decimal dest.port.toNat

/-- The destination as `address:port`, the text that travels to the other sidecar. -/
def toText (dest : Destination) : String := String.ofList dest.chars

/-- A summary that names the fields. -/
def summary (dest : Destination) : String :=
  "OriginalDestination \x7b ip: " ++ dest.ip.toText ++ ", port: " ++
    toString dest.port.toNat ++ " \x7d"

end Destination

end MeshProxy
