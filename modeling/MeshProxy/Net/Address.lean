import MeshProxy.Net.Ipv6

/-!
# Addresses of either family, and socket addresses

The text forms of IP addresses and of an address with a port, with their readers.
-/

namespace MeshProxy

/-- An IP address of either family. -/
inductive Ip where
  | v4 (ip : Ipv4)
  | v6 (ip : Ipv6)
deriving DecidableEq, Repr

namespace Ip

def isV4 : Ip → Bool
  | .v4 _ => true
  | .v6 _ => false

def chars : Ip → List Char
  | .v4 ip => ip.chars
  | .v6 ip => ip.chars

def toText (ip : Ip) : String := String.ofList ip.chars

def ofChars? (cs : List Char) : Option Ip :=
  match Ipv4.ofChars? cs with
  | some ip => some (.v4 ip)
  | none => (Ipv6.ofChars? cs).map .v6

end Ip

/-- An address with a port. An IPv6 address may be bound to one interface by its number. -/
inductive SocketAddress where
  | v4 (ip : Ipv4) (port : UInt16)
  | v6 (ip : Ipv6) (scope : UInt32) (port : UInt16)
deriving DecidableEq, Repr

namespace SocketAddress

/-- The socket address of a port at an address, on whichever interface. -/
def of : Ip → UInt16 → SocketAddress
  | .v4 ip, port => .v4 ip port
  | .v6 ip, port => .v6 ip 0 port

def port : SocketAddress → UInt16
  | .v4 _ port => port
  | .v6 _ _ port => port

/-- The address part of the text; an IPv6 address stands in brackets, with its interface if it is
bound to one. -/
def hostChars : SocketAddress → List Char
  | .v4 ip _ => ip.chars
  | .v6 ip scope _ =>
    let zone := if scope = 0 then [] else '%' :: Text.decimal scope.toNat
    '[' :: (ip.chars ++ zone ++ [']'])

def chars (address : SocketAddress) : List Char :=
  address.hostChars ++ ':' :: Text.decimal address.port.toNat

def toText (address : SocketAddress) : String := String.ofList address.chars

/-- The part between brackets: an address and perhaps the number of an interface. -/
def bracketed? (cs : List Char) (port : UInt16) : Option SocketAddress :=
  match Text.splitFirst? '%' cs with
  | none => (Ipv6.ofChars? cs).map (.v6 · 0 port)
  | some (address, zone) => do
    let ip ← Ipv6.ofChars? address
    let scope ← Text.boundedDigits? 0xFFFFFFFF zone
    return .v6 ip (UInt32.ofNat scope) port

def ofChars? (cs : List Char) : Option SocketAddress := do
  let (host, portText) ← Text.splitLast? ':' cs
  let port ← (Text.boundedDigits? Text.maxPort portText).map UInt16.ofNat
  match host with
  | '[' :: inner =>
    if inner.getLast? = some ']' then bracketed? inner.dropLast port else none
  | _ => (Ipv4.ofChars? host).map (.v4 · port)

end SocketAddress

end MeshProxy
