import MeshProxy.Pki.Der

/-!
# Elliptic curves

The two prime-order curves a private key may belong to, and the one question a key asks of them: whether a
point is the multiple of the base point by the key's scalar. Points are kept in Jacobian coordinates, in
which `(x, y, z)` stands for the affine point `(x / z², y / z³)` and `z = 0` for the neutral element, so
that no step divides.
-/

namespace MeshProxy.Pki

/-- The curve `y² = x³ - 3x + b` over the integers modulo `modulus`. -/
structure Curve where
  modulus : Nat
  order : Nat
  baseX : Nat
  baseY : Nat
  /-- The bytes that a coordinate or a scalar takes. -/
  width : Nat
  /-- The curve's object identifier, as an element. -/
  objectId : Bytes
deriving DecidableEq, Repr

namespace Curve

/-- The 256-bit curve, also called prime256v1. -/
def p256 : Curve where
  modulus := 0xFFFFFFFF00000001000000000000000000000000FFFFFFFFFFFFFFFFFFFFFFFF
  order := 0xFFFFFFFF00000000FFFFFFFFFFFFFFFFBCE6FAADA7179E84F3B9CAC2FC632551
  baseX := 0x6B17D1F2E12C4247F8BCE6E563A440F277037D812DEB33A0F4A13945D898C296
  baseY := 0x4FE342E2FE1A7F9B8EE7EB4A7C0F9E162BCE33576B315ECECBB6406837BF51F5
  width := 32
  objectId := [0x06, 0x08, 0x2A, 0x86, 0x48, 0xCE, 0x3D, 0x03, 0x01, 0x07]

/-- The 384-bit curve. -/
def p384 : Curve where
  modulus := 0xFFFFFFFFFFFFFFFFFFFFFFFFFFFFFFFFFFFFFFFFFFFFFFFFFFFFFFFFFFFFFFFEFFFFFFFF0000000000000000FFFFFFFF
  order := 0xFFFFFFFFFFFFFFFFFFFFFFFFFFFFFFFFFFFFFFFFFFFFFFFFC7634D81F4372DDF581A0DB248B0A77AECEC196ACCC52973
  baseX := 0xAA87CA22BE8B05378EB1C71EF320AD746E1D3B628BA79B9859F741E082542A385502F25DBF55296C3A545E3872760AB7
  baseY := 0x3617DE4A96262C6F5D9E98BF9292DC29F8F41DBD289A147CE9DA3113B5F0B8C00A60B1CE1D7E819D7A431D7C90EA0E5F
  width := 48
  objectId := [0x06, 0x05, 0x2B, 0x81, 0x04, 0x00, 0x22]

/-- The content of an algorithm identifier for keys on the curve. -/
def algorithm (curve : Curve) : Bytes :=
  [0x06, 0x07, 0x2A, 0x86, 0x48, 0xCE, 0x3D, 0x02, 0x01] ++ curve.objectId

/-- A point in Jacobian coordinates. -/
structure Point where
  x : Nat
  y : Nat
  z : Nat
deriving DecidableEq, Repr

/-- The neutral element. -/
def neutral : Point := ⟨1, 1, 0⟩

/-- The point that every other is a multiple of. -/
def base (curve : Curve) : Point := ⟨curve.baseX, curve.baseY, 1⟩

def mul (curve : Curve) (a b : Nat) : Nat := a * b % curve.modulus

def sub (curve : Curve) (a b : Nat) : Nat := (a + (curve.modulus - b % curve.modulus)) % curve.modulus

/-- The sum of a point with itself. -/
def double (curve : Curve) (point : Point) : Point :=
  let ySquared := curve.mul point.y point.y
  let zSquared := curve.mul point.z point.z
  let s := curve.mul (4 * point.x) ySquared
  let slope := curve.mul (3 * curve.sub point.x zSquared) (point.x + zSquared)
  let x := curve.sub (curve.mul slope slope) (2 * s)
  let y := curve.sub (curve.mul slope (curve.sub s x)) (8 * curve.mul ySquared ySquared)
  ⟨x, y, curve.mul (2 * point.y) point.z⟩

/-- The sum of two points. -/
def add (curve : Curve) (first second : Point) : Point :=
  if first.z = 0 then second
  else if second.z = 0 then first
  else
    let zz1 := curve.mul first.z first.z
    let zz2 := curve.mul second.z second.z
    let u1 := curve.mul first.x zz2
    let u2 := curve.mul second.x zz1
    let s1 := curve.mul first.y (curve.mul second.z zz2)
    let s2 := curve.mul second.y (curve.mul first.z zz1)
    if u1 = u2 then
      if s1 = s2 then curve.double first else neutral
    else
      let h := curve.sub u2 u1
      let r := curve.sub s2 s1
      let hh := curve.mul h h
      let hhh := curve.mul h hh
      let v := curve.mul u1 hh
      let x := curve.sub (curve.sub (curve.mul r r) hhh) (2 * v)
      let y := curve.sub (curve.mul r (curve.sub v x)) (curve.mul s1 hhh)
      ⟨x, y, curve.mul (curve.mul first.z second.z) h⟩

/-- The multiple of a point by a number. -/
def multiple (curve : Curve) (point : Point) (n : Nat) : Point :=
  if n = 0 then neutral
  else
    let twice := curve.double (curve.multiple point (n / 2))
    if n % 2 = 1 then curve.add twice point else twice
termination_by n

/-- Whether a point other than the neutral one has these affine coordinates. -/
def hasCoordinates (curve : Curve) (point : Point) (x y : Nat) : Bool :=
  let zz := curve.mul point.z point.z
  point.z != 0 && x < curve.modulus && y < curve.modulus &&
    curve.mul x zz == point.x && curve.mul y (curve.mul zz point.z) == point.y

/-- Whether the bytes are the uncompressed form of the base point's multiple by a scalar. -/
def isPublicKeyOf (curve : Curve) (scalar : Nat) : Bytes → Bool
  | 0x04 :: coordinates =>
    coordinates.length == 2 * curve.width &&
      curve.hasCoordinates (curve.multiple curve.base scalar)
        (Der.bigNat (coordinates.take curve.width)) (Der.bigNat (coordinates.drop curve.width))
  | _ => false

end Curve

end MeshProxy.Pki
