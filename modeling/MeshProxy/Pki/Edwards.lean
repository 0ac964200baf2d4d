import MeshProxy.Pki.Sha512

/-!
# The Edwards curve of signing keys

The curve `-x² + y² = 1 + d x² y²` over the integers modulo `2²⁵⁵ - 19`. A secret of 32 bytes determines a
multiple of the base point, whose encoding is the public key. Points are kept in extended coordinates, in
which `(x, y, z, t)` stands for the affine point `(x / z, y / z)` and `t = x y / z`, so that adding does not
divide.
-/

namespace MeshProxy.Pki.Edwards

def modulus : Nat := 0x7FFFFFFFFFFFFFFFFFFFFFFFFFFFFFFFFFFFFFFFFFFFFFFFFFFFFFFFFFFFFFED

/-- Twice the constant `d` of the curve. -/
def twiceD : Nat := 0x2406D9DC56DFFCE7198E80F2EEF3D13000E0149A8283B156EBD69B9426B2F159

/-- A point in extended coordinates. -/
structure Point where
  x : Nat
  y : Nat
  z : Nat
  t : Nat
deriving DecidableEq, Repr

def mul (a b : Nat) : Nat := a * b % modulus

def sub (a b : Nat) : Nat := (a + (modulus - b % modulus)) % modulus

/-- The power of a number. -/
def power (a : Nat) (n : Nat) : Nat :=
  if n = 0 then 1
  else
    let half := power a (n / 2)
    if n % 2 = 1 then mul (mul half half) a else mul half half
termination_by n

/-- The inverse of a number that is not zero: its power with two less than the modulus. -/
def inverse (a : Nat) : Nat := power a (modulus - 2)

def neutral : Point := ⟨0, 1, 1, 0⟩

/-- The point that every public key is a multiple of. -/
def base : Point :=
  let x := 0x216936D3CD6E53FEC0A4E231FDD6DC5C692CC7609525A7B2C9562D608F25D51A
  let y := 0x6666666666666666666666666666666666666666666666666666666666666658
  ⟨x, y, 1, mul x y⟩

/-- The sum of two points, equal or not. -/
def add (first second : Point) : Point :=
  let a := mul (sub first.y first.x) (sub second.y second.x)
  let b := mul (first.y + first.x) (second.y + second.x)
  let c := mul (mul first.t twiceD) second.t
  let d := mul (2 * first.z) second.z
  let e := sub b a
  let f := sub d c
  let g := d + c
  let h := b + a
  ⟨mul e f, mul g h, mul f g, mul e h⟩

/-- The multiple of a point by a number. -/
def multiple (point : Point) (n : Nat) : Point :=
  if n = 0 then neutral
  else
    let half := multiple point (n / 2)
    let twice := add half half
    if n % 2 = 1 then add twice point else twice
termination_by n

/-- A number in so many bytes, low byte first. -/
def lowFirst : Nat → Nat → Bytes
  | 0, _ => []
  | width + 1, n => UInt8.ofNat n :: lowFirst width (n / 256)

/-- The encoding of a point: its second coordinate, with the parity of the first as the highest bit. -/
def encode (point : Point) : Bytes :=
  let scale := inverse point.z
  let x := mul point.x scale
  let y := mul point.y scale
  lowFirst 32 (if x % 2 = 1 then y + (modulus + 19) else y)

/-- The number that a secret stands for: half of its digest, low byte first, with the lowest three bits
cleared and the highest bits set to one multiple of `2²⁵⁴`. -/
def scalarOf (secret : Bytes) : Nat :=
  let half := ((Sha512.digest secret).take 32).reverse.foldl (fun n byte => 256 * n + byte.toNat) 0
  let top := (modulus + 19) / 2
  half % top / 8 * 8 + top

/-- The public key of a secret. -/
def publicKeyOf (secret : Bytes) : Bytes := encode (multiple base (scalarOf secret))

end MeshProxy.Pki.Edwards
