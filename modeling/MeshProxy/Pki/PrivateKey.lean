import MeshProxy.Pki.Curve
import MeshProxy.Pki.Edwards
import MeshProxy.Pki.Pem

/-!
# Private keys

A private key comes as an RSA key or as an elliptic-curve key, alone or wrapped together with the name of its
algorithm; a key of the Edwards curve comes only wrapped. A key can be used only if its parts agree with each
other. What the rest of the program needs of it is the public half, in the form in which a certificate holds
it.
-/

namespace MeshProxy.Pki

/-- The public half of a key pair. -/
inductive PublicKey where
  | rsa (modulus exponent : Bytes)
  | ec (curve : Curve) (point : Bytes)
  | ed25519 (point : Bytes)
deriving DecidableEq, Repr

namespace PublicKey

/-- The content of the algorithm identifier of RSA keys. -/
def rsaAlgorithm : Bytes :=
  [0x06, 0x09, 0x2A, 0x86, 0x48, 0x86, 0xF7, 0x0D, 0x01, 0x01, 0x01, 0x05, 0x00]

/-- The content of the algorithm identifier of keys on the Edwards curve. -/
def edwardsAlgorithm : Bytes := [0x06, 0x03, 0x2B, 0x65, 0x70]

/-- The content of the algorithm identifier of a key. -/
def algorithm : PublicKey → Bytes
  | .rsa _ _ => rsaAlgorithm
  | .ec curve _ => curve.algorithm
  | .ed25519 _ => edwardsAlgorithm

/-- The bytes of a key. -/
def bytes : PublicKey → Bytes
  | .rsa modulus exponent =>
    Der.encode Der.Tag.sequence
      (Der.encode Der.Tag.integer modulus ++ Der.encode Der.Tag.integer exponent)
  | .ec _ point => point
  | .ed25519 point => point

/-- The public-key information of a certificate for this key: the algorithm and the key's bits. -/
def info (key : PublicKey) : Bytes :=
  Der.encode Der.Tag.sequence key.algorithm ++ Der.encode Der.Tag.bitString (0 :: key.bytes)

end PublicKey

/-- The numbers of an RSA key. -/
structure RsaNumbers where
  modulus : Nat
  exponent : Nat
  secret : Nat
  firstPrime : Nat
  secondPrime : Nat
  firstSecret : Nat
  secondSecret : Nat
  inverse : Nat
deriving DecidableEq, Repr

namespace RsaNumbers

/-- The number of bits of a number. -/
def bits (n : Nat) : Nat := if n = 0 then 0 else n.log2 + 1

/-- Whether the public numbers have allowed sizes: an odd modulus of 2048 to 4096 bits, rounded up to whole
bytes, and an odd exponent between 65537 and 33 bits. -/
def isPublicAllowed (k : RsaNumbers) : Bool :=
  let rounded := (bits k.modulus + 7) / 8 * 8
  2048 ≤ rounded && bits k.modulus ≤ 4096 && k.modulus % 2 == 1 &&
    k.exponent % 2 == 1 && 65537 ≤ k.exponent && bits k.exponent ≤ 33

/-- Whether the numbers belong together and have allowed sizes. Both primes have half the length of the modulus,
which must be a multiple of 512 bits, and their product is a multiple of the modulus; the secret exponents are
odd and below their moduli, the first of them longer than half; the inverse is that of the second prime modulo
the first. -/
def agree (k : RsaNumbers) : Bool :=
  let half := (bits k.modulus + 1) / 2
  k.isPublicAllowed &&
    half % 512 == 0 && bits k.firstPrime == half && bits k.secondPrime == half &&
    k.firstPrime % 2 == 1 && k.secondPrime % 2 == 1 &&
    k.firstPrime * k.secondPrime % k.modulus == 0 &&
    k.secret % 2 == 1 && half < bits k.secret && k.secret < k.modulus &&
    k.firstSecret % 2 == 1 && k.firstSecret < k.firstPrime &&
    k.secondSecret % 2 == 1 && k.secondSecret < k.secondPrime &&
    k.inverse < k.firstPrime && k.inverse * k.secondPrime % k.firstPrime == 1

end RsaNumbers

namespace PrivateKey

/-- The public half of an RSA key. -/
def rsa? (der : Bytes) : Option PublicKey := do
  let content ← Der.only? Der.Tag.sequence der
  let (version, rest) ← Der.takeNatural? content
  let (modulusBytes, afterModulus) ← Der.take? Der.Tag.integer rest
  let (exponentBytes, _) ← Der.take? Der.Tag.integer afterModulus
  let (modulus, rest) ← Der.takeNatural? rest
  let (exponent, rest) ← Der.takeNatural? rest
  let (secret, rest) ← Der.takeNatural? rest
  let (firstPrime, rest) ← Der.takeNatural? rest
  let (secondPrime, rest) ← Der.takeNatural? rest
  let (firstSecret, rest) ← Der.takeNatural? rest
  let (secondSecret, rest) ← Der.takeNatural? rest
  let (inverse, rest) ← Der.takeNatural? rest
  let numbers : RsaNumbers :=
    ⟨modulus, exponent, secret, firstPrime, secondPrime, firstSecret, secondSecret, inverse⟩
  if version = 0 ∧ rest.isEmpty ∧ numbers.agree then some (.rsa modulusBytes exponentBytes) else none

/-- What follows an optional element, which is taken off the front if it is there. -/
def skip? (tag : Der.Tag) (bytes : Bytes) : Option Bytes :=
  if Der.startsWith tag bytes then (Der.take? tag bytes).map (·.2) else some bytes

/-- What follows the name of the curve, which may be missing but must not be another curve's. -/
def skipCurve? (curve : Curve) (bytes : Bytes) : Option Bytes :=
  if Der.startsWith (Der.Tag.context 0) bytes then do
    let (name, rest) ← Der.take? (Der.Tag.context 0) bytes
    if name = curve.objectId then some rest else none
  else some bytes

/-- The public half of an elliptic-curve key, which must hold it. -/
def ec? (curve : Curve) (der : Bytes) : Option PublicKey := do
  let content ← Der.only? Der.Tag.sequence der
  let (version, rest) ← Der.takeNatural? content
  let (secret, rest) ← Der.take? Der.Tag.octetString rest
  let rest ← skipCurve? curve rest
  let bits ← Der.only? (Der.Tag.context 1) rest
  let point ← Der.wholeBits? (← Der.only? Der.Tag.bitString bits)
  let scalar := Der.bigNat secret
  if version = 1 ∧ secret.length = curve.width ∧ 0 < scalar ∧ scalar < curve.order ∧
      curve.isPublicKeyOf scalar point then
    some (.ec curve point)
  else none

/-- A key taken out of its wrapping. -/
structure Unwrapped where
  secret : Bytes
  /-- The public half, which a wrapping of the second version holds. -/
  publicKey? : Option Bytes
deriving DecidableEq, Repr

/-- The public half at the front, as bits with a tag of their own or, as some write it, as bits within such an
element; nothing may follow it. -/
def publicHalf? (bytes : Bytes) : Option Bytes :=
  if Der.startsWith (Der.Tag.context 1) bytes then do
    Der.wholeBits? (← Der.only? Der.Tag.bitString (← Der.only? (Der.Tag.context 1) bytes))
  else do Der.wholeBits? (← Der.only? (Der.Tag.contextPrimitive 1) bytes)

/-- The key inside a wrapping that names this algorithm. -/
def unwrap? (algorithm der : Bytes) : Option Unwrapped := do
  let content ← Der.only? Der.Tag.sequence der
  let (version, rest) ← Der.takeNatural? content
  let (name, rest) ← Der.take? Der.Tag.sequence rest
  let (secret, rest) ← Der.take? Der.Tag.octetString rest
  let rest ← skip? (Der.Tag.context 0) rest
  if name ≠ algorithm then none
  else if version = 0 then
    if rest.isEmpty then some ⟨secret, none⟩ else none
  else if version = 1 then (publicHalf? rest).map fun point => ⟨secret, some point⟩
  else none

/-- The key inside a wrapping of the first version. -/
def unwrapFirst? (algorithm der : Bytes) : Option Bytes :=
  (unwrap? algorithm der).bind fun key => if key.publicKey?.isNone then some key.secret else none

/-- The public half of a wrapped key of the Edwards curve; if the wrapping holds one it must be the same. -/
def edwards? (der : Bytes) : Option PublicKey := do
  let key ← unwrap? PublicKey.edwardsAlgorithm der
  let secret ← Der.only? Der.Tag.octetString key.secret
  if secret.length ≠ 32 then none
  else
    let point := Edwards.publicKeyOf secret
    if key.publicKey?.all (· == point) then some (.ed25519 point) else none

/-- The curves that a key may belong to. -/
def curves : List Curve := [.p256, .p384]

/-- The public half of a wrapped key. -/
def wrapped? (der : Bytes) : Option PublicKey :=
  ((unwrapFirst? PublicKey.rsaAlgorithm der).bind rsa?).or <|
    (curves.findSome? fun curve => (unwrapFirst? curve.algorithm der).bind (ec? curve)).or <|
      edwards? der

/-- The public half of the private key in a section, if the key can be used. -/
def publicKey? (s : Section) : Option PublicKey :=
  match s.kind with
  | .rsaPrivateKey => rsa? s.content
  | .ecPrivateKey => curves.findSome? fun curve => ec? curve s.content
  | .privateKey => wrapped? s.content
  | _ => none

end PrivateKey

end MeshProxy.Pki
