import MeshProxy.Text.Utf8

/-!
# The certificate bundle

The PEM texts that a sidecar proves who it is with and recognises others by.
-/

namespace MeshProxy.Identity

structure Bundle where
  /-- The authorities that are trusted. -/
  ca : Bytes
  /-- The sidecar's own certificate. -/
  cert : Bytes
  /-- The private key of that certificate. -/
  key : Bytes
deriving DecidableEq, Repr

/-- A summary that shows nothing of the key. -/
def Bundle.summary (bundle : Bundle) : String :=
  "Certificates \x7b ca_len: " ++ toString bundle.ca.length ++ ", cert_len: " ++
    toString bundle.cert.length ++ ", key: \"<redacted>\" \x7d"

end MeshProxy.Identity
