import MeshProxy.Net.Address
import MeshProxy.Text.Quoted

/-!
# Server names

The name a client expects in a server's certificate is a DNS name or an IP address. A certificate lists the
names it is valid for; a listed DNS name may have a wildcard as its first label, which stands for exactly
one label. DNS names compare without regard to case and to one trailing dot.
-/

namespace MeshProxy.Tls

/-- The name a certificate must be valid for. -/
inductive ServerName where
  | dns (name : String)
  | ip (address : Ip)
deriving DecidableEq, Repr

/-- A name that a certificate lists. -/
inductive SubjectName where
  | dns (name : String)
  | ip (address : Ip)
deriving DecidableEq, Repr

namespace ServerName

/-- A character of a DNS label. -/
def isLabelChar (c : Char) : Bool := c.isAlphanum || c == '-' || c == '_'

/-- A DNS label: one to sixty-three characters, with no hyphen at either end. -/
def isLabel (label : List Char) : Bool :=
  !label.isEmpty && label.length ≤ 63 && label.all isLabelChar &&
    label.head? != some '-' && label.getLast? != some '-'

/-- The labels of a name, without the empty one after a trailing dot. -/
def labels (cs : List Char) : List (List Char) :=
  let all := Text.fields '.' cs
  if all.getLast? = some [] then all.dropLast else all

/-- A DNS name: at most 253 bytes, labels between dots, perhaps a trailing dot, and a last label that is
not a number. -/
def isDnsName (cs : List Char) : Bool :=
  cs.length ≤ 253 && !(labels cs).isEmpty && (labels cs).all isLabel &&
    !((labels cs).getLast?.getD []).all Char.isDigit

/-- The server name that a text spells: a DNS name if it can be one, otherwise an IP address. -/
def ofText? (text : String) : Option ServerName :=
  if isDnsName text.toList then some (.dns text)
  else (Ip.ofChars? text.toList).map .ip

def toText : ServerName → String
  | .dns name => name
  | .ip address => address.toText

/-- The labels of a name in lower case. -/
def foldedLabels (name : String) : List (List Char) :=
  (labels name.toList).map (·.map Char.toLower)

/-- Whether a listed DNS name covers an expected one. -/
def covers (listed expected : String) : Bool :=
  match foldedLabels listed, foldedLabels expected with
  | ['*'] :: domain, _ :: rest => domain == rest
  | listed, expected => listed == expected

end ServerName

namespace SubjectName

/-- Whether a certificate that lists this name is valid for the expected one. -/
def isFor : SubjectName → ServerName → Bool
  | .dns listed, .dns expected => ServerName.covers listed expected
  | .ip listed, .ip expected => listed == expected
  | _, _ => false

def toText : SubjectName → String
  | .dns name => "DnsName(" ++ Text.quote name ++ ")"
  | .ip address => "IpAddress(" ++ address.toText ++ ")"

end SubjectName

/-- The names of a list in a sentence: separated by commas, the last one after `or`. -/
def enumerate : List SubjectName → String
  | [] => ""
  | [name] => name.toText
  | [name, last] => name.toText ++ " or " ++ last.toText
  | name :: more => name.toText ++ ", " ++ enumerate more

end MeshProxy.Tls
