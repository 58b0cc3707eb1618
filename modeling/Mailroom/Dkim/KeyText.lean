import Mailroom.Dkim.SigningKey
import Mailroom.Keys.Pem
import Mailroom.Keys.PrivateKey

/-! # Signing keys as text

`SigningKey.ofPem` reads a key in any of the known forms; `SigningKey.toPem` writes the form that
names the algorithm.  `SigningKey.dnsRecord` is the record to publish, so that receivers find the
public key.  A key whose numbers do not fit the form has no text or no record. -/

namespace Mailroom.Dkim.SigningKey

/-- The label of keys that name their algorithm. -/
def label : String := "PRIVATE KEY"

/-- The label of RSA keys in the form of their own. -/
def rsaLabel : String := "RSA PRIVATE KEY"

/-- The key in a text, if there is one. -/
def ofPem? (text : String) : Option SigningKey :=
  match (Pem.read? label text).bind Keys.readWrapped? with
  | some wrapped =>
    (wrapped.rsa?.map rsa) <|> (wrapped.ed25519?.map ed25519)
  | none => ((Pem.read? rsaLabel text).bind Keys.readRsa?).map rsa

/-- What a log shows for a text without a key.  A log goes on with a colon and with what the last
reader says of the text in its own words, which are no part of this library. -/
def unrecognized : String := "unrecognized private key"

/-- The key in a text. -/
def ofPem (text : String) : Except Failure SigningKey :=
  match ofPem? text with
  | some key => .ok key
  | none => .error (.key unrecognized)

/-- The key as text. -/
def toPem : SigningKey → Except Failure String
  | rsa key =>
    match Keys.wrapRsa? key with
    | some content => .ok (Pem.write label content)
    | none => .error (.key
        "failed to encode private key: PKCS#8 cryptographic key data malformed")
  | ed25519 seed => .ok (Pem.write label (Keys.wrapEd25519 seed))

/-- The public key as it is published, if it can be written. -/
def publicOctets? : SigningKey → Option Bytes
  | rsa key => Keys.publishRsa? key
  | ed25519 seed => some (Ed25519.publicKey seed)

/-- The public key in base64, tag `p=` of the record. -/
def publicText (key : SigningKey) : Except Failure String :=
  match key.publicOctets? with
  | some octets => .ok (base64 octets)
  | none => .error (.key "failed to encode public key: ASN.1 error: integer overflow")

/-- The record to publish for a key. -/
def dnsRecord (key : SigningKey) : Except Failure String :=
  key.publicText.map fun text => "v=DKIM1; k=" ++ key.typeName ++ "; p=" ++ text

end Mailroom.Dkim.SigningKey
