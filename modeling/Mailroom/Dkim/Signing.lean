import Mailroom.Dkim.CanonicalBody
import Mailroom.Dkim.Selection
import Mailroom.Dkim.Signature
import Mailroom.Encoding.Base64
import Mailroom.Journal

/-! # Signing a message

A `Signer` takes the header once and the body in chunks, in any order; `Signer.finish` gives the
value of the signature field.  What is signed is the digest of the canonical forms of the
selected fields, followed by the signature field itself with an empty signature and without
its line end (RFC 6376, section 3.7). -/

namespace Mailroom.Dkim

/-- A signature on its way. -/
structure Signer where
  parameters : Parameters
  key : SigningKey
  header? : Option Header := none
  body : BodyHash parameters.hash

namespace Signer

/-- Checks the parameters and prepares a signature. -/
def new (parameters : Parameters) (key : SigningKey) : Except Failure Signer :=
  match parameters.validate key with
  | .ok () => .ok ⟨parameters, key, none, BodyHash.start parameters.bodyMode⟩
  | .error failure => .error failure

/-- Takes the header; a later one replaces it. -/
def writeHeader (s : Signer) (header : Header) : Signer := { s with header? := some header }

/-- Takes a chunk of the body. -/
def write (s : Signer) (chunk : Bytes) : Signer := { s with body := s.body.update chunk }

/-- Takes a chunk of the body from a stream; the answer is how many of its octets were taken. -/
def accept (chunk : Bytes) : Act Signer Nat := fun s => ⟨chunk.length, s.write chunk, []⟩

end Signer

/-- The octets that a signature covers: the canonical forms of the selected fields, then that of
the signature field without its line end. -/
def signedOctets (parameters : Parameters) (header : Header) (value : String) : Bytes :=
  parameters.headerMode.fields (pickFields header parameters.headerKeys) ++
    parameters.headerMode.fieldText (Field.new signatureField value)

/-- The digest that a signature covers. -/
def headerDigest (parameters : Parameters) (header : Header) (value : String) : Bytes :=
  parameters.hash.digest (signedOctets parameters header value)

namespace Signer

/-- Completes the signature; the value of the signature field. -/
def finish (s : Signer) : Except Failure String :=
  match s.header? with
  | none => .error (.stream "message header was not written to the signer")
  | some header =>
    let unsigned := signatureText s.parameters s.key.typeName (base64 s.body.finish)
    match s.key.sign (headerDigest s.parameters header unsigned) with
    | .ok signature => .ok (unsigned ++ base64 signature)
    | .error failure => .error failure

end Signer

/-- Signs a whole message at once. -/
def sign (parameters : Parameters) (key : SigningKey) (header : Header) (body : Bytes) :
    Except Failure String :=
  match Signer.new parameters key with
  | .ok signer => ((signer.writeHeader header).write body).finish
  | .error failure => .error failure

end Mailroom.Dkim
