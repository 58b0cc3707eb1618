import Mailroom.Body
import Mailroom.Header.Parser

/-! # Messages

A `Message` is an envelope (`Envelope`: who sent it, under which identifier it is logged, whether
it goes to the junk mailbox) with a header section and a body. -/

namespace Mailroom

/-- What is known about a message besides its content. -/
structure Envelope where
  /-- The identifier of the message in logs. -/
  id : String
  /-- The sender as received, before any change. -/
  sender : String
  /-- Whether the message goes to the junk mailbox. -/
  quarantine : Bool := false
deriving DecidableEq, Repr

/-- The envelope of a message from `sender`; its identifier is made from an unused number. -/
def Envelope.new (entropy : Nat) (sender : String) : Envelope := ⟨uuidText entropy, sender, false⟩

/-- A received message. -/
structure Message where
  envelope : Envelope
  header : Header
  body : Bytes
deriving DecidableEq, Repr

namespace Message

/-- Reads a raw message. -/
def ofRaw (entropy : Nat) (sender : String) (raw : Bytes) : Message :=
  let (header, body) := Header.parse raw
  ⟨Envelope.new entropy sender, header, body⟩

/-- The message on the wire. -/
def toBytes (m : Message) : Bytes := m.header.toBytes ++ m.body

end Message

end Mailroom
