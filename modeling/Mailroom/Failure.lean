import Mailroom.Host.IoFault

/-! # Failures

Every failure of the pipeline has a `Failure.Kind`, so that a caller decides by the kind and
never by the text.  A refused recipient also carries the reply that the submitting client gets;
a failure that was caused below carries its cause (`Failure.Cause`). -/

namespace Mailroom

/-- The reply to a submitting client: a basic code, an enhanced status code and a text. -/
structure Reply where
  code : Nat
  enhanced : Nat × Nat × Nat
  text : String
deriving DecidableEq, Repr

namespace Reply

/-- The recipient address is not well-formed. -/
def invalidRecipient (detail : String) : Reply :=
  ⟨501, (5, 1, 3), "Invalid recipient address: " ++ detail⟩

/-- The recipient has no account. -/
def unknownUser : Reply := ⟨550, (5, 1, 1), "User doesn't exist"⟩

/-- The reply as one line. -/
def line (r : Reply) : String :=
  let number (n : Nat) := String.ofList (natDigits n)
  number r.code ++ " " ++ number r.enhanced.1 ++ "." ++ number r.enhanced.2.1 ++ "." ++
    number r.enhanced.2.2 ++ " " ++ r.text

end Reply

/-- Why a mail store could not do what it was asked. -/
inductive StoreFault where
  /-- The account does not exist. -/
  | userDoesntExist
  /-- The mailbox that the message should go to does not exist. -/
  | noSuchMailbox
  /-- A file operation failed. -/
  | io (fault : IoFault)
  /-- Any other reason. -/
  | other (reason : String)
deriving DecidableEq, Repr

/-- What a log shows for a fault of a mail store. -/
def StoreFault.message : StoreFault → String
  | .userDoesntExist => "User doesn't exist"
  | .noSuchMailbox => "No such mailbox"
  | .io fault => "I/O error: " ++ fault.message
  | .other reason => "Storage error: " ++ reason

/-- What lies below a failure. -/
inductive Cause where
  | io (fault : IoFault)
  | store (fault : StoreFault)
deriving DecidableEq, Repr

/-- The kinds of failure. -/
inductive Failure.Kind where
  /-- A module is configured wrongly. -/
  | configuration
  /-- A signing key could not be read, generated or written. -/
  | key
  /-- The parameters of a signature do not fit together. -/
  | signingOption
  /-- Reading or writing message data failed. -/
  | stream
  /-- A recipient was refused. -/
  | recipient
  /-- The mail store failed. -/
  | backend
  /-- An operation was called in the wrong state. -/
  | precondition
deriving DecidableEq, Repr

/-- The name of a kind in a log. -/
def Failure.Kind.name : Failure.Kind → String
  | .configuration => "configuration error"
  | .key => "key error"
  | .signingOption => "signing option error"
  | .stream => "stream error"
  | .recipient => "recipient error"
  | .backend => "backend error"
  | .precondition => "precondition violation"

/-- A failure of a modifier, of a delivery target or of their configuration. -/
structure Failure where
  kind : Failure.Kind
  message : String
  reply? : Option Reply := none
  cause? : Option Cause := none
deriving DecidableEq, Repr

namespace Failure

/-- A wrong configuration. -/
def configuration (message : String) : Failure := ⟨.configuration, message, none, none⟩

/-- A signing key that cannot be used. -/
def key (message : String) : Failure := ⟨.key, message, none, none⟩

/-- Signing parameters that do not fit together. -/
def signingOption (message : String) : Failure := ⟨.signingOption, message, none, none⟩

/-- Message data that cannot be used. -/
def stream (message : String) : Failure := ⟨.stream, message, none, none⟩

/-- An operation called in the wrong state. -/
def precondition (message : String) : Failure := ⟨.precondition, message, none, none⟩

/-- A recipient refused with this reply. -/
def recipient (reply : Reply) : Failure := ⟨.recipient, reply.text, some reply, none⟩

/-- A failed mail store. -/
def backend (fault : StoreFault) : Failure :=
  ⟨.backend, fault.message, none, some (.store fault)⟩

/-- Failed input or output of message data. -/
def io (fault : IoFault) : Failure := ⟨.stream, fault.message, none, some (.io fault)⟩

/-- What a log shows for a failure: its kind, and the reply if there is one. -/
def display (f : Failure) : String :=
  f.kind.name ++ ": " ++ match f.reply? with
    | some reply => reply.line
    | none => f.message

end Failure

end Mailroom
