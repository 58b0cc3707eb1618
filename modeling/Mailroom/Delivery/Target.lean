import Mailroom.Body
import Mailroom.Failure
import Mailroom.Header.Basic
import Mailroom.Journal
import Mailroom.Message

/-! # Delivery targets

A `Target σ δ` takes messages: `σ` is its state and `δ` that of one delivery.  `deliver` drives a
target through a whole delivery and aborts it when a step fails; the failure of that step is
the answer, whatever the abort says. -/

namespace Mailroom

/-- Something that takes messages. -/
structure Target (σ δ : Type) where
  /-- The name of the module. -/
  name : String
  /-- The name of this instance. -/
  instanceName : String
  /-- Opens the delivery of a message from an envelope sender. -/
  start : (envelope : Envelope) → (sender : String) → Act σ (Except Failure δ)
  /-- Adds a recipient. -/
  addRcpt : (rcpt : String) → Act (σ × δ) (Except Failure Unit)
  /-- Takes the message for all recipients. -/
  body : (header : Header) → (body : Body) → Act (σ × δ) (Except Failure Unit)
  /-- Discards the delivery. -/
  abort : Act (σ × δ) (Except Failure Unit)
  /-- Makes the delivery permanent. -/
  commit : Act (σ × δ) (Except Failure Unit)

namespace Target

variable {σ δ : Type}

/-- Adds recipients in order, up to the first failure. -/
def addRcpts (t : Target σ δ) : List String → Act (σ × δ) (Except Failure Unit)
  | [] => Act.pure (.ok ())
  | rcpt :: rcpts => (t.addRcpt rcpt).andThen fun _ => addRcpts t rcpts

/-- The steps of a delivery that was opened, up to the first failure. -/
def complete (t : Target σ δ) (rcpts : List String) (header : Header) (body : Body) :
    Act (σ × δ) (Except Failure Unit) :=
  (t.addRcpts rcpts).andThen fun _ => (t.body header body).andThen fun _ => t.commit

/-- Aborts a delivery and keeps the failure that made it fail. -/
def abortWith (t : Target σ δ) (envelope : Envelope) (failure : Failure) :
    Act (σ × δ) (Except Failure Unit) :=
  t.abort.bind fun
    | .ok () => Act.pure (.error failure)
    | .error second =>
      (Act.report .warn "Failed to abort delivery"
        [("msg_id", envelope.id), ("error", second.display)]).bind fun _ =>
          Act.pure (.error failure)

/-- A delivery that was opened: complete, or aborted. -/
def finish (t : Target σ δ) (envelope : Envelope) (rcpts : List String) (header : Header)
    (body : Body) : Act (σ × δ) (Except Failure Unit) :=
  (t.complete rcpts header body).bind fun
    | .ok () => Act.pure (.ok ())
    | .error failure => t.abortWith envelope failure

/-- Delivers a message to all recipients or to none. -/
def deliver (t : Target σ δ) (envelope : Envelope) (sender : String) (rcpts : List String)
    (header : Header) (body : Body) : Act σ (Except Failure Unit) :=
  (Act.report .debug "Delivering message" [("target", t.instanceName), ("msg_id", envelope.id),
    ("rcpts", String.ofList (natDigits rcpts.length))]).bind fun _ =>
      (t.start envelope sender).andThen fun delivery =>
        Act.within delivery (t.finish envelope rcpts header body)

end Target

end Mailroom
