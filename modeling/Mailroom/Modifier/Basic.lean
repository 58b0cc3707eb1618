import Mailroom.Body
import Mailroom.Failure
import Mailroom.Header.Basic
import Mailroom.Journal
import Mailroom.Message

/-! # Modifiers

A `Modifier σ` changes messages on their way; `σ` is the state that its operations see.  For each
message it opens an `Editor`, which may change the envelope addresses, then the header once the
whole message is there, and is closed at the end.

`runModifiers` runs a list of modifiers over a message, up to the first failure.  Every editor
that was opened is closed, also after it failed. -/

namespace Mailroom

/-- What a modifier does to one message. -/
structure Editor (σ : Type) where
  /-- The envelope sender that takes the place of the given one. -/
  editSender : (sender : String) → Act σ (Except Failure String)
  /-- The envelope recipient that takes the place of the given one. -/
  editRcpt : (rcpt : String) → Act σ (Except Failure String)
  /-- Looks at the body and changes the header. -/
  editHeader : (body : Body) → Act (σ × Header) (Except Failure Unit)
  /-- Releases what is held for the message. -/
  close : Act σ (Except Failure Unit)

/-- Something that changes messages. -/
structure Modifier (σ : Type) where
  /-- The name of the module. -/
  name : String
  /-- The name of this instance. -/
  instanceName : String
  /-- Begins with a message. -/
  start : (envelope : Envelope) → Act σ (Except Failure (Editor σ))

namespace Modifier

variable {σ τ : Type}

/-- The result of an editor: a failed edit counts more than a failed close. -/
def combine (edited closed : Except Failure Unit) : Except Failure Unit :=
  match edited with
  | .error failure => .error failure
  | .ok () => closed

/-- Lets an editor change the header, and closes it. -/
def edit (editor : Editor σ) (body : Body) : Act (σ × Header) (Except Failure Unit) :=
  (editor.editHeader body).bind fun edited =>
    editor.close.onFirst.bind fun closed => Act.pure (combine edited closed)

/-- Runs one modifier over a message. -/
def run (m : Modifier σ) (envelope : Envelope) (body : Body) :
    Act (σ × Header) (Except Failure Unit) :=
  (Act.report .debug "Applying modifier" [("modifier", m.name), ("instance", m.instanceName),
    ("msg_id", envelope.id)]).bind fun _ =>
      (m.start envelope).onFirst.andThen fun editor => edit editor body

end Modifier

/-- Runs modifiers over a message in order, up to the first failure.  The header keeps what was
done to it before. -/
def runModifiers {σ : Type} (envelope : Envelope) (body : Body) :
    List (Modifier σ) → Act (σ × Header) (Except Failure Unit)
  | [] => Act.pure (.ok ())
  | m :: modifiers =>
    (m.run envelope body).andThen fun _ => runModifiers envelope body modifiers

end Mailroom
