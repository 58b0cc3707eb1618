import Mailroom.Account
import Mailroom.Store.Interface
import Mailroom.Delivery.TraceField
import Mailroom.Message

/-! # Delivery transactions

A `Transaction` delivers one message to any number of recipients of a store.  Recipients are
resolved to accounts, each account once; the body is deposited once for all of them; then the
transaction is committed or aborted, and nothing may follow.  Each operation says in which
states it may be called and refuses a call in any other one. -/

namespace Mailroom

/-- The special use of the mailbox for quarantined messages. -/
def junkUse : String := "\\Junk"

/-- What all transactions of one target share. -/
structure DeliveryRules where
  /-- Whether accounts are kept apart by domain. -/
  perDomain : Bool := false
  /-- The mailbox that is made for quarantined messages if an account has none. -/
  junkMailbox : String := "Junk"
  /-- Whether every successful step is reported. -/
  debug : Bool := false
deriving DecidableEq, Repr

/-- The life of a transaction. -/
inductive TransactionState where
  | created
  | bodyDeposited
  | committed
  | aborted
deriving DecidableEq, Repr

namespace TransactionState

/-- Every state, in the order of a life. -/
def all : List TransactionState := [created, bodyDeposited, committed, aborted]

/-- Whether nothing may follow. -/
def isFinal : TransactionState → Bool
  | committed | aborted => true
  | created | bodyDeposited => false

/-- The name of a state in messages. -/
def name : TransactionState → String
  | created => "created"
  | bodyDeposited => "body deposited"
  | committed => "committed"
  | aborted => "aborted"

end TransactionState

/-- The delivery of one message; `δ` is the open delivery of the store. -/
structure Transaction (δ : Type) where
  rules : DeliveryRules
  envelope : Envelope
  /-- The envelope sender that the message is stored with. -/
  sender : String
  delivery : δ
  /-- The accounts added so far, the last one first. -/
  added : List String := []
  state : TransactionState := .created

/-- An operation on a transaction over a store with state `σ`. -/
abbrev TransactionAct (σ δ : Type) : Type := Act (σ × Transaction δ) (Except Failure Unit)

namespace Transaction

variable {σ δ : Type}

/-- Opens a transaction. -/
def start (b : Backend σ δ) (rules : DeliveryRules) (envelope : Envelope) (sender : String) :
    Act σ (Except Failure (Transaction δ)) :=
  b.start.bind fun
    | .ok delivery => Act.pure (.ok ⟨rules, envelope, sender, delivery, [], .created⟩)
    | .error fault => Act.pure (.error (.backend fault))

/-- The accounts added so far, in order of their names. -/
def accounts (tx : Transaction δ) : List String := tx.added.mergeSort fun a b => a ≤ b

/-- The refusal of an operation in the present state. -/
def refusal (tx : Transaction δ) (operation : String) : Failure :=
  .precondition (operation ++ " called on a " ++ tx.state.name ++ " transaction")

/-- An operation that may be called in some states only. -/
def whenIn (allowed : List TransactionState) (operation : String) (act : TransactionAct σ δ) :
    TransactionAct σ δ := fun (s, tx) =>
  if allowed.contains tx.state then act (s, tx)
  else ⟨.error (tx.refusal operation), (s, tx), []⟩

/-- An operation on the delivery of the store. -/
def onDelivery {α : Type} (act : Act (σ × δ) α) : Act (σ × Transaction δ) α :=
  Act.onPart (fun p => (p.1, p.2.delivery))
    (fun part p => (part.1, { p.2 with delivery := part.2 })) act

/-- Changes what the transaction itself remembers. -/
def update (change : Transaction δ → Transaction δ) : Act (σ × Transaction δ) Unit :=
  Act.modify fun (s, tx) => (s, change tx)

/-- Reports a successful step, if the rules ask for it. -/
def trace (tx : Transaction δ) (message : String) (values : List (String × String)) :
    Act (σ × Transaction δ) Unit :=
  Act.reportIf tx.rules.debug .debug message (("msg_id", tx.envelope.id) :: values)

/-- The number of accounts in a report. -/
def rcptCount (tx : Transaction δ) : String × String :=
  ("rcpts", String.ofList (natDigits tx.added.length))

/-- The failure of a recipient that the store refuses: an account that cannot take mail is an
unknown user, all else is a fault of the store. -/
def rejection : StoreFault → Failure
  | .userDoesntExist | .noSuchMailbox => .recipient .unknownUser
  | fault => .backend fault

/-- Adds an account, given the address that led to it. -/
def addAccount (b : Backend σ δ) (rcpt : String) (account : Account) (tx : Transaction δ) :
    TransactionAct σ δ :=
  (onDelivery (b.addRcpt account.name ⟨[deliveredTo rcpt]⟩)).bind fun
    | .error fault =>
      (Act.report .error "Backend rejected recipient"
        [("msg_id", tx.envelope.id), ("account", account.name), ("error", fault.message)]).bind
          fun _ => Act.pure (.error (rejection fault))
    | .ok () =>
      (tx.trace "Added recipient" [("account", account.name)]).bind fun _ =>
        (update fun tx => { tx with added := account.name :: tx.added }).bind fun _ =>
          Act.pure (.ok ())

/-- Adds a recipient.  A recipient whose account was added before changes nothing. -/
def addRcpt (b : Backend σ δ) (rcpt : String) : TransactionAct σ δ :=
  whenIn [.created] "add_rcpt" fun (s, tx) =>
    match Account.ofAddress rcpt tx.rules.perDomain with
    | .error fault =>
      ⟨.error fault.failure, (s, tx), [⟨.error, "Failed to resolve recipient account",
        [("msg_id", tx.envelope.id), ("rcpt", rcpt), ("error", fault.failure.display)]⟩]⟩
    | .ok account =>
      if tx.added.contains account.name then ⟨.ok (), (s, tx), []⟩
      else addAccount b rcpt account tx (s, tx)

/-- Sends the message to the junk mailbox if it is quarantined. -/
def quarantine (b : Backend σ δ) (tx : Transaction δ) : TransactionAct σ δ :=
  if tx.envelope.quarantine then
    (onDelivery (b.specialMailbox junkUse tx.rules.junkMailbox)).mapError Failure.backend
  else Act.pure (.ok ())

/-- Deposits header and body with the envelope sender on top. -/
def depositBody (b : Backend σ δ) (header : Header) (body : Body) (tx : Transaction δ) :
    TransactionAct σ δ :=
  (onDelivery (b.body (header.addField (returnPath tx.sender)) body.length body)).bind fun
    | .error fault =>
      (Act.report .error "Failed to deposit message body"
        [("msg_id", tx.envelope.id), ("error", fault.message)]).bind fun _ =>
          Act.pure (.error (.backend fault))
    | .ok () =>
      (update fun tx => { tx with state := .bodyDeposited }).bind fun _ =>
        (tx.trace "Deposited message body" [
          ("length", String.ofList (natDigits body.length)), tx.rcptCount,
          ("quarantine", if tx.envelope.quarantine then "true" else "false")]).bind fun _ =>
            Act.pure (.ok ())

/-- Deposits the message for all recipients added so far. -/
def body (b : Backend σ δ) (header : Header) (body : Body) : TransactionAct σ δ :=
  whenIn [.created] "body" fun (s, tx) =>
    (quarantine b tx).andThen (fun _ => depositBody b header body tx) (s, tx)

/-- Makes the delivery permanent. -/
def commit (b : Backend σ δ) : TransactionAct σ δ :=
  whenIn [.created, .bodyDeposited] "commit" fun (s, tx) =>
    ((onDelivery b.commit).mapError Failure.backend).andThen (fun _ =>
      (update fun tx => { tx with state := .committed }).bind fun _ =>
        (tx.trace "Committed delivery" [tx.rcptCount]).bind fun _ => Act.pure (.ok ())) (s, tx)

/-- Discards the delivery.  The transaction is over even if the store fails. -/
def abort (b : Backend σ δ) : TransactionAct σ δ :=
  whenIn [.created, .bodyDeposited] "abort" fun (s, tx) =>
    ((update fun tx => { tx with state := .aborted }).bind fun _ =>
      ((onDelivery b.abort).mapError Failure.backend).andThen fun _ =>
        (tx.trace "Aborted delivery" []).bind fun _ => Act.pure (.ok ())) (s, tx)

end Transaction

end Mailroom
