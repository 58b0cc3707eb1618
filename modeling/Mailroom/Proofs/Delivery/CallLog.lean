import Mailroom.Proofs.Delivery.Outcome

/-! # The calls that a store sees

A `TransactionCall` is what a client of a transaction may ask for, in any order.  `Backend.recorded`
is a store that writes down every call on an open delivery and whether it succeeded; apart from
that it does what the store below it does. -/

namespace Mailroom

variable {σ δ : Type}

/-! ### Recording -/

/-- An operation of a store on an open delivery. -/
inductive DeliveryOperation where
  | addRcpt (account : String)
  | specialMailbox
  | body
  | abort
  | commit
deriving DecidableEq, Repr

/-- A call of an operation, and whether it succeeded. -/
structure DeliveryCall where
  operation : DeliveryOperation
  ok : Bool
deriving DecidableEq, Repr

/-- Writes a call down. -/
def recordedAct (operation : DeliveryOperation) (act : DeliveryAct σ δ) :
    DeliveryAct (σ × List DeliveryCall) δ := fun ((s, log), delivery) =>
  let step := act (s, delivery)
  ⟨step.answer, ((step.state.1, log ++ [⟨operation, step.answer.isOk⟩]), step.state.2), step.events⟩

/-- The store that writes down every call on an open delivery. -/
def Backend.recorded (b : Backend σ δ) : Backend (σ × List DeliveryCall) δ where
  driver := b.driver
  start := b.start.onFirst
  addRcpt account fields := recordedAct (.addRcpt account) (b.addRcpt account fields)
  specialMailbox use name := recordedAct .specialMailbox (b.specialMailbox use name)
  body header length body := recordedAct .body (b.body header length body)
  abort := recordedAct .abort b.abort
  commit := recordedAct .commit b.commit
  getOrCreateUser name := (b.getOrCreateUser name).onFirst
  checkPlain name password := (b.checkPlain name password).onFirst

/-! ### Clients -/

/-- A call of a client on a transaction. -/
inductive TransactionCall where
  | addRcpt (rcpt : String)
  | body (header : Header) (body : Body)
  | abort
  | commit

namespace TransactionCall

/-- What a call does. -/
def act (b : Backend σ δ) : TransactionCall → TransactionAct σ δ
  | addRcpt rcpt => Transaction.addRcpt b rcpt
  | body header content => Transaction.body b header content
  | abort => Transaction.abort b
  | commit => Transaction.commit b

/-- The states in which a call is not refused. -/
def allowedIn : TransactionCall → List TransactionState
  | .addRcpt _ | .body _ _ => [.created]
  | .abort | .commit => [.created, .bodyDeposited]

/-- The store and the transaction after some calls. -/
def run (b : Backend σ δ) (calls : List TransactionCall) (p : σ × Transaction δ) :
    σ × Transaction δ :=
  calls.foldl (fun p call => (call.act b p).state) p

end TransactionCall

/-- A transaction that was just opened. -/
def Transaction.opened (rules : DeliveryRules) (envelope : Envelope) (sender : String)
    (delivery : δ) : Transaction δ :=
  ⟨rules, envelope, sender, delivery, [], .created⟩

/-! ### Refusals -/

/-- The name of the operation in a refusal. -/
def TransactionCall.name : TransactionCall → String
  | .addRcpt _ => "add_rcpt"
  | .body _ _ => "body"
  | .abort => "abort"
  | .commit => "commit"

/-- **A refused call changes nothing,** does not reach the store and reports nothing. -/
theorem TransactionCall.act_of_notAllowed (b : Backend σ δ) (s : σ) {tx : Transaction δ}
    {call : TransactionCall} (h : tx.state ∉ call.allowedIn) :
    call.act b (s, tx) = ⟨.error (tx.refusal call.name), (s, tx), []⟩ := by
  cases call with
  | addRcpt rcpt =>
      unfold act Transaction.addRcpt
      exact Transaction.whenIn_of_notMem s tx _ _ h
  | body header content =>
      unfold act Transaction.body
      exact Transaction.whenIn_of_notMem s tx _ _ h
  | abort =>
      unfold act Transaction.abort
      exact Transaction.whenIn_of_notMem s tx _ _ h
  | commit =>
      unfold act Transaction.commit
      exact Transaction.whenIn_of_notMem s tx _ _ h

end Mailroom
