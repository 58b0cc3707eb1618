import Mailroom.Store.Interface

/-! # Stores that fail on demand

`Backend.withFaults` puts a queue of planned faults in front of a store.  Every call looks for the
first planned fault of its kind; if there is one, it is taken out of the queue and the call
fails with it, without reaching the store. -/

namespace Mailroom

/-- The calls of a store. -/
inductive StoreCall where
  | start
  | addRcpt
  | specialMailbox
  | body
  | commit
  | abort
  | checkPlain
  | getOrCreateUser
deriving DecidableEq, Repr

namespace StoreCall

/-- Every call. -/
def all : List StoreCall :=
  [start, addRcpt, specialMailbox, body, commit, abort, checkPlain, getOrCreateUser]

/-- The name of a call in a plan. -/
def name : StoreCall → String
  | start => "start"
  | addRcpt => "add_rcpt"
  | specialMailbox => "special_mailbox"
  | body => "body"
  | commit => "commit"
  | abort => "abort"
  | checkPlain => "check_plain"
  | getOrCreateUser => "get_or_create_user"

/-- The call with this name. -/
def ofName? (name : String) : Option StoreCall := all.find? (·.name == name)

end StoreCall

/-- Faults planned for the calls to come, the first one first. -/
abbrev FaultPlan : Type := List (StoreCall × StoreFault)

/-- Takes the first fault planned for a call out of the queue. -/
def FaultPlan.take? (call : StoreCall) : FaultPlan → Option (StoreFault × FaultPlan)
  | [] => none
  | planned :: plan =>
    if planned.1 = call then some (planned.2, plan)
    else (FaultPlan.take? call plan).map fun (fault, rest) => (fault, planned :: rest)

namespace Backend

variable {σ δ α : Type}

/-- An operation of a store behind the queue. -/
def guardCall (call : StoreCall) (act : Act σ (Except StoreFault α)) :
    Act (σ × FaultPlan) (Except StoreFault α) := fun (s, plan) =>
  match plan.take? call with
  | some (fault, plan) => ⟨.error fault, (s, plan), []⟩
  | none => act.onFirst (s, plan)

/-- An operation on an open delivery behind the queue. -/
def guardDelivery (call : StoreCall) (act : DeliveryAct σ δ) : DeliveryAct (σ × FaultPlan) δ :=
  fun ((s, plan), d) =>
    match plan.take? call with
    | some (fault, plan) => ⟨.error fault, ((s, plan), d), []⟩
    | none => Act.onPart (fun t => (t.1.1, t.2)) (fun p t => ((p.1, t.1.2), p.2)) act ((s, plan), d)

/-- The store behind a queue of planned faults. -/
def withFaults (b : Backend σ δ) : Backend (σ × FaultPlan) δ where
  driver := b.driver
  start := guardCall .start b.start
  addRcpt account fields := guardDelivery .addRcpt (b.addRcpt account fields)
  specialMailbox use name := guardDelivery .specialMailbox (b.specialMailbox use name)
  body header length body := guardDelivery .body (b.body header length body)
  abort := guardDelivery .abort b.abort
  commit := guardDelivery .commit b.commit
  getOrCreateUser name := guardCall .getOrCreateUser (b.getOrCreateUser name)
  checkPlain name password := guardCall .checkPlain (b.checkPlain name password)

end Backend

end Mailroom
