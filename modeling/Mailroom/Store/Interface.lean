import Mailroom.Body
import Mailroom.Failure
import Mailroom.Header.Basic
import Mailroom.Journal

/-! # Mail stores

A `Backend σ δ` is what a delivery needs of a mail store: `σ` is the state of the store and `δ`
that of one open delivery.  An operation on an open delivery sees both.  Recipients come first,
then the body once for all of them, then the delivery is committed or aborted. -/

namespace Mailroom

/-- An account as a store reports it. -/
structure StoreUser where
  name : String
  /-- Whether the account was created by this call. -/
  created : Bool
deriving DecidableEq, Repr

/-- What a store is opened with. -/
structure StoreOptions where
  /-- The largest message that is accepted, in octets. -/
  maxBytes? : Option UInt32 := none
  /-- The directory for bodies that are kept outside of the store. -/
  bodyDirectory? : Option String := none
deriving DecidableEq, Repr

/-- An operation of a store with state `σ` on an open delivery with state `δ`. -/
abbrev DeliveryAct (σ δ : Type) : Type := Act (σ × δ) (Except StoreFault Unit)

/-- A mail store. -/
structure Backend (σ δ : Type) where
  /-- The name of the kind of store. -/
  driver : String
  /-- Opens a delivery. -/
  start : Act σ (Except StoreFault δ)
  /-- Adds the account of a recipient, with fields that go on top of its copy only. -/
  addRcpt : (account : String) → (fields : Header) → DeliveryAct σ δ
  /-- Sends every copy to the mailbox with this special use; an account without one gets a mailbox
  of this name. -/
  specialMailbox : (use name : String) → DeliveryAct σ δ
  /-- Deposits header and body; the length is the stated one. -/
  body : (header : Header) → (length : Nat) → (body : Body) → DeliveryAct σ δ
  /-- Discards the delivery. -/
  abort : DeliveryAct σ δ
  /-- Makes the delivery permanent. -/
  commit : DeliveryAct σ δ
  /-- An account, created if it does not exist. -/
  getOrCreateUser : (name : String) → Act σ (Except StoreFault StoreUser)
  /-- Whether a password is that of an account. -/
  checkPlain : (name password : String) → Act σ (Except StoreFault Bool)

/-- A store that is a part of a larger state. -/
def Backend.onPart {σ τ δ : Type} (get : τ → σ) (put : σ → τ → τ) (b : Backend σ δ) :
    Backend τ δ :=
  let onDelivery (act : DeliveryAct σ δ) : DeliveryAct τ δ :=
    Act.onPart (fun p => (get p.1, p.2)) (fun part p => (put part.1 p.1, part.2)) act
  { driver := b.driver
    start := Act.onPart get put b.start
    addRcpt := fun account fields => onDelivery (b.addRcpt account fields)
    specialMailbox := fun use name => onDelivery (b.specialMailbox use name)
    body := fun header length body => onDelivery (b.body header length body)
    abort := onDelivery b.abort
    commit := onDelivery b.commit
    getOrCreateUser := fun name => Act.onPart get put (b.getOrCreateUser name)
    checkPlain := fun name password => Act.onPart get put (b.checkPlain name password) }

end Mailroom
