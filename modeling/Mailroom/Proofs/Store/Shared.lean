import Mailroom.Proofs.Delivery.CallLog
import Mailroom.Store.Basic

/-! # A store that many share

Any number of transactions are open on one store, while accounts and mailboxes come and go and the
host changes for reasons of its own.  A `SharedStore` takes one `StoreRequest` after another, in
any order; `SharedStore.moments` is what it went through. -/

namespace Mailroom

/-- A store with all transactions that were opened on it, in the order of opening. -/
structure SharedStore where
  store : Store
  transactions : List (Transaction StoreDelivery) := []

/-- What can be asked of a shared store. -/
inductive StoreRequest where
  | createUser (name password : String)
  | createMailbox (name mailbox : String)
  | deleteMailbox (name mailbox : String)
  | getOrCreateUser (name : String)
  /-- Opens a transaction. -/
  | start (rules : DeliveryRules) (envelope : Envelope) (sender : String)
  /-- Makes a call on the transaction that was opened as number `i`. -/
  | call (i : Nat) (call : TransactionCall)
  /-- Changes the host, as any other program may. -/
  | host (host : Host)

namespace StoreRequest

/-- The requests that are not meant to change an account. -/
def isQuiet : StoreRequest → Bool
  | start _ _ _ | call _ (.addRcpt _) | call _ (.body _ _) | call _ .abort | host _ => true
  | _ => false

/-- Whether a request is one to deposit a body. -/
def isBody : StoreRequest → Bool
  | call _ (.body _ _) => true
  | _ => false

/-- Whether a request may remove the messages of a mailbox. -/
def removes (name mailbox : String) : StoreRequest → Bool
  | createUser name' _ => name' == name
  | deleteMailbox name' mailbox' => name' == name && mailbox' == mailbox
  | _ => false

/-- Whether a request is a commit. -/
def isCommit : StoreRequest → Bool
  | call _ .commit => true
  | _ => false

end StoreRequest

namespace SharedStore

/-- A new store that nobody uses yet. -/
def opened (options : StoreOptions) (host : Host) : SharedStore := ⟨{ options, host }, []⟩

/-- Changes the store itself; a fault leaves it as it was. -/
def administer (w : SharedStore) (change : Except StoreFault Store) : SharedStore × Bool :=
  match change with
  | .ok store => ({ w with store }, true)
  | .error _ => (w, false)

/-- What a request does, and whether it succeeds. -/
def perform (w : SharedStore) : StoreRequest → SharedStore × Bool
  | .createUser name password => w.administer (.ok (w.store.createUser name password))
  | .createMailbox name mailbox => w.administer (w.store.createMailbox name mailbox)
  | .deleteMailbox name mailbox => w.administer (w.store.deleteMailbox name mailbox)
  | .getOrCreateUser name =>
    let step := Store.backend.getOrCreateUser name w.store
    ({ w with store := step.state }, step.answer.isOk)
  | .start rules envelope sender =>
    let step := Transaction.start Store.backend rules envelope sender w.store
    match step.answer with
    | .ok tx => (⟨step.state, w.transactions ++ [tx]⟩, true)
    | .error _ => ({ w with store := step.state }, false)
  | .call i call =>
    match w.transactions[i]? with
    | none => (w, false)
    | some tx =>
      let step := call.act Store.backend (w.store, tx)
      (⟨step.state.1, w.transactions.set i step.state.2⟩, step.answer.isOk)
  | .host host => ({ w with store := { w.store with host } }, true)

/-- The shared store after some requests. -/
def run (w : SharedStore) (requests : List StoreRequest) : SharedStore :=
  requests.foldl (fun w request => (w.perform request).1) w

end SharedStore

/-- A request, and what it was made on. -/
structure Moment where
  before : SharedStore
  request : StoreRequest

namespace Moment

/-- What the request left behind. -/
def after (m : Moment) : SharedStore := (m.before.perform m.request).1

/-- Whether the request succeeded. -/
def succeeded (m : Moment) : Bool := (m.before.perform m.request).2

/-- The moment at which a transaction was opened as number `i`. -/
def Opens (m : Moment) (i : Nat) (tx : Transaction StoreDelivery) : Prop :=
  m.before.transactions.length = i ∧ m.request = .start tx.rules tx.envelope tx.sender

/-- The moment at which a recipient brought a new account into a transaction. -/
def Adds (m : Moment) (i : Nat) (rcpt name : String) : Prop :=
  m.request = .call i (.addRcpt rcpt) ∧ m.succeeded = true ∧
    ∃ tx, m.before.transactions[i]? = some tx ∧ name ∉ tx.added ∧
      Account.ofAddress rcpt tx.rules.perDomain = .ok ⟨name⟩

/-- The moment at which a transaction deposited a message, whose body was `kept`. -/
def Deposits (m : Moment) (i : Nat) (header : Header) (kept : Body) : Prop :=
  (∃ body content, m.request = .call i (.body header body) ∧ m.succeeded = true ∧
    body.read m.before.store.host.disk = .ok content ∧
    kept.read m.after.store.host.disk = .ok content) ∧
  ∃ tx, m.after.transactions[i]? = some tx ∧
    tx.delivery.deposit? = some (header.addField (returnPath tx.sender), kept)

end Moment

/-- The moments of a run. -/
def SharedStore.moments (w : SharedStore) : List StoreRequest → List Moment
  | [] => []
  | request :: requests => ⟨w, request⟩ :: (w.perform request).1.moments requests

/-! ### What requests do -/

namespace SharedStore

variable (w : SharedStore)

theorem perform_start (rules : DeliveryRules) (envelope : Envelope) (sender : String) :
    w.perform (.start rules envelope sender) =
      (⟨w.store, w.transactions ++ [Transaction.opened rules envelope sender ({} : StoreDelivery)]⟩,
        true) := rfl

theorem perform_getOrCreateUser_of_contains {name : String}
    (h : w.store.accounts.contains name = true) :
    w.perform (.getOrCreateUser name) = (w, true) := by
  rw [perform]
  dsimp only [Store.backend]
  rw [Store.getOrCreateUser, if_pos h]
  rfl

theorem perform_getOrCreateUser_of_new {name : String}
    (h : ¬ w.store.accounts.contains name = true) :
    w.perform (.getOrCreateUser name) =
      ({ w with store := { w.store with
          accounts := w.store.accounts.put name (StoreAccount.new none) } }, true) := by
  rw [perform]
  dsimp only [Store.backend]
  rw [Store.getOrCreateUser, if_neg h]
  rfl

variable {w : SharedStore} {i : Nat} {tx : Transaction StoreDelivery} {call : TransactionCall}

theorem perform_call (call : TransactionCall) {answer : Except Failure Unit} {s' : Store}
    {tx' : Transaction StoreDelivery} (h : w.transactions[i]? = some tx)
    (e : (call.act Store.backend (w.store, tx)).outcome = (answer, s', tx')) :
    w.perform (.call i call) = (⟨s', w.transactions.set i tx'⟩, answer.isOk) := by
  obtain ⟨ha, hs⟩ := Prod.mk.inj e
  rw [perform, h]
  dsimp only
  rw [ha, hs]

/-- A call on a transaction that was not opened fails and changes nothing. -/
theorem perform_call_of_none (h : w.transactions[i]? = none) (call : TransactionCall) :
    w.perform (.call i call) = (w, false) := by
  rw [perform, h]

/-- A call that the state does not allow fails and changes nothing. -/
theorem perform_call_of_notAllowed (h : w.transactions[i]? = some tx)
    (hs : tx.state ∉ call.allowedIn) : w.perform (.call i call) = (w, false) := by
  have e := call.act_of_notAllowed Store.backend w.store hs
  rw [perform_call call h (congrArg Step.outcome e)]
  obtain ⟨hi, rfl⟩ := List.getElem?_eq_some_iff.mp h
  rw [List.set_getElem_self]
  rfl

end SharedStore

/-- A change of an account that succeeds has found it. -/
theorem Store.changeAccount_eq_ok {s s' : Store} {name : String}
    {change : StoreAccount → Except StoreFault StoreAccount}
    (h : s.changeAccount name change = .ok s') :
    ∃ a b, s.accounts.get? name = some a ∧ change a = .ok b ∧
      s' = { s with accounts := s.accounts.put name b } := by
  unfold changeAccount at h
  cases ha : s.accounts.get? name with
  | none => rw [ha] at h; cases h
  | some a =>
      rw [ha] at h
      dsimp only at h
      cases hc : change a with
      | error fault => rw [hc] at h; cases h
      | ok b =>
          rw [hc] at h
          exact ⟨a, b, rfl, hc, (Except.ok.inj h).symm⟩

end Mailroom
