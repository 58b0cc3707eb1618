import Mailroom.Proofs.LastGiven
import Mailroom.Proofs.Store.FailedCommit

/-! # Passwords in a store

A store is used by transactions and by the administration, and by deliveries that somebody opened
on the store itself (`BusyStore`).  Whatever they do, an account has the password that it was
created with last (`BusyStore.password?_run`): only its creation sets one, and mailboxes, mail and
accounts that are made for incoming mail leave it alone (`BusyStore.password?_perform`). -/

namespace Mailroom

/-! ### Accounts -/

/-- The password of an account, if the account exists and has one. -/
def passwordOf? (accounts : NameMap StoreAccount) (name : String) : Option String :=
  (accounts.get? name).bind StoreAccount.password?

theorem passwordOf?_put (accounts : NameMap StoreAccount) (name other : String)
    (a : StoreAccount) :
    passwordOf? (accounts.put name a) other =
      if name = other then a.password? else passwordOf? accounts other := by
  unfold passwordOf?
  rw [NameMap.get?_put]
  split <;> rfl

/-- An account with the password that its name has already changes no password. -/
theorem passwordOf?_put_of_same {accounts : NameMap StoreAccount} {name : String}
    {a : StoreAccount} (h : a.password? = passwordOf? accounts name) (other : String) :
    passwordOf? (accounts.put name a) other = passwordOf? accounts other := by
  rw [passwordOf?_put]
  split
  · next he => rw [h, he]
  · rfl

/-- A change of an account that keeps its password changes no password. -/
theorem passwordOf?_put_of_get? {accounts : NameMap StoreAccount} {name : String}
    {a b : StoreAccount} (ha : accounts.get? name = some a) (hb : b.password? = a.password?)
    (other : String) : passwordOf? (accounts.put name b) other = passwordOf? accounts other := by
  refine passwordOf?_put_of_same ?_ other
  rw [hb, passwordOf?, ha]
  rfl

namespace StoreAccount

theorem password?_ensureMailbox (a : StoreAccount) (mailbox : String) :
    (a.ensureMailbox mailbox).password? = a.password? := by
  unfold ensureMailbox
  split <;> rfl

theorem password?_specialMailbox (a : StoreAccount) (use name : String) :
    (a.specialMailbox use name).2.password? = a.password? := by
  unfold specialMailbox
  split <;> rfl

theorem password?_append (a : StoreAccount) (mailbox : String) (m : StoredMessage) :
    (a.append mailbox m).password? = a.password? := by
  unfold append
  split <;> rfl

theorem password?_of_target {special? : Option (String × String)} {a placed : StoreAccount}
    {mailbox : String} (h : Store.target special? a = .ok (mailbox, placed)) :
    placed.password? = a.password? := by
  unfold Store.target at h
  split at h
  · next use name =>
    have hp := password?_specialMailbox a use name
    rwa [Except.ok.inj h] at hp
  · split at h
    · cases h
      rfl
    · cases h

end StoreAccount

/-- **Mail leaves every password alone.** -/
theorem Store.passwordOf?_distribute (d : StoreDelivery) (accounts : NameMap StoreAccount)
    (name : String) : passwordOf? (distribute d accounts).2 name = passwordOf? accounts name := by
  refine distribute_keeps (P := fun after => passwordOf? after name = passwordOf? accounts name) d
    (fun h ha ht => ?_) (fun h ha => ?_) rfl
  · exact (passwordOf?_put_of_get? ha (StoreAccount.password?_of_target ht) name).trans h
  · exact (passwordOf?_put_of_get? ha (StoreAccount.password?_append _ _ _) name).trans h

/-! ### Requests -/

/-- The password that a request creates an account with. -/
def StoreRequest.newPassword? (name : String) : StoreRequest → Option String
  | createUser created password => if created = name then some password else none
  | _ => none

namespace SharedStore

variable (w : SharedStore) (name : String)

/-- Changing an account keeps its password if the change does. -/
theorem passwordOf?_changeAccount {changed : String}
    {change : StoreAccount → Except StoreFault StoreAccount}
    (hchange : ∀ a b, change a = .ok b → b.password? = a.password?) :
    passwordOf? (w.administer (w.store.changeAccount changed change)).1.store.accounts name =
      passwordOf? w.store.accounts name := by
  cases hc : w.store.changeAccount changed change with
  | error fault => rfl
  | ok store =>
      obtain ⟨a, b, ha, hb, rfl⟩ := Store.changeAccount_eq_ok hc
      exact passwordOf?_put_of_get? ha (hchange a b hb) name

/-- **What a request does to a password:** the creation of the account sets it, all else leaves it
as it was. -/
theorem passwordOf?_perform (request : StoreRequest) :
    passwordOf? (w.perform request).1.store.accounts name =
      (request.newPassword? name).or (passwordOf? w.store.accounts name) := by
  cases request with
  | createUser created password =>
      refine (passwordOf?_put _ _ _ _).trans ?_
      rw [StoreRequest.newPassword?]
      split <;> rfl
  | createMailbox changed mailbox =>
      refine w.passwordOf?_changeAccount name fun a b hb => ?_
      cases hb
      exact a.password?_ensureMailbox mailbox
  | deleteMailbox changed mailbox =>
      refine w.passwordOf?_changeAccount name fun a b hb => ?_
      split at hb
      · cases hb
        rfl
      · cases hb
  | getOrCreateUser created =>
      by_cases hc : w.store.accounts.contains created = true
      · rw [w.perform_getOrCreateUser_of_contains hc]
        rfl
      · rw [w.perform_getOrCreateUser_of_new hc]
        have hnone : w.store.accounts.get? created = none := by
          simpa [NameMap.contains] using hc
        refine passwordOf?_put_of_same ?_ name
        rw [passwordOf?, hnone]
        rfl
  | start rules envelope sender => rfl
  | host host => rfl
  | call i call =>
      rw [perform]
      cases w.transactions[i]? with
      | none => rfl
      | some tx =>
          dsimp only
          rcases call.accounts_act w.store tx with e | e
          · rw [e]
            rfl
          · rw [e]
            exact Store.passwordOf?_distribute _ _ _

end SharedStore

/-! ### Traffic -/

/-- A call on an open delivery of the store. -/
inductive DeliveryRequest where
  | addRcpt (account : String) (fields : Header)
  | specialMailbox (use name : String)
  | body (header : Header) (length : Nat) (content : Body)
  | abort
  | commit

namespace DeliveryRequest

/-- What a call does. -/
def act : DeliveryRequest → DeliveryAct Store StoreDelivery
  | addRcpt account fields => Store.backend.addRcpt account fields
  | specialMailbox use name => Store.backend.specialMailbox use name
  | body header length content => Store.backend.body header length content
  | abort => Store.backend.abort
  | commit => Store.backend.commit

/-- No call changes a password. -/
theorem passwordOf?_act (call : DeliveryRequest) (s : Store) (d : StoreDelivery) (name : String) :
    passwordOf? (call.act (s, d)).state.1.accounts name = passwordOf? s.accounts name := by
  cases call with
  | addRcpt account fields =>
      rcases Store.addRcpt_outcome account fields s d with ⟨-, fault, -, e⟩ | ⟨-, e⟩ <;>
        exact congrArg (fun o => passwordOf? o.2.1.accounts name) e
  | specialMailbox use name => rfl
  | body header length content =>
      rcases Store.deposit_outcome header length content s d with
        ⟨fault, host, -, e⟩ | ⟨-, bytes, kept, file?, host, -, -, e⟩ <;>
        exact congrArg (fun o => passwordOf? o.2.1.accounts name) e
  | abort =>
      obtain ⟨answer, host, e⟩ := Store.abort_outcome s d
      exact congrArg (fun o => passwordOf? o.2.1.accounts name) e
  | commit =>
      have hd := Store.passwordOf?_distribute d s.accounts name
      show passwordOf? (Store.commit (s, d)).state.1.accounts name = _
      unfold Store.commit
      dsimp only
      cases h : Store.distribute d s.accounts with
      | mk answer after =>
          rw [h] at hd
          cases answer <;> exact hd

end DeliveryRequest

/-- A shared store with all deliveries that were opened on the store itself, in the order of
opening. -/
structure BusyStore where
  shared : SharedStore
  deliveries : List StoreDelivery := []

/-- What can be asked of a busy store. -/
inductive StoreTraffic where
  | request (request : StoreRequest)
  /-- Opens a delivery. -/
  | openDelivery
  /-- Makes a call on the delivery that was opened as number `i`. -/
  | delivery (i : Nat) (call : DeliveryRequest)

/-- The password that an account is created with. -/
def StoreTraffic.newPassword? (name : String) : StoreTraffic → Option String
  | request asked => asked.newPassword? name
  | openDelivery | delivery _ _ => none

/-- The password that an account was created with last, if anybody created it with one. -/
def lastPassword? (name : String) (traffic : List StoreTraffic) : Option String :=
  lastGiven? (StoreTraffic.newPassword? name) traffic

/-- No account has a password before it was created with one. -/
theorem lastPassword?_eq_none {name : String} {traffic : List StoreTraffic}
    (h : ∀ password, .request (.createUser name password) ∉ traffic) :
    lastPassword? name traffic = none := by
  refine lastGiven?_eq_none_iff.mpr fun asked m => ?_
  cases asked with
  | openDelivery | delivery i call => rfl
  | request request =>
      cases request with
      | createUser created password =>
          refine if_neg fun he => h password ?_
          exact he ▸ m
      | _ => rfl

namespace BusyStore

/-- A new store that nobody uses yet. -/
def opened (options : StoreOptions) (host : Host) : BusyStore := ⟨.opened options host, []⟩

/-- What a busy store does when it is asked. -/
def perform (b : BusyStore) : StoreTraffic → BusyStore
  | .request request => { b with shared := (b.shared.perform request).1 }
  | .openDelivery =>
    let step := Store.backend.start b.shared.store
    { b with
      shared := { b.shared with store := step.state }
      deliveries := b.deliveries ++ step.answer.toOption.toList }
  | .delivery i call =>
    match b.deliveries[i]? with
    | none => b
    | some d =>
      let step := call.act (b.shared.store, d)
      { b with
        shared := { b.shared with store := step.state.1 }
        deliveries := b.deliveries.set i step.state.2 }

/-- A busy store after some traffic. -/
def run (b : BusyStore) (traffic : List StoreTraffic) : BusyStore := traffic.foldl perform b

/-- The password of an account. -/
def password? (name : String) (b : BusyStore) : Option String :=
  passwordOf? b.shared.store.accounts name

/-- **Only the creation of an account sets its password.** -/
theorem password?_perform (name : String) (b : BusyStore) (asked : StoreTraffic) :
    password? name (b.perform asked) = (asked.newPassword? name).or (password? name b) := by
  cases asked with
  | request request => exact b.shared.passwordOf?_perform name request
  | openDelivery => rfl
  | delivery i call =>
      rw [perform]
      cases b.deliveries[i]? with
      | none => rfl
      | some d => exact call.passwordOf?_act _ d name

/-- **An account has the password that it was created with last.** -/
theorem password?_run (options : StoreOptions) (host : Host) (traffic : List StoreTraffic)
    (name : String) :
    password? name ((opened options host).run traffic) = lastPassword? name traffic := by
  have h := view_foldl (password?_perform name) traffic (opened options host)
  exact h.trans Option.or_none

end BusyStore

end Mailroom
