import Mailroom.Proofs.Store.Consistency

/-! # What requests do to a shared store

Every request keeps the store consistent and takes at most one `AccountStep` on each account
(`Consistent.effect`).  The work is in the calls of transactions, where each one that is allowed
has a `CallEffect`. -/

namespace Mailroom

variable {past : List Moment} {w : SharedStore} {i : Nat} {tx : Transaction StoreDelivery}
  {call : TransactionCall}

/-! ### Calls -/

theorem TransactionCall.unfinished_of_mem_allowedIn (h : tx.state ∈ call.allowedIn) :
    tx.state.isFinal = false := by
  cases call with
  | addRcpt rcpt | body header content =>
      have hcreated : tx.state = .created := by simpa [allowedIn] using h
      rw [hcreated]
      rfl
  | abort | commit => exact tx.unfinished_of_mem h

theorem TransactionState.not_committed : ∀ {state : TransactionState},
    state.isFinal = false → (state == .committed) = false
  | .created, _ | .bodyDeposited, _ => rfl

/-- What a call that is allowed does to the store and to its transaction. -/
structure CallEffect (past : List Moment) (w : SharedStore) (i : Nat) (call : TransactionCall)
    (tx : Transaction StoreDelivery) (answer : Except Failure Unit) (s' : Store)
    (tx' : Transaction StoreDelivery) : Prop where
  ordered : Store.AllOrdered s'.accounts
  accounts : ∀ name, AccountStep name (.call i call) answer.isOk (w.store.accounts.get? name)
    (s'.accounts.get? name)
  tracked : Tracked (past ++ [⟨w, .call i call⟩]) s'.accounts i tx'
  deposits : s'.deposits = w.store.deposits +
    if (StoreRequest.call i call).isBody && answer.isOk then 1 else 0
  commits : s'.commits = w.store.commits + if tx'.state == .committed then 1 else 0
  committed : call = .commit → answer.isOk = true → Committed past i tx w.store.accounts s'.accounts

/-- A call that is allowed has such an effect. -/
def HasEffect (past : List Moment) (w : SharedStore) (i : Nat) (call : TransactionCall)
    (tx : Transaction StoreDelivery) : Prop :=
  ∃ answer s' tx', (call.act Store.backend (w.store, tx)).outcome = (answer, s', tx') ∧
    CallEffect past w i call tx answer s' tx'

namespace Consistent

variable (h : Consistent past w) (htx : w.transactions[i]? = some tx)
include h htx

/-- A call that leaves the accounts and the transaction as they were. -/
theorem callEffect_of_same {answer : Except Failure Unit} (hs : tx.state.isFinal = false)
    (hbody : (StoreRequest.call i call).isBody = false) (hcommit : call ≠ .commit) :
    CallEffect past w i call tx answer w.store tx where
  ordered := h.ordered
  accounts := fun name => .same _ _ _
  tracked := (h.tracked i tx htx).later (fun _ hc => hc) _
  deposits := by rw [hbody]; rfl
  commits := by rw [TransactionState.not_committed hs]; rfl
  committed := fun hc => absurd hc hcommit

theorem hasEffect_addRcpt (rcpt : String) (hs : tx.state = .created) :
    HasEffect past w i (.addRcpt rcpt) tx := by
  have hsame : ∀ answer, CallEffect past w i (.addRcpt rcpt) tx answer w.store tx := fun answer =>
    h.callEffect_of_same htx (by rw [hs]; rfl) rfl nofun
  rcases Transaction.addRcpt_store w.store tx rcpt hs with
    ⟨failure, -, e⟩ | ⟨name, -, -, e⟩ | ⟨name, haccount, hnew, hinbox, e⟩
  · exact ⟨_, _, _, e, hsame _⟩
  · exact ⟨_, _, _, e, hsame _⟩
  · have hexists := Store.contains_of_hasInbox hinbox
    have hsucceeded := congrArg Prod.snd (SharedStore.perform_call (.addRcpt rcpt) htx e)
    have hadds : (Moment.mk w (.call i (.addRcpt rcpt))).Adds i rcpt name :=
      ⟨rfl, hsucceeded, tx, htx, hnew, haccount⟩
    refine ⟨_, _, _, e, ?_⟩
    exact {
      ordered := h.ordered
      accounts := fun _ => .same _ _ _
      tracked := (h.tracked i tx htx).withRcpt hs hadds hnew hexists
      deposits := rfl
      commits := by
        rw [show (tx.withRcpt rcpt name).state = .created from hs]
        rfl
      committed := nofun }

theorem hasEffect_body (header : Header) (content : Body) (hs : tx.state = .created) :
    HasEffect past w i (.body header content) tx := by
  rcases Transaction.body_store w.store tx header content hs with
    ⟨fault, host, -, e⟩ | ⟨-, bytes, kept, file?, host, hread, hkept, e⟩
  · refine ⟨_, _, _, e, ?_⟩
    exact {
      ordered := h.ordered
      accounts := fun _ => .same _ _ _
      tracked := (h.tracked i tx htx).withJunk hs _
      deposits := rfl
      commits := by
        rw [show tx.withJunk.state = .created from hs]
        rfl
      committed := nofun }
  · have hperform := SharedStore.perform_call (.body header content) htx e
    have hdeposits : (Moment.mk w (.call i (.body header content))).Deposits i header kept := by
      refine ⟨⟨content, bytes, rfl, congrArg Prod.snd hperform, hread, ?_⟩, ?_⟩
      · rw [Moment.after, hperform]
        exact hkept
      · refine ⟨tx.withDeposit header kept file?, ?_, rfl⟩
        rw [Moment.after, hperform]
        exact List.getElem?_set_self (List.getElem?_eq_some_iff.mp htx).1
    refine ⟨_, _, _, e, ?_⟩
    exact {
      ordered := h.ordered
      accounts := fun _ => .same _ _ _
      tracked := (h.tracked i tx htx).withDeposit hs hdeposits file?
      deposits := rfl
      commits := rfl
      committed := nofun }

theorem hasEffect_abort (hs : tx.state ∈ [TransactionState.created, .bodyDeposited]) :
    HasEffect past w i .abort tx := by
  obtain ⟨answer, host, e⟩ := Transaction.abort_store w.store tx hs
  refine ⟨_, _, _, e, ?_⟩
  exact {
    ordered := h.ordered
    accounts := fun _ => .same _ _ _
    tracked := (h.tracked i tx htx).ended (fun _ hc => hc) _ rfl _
    deposits := rfl
    commits := rfl
    committed := nofun }

theorem hasEffect_commit (hs : tx.state ∈ [TransactionState.created, .bodyDeposited]) :
    HasEffect past w i .commit tx := by
  have ht := h.tracked i tx htx
  have hunfinished := tx.unfinished_of_mem hs
  have e := Transaction.commit_store w.store tx hs
  cases hd : Store.distribute tx.delivery w.store.accounts with
  | mk answer accounts =>
      rw [hd] at e
      cases answer with
      | error fault =>
          have hsame := ht.get?_of_distribute_error hunfinished hd
          refine ⟨_, _, _, e, ?_⟩
          exact {
            ordered := fun name a ha => h.ordered name a (hsame name ▸ ha)
            accounts := fun name => by
              rw [hsame name]
              exact .same _ _ _
            tracked := ht.later (fun name hc => by rwa [NameMap.contains, hsame name]) _
            deposits := rfl
            commits := by
              rw [TransactionState.not_committed hunfinished]
              rfl
            committed := nofun }
      | ok _ =>
          have hcommitted := ht.committed hs h.ordered hd
          have haccounts := hcommitted.accountStep
          have hordered := Store.allOrdered_distribute tx.delivery h.ordered
          rw [hd] at hordered
          refine ⟨_, _, _, e, ?_⟩
          exact {
            ordered := hordered
            accounts := haccounts
            tracked := ht.ended (fun name hc => (haccounts name).isSome hc) _ rfl _
            deposits := rfl
            commits := rfl
            committed := fun _ _ => hcommitted }

/-- **Every call that is allowed** has an effect. -/
theorem hasEffect (hs : tx.state ∈ call.allowedIn) : HasEffect past w i call tx := by
  cases call with
  | addRcpt rcpt =>
      exact h.hasEffect_addRcpt htx rcpt (by simpa [TransactionCall.allowedIn] using hs)
  | body header content =>
      exact h.hasEffect_body htx header content (by simpa [TransactionCall.allowedIn] using hs)
  | abort => exact h.hasEffect_abort htx hs
  | commit => exact h.hasEffect_commit htx hs

end Consistent

/-! ### Requests -/

/-- What a request does to a consistent store. -/
structure RequestEffect (past : List Moment) (w : SharedStore) (request : StoreRequest) : Prop where
  consistent : Consistent (past ++ [⟨w, request⟩]) (w.perform request).1
  accounts : ∀ name, AccountStep name request (w.perform request).2 (w.store.accounts.get? name)
    ((w.perform request).1.store.accounts.get? name)

namespace Consistent

variable (h : Consistent past w) {request : StoreRequest} {ok : Bool}
include h

/-- A request that changes at most the host. -/
theorem effect_of_host {host : Host} (hdeposit : (request.isBody && ok) = false)
    (e : w.perform request = ({ w with store := { w.store with host } }, ok)) :
    RequestEffect past w request := by
  have hnow : (Moment.mk w request).isDeposit = false := by
    rw [Moment.isDeposit, Moment.succeeded, e]
    exact hdeposit
  refine ⟨?_, fun name => ?_⟩
  · rw [e]
    exact h.later hnow h.ordered (fun _ hc => hc) rfl rfl
  · rw [e]
    exact .same _ _ _

/-- A request that puts one account in place. -/
theorem effect_of_put {name : String} {b : StoreAccount} (hbody : request.isBody = false)
    (hordered : b.mailboxes.Ordered)
    (hstep : AccountStep name request true (w.store.accounts.get? name) (some b))
    (e : w.perform request =
      ({ w with store := { w.store with accounts := w.store.accounts.put name b } }, true)) :
    RequestEffect past w request := by
  have hnow : (Moment.mk w request).isDeposit = false := by
    rw [Moment.isDeposit, hbody]
    rfl
  refine ⟨?_, fun other => ?_⟩
  · rw [e]
    exact h.later hnow (h.ordered.put name hordered)
      (fun _ hc => NameMap.contains_put hc name b) rfl rfl
  · rw [e]
    dsimp only
    rw [NameMap.get?_put]
    split
    · next he => exact he ▸ hstep
    · exact .same _ _ _

/-- A request that changes an account by the administration of the store. -/
theorem effect_of_changeAccount {name : String}
    {change : StoreAccount → Except StoreFault StoreAccount} (hbody : request.isBody = false)
    (hstep : ∀ a b, a.mailboxes.Ordered → change a = .ok b →
      b.mailboxes.Ordered ∧ AccountStep name request true (some a) (some b))
    (e : w.perform request = w.administer (w.store.changeAccount name change)) :
    RequestEffect past w request := by
  cases hc : w.store.changeAccount name change with
  | error fault =>
      rw [hc] at e
      exact h.effect_of_host (by rw [hbody]; rfl) e
  | ok s' =>
      obtain ⟨a, b, ha, hb, rfl⟩ := Store.changeAccount_eq_ok hc
      rw [hc] at e
      obtain ⟨hordered, hchange⟩ := hstep a b (h.ordered name a ha) hb
      exact h.effect_of_put hbody hordered (ha ▸ hchange) e

theorem effect_of_start (rules : DeliveryRules) (envelope : Envelope) (sender : String) :
    RequestEffect past w (.start rules envelope sender) := by
  have e := w.perform_start rules envelope sender
  refine ⟨⟨h.ordered, fun i tx htx => ?_, ?_, ?_⟩, fun name => .same _ _ _⟩
  · rw [e, List.getElem?_append] at htx
    split at htx
    · exact (h.tracked i tx htx).later (fun _ hc => hc) _
    · next hi =>
      rw [List.getElem?_singleton] at htx
      split at htx
      · next hi' =>
        cases htx
        have hlength : w.transactions.length = i := by omega
        exact ⟨⟨_, List.mem_append_right _ List.mem_cons_self, hlength, rfl⟩, List.nodup_nil,
          (fun _ m => nomatch m), fun _ => pending_opened _ i rules envelope sender⟩
      · cases htx
  · rw [List.countP_append]
    exact h.deposits
  · rw [e, List.countP_append]
    exact h.commits

theorem effect_of_call (i : Nat) (call : TransactionCall) :
    RequestEffect past w (.call i call) := by
  cases htx : w.transactions[i]? with
  | none =>
      exact h.effect_of_host (Bool.and_false _) (SharedStore.perform_call_of_none htx call)
  | some tx =>
      by_cases hs : tx.state ∈ call.allowedIn
      · obtain ⟨answer, s', tx', e, heffect⟩ := h.hasEffect htx hs
        have hperform := SharedStore.perform_call call htx e
        obtain ⟨hi, hget⟩ := List.getElem?_eq_some_iff.mp htx
        refine ⟨⟨?_, fun j other hj => ?_, ?_, ?_⟩, fun name => ?_⟩
        · rw [hperform]
          exact heffect.ordered
        · rw [hperform] at hj ⊢
          rw [List.getElem?_set] at hj
          split at hj
          · next hij =>
            cases hj
            exact hij ▸ heffect.tracked
          · exact (h.tracked j other hj).later (fun name hc => (heffect.accounts name).isSome hc) _
        · rw [List.countP_append, List.countP_singleton, ← h.deposits, Moment.isDeposit,
            Moment.succeeded, hperform]
          exact heffect.deposits
        · rw [hperform]
          show s'.commits = (w.transactions.set i tx').countP _
          rw [heffect.commits, h.commits, List.countP_set hi, hget,
            TransactionState.not_committed (TransactionCall.unfinished_of_mem_allowedIn hs)]
          rfl
        · rw [hperform]
          exact heffect.accounts name
      · exact h.effect_of_host (Bool.and_false _) (SharedStore.perform_call_of_notAllowed htx hs)

/-- **Every request** keeps the store consistent. -/
theorem effect (request : StoreRequest) : RequestEffect past w request := by
  cases request with
  | createUser name password =>
      exact h.effect_of_put rfl (StoreAccount.ordered_new _) (.createUser password _) rfl
  | createMailbox name mailbox =>
      refine h.effect_of_changeAccount rfl (fun a b ha hb => ?_) rfl
      cases hb
      exact ⟨StoreAccount.ordered_ensureMailbox ha mailbox, .createMailbox mailbox a⟩
  | deleteMailbox name mailbox =>
      refine h.effect_of_changeAccount rfl (fun a b ha hb => ?_) rfl
      split at hb
      · cases hb
        exact ⟨NameMap.ordered_erase ha mailbox, .deleteMailbox mailbox a⟩
      · cases hb
  | getOrCreateUser name =>
      cases ha : w.store.accounts.get? name with
      | some a =>
          have hc : w.store.accounts.contains name = true :=
            NameMap.contains_eq_true_iff.mpr ⟨a, ha⟩
          exact h.effect_of_host (Bool.false_and true) (w.perform_getOrCreateUser_of_contains hc)
      | none =>
          have hc : ¬ w.store.accounts.contains name = true := by
            rw [NameMap.contains, ha]
            exact Bool.false_ne_true
          refine h.effect_of_put rfl (StoreAccount.ordered_new none) ?_
            (w.perform_getOrCreateUser_of_new hc)
          rw [ha]
          exact .getOrCreateUser
  | start rules envelope sender => exact h.effect_of_start rules envelope sender
  | call i call => exact h.effect_of_call i call
  | host host => exact h.effect_of_host (Bool.false_and _) rfl

end Consistent

/-! ### Options -/

/-- No call changes the options of the store. -/
theorem TransactionCall.options_act (call : TransactionCall) (s : Store)
    (tx : Transaction StoreDelivery) :
    (call.act Store.backend (s, tx)).state.1.options = s.options := by
  by_cases hs : tx.state ∈ call.allowedIn
  · cases call with
    | addRcpt rcpt =>
        have hcreated : tx.state = .created := by simpa [allowedIn] using hs
        rcases Transaction.addRcpt_store s tx rcpt hcreated with
          ⟨_, -, e⟩ | ⟨_, -, -, e⟩ | ⟨_, -, -, -, e⟩ <;>
          exact congrArg (fun o => o.2.1.options) e
    | body header content =>
        have hcreated : tx.state = .created := by simpa [allowedIn] using hs
        rcases Transaction.body_store s tx header content hcreated with
          ⟨_, _, -, e⟩ | ⟨-, _, _, _, _, -, -, e⟩ <;>
          exact congrArg (fun o => o.2.1.options) e
    | abort =>
        obtain ⟨_, _, e⟩ := Transaction.abort_store s tx hs
        exact congrArg (fun o => o.2.1.options) e
    | commit =>
        refine (congrArg (fun o => o.2.1.options) (Transaction.commit_store s tx hs)).trans ?_
        cases Store.distribute tx.delivery s.accounts with
        | mk answer accounts => cases answer <;> rfl
  · rw [call.act_of_notAllowed Store.backend s hs]

namespace SharedStore

theorem administer_changeAccount (w : SharedStore) (name : String)
    (change : StoreAccount → Except StoreFault StoreAccount) :
    ∃ accounts ok, w.administer (w.store.changeAccount name change) =
      ({ w with store := { w.store with accounts } }, ok) := by
  cases hc : w.store.changeAccount name change with
  | error fault => exact ⟨w.store.accounts, false, rfl⟩
  | ok s' =>
      obtain ⟨a, b, -, -, rfl⟩ := Store.changeAccount_eq_ok hc
      exact ⟨w.store.accounts.put name b, true, rfl⟩

/-- A request changes nothing but the accounts unless it opens a transaction, makes a call on one or
changes the host. -/
theorem perform_accounts (w : SharedStore) (request : StoreRequest) :
    (∃ accounts ok, w.perform request = ({ w with store := { w.store with accounts } }, ok)) ∨
    (∃ rules envelope sender, request = .start rules envelope sender) ∨
    (∃ host, request = .host host) ∨ ∃ i call, request = .call i call := by
  cases request with
  | createUser name password => exact .inl ⟨_, true, rfl⟩
  | createMailbox name mailbox => exact .inl (w.administer_changeAccount name _)
  | deleteMailbox name mailbox => exact .inl (w.administer_changeAccount name _)
  | getOrCreateUser name =>
      by_cases hc : w.store.accounts.contains name = true
      · exact .inl ⟨w.store.accounts, true, w.perform_getOrCreateUser_of_contains hc⟩
      · exact .inl ⟨_, true, w.perform_getOrCreateUser_of_new hc⟩
  | start rules envelope sender => exact .inr (.inl ⟨rules, envelope, sender, rfl⟩)
  | host host => exact .inr (.inr (.inl ⟨host, rfl⟩))
  | call i call => exact .inr (.inr (.inr ⟨i, call, rfl⟩))

/-- A call changes no other transaction. -/
theorem transactions_call_of_ne {w : SharedStore} {i j : Nat} (h : j ≠ i) (call : TransactionCall) :
    (w.perform (.call j call)).1.transactions[i]? = w.transactions[i]? := by
  rw [perform]
  cases w.transactions[j]? with
  | none => rfl
  | some tx => exact List.getElem?_set_ne h

/-- No request changes the options of the store. -/
theorem options_perform (w : SharedStore) (request : StoreRequest) :
    (w.perform request).1.store.options = w.store.options := by
  rcases w.perform_accounts request with
    ⟨accounts, ok, e⟩ | ⟨_, _, _, rfl⟩ | ⟨host, rfl⟩ | ⟨i, call, rfl⟩
  · rw [e]
  · rfl
  · rfl
  · cases htx : w.transactions[i]? with
    | none => rw [perform_call_of_none htx]
    | some tx =>
        rw [perform, htx]
        exact call.options_act w.store tx

/-- The options of a store are those that it was opened with. -/
theorem options_of_mem_moments {w : SharedStore} {requests : List StoreRequest} {m : Moment}
    (h : m ∈ w.moments requests) : m.before.store.options = w.store.options := by
  induction requests generalizing w with
  | nil => cases h
  | cons request requests ih =>
      rcases List.mem_cons.mp h with rfl | h
      · rfl
      · exact (ih h).trans (w.options_perform request)

theorem options_run (w : SharedStore) (requests : List StoreRequest) :
    (w.run requests).store.options = w.store.options := by
  induction requests generalizing w with
  | nil => rfl
  | cons request requests ih => exact (ih _).trans (w.options_perform request)

end SharedStore

end Mailroom
