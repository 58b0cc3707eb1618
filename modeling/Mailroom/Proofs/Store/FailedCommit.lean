import Mailroom.Proofs.Store.Interleaving

/-! # Commits that fail

A commit fails only if its transaction is stuck (`Transaction.Stuck`): the body is deposited, the
message goes to the inboxes, and one of its accounts has none.  Then the shared store is left
exactly as it was, host and transaction included, so the commit can be made again once the inboxes
are there (`failed_commit`).  It rests on two invariants: every account of an unfinished transaction
exists (`Consistent`), and accounts stand in the order of their names (`accountsOrdered_run`). -/

namespace Mailroom

variable {past : List Moment} {w : SharedStore} {i : Nat} {tx : Transaction StoreDelivery}

/-! ### The order of the accounts -/

/-- What a call does to the accounts: a commit distributes, every other call changes none. -/
theorem TransactionCall.accounts_act (call : TransactionCall) (s : Store)
    (tx : Transaction StoreDelivery) :
    (call.act Store.backend (s, tx)).state.1.accounts = s.accounts ∨
      (call.act Store.backend (s, tx)).state.1.accounts =
        (Store.distribute tx.delivery s.accounts).2 := by
  by_cases hs : tx.state ∈ call.allowedIn
  · cases call with
    | addRcpt rcpt =>
        have hcreated : tx.state = .created := by simpa [allowedIn] using hs
        left
        rcases Transaction.addRcpt_store s tx rcpt hcreated with
          ⟨_, -, e⟩ | ⟨_, -, -, e⟩ | ⟨_, -, -, -, e⟩ <;>
          exact congrArg (fun o => o.2.1.accounts) e
    | body header content =>
        have hcreated : tx.state = .created := by simpa [allowedIn] using hs
        left
        rcases Transaction.body_store s tx header content hcreated with
          ⟨_, _, -, e⟩ | ⟨-, _, _, _, _, -, -, e⟩ <;>
          exact congrArg (fun o => o.2.1.accounts) e
    | abort =>
        obtain ⟨_, _, e⟩ := Transaction.abort_store s tx hs
        exact .inl (congrArg (fun o => o.2.1.accounts) e)
    | commit =>
        right
        have e := congrArg (fun o => o.2.1.accounts) (Transaction.commit_store s tx hs)
        refine e.trans ?_
        cases Store.distribute tx.delivery s.accounts with
        | mk answer accounts => cases answer <;> rfl
  · rw [call.act_of_notAllowed Store.backend s hs]
    exact .inl rfl

namespace SharedStore

theorem accountsOrdered_administer {change : Except StoreFault Store}
    (h : w.store.accounts.Ordered)
    (hchange : ∀ store, change = .ok store → store.accounts.Ordered) :
    (w.administer change).1.store.accounts.Ordered := by
  cases change with
  | ok store => exact hchange store rfl
  | error fault => exact h

/-- Changing an account keeps the order. -/
theorem accountsOrdered_changeAccount (h : w.store.accounts.Ordered) (name : String)
    (change : StoreAccount → Except StoreFault StoreAccount) :
    (w.administer (w.store.changeAccount name change)).1.store.accounts.Ordered := by
  refine accountsOrdered_administer h fun store e => ?_
  obtain ⟨a, b, -, -, rfl⟩ := Store.changeAccount_eq_ok e
  exact NameMap.ordered_put h name b

/-- Every request keeps the accounts in order. -/
theorem accountsOrdered_perform (h : w.store.accounts.Ordered) (request : StoreRequest) :
    (w.perform request).1.store.accounts.Ordered := by
  cases request with
  | createUser name password => exact NameMap.ordered_put h name _
  | createMailbox name mailbox => exact accountsOrdered_changeAccount h name _
  | deleteMailbox name mailbox => exact accountsOrdered_changeAccount h name _
  | getOrCreateUser name =>
      by_cases hc : w.store.accounts.contains name = true
      · rw [w.perform_getOrCreateUser_of_contains hc]
        exact h
      · rw [w.perform_getOrCreateUser_of_new hc]
        exact NameMap.ordered_put h name _
  | start rules envelope sender => exact h
  | call i call =>
      rw [perform]
      cases w.transactions[i]? with
      | none => exact h
      | some tx =>
          dsimp only
          rcases call.accounts_act w.store tx with e | e
          · rw [e]
            exact h
          · rw [e]
            exact Store.ordered_distribute tx.delivery h
  | host host => exact h

theorem accountsOrdered_run (h : w.store.accounts.Ordered) (requests : List StoreRequest) :
    (w.run requests).store.accounts.Ordered := by
  induction requests generalizing w with
  | nil => exact h
  | cons request requests ih => exact ih (accountsOrdered_perform h request)

/-- Whatever is asked of a new store, its accounts and their mailboxes stand in order. -/
theorem ordered_opened_run (options : StoreOptions) (host : Host) (requests : List StoreRequest) :
    ((opened options host).run requests).store.accounts.Ordered ∧
      Store.AllOrdered ((opened options host).run requests).store.accounts :=
  ⟨accountsOrdered_run NameMap.ordered_empty requests,
    ((consistent_opened options host).run requests).ordered⟩

end SharedStore

/-! ### When a commit fails -/

/-- Why a commit can fail. -/
structure Transaction.Stuck (tx : Transaction StoreDelivery) (accounts : NameMap StoreAccount) :
    Prop where
  /-- The message is not quarantined. -/
  quarantine : tx.envelope.quarantine = false
  /-- The body is deposited. -/
  state : tx.state = .bodyDeposited
  /-- An account has no inbox. -/
  account : ∃ name ∈ tx.accounts, Store.hasInbox accounts name = false

/-- A distribution for a stuck transaction fails and changes nothing, any other one succeeds. -/
theorem Tracked.distribute_eq {accounts : NameMap StoreAccount} (h : Tracked past accounts i tx)
    (hs : tx.state.isFinal = false) (hordered : accounts.Ordered) :
    tx.Stuck accounts ∧
        Store.distribute tx.delivery accounts = (.error .noSuchMailbox, accounts) ∨
      ¬ tx.Stuck accounts ∧ ∃ after, Store.distribute tx.delivery accounts = (.ok (), after) := by
  have hp := h.pending hs
  have hexist : ∀ r ∈ tx.delivery.rcpts, accounts.contains r.1 = true := fun r m =>
    h.exist r.1 ((tx.mem_accounts r.1).mp ((hp.mem_accounts r.1).mpr (List.mem_map_of_mem m)))
  cases hstate : tx.state with
  | created =>
      refine .inr ⟨fun hstuck => ?_, accounts, Store.distribute_of_none (hp.created hstate) _⟩
      cases hstate.symm.trans hstuck.state
  | committed | aborted =>
      rw [hstate] at hs
      cases hs
  | bodyDeposited =>
      obtain ⟨hspecial, header, kept, -, hdeposit⟩ := hp.deposited hstate
      by_cases hq : tx.envelope.quarantine = true
      · have hjunk : tx.delivery.special? ≠ none := by
          rw [hspecial, Transaction.junk?, if_pos hq]
          exact Option.some_ne_none _
        exact .inr ⟨fun hstuck => Bool.noConfusion (hq.symm.trans hstuck.quarantine),
          Store.exists_distribute_eq_ok hordered hexist fun hnone => absurd hnone hjunk⟩
      · by_cases hall : ∀ r ∈ tx.delivery.rcpts, Store.hasInbox accounts r.1 = true
        · refine .inr ⟨fun hstuck => ?_,
            Store.exists_distribute_eq_ok hordered hexist fun _ => hall⟩
          obtain ⟨name, hname, hinbox⟩ := hstuck.account
          obtain ⟨r, hr, rfl⟩ := List.mem_map.mp ((hp.mem_accounts name).mp hname)
          exact Bool.noConfusion ((hall r hr).symm.trans hinbox)
        · have hnone : tx.delivery.special? = none := by
            rw [hspecial, Transaction.junk?, if_neg hq]
          have hmissing : ¬ (tx.delivery.rcpts.all fun r => Store.hasInbox accounts r.1) = true :=
            fun h => hall (List.all_eq_true.mp h)
          obtain ⟨r, hr, hinbox⟩ := List.all_eq_false.mp (Bool.eq_false_iff.mpr hmissing)
          rw [Store.distribute, hdeposit, hnone]
          dsimp only
          rw [Store.targets_none_eq hordered hexist, if_neg hmissing]
          exact .inl ⟨⟨Bool.eq_false_iff.mpr hq, hstate, r.1,
            (hp.mem_accounts r.1).mpr (List.mem_map_of_mem hr), Bool.eq_false_iff.mpr hinbox⟩, rfl⟩

/-- **A commit** of a stuck transaction leaves the shared store as it is, and any other one
succeeds. -/
theorem Consistent.perform_commit (h : Consistent past w) (hordered : w.store.accounts.Ordered)
    (htx : w.transactions[i]? = some tx) (hs : tx.state.isFinal = false) :
    tx.Stuck w.store.accounts ∧ w.perform (.call i .commit) = (w, false) ∨
      ¬ tx.Stuck w.store.accounts ∧ (w.perform (.call i .commit)).2 = true := by
  have hallowed : tx.state ∈ [TransactionState.created, .bodyDeposited] := by
    revert hs
    cases tx.state <;> decide
  have e := Transaction.commit_store w.store tx hallowed
  rcases (h.tracked i tx htx).distribute_eq hs hordered with ⟨hstuck, hd⟩ | ⟨hfree, after, hd⟩
  · rw [hd] at e
    refine .inl ⟨hstuck, ?_⟩
    rw [SharedStore.perform_call .commit htx e]
    obtain ⟨hi, rfl⟩ := List.getElem?_eq_some_iff.mp htx
    rw [List.set_getElem_self]
    rfl
  · rw [hd] at e
    refine .inr ⟨hfree, ?_⟩
    rw [SharedStore.perform_call .commit htx e]
    rfl

/-! ### Until the commit is made again -/

/-- Whether a request may end the transaction that was opened as number `i`. -/
def StoreRequest.ends (i : Nat) : StoreRequest → Bool
  | call j .commit | call j .abort => j == i
  | _ => false

namespace SharedStore

theorem transactions_administer (change : Except StoreFault Store) :
    (w.administer change).1.transactions = w.transactions := by
  cases change <;> rfl

/-- A deposited transaction stays as it is until it is ended. -/
theorem transactions_perform (htx : w.transactions[i]? = some tx)
    (hs : tx.state = .bodyDeposited) {request : StoreRequest} (hr : request.ends i = false) :
    (w.perform request).1.transactions[i]? = some tx := by
  cases request with
  | createUser name password => exact htx
  | createMailbox name mailbox => rwa [perform, transactions_administer]
  | deleteMailbox name mailbox => rwa [perform, transactions_administer]
  | getOrCreateUser name => exact htx
  | start rules envelope sender =>
      rw [perform_start]
      exact List.getElem?_append_left (List.getElem?_eq_some_iff.mp htx).1 ▸ htx
  | host host => exact htx
  | call j call =>
      by_cases hj : j = i
      · subst hj
        have hrefused : tx.state ∉ call.allowedIn := by
          rw [hs]
          cases call with
          | addRcpt rcpt | body header content => simp [TransactionCall.allowedIn]
          | abort | commit => simp [StoreRequest.ends] at hr
        rwa [perform_call_of_notAllowed htx hrefused]
      · rwa [transactions_call_of_ne hj]

theorem transactions_run (htx : w.transactions[i]? = some tx) (hs : tx.state = .bodyDeposited)
    {requests : List StoreRequest} (hr : ∀ request ∈ requests, request.ends i = false) :
    (w.run requests).transactions[i]? = some tx := by
  induction requests generalizing w with
  | nil => exact htx
  | cons request requests ih =>
      exact ih (transactions_perform htx hs (hr request List.mem_cons_self))
        fun r m => hr r (List.mem_cons_of_mem request m)

theorem run_append (requests more : List StoreRequest) :
    w.run (requests ++ more) = (w.run requests).run more :=
  List.foldl_append

theorem moments_append (requests more : List StoreRequest) :
    w.moments (requests ++ more) = w.moments requests ++ (w.run requests).moments more := by
  induction requests generalizing w with
  | nil => rfl
  | cons request requests ih => exact congrArg (⟨w, request⟩ :: ·) ih

end SharedStore

/-- **A failed commit is atomic and can be made again.**  Whatever was asked of a new store: a
commit of an unfinished transaction fails exactly if the transaction is stuck; it leaves the shared
store as it was; and after any further requests that do not end the transaction, once all of its
accounts have an inbox, the commit succeeds and delivers. -/
theorem failed_commit (options : StoreOptions) (host : Host) (requests : List StoreRequest)
    {i : Nat} {tx : Transaction StoreDelivery}
    (htx : ((SharedStore.opened options host).run requests).transactions[i]? = some tx)
    (hs : tx.state.isFinal = false) :
    let opened := SharedStore.opened options host
    let now : Moment := ⟨opened.run requests, .call i .commit⟩
    (now.succeeded = false ↔ tx.Stuck now.before.store.accounts) ∧
    (now.succeeded = false → now.after = now.before ∧
      ∀ more : List StoreRequest, (∀ request ∈ more, request.ends i = false) →
        let all := requests ++ now.request :: more
        let again : Moment := ⟨opened.run all, .call i .commit⟩
        again.before.transactions[i]? = some tx ∧
        ((∀ name ∈ tx.accounts, Store.hasInbox again.before.store.accounts name = true) →
          again.succeeded = true ∧
          Delivered (opened.moments all) i tx again.before.store.accounts
            again.after.store.accounts)) := by
  intro opened now
  have h : Consistent (opened.moments requests) now.before :=
    (consistent_opened options host).run requests
  have hordered : ∀ requests, (opened.run requests).store.accounts.Ordered := fun requests =>
    (SharedStore.ordered_opened_run options host requests).1
  rcases h.perform_commit (hordered requests) htx hs with ⟨hstuck, e⟩ | ⟨hfree, hok⟩
  · refine ⟨iff_of_true (congrArg Prod.snd e) hstuck, fun _ => ?_⟩
    refine ⟨congrArg Prod.fst e, ?_⟩
    intro more hmore all again
    have hbefore : again.before = now.before.run more := by
      show opened.run (requests ++ now.request :: more) = _
      rw [SharedStore.run_append]
      exact congrArg (fun step : SharedStore × Bool => step.1.run more) e
    have htx' : again.before.transactions[i]? = some tx := by
      rw [hbefore]
      exact SharedStore.transactions_run htx hstuck.state hmore
    refine ⟨htx', fun hinbox => ?_⟩
    have h' : Consistent (opened.moments all) again.before :=
      (consistent_opened options host).run all
    rcases h'.perform_commit (hordered all) htx' hs with ⟨hstuck', -⟩ | ⟨-, hok⟩
    · obtain ⟨name, hname, hnone⟩ := hstuck'.account
      exact Bool.noConfusion ((hinbox name hname).symm.trans hnone)
    · exact ⟨hok, (h'.committed htx' hok).delivered hstuck.state⟩
  · have hne : ¬ now.succeeded = false := fun hf => Bool.noConfusion (hok.symm.trans hf)
    exact ⟨iff_of_false hne hfree, fun hf => absurd hf hne⟩

/-- An inbox is deleted under a transaction with two accounts, and made again. -/
theorem failed_commit_bob :
    let opened := SharedStore.opened {} {}
    let requests : List StoreRequest := [.createUser "alice" "a", .createUser "bob" "b",
      .start {} ⟨"1", "x@example.org", false⟩ "x@example.org",
      .call 0 (.addRcpt "alice@example.org"), .call 0 (.addRcpt "bob"),
      .call 0 (.body {} (.memory [1])), .deleteMailbox "bob" inbox]
    let now : Moment := ⟨opened.run requests, .call 0 .commit⟩
    let all := requests ++ now.request ::
      [.call 0 (.addRcpt "carol"), .createUser "carol" "c", .createMailbox "bob" inbox]
    let again : Moment := ⟨opened.run all, .call 0 .commit⟩
    ∃ tx, now.before.transactions[0]? = some tx ∧ tx.state.isFinal = false ∧
      now.succeeded = false ∧ tx.Stuck now.before.store.accounts ∧ now.after = now.before ∧
      (∀ name ∈ tx.accounts, Store.hasInbox again.before.store.accounts name = true) ∧
      again.succeeded = true ∧
      Delivered (opened.moments all) 0 tx again.before.store.accounts
        again.after.store.accounts := by
  intro opened requests now all again
  have hopen : (now.before.transactions[0]?.any fun tx => !tx.state.isFinal &&
      tx.added.all fun name => Store.hasInbox again.before.store.accounts name) = true := by
    decide +kernel
  have hfails : now.succeeded = false := by decide +kernel
  -- from here on the requests need not be looked at
  clear_value requests
  obtain ⟨tx, htx, hboth⟩ := (Option.any_eq_true _ _).mp hopen
  obtain ⟨hs, hall⟩ := Bool.and_eq_true_iff.mp hboth
  have hs : tx.state.isFinal = false := by simpa using hs
  have hinbox : ∀ name ∈ tx.accounts,
      Store.hasInbox again.before.store.accounts name = true := fun name m =>
    List.all_eq_true.mp hall name ((tx.mem_accounts name).mp m)
  obtain ⟨hiff, hfailed⟩ := failed_commit {} {} requests htx hs
  obtain ⟨hsame, hagain⟩ := hfailed hfails
  obtain ⟨-, hdelivers⟩ := hagain
    [.call 0 (.addRcpt "carol"), .createUser "carol" "c", .createMailbox "bob" inbox]
    (by simp [StoreRequest.ends])
  exact ⟨tx, htx, hs, hfails, hiff.mp hfails, hsame, hinbox, hdelivers hinbox⟩

end Mailroom
