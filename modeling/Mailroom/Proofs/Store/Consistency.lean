import Mailroom.Proofs.Delivery.Protocol
import Mailroom.Proofs.Store.AccountStep
import Mailroom.Proofs.Store.Transactions

/-! # What holds in a shared store at any time

The invariant of a shared store (`Consistent`): an unfinished transaction and its open delivery name
the same accounts, all of them exist, and what the delivery holds was asked for at some moment of
the past.  It carries what a commit does (`Tracked.delivered`, `Tracked.committed`). -/

namespace Mailroom

variable {past : List Moment} {w : SharedStore}

/-! ### The invariant -/

/-- A transaction that is not over yet, with the moments that brought it where it is. -/
structure Pending (past : List Moment) (i : Nat) (tx : Transaction StoreDelivery) : Prop where
  /-- The open delivery has the accounts of the transaction, in the order of adding. -/
  rcpts : tx.delivery.rcpts.map Prod.fst = tx.added.reverse
  /-- Each copy gets a field for the recipient that brought its account in. -/
  fields : ∀ r ∈ tx.delivery.rcpts, ∃ rcpt, (∃ m ∈ past, m.Adds i rcpt r.1) ∧
    r.2 = ⟨[deliveredTo rcpt]⟩
  special : tx.delivery.special? = none ∨ tx.delivery.special? = tx.junk?
  created : tx.state = .created → tx.delivery.deposit? = none
  deposited : tx.state = .bodyDeposited → tx.delivery.special? = tx.junk? ∧
    ∃ header kept, (∃ m ∈ past, m.Deposits i header kept) ∧
      tx.delivery.deposit? = some (header.addField (returnPath tx.sender), kept)

/-- What holds of the transaction that was opened as number `i`. -/
structure Tracked (past : List Moment) (accounts : NameMap StoreAccount) (i : Nat)
    (tx : Transaction StoreDelivery) : Prop where
  opened : ∃ m ∈ past, m.Opens i tx
  nodup : tx.added.Nodup
  exist : ∀ name ∈ tx.added, accounts.contains name = true
  pending : tx.state.isFinal = false → Pending past i tx

/-- Whether a body was deposited at a moment. -/
def Moment.isDeposit (m : Moment) : Bool := m.request.isBody && m.succeeded

/-- **What holds in a shared store at any time.** -/
structure Consistent (past : List Moment) (w : SharedStore) : Prop where
  ordered : Store.AllOrdered w.store.accounts
  tracked : ∀ i tx, w.transactions[i]? = some tx → Tracked past w.store.accounts i tx
  deposits : w.store.deposits = past.countP Moment.isDeposit
  commits : w.store.commits = w.transactions.countP (·.state == .committed)

theorem consistent_opened (options : StoreOptions) (host : Host) :
    Consistent [] (SharedStore.opened options host) where
  ordered := fun name a h => by cases h
  tracked := fun i tx h => by cases h
  deposits := rfl
  commits := rfl

theorem pending_opened (past : List Moment) (i : Nat) (rules : DeliveryRules) (envelope : Envelope)
    (sender : String) :
    Pending past i (Transaction.opened rules envelope sender ({} : StoreDelivery)) where
  rcpts := rfl
  fields := fun r hr => by cases hr
  special := .inl rfl
  created := fun _ => rfl
  deposited := fun hs => by cases hs

/-! ### Time goes by -/

variable {accounts after : NameMap StoreAccount} {i : Nat} {tx : Transaction StoreDelivery}

theorem Pending.later (h : Pending past i tx) (now : Moment) : Pending (past ++ [now]) i tx where
  rcpts := h.rcpts
  fields := fun r hr => by
    obtain ⟨rcpt, ⟨m, hm, hadds⟩, e⟩ := h.fields r hr
    exact ⟨rcpt, ⟨m, List.mem_append_left _ hm, hadds⟩, e⟩
  special := h.special
  created := h.created
  deposited := fun hs => by
    obtain ⟨hspecial, header, kept, ⟨m, hm, hdeposits⟩, e⟩ := h.deposited hs
    exact ⟨hspecial, header, kept, ⟨m, List.mem_append_left _ hm, hdeposits⟩, e⟩

/-- A transaction was opened by its rules, its envelope and its sender, which never change. -/
theorem Tracked.opened_later {tx' : Transaction StoreDelivery} (h : Tracked past accounts i tx)
    (hrules : tx'.rules = tx.rules) (henvelope : tx'.envelope = tx.envelope)
    (hsender : tx'.sender = tx.sender) (now : Moment) : ∃ m ∈ past ++ [now], m.Opens i tx' := by
  obtain ⟨m, hm, hlength, hrequest⟩ := h.opened
  exact ⟨m, List.mem_append_left _ hm, hlength, by rw [hrequest, hrules, henvelope, hsender]⟩

/-- A transaction that nothing happens to stays tracked, as accounts do not disappear. -/
theorem Tracked.later (h : Tracked past accounts i tx)
    (hexist : ∀ name, accounts.contains name = true → after.contains name = true) (now : Moment) :
    Tracked (past ++ [now]) after i tx where
  opened := h.opened_later rfl rfl rfl now
  nodup := h.nodup
  exist := fun name hname => hexist name (h.exist name hname)
  pending := fun hs => (h.pending hs).later now

/-! ### What becomes of a transaction -/

/-- A recipient brings an account in that exists and is new. -/
theorem Tracked.withRcpt (h : Tracked past accounts i tx) (hs : tx.state = .created)
    {rcpt name : String} {now : Moment} (hadds : now.Adds i rcpt name) (hnew : name ∉ tx.added)
    (hexists : accounts.contains name = true) :
    Tracked (past ++ [now]) accounts i (tx.withRcpt rcpt name) := by
  have hp := h.pending (by rw [hs]; rfl)
  have hrcpts : (tx.withRcpt rcpt name).delivery.rcpts.map Prod.fst =
      (name :: tx.added).reverse := by
    show (tx.delivery.rcpts ++ [_]).map Prod.fst = _
    rw [List.map_append, hp.rcpts, List.reverse_cons]
    rfl
  have hfields : ∀ r ∈ (tx.withRcpt rcpt name).delivery.rcpts,
      ∃ rcpt, (∃ m ∈ past ++ [now], m.Adds i rcpt r.1) ∧ r.2 = ⟨[deliveredTo rcpt]⟩ := by
    intro r m
    rcases List.mem_append.mp m with m | m
    · exact (hp.later now).fields r m
    · obtain rfl := List.mem_singleton.mp m
      exact ⟨rcpt, ⟨now, List.mem_append_right _ List.mem_cons_self, hadds⟩, rfl⟩
  have hdeposited : tx.state ≠ .bodyDeposited := by
    rw [hs]
    decide
  refine ⟨h.opened_later rfl rfl rfl now, List.nodup_cons.mpr ⟨hnew, h.nodup⟩, ?_, fun _ => ?_⟩
  · intro other m
    rcases List.mem_cons.mp m with rfl | m
    · exact hexists
    · exact h.exist other m
  · exact ⟨hrcpts, hfields, hp.special, hp.created, fun hd => absurd hd hdeposited⟩

/-- Once a body was sent, the message goes where the envelope sends it. -/
theorem Pending.special_withJunk (h : Pending past i tx) :
    tx.withJunk.delivery.special? = tx.junk? := by
  show (tx.junk? <|> tx.delivery.special?) = tx.junk?
  cases hj : tx.junk? with
  | some special => rfl
  | none => exact h.special.elim id fun e => e.trans hj

/-- A body was refused. -/
theorem Tracked.withJunk (h : Tracked past accounts i tx) (hs : tx.state = .created)
    (now : Moment) : Tracked (past ++ [now]) accounts i tx.withJunk := by
  have hp := h.pending (by rw [hs]; rfl)
  have hdeposited : tx.state ≠ .bodyDeposited := by
    rw [hs]
    decide
  refine ⟨h.opened_later rfl rfl rfl now, h.nodup, h.exist, fun _ => ?_⟩
  exact ⟨hp.rcpts, (hp.later now).fields, .inr hp.special_withJunk, hp.created,
    fun hd => absurd hd hdeposited⟩

/-- A body was deposited. -/
theorem Tracked.withDeposit (h : Tracked past accounts i tx) (hs : tx.state = .created)
    {header : Header} {kept : Body} {now : Moment} (hnow : now.Deposits i header kept)
    (file? : Option String) :
    Tracked (past ++ [now]) accounts i (tx.withDeposit header kept file?) := by
  have hp := h.pending (by rw [hs]; rfl)
  refine ⟨h.opened_later rfl rfl rfl now, h.nodup, h.exist, fun _ => ?_⟩
  refine ⟨hp.rcpts, (hp.later now).fields, .inr hp.special_withJunk, nofun, fun _ => ?_⟩
  exact ⟨hp.special_withJunk, header, kept,
    ⟨now, List.mem_append_right _ List.mem_cons_self, hnow⟩, rfl⟩

/-- A transaction is over. -/
theorem Tracked.ended (h : Tracked past accounts i tx)
    (hexist : ∀ name, accounts.contains name = true → after.contains name = true)
    (delivery : StoreDelivery) {state : TransactionState} (hfinal : state.isFinal = true)
    (now : Moment) : Tracked (past ++ [now]) after i { tx with delivery, state } := by
  refine ⟨h.opened_later rfl rfl rfl now, h.nodup, fun name m => hexist name (h.exist name m), ?_⟩
  intro hunfinished
  rw [hfinal] at hunfinished
  cases hunfinished

/-! ### The store between calls -/

/-- A moment that leaves the transactions alone, deposits nothing and commits nothing. -/
theorem Consistent.later (h : Consistent past w) {store : Store} {now : Moment}
    (hnow : now.isDeposit = false) (hordered : Store.AllOrdered store.accounts)
    (hexist : ∀ name, w.store.accounts.contains name = true → store.accounts.contains name = true)
    (hdeposits : store.deposits = w.store.deposits) (hcommits : store.commits = w.store.commits) :
    Consistent (past ++ [now]) { w with store } where
  ordered := hordered
  tracked := fun i tx htx => (h.tracked i tx htx).later hexist now
  deposits := by
    rw [List.countP_append, List.countP_singleton, hnow, ← h.deposits]
    exact hdeposits
  commits := hcommits.trans h.commits

/-! ### Commits -/

/-- **What a commit of a deposited transaction does:** each of its accounts receives one copy of the
message that was deposited, with a field for the recipient that brought the account in on top of one
for the sender (`Header.toBytes_traced`), and no other account changes. -/
structure Delivered (past : List Moment) (i : Nat) (tx : Transaction StoreDelivery)
    (accounts after : NameMap StoreAccount) : Prop where
  copies : ∃ header kept, (∃ m ∈ past, m.Deposits i header kept) ∧
    ∀ name ∈ tx.accounts, ∃ rcpt mailbox a b, (∃ m ∈ past, m.Adds i rcpt name) ∧
      accounts.get? name = some a ∧ after.get? name = some b ∧
      a.Receives tx.junk? ⟨⟨deliveredTo rcpt :: returnPath tx.sender :: header.fields⟩, kept⟩
        mailbox b
  others : ∀ name, name ∉ tx.accounts → after.get? name = accounts.get? name

theorem Pending.mem_accounts (h : Pending past i tx) (name : String) :
    name ∈ tx.accounts ↔ name ∈ tx.delivery.rcpts.map Prod.fst := by
  rw [h.rcpts, List.mem_reverse]
  exact tx.mem_accounts name

theorem Tracked.nodup_rcpts (h : Tracked past accounts i tx) (hs : tx.state.isFinal = false) :
    (tx.delivery.rcpts.map Prod.fst).Nodup := by
  rw [(h.pending hs).rcpts]
  exact (List.reverse_perm _).nodup_iff.mpr h.nodup

/-- A commit that fails changes no account. -/
theorem Tracked.get?_of_distribute_error (h : Tracked past accounts i tx)
    (hs : tx.state.isFinal = false) {fault : StoreFault}
    (hd : Store.distribute tx.delivery accounts = (.error fault, after)) (name : String) :
    after.get? name = accounts.get? name := by
  refine Store.get?_of_distribute_error ?_ hd name
  intro r hr
  have hname : r.1 ∈ tx.added.reverse := (h.pending hs).rcpts ▸ List.mem_map_of_mem hr
  exact h.exist r.1 (List.mem_reverse.mp hname)

/-- A commit that succeeds delivers what was deposited. -/
theorem Tracked.delivered (h : Tracked past accounts i tx) (hs : tx.state = .bodyDeposited)
    (hordered : Store.AllOrdered accounts)
    (hd : Store.distribute tx.delivery accounts = (.ok (), after)) :
    Delivered past i tx accounts after := by
  have hunfinished : tx.state.isFinal = false := by rw [hs]; rfl
  have hp := h.pending hunfinished
  obtain ⟨hspecial, header, kept, hdeposits, hdeposit⟩ := hp.deposited hs
  obtain ⟨hcopies, hothers⟩ :=
    Store.receives_of_distribute hdeposit hordered (h.nodup_rcpts hunfinished) hd
  refine ⟨⟨header, kept, hdeposits, ?_⟩, ?_⟩
  · intro name hname
    obtain ⟨r, hr, rfl⟩ := List.mem_map.mp ((hp.mem_accounts name).mp hname)
    obtain ⟨a, b, mailbox, ha, hb, hreceives⟩ := hcopies r hr
    obtain ⟨rcpt, hadds, hfields⟩ := hp.fields r hr
    rw [hspecial, hfields] at hreceives
    exact ⟨rcpt, mailbox, a, b, hadds, ha, hb, hreceives⟩
  · intro name hname
    exact hothers name fun m => hname ((hp.mem_accounts name).mpr m)

/-- What a commit that succeeds does: it delivers what was deposited, if anything was. -/
structure Committed (past : List Moment) (i : Nat) (tx : Transaction StoreDelivery)
    (accounts after : NameMap StoreAccount) : Prop where
  delivered : tx.state = .bodyDeposited → Delivered past i tx accounts after
  unchanged : tx.state ≠ .bodyDeposited → ∀ name, after.get? name = accounts.get? name

theorem Tracked.committed (h : Tracked past accounts i tx)
    (hs : tx.state ∈ [TransactionState.created, .bodyDeposited])
    (hordered : Store.AllOrdered accounts)
    (hd : Store.distribute tx.delivery accounts = (.ok (), after)) :
    Committed past i tx accounts after where
  delivered := fun hbody => h.delivered hbody hordered hd
  unchanged := fun hbody name => by
    have hcreated : tx.state = .created := by simpa [hbody] using hs
    rw [Store.distribute_of_none ((h.pending (tx.unfinished_of_mem hs)).created hcreated)] at hd
    cases hd
    rfl

/-- A commit that succeeds brings a copy to an account or leaves it alone. -/
theorem Committed.accountStep (h : Committed past i tx accounts after) (name : String) :
    AccountStep name (.call i .commit) true (accounts.get? name) (after.get? name) := by
  by_cases hbody : tx.state = .bodyDeposited
  · obtain ⟨⟨header, kept, -, hcopies⟩, hothers⟩ := h.delivered hbody
    by_cases hname : name ∈ tx.accounts
    · obtain ⟨rcpt, mailbox, a, b, -, ha, hb, hreceives⟩ := hcopies name hname
      rw [ha, hb]
      exact .receive hreceives
    · rw [hothers name hname]
      exact .same _ _ _
  · rw [h.unchanged hbody name]
    exact .same _ _ _

end Mailroom
