import Mailroom.Proofs.Delivery.Outcome
import Mailroom.Proofs.Delivery.TraceFields
import Mailroom.Proofs.Host.Files
import Mailroom.Proofs.Store.Distribution

/-! # What a transaction does to the store in memory

One lemma for each call of a transaction.  Adding a recipient only reads the store, depositing a
body and aborting change nothing but the files of the host and a counter, and a commit distributes
what was deposited.  Whether a recipient or a body is refused, and why, can be told from the store
alone (`Store.refusal?`, `Store.depositFault?`). -/

namespace Mailroom

/-! ### Bodies -/

namespace Store

/-- A body that is kept has the content that was to be kept. -/
theorem read_keepBody {options : StoreOptions} {content : Bytes} {host after : Host} {kept : Body}
    {file? : Option String} (h : keepBody options content host = (.ok (kept, file?), after)) :
    kept.read after.disk = .ok content := by
  unfold keepBody at h
  cases hd : options.bodyDirectory? with
  | none =>
      rw [hd] at h
      cases h
      rfl
  | some directory =>
      rw [hd] at h
      unfold spool at h
      dsimp only at h
      generalize host.draw = drawn at h
      rcases hc : Body.create drawn.2.disk (Path.join directory (uuidText drawn.1)) content with
        ⟨fault | body, disk⟩
      · rw [hc] at h
        cases h
      · rw [hc] at h
        cases h
        exact Body.read_create hc

/-- A recipient is added only to an account that has an inbox. -/
theorem addRcpt_outcome (name : String) (fields : Header) (s : Store) (d : StoreDelivery) :
    (hasInbox s.accounts name = false ∧
      ∃ fault ∈ [StoreFault.userDoesntExist, .noSuchMailbox],
        (addRcpt name fields (s, d)).outcome = (.error fault, s, d)) ∨
    hasInbox s.accounts name = true ∧
      (addRcpt name fields (s, d)).outcome =
        (.ok (), s, { d with rcpts := d.rcpts ++ [(name, fields)] }) := by
  unfold addRcpt hasInbox
  dsimp only
  cases s.accounts.get? name with
  | none => exact .inl ⟨rfl, _, List.mem_cons_self, rfl⟩
  | some a =>
      dsimp only
      split
      · next hc => exact .inr ⟨hc, rfl⟩
      · next hc =>
        exact .inl ⟨Bool.eq_false_iff.mpr hc, _, List.mem_cons_of_mem _ List.mem_cons_self, rfl⟩

/-- Why a body cannot be deposited, if it cannot. -/
def depositFault? (s : Store) (length : Nat) (body : Body) : Option StoreFault :=
  match s.options.maxBytes?.filter fun max => max.toNat < length with
  | some max => some (tooLong length max.toNat)
  | none =>
    match body.read s.host.disk with
    | .error fault => some (.io fault)
    | .ok content =>
      match (keepBody s.options content s.host).1 with
      | .error fault => some (.io fault)
      | .ok _ => none

/-- A deposit fails and leaves at most files behind, or it keeps what the body holds. -/
theorem deposit_outcome (header : Header) (length : Nat) (body : Body) (s : Store)
    (d : StoreDelivery) :
    (∃ fault host, s.depositFault? length body = some fault ∧
      (deposit header length body (s, d)).outcome = (.error fault, { s with host }, d)) ∨
    s.depositFault? length body = none ∧ ∃ content kept file? host,
      body.read s.host.disk = .ok content ∧ kept.read host.disk = .ok content ∧
      (deposit header length body (s, d)).outcome =
        (.ok (), { s with host, deposits := s.deposits + 1 },
          { d with deposit? := some (header, kept), file? }) := by
  unfold deposit depositFault?
  dsimp only
  cases s.options.maxBytes?.filter fun max => max.toNat < length with
  | some max => exact .inl ⟨_, s.host, rfl, rfl⟩
  | none =>
      cases hb : body.read s.host.disk with
      | error fault => exact .inl ⟨_, s.host, rfl, rfl⟩
      | ok content =>
          dsimp only
          cases hk : keepBody s.options content s.host with
          | mk answer host =>
              cases answer with
              | error fault => exact .inl ⟨_, host, rfl, rfl⟩
              | ok kept =>
                  exact .inr ⟨rfl, content, kept.1, _, host, rfl, read_keepBody hk, rfl⟩

/-- Whatever an abort answers, nothing is left of the delivery. -/
theorem abort_outcome (s : Store) (d : StoreDelivery) :
    ∃ answer host, (abort (s, d)).outcome = (answer, { s with host }, {}) := by
  unfold abort
  dsimp only
  split
  · exact ⟨_, s.host, rfl⟩
  · split
    · next disk _ => exact ⟨_, { s.host with disk }, rfl⟩
    · exact ⟨_, s.host, rfl⟩
    · exact ⟨_, s.host, rfl⟩

/-- Why a recipient is refused, if it is: its address leads to no account, or the account does not
exist or has no inbox. -/
def refusal? (s : Store) (perDomain : Bool) (rcpt : String) : Option Failure :=
  match Account.ofAddress rcpt perDomain with
  | .error fault => some fault.failure
  | .ok account =>
    if hasInbox s.accounts account.name then none else some (.recipient .unknownUser)

end Store

/-! ### Calls -/

namespace Transaction

variable (s : Store) (tx : Transaction StoreDelivery)

/-- Where the message goes if it is quarantined. -/
def junk? : Option (String × String) :=
  if tx.envelope.quarantine then some (junkUse, tx.rules.junkMailbox) else none

/-- The transaction with one more account, brought in by a recipient. -/
def withRcpt (rcpt name : String) : Transaction StoreDelivery :=
  { tx with
    delivery := { tx.delivery with
      rcpts := tx.delivery.rcpts ++ [(name, ⟨[deliveredTo rcpt]⟩)] }
    added := name :: tx.added }

/-- A recipient is refused or known already, or an account that has an inbox is added. -/
theorem addRcpt_store (rcpt : String) (h : tx.state = .created) :
    (∃ failure, s.refusal? tx.rules.perDomain rcpt = some failure ∧
      (addRcpt Store.backend rcpt (s, tx)).outcome = (.error failure, s, tx)) ∨
    (∃ name, Account.ofAddress rcpt tx.rules.perDomain = .ok ⟨name⟩ ∧ name ∈ tx.added ∧
      (addRcpt Store.backend rcpt (s, tx)).outcome = (.ok (), s, tx)) ∨
    ∃ name, Account.ofAddress rcpt tx.rules.perDomain = .ok ⟨name⟩ ∧ name ∉ tx.added ∧
      Store.hasInbox s.accounts name = true ∧
      (addRcpt Store.backend rcpt (s, tx)).outcome = (.ok (), s, tx.withRcpt rcpt name) := by
  rw [addRcpt_outcome _ _ _ _ h, Store.refusal?]
  cases Account.ofAddress rcpt tx.rules.perDomain with
  | error fault => exact .inl ⟨_, rfl, rfl⟩
  | ok account =>
      by_cases hknown : account.name ∈ tx.added
      · dsimp only
        rw [if_pos hknown]
        exact .inr (.inl ⟨account.name, rfl, hknown, rfl⟩)
      · dsimp only
        rw [if_neg hknown, addAccount_outcome]
        unfold Store.backend
        dsimp only
        rcases Store.addRcpt_outcome account.name ⟨[deliveredTo rcpt]⟩ s tx.delivery with
          ⟨hnone, fault, hfault, e⟩ | ⟨hinbox, e⟩
        · obtain ⟨ha, hs⟩ := Prod.mk.inj e
          have hrejection : rejection fault = .recipient .unknownUser := by
            simp only [List.mem_cons, List.not_mem_nil, or_false] at hfault
            rcases hfault with rfl | rfl <;> rfl
          rw [ha, hs, hnone]
          exact .inl ⟨_, rfl, by rw [← hrejection]; rfl⟩
        · obtain ⟨ha, hs⟩ := Prod.mk.inj e
          rw [ha, hs]
          exact .inr (.inr ⟨account.name, rfl, hknown, hinbox, rfl⟩)

/-- The transaction with its message sent to the junk mailbox if it is quarantined. -/
def withJunk : Transaction StoreDelivery :=
  { tx with delivery := { tx.delivery with special? := tx.junk? <|> tx.delivery.special? } }

/-- The transaction with a message deposited. -/
def withDeposit (header : Header) (kept : Body) (file? : Option String) :
    Transaction StoreDelivery :=
  { tx.withJunk with
    delivery := { tx.withJunk.delivery with
      deposit? := some (header.addField (returnPath tx.sender), kept), file? }
    state := .bodyDeposited }

/-- A body is deposited once the special mailbox is chosen. -/
theorem body_outcome_withJunk (header : Header) (content : Body) (h : tx.state = .created) :
    (body Store.backend header content (s, tx)).outcome =
      (depositBody Store.backend header content tx (s, tx.withJunk)).outcome := by
  rw [body_outcome _ _ _ _ _ h]
  by_cases hq : tx.envelope.quarantine = true
  · have hj : tx.junk? = some (junkUse, tx.rules.junkMailbox) := if_pos hq
    rw [if_pos hq, withJunk, hj]
    rfl
  · have hj : tx.junk? = none := if_neg hq
    rw [if_neg hq, withJunk, hj]
    rfl

/-- A body is refused, or kept with the envelope sender on top of its header. -/
theorem body_store (header : Header) (content : Body) (h : tx.state = .created) :
    (∃ fault host, s.depositFault? content.length content = some fault ∧
      (body Store.backend header content (s, tx)).outcome =
        (.error (.backend fault), { s with host }, tx.withJunk)) ∨
    s.depositFault? content.length content = none ∧ ∃ bytes kept file? host,
      content.read s.host.disk = .ok bytes ∧ kept.read host.disk = .ok bytes ∧
      (body Store.backend header content (s, tx)).outcome =
        (.ok (), { s with host, deposits := s.deposits + 1 },
          tx.withDeposit header kept file?) := by
  rw [body_outcome_withJunk _ _ _ _ h, depositBody_outcome]
  rcases Store.deposit_outcome (header.addField (returnPath tx.sender)) content.length content s
      tx.withJunk.delivery with
    ⟨fault, host, hfault, e⟩ | ⟨hnone, bytes, kept, file?, host, hb, hk, e⟩
  · obtain ⟨ha, hs⟩ := Prod.mk.inj e
    refine .inl ⟨fault, host, hfault, ?_⟩
    unfold Store.backend
    dsimp only
    rw [ha, hs]
    rfl
  · obtain ⟨ha, hs⟩ := Prod.mk.inj e
    refine .inr ⟨hnone, bytes, kept, file?, host, hb, hk, ?_⟩
    unfold Store.backend
    dsimp only
    rw [ha, hs]
    rfl

/-- What an abort does to the delivery and the store. -/
theorem abort_of_outcome (h : tx.state ∈ [TransactionState.created, .bodyDeposited])
    {answer : Except StoreFault Unit} {s' : Store} {d : StoreDelivery}
    (e : (Store.abort (s, tx.delivery)).outcome = (answer, s', d)) :
    (abort Store.backend (s, tx)).outcome =
      (answer.mapError .backend, s', { tx with delivery := d, state := .aborted }) := by
  obtain ⟨ha, hs⟩ := Prod.mk.inj e
  rw [abort_outcome _ _ _ h]
  unfold Store.backend
  dsimp only
  rw [ha, hs]
  rfl

/-- An abort always ends the transaction. -/
theorem abort_store (h : tx.state ∈ [TransactionState.created, .bodyDeposited]) :
    ∃ answer host, (abort Store.backend (s, tx)).outcome =
      (answer, { s with host }, { tx with delivery := {}, state := .aborted }) := by
  obtain ⟨answer, host, e⟩ := Store.abort_outcome s tx.delivery
  exact ⟨_, host, tx.abort_of_outcome s h e⟩

/-- A commit distributes what was deposited; if that fails, the transaction stays as it was. -/
theorem commit_store (h : tx.state ∈ [TransactionState.created, .bodyDeposited]) :
    (commit Store.backend (s, tx)).outcome =
      match Store.distribute tx.delivery s.accounts with
      | (.error fault, accounts) => (.error (.backend fault), { s with accounts }, tx)
      | (.ok (), accounts) =>
        (.ok (), { s with accounts, commits := s.commits + 1 },
          { tx with
            delivery := { tx.delivery with rcpts := [], deposit? := none, file? := none }
            state := .committed }) := by
  rw [commit_outcome _ _ _ h]
  unfold Store.backend Store.commit
  dsimp only
  cases Store.distribute tx.delivery s.accounts with
  | mk answer accounts => cases answer <;> rfl

end Transaction

end Mailroom
