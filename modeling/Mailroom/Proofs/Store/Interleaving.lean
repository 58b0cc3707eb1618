import Mailroom.Proofs.Store.Requests

/-! # Mail in a shared store

In whatever order transactions and administrators use a store, mail arrives by commits only, and
each commit brings one copy to each of its accounts.  A run keeps the store consistent
(`Consistent.run`), and what the next request means to the mail is `MailSafe`; the main result is
`delivery_interleaving`. -/

namespace Mailroom

variable {past : List Moment} {w : SharedStore}

/-! ### Runs -/

/-- A run keeps the store consistent. -/
theorem Consistent.run (h : Consistent past w) (requests : List StoreRequest) :
    Consistent (past ++ w.moments requests) (w.run requests) := by
  induction requests generalizing past w with
  | nil =>
      rw [SharedStore.moments, List.append_nil]
      exact h
  | cons request requests ih =>
      have ih := ih (h.effect request).consistent
      rw [List.append_assoc] at ih
      exact ih

theorem Store.messages_eq (s : Store) (name mailbox : String) :
    s.messages name mailbox = StoreAccount.messagesOf (s.accounts.get? name) mailbox := by
  unfold messages mailbox? StoreAccount.messagesOf StoreAccount.messagesIn
  cases s.accounts.get? name <;> rfl

/-- What a moment means for the mail in a store with this past. -/
structure MailSafe (past : List Moment) (now : Moment) : Prop where
  /-- Nothing but a commit or an administrator changes an account, and nothing that fails. -/
  quiet : now.request.isQuiet = true ∨ now.succeeded = false → ∀ name,
    now.after.store.accounts.get? name = now.before.store.accounts.get? name
  /-- A commit delivers what was deposited. -/
  commit : ∀ i tx, now.request = .call i .commit → now.before.transactions[i]? = some tx →
    now.succeeded = true →
      Committed past i tx now.before.store.accounts now.after.store.accounts
  /-- Messages go only with their mailbox or their account. -/
  kept : ∀ name mailbox, now.request.removes name mailbox = false →
    now.before.store.messages name mailbox <+: now.after.store.messages name mailbox
  /-- Messages arrive only by a commit. -/
  arrives : now.request.isCommit = false → ∀ name mailbox,
    now.after.store.messages name mailbox <+: now.before.store.messages name mailbox

theorem Consistent.committed (h : Consistent past w) {i : Nat} {tx : Transaction StoreDelivery}
    (htx : w.transactions[i]? = some tx) (hok : (w.perform (.call i .commit)).2 = true) :
    Committed past i tx w.store.accounts (w.perform (.call i .commit)).1.store.accounts := by
  by_cases hs : tx.state ∈ TransactionCall.commit.allowedIn
  · obtain ⟨answer, s', tx', e, heffect⟩ := h.hasEffect htx hs
    rw [SharedStore.perform_call .commit htx e] at hok ⊢
    exact heffect.committed rfl hok
  · rw [SharedStore.perform_call_of_notAllowed htx hs] at hok
    cases hok

/-- A commit that succeeds is one of a transaction that was opened. -/
theorem Consistent.exists_committed (h : Consistent past w) {request : StoreRequest}
    (hc : request.isCommit = true) (hok : (w.perform request).2 = true) :
    ∃ i tx, request = .call i .commit ∧ w.transactions[i]? = some tx ∧
      Committed past i tx w.store.accounts (w.perform request).1.store.accounts := by
  match request, hc with
  | .call i .commit, _ =>
      cases htx : w.transactions[i]? with
      | none =>
          rw [SharedStore.perform_call_of_none htx] at hok
          cases hok
      | some tx => exact ⟨i, tx, rfl, htx, h.committed htx hok⟩

theorem Consistent.mailSafe (h : Consistent past w) (request : StoreRequest) :
    MailSafe past ⟨w, request⟩ where
  quiet := fun hq name => ((h.effect request).accounts name).eq_of_quiet hq
  commit := by
    rintro i tx rfl htx hok
    exact h.committed htx hok
  kept := fun name mailbox hr => by
    rw [Store.messages_eq, Store.messages_eq]
    exact ((h.effect request).accounts name).messagesOf_grows hr
  arrives := fun hc name mailbox => by
    rw [Store.messages_eq, Store.messages_eq]
    exact ((h.effect request).accounts name).messagesOf_shrinks hc mailbox

-- two deliveries in turns, one of them quarantined, while an inbox is deleted
example :
    let w := (SharedStore.opened {} {}).run [
      .createUser "alice" "a", .createUser "bob" "b",
      .start {} ⟨"1", "x@example.org", false⟩ "x@example.org",
      .start {} ⟨"2", "y@example.org", true⟩ "y@example.org",
      .call 0 (.addRcpt "alice@example.org"), .call 1 (.addRcpt "bob"), .call 1 (.addRcpt "Alice"),
      .call 1 (.body {} (.memory [2])), .call 0 (.body {} (.memory [1])),
      .deleteMailbox "bob" inbox, .call 1 .commit, .call 0 .commit]
    (w.store.messages "alice" inbox).map (·.body) = [.memory [1]] ∧
      (w.store.messages "alice" "Junk").map (·.body) = [.memory [2]] ∧
      (w.store.messages "bob" "Junk").map (·.body) = [.memory [2]] ∧
      w.store.deposits = 2 ∧ w.store.commits = 2 := by
  decide +kernel

end Mailroom
