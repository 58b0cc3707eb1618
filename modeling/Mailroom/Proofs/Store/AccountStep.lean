import Mailroom.Proofs.Store.Distribution
import Mailroom.Proofs.Store.Shared

/-! # What a request can do to an account

An `AccountStep` says everything that a request to a shared store can do to the account of one
name.  No account disappears (`AccountStep.isSome`); only replacing the account or deleting the
mailbox removes messages (`AccountStep.messagesOf_grows`), and only a commit brings any
(`AccountStep.messagesOf_shrinks`). -/

namespace Mailroom

/-! ### One account -/

namespace StoreAccount

/-- The messages in a mailbox of an account that may not exist. -/
def messagesOf (a? : Option StoreAccount) (mailbox : String) : List StoredMessage :=
  a?.elim [] (messagesIn · mailbox)

theorem messagesIn_new (password? : Option String) (mailbox : String) :
    (new password?).messagesIn mailbox = [] := by
  unfold messagesIn new
  rw [NameMap.get?_put]
  split <;> rfl

theorem messagesIn_ensureMailbox (a : StoreAccount) (name mailbox : String) :
    (a.ensureMailbox name).messagesIn mailbox = a.messagesIn mailbox := by
  unfold ensureMailbox
  split
  · rfl
  · next hnew =>
    unfold messagesIn
    rw [NameMap.get?_put]
    split
    · next e =>
      cases hm : a.mailboxes.get? mailbox with
      | none => rfl
      | some box => exact absurd (NameMap.contains_eq_true_iff.mpr ⟨box, e ▸ hm⟩) hnew
    · rfl

/-- The account without a mailbox. -/
def without (a : StoreAccount) (mailbox : String) : StoreAccount :=
  { a with mailboxes := a.mailboxes.erase mailbox }

theorem messagesIn_without (a : StoreAccount) (name mailbox : String) :
    (a.without name).messagesIn mailbox = if name = mailbox then [] else a.messagesIn mailbox := by
  unfold messagesIn without
  rw [NameMap.get?_erase]
  split <;> rfl

section receives

variable {special? : Option (String × String)} {a b : StoreAccount} {m : StoredMessage}
  {target : String}

/-- A copy goes to the end of its mailbox. -/
theorem Receives.messagesIn_target (h : a.Receives special? m target b) :
    b.messagesIn target = a.messagesIn target ++ [m] := by
  obtain ⟨box, hbox, hmessages, -⟩ := h.box
  rw [← hmessages, messagesIn, hbox]
  rfl

theorem Receives.messagesIn_other (h : a.Receives special? m target b) {mailbox : String}
    (hne : mailbox ≠ target) : b.messagesIn mailbox = a.messagesIn mailbox := by
  rw [messagesIn, messagesIn, h.others mailbox hne]

/-- A copy leaves the messages before it where they are. -/
theorem Receives.messagesIn_grows (h : a.Receives special? m target b) (mailbox : String) :
    a.messagesIn mailbox <+: b.messagesIn mailbox := by
  by_cases e : mailbox = target
  · rw [e, h.messagesIn_target]
    exact List.prefix_append _ _
  · exact h.messagesIn_other e ▸ List.prefix_refl _

end receives

end StoreAccount

/-- What a request can do to the account of a name.  The truth value says whether the request
succeeds; one that fails does nothing. -/
inductive AccountStep (name : String) :
    StoreRequest → Bool → Option StoreAccount → Option StoreAccount → Prop
  | same (request : StoreRequest) (ok : Bool) (a? : Option StoreAccount) :
      AccountStep name request ok a? a?
  | createUser (password : String) (a? : Option StoreAccount) :
      AccountStep name (.createUser name password) true a? (some (.new (some password)))
  | getOrCreateUser : AccountStep name (.getOrCreateUser name) true none (some (.new none))
  | createMailbox (mailbox : String) (a : StoreAccount) :
      AccountStep name (.createMailbox name mailbox) true (some a) (some (a.ensureMailbox mailbox))
  | deleteMailbox (mailbox : String) (a : StoreAccount) :
      AccountStep name (.deleteMailbox name mailbox) true (some a) (some (a.without mailbox))
  | receive {i : Nat} {special? : Option (String × String)} {a b : StoreAccount}
      {m : StoredMessage} {target : String} : a.Receives special? m target b →
        AccountStep name (.call i .commit) true (some a) (some b)

namespace AccountStep

open StoreAccount

variable {name : String} {request : StoreRequest} {ok : Bool} {a? b? : Option StoreAccount}

/-- No account disappears. -/
theorem isSome (h : AccountStep name request ok a? b?) (ha : a?.isSome = true) :
    b?.isSome = true := by
  cases h with
  | same => exact ha
  | _ => rfl

/-- A request that is not meant to change accounts, or that fails, changes none. -/
theorem eq_of_quiet (h : AccountStep name request ok a? b?)
    (hq : request.isQuiet = true ∨ ok = false) : b? = a? := by
  cases h with
  | same => rfl
  | _ =>
      rcases hq with hq | hq
      · cases hq
      · cases hq

/-- Messages stay where they are unless the request removes them. -/
theorem messagesOf_grows (h : AccountStep name request ok a? b?) {mailbox : String}
    (hr : request.removes name mailbox = false) :
    messagesOf a? mailbox <+: messagesOf b? mailbox := by
  cases h with
  | same => exact List.prefix_refl _
  | createUser password => simp [StoreRequest.removes] at hr
  | getOrCreateUser => exact List.nil_prefix
  | createMailbox other a =>
      exact ⟨[], (List.append_nil _).trans (messagesIn_ensureMailbox a other mailbox).symm⟩
  | deleteMailbox other a =>
      have hne : other ≠ mailbox := by simpa [StoreRequest.removes] using hr
      have hsame := (messagesIn_without a other mailbox).trans (if_neg hne)
      exact ⟨[], (List.append_nil _).trans hsame.symm⟩
  | receive hreceives => exact hreceives.messagesIn_grows mailbox

/-- No mail arrives except by a commit. -/
theorem messagesOf_shrinks (h : AccountStep name request ok a? b?)
    (hc : request.isCommit = false) (mailbox : String) :
    messagesOf b? mailbox <+: messagesOf a? mailbox := by
  cases h with
  | same => exact List.prefix_refl _
  | createUser password =>
      show (StoreAccount.new (some password)).messagesIn mailbox <+: _
      rw [messagesIn_new]
      exact List.nil_prefix
  | getOrCreateUser =>
      show (StoreAccount.new none).messagesIn mailbox <+: _
      rw [messagesIn_new]
      exact List.nil_prefix
  | createMailbox other a =>
      exact ⟨[], (List.append_nil _).trans (messagesIn_ensureMailbox a other mailbox)⟩
  | deleteMailbox other a =>
      show (a.without other).messagesIn mailbox <+: a.messagesIn mailbox
      rw [messagesIn_without]
      split
      · exact List.nil_prefix
      · exact List.prefix_refl _
  | receive => cases hc

end AccountStep

end Mailroom
