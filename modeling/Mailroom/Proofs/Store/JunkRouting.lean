import Mailroom.Proofs.Store.FailedCommit

/-! # Where quarantined mail goes

A mailbox is marked as the junk mailbox of an account by the first quarantined copy that finds none,
and by nothing else.  So an account never has two of them (`OneJunk`), and one that is there stays
until it is deleted or the account is created anew (`isJunk_run`).  Quarantined copies go to this
mailbox, all other copies to the inbox.  The main result is `junk_routing`. -/

namespace Mailroom

/-! ### Special uses -/

namespace StoreAccount

/-- The special use of a mailbox, if it exists and has one. -/
def use? (a : StoreAccount) (mailbox : String) : Option String :=
  (a.mailboxes.get? mailbox).bind Mailbox.specialUse?

/-- The special use of a mailbox of an account that may not exist. -/
def useOf? (a? : Option StoreAccount) (mailbox : String) : Option String := a?.bind (·.use? mailbox)

@[simp] theorem useOf?_none (mailbox : String) : useOf? none mailbox = none := rfl

@[simp] theorem useOf?_some (a : StoreAccount) (mailbox : String) :
    useOf? (some a) mailbox = a.use? mailbox := rfl

@[simp] theorem use?_new (password? : Option String) (mailbox : String) :
    (new password?).use? mailbox = none := by
  rw [use?, new, NameMap.get?_put]
  split <;> rfl

theorem use?_ensureMailbox (a : StoreAccount) (name mailbox : String) :
    (a.ensureMailbox name).use? mailbox = a.use? mailbox := by
  unfold ensureMailbox
  split
  · rfl
  · next hnew =>
    have hnone : a.mailboxes.get? name = none := by simpa [NameMap.contains] using hnew
    rw [use?, use?, NameMap.get?_put]
    split
    · next e => rw [← e, hnone]; rfl
    · rfl

theorem use?_without (a : StoreAccount) (name mailbox : String) :
    (a.without name).use? mailbox = if name = mailbox then none else a.use? mailbox := by
  rw [use?, without, NameMap.get?_erase]
  split <;> rfl

section receives

variable {special? : Option (String × String)} {a b : StoreAccount} {m : StoredMessage}
  {target : String}

theorem Receives.use?_target (h : a.Receives special? m target b) :
    b.use? target = targetUse? special? a target := by
  obtain ⟨box, hbox, -, huse⟩ := h.box
  simp [use?, hbox, huse]

theorem Receives.use?_other (h : a.Receives special? m target b) {other : String}
    (hne : other ≠ target) : b.use? other = a.use? other := by
  rw [use?, use?, h.others other hne]

/-- A copy for the inbox marks no mailbox. -/
theorem Receives.use?_inbox (h : a.Receives none m target b) (mailbox : String) :
    b.use? mailbox = a.use? mailbox := by
  by_cases e : mailbox = target
  · rw [e, h.use?_target]
    rfl
  · exact h.use?_other e

end receives

end StoreAccount

open StoreAccount

/-- Nothing but a commit marks a mailbox, and a mark goes only with its mailbox or its account. -/
theorem AccountStep.useOf?_eq {name : String} {request : StoreRequest} {ok : Bool}
    {a? b? : Option StoreAccount} (h : AccountStep name request ok a? b?)
    (hc : request.isCommit = false) (mailbox : String) :
    useOf? b? mailbox = useOf? a? mailbox ∨
      useOf? b? mailbox = none ∧ request.removes name mailbox = true := by
  cases h with
  | same => exact .inl rfl
  | createUser password => exact .inr ⟨use?_new _ _, beq_self_eq_true name⟩
  | getOrCreateUser => exact .inl (use?_new _ _)
  | createMailbox other a => exact .inl (use?_ensureMailbox a other mailbox)
  | deleteMailbox other a =>
      rw [useOf?_some, useOf?_some, use?_without]
      by_cases e : other = mailbox
      · rw [if_pos e]
        exact .inr ⟨rfl, by simp [StoreRequest.removes, e]⟩
      · rw [if_neg e]
        exact .inl rfl
  | receive => cases hc

/-! ### Junk mailboxes -/

/-- No two mailboxes of an account are junk mailboxes. -/
def OneJunk (a? : Option StoreAccount) : Prop :=
  ∀ mailbox other, useOf? a? mailbox = some junkUse → useOf? a? other = some junkUse →
    mailbox = other

/-- What a request does to the junk mailbox of an account. -/
structure JunkStep (name : String) (request : StoreRequest) (a? b? : Option StoreAccount) :
    Prop where
  one : OneJunk a? → OneJunk b?
  kept : ∀ mailbox, request.removes name mailbox = false → useOf? a? mailbox = some junkUse →
    useOf? b? mailbox = some junkUse

variable {past : List Moment} {w : SharedStore} {i : Nat} {tx : Transaction StoreDelivery}

theorem JunkStep.of_same {name : String} {request : StoreRequest} {a? b? : Option StoreAccount}
    (h : ∀ mailbox, useOf? b? mailbox = useOf? a? mailbox) : JunkStep name request a? b? where
  one := fun hone => by simpa only [OneJunk, h] using hone
  kept := fun mailbox _ hjunk => (h mailbox).trans hjunk

theorem AccountStep.junkStep {name : String} {request : StoreRequest} {ok : Bool}
    {a? b? : Option StoreAccount} (h : AccountStep name request ok a? b?)
    (hc : request.isCommit = false) : JunkStep name request a? b? where
  one := by
    intro hone mailbox other hm ho
    have hbefore : ∀ m, useOf? b? m = some junkUse → useOf? a? m = some junkUse := by
      intro m hjunk
      rcases h.useOf?_eq hc m with e | ⟨e, -⟩
      · exact e ▸ hjunk
      · rw [e] at hjunk
        cases hjunk
    exact hone mailbox other (hbefore mailbox hm) (hbefore other ho)
  kept := by
    intro mailbox hr hjunk
    rcases h.useOf?_eq hc mailbox with e | ⟨-, e⟩
    · exact e.trans hjunk
    · rw [hr] at e
      cases e

/-- A quarantined copy goes to the junk mailbox, or marks one where none is. -/
theorem StoreAccount.Receives.junkStep {name default target : String} {request : StoreRequest}
    {a b : StoreAccount} {m : StoredMessage}
    (h : a.Receives (some (junkUse, default)) m target b) :
    JunkStep name request (some a) (some b) where
  one := by
    intro hone mailbox other hm ho
    have htarget : ∀ mailbox, b.use? mailbox = some junkUse → mailbox = target := by
      intro mailbox hjunk
      by_cases e : mailbox = target
      · exact e
      · have hbefore : a.use? mailbox = some junkUse := h.use?_other e ▸ hjunk
        rcases h.target with ⟨box, hbox, huse⟩ | ⟨-, hnone⟩
        · exact hone mailbox target hbefore (by simp [use?, hbox, huse])
        · obtain ⟨box, hbox, huse⟩ := Option.bind_eq_some_iff.mp hbefore
          exact absurd huse (hnone mailbox box hbox)
    rw [htarget mailbox hm, htarget other ho]
  kept := by
    intro mailbox _ hjunk
    by_cases e : mailbox = target
    · rw [e]
      exact h.use?_target
    · exact (h.use?_other e).trans hjunk

/-- A commit is such a step for every account. -/
theorem Committed.junkStep {accounts after : NameMap StoreAccount}
    (h : Committed past i tx accounts after) (request : StoreRequest) (name : String) :
    JunkStep name request (accounts.get? name) (after.get? name) := by
  by_cases hbody : tx.state = .bodyDeposited
  · obtain ⟨⟨header, kept, -, hcopies⟩, hothers⟩ := h.delivered hbody
    by_cases hname : name ∈ tx.accounts
    · obtain ⟨rcpt, mailbox, a, b, -, ha, hb, hreceives⟩ := hcopies name hname
      rw [ha, hb]
      unfold Transaction.junk? at hreceives
      split at hreceives
      · exact hreceives.junkStep
      · exact .of_same hreceives.use?_inbox
    · exact .of_same fun mailbox => by rw [hothers name hname]
  · exact .of_same fun mailbox => by rw [h.unchanged hbody name]

/-- **Every request** is such a step for every account. -/
theorem Consistent.junkStep (h : Consistent past w) (request : StoreRequest) (name : String) :
    JunkStep name request (w.store.accounts.get? name)
      ((w.perform request).1.store.accounts.get? name) := by
  have hstep := (h.effect request).accounts name
  cases hc : request.isCommit with
  | false => exact hstep.junkStep hc
  | true =>
      cases hok : (w.perform request).2 with
      | false => exact .of_same fun mailbox => by rw [hstep.eq_of_quiet (.inr hok)]
      | true =>
          obtain ⟨i, tx, -, -, hcommitted⟩ := h.exists_committed hc hok
          exact hcommitted.junkStep request name

namespace Store

/-- The special use of a mailbox, if it exists and has one. -/
def use? (s : Store) (name mailbox : String) : Option String :=
  (s.mailbox? name mailbox).bind Mailbox.specialUse?

/-- Whether a mailbox is the junk mailbox of its account. -/
def IsJunk (s : Store) (name mailbox : String) : Prop := s.use? name mailbox = some junkUse

instance (s : Store) (name mailbox : String) : Decidable (s.IsJunk name mailbox) :=
  inferInstanceAs (Decidable (_ = _))

variable {s : Store} {name : String}

theorem mailbox?_of_get? {a : StoreAccount} (h : s.accounts.get? name = some a) (mailbox : String) :
    s.mailbox? name mailbox = a.mailboxes.get? mailbox := by
  rw [mailbox?, h]
  rfl

theorem mailbox?_congr {t : Store} (h : t.accounts.get? name = s.accounts.get? name)
    (mailbox : String) : t.mailbox? name mailbox = s.mailbox? name mailbox := by
  rw [mailbox?, mailbox?, h]

theorem isJunk_iff {mailbox : String} :
    s.IsJunk name mailbox ↔ useOf? (s.accounts.get? name) mailbox = some junkUse := by
  rw [IsJunk, use?, mailbox?]
  cases s.accounts.get? name <;> exact Iff.rfl

end Store

/-- Whatever is asked of a new store, no account has two junk mailboxes. -/
theorem oneJunk_opened_run (options : StoreOptions) (host : Host) (requests : List StoreRequest)
    (name : String) :
    OneJunk (((SharedStore.opened options host).run requests).store.accounts.get? name) := by
  suffices h : ∀ {past w} (requests : List StoreRequest), Consistent past w →
      OneJunk (w.store.accounts.get? name) →
        OneJunk ((w.run requests).store.accounts.get? name) from
    h requests (consistent_opened options host) fun _ _ hm _ => by cases hm
  intro past w requests h hone
  induction requests generalizing past w with
  | nil => exact hone
  | cons request requests ih =>
      exact ih (h.effect request).consistent ((h.junkStep request name).one hone)

/-- **A junk mailbox stays** until it is deleted or its account is created anew. -/
theorem Consistent.isJunk_run (h : Consistent past w) {name mailbox : String}
    (hjunk : w.store.IsJunk name mailbox) {requests : List StoreRequest}
    (hr : ∀ request ∈ requests, request.removes name mailbox = false) :
    (w.run requests).store.IsJunk name mailbox := by
  rw [Store.isJunk_iff] at hjunk ⊢
  induction requests generalizing past w with
  | nil => exact hjunk
  | cons request requests ih =>
      have hkept := (h.junkStep request name).kept mailbox (hr request List.mem_cons_self) hjunk
      exact ih (h.effect request).consistent hkept fun r m => hr r (List.mem_cons_of_mem request m)

/-! ### Where copies go -/

/-- At a moment a copy of the message of a transaction, under its trace fields
(`Header.toBytes_traced`), comes to the end of a mailbox, which then has this special use, and no
other mailbox of the account changes. -/
structure Moment.Brings (now : Moment) (past : List Moment) (i : Nat)
    (tx : Transaction StoreDelivery) (name mailbox : String) (use? : Option String) : Prop where
  copy : ∃ header kept rcpt, (∃ m ∈ past, m.Deposits i header kept) ∧
    (∃ m ∈ past, m.Adds i rcpt name) ∧
    now.after.store.mailbox? name mailbox = some ⟨use?, now.before.store.messages name mailbox ++
      [⟨⟨deliveredTo rcpt :: returnPath tx.sender :: header.fields⟩, kept⟩]⟩
  others : ∀ other, other ≠ mailbox →
    now.after.store.mailbox? name other = now.before.store.mailbox? name other

/-- Where a quarantined copy for an account goes: to its junk mailbox, whatever the name of that,
or, if it has none, to the mailbox that the rules name. -/
def Store.JunkTarget (s : Store) (rules : DeliveryRules) (name mailbox : String) : Prop :=
  s.IsJunk name mailbox ∨ (∀ other, ¬ s.IsJunk name other) ∧ mailbox = rules.junkMailbox

/-- What a commit brings to an account of its transaction. -/
theorem Delivered.brings (now : Moment)
    (h : Delivered past i tx now.before.store.accounts now.after.store.accounts) {name : String}
    (hname : name ∈ tx.accounts) :
    ∃ mailbox a, now.before.store.accounts.get? name = some a ∧ IsTarget tx.junk? a mailbox ∧
      now.Brings past i tx name mailbox (targetUse? tx.junk? a mailbox) := by
  obtain ⟨header, kept, hdeposits, hcopies⟩ := h.copies
  obtain ⟨rcpt, mailbox, a, b, hadds, ha, hb, hreceives⟩ := hcopies name hname
  refine ⟨mailbox, a, ha, hreceives.target, ⟨header, kept, rcpt, hdeposits, hadds, ?_⟩, ?_⟩
  · obtain ⟨box, hbox, hmessages, huse⟩ := hreceives.box
    rw [Store.mailbox?_of_get? hb, hbox, Store.messages_eq, ha, ← huse]
    exact congrArg (fun messages => some (Mailbox.mk box.specialUse? messages)) hmessages
  · intro other hne
    rw [Store.mailbox?_of_get? hb, Store.mailbox?_of_get? ha]
    exact hreceives.others other hne

/-- What the commit of a quarantined transaction does with its copies. -/
structure JunkRouted (past : List Moment) (now : Moment) (i : Nat)
    (tx : Transaction StoreDelivery) : Prop where
  succeeded : now.succeeded = true
  copies : ∀ name ∈ tx.accounts, ∃ mailbox, now.before.store.JunkTarget tx.rules name mailbox ∧
    now.Brings past i tx name mailbox (some junkUse)
  others : ∀ name, name ∉ tx.accounts → ∀ mailbox,
    now.after.store.mailbox? name mailbox = now.before.store.mailbox? name mailbox

theorem junkRouted (h : Consistent past w) (hordered : w.store.accounts.Ordered)
    (htx : w.transactions[i]? = some tx) (hq : tx.envelope.quarantine = true)
    (hs : tx.state = .bodyDeposited) : JunkRouted past ⟨w, .call i .commit⟩ i tx := by
  have hunfinished : tx.state.isFinal = false := by rw [hs]; rfl
  -- a quarantined transaction is never stuck
  have hok : (w.perform (.call i .commit)).2 = true := by
    rcases h.perform_commit hordered htx hunfinished with ⟨hstuck, -⟩ | ⟨-, hok⟩
    · rw [hstuck.quarantine] at hq
      cases hq
    · exact hok
  have hjunk : tx.junk? = some (junkUse, tx.rules.junkMailbox) := if_pos hq
  have hdelivered := (h.committed htx hok).delivered hs
  refine ⟨hok, fun name hname => ?_, fun name hname mailbox => ?_⟩
  · obtain ⟨mailbox, a, ha, htarget, hbrings⟩ := Delivered.brings ⟨w, _⟩ hdelivered hname
    rw [hjunk] at htarget hbrings
    refine ⟨mailbox, ?_, hbrings⟩
    simp only [Store.JunkTarget, Store.isJunk_iff]
    rw [ha]
    rcases htarget with ⟨box, hbox, huse⟩ | ⟨rfl, hnone⟩
    · exact .inl (by simp [use?, hbox, huse])
    · refine .inr ⟨fun other hother => ?_, rfl⟩
      obtain ⟨box, hbox, huse⟩ := Option.bind_eq_some_iff.mp (show a.use? other = _ from hother)
      exact hnone other box hbox huse
  · exact Store.mailbox?_congr (hdelivered.others name hname) mailbox

/-- What the calls on a transaction that is not quarantined do to the mailboxes. -/
structure InboxRouted (past : List Moment) (w : SharedStore) (i : Nat)
    (tx : Transaction StoreDelivery) : Prop where
  /-- No call makes, marks or removes a mailbox, or touches one that is no inbox. -/
  mailboxes : ∀ call name mailbox, let now : Moment := ⟨w, .call i call⟩
    (now.after.store.mailbox? name mailbox).map Mailbox.specialUse? =
      (w.store.mailbox? name mailbox).map Mailbox.specialUse? ∧
    (mailbox ≠ inbox →
      now.after.store.mailbox? name mailbox = w.store.mailbox? name mailbox)
  copies : tx.state = .bodyDeposited → let now : Moment := ⟨w, .call i .commit⟩
    now.succeeded = true → ∀ name ∈ tx.accounts,
      now.Brings past i tx name inbox (w.store.use? name inbox)

theorem Delivered.brings_inbox (now : Moment)
    (h : Delivered past i tx now.before.store.accounts now.after.store.accounts)
    (hq : tx.envelope.quarantine = false) {name : String} (hname : name ∈ tx.accounts) :
    (∃ box, now.before.store.mailbox? name inbox = some box) ∧
      now.Brings past i tx name inbox (now.before.store.use? name inbox) := by
  have hjunk : tx.junk? = none := if_neg (by simp [hq])
  obtain ⟨mailbox, a, ha, htarget, hbrings⟩ := h.brings now hname
  rw [hjunk] at htarget hbrings
  obtain ⟨rfl, hinbox⟩ := htarget
  refine ⟨?_, ?_⟩
  · rw [Store.mailbox?_of_get? ha]
    exact NameMap.contains_eq_true_iff.mp hinbox
  · rw [Store.use?, Store.mailbox?_of_get? ha]
    exact hbrings

theorem inboxRouted (h : Consistent past w) (htx : w.transactions[i]? = some tx)
    (hq : tx.envelope.quarantine = false) : InboxRouted past w i tx where
  mailboxes := by
    intro call name mailbox now
    have hsame : now.after.store.accounts.get? name = w.store.accounts.get? name →
        (now.after.store.mailbox? name mailbox).map Mailbox.specialUse? =
          (w.store.mailbox? name mailbox).map Mailbox.specialUse? ∧
        (mailbox ≠ inbox →
          now.after.store.mailbox? name mailbox = w.store.mailbox? name mailbox) := by
      intro e
      rw [Store.mailbox?_congr e]
      exact ⟨rfl, fun _ => rfl⟩
    have hmail := h.mailSafe (.call i call)
    cases call with
    | addRcpt | body | abort => exact hsame (hmail.quiet (.inl rfl) name)
    | commit =>
        by_cases hok : now.succeeded = true
        · have hcommitted := h.committed htx hok
          by_cases hs : tx.state = .bodyDeposited
          · have hdelivered := hcommitted.delivered hs
            by_cases hname : name ∈ tx.accounts
            · obtain ⟨⟨box, hbox⟩, hbrings⟩ :=
                Delivered.brings_inbox now hdelivered hq hname
              by_cases e : mailbox = inbox
              · obtain ⟨header, kept, rcpt, -, -, hafter⟩ := hbrings.copy
                have hbox : w.store.mailbox? name inbox = some box := hbox
                refine ⟨?_, fun hne => absurd e hne⟩
                rw [e, hafter, Store.use?, hbox]
                rfl
              · rw [hbrings.others mailbox e]
                exact ⟨rfl, fun _ => rfl⟩
            · exact hsame (hdelivered.others name hname)
          · exact hsame (hcommitted.unchanged hs name)
        · exact hsame (hmail.quiet (.inr (Bool.eq_false_iff.mpr hok)) name)
  copies := by
    intro hs now hok name hname
    exact (Delivered.brings_inbox now ((h.committed htx hok).delivered hs) hq hname).2

/-- **Junk routing.**  Transactions with any rules and administrators use a new store in any order.
No account ever has two junk mailboxes.  The commit of a quarantined transaction with a deposited
body succeeds and puts every copy into the junk mailbox of its account, made or marked if there was
none; as long as that mailbox is not deleted and the account not created anew, every later
quarantined copy for the account goes to the same mailbox.  A message that is not quarantined goes
to the inboxes only, and makes or marks no mailbox. -/
theorem junk_routing (options : StoreOptions) (host : Host) (requests : List StoreRequest) :
    let opened := SharedStore.opened options host
    let past := opened.moments requests
    let w := opened.run requests
    (∀ name mailbox other, w.store.IsJunk name mailbox → w.store.IsJunk name other →
      mailbox = other) ∧
    ∀ i tx, w.transactions[i]? = some tx →
      (tx.envelope.quarantine = true → tx.state = .bodyDeposited →
        let now : Moment := ⟨w, .call i .commit⟩
        JunkRouted past now i tx ∧
        ∀ name ∈ tx.accounts, ∀ mailbox, now.after.store.IsJunk name mailbox →
          ∀ more : List StoreRequest, (∀ request ∈ more, request.removes name mailbox = false) →
            let all := requests ++ now.request :: more
            let again := opened.run all
            ∀ j later, again.transactions[j]? = some later → later.envelope.quarantine = true →
              later.state = .bodyDeposited → name ∈ later.accounts →
                (Moment.mk again (.call j .commit)).Brings (opened.moments all) j later name mailbox
                  (some junkUse)) ∧
      (tx.envelope.quarantine = false → InboxRouted past w i tx) := by
  intro opened past w
  have hconsistent : ∀ requests, Consistent (opened.moments requests) (opened.run requests) :=
    fun requests => (consistent_opened options host).run requests
  have hordered : ∀ requests, (opened.run requests).store.accounts.Ordered := fun requests =>
    (SharedStore.ordered_opened_run options host requests).1
  have hone : ∀ requests name mailbox other, (opened.run requests).store.IsJunk name mailbox →
      (opened.run requests).store.IsJunk name other → mailbox = other := by
    intro requests name mailbox other hm ho
    exact oneJunk_opened_run options host requests name mailbox other
      (Store.isJunk_iff.mp hm) (Store.isJunk_iff.mp ho)
  refine ⟨hone requests, fun i tx htx => ⟨fun hq hs => ?_, fun hq => ?_⟩⟩
  · intro now
    refine ⟨?_, ?_⟩
    · exact junkRouted (hconsistent requests) (hordered requests) htx hq hs
    · intro name _ mailbox hjunk more hmore all again j later hlater hq' hs' hname'
      have hrun : again = now.after.run more := by
        show opened.run (requests ++ now.request :: more) = _
        rw [SharedStore.run_append]
        rfl
      have hstays : again.store.IsJunk name mailbox := by
        rw [hrun]
        exact ((hconsistent requests).effect now.request).consistent.isJunk_run hjunk hmore
      obtain ⟨mailbox', htarget, hbrings⟩ :=
        (junkRouted (hconsistent all) (hordered all) hlater hq' hs').copies name hname'
      rcases htarget with hthere | ⟨hnone, -⟩
      · rwa [hone all name mailbox' mailbox hthere hstays] at hbrings
      · exact absurd hstays (hnone mailbox)
  · exact inboxRouted (hconsistent requests) htx hq

/-- Two transactions whose rules name different mailboxes, and one that is not quarantined. -/
theorem junk_routing_alice :
    let opened := SharedStore.opened {} {}
    let requests : List StoreRequest := [.createUser "alice" "a", .createMailbox "alice" "Spam",
      .start { junkMailbox := "Spam" } ⟨"1", "x@example.org", true⟩ "x@example.org",
      .start {} ⟨"2", "y@example.org", true⟩ "y@example.org",
      .start {} ⟨"3", "z@example.org", false⟩ "z@example.org",
      .call 0 (.addRcpt "alice"), .call 1 (.addRcpt "alice"), .call 2 (.addRcpt "alice"),
      .call 0 (.body {} (.memory [1])), .deleteMailbox "alice" inbox]
    let now : Moment := ⟨opened.run requests, .call 0 .commit⟩
    let more : List StoreRequest :=
      [.createMailbox "alice" "Junk", .call 1 (.body {} (.memory [2]))]
    let all := requests ++ now.request :: more
    let again := opened.run all
    ∃ tx later plain, now.before.transactions[0]? = some tx ∧ tx.envelope.quarantine = true ∧
      tx.state = .bodyDeposited ∧ JunkRouted (opened.moments requests) now 0 tx ∧
      "alice" ∈ tx.accounts ∧ now.after.store.IsJunk "alice" "Spam" ∧
      (∀ request ∈ more, request.removes "alice" "Spam" = false) ∧
      again.transactions[1]? = some later ∧ later.envelope.quarantine = true ∧
      later.state = .bodyDeposited ∧ "alice" ∈ later.accounts ∧
      (Moment.mk again (.call 1 .commit)).Brings (opened.moments all) 1 later "alice" "Spam"
        (some junkUse) ∧
      now.before.transactions[2]? = some plain ∧ plain.envelope.quarantine = false ∧
      InboxRouted (opened.moments requests) now.before 2 plain := by
  intro opened requests now more all again
  let ready (tx : Transaction StoreDelivery) : Bool := tx.envelope.quarantine &&
    (tx.state == .bodyDeposited && tx.added.contains "alice")
  have hnow : (now.before.transactions[0]?.any ready) = true := by decide +kernel
  have hagain : (again.transactions[1]?.any ready) = true := by decide +kernel
  have hplain : (now.before.transactions[2]?.any fun tx => !tx.envelope.quarantine) = true := by
    decide +kernel
  have hspam : now.after.store.IsJunk "alice" "Spam" := by decide +kernel
  have hmore : ∀ request ∈ more, request.removes "alice" "Spam" = false := by
    simp [more, StoreRequest.removes]
  have hready : ∀ {tx}, ready tx = true → tx.envelope.quarantine = true ∧
      tx.state = .bodyDeposited ∧ "alice" ∈ tx.accounts := by
    intro tx h
    simp only [ready, Bool.and_eq_true, beq_iff_eq, List.contains_iff_mem] at h
    exact ⟨h.1, h.2.1, (tx.mem_accounts "alice").mpr h.2.2⟩
  -- from here on the requests need not be looked at
  clear_value requests more ready
  obtain ⟨tx, htx, h⟩ := (Option.any_eq_true _ _).mp hnow
  obtain ⟨hq, hs, halice⟩ := hready h
  obtain ⟨later, hlater, h⟩ := (Option.any_eq_true _ _).mp hagain
  obtain ⟨hq', hs', halice'⟩ := hready h
  obtain ⟨plain, hplain, hquiet⟩ := (Option.any_eq_true _ _).mp hplain
  have hquiet : plain.envelope.quarantine = false := by simpa using hquiet
  obtain ⟨-, hrouted⟩ := junk_routing {} {} requests
  obtain ⟨hjunk, hstays⟩ := (hrouted 0 tx htx).1 hq hs
  exact ⟨tx, later, plain, htx, hq, hs, hjunk, halice, hspam, hmore, hlater, hq', hs', halice',
    hstays "alice" halice "Spam" hspam more hmore 1 later hlater hq' hs' halice', hplain, hquiet,
    (hrouted 2 plain hplain).2 hquiet⟩

end Mailroom
