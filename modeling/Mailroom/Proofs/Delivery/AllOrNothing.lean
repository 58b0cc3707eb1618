import Mailroom.Delivery.StorageTarget
import Mailroom.Proofs.Delivery.TargetCalls
import Mailroom.Proofs.Store.FailedCommit

/-! # Deliveries of all or nothing

A delivery to a storage target adds its recipients one after another, deposits the body and
commits.  Whether it succeeds can be told from the store beforehand (`Deliverable`), and so can the
failure of the first step that fails (`Store.firstFailure?`).  What holds after some recipients were
added is `Gathered`, which carries what the commit then does to the store (`Posted`).  The main
result is `deliver_all_or_nothing`. -/

namespace Mailroom

/-! ### What a delivery needs -/

/-- **What a delivery needs of a store.** -/
structure Deliverable (s : Store) (perDomain : Bool) (rcpts : List String) (body : Body) :
    Prop where
  /-- Every recipient leads to an account that exists and has an inbox. -/
  rcpts : ∀ rcpt ∈ rcpts, ∃ name a, Account.ofAddress rcpt perDomain = .ok ⟨name⟩ ∧
    s.accounts.get? name = some a ∧ a.mailboxes.contains inbox = true
  /-- The body is not longer than the store accepts. -/
  length : ∀ max, s.options.maxBytes? = some max → body.length ≤ max.toNat
  /-- The body can be read, and written to a new file if that is where the store keeps bodies. -/
  content : ∃ content, body.read s.host.disk = .ok content ∧
    ∀ directory, s.options.bodyDirectory? = some directory →
      ∃ kept, (Store.spool directory content s.host).1 = .ok kept

namespace Store

variable {s : Store} {perDomain : Bool} {body : Body}

/-- The failure of the first step that fails, if one does: recipients come first, in order. -/
def firstFailure? (s : Store) (perDomain : Bool) (rcpts : List String) (body : Body) :
    Option Failure :=
  match rcpts.findSome? (s.refusal? perDomain) with
  | some failure => some failure
  | none => (s.depositFault? body.length body).map .backend

theorem refusal?_eq_none_iff {rcpt : String} :
    s.refusal? perDomain rcpt = none ↔
      ∃ name a, Account.ofAddress rcpt perDomain = .ok ⟨name⟩ ∧
        s.accounts.get? name = some a ∧ a.mailboxes.contains inbox = true := by
  unfold refusal?
  cases Account.ofAddress rcpt perDomain with
  | error fault => simp
  | ok account =>
      obtain ⟨name⟩ := account
      simp [hasInbox, Option.any_eq_true]

/-- A body can be kept unless its file cannot be written. -/
theorem exists_keepBody_iff {options : StoreOptions} {content : Bytes} {host : Host} :
    (∃ kept, (keepBody options content host).1 = .ok kept) ↔
      ∀ directory, options.bodyDirectory? = some directory →
        ∃ kept, (spool directory content host).1 = .ok kept := by
  unfold keepBody
  cases options.bodyDirectory? with
  | none => simp
  | some directory =>
      dsimp only
      cases hs : spool directory content host with
      | mk answer after => cases answer <;> simp [hs, -Prod.exists]

theorem depositFault?_eq_none_iff {length : Nat} :
    s.depositFault? length body = none ↔
      (∀ max, s.options.maxBytes? = some max → length ≤ max.toNat) ∧
      ∃ content, body.read s.host.disk = .ok content ∧
        ∃ kept, (keepBody s.options content s.host).1 = .ok kept := by
  have hlimit : s.options.maxBytes?.filter (fun max => max.toNat < length) = none ↔
      ∀ max, s.options.maxBytes? = some max → length ≤ max.toNat := by
    rw [Option.filter_eq_none_iff]
    simp only [decide_eq_true_eq, Nat.not_lt]
  rw [← hlimit]
  unfold depositFault?
  cases s.options.maxBytes?.filter fun max => max.toNat < length with
  | some max => simp
  | none =>
      cases body.read s.host.disk with
      | error fault => simp
      | ok content =>
          cases hk : (keepBody s.options content s.host).1 with
          | error fault => simp [hk]
          | ok kept => simp [hk, -Prod.exists]

/-- No step fails if and only if the store has what the delivery needs. -/
theorem firstFailure?_eq_none_iff {rcpts : List String} :
    s.firstFailure? perDomain rcpts body = none ↔ Deliverable s perDomain rcpts body := by
  have hsteps : s.firstFailure? perDomain rcpts body = none ↔
      (∀ rcpt ∈ rcpts, s.refusal? perDomain rcpt = none) ∧
        s.depositFault? body.length body = none := by
    rw [← List.findSome?_eq_none_iff, firstFailure?]
    cases rcpts.findSome? (s.refusal? perDomain) with
    | some failure => simp
    | none => simp
  rw [hsteps, depositFault?_eq_none_iff]
  constructor
  · rintro ⟨hrcpts, hlength, content, hread, hkept⟩
    exact ⟨fun rcpt m => refusal?_eq_none_iff.mp (hrcpts rcpt m), hlength,
      content, hread, exists_keepBody_iff.mp hkept⟩
  · rintro ⟨hrcpts, hlength, content, hread, hkept⟩
    exact ⟨fun rcpt m => refusal?_eq_none_iff.mpr (hrcpts rcpt m), hlength,
      content, hread, exists_keepBody_iff.mpr hkept⟩

end Store

/-! ### Adding the recipients -/

/-- Whether an address leads to the account with this name. -/
def leadsTo (perDomain : Bool) (name rcpt : String) : Bool :=
  match Account.ofAddress rcpt perDomain with
  | .ok account => account.name == name
  | .error _ => false

theorem leadsTo_of_ofAddress {perDomain : Bool} {name rcpt : String}
    (h : Account.ofAddress rcpt perDomain = .ok ⟨name⟩) (other : String) :
    leadsTo perDomain other rcpt = (name == other) := by
  rw [leadsTo, h]

/-- A transaction that nothing happened to but that recipients were added. -/
def Transaction.gathering (rules : DeliveryRules) (envelope : Envelope) (sender : String)
    (entries : List (String × Header)) : Transaction StoreDelivery :=
  { Transaction.opened rules envelope sender ({ rcpts := entries } : StoreDelivery) with
    added := (entries.map Prod.fst).reverse }

theorem Transaction.withRcpt_gathering (rules : DeliveryRules) (envelope : Envelope)
    (sender : String) (entries : List (String × Header)) (rcpt name : String) :
    (gathering rules envelope sender entries).withRcpt rcpt name =
      gathering rules envelope sender (entries ++ [(name, ⟨[deliveredTo rcpt]⟩)]) := by
  unfold gathering withRcpt
  rw [List.map_append, List.reverse_append]
  rfl

/-- What holds of the entries of a delivery after the recipients `done` were added to it. -/
structure Gathered (s : Store) (perDomain : Bool) (done : List String)
    (entries : List (String × Header)) : Prop where
  nodup : (entries.map Prod.fst).Nodup
  inboxes : ∀ entry ∈ entries, Store.hasInbox s.accounts entry.1 = true
  /-- The entry of an account is for the first recipient that leads to it. -/
  first : ∀ name, entries.find? (·.1 == name) =
    (done.find? (leadsTo perDomain name)).map fun rcpt => (name, ⟨[deliveredTo rcpt]⟩)

variable {s : Store} {rules : DeliveryRules} {envelope : Envelope} {sender : String}
  {done : List String} {entries : List (String × Header)}

theorem gathered_nil (s : Store) (perDomain : Bool) : Gathered s perDomain [] [] where
  nodup := List.nodup_nil
  inboxes := fun _ m => nomatch m
  first := fun _ => rfl

namespace Gathered

variable {perDomain : Bool} {rcpt name : String}

theorem mem_names_iff (h : Gathered s perDomain done entries) (name : String) :
    name ∈ entries.map Prod.fst ↔ (done.find? (leadsTo perDomain name)).isSome = true := by
  have hfound : (entries.find? (·.1 == name)).isSome = true ↔ name ∈ entries.map Prod.fst := by
    simp only [List.find?_isSome, List.mem_map, beq_iff_eq]
  rw [← hfound, h.first name, Option.isSome_map]

/-- A recipient with an account that has an entry already. -/
theorem again (h : Gathered s perDomain done entries)
    (haccount : Account.ofAddress rcpt perDomain = .ok ⟨name⟩)
    (hknown : name ∈ entries.map Prod.fst) :
    Gathered s perDomain (done ++ [rcpt]) entries where
  nodup := h.nodup
  inboxes := h.inboxes
  first := by
    intro other
    rw [h.first other, List.find?_append, List.find?_singleton, leadsTo_of_ofAddress haccount]
    by_cases hname : name = other
    · obtain ⟨before, hbefore⟩ :=
        Option.isSome_iff_exists.mp ((h.mem_names_iff other).mp (hname ▸ hknown))
      rw [hbefore]
      rfl
    · rw [if_neg (by simpa using hname), Option.or_none]

/-- A recipient with an account that is new. -/
theorem concat (h : Gathered s perDomain done entries)
    (haccount : Account.ofAddress rcpt perDomain = .ok ⟨name⟩) (hnew : name ∉ entries.map Prod.fst)
    (hinbox : Store.hasInbox s.accounts name = true) :
    Gathered s perDomain (done ++ [rcpt]) (entries ++ [(name, ⟨[deliveredTo rcpt]⟩)]) where
  nodup := by
    rw [List.map_append]
    refine List.nodup_append.mpr ⟨h.nodup, List.pairwise_singleton _ _, ?_⟩
    intro other ha name' hb heq
    have hname : name' = name := List.mem_singleton.mp hb
    exact hnew (hname ▸ heq ▸ ha)
  inboxes := by
    intro entry m
    rcases List.mem_append.mp m with m | m
    · exact h.inboxes entry m
    · rw [List.mem_singleton.mp m]
      exact hinbox
  first := by
    intro other
    rw [List.find?_append, List.find?_append, h.first other, List.find?_singleton,
      List.find?_singleton, leadsTo_of_ofAddress haccount]
    by_cases hname : name = other
    · subst hname
      cases hdone : done.find? (leadsTo perDomain name) with
      | none => simp
      | some before => simp
    · rw [if_neg (by simpa using hname), if_neg (by simpa using hname), Option.or_none,
        Option.or_none]

/-- **Adding a recipient:** it is refused and nothing changes, or what holds still holds. -/
theorem addRcpt (h : Gathered s rules.perDomain done entries) (envelope : Envelope)
    (sender rcpt : String) :
    let act := Transaction.addRcpt Store.backend rcpt
    let gathering := Transaction.gathering rules envelope sender
    (∃ failure, s.refusal? rules.perDomain rcpt = some failure ∧
      (act (s, gathering entries)).outcome = (.error failure, s, gathering entries)) ∨
    s.refusal? rules.perDomain rcpt = none ∧ ∃ entries',
      (act (s, gathering entries)).outcome = (.ok (), s, gathering entries') ∧
        Gathered s rules.perDomain (done ++ [rcpt]) entries' := by
  intro act gathering
  have hadmitted : ∀ {name}, Account.ofAddress rcpt rules.perDomain = .ok ⟨name⟩ →
      Store.hasInbox s.accounts name = true → s.refusal? rules.perDomain rcpt = none := by
    intro name haccount hinbox
    rw [Store.refusal?, haccount]
    exact if_pos hinbox
  rcases Transaction.addRcpt_store s (gathering entries) rcpt rfl with
    ⟨failure, hfailure, e⟩ | ⟨name, haccount, hknown, e⟩ | ⟨name, haccount, hnew, hinbox, e⟩
  · exact .inl ⟨failure, hfailure, e⟩
  · have hknown : name ∈ entries.map Prod.fst := List.mem_reverse.mp hknown
    obtain ⟨entry, m, rfl⟩ := List.mem_map.mp hknown
    exact .inr ⟨hadmitted haccount (h.inboxes entry m), entries, e, h.again haccount hknown⟩
  · have hnew : name ∉ entries.map Prod.fst := fun m => hnew (List.mem_reverse.mpr m)
    rw [Transaction.withRcpt_gathering] at e
    exact .inr ⟨hadmitted haccount hinbox, _, e, h.concat haccount hnew hinbox⟩

/-- **Adding recipients** stops at the first one that is refused. -/
theorem addRcpts (target : Target Store (Transaction StoreDelivery))
    (htarget : target.addRcpt = Transaction.addRcpt Store.backend) (envelope : Envelope)
    (sender : String) :
    ∀ (rcpts : List String) {done : List String} {entries : List (String × Header)},
      Gathered s rules.perDomain done entries →
        let gathering := Transaction.gathering rules envelope sender
        (∃ failure entries', rcpts.findSome? (s.refusal? rules.perDomain) = some failure ∧
          (target.addRcpts rcpts (s, gathering entries)).outcome =
            (.error failure, s, gathering entries')) ∨
        rcpts.findSome? (s.refusal? rules.perDomain) = none ∧ ∃ entries',
          (target.addRcpts rcpts (s, gathering entries)).outcome = (.ok (), s, gathering entries') ∧
            Gathered s rules.perDomain (done ++ rcpts) entries'
  | [], done, entries, h => .inr ⟨rfl, entries, rfl, by rwa [List.append_nil]⟩
  | rcpt :: rcpts, done, entries, h => by
      intro gathering
      rw [Target.addRcpts, Act.andThen_outcome, htarget, List.findSome?_cons]
      rcases h.addRcpt envelope sender rcpt with
        ⟨failure, hfailure, e⟩ | ⟨hadmitted, entries', e, h'⟩
      · rw [e, hfailure]
        exact .inl ⟨failure, entries, rfl, rfl⟩
      · rw [e, hadmitted, List.append_cons]
        exact addRcpts target htarget envelope sender rcpts h'

end Gathered

/-! ### Whole deliveries -/

/-- **What a delivery does to a store:** every account that a recipient leads to receives one copy
of the message, with a field for the first such recipient on top of one for the sender
(`Header.toBytes_traced`), and no other account changes. -/
structure Posted (s : Store) (rules : DeliveryRules) (envelope : Envelope) (sender : String)
    (rcpts : List String) (header : Header) (body : Body) (after : Store) : Prop where
  copies : ∃ content kept, body.read s.host.disk = .ok content ∧
    kept.read after.host.disk = .ok content ∧
    ∀ name rcpt, rcpts.find? (leadsTo rules.perDomain name) = some rcpt →
      ∃ mailbox a b, s.accounts.get? name = some a ∧ after.accounts.get? name = some b ∧
        a.Receives (if envelope.quarantine then some (junkUse, rules.junkMailbox) else none)
          ⟨⟨deliveredTo rcpt :: returnPath sender :: header.fields⟩, kept⟩ mailbox b
  others : ∀ name, rcpts.find? (leadsTo rules.perDomain name) = none →
    after.accounts.get? name = s.accounts.get? name
  deposits : after.deposits = s.deposits + 1
  commits : after.commits = s.commits + 1

/-- What a distribution to the entries of all recipients means. -/
theorem Gathered.posted {rcpts : List String} {header : Header} {body : Body} {d : StoreDelivery}
    {kept : Body} {content : Bytes} {after : NameMap StoreAccount}
    (h : Gathered s rules.perDomain rcpts d.rcpts) (hordered : Store.AllOrdered s.accounts)
    (hdeposit : d.deposit? = some (header.addField (returnPath sender), kept))
    (hspecial : d.special? =
      if envelope.quarantine then some (junkUse, rules.junkMailbox) else none)
    (hread : body.read s.host.disk = .ok content) {host : Host}
    (hkept : kept.read host.disk = .ok content)
    (hd : Store.distribute d s.accounts = (.ok (), after)) :
    Posted s rules envelope sender rcpts header body
      { s with accounts := after, deposits := s.deposits + 1, commits := s.commits + 1, host } := by
  obtain ⟨hcopies, hothers⟩ := Store.receives_of_distribute hdeposit hordered h.nodup hd
  refine ⟨⟨content, kept, hread, hkept, ?_⟩, ?_, rfl, rfl⟩
  · intro name rcpt hfirst
    have hentry : (name, (⟨[deliveredTo rcpt]⟩ : Header)) ∈ d.rcpts := by
      apply List.mem_of_find?_eq_some
      rw [h.first name, hfirst]
      rfl
    obtain ⟨a, b, mailbox, ha, hb, hreceives⟩ := hcopies _ hentry
    rw [hspecial] at hreceives
    exact ⟨mailbox, a, b, ha, hb, hreceives⟩
  · intro name hnone
    apply hothers
    rw [h.mem_names_iff, hnone]
    exact Bool.false_ne_true

/-- Committing what was deposited for the entries of all recipients posts the message. -/
theorem Gathered.commit_posted {rcpts : List String} (header : Header) {body kept : Body}
    {content : Bytes} {host : Host} (h : Gathered s rules.perDomain rcpts entries)
    (hordered : s.accounts.Ordered) (hmailboxes : Store.AllOrdered s.accounts)
    (hread : body.read s.host.disk = .ok content) (hkept : kept.read host.disk = .ok content)
    (envelope : Envelope) (sender : String) (file? : Option String) :
    let deposited :=
      (Transaction.gathering rules envelope sender entries).withDeposit header kept file?
    ∃ after tx, (Transaction.commit Store.backend
        ({ s with host, deposits := s.deposits + 1 }, deposited)).outcome = (.ok (), after, tx) ∧
      Posted s rules envelope sender rcpts header body after := by
  intro deposited
  obtain ⟨accounts, hd⟩ : ∃ accounts,
      Store.distribute deposited.delivery s.accounts = (.ok (), accounts) :=
    Store.exists_distribute_eq_ok hordered
      (fun r m => Store.contains_of_hasInbox (h.inboxes r m)) fun _ => h.inboxes
  have hcommit := Transaction.commit_store { s with host, deposits := s.deposits + 1 } deposited
    (List.mem_cons_of_mem _ List.mem_cons_self)
  rw [hd] at hcommit
  have hspecial : deposited.delivery.special? =
      if envelope.quarantine then some (junkUse, rules.junkMailbox) else none := by
    let tx := Transaction.gathering rules envelope sender entries
    show (tx.junk? <|> none) = tx.junk?
    cases tx.junk? <;> rfl
  exact ⟨_, _, hcommit, h.posted hmailboxes rfl hspecial hread hkept hd⟩

/-- The target that keeps its mail in the store in memory. -/
def Storage.memoryTarget {σ δ : Type} (storage : Storage σ δ) :
    Target Store (Transaction StoreDelivery) :=
  (storage.withBackend Store.backend).target

section deliveries

variable {σ δ : Type} (storage : Storage σ δ) (s) (envelope) (sender) (rcpts : List String)
  (header : Header) (body : Body)

/-- The steps of a delivery: one of them fails and leaves at most files behind, or the message is
posted. -/
theorem Storage.complete_outcome (hordered : s.accounts.Ordered)
    (hmailboxes : Store.AllOrdered s.accounts) :
    let opened := Transaction.opened storage.rules envelope sender ({} : StoreDelivery)
    let outcome := (storage.memoryTarget.complete rcpts header body (s, opened)).outcome
    (∃ failure host tx, s.firstFailure? storage.rules.perDomain rcpts body = some failure ∧
      outcome = (.error failure, { s with host }, tx) ∧ tx.state = .created) ∨
    s.firstFailure? storage.rules.perDomain rcpts body = none ∧ ∃ after tx,
      outcome = (.ok (), after, tx) ∧
        Posted s storage.rules envelope sender rcpts header body after := by
  intro opened outcome
  have hrcpts := Gathered.addRcpts storage.memoryTarget rfl envelope sender rcpts
    (gathered_nil s storage.rules.perDomain)
  have hopened : opened = Transaction.gathering storage.rules envelope sender [] := rfl
  have houtcome : outcome = _ := Act.andThen_outcome _ _ _
  rw [hopened] at houtcome
  unfold Store.firstFailure?
  rcases hrcpts with ⟨failure, entries, hfailure, e⟩ | ⟨hadmitted, entries, e, hgathered⟩
  · rw [e] at houtcome
    rw [hfailure]
    exact .inl ⟨failure, s.host, _, rfl, houtcome, rfl⟩
  · rw [e] at houtcome
    dsimp only at houtcome
    rw [Act.andThen_outcome] at houtcome
    rw [hadmitted]
    dsimp only
    let tx := Transaction.gathering storage.rules envelope sender entries
    rcases Transaction.body_store s tx header body rfl with
      ⟨fault, host, hfault, e⟩ | ⟨hnone, content, kept, file?, host, hread, hkept, e⟩
    · have e' : (storage.memoryTarget.body header body (s, tx)).outcome = _ := e
      rw [e'] at houtcome
      rw [hfault]
      exact .inl ⟨.backend fault, host, _, rfl, houtcome, rfl⟩
    · have e' : (storage.memoryTarget.body header body (s, tx)).outcome = _ := e
      rw [e'] at houtcome
      dsimp only at houtcome
      obtain ⟨after, tx', hcommit, hposted⟩ := hgathered.commit_posted header hordered
        hmailboxes hread hkept envelope sender file?
      rw [hnone]
      exact .inr ⟨rfl, after, tx', houtcome.trans hcommit, hposted⟩

/-- **What a delivery does:** some step fails, and then it leaves at most files behind, or the
message is posted. -/
theorem Storage.deliver_outcome (hordered : s.accounts.Ordered)
    (hmailboxes : Store.AllOrdered s.accounts) :
    let outcome := (storage.memoryTarget.deliver envelope sender rcpts header body s).outcome
    (∃ failure host, s.firstFailure? storage.rules.perDomain rcpts body = some failure ∧
      outcome = (.error failure, { s with host })) ∨
    s.firstFailure? storage.rules.perDomain rcpts body = none ∧ ∃ after,
      outcome = (.ok (), after) ∧
        Posted s storage.rules envelope sender rcpts header body after := by
  intro outcome
  let opened := Transaction.opened storage.rules envelope sender ({} : StoreDelivery)
  let finished := (storage.memoryTarget.finish envelope rcpts header body (s, opened)).outcome
  have houtcome : outcome = (finished.1, finished.2.1) := rfl
  have hfinished : finished = _ :=
    storage.memoryTarget.finish_outcome envelope rcpts header body (s, opened)
  rcases storage.complete_outcome s envelope sender rcpts header body hordered hmailboxes with
    ⟨failure, host, tx, hfailure, e, hstate⟩ | ⟨hnone, after, tx, e, hposted⟩
  · have hallowed : tx.state ∈ [TransactionState.created, .bodyDeposited] := by
      rw [hstate]
      decide
    obtain ⟨answer, host', habort⟩ := Transaction.abort_store { s with host } tx hallowed
    have hstate' : (storage.memoryTarget.abort ({ s with host }, tx)).state = _ :=
      congrArg Prod.snd habort
    rw [e] at hfinished
    dsimp only at hfinished
    rw [hstate'] at hfinished
    rw [houtcome, hfinished]
    exact .inl ⟨failure, host', hfailure, rfl⟩
  · rw [e] at hfinished
    rw [houtcome, hfinished]
    exact .inr ⟨hnone, after, rfl, hposted⟩

end deliveries

-- the copy of an account names the first of the recipients that lead to it
example :
    let storage : Storage Store StoreDelivery :=
      ⟨"local", {}, false, [], "mx.example.org", .standard, "", Store.backend⟩
    let s := ((SharedStore.opened {} {}).run [.createUser "alice" "a", .createUser "bob" "b"]).store
    let after := (storage.memoryTarget.deliver ⟨"1", "x@example.org", false⟩ "x@example.org"
      ["Alice@example.org", "bob", "alice"] {} (.memory [1]) s).state
    (after.messages "alice" inbox).map (·.header) =
        [⟨[deliveredTo "Alice@example.org", returnPath "x@example.org"]⟩] ∧
      (after.messages "bob" inbox).length = 1 ∧ after.deposits = 1 ∧ after.commits = 1 := by
  decide +kernel

end Mailroom
