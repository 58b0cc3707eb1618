import Mailroom.Proofs.NameMap
import Mailroom.Store.Basic

/-! # How copies reach their mailboxes

Distribution first finds a mailbox for every recipient and then appends the copies.  If all
recipients exist and no account is named twice, a distribution that succeeds gives every recipient
one copy at the end of one mailbox (`Receives`, `receives_of_distribute`) and touches no other
account; one that fails touches nothing (`get?_of_distribute_error`). -/

namespace Mailroom

/-! ### One account -/

namespace StoreAccount

/-- The messages in a mailbox; a mailbox that does not exist holds none. -/
def messagesIn (a : StoreAccount) (mailbox : String) : List StoredMessage :=
  (a.mailboxes.get? mailbox).elim [] Mailbox.messages

/-- A mailbox that copies may go to: the inbox, which must exist, or a mailbox with the special
use, or the one that gets this use because none has it. -/
def IsTarget (special? : Option (String × String)) (a : StoreAccount) (mailbox : String) : Prop :=
  match special? with
  | none => mailbox = inbox ∧ a.mailboxes.contains inbox = true
  | some (use, name) =>
    (∃ box, a.mailboxes.get? mailbox = some box ∧ box.specialUse? = some use) ∨
      (mailbox = name ∧ ∀ other box, a.mailboxes.get? other = some box → box.specialUse? ≠ some use)

/-- The special use of the mailbox that a copy went to. -/
def targetUse? (special? : Option (String × String)) (a : StoreAccount) (mailbox : String) :
    Option String :=
  match special? with
  | none => (a.mailboxes.get? mailbox).bind Mailbox.specialUse?
  | some (use, _) => some use

/-- `placed` is `a` with the target `mailbox` in place and with `more` messages at its end. -/
structure Holds (special? : Option (String × String)) (a : StoreAccount) (mailbox : String)
    (more : List StoredMessage) (placed : StoreAccount) : Prop where
  password : placed.password? = a.password?
  target : IsTarget special? a mailbox
  box : ∃ box, placed.mailboxes.get? mailbox = some box ∧
    box.messages = a.messagesIn mailbox ++ more ∧ box.specialUse? = targetUse? special? a mailbox
  others : ∀ other, other ≠ mailbox → placed.mailboxes.get? other = a.mailboxes.get? other

/-- **What it means that an account receives a copy:** it stands at the end of one mailbox, and no
other mailbox has changed. -/
def Receives (special? : Option (String × String)) (a : StoreAccount) (m : StoredMessage)
    (mailbox : String) (after : StoreAccount) : Prop :=
  Holds special? a mailbox [m] after

theorem holds_specialMailbox {a : StoreAccount} (h : a.mailboxes.Ordered) (use name : String) :
    Holds (some (use, name)) a (a.specialMailbox use name).1 [] (a.specialMailbox use name).2 := by
  unfold specialMailbox
  cases hf : a.mailboxes.findName? fun m => m.specialUse? == some use with
  | some found =>
      obtain ⟨box, hbox, huse⟩ := NameMap.exists_get?_of_findName? h hf
      have huse := beq_iff_eq.mp huse
      refine ⟨rfl, .inl ⟨box, hbox, huse⟩, ⟨box, hbox, ?_, huse⟩, fun _ _ => rfl⟩
      rw [messagesIn, hbox, List.append_nil]
      rfl
  | none =>
      refine ⟨rfl, .inr ⟨rfl, ?_⟩, ⟨_, NameMap.get?_put_self _ _ _, ?_, rfl⟩, ?_⟩
      · intro other box hbox huse
        have := NameMap.eq_false_of_findName?_eq_none hf hbox
        rw [huse] at this
        simp at this
      · dsimp only
        rw [messagesIn, List.append_nil]
        cases a.mailboxes.get? name <;> rfl
      · intro other hne
        exact (NameMap.get?_put _ _ _ _).trans (if_neg (Ne.symm hne))

theorem holds_of_target {special? : Option (String × String)} {a placed : StoreAccount}
    {mailbox : String} (h : a.mailboxes.Ordered)
    (ht : Store.target special? a = .ok (mailbox, placed)) :
    Holds special? a mailbox [] placed := by
  cases special? with
  | some special =>
      have e : a.specialMailbox special.1 special.2 = (mailbox, placed) := Except.ok.inj ht
      have hs := holds_specialMailbox h special.1 special.2
      rw [e] at hs
      exact hs
  | none =>
      unfold Store.target at ht
      dsimp only at ht
      split at ht
      · next hc =>
        cases ht
        obtain ⟨box, hbox⟩ := NameMap.contains_eq_true_iff.mp hc
        refine ⟨rfl, ⟨rfl, hc⟩, ⟨box, hbox, ?_, ?_⟩, fun _ _ => rfl⟩
        · rw [messagesIn, hbox, List.append_nil]
          rfl
        · rw [targetUse?, hbox]
          rfl
      · cases ht

/-- Appending to the target is receiving. -/
theorem Holds.append {special? : Option (String × String)} {a placed : StoreAccount}
    {mailbox : String} (h : Holds special? a mailbox [] placed) (m : StoredMessage) :
    Receives special? a m mailbox (placed.append mailbox m) := by
  obtain ⟨box, hbox, hmessages, huse⟩ := h.box
  have e : placed.append mailbox m = { placed with
      mailboxes := placed.mailboxes.put mailbox { box with messages := box.messages ++ [m] } } := by
    rw [StoreAccount.append, hbox]
  rw [e]
  refine ⟨h.password, h.target, ⟨_, NameMap.get?_put_self _ _ _, ?_, huse⟩, ?_⟩
  · dsimp only
    rw [hmessages, List.append_nil]
  · intro other hne
    exact ((NameMap.get?_put _ _ _ _).trans (if_neg (Ne.symm hne))).trans (h.others other hne)

theorem ordered_new (password? : Option String) : (new password?).mailboxes.Ordered := by
  unfold new
  exact NameMap.ordered_put NameMap.ordered_empty _ _

theorem ordered_ensureMailbox {a : StoreAccount} (h : a.mailboxes.Ordered) (name : String) :
    (a.ensureMailbox name).mailboxes.Ordered := by
  unfold ensureMailbox
  split
  · exact h
  · exact NameMap.ordered_put h _ _

theorem ordered_specialMailbox {a : StoreAccount} (h : a.mailboxes.Ordered) (use name : String) :
    (a.specialMailbox use name).2.mailboxes.Ordered := by
  unfold specialMailbox
  split
  · exact h
  · exact NameMap.ordered_put h _ _

theorem ordered_of_target {special? : Option (String × String)} {a placed : StoreAccount}
    {mailbox : String} (h : a.mailboxes.Ordered)
    (ht : Store.target special? a = .ok (mailbox, placed)) : placed.mailboxes.Ordered := by
  unfold Store.target at ht
  split at ht
  · next use name =>
    have hs := ordered_specialMailbox h use name
    rw [Except.ok.inj ht] at hs
    exact hs
  · split at ht
    · cases ht
      exact h
    · cases ht

theorem ordered_append {a : StoreAccount} (h : a.mailboxes.Ordered) (mailbox : String)
    (m : StoredMessage) : (a.append mailbox m).mailboxes.Ordered := by
  unfold append
  split
  · exact NameMap.ordered_put h _ _
  · exact h

end StoreAccount

/-! ### Finding the mailboxes -/

namespace Store

variable {special? : Option (String × String)}

/-- The mailboxes of every account stand in order. -/
def AllOrdered (accounts : NameMap StoreAccount) : Prop :=
  ∀ name a, accounts.get? name = some a → a.mailboxes.Ordered

theorem AllOrdered.put {accounts : NameMap StoreAccount} (h : AllOrdered accounts) (name : String)
    {a : StoreAccount} (ha : a.mailboxes.Ordered) : AllOrdered (accounts.put name a) := by
  intro other b hb
  rw [NameMap.get?_put] at hb
  split at hb
  · exact Option.some.inj hb ▸ ha
  · exact h other b hb

/-- A search that succeeds has found a target for its first recipient and goes on with it. -/
theorem targets_cons_ok {accounts after : NameMap StoreAccount} {rcpt : String × Header}
    {rcpts : List (String × Header)} {mailboxes : List String}
    (h : targets special? accounts (rcpt :: rcpts) = (.ok mailboxes, after)) :
    ∃ a mailbox placed rest, accounts.get? rcpt.1 = some a ∧
      target special? a = .ok (mailbox, placed) ∧
      targets special? (accounts.put rcpt.1 placed) rcpts = (.ok rest, after) ∧
      mailboxes = mailbox :: rest := by
  obtain ⟨name, fields⟩ := rcpt
  rw [targets] at h
  cases hname : accounts.get? name with
  | none => rw [hname] at h; cases h
  | some a =>
      rw [hname] at h
      dsimp only at h
      cases ht : target special? a with
      | error fault => rw [ht] at h; cases h
      | ok found =>
          rw [ht] at h
          dsimp only at h
          cases hrest : targets special? (accounts.put name found.2) rcpts with
          | mk answer after' =>
              rw [hrest] at h
              cases answer with
              | error fault => cases h
              | ok rest =>
                  cases h
                  exact ⟨a, found.1, found.2, rest, rfl, ht, hrest, rfl⟩

/-- What a search that succeeds leaves behind. -/
theorem targets_ok : ∀ {rcpts : List (String × Header)} {accounts after : NameMap StoreAccount}
    {mailboxes : List String}, (rcpts.map Prod.fst).Nodup →
      targets special? accounts rcpts = (.ok mailboxes, after) →
        mailboxes.length = rcpts.length ∧
        (∀ name, name ∉ rcpts.map Prod.fst → after.get? name = accounts.get? name) ∧
        ∀ copy ∈ rcpts.zip mailboxes, ∃ a placed, accounts.get? copy.1.1 = some a ∧
          target special? a = .ok (copy.2, placed) ∧ after.get? copy.1.1 = some placed
  | [], accounts, after, mailboxes, _, h => by
      cases h
      exact ⟨rfl, fun _ _ => rfl, fun _ m => by cases m⟩
  | rcpt :: rcpts, accounts, after, mailboxes, hnodup, h => by
      obtain ⟨hnew, hnodup⟩ := List.nodup_cons.mp hnodup
      obtain ⟨a, mailbox, placed, rest, ha, ht, hrest, rfl⟩ := targets_cons_ok h
      obtain ⟨hlen, hsame, hcopies⟩ := targets_ok hnodup hrest
      refine ⟨by rw [List.length_cons, List.length_cons, hlen], ?_, ?_⟩
      · intro name hname
        rw [List.map_cons, List.mem_cons, not_or] at hname
        rw [hsame name hname.2, NameMap.get?_put, if_neg (Ne.symm hname.1)]
      · intro copy m
        rcases List.mem_cons.mp m with rfl | m
        · refine ⟨a, placed, ha, ht, ?_⟩
          rw [hsame rcpt.1 hnew, NameMap.get?_put_self]
        · obtain ⟨b, p, hb, hp, hafter⟩ := hcopies copy m
          have hne : rcpt.1 ≠ copy.1.1 := by
            intro e
            exact hnew (e ▸ List.mem_map_of_mem (List.of_mem_zip m).1)
          rw [NameMap.get?_put, if_neg hne] at hb
          exact ⟨b, p, hb, hp, hafter⟩

/-- A search for a special mailbox succeeds if the accounts exist. -/
theorem targets_special_ok (special : String × String) : ∀ (rcpts : List (String × Header))
    (accounts : NameMap StoreAccount), (∀ r ∈ rcpts, accounts.contains r.1 = true) →
      ∃ mailboxes after, targets (some special) accounts rcpts = (.ok mailboxes, after)
  | [], accounts, _ => ⟨[], accounts, rfl⟩
  | rcpt :: rcpts, accounts, h => by
      obtain ⟨a, ha⟩ := NameMap.contains_eq_true_iff.mp (h rcpt List.mem_cons_self)
      obtain ⟨mailboxes, after, e⟩ := targets_special_ok special rcpts
        (accounts.put rcpt.1 (a.specialMailbox special.1 special.2).2)
        fun r m => NameMap.contains_put (h r (List.mem_cons_of_mem rcpt m)) _ _
      refine ⟨(a.specialMailbox special.1 special.2).1 :: mailboxes, after, ?_⟩
      rw [targets, ha]
      dsimp only [target]
      rw [e]

/-- A search for inboxes changes nothing. -/
theorem get?_of_targets_none :
    ∀ {rcpts : List (String × Header)} {accounts after : NameMap StoreAccount}
    {answer : Except StoreFault (List String)}, targets none accounts rcpts = (answer, after) →
      ∀ name, after.get? name = accounts.get? name
  | [], accounts, after, answer, h, name => by cases h; rfl
  | (rcpt, fields) :: rcpts, accounts, after, answer, h, name => by
      rw [targets] at h
      cases ha : accounts.get? rcpt with
      | none => rw [ha] at h; cases h; rfl
      | some a =>
          rw [ha] at h
          dsimp only [target] at h
          by_cases hc : a.mailboxes.contains inbox = true
          · rw [if_pos hc] at h
            dsimp only at h
            cases hrest : targets none (accounts.put rcpt a) rcpts with
            | mk answer' after' =>
                have ih := get?_of_targets_none hrest name
                have hput : (accounts.put rcpt a).get? name = accounts.get? name := by
                  rw [NameMap.get?_put]
                  split
                  · next e => rw [← e, ha]
                  · rfl
                rw [hrest] at h
                cases answer' <;> (cases h; exact ih.trans hput)
          · rw [if_neg hc] at h
            cases h
            rfl

/-- A search keeps whatever putting targets in place keeps. -/
theorem targets_keeps {P : NameMap StoreAccount → Prop}
    (hput : ∀ {accounts name a mailbox placed}, P accounts → accounts.get? name = some a →
      target special? a = .ok (mailbox, placed) → P (accounts.put name placed))
    (rcpts : List (String × Header)) {accounts : NameMap StoreAccount} (h : P accounts) :
    P (targets special? accounts rcpts).2 := by
  induction rcpts generalizing accounts with
  | nil => exact h
  | cons first rcpts ih =>
      obtain ⟨rcpt, fields⟩ := first
      rw [targets]
      cases ha : accounts.get? rcpt with
      | none => exact h
      | some a =>
          dsimp only
          cases ht : target special? a with
          | error fault => exact h
          | ok found =>
              have ih := ih (hput h ha ht)
              dsimp only
              cases hrest : targets special? (accounts.put rcpt found.2) rcpts with
              | mk answer after =>
                  rw [hrest] at ih
                  cases answer <;> exact ih

/-- Whether an account exists and has an inbox. -/
def hasInbox (accounts : NameMap StoreAccount) (name : String) : Bool :=
  (accounts.get? name).any fun a => a.mailboxes.contains inbox

/-- An account with an inbox exists. -/
theorem contains_of_hasInbox {accounts : NameMap StoreAccount} {name : String}
    (h : hasInbox accounts name = true) : accounts.contains name = true := by
  rw [hasInbox, Option.any_eq_true] at h
  obtain ⟨a, ha, -⟩ := h
  exact NameMap.contains_eq_true_iff.mpr ⟨a, ha⟩

/-- **A search for inboxes** succeeds if all of them are there, and changes nothing either way. -/
theorem targets_none_eq {accounts : NameMap StoreAccount} (hordered : accounts.Ordered) :
    ∀ {rcpts : List (String × Header)}, (∀ r ∈ rcpts, accounts.contains r.1 = true) →
      targets none accounts rcpts =
        (if rcpts.all (fun r => hasInbox accounts r.1) then .ok (rcpts.map fun _ => inbox)
          else .error .noSuchMailbox, accounts)
  | [], _ => rfl
  | (name, fields) :: rcpts, hexist => by
      obtain ⟨a, ha⟩ := NameMap.contains_eq_true_iff.mp (hexist _ List.mem_cons_self)
      have ih := targets_none_eq hordered fun r m => hexist r (List.mem_cons_of_mem _ m)
      have hinbox : hasInbox accounts name = a.mailboxes.contains inbox := by rw [hasInbox, ha]; rfl
      rw [targets, ha, List.all_cons, hinbox]
      dsimp only [target]
      by_cases hc : a.mailboxes.contains inbox = true
      · rw [if_pos hc]
        dsimp only
        rw [NameMap.put_of_get? hordered ha, ih, hc, Bool.true_and]
        by_cases hall : (rcpts.all fun r => hasInbox accounts r.1) = true
        · rw [if_pos hall, if_pos hall]
          rfl
        · rw [if_neg hall, if_neg hall]
      · rw [if_neg hc, Bool.eq_false_iff.mpr hc]
        rfl

/-! ### Appending the copies -/

/-- What appending the copies does to each account. -/
theorem get?_foldl_appendCopy (header : Header) (body : Body) :
    ∀ {copies : List ((String × Header) × String)} (accounts : NameMap StoreAccount),
      (copies.map fun c => c.1.1).Nodup →
        (∀ name, name ∉ copies.map (fun c => c.1.1) →
          (copies.foldl (appendCopy header body) accounts).get? name = accounts.get? name) ∧
        ∀ copy ∈ copies, ∀ a, accounts.get? copy.1.1 = some a →
          (copies.foldl (appendCopy header body) accounts).get? copy.1.1 =
            some (a.append copy.2 ⟨copy.1.2.prepend header, body⟩)
  | [], accounts, _ => ⟨fun _ _ => rfl, fun _ m => by cases m⟩
  | first :: copies, accounts, hnodup => by
      obtain ⟨hnew, hnodup⟩ := List.nodup_cons.mp hnodup
      have hfirst : ∀ name, name ≠ first.1.1 →
          (appendCopy header body accounts first).get? name = accounts.get? name := by
        intro name hne
        unfold appendCopy
        dsimp only
        cases accounts.get? first.1.1 with
        | none => rfl
        | some a => exact (NameMap.get?_put _ _ _ _).trans (if_neg (Ne.symm hne))
      obtain ⟨hsame, hcopies⟩ := get?_foldl_appendCopy header body
        (appendCopy header body accounts first) hnodup
      rw [List.foldl_cons]
      refine ⟨?_, ?_⟩
      · intro name hname
        rw [List.map_cons, List.mem_cons, not_or] at hname
        rw [hsame name hname.2, hfirst name hname.1]
      · intro copy m a ha
        rcases List.mem_cons.mp m with rfl | m
        · rw [hsame copy.1.1 hnew]
          unfold appendCopy
          dsimp only
          rw [ha]
          exact NameMap.get?_put_self _ _ _
        · have hne : copy.1.1 ≠ first.1.1 := fun e => hnew (List.mem_map.mpr ⟨copy, m, e⟩)
          exact hcopies copy m a ((hfirst copy.1.1 hne).trans ha)

/-- Appending the copies keeps whatever appending a copy keeps. -/
theorem foldl_appendCopy_keeps {P : NameMap StoreAccount → Prop}
    (hput : ∀ {accounts name a mailbox m}, P accounts → accounts.get? name = some a →
      P (accounts.put name (a.append mailbox m)))
    (header : Header) (body : Body) (copies : List ((String × Header) × String))
    {accounts : NameMap StoreAccount} (h : P accounts) :
    P (copies.foldl (appendCopy header body) accounts) := by
  induction copies generalizing accounts with
  | nil => exact h
  | cons copy copies ih =>
      apply ih
      unfold appendCopy
      dsimp only
      cases ha : accounts.get? copy.1.1 with
      | none => exact h
      | some a => exact hput h ha

/-! ### Distributing -/

/-- A distribution is one of a deposited message, or does nothing. -/
theorem distribute_of_none {d : StoreDelivery} (h : d.deposit? = none)
    (accounts : NameMap StoreAccount) : distribute d accounts = (.ok (), accounts) := by
  rw [distribute, h]

/-- A distribution that succeeds has found all targets and appended all copies. -/
theorem distribute_eq_ok {d : StoreDelivery} {header : Header} {body : Body}
    (hd : d.deposit? = some (header, body)) {accounts after : NameMap StoreAccount}
    (h : distribute d accounts = (.ok (), after)) :
    ∃ mailboxes placed, targets d.special? accounts d.rcpts = (.ok mailboxes, placed) ∧
      after = (d.rcpts.zip mailboxes).foldl (appendCopy header body) placed := by
  rw [distribute, hd] at h
  dsimp only at h
  cases ht : targets d.special? accounts d.rcpts with
  | mk answer placed =>
      rw [ht] at h
      cases answer with
      | error fault => cases h
      | ok mailboxes =>
          cases h
          exact ⟨mailboxes, placed, rfl, rfl⟩

/-- A distribution to accounts that exist succeeds, unless it needs inboxes that are not there. -/
theorem exists_distribute_eq_ok {d : StoreDelivery} {accounts : NameMap StoreAccount}
    (hordered : accounts.Ordered) (hexist : ∀ r ∈ d.rcpts, accounts.contains r.1 = true)
    (hinbox : d.special? = none → ∀ r ∈ d.rcpts, hasInbox accounts r.1 = true) :
    ∃ after, distribute d accounts = (.ok (), after) := by
  cases hd : d.deposit? with
  | none => exact ⟨accounts, distribute_of_none hd accounts⟩
  | some deposit =>
      unfold distribute
      rw [hd]
      dsimp only
      cases hs : d.special? with
      | some special =>
          obtain ⟨mailboxes, after, e⟩ := targets_special_ok special d.rcpts accounts hexist
          rw [e]
          exact ⟨_, rfl⟩
      | none =>
          rw [targets_none_eq hordered hexist, if_pos (List.all_eq_true.mpr (hinbox hs))]
          exact ⟨_, rfl⟩

theorem map_fst_zip_eq {rcpts : List (String × Header)} {mailboxes : List String}
    (h : mailboxes.length = rcpts.length) :
    (rcpts.zip mailboxes).map (fun c => c.1.1) = rcpts.map Prod.fst := by
  have e : (rcpts.zip mailboxes).map Prod.fst = rcpts := List.map_fst_zip (Nat.le_of_eq h.symm)
  calc (rcpts.zip mailboxes).map (fun c => c.1.1)
      = ((rcpts.zip mailboxes).map Prod.fst).map Prod.fst := by rw [List.map_map]; rfl
    _ = rcpts.map Prod.fst := by rw [e]

/-- **Every recipient receives one copy,** and no other account changes. -/
theorem receives_of_distribute {d : StoreDelivery} {header : Header} {body : Body}
    (hd : d.deposit? = some (header, body)) {accounts after : NameMap StoreAccount}
    (hordered : AllOrdered accounts) (hnodup : (d.rcpts.map Prod.fst).Nodup)
    (h : distribute d accounts = (.ok (), after)) :
    (∀ r ∈ d.rcpts, ∃ a b mailbox, accounts.get? r.1 = some a ∧ after.get? r.1 = some b ∧
      StoreAccount.Receives d.special? a ⟨r.2.prepend header, body⟩ mailbox b) ∧
    ∀ name, name ∉ d.rcpts.map Prod.fst → after.get? name = accounts.get? name := by
  obtain ⟨mailboxes, placed, ht, rfl⟩ := distribute_eq_ok hd h
  obtain ⟨hlen, hsame, hfound⟩ := targets_ok hnodup ht
  have hnames := map_fst_zip_eq hlen
  obtain ⟨hkeep, hcopy⟩ := get?_foldl_appendCopy header body placed (hnames ▸ hnodup)
  refine ⟨?_, ?_⟩
  · intro r m
    obtain ⟨i, hi, rfl⟩ := List.getElem_of_mem m
    have hz : i < (d.rcpts.zip mailboxes).length := by
      rw [List.length_zip, hlen, Nat.min_self]
      exact hi
    have mz : (d.rcpts[i], mailboxes[i]) ∈ d.rcpts.zip mailboxes := by
      have := List.getElem_mem hz
      rwa [List.getElem_zip] at this
    obtain ⟨a, p, ha, htarget, hp⟩ := hfound _ mz
    refine ⟨a, _, mailboxes[i], ha, hcopy _ mz p hp, ?_⟩
    exact (StoreAccount.holds_of_target (hordered _ a ha) htarget).append _
  · intro name hname
    rw [hkeep name (hnames ▸ hname), hsame name hname]

/-- A distribution that fails changes no account, if the recipients exist. -/
theorem get?_of_distribute_error {d : StoreDelivery} {accounts after : NameMap StoreAccount}
    {fault : StoreFault} (hexist : ∀ r ∈ d.rcpts, accounts.contains r.1 = true)
    (h : distribute d accounts = (.error fault, after)) (name : String) :
    after.get? name = accounts.get? name := by
  cases hd : d.deposit? with
  | none => rw [distribute_of_none hd] at h; cases h
  | some deposit =>
      rw [distribute, hd] at h
      dsimp only at h
      cases hs : d.special? with
      | some special =>
          obtain ⟨mailboxes, placed, e⟩ := targets_special_ok special d.rcpts accounts hexist
          rw [hs, e] at h
          cases h
      | none =>
          rw [hs] at h
          cases ht : targets none accounts d.rcpts with
          | mk answer placed =>
              rw [ht] at h
              cases answer with
              | ok mailboxes => cases h
              | error fault' =>
                  cases h
                  exact get?_of_targets_none ht name

/-- A distribution keeps whatever its two steps keep. -/
theorem distribute_keeps {P : NameMap StoreAccount → Prop} (d : StoreDelivery)
    (htarget : ∀ {accounts name a mailbox placed}, P accounts → accounts.get? name = some a →
      target d.special? a = .ok (mailbox, placed) → P (accounts.put name placed))
    (happend : ∀ {accounts name a mailbox m}, P accounts → accounts.get? name = some a →
      P (accounts.put name (a.append mailbox m)))
    {accounts : NameMap StoreAccount} (h : P accounts) : P (distribute d accounts).2 := by
  unfold distribute
  cases d.deposit? with
  | none => exact h
  | some deposit =>
      have ht : P (targets d.special? accounts d.rcpts).2 := targets_keeps htarget d.rcpts h
      dsimp only
      cases hr : targets d.special? accounts d.rcpts with
      | mk answer placed =>
          rw [hr] at ht
          cases answer with
          | error fault => exact ht
          | ok mailboxes => exact foldl_appendCopy_keeps happend _ _ _ ht

theorem allOrdered_distribute (d : StoreDelivery) {accounts : NameMap StoreAccount}
    (h : AllOrdered accounts) : AllOrdered (distribute d accounts).2 :=
  distribute_keeps d
    (fun h ha ht => h.put _ (StoreAccount.ordered_of_target (h _ _ ha) ht))
    (fun h ha => h.put _ (StoreAccount.ordered_append (h _ _ ha) _ _)) h

theorem ordered_distribute (d : StoreDelivery) {accounts : NameMap StoreAccount}
    (h : accounts.Ordered) : (distribute d accounts).2.Ordered :=
  distribute_keeps (P := NameMap.Ordered) d (fun h _ _ => NameMap.ordered_put h _ _)
    (fun h _ => NameMap.ordered_put h _ _) h

end Store

end Mailroom
