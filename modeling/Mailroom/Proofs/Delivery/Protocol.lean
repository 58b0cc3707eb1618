import Mailroom.Proofs.Delivery.CallLog

/-! # The protocol between a transaction and its store

Whatever a client asks of a transaction and whatever the store answers, the calls that reach the
store follow a protocol: `Reached` says which call may come next.  What the protocol promises
(`Orderly`) and what it says about the state and the accounts of the transaction is read off the
calls alone; the main result is `orderly_run`. -/

namespace Mailroom

/-! ### What is read off the calls -/

namespace DeliveryCall

/-- Whether nothing may follow a call: a successful commit, or an abort. -/
def ends (call : DeliveryCall) : Bool := call.operation == .abort || call == ⟨.commit, true⟩

/-- The account that a call added. -/
def added? : DeliveryCall → Option String
  | ⟨.addRcpt account, true⟩ => some account
  | _ => none

theorem added?_eq_some_iff {call : DeliveryCall} {account : String} :
    call.added? = some account ↔ call = ⟨.addRcpt account, true⟩ := by
  obtain ⟨operation, ok⟩ := call
  cases operation <;> cases ok <;> simp [added?]

end DeliveryCall

/-- The state of a transaction, as the calls tell it. -/
def stateAfter (log : List DeliveryCall) : TransactionState :=
  if log.any (·.operation == .abort) then .aborted
  else if log.contains ⟨.commit, true⟩ then .committed
  else if log.contains ⟨.body, true⟩ then .bodyDeposited
  else .created

/-- What the calls on one delivery have in common. -/
structure Orderly (log : List DeliveryCall) : Prop where
  /-- Nothing follows a successful commit or an abort. -/
  ended : log.Pairwise fun earlier _ => earlier.ends = false
  /-- Only the end follows a successful deposit. -/
  deposited : log.Pairwise fun earlier later => earlier = ⟨.body, true⟩ →
    later.operation = .commit ∨ later.operation = .abort
  oneCommit : log.countP (· == ⟨.commit, true⟩) ≤ 1
  oneAbort : log.countP (·.operation == .abort) ≤ 1
  oneBody : log.countP (· == ⟨.body, true⟩) ≤ 1
  /-- No account is added twice. -/
  accounts : (log.filterMap DeliveryCall.added?).Nodup

/-! ### The protocol -/

/-- The state after a call. -/
def TransactionState.after (state : TransactionState) : DeliveryCall → TransactionState
  | ⟨.abort, _⟩ => .aborted
  | ⟨.commit, true⟩ => .committed
  | ⟨.body, true⟩ => .bodyDeposited
  | _ => state

/-- Whether a call may come next in a state with these accounts added. -/
structure Permitted (state : TransactionState) (added : List String) (call : DeliveryCall) :
    Prop where
  unfinished : state.isFinal = false
  created : call.operation = .commit ∨ call.operation = .abort ∨ state = .created
  fresh : ∀ account, call.added? = some account → account ∉ added

/-- `Reached log state added`: the calls in `log` may bring a transaction from its start to `state`,
with the accounts `added`, the last one first. -/
inductive Reached : List DeliveryCall → TransactionState → List String → Prop
  | start : Reached [] .created []
  | call {log : List DeliveryCall} {state : TransactionState} {added : List String}
      {next : DeliveryCall} : Reached log state added → Permitted state added next →
        Reached (log ++ [next]) (state.after next) (next.added?.toList ++ added)

/-! ### What the protocol promises -/

theorem countP_le_one {α : Type} {p : α → Bool} {l : List α}
    (h : l.Pairwise fun a b => p a = true → p b = false) : l.countP p ≤ 1 := by
  induction l with
  | nil => exact Nat.zero_le 1
  | cons a l ih =>
      obtain ⟨ha, hl⟩ := List.pairwise_cons.mp h
      by_cases hp : p a = true
      · have hzero : l.countP p = 0 := List.countP_eq_zero.mpr fun b m => by simp [ha b m hp]
        exact Nat.le_of_eq (by rw [List.countP_cons_of_pos hp, hzero])
      · rw [List.countP_cons_of_neg hp]
        exact ih hl

theorem ends_of_unfinished {log : List DeliveryCall} (h : (stateAfter log).isFinal = false)
    {call : DeliveryCall} (hc : call ∈ log) : call.ends = false := by
  unfold stateAfter at h
  split at h
  · cases h
  · next habort =>
    split at h
    · cases h
    · next hcommit =>
      have h1 : (call.operation == .abort) = false := by
        simp only [Bool.not_eq_true, List.any_eq_false] at habort
        simpa using habort call hc
      have h2 : (call == ⟨.commit, true⟩) = false := by
        refine beq_eq_false_iff_ne.mpr ?_
        rintro rfl
        exact hcommit (List.contains_iff_mem.mpr hc)
      rw [DeliveryCall.ends, h1, h2]
      rfl

theorem notMem_of_created {log : List DeliveryCall} (h : stateAfter log = .created) :
    (⟨.body, true⟩ : DeliveryCall) ∉ log := by
  intro hc
  unfold stateAfter at h
  rw [if_pos (List.contains_iff_mem.mpr hc)] at h
  split at h
  · cases h
  · split at h <;> cases h

/-- Every call moves the state that is read off the calls. -/
theorem stateAfter_append {log : List DeliveryCall} (h : (stateAfter log).isFinal = false)
    (next : DeliveryCall) : stateAfter (log ++ [next]) = (stateAfter log).after next := by
  have habort : log.any (·.operation == .abort) = false := by
    refine List.any_eq_false.mpr fun call hc => ?_
    have := ends_of_unfinished h hc
    simp only [DeliveryCall.ends, Bool.or_eq_false_iff] at this
    simp [this.1]
  have hcommit : log.contains ⟨.commit, true⟩ = false := by
    refine Bool.eq_false_iff.mpr fun hc => ?_
    have := ends_of_unfinished h (List.contains_iff_mem.mp hc)
    simp [DeliveryCall.ends] at this
  obtain ⟨operation, ok⟩ := next
  unfold stateAfter
  simp only [List.any_append, List.contains_append, habort, hcommit, Bool.false_or]
  cases operation <;> cases ok <;> cases log.contains ⟨.body, true⟩ <;> rfl

/-- What is read off the calls, and what their order promises. -/
structure ReadOff (log : List DeliveryCall) (state : TransactionState) (added : List String) :
    Prop where
  state_eq : state = stateAfter log
  added_eq : added = (log.filterMap DeliveryCall.added?).reverse
  ended : log.Pairwise fun earlier _ => earlier.ends = false
  deposited : log.Pairwise fun earlier later => earlier = ⟨.body, true⟩ →
    later.operation = .commit ∨ later.operation = .abort
  accounts : (log.filterMap DeliveryCall.added?).Nodup

theorem pairwise_concat {α : Type} {R : α → α → Prop} {l : List α} {a : α} (h : l.Pairwise R)
    (ha : ∀ b ∈ l, R b a) : (l ++ [a]).Pairwise R :=
  List.pairwise_append.mpr ⟨h, List.pairwise_singleton R a, fun b hb _ hc =>
    List.mem_singleton.mp hc ▸ ha b hb⟩

/-- **Calls that follow the protocol tell the state and the accounts,** and keep its order. -/
theorem Reached.readOff {log : List DeliveryCall} {state : TransactionState} {added : List String}
    (h : Reached log state added) : ReadOff log state added := by
  induction h with
  | start => exact ⟨rfl, rfl, .nil, .nil, List.nodup_nil⟩
  | @call log state added next _ hnext ih =>
      obtain ⟨rfl, rfl, hended, hdeposited, haccounts⟩ := ih
      obtain ⟨hopen, hcreated, hfresh⟩ := hnext
      have hlast : (log ++ [next]).filterMap DeliveryCall.added? =
          log.filterMap DeliveryCall.added? ++ next.added?.toList := by
        rw [List.filterMap_append]
        cases hn : next.added? <;> simp [hn]
      refine ⟨(stateAfter_append hopen next).symm, ?_, ?_, ?_, ?_⟩
      · rw [hlast, List.reverse_append]
        cases next.added? <;> rfl
      · exact pairwise_concat hended fun earlier he => ends_of_unfinished hopen he
      · refine pairwise_concat hdeposited fun earlier he hbody => ?_
        rcases hcreated with hc | hc | hc
        · exact .inl hc
        · exact .inr hc
        · exact absurd (hbody ▸ he) (notMem_of_created hc)
      · rw [hlast]
        cases hn : next.added? with
        | none => simpa using haccounts
        | some account =>
            have := hfresh account hn
            rw [List.mem_reverse] at this
            refine List.nodup_append.mpr ⟨haccounts, List.pairwise_singleton _ account, ?_⟩
            intro a ha c hc e
            obtain rfl := List.mem_singleton.mp hc
            exact this (e ▸ ha)

theorem ReadOff.orderly {log : List DeliveryCall} {state : TransactionState} {added : List String}
    (h : ReadOff log state added) : Orderly log := by
  refine ⟨h.ended, h.deposited, ?_, ?_, ?_, h.accounts⟩
  · refine countP_le_one (h.ended.imp fun {earlier later} hends he => ?_)
    rw [beq_iff_eq] at he
    subst he
    cases hends
  · refine countP_le_one (h.ended.imp fun {earlier later} hends he => ?_)
    rw [DeliveryCall.ends, he] at hends
    cases hends
  · refine countP_le_one (h.deposited.imp fun {earlier later} hlater he => ?_)
    refine beq_eq_false_iff_ne.mpr ?_
    rintro rfl
    rcases hlater (beq_iff_eq.mp he) with h | h <;> cases h

/-! ### Transactions follow the protocol -/

variable {σ δ : Type}

/-- An outcome over the recording store: one over the store itself, with this log. -/
def withLog {α τ : Type} (log : List DeliveryCall) (o : α × σ × τ) :
    α × (σ × List DeliveryCall) × τ :=
  (o.1, (o.2.1, log), o.2.2)

/-- The outcome over the recording store is the one over the store itself, and the calls written
down on the way follow the protocol. -/
def Conforms (recorded : Except Failure Unit × (σ × List DeliveryCall) × Transaction δ)
    (plain : Except Failure Unit × σ × Transaction δ) (log : List DeliveryCall)
    (tx : Transaction δ) : Prop :=
  ∃ more, recorded = withLog (log ++ more) plain ∧
    (Reached log tx.state tx.added → Reached (log ++ more) plain.2.2.state plain.2.2.added)

namespace Transaction

variable (b : Backend σ δ) (s : σ) (log : List DeliveryCall) (tx : Transaction δ)

/-- An operation that calls no store. -/
theorem conforms_of_noCall (answer : Except Failure Unit) :
    Conforms (answer, (s, log), tx) (answer, s, tx) log tx :=
  ⟨[], by rw [List.append_nil]; rfl, fun h => by rwa [List.append_nil]⟩

theorem conforms_addAccount (rcpt : String) {account : Account} (hstate : tx.state = .created)
    (hnew : account.name ∉ tx.added) :
    Conforms (addAccount b.recorded rcpt account tx ((s, log), tx)).outcome
      (addAccount b rcpt account tx (s, tx)).outcome log tx := by
  rw [addAccount_outcome, addAccount_outcome]
  simp only [Backend.recorded, recordedAct]
  cases (b.addRcpt account.name ⟨[deliveredTo rcpt]⟩ (s, tx.delivery)).answer with
  | error fault =>
      refine ⟨[⟨.addRcpt account.name, false⟩], rfl, fun h => ?_⟩
      exact h.call ⟨by rw [hstate]; rfl, .inr (.inr hstate), fun _ e => by cases e⟩
  | ok _ =>
      refine ⟨[⟨.addRcpt account.name, true⟩], rfl, fun h => ?_⟩
      exact h.call ⟨by rw [hstate]; rfl, .inr (.inr hstate), fun _ e => by cases e; exact hnew⟩

theorem conforms_addRcpt (rcpt : String) (hstate : tx.state = .created) :
    Conforms (addRcpt b.recorded rcpt ((s, log), tx)).outcome (addRcpt b rcpt (s, tx)).outcome
      log tx := by
  rw [addRcpt_outcome _ _ _ _ hstate, addRcpt_outcome _ _ _ _ hstate]
  cases Account.ofAddress rcpt tx.rules.perDomain with
  | error fault => exact conforms_of_noCall s log tx _
  | ok account =>
      dsimp only
      by_cases hm : account.name ∈ tx.added
      · rw [if_pos hm, if_pos hm]
        exact conforms_of_noCall s log tx _
      · rw [if_neg hm, if_neg hm]
        exact conforms_addAccount b s log tx rcpt hstate hm

theorem conforms_depositBody (header : Header) (content : Body) (old : Transaction δ)
    (hstate : tx.state = .created) :
    Conforms (depositBody b.recorded header content old ((s, log), tx)).outcome
      (depositBody b header content old (s, tx)).outcome log tx := by
  rw [depositBody_outcome, depositBody_outcome]
  simp only [Backend.recorded, recordedAct]
  cases (b.body (header.addField (returnPath old.sender)) content.length content
    (s, tx.delivery)).answer with
  | error fault =>
      refine ⟨[⟨.body, false⟩], rfl, fun h => ?_⟩
      exact h.call ⟨by rw [hstate]; rfl, .inr (.inr hstate), fun _ e => by cases e⟩
  | ok _ =>
      refine ⟨[⟨.body, true⟩], rfl, fun h => ?_⟩
      exact h.call ⟨by rw [hstate]; rfl, .inr (.inr hstate), fun _ e => by cases e⟩

theorem conforms_body (header : Header) (content : Body) (hstate : tx.state = .created) :
    Conforms (body b.recorded header content ((s, log), tx)).outcome
      (body b header content (s, tx)).outcome log tx := by
  rw [body_outcome _ _ _ _ _ hstate, body_outcome _ _ _ _ _ hstate]
  by_cases hq : tx.envelope.quarantine = true
  · rw [if_pos hq, if_pos hq]
    simp only [Backend.recorded, recordedAct]
    -- the call for the special mailbox comes first, whether the body is deposited or not
    have hspecial : ∀ ok, Reached log tx.state tx.added →
        Reached (log ++ [⟨.specialMailbox, ok⟩]) tx.state tx.added := fun ok h =>
      h.call ⟨by rw [hstate]; rfl, .inr (.inr hstate), fun _ e => by cases e⟩
    cases (b.specialMailbox junkUse tx.rules.junkMailbox (s, tx.delivery)).answer with
    | error fault => exact ⟨[⟨.specialMailbox, false⟩], rfl, hspecial false⟩
    | ok _ =>
        obtain ⟨more, e, h⟩ := conforms_depositBody b
          (b.specialMailbox junkUse tx.rules.junkMailbox (s, tx.delivery)).state.1
          (log ++ [⟨.specialMailbox, true⟩])
          (tx.withDelivery (b.specialMailbox junkUse tx.rules.junkMailbox (s, tx.delivery)).state.2)
          header content tx hstate
        rw [List.append_assoc] at e h
        exact ⟨_, e, fun hr => h (hspecial true hr)⟩
  · rw [if_neg hq, if_neg hq]
    exact conforms_depositBody b s log tx header content tx hstate

theorem unfinished_of_mem (h : tx.state ∈ [TransactionState.created, .bodyDeposited]) :
    tx.state.isFinal = false := by
  simp only [List.mem_cons, List.not_mem_nil, or_false] at h
  rcases h with h | h <;> rw [h] <;> rfl

theorem conforms_commit (hstate : tx.state ∈ [TransactionState.created, .bodyDeposited]) :
    Conforms (commit b.recorded ((s, log), tx)).outcome (commit b (s, tx)).outcome log tx := by
  have hopen := tx.unfinished_of_mem hstate
  rw [commit_outcome _ _ _ hstate, commit_outcome _ _ _ hstate]
  simp only [Backend.recorded, recordedAct]
  cases (b.commit (s, tx.delivery)).answer with
  | error fault =>
      refine ⟨[⟨.commit, false⟩], rfl, fun h => ?_⟩
      exact h.call ⟨hopen, .inl rfl, fun _ e => by cases e⟩
  | ok _ =>
      refine ⟨[⟨.commit, true⟩], rfl, fun h => ?_⟩
      exact h.call ⟨hopen, .inl rfl, fun _ e => by cases e⟩

theorem conforms_abort (hstate : tx.state ∈ [TransactionState.created, .bodyDeposited]) :
    Conforms (abort b.recorded ((s, log), tx)).outcome (abort b (s, tx)).outcome log tx := by
  have hopen := tx.unfinished_of_mem hstate
  rw [abort_outcome _ _ _ hstate, abort_outcome _ _ _ hstate]
  refine ⟨[⟨.abort, (b.abort (s, tx.delivery)).answer.isOk⟩], rfl, fun h => ?_⟩
  exact h.call ⟨hopen, .inr (.inl rfl), fun _ e => by cases e⟩

/-! ### Accounts -/

theorem mem_accounts (account : String) : account ∈ tx.accounts ↔ account ∈ tx.added :=
  List.mem_mergeSort

/-- Accounts that were added once each stand in ascending order. -/
theorem accounts_ascending (h : tx.added.Nodup) : tx.accounts.Pairwise (· < ·) := by
  have hsorted : tx.accounts.Pairwise (· ≤ ·) := by
    have : tx.accounts.Pairwise fun a b => decide (a ≤ b) = true :=
      List.pairwise_mergeSort
        (fun a b c hab hbc => by
          rw [decide_eq_true_iff] at hab hbc ⊢
          exact String.le_trans hab hbc)
        (fun a b => by simpa using String.le_total a b) tx.added
    exact this.imp fun hab => of_decide_eq_true hab
  have hnodup : tx.accounts.Pairwise (· ≠ ·) := (List.mergeSort_perm _ _).nodup_iff.mpr h
  refine (hsorted.and hnodup).imp fun {a b} hab => ?_
  exact String.not_le.mp fun hba => hab.2 (String.le_antisymm hab.1 hba)

end Transaction

/-! ### Refusals -/

/-- The kind of a failed answer. -/
def failureKind? : Except Failure Unit → Option Failure.Kind
  | .ok _ => none
  | .error failure => some failure.kind

theorem failureKind?_rejection (fault : StoreFault) :
    failureKind? (.error (Transaction.rejection fault)) ≠ some .precondition := by
  have hrecipient : some Failure.Kind.recipient ≠ some .precondition := by decide
  have hbackend : some Failure.Kind.backend ≠ some .precondition := by decide
  cases fault with
  | userDoesntExist => exact hrecipient
  | noSuchMailbox => exact hrecipient
  | io fault => exact hbackend
  | other reason => exact hbackend

theorem failureKind?_backend (answer : Except StoreFault Unit) :
    failureKind? (answer.mapError .backend) ≠ some .precondition := by
  cases answer with
  | ok _ => exact (by decide : none ≠ some Failure.Kind.precondition)
  | error fault => exact (by decide : some Failure.Kind.backend ≠ some .precondition)

namespace Transaction

variable (b : Backend σ δ) (s : σ) (tx : Transaction δ)

theorem failureKind?_addRcpt (rcpt : String) (h : tx.state = .created) :
    failureKind? (addRcpt b rcpt (s, tx)).outcome.1 ≠ some .precondition := by
  rw [addRcpt_outcome _ _ _ _ h]
  cases Account.ofAddress rcpt tx.rules.perDomain with
  | error fault => exact (by decide : some Failure.Kind.recipient ≠ some .precondition)
  | ok account =>
      dsimp only
      split
      · exact (by decide : none ≠ some Failure.Kind.precondition)
      · rw [addAccount_outcome]
        dsimp only
        cases (b.addRcpt account.name ⟨[deliveredTo rcpt]⟩ (s, tx.delivery)).answer with
        | error fault => exact failureKind?_rejection fault
        | ok _ => exact (by decide : none ≠ some Failure.Kind.precondition)

theorem failureKind?_depositBody (header : Header) (content : Body) (old : Transaction δ) :
    failureKind? (depositBody b header content old (s, tx)).outcome.1 ≠ some .precondition := by
  rw [depositBody_outcome]
  dsimp only
  cases (b.body (header.addField (returnPath old.sender)) content.length content
    (s, tx.delivery)).answer with
  | error fault => exact failureKind?_backend (.error fault)
  | ok _ => exact failureKind?_backend (.ok ())

theorem failureKind?_body (header : Header) (content : Body) (h : tx.state = .created) :
    failureKind? (body b header content (s, tx)).outcome.1 ≠ some .precondition := by
  rw [body_outcome _ _ _ _ _ h]
  split
  · dsimp only
    cases (b.specialMailbox junkUse tx.rules.junkMailbox (s, tx.delivery)).answer with
    | error fault => exact failureKind?_backend (.error fault)
    | ok _ => exact failureKind?_depositBody b _ _ header content tx
  · exact failureKind?_depositBody b s tx header content tx

theorem failureKind?_commit (h : tx.state ∈ [TransactionState.created, .bodyDeposited]) :
    failureKind? (commit b (s, tx)).outcome.1 ≠ some .precondition := by
  rw [commit_outcome _ _ _ h]
  dsimp only
  cases (b.commit (s, tx.delivery)).answer with
  | error fault => exact failureKind?_backend (.error fault)
  | ok _ => exact failureKind?_backend (.ok ())

theorem failureKind?_abort (h : tx.state ∈ [TransactionState.created, .bodyDeposited]) :
    failureKind? (abort b (s, tx)).outcome.1 ≠ some .precondition := by
  rw [abort_outcome _ _ _ h]
  exact failureKind?_backend _

end Transaction

/-- A call answers that it came in the wrong state if and only if the state does not allow it. -/
theorem TransactionCall.failureKind?_act_iff (b : Backend σ δ) (s : σ) (tx : Transaction δ)
    (call : TransactionCall) :
    failureKind? (call.act b (s, tx)).answer = some .precondition ↔ tx.state ∉ call.allowedIn := by
  constructor
  · intro h hstate
    cases call with
    | addRcpt rcpt =>
        have hcreated : tx.state = .created := by simpa [allowedIn] using hstate
        exact Transaction.failureKind?_addRcpt b s tx rcpt hcreated h
    | body header content =>
        have hcreated : tx.state = .created := by simpa [allowedIn] using hstate
        exact Transaction.failureKind?_body b s tx header content hcreated h
    | abort => exact Transaction.failureKind?_abort b s tx hstate h
    | commit => exact Transaction.failureKind?_commit b s tx hstate h
  · intro h
    rw [call.act_of_notAllowed b s h]
    rfl

/-! ### Whole runs -/

/-- A call over the recording store does what it does over the store itself. -/
theorem TransactionCall.conforms (b : Backend σ δ) (s : σ) (log : List DeliveryCall)
    (tx : Transaction δ) (call : TransactionCall) :
    Conforms (call.act b.recorded ((s, log), tx)).outcome (call.act b (s, tx)).outcome log tx := by
  by_cases h : tx.state ∈ call.allowedIn
  · cases call with
    | addRcpt rcpt =>
        exact Transaction.conforms_addRcpt b s log tx rcpt (by simpa [allowedIn] using h)
    | body header content =>
        exact Transaction.conforms_body b s log tx header content (by simpa [allowedIn] using h)
    | abort => exact Transaction.conforms_abort b s log tx h
    | commit => exact Transaction.conforms_commit b s log tx h
  · rw [call.act_of_notAllowed b.recorded (s, log) h, call.act_of_notAllowed b s h]
    exact Transaction.conforms_of_noCall s log tx _

/-- **Runs follow the protocol:** recording changes nothing, and the calls bring the transaction to
where it is. -/
theorem TransactionCall.reached_run (b : Backend σ δ) : ∀ (calls : List TransactionCall) (s : σ)
    (log : List DeliveryCall) (tx : Transaction δ), Reached log tx.state tx.added →
      let after := run b.recorded calls ((s, log), tx)
      (after.1.1, after.2) = run b calls (s, tx) ∧ Reached after.1.2 after.2.state after.2.added
  | [], _, _, _, h => ⟨rfl, h⟩
  | call :: calls, s, log, tx, h => by
      obtain ⟨more, e, hmore⟩ := call.conforms b s log tx
      have hstate : (call.act b.recorded ((s, log), tx)).state =
          (((call.act b (s, tx)).state.1, log ++ more), (call.act b (s, tx)).state.2) :=
        congrArg Prod.snd e
      have ih := reached_run b calls (call.act b (s, tx)).state.1 (log ++ more)
        (call.act b (s, tx)).state.2 (hmore h)
      unfold run at ih ⊢
      rw [List.foldl_cons, List.foldl_cons, hstate]
      exact ih

/-- **The protocol of a delivery.**  Over any store, let a client make any calls on a transaction
that was just opened.  Recording the calls that reach the store changes nothing; they are orderly,
and they tell the state and the accounts of the transaction.  A further call answers that it came
in the wrong state exactly when the state does not allow it, and then it reaches no store, changes
nothing and reports nothing. -/
theorem orderly_run (b : Backend σ δ) (s : σ) (delivery : δ) (rules : DeliveryRules)
    (envelope : Envelope) (sender : String) (calls : List TransactionCall) :
    let opened := Transaction.opened rules envelope sender delivery
    let after := TransactionCall.run b.recorded calls ((s, []), opened)
    let log := after.1.2
    let tx := after.2
    (after.1.1, tx) = TransactionCall.run b calls (s, opened) ∧
      Orderly log ∧
      tx.state = stateAfter log ∧
      tx.accounts.Pairwise (· < ·) ∧
      (∀ account, account ∈ tx.accounts ↔ ⟨.addRcpt account, true⟩ ∈ log) ∧
      ∀ call : TransactionCall,
        (failureKind? (call.act b.recorded after).answer = some .precondition ↔
          tx.state ∉ call.allowedIn) ∧
        (tx.state ∉ call.allowedIn →
          call.act b.recorded after = ⟨.error (tx.refusal call.name), after, []⟩) := by
  intro opened after log tx
  obtain ⟨hsame, hreached⟩ := TransactionCall.reached_run b calls s [] opened .start
  have hread := hreached.readOff
  refine ⟨hsame, hread.orderly, hread.state_eq, ?_, ?_, ?_⟩
  · refine tx.accounts_ascending ?_
    rw [hread.added_eq]
    exact (List.reverse_perm _).nodup_iff.mpr hread.accounts
  · intro account
    rw [tx.mem_accounts, hread.added_eq, List.mem_reverse, List.mem_filterMap]
    constructor
    · rintro ⟨call, m, h⟩
      exact DeliveryCall.added?_eq_some_iff.mp h ▸ m
    · exact fun m => ⟨_, m, rfl⟩
  · intro call
    exact ⟨call.failureKind?_act_iff b.recorded after.1 tx,
      fun h => call.act_of_notAllowed b.recorded after.1 h⟩

end Mailroom
