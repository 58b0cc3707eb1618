import Mailroom.Delivery.Transaction

/-! # What the operations of a transaction leave behind

Each operation of a transaction calls the store at most twice.  Its answer and the state after it
(`Step.outcome`) are a function of the answers of the store: one equation for each operation, over
an arbitrary store.  A call that the state does not allow leaves everything as it was
(`act_of_notAllowed`). -/

namespace Mailroom

variable {σ δ α β : Type}

/-- The answer of a step and the state after it, without the events. -/
def Step.outcome (step : Step σ α) : α × σ := (step.answer, step.state)

namespace Act

theorem bind_outcome (act : Act σ α) (next : α → Act σ β) (s : σ) :
    (act.bind next s).outcome = (next (act s).outcome.1 (act s).outcome.2).outcome := rfl

theorem andThen_outcome {ε : Type} (act : Act σ (Except ε α)) (next : α → Act σ (Except ε β))
    (s : σ) :
    (act.andThen next s).outcome = match (act s).outcome with
      | (.ok a, t) => (next a t).outcome
      | (.error e, t) => (.error e, t) := by
  rw [andThen, bind_outcome]
  rcases (act s).outcome with ⟨e | a, t⟩ <;> rfl

theorem mapError_outcome {ε ζ : Type} (words : ε → ζ) (act : Act σ (Except ε α)) (s : σ) :
    (act.mapError words s).outcome = ((act s).answer.mapError words, (act s).state) := rfl

end Act

namespace Transaction

variable (b : Backend σ δ) (s : σ) (tx : Transaction δ)

/-- The transaction with its delivery as the store left it. -/
def withDelivery (delivery : δ) : Transaction δ := { tx with delivery }

theorem onDelivery_outcome (act : Act (σ × δ) α) :
    (onDelivery act (s, tx)).outcome =
      ((act (s, tx.delivery)).answer, (act (s, tx.delivery)).state.1,
        tx.withDelivery (act (s, tx.delivery)).state.2) := rfl

/-- Reporting changes nothing. -/
theorem trace_outcome (old : Transaction δ) (message : String) (values : List (String × String))
    (p : σ × Transaction δ) : (old.trace message values p).outcome = ((), p) := by
  unfold trace Act.reportIf
  split <;> rfl

theorem whenIn_of_mem {allowed : List TransactionState} (operation : String)
    (act : TransactionAct σ δ) (h : tx.state ∈ allowed) :
    whenIn allowed operation act (s, tx) = act (s, tx) :=
  if_pos (List.contains_iff_mem.mpr h)

theorem whenIn_of_notMem {allowed : List TransactionState} (operation : String)
    (act : TransactionAct σ δ) (h : tx.state ∉ allowed) :
    whenIn allowed operation act (s, tx) = ⟨.error (tx.refusal operation), (s, tx), []⟩ :=
  if_neg fun e => h (List.contains_iff_mem.mp e)

/-! ### Recipients -/

theorem addAccount_outcome (rcpt : String) (account : Account) (old : Transaction δ) :
    (addAccount b rcpt account old (s, tx)).outcome =
      let step := b.addRcpt account.name ⟨[deliveredTo rcpt]⟩ (s, tx.delivery)
      let after := tx.withDelivery step.state.2
      match step.answer with
      | .ok () => (.ok (), step.state.1, { after with added := account.name :: after.added })
      | .error fault => (.error (rejection fault), step.state.1, after) := by
  unfold addAccount
  rw [Act.bind_outcome, onDelivery_outcome]
  dsimp only
  cases (b.addRcpt account.name ⟨[deliveredTo rcpt]⟩ (s, tx.delivery)).answer with
  | error fault => rfl
  | ok _ =>
      dsimp only
      rw [Act.bind_outcome, trace_outcome]
      rfl

theorem addRcpt_outcome (rcpt : String) (h : tx.state = .created) :
    (addRcpt b rcpt (s, tx)).outcome =
      match Account.ofAddress rcpt tx.rules.perDomain with
      | .error fault => (.error fault.failure, s, tx)
      | .ok account =>
        if account.name ∈ tx.added then (.ok (), s, tx)
        else (addAccount b rcpt account tx (s, tx)).outcome := by
  unfold addRcpt
  rw [whenIn_of_mem s tx _ _ (by simp [h])]
  dsimp only
  cases Account.ofAddress rcpt tx.rules.perDomain with
  | error fault => rfl
  | ok account =>
      dsimp only
      by_cases hm : account.name ∈ tx.added
      · rw [if_pos (List.contains_iff_mem.mpr hm), if_pos hm]
        rfl
      · rw [if_neg fun e => hm (List.contains_iff_mem.mp e), if_neg hm]

/-! ### The body -/

theorem depositBody_outcome (header : Header) (body : Body) (old : Transaction δ) :
    (depositBody b header body old (s, tx)).outcome =
      let step := b.body (header.addField (returnPath old.sender)) body.length body (s, tx.delivery)
      let after := tx.withDelivery step.state.2
      match step.answer with
      | .ok () => (.ok (), step.state.1, { after with state := .bodyDeposited })
      | .error fault => (.error (.backend fault), step.state.1, after) := by
  unfold depositBody
  rw [Act.bind_outcome, onDelivery_outcome]
  dsimp only
  cases (b.body (header.addField (returnPath old.sender)) body.length body
    (s, tx.delivery)).answer with
  | error fault => rfl
  | ok _ =>
      dsimp only
      rw [Act.bind_outcome, Act.bind_outcome, trace_outcome]
      rfl

theorem quarantine_outcome :
    (quarantine b tx (s, tx)).outcome =
      if tx.envelope.quarantine then
        let step := b.specialMailbox junkUse tx.rules.junkMailbox (s, tx.delivery)
        (step.answer.mapError .backend, step.state.1, tx.withDelivery step.state.2)
      else (.ok (), s, tx) := by
  unfold quarantine
  split
  · rfl
  · rfl

theorem body_outcome (header : Header) (content : Body) (h : tx.state = .created) :
    (body b header content (s, tx)).outcome =
      if tx.envelope.quarantine then
        let step := b.specialMailbox junkUse tx.rules.junkMailbox (s, tx.delivery)
        let after := tx.withDelivery step.state.2
        match step.answer with
        | .ok () => (depositBody b header content tx (step.state.1, after)).outcome
        | .error fault => (.error (.backend fault), step.state.1, after)
      else (depositBody b header content tx (s, tx)).outcome := by
  unfold body
  rw [whenIn_of_mem s tx _ _ (by simp [h]), Act.andThen_outcome, quarantine_outcome]
  by_cases hq : tx.envelope.quarantine = true
  · rw [if_pos hq, if_pos hq]
    dsimp only
    cases (b.specialMailbox junkUse tx.rules.junkMailbox (s, tx.delivery)).answer with
    | error fault => rfl
    | ok _ => rfl
  · rw [if_neg hq, if_neg hq]

/-! ### The end -/

theorem commit_outcome (h : tx.state ∈ [TransactionState.created, .bodyDeposited]) :
    (commit b (s, tx)).outcome =
      let step := b.commit (s, tx.delivery)
      let after := tx.withDelivery step.state.2
      match step.answer with
      | .ok () => (.ok (), step.state.1, { after with state := .committed })
      | .error fault => (.error (.backend fault), step.state.1, after) := by
  unfold commit
  rw [whenIn_of_mem s tx _ _ h, Act.andThen_outcome, Act.mapError_outcome]
  obtain ⟨ha, hs⟩ := Prod.mk.inj (onDelivery_outcome s tx b.commit)
  rw [ha, hs]
  dsimp only
  cases (b.commit (s, tx.delivery)).answer with
  | error fault => rfl
  | ok _ =>
      show (Act.bind _ _ _).outcome = _
      rw [Act.bind_outcome, Act.bind_outcome, trace_outcome]
      rfl

theorem abort_outcome (h : tx.state ∈ [TransactionState.created, .bodyDeposited]) :
    (abort b (s, tx)).outcome =
      let step := b.abort (s, tx.delivery)
      (step.answer.mapError .backend, step.state.1,
        { tx.withDelivery step.state.2 with state := .aborted }) := by
  unfold abort
  rw [whenIn_of_mem s tx _ _ h, Act.bind_outcome, Act.andThen_outcome, Act.mapError_outcome]
  have e : (update (fun tx => { tx with state := .aborted }) (s, tx)).outcome.2 =
      (s, { tx with state := .aborted }) := rfl
  rw [e]
  obtain ⟨ha, hs⟩ := Prod.mk.inj (onDelivery_outcome s { tx with state := .aborted } b.abort)
  rw [ha, hs]
  dsimp only
  cases (b.abort (s, tx.delivery)).answer with
  | error fault => rfl
  | ok _ =>
      show (Act.bind _ _ _).outcome = _
      rw [Act.bind_outcome, trace_outcome]
      rfl

end Transaction

end Mailroom
