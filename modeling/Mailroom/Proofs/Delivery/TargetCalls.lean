import Mailroom.Delivery.Recorder
import Mailroom.Proofs.Delivery.Outcome

/-! # The calls that a target sees

`Target.recorded` is a target that writes down every call and how the call ended; apart from that it
does what the target below it does.  The steps of a delivery follow a plan up to the first failure
(`StepCalls`).  Two acts with plans of their own follow both plans in turn (`Records.andThen`), and
so the calls of a whole delivery are known from its recipients alone: `Driven` says what they can
be, and the main result is `deliver_drives`. -/

namespace Mailroom

variable {σ δ α : Type}

/-! ### Recording -/

/-- An operation of a target, with what it is given. -/
inductive TargetOperation where
  | start (envelope : Envelope) (sender : String)
  | addRcpt (rcpt : String)
  | body (header : Header) (body : Body)
  | commit
  | abort
deriving DecidableEq, Repr

/-- A call of an operation, and the failure if the call failed. -/
structure TargetCall where
  operation : TargetOperation
  failure? : Option Failure
deriving DecidableEq, Repr

namespace TargetCall

/-- A call that succeeded. -/
def done (operation : TargetOperation) : TargetCall := ⟨operation, none⟩

/-- A call that ended in this way. -/
def ended (operation : TargetOperation) (answer : Except Failure α) : TargetCall where
  operation := operation
  failure? := match answer with
    | .ok _ => none
    | .error failure => some failure

end TargetCall

/-- An operation on an open delivery that writes its call down. -/
def recordedStep (operation : TargetOperation) (act : Act (σ × δ) (Except Failure Unit)) :
    Act ((σ × List TargetCall) × δ) (Except Failure Unit) := fun ((s, log), delivery) =>
  let step := act (s, delivery)
  ⟨step.answer, ((step.state.1, log ++ [.ended operation step.answer]), step.state.2), step.events⟩

/-- The target that writes down every call. -/
def Target.recorded (t : Target σ δ) : Target (σ × List TargetCall) δ where
  name := t.name
  instanceName := t.instanceName
  start envelope sender := fun (s, log) =>
    let step := t.start envelope sender s
    ⟨step.answer, (step.state, log ++ [.ended (.start envelope sender) step.answer]), step.events⟩
  addRcpt rcpt := recordedStep (.addRcpt rcpt) (t.addRcpt rcpt)
  body header content := recordedStep (.body header content) (t.body header content)
  abort := recordedStep .abort t.abort
  commit := recordedStep .commit t.commit

/-! ### Plans -/

/-- The calls on the way through a plan with this answer: all of them, or those up to the first that
failed. -/
inductive StepCalls (plan : List TargetOperation) : Except Failure Unit → List TargetCall → Prop
  | all : StepCalls plan (.ok ()) (plan.map .done)
  | failed {before rest : List TargetOperation} {operation : TargetOperation} (failure : Failure)
      (hplan : plan = before ++ operation :: rest) :
      StepCalls plan (.error failure) (before.map .done ++ [⟨operation, some failure⟩])

namespace StepCalls

variable {plan later : List TargetOperation} {answer : Except Failure Unit}
  {calls more : List TargetCall} {failure : Failure}

theorem single (operation : TargetOperation) (answer : Except Failure Unit) :
    StepCalls [operation] answer [.ended operation answer] := by
  cases answer with
  | ok _ => exact .all
  | error failure =>
      have hplan : [operation] = [] ++ operation :: [] := rfl
      exact .failed failure hplan

/-- What comes after a failure is not called. -/
theorem append_of_error (h : StepCalls plan (.error failure) calls)
    (later : List TargetOperation) : StepCalls (plan ++ later) (.error failure) calls := by
  cases h with
  | @failed before rest operation _ hplan =>
      have hlonger : plan ++ later = before ++ operation :: (rest ++ later) := by
        rw [hplan, List.append_assoc, List.cons_append]
      exact .failed failure hlonger

/-- A plan that was followed to its end is followed by the next one. -/
theorem append_of_ok (h : StepCalls plan (.ok ()) calls) (hlater : StepCalls later answer more) :
    StepCalls (plan ++ later) answer (calls ++ more) := by
  cases h with
  | all =>
      cases hlater with
      | all =>
          rw [← List.map_append]
          exact .all
      | @failed before rest operation failure hplan =>
          have hlonger : plan ++ later = (plan ++ before) ++ operation :: rest := by
            rw [hplan, List.append_assoc]
          rw [← List.append_assoc, ← List.map_append]
          exact .failed failure hlonger

end StepCalls

/-- Whether an act over a recording target does what another one does over the target itself, and
makes the calls of a plan. -/
def Records (recorded : Act ((σ × List TargetCall) × δ) (Except Failure Unit))
    (plain : Act (σ × δ) (Except Failure Unit)) (plan : List TargetOperation) : Prop :=
  ∀ s log delivery, ∃ calls,
    (recorded ((s, log), delivery)).outcome =
      ((plain (s, delivery)).answer, ((plain (s, delivery)).state.1, log ++ calls),
        (plain (s, delivery)).state.2) ∧
    StepCalls plan (plain (s, delivery)).answer calls

theorem records_pure : Records (σ := σ) (δ := δ) (Act.pure (.ok ())) (Act.pure (.ok ())) [] := by
  intro s log delivery
  refine ⟨[], ?_, .all⟩
  rw [List.append_nil]
  rfl

theorem records_recordedStep (operation : TargetOperation)
    (act : Act (σ × δ) (Except Failure Unit)) :
    Records (recordedStep operation act) act [operation] :=
  fun _ _ _ => ⟨_, rfl, .single operation _⟩

/-- **Plans in turn:** the second one is followed if no call of the first one failed. -/
theorem Records.andThen {recorded recorded' : Act ((σ × List TargetCall) × δ) (Except Failure Unit)}
    {plain plain' : Act (σ × δ) (Except Failure Unit)} {plan plan' : List TargetOperation}
    (h : Records recorded plain plan) (h' : Records recorded' plain' plan') :
    Records (recorded.andThen fun _ => recorded') (plain.andThen fun _ => plain')
      (plan ++ plan') := by
  intro s log delivery
  obtain ⟨calls, e, hcalls⟩ := h s log delivery
  have hplain := Act.andThen_outcome plain (fun _ => plain') (s, delivery)
  rw [Act.andThen_outcome, e]
  cases hfirst : plain (s, delivery) with
  | mk answer after events =>
      rw [hfirst] at hcalls hplain
      cases answer with
      | error failure =>
          obtain ⟨hanswer, hstate⟩ := Prod.mk.inj hplain
          rw [hanswer, hstate]
          exact ⟨calls, rfl, hcalls.append_of_error plan'⟩
      | ok _ =>
          obtain ⟨hanswer, hstate⟩ := Prod.mk.inj hplain
          obtain ⟨more, e', hmore⟩ := h' after.1 (log ++ calls) after.2
          refine ⟨calls ++ more, ?_, ?_⟩
          · rw [hanswer, hstate, ← List.append_assoc]
            exact e'
          · rw [hanswer]
            exact hcalls.append_of_ok hmore

namespace Target

variable (t : Target σ δ)

/-- Recipients are added in order, up to the first failure. -/
theorem records_addRcpts : ∀ rcpts : List String,
    Records (t.recorded.addRcpts rcpts) (t.addRcpts rcpts) (rcpts.map .addRcpt)
  | [] => records_pure
  | _ :: rcpts => (records_recordedStep _ _).andThen (records_addRcpts rcpts)

/-- The calls of a delivery after its start, if none of them fails. -/
def deliveryPlan (rcpts : List String) (header : Header) (body : Body) : List TargetOperation :=
  rcpts.map .addRcpt ++ [.body header body, .commit]

theorem records_complete (rcpts : List String) (header : Header) (body : Body) :
    Records (t.recorded.complete rcpts header body) (t.complete rcpts header body)
      (deliveryPlan rcpts header body) :=
  (t.records_addRcpts rcpts).andThen
    ((records_recordedStep _ _).andThen (records_recordedStep _ _))

/-! ### Whole deliveries -/

/-- **The calls of a delivery with this answer.** -/
inductive Driven (start : TargetOperation) (plan : List TargetOperation) :
    Except Failure Unit → List TargetCall → Prop
  /-- The delivery could not be opened: nothing else is called. -/
  | refused (failure : Failure) : Driven start plan (.error failure) [⟨start, some failure⟩]
  /-- Every call of the plan succeeded: nothing is aborted. -/
  | completed : Driven start plan (.ok ()) (.done start :: plan.map .done)
  /-- A call of the plan failed: the delivery is aborted, and the answer is the failure of that
  call, however the abort ended. -/
  | aborted {before rest : List TargetOperation} {operation : TargetOperation} (failure : Failure)
      (abort? : Option Failure) (hplan : plan = before ++ operation :: rest) :
      Driven start plan (.error failure)
        (.done start :: before.map .done ++ [⟨operation, some failure⟩, ⟨.abort, abort?⟩])

/-- Aborting is one call, and the failure stays. -/
theorem abortWith_outcome (envelope : Envelope) (failure : Failure) (p : σ × δ) :
    (t.abortWith envelope failure p).outcome = (.error failure, (t.abort p).state) := by
  unfold abortWith
  rw [Act.bind_outcome]
  unfold Step.outcome
  cases (t.abort p).answer <;> rfl

/-- A delivery that was opened is aborted if and only if a step fails. -/
theorem finish_outcome (envelope : Envelope) (rcpts : List String) (header : Header) (body : Body)
    (p : σ × δ) :
    (t.finish envelope rcpts header body p).outcome =
      match (t.complete rcpts header body p).outcome with
      | (.ok (), after) => (.ok (), after)
      | (.error failure, after) => (.error failure, (t.abort after).state) := by
  unfold finish
  rw [Act.bind_outcome]
  rcases (t.complete rcpts header body p).outcome with ⟨failure | _, after⟩
  · exact t.abortWith_outcome envelope failure after
  · rfl

/-- **The end of a delivery:** recording changes nothing, and the calls follow the plan; after a
failure there is one call more, the abort. -/
theorem finish_recorded (envelope : Envelope) (rcpts : List String) (header : Header) (body : Body)
    (s : σ) (log : List TargetCall) (delivery : δ) (start : TargetOperation) :
    let plain := t.finish envelope rcpts header body (s, delivery)
    ∃ calls, (t.recorded.finish envelope rcpts header body ((s, log), delivery)).outcome =
        (plain.answer, (plain.state.1, log ++ calls), plain.state.2) ∧
      Driven start (deliveryPlan rcpts header body) plain.answer (.done start :: calls) := by
  intro plain
  obtain ⟨calls, e, hcalls⟩ := t.records_complete rcpts header body s log delivery
  have hplain : plain.outcome = _ := t.finish_outcome envelope rcpts header body (s, delivery)
  rw [t.recorded.finish_outcome, e]
  cases hcomplete : t.complete rcpts header body (s, delivery) with
  | mk answer after events =>
      rw [hcomplete] at hcalls hplain
      cases hcalls with
      | all =>
          obtain ⟨hanswer, hstate⟩ := Prod.mk.inj hplain
          rw [hanswer, hstate]
          exact ⟨_, rfl, .completed⟩
      | @failed before rest operation failure hplan =>
          obtain ⟨hanswer, hstate⟩ := Prod.mk.inj hplain
          let aborted := TargetCall.ended .abort (t.abort after).answer
          rw [hanswer, hstate]
          refine ⟨before.map .done ++ [⟨operation, some failure⟩, aborted], ?_, ?_⟩
          · show (_, (_, (log ++ (_ ++ [_])) ++ [aborted]), _) = _
            rw [List.append_assoc, List.append_assoc]
            rfl
          · exact .aborted failure aborted.failure? hplan

/-- A delivery that cannot be opened ends there. -/
theorem deliver_outcome (envelope : Envelope) (sender : String) (rcpts : List String)
    (header : Header) (body : Body) (s : σ) :
    (t.deliver envelope sender rcpts header body s).outcome =
      match (t.start envelope sender s).outcome with
      | (.ok delivery, after) =>
        let step := t.finish envelope rcpts header body (after, delivery)
        (step.answer, step.state.1)
      | (.error failure, after) => (.error failure, after) := by
  rw [deliver, Act.bind_outcome, Act.andThen_outcome]
  cases hstart : t.start envelope sender s with
  | mk answer after events => cases answer <;> simp [Act.report, Step.outcome, hstart, Act.within]

/-- **A delivery drives any target in order.**  Whatever a target answers and whatever the
recipients are: recording the calls changes nothing, and they are the start, then the recipients,
the body and the commit in this order up to the first call that fails.  If one of them fails, one
abort follows as the last call, and the failure of that call is the answer. -/
theorem deliver_drives (envelope : Envelope) (sender : String) (rcpts : List String)
    (header : Header) (body : Body) (s : σ) :
    let plain := t.deliver envelope sender rcpts header body s
    let recorded := t.recorded.deliver envelope sender rcpts header body (s, [])
    let log := recorded.state.2
    recorded.outcome = (plain.answer, plain.state, log) ∧
      Driven (.start envelope sender) (deliveryPlan rcpts header body) plain.answer log := by
  intro plain recorded log
  have hplain : plain.outcome = _ := t.deliver_outcome envelope sender rcpts header body s
  have hrecorded : recorded.outcome = _ :=
    t.recorded.deliver_outcome envelope sender rcpts header body (s, [])
  cases hstart : t.start envelope sender s with
  | mk answer after events =>
      have hstart' : t.recorded.start envelope sender (s, []) =
          ⟨answer, (after, [.ended (.start envelope sender) answer]), events⟩ := by
        simp [Target.recorded, hstart]
      rw [hstart] at hplain
      rw [hstart'] at hrecorded
      cases answer with
      | error failure =>
          obtain ⟨hanswer, hstate⟩ := Prod.mk.inj hplain
          rw [hrecorded, hanswer, hstate, show log = _ from congrArg (·.2.2) hrecorded]
          exact ⟨rfl, .refused failure⟩
      | ok delivery =>
          obtain ⟨calls, e, hdriven⟩ := t.finish_recorded envelope rcpts header body after
            [.done (.start envelope sender)] delivery (.start envelope sender)
          obtain ⟨hanswer', hstate'⟩ := Prod.mk.inj e
          obtain ⟨hanswer, hstate⟩ := Prod.mk.inj hplain
          have hlog : recorded.outcome =
              (plain.answer, plain.state, .done (.start envelope sender) :: calls) := by
            rw [hrecorded, hanswer, hstate]
            exact Prod.ext hanswer' (congrArg Prod.fst hstate')
          rw [show log = _ from congrArg (·.2.2) hlog, hlog, hanswer]
          exact ⟨rfl, hdriven⟩

-- the second of three recipients is refused, and the abort fails as well
example :
    let target := (recorder "local" ["rcpt b", "abort"]).recorded
    let step := target.deliver ⟨"1", "x", false⟩ "x" ["a", "b", "c"] {} (.memory []) ([], [])
    step.answer = .error (.precondition "rcpt b failed") ∧
      step.state.2.map TargetCall.operation =
        [.start ⟨"1", "x", false⟩ "x", .addRcpt "a", .addRcpt "b", .abort] :=
  ⟨rfl, rfl⟩

end Target
end Mailroom
