import Mailroom.Modifier.Basic
import Mathlib.Data.List.Range

/-! # The calls that modifiers see

`Modifier.recorded` is a modifier that writes down every call of its operations and how the call
ended; apart from that it does what the modifier below it does.  What one modifier does to a message
is a pass: a complete one (`completePass`) or one that failed on the way (`FailedPass`).  The calls
of a run are complete passes in the order of the modifiers, and a failed one at the end if the run
failed (`runModifiers_recordedFrom`). -/

namespace Mailroom

variable {σ α β : Type}

/-! ### Recording -/

/-- An operation of a modifier, or of the editor that it opened. -/
inductive ModifierOperation where
  | start
  | editSender
  | editRcpt
  | editHeader
  | close
deriving DecidableEq, Repr

/-- A call of an operation: the position of the modifier in its list, and the failure if the call
failed. -/
structure ModifierCall where
  position : Nat
  operation : ModifierOperation
  failure? : Option Failure
deriving DecidableEq, Repr

/-- The failure of an answer. -/
def failureOf : Except Failure α → Option Failure
  | .ok _ => none
  | .error failure => some failure

/-- Writes a call down. -/
def recordedCall (position : Nat) (operation : ModifierOperation)
    (act : Act σ (Except Failure α)) : Act (σ × List ModifierCall) (Except Failure α) :=
  fun (s, log) =>
    let step := act s
    ⟨step.answer, (step.state, log ++ [⟨position, operation, failureOf step.answer⟩]), step.events⟩

/-- The editor that writes down every call. -/
def Editor.recorded (position : Nat) (editor : Editor σ) : Editor (σ × List ModifierCall) where
  editSender sender := recordedCall position .editSender (editor.editSender sender)
  editRcpt rcpt := recordedCall position .editRcpt (editor.editRcpt rcpt)
  editHeader body := fun ((s, log), header) =>
    let step := editor.editHeader body (s, header)
    ⟨step.answer, ((step.state.1, log ++ [⟨position, .editHeader, failureOf step.answer⟩]),
      step.state.2), step.events⟩
  close := recordedCall position .close editor.close

/-- The modifier that writes down every call, also those of its editors. -/
def Modifier.recorded (position : Nat) (m : Modifier σ) : Modifier (σ × List ModifierCall) where
  name := m.name
  instanceName := m.instanceName
  start envelope := fun p =>
    let step := recordedCall position .start (m.start envelope) p
    ⟨step.answer.map (Editor.recorded position), step.state, step.events⟩

/-- Modifiers that write down every call, the first of them at a given position. -/
def recordedFrom (position : Nat) : List (Modifier σ) → List (Modifier (σ × List ModifierCall))
  | [] => []
  | m :: modifiers => m.recorded position :: recordedFrom (position + 1) modifiers

/-- The step that leaves this log besides. -/
def Step.withLog (log : List ModifierCall) (step : Step (σ × Header) α) :
    Step ((σ × List ModifierCall) × Header) α :=
  ⟨step.answer, ((step.state.1, log), step.state.2), step.events⟩

/-! ### Acts that go on after a success -/

namespace Act

variable {ε : Type} {act : Act σ (Except ε α)} {s t : σ} {events : List Event}

theorem andThen_of_ok {a : α} (h : act s = ⟨.ok a, t, events⟩) (next : α → Act σ (Except ε β)) :
    act.andThen next s =
      ⟨(next a t).answer, (next a t).state, events ++ (next a t).events⟩ := by
  rw [andThen, bind, h]

theorem andThen_of_error {e : ε} (h : act s = ⟨.error e, t, events⟩)
    (next : α → Act σ (Except ε β)) : act.andThen next s = ⟨.error e, t, events⟩ := by
  rw [andThen, bind, h]
  exact congrArg (Step.mk _ t) (List.append_nil events)

theorem onFirst_of_eq {τ : Type} {act : Act σ α} {a : α} (h : act s = ⟨a, t, events⟩) (extra : τ) :
    act.onFirst (s, extra) = ⟨a, (t, extra), events⟩ := by
  rw [onFirst, onPart, h]

end Act

/-! ### One pass -/

/-- The calls of a pass that succeeds. -/
def completePass (position : Nat) : List ModifierCall :=
  [⟨position, .start, none⟩, ⟨position, .editHeader, none⟩, ⟨position, .close, none⟩]

/-- The calls of a pass that fails, and its failure.  What was opened is closed once. -/
inductive FailedPass (position : Nat) : Failure → List ModifierCall → Prop
  | start (failure : Failure) : FailedPass position failure [⟨position, .start, some failure⟩]
  | editHeader (failure : Failure) (closed : Option Failure) : FailedPass position failure
      [⟨position, .start, none⟩, ⟨position, .editHeader, some failure⟩, ⟨position, .close, closed⟩]
  | close (failure : Failure) : FailedPass position failure
      [⟨position, .start, none⟩, ⟨position, .editHeader, none⟩, ⟨position, .close, some failure⟩]

/-- The calls of a pass with this answer. -/
def PassCalls (position : Nat) (answer : Except Failure Unit) (calls : List ModifierCall) : Prop :=
  match answer with
  | .ok () => calls = completePass position
  | .error failure => FailedPass position failure calls

namespace Modifier

/-- An editor that was opened edits the header once and is closed once. -/
theorem edit_recorded (position : Nat) (editor : Editor σ) (body : Body) (s : σ)
    (log : List ModifierCall) (header : Header) :
    ∃ calls, edit (editor.recorded position) body ((s, log), header) =
        (edit editor body (s, header)).withLog (log ++ calls) ∧
      PassCalls position (edit editor body (s, header)).answer
        (⟨position, .start, none⟩ :: calls) := by
  let edited := editor.editHeader body (s, header)
  let closed := editor.close edited.state.1
  refine ⟨[⟨position, .editHeader, failureOf edited.answer⟩,
    ⟨position, .close, failureOf closed.answer⟩], ?_, ?_⟩
  · show Step.mk _ ((_, (log ++ _) ++ _), _) _ = Step.mk _ ((_, log ++ _), _) _
    rw [List.append_assoc]
    rfl
  · show PassCalls position (combine edited.answer closed.answer) _
    cases edited.answer with
    | error failure => exact .editHeader failure _
    | ok _ =>
        cases closed.answer with
        | error failure => exact .close failure
        | ok _ => rfl

/-- **One pass:** recording changes nothing, and the calls are those of one pass. -/
theorem run_recorded (position : Nat) (m : Modifier σ) (envelope : Envelope) (body : Body) (s : σ)
    (log : List ModifierCall) (header : Header) :
    ∃ calls, (m.recorded position).run envelope body ((s, log), header) =
        (m.run envelope body (s, header)).withLog (log ++ calls) ∧
      PassCalls position (m.run envelope body (s, header)).answer calls := by
  have hrun : ∀ {τ : Type} (m : Modifier τ) (t : τ),
      m.run envelope body (t, header) =
        let first := (m.start envelope).onFirst.andThen (fun editor => edit editor body) (t, header)
        ⟨first.answer, first.state, ⟨.debug, "Applying modifier", [("modifier", m.name),
          ("instance", m.instanceName), ("msg_id", envelope.id)]⟩ :: first.events⟩ :=
    fun _ _ => rfl
  have hname : (m.recorded position).name = m.name ∧
      (m.recorded position).instanceName = m.instanceName := ⟨rfl, rfl⟩
  rw [hrun, hrun, hname.1, hname.2]
  cases hstart : m.start envelope s with
  | mk answer t events =>
      -- the editor that a recorded modifier opens is recorded at the same position
      have hrecorded : (m.recorded position).start envelope (s, log) =
          ⟨answer.map (Editor.recorded position),
            (t, log ++ [⟨position, .start, failureOf answer⟩]), events⟩ := by
        simp [recorded, recordedCall, hstart]
      cases answer with
      | error failure =>
          rw [Act.andThen_of_error (Act.onFirst_of_eq hstart header),
            Act.andThen_of_error (Act.onFirst_of_eq hrecorded header)]
          exact ⟨_, rfl, .start failure⟩
      | ok editor =>
          obtain ⟨calls, hedit, hpass⟩ := edit_recorded position editor body t
            (log ++ [⟨position, .start, none⟩]) header
          have hedit' : edit (editor.recorded position) body
              ((t, log ++ [⟨position, .start, failureOf (.ok editor)⟩]), header) =
                (edit editor body (t, header)).withLog
                  (log ++ ⟨position, .start, none⟩ :: calls) := by
            rw [List.append_cons log _ calls]
            exact hedit
          rw [Act.andThen_of_ok (Act.onFirst_of_eq hstart header),
            Act.andThen_of_ok (Act.onFirst_of_eq hrecorded header), hedit']
          exact ⟨_, rfl, hpass⟩

end Modifier

/-! ### A run -/

/-- **A run:** recording changes nothing, and the calls are complete passes in the order of the
modifiers, one for each modifier if the run succeeded, and a failed pass at the end otherwise. -/
theorem runModifiers_recordedFrom (envelope : Envelope) (body : Body)
    (modifiers : List (Modifier σ)) (position : Nat) (s : σ) (log : List ModifierCall)
    (header : Header) :
    let run := runModifiers envelope body modifiers (s, header)
    ∃ count last, runModifiers envelope body (recordedFrom position modifiers) ((s, log), header) =
        run.withLog (log ++ ((List.range' position count).flatMap completePass ++ last)) ∧
      ((run.answer = .ok () ∧ count = modifiers.length ∧ last = []) ∨
        ∃ failure, run.answer = .error failure ∧ count < modifiers.length ∧
          FailedPass (position + count) failure last) := by
  intro run
  induction modifiers generalizing position s log header with
  | nil =>
      refine ⟨0, [], ?_, .inl ⟨rfl, rfl, rfl⟩⟩
      show Step.mk _ ((s, log), header) _ = Step.mk _ ((s, log ++ []), header) _
      rw [List.append_nil]
      rfl
  | cons m modifiers ih =>
      obtain ⟨calls, hrun, hpass⟩ := m.run_recorded position envelope body s log header
      cases hplain : m.run envelope body (s, header) with
      | mk answer after events =>
          rw [hplain] at hrun hpass
          cases answer with
          | error failure =>
              have hrun' : run = ⟨.error failure, after, events⟩ :=
                Act.andThen_of_error hplain _
              refine ⟨0, calls, ?_, .inr ⟨failure, by rw [hrun'], by simp, hpass⟩⟩
              rw [hrun']
              exact Act.andThen_of_error hrun _
          | ok _ =>
              obtain rfl : calls = completePass position := hpass
              obtain ⟨count, last, hrest, hend⟩ :=
                ih (position + 1) after.1 (log ++ completePass position) after.2
              have hrun' : run = _ := Act.andThen_of_ok hplain _
              refine ⟨count + 1, last, ?_, ?_⟩
              · have hlog : log ++ completePass position ++
                    ((List.range' (position + 1) count).flatMap completePass ++ last) =
                      log ++ ((List.range' position (count + 1)).flatMap completePass ++ last) := by
                  simp [List.range'_succ]
                rw [hlog] at hrest
                refine (Act.andThen_of_ok hrun _).trans ?_
                rw [hrun']
                dsimp only [Step.withLog]
                rw [hrest]
                rfl
              · rw [hrun']
                rcases hend with ⟨hok, hcount, hlast⟩ | ⟨failure, hfail, hcount, hlast⟩
                · exact .inl ⟨hok, congrArg (· + 1) hcount, hlast⟩
                · refine .inr ⟨failure, hfail, Nat.succ_lt_succ hcount, ?_⟩
                  rwa [Nat.add_right_comm] at hlast

end Mailroom
