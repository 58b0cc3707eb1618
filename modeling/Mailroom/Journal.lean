/-! # Steps and their journal

Operations with effects are plain functions: an `Act σ α` takes a state of type `σ` and gives a
`Step`, which holds the answer, the new state and the events reported on the way, in order.
Acts compose (`Act.bind`): the second one starts in the state that the first one left, and its
events come after those of the first. -/

namespace Mailroom

/-- How urgent an event is. -/
inductive Level where
  | error | warn | info | debug
deriving DecidableEq, Repr

/-- The name of a level in a journal. -/
def Level.name : Level → String
  | .error => "ERROR"
  | .warn => "WARN"
  | .info => "INFO"
  | .debug => "DEBUG"

/-- Something worth reporting: a message and named values. -/
structure Event where
  level : Level
  message : String
  values : List (String × String) := []
deriving DecidableEq, Repr

/-- What an operation leaves behind. -/
structure Step (σ α : Type) where
  answer : α
  state : σ
  events : List Event := []

/-- An operation on a state of type `σ` that answers with an `α`. -/
abbrev Act (σ α : Type) : Type := σ → Step σ α

namespace Act

variable {σ τ α β : Type}

/-- Answers without touching the state. -/
def pure (a : α) : Act σ α := fun s => ⟨a, s, []⟩

/-- One operation after another. -/
def bind (act : Act σ α) (next : α → Act σ β) : Act σ β := fun s =>
  let first := act s
  let second := next first.answer first.state
  ⟨second.answer, second.state, first.events ++ second.events⟩

instance : Monad (Act σ) where
  pure := Act.pure
  bind := Act.bind

/-- Answers with a view of the state. -/
def read (view : σ → α) : Act σ α := fun s => ⟨view s, s, []⟩

/-- Changes the state. -/
def modify (change : σ → σ) : Act σ Unit := fun s => ⟨(), change s, []⟩

/-- Changes the state by something that may fail; a failure leaves the state as it was. -/
def attempt {ε : Type} (change : σ → Except ε σ) : Act σ (Except ε Unit) := fun s =>
  match change s with
  | .ok t => ⟨.ok (), t, []⟩
  | .error e => ⟨.error e, s, []⟩

/-- Changes the state by something that answers as well. -/
def updating (change : σ → α × σ) : Act σ α := fun s => ⟨(change s).1, (change s).2, []⟩

/-- Reports an event. -/
def report (level : Level) (message : String) (values : List (String × String)) : Act σ Unit :=
  fun s => ⟨(), s, [⟨level, message, values⟩]⟩

/-- Reports an event if `condition` holds. -/
def reportIf (condition : Bool) (level : Level) (message : String)
    (values : List (String × String)) : Act σ Unit :=
  if condition then report level message values else pure ()

/-- Runs an operation on a part of a larger state. -/
def onPart (get : τ → σ) (put : σ → τ → τ) (act : Act σ α) : Act τ α := fun t =>
  let step := act (get t)
  ⟨step.answer, put step.state t, step.events⟩

/-- Runs an operation on the first component of a pair. -/
def onFirst (act : Act σ α) : Act (σ × τ) α :=
  onPart Prod.fst (fun s p => (s, p.2)) act

/-- Runs an operation with a second component at hand, which is gone afterwards. -/
def within (extra : τ) (act : Act (σ × τ) α) : Act σ α := fun s =>
  let step := act (s, extra)
  ⟨step.answer, step.state.1, step.events⟩

/-- Goes on after a success, and keeps a failure. -/
def andThen {ε : Type} (act : Act σ (Except ε α)) (next : α → Act σ (Except ε β)) :
    Act σ (Except ε β) :=
  act.bind fun
    | .ok a => next a
    | .error e => pure (.error e)

/-- States a failure in other words. -/
def mapError {ε ζ : Type} (words : ε → ζ) (act : Act σ (Except ε α)) : Act σ (Except ζ α) :=
  act.bind fun result => pure (result.mapError words)

@[simp] theorem pure_apply (a : α) (s : σ) : (Pure.pure a : Act σ α) s = ⟨a, s, []⟩ := rfl

@[simp] theorem bind_apply (act : Act σ α) (next : α → Act σ β) (s : σ) :
    (act >>= next) s =
      ⟨(next (act s).answer (act s).state).answer, (next (act s).answer (act s).state).state,
        (act s).events ++ (next (act s).answer (act s).state).events⟩ := rfl

end Act

end Mailroom
