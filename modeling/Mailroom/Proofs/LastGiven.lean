/-! # What was given last

Of several calls that hand over a value of the same kind the last one may be all that counts:
`lastGiven?` is what it handed over.  A state that takes every such value holds the last one after a
run (`view_foldl`). -/

namespace Mailroom

variable {α β σ : Type}

/-- What was given last, if anything was. -/
def lastGiven? (given? : α → Option β) (calls : List α) : Option β :=
  (calls.filterMap given?).getLast?

variable {given? : α → Option β}

theorem lastGiven?_cons_or (call : α) (calls : List α) (before : Option β) :
    (lastGiven? given? (call :: calls)).or before =
      (lastGiven? given? calls).or ((given? call).or before) := by
  unfold lastGiven?
  cases h : given? call with
  | none => rw [List.filterMap_cons_none h, Option.none_or]
  | some b =>
      rw [List.filterMap_cons_some h, List.getLast?_cons, Option.some_or]
      cases (calls.filterMap given?).getLast? <;> rfl

theorem lastGiven?_eq_none_iff {calls : List α} :
    lastGiven? given? calls = none ↔ ∀ call ∈ calls, given? call = none := by
  rw [lastGiven?, List.getLast?_eq_none_iff, List.filterMap_eq_nil_iff]

/-- **After a run** a state that takes what it is given holds what was given last. -/
theorem view_foldl {step : σ → α → σ} {view : σ → Option β}
    (hstep : ∀ s call, view (step s call) = (given? call).or (view s)) (calls : List α) (s : σ) :
    view (calls.foldl step s) = (lastGiven? given? calls).or (view s) := by
  induction calls generalizing s with
  | nil => rfl
  | cons call calls ih => rw [List.foldl_cons, ih, hstep, lastGiven?_cons_or]

end Mailroom
