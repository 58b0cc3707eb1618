import Mailroom.Proofs.Dkim.BodyForm

/-! # Words between blanks

The words of a text are its longest runs of octets other than blanks.  Collapsing blanks writes the
words with single spaces between them, and with one in front if the text starts with a blank
(`collapseBlanks_eq_joinWords`).  Words written so are found again (`wordsOf_spaced`), so blanks are
collapsed once and for all (`collapseBlanks_idem`). -/

namespace Mailroom

open Octet

/-- Whether a run holds no blank. -/
def isWord (run : Bytes) : Bool := run.all fun b => !isBlank b

/-- The longest runs of octets other than blanks. -/
def wordsOf (text : Bytes) : List Bytes := (blankRuns text).filter isWord

/-- The words with single spaces between them. -/
def joinWords (ws : List Bytes) : Bytes := [space].intercalate ws

/-- The space in front of the first of several words, if blanks stand there. -/
def leadSpace (blank : Bool) (ws : List Bytes) : Bytes :=
  if blank = true ∧ ws ≠ [] then [space] else []

@[simp] theorem leadSpace_false (ws : List Bytes) : leadSpace false ws = [] := by
  simp [leadSpace]

@[simp] theorem leadSpace_nil (blank : Bool) : leadSpace blank [] = [] := by
  simp [leadSpace]

@[simp] theorem leadSpace_true_cons (w : Bytes) (ws : List Bytes) :
    leadSpace true (w :: ws) = [space] := by
  simp [leadSpace]

@[simp] theorem joinWords_nil : joinWords [] = [] := rfl

theorem joinWords_cons (w : Bytes) (ws : List Bytes) :
    joinWords (w :: ws) = w ++ (leadSpace true ws ++ joinWords ws) := by
  cases ws with
  | nil => simp [joinWords]
  | cons v ws => simp [joinWords, List.intercalate_cons_cons]

/-! ### Runs and words -/

namespace IsRun

theorem isWord {run : Bytes} (h : IsRun false run) : isWord run = true := by
  simpa [Mailroom.isWord] using h.kind

theorem not_isWord {run : Bytes} (h : IsRun true run) : Mailroom.isWord run = false := by
  obtain ⟨b, rest, rfl⟩ := List.exists_cons_of_ne_nil h.ne_nil
  simp [Mailroom.isWord, h.kind b List.mem_cons_self]

theorem isChain {blank : Bool} {run : Bytes} (h : IsRun blank run) :
    run.IsChain fun a b => (isBlank a == isBlank b) = true := by
  refine List.Pairwise.isChain (List.pairwise_of_forall_mem_list fun a ha b hb => ?_)
  rw [h.kind a ha, h.kind b hb]
  exact beq_self_eq_true blank

end IsRun

namespace Alternating

variable {blank : Bool} {runs : List Bytes}

/-- A text starts with an octet of the kind of its first run. -/
theorem kind_of_head? (h : Alternating blank runs) :
    ∀ b ∈ runs.flatten.head?, isBlank b = blank := by
  cases h with
  | nil => simp
  | @cons _ run runs hrun _ =>
      obtain ⟨b, rest, rfl⟩ := List.exists_cons_of_ne_nil hrun.ne_nil
      rintro c ⟨⟩
      exact hrun.kind b List.mem_cons_self

/-- Alternating runs are the runs of the text that they make up. -/
theorem blankRuns_flatten (h : Alternating blank runs) : blankRuns runs.flatten = runs := by
  induction h with
  | nil => rfl
  | @cons blank run runs hrun hruns ih =>
      have hborder : ∀ a ∈ run.getLast?, ∀ b ∈ runs.flatten.head?,
          (isBlank a == isBlank b) = false := by
        intro a ha b hb
        rw [hrun.kind a (List.mem_of_getLast? ha), hruns.kind_of_head? b hb]
        cases blank <;> rfl
      rw [List.flatten_cons, blankRuns, List.splitBy_append hborder,
        List.splitBy_of_isChain hrun.ne_nil hrun.isChain, ← blankRuns, ih]
      rfl

theorem wordsOf_flatten (h : Alternating blank runs) :
    wordsOf runs.flatten = runs.filter isWord := by
  rw [wordsOf, h.blankRuns_flatten]

/-- Runs behind a run of the other kind. -/
theorem wordsOf_cons {run : Bytes} (hrun : IsRun blank run) (h : Alternating (!blank) runs) :
    wordsOf (run ++ runs.flatten) =
      if blank then wordsOf runs.flatten else run :: wordsOf runs.flatten := by
  have e := (Alternating.cons hrun h).wordsOf_flatten
  rw [List.flatten_cons] at e
  rw [e, h.wordsOf_flatten]
  cases blank with
  | true => simp [hrun.not_isWord]
  | false => simp [hrun.isWord]

theorem isRun_of_mem (h : Alternating blank runs) :
    ∀ run ∈ runs, isWord run = true → IsRun false run := by
  induction h with
  | nil => simp
  | @cons blank run runs hrun _ ih =>
      intro r m hr
      rcases List.mem_cons.mp m with rfl | m
      · cases blank with
        | false => exact hrun
        | true =>
            rw [hrun.not_isWord] at hr
            cases hr
      · exact ih r m hr

end Alternating

/-- A word is not empty and holds no blank. -/
theorem isRun_of_mem_wordsOf {text w : Bytes} (m : w ∈ wordsOf text) : IsRun false w := by
  obtain ⟨blank, hruns⟩ := exists_alternating text
  exact hruns.isRun_of_mem w (List.mem_filter.mp m).1 (List.mem_filter.mp m).2

/-! ### Collapsing -/

/-- Collapsing writes the words of a text with single spaces between them. -/
theorem Alternating.collapseBlanks_eq {blank : Bool} {runs : List Bytes}
    (h : Alternating blank runs) :
    collapseBlanks runs.flatten =
      leadSpace blank (wordsOf runs.flatten) ++ joinWords (wordsOf runs.flatten) := by
  rw [collapseBlanks_flatten h]
  induction h with
  | nil => simp [wordsOf, blankRuns, dropFinal]
  | @cons blank run runs hrun hruns ih =>
      rw [List.flatMap_cons, List.flatten_cons, hruns.wordsOf_cons hrun]
      cases blank with
      | false =>
          rw [runForm_others hrun, dropFinal_others hrun, ih]
          simp [joinWords_cons]
      | true =>
          rw [runForm_blanks hrun]
          cases hruns with
          | nil => rfl
          | @cons _ next runs hnext hruns =>
              have hne : (next :: runs).flatMap runForm ≠ [] := by
                simp [runForm_others hnext, hnext.ne_nil]
              rw [dropFinal_append hne, ih, List.flatten_cons, hruns.wordsOf_cons hnext]
              simp

theorem collapseBlanks_eq_joinWords (text : Bytes) :
    ∃ blank, (∀ b ∈ text.head?, isBlank b = blank) ∧
      collapseBlanks text = leadSpace blank (wordsOf text) ++ joinWords (wordsOf text) := by
  obtain ⟨blank, hruns⟩ := exists_alternating text
  have hhead := hruns.kind_of_head?
  have e := hruns.collapseBlanks_eq
  rw [flatten_blankRuns] at hhead e
  exact ⟨blank, hhead, e⟩

/-- Words with spaces between them are runs that alternate with the spaces. -/
theorem exists_alternating_spaced {ws : List Bytes} (h : ∀ w ∈ ws, IsRun false w) (blank : Bool) :
    ∃ runs, Alternating blank runs ∧ runs.filter isWord = ws ∧
      runs.flatten = leadSpace blank ws ++ joinWords ws := by
  induction ws generalizing blank with
  | nil => exact ⟨[], .nil blank, rfl, by simp⟩
  | cons w ws ih =>
      have hw := h w List.mem_cons_self
      obtain ⟨runs, hruns, hwords, hflat⟩ := ih (fun v m => h v (List.mem_cons_of_mem w m)) true
      have hspace : IsRun true [space] := ⟨by simp, by simp [isBlank]⟩
      cases blank with
      | false =>
          exact ⟨w :: runs, .cons hw hruns, by simp [hw.isWord, hwords],
            by simp [hflat, joinWords_cons]⟩
      | true =>
          exact ⟨[space] :: w :: runs, .cons hspace (.cons hw hruns),
            by simp [hspace.not_isWord, hw.isWord, hwords], by simp [hflat, joinWords_cons]⟩

/-- **Words that were written are found again.** -/
theorem wordsOf_spaced {ws : List Bytes} (h : ∀ w ∈ ws, IsRun false w) (blank : Bool) :
    wordsOf (leadSpace blank ws ++ joinWords ws) = ws := by
  obtain ⟨runs, hruns, hwords, hflat⟩ := exists_alternating_spaced h blank
  rw [← hflat, hruns.wordsOf_flatten, hwords]

theorem wordsOf_joinWords {ws : List Bytes} (h : ∀ w ∈ ws, IsRun false w) :
    wordsOf (joinWords ws) = ws := by
  simpa using wordsOf_spaced h false

/-- **Collapsing blanks twice is collapsing them once.** -/
theorem collapseBlanks_idem (text : Bytes) :
    collapseBlanks (collapseBlanks text) = collapseBlanks text := by
  obtain ⟨blank, -, e⟩ := collapseBlanks_eq_joinWords text
  obtain ⟨runs, hruns, hwords, hflat⟩ := exists_alternating_spaced
    (fun w (m : w ∈ wordsOf text) => isRun_of_mem_wordsOf m) blank
  rw [e, ← hflat, hruns.collapseBlanks_eq, hruns.wordsOf_flatten, hwords, hflat]

/-- Blanks in front of the first word are dropped with the runs that they make up. -/
theorem Alternating.dropWhile_isBlank {blank : Bool} {runs : List Bytes}
    (h : Alternating blank runs) :
    ∃ kept, Alternating false kept ∧ kept.filter isWord = runs.filter isWord ∧
      runs.flatten.dropWhile isBlank = kept.flatten := by
  have hstop : ∀ {kept : List Bytes}, Alternating false kept →
      kept.flatten.dropWhile isBlank = kept.flatten := by
    intro kept hkept
    cases e : kept.flatten with
    | nil => rfl
    | cons b rest =>
        have hb : isBlank b = false := hkept.kind_of_head? b (by simp [e])
        exact List.dropWhile_cons_of_neg (by simp [hb])
  cases h with
  | nil => exact ⟨[], .nil false, rfl, rfl⟩
  | @cons _ run runs hrun hruns =>
      cases blank with
      | false => exact ⟨run :: runs, .cons hrun hruns, rfl, hstop (.cons hrun hruns)⟩
      | true =>
          refine ⟨runs, hruns, by simp [hrun.not_isWord], ?_⟩
          rw [List.flatten_cons, List.dropWhile_append_of_pos hrun.kind]
          exact hstop hruns

/-- **A relaxed value** is made of the words of the unfolded value. -/
theorem relaxedValue_eq_joinWords (raw : Bytes) :
    relaxedValue raw = joinWords (wordsOf (unfold raw)) := by
  obtain ⟨blank, hruns⟩ := exists_alternating (unfold raw)
  obtain ⟨kept, hkept, hwords, hdrop⟩ := hruns.dropWhile_isBlank
  rw [flatten_blankRuns] at hdrop
  rw [relaxedValue, hdrop, hkept.collapseBlanks_eq, leadSpace_false, List.nil_append,
    hkept.wordsOf_flatten, hwords]
  rfl

end Mailroom
