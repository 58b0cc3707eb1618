import Mailroom.Dkim.CanonicalBody
import Mailroom.Proofs.Header.RoundTrip
import Mathlib.Data.List.DropRight
import Mathlib.Data.List.SplitBy

/-! # The canonical form of a whole body

`bodyForm` says what the canonical form of a body is, with the whole body at hand: it is cut at the
line feeds, every piece is brought into form, and the empty lines at the end are dropped.
`CanonicalBody` never sees the whole body.  What it still has to let go (`CanonicalBody.remaining`)
is a function of its state and the rest of the body; one octet moves a part of it to what was let
go (`step_remaining`), and so the two agree however the body is cut into chunks
(`fed_eq_bodyForm`). -/

namespace Mailroom

open Octet

/-! ### Runs of blanks -/

/-- The text as runs of octets of one kind: blanks, or other octets. -/
def blankRuns (text : Bytes) : List Bytes := text.splitBy fun a b => isBlank a == isBlank b

/-- A run of blanks is written as one space, any other run as it is. -/
def runForm (run : Bytes) : Bytes := if run.all isBlank then [space] else run

/-- Every run of blanks written as one space, and no space at the end. -/
def spacedText (text : Bytes) : Bytes := dropFinal space ((blankRuns text).flatMap runForm)

theorem consCollapsed_of_isBlank {b : UInt8} (h : isBlank b = true) (text : Bytes)
    (htext : ∀ c ∈ text.head?, isBlank c = false) :
    consCollapsed b text = if text = [] then [] else space :: text := by
  unfold consCollapsed
  rw [if_pos h]
  cases text with
  | nil => rfl
  | cons c text =>
      have hc : c ≠ space := by
        rintro rfl
        exact absurd (htext space rfl) (by decide)
      simp [hc]

theorem consCollapsed_space {b : UInt8} (h : isBlank b = true) (text : Bytes) :
    consCollapsed b (space :: text) = space :: text := by
  unfold consCollapsed
  rw [if_pos h]
  rfl

/-- A run of blanks in front of another octet becomes one space, at the end it is dropped. -/
theorem foldr_consCollapsed_blanks {run text : Bytes} (hne : run ≠ [])
    (hrun : ∀ b ∈ run, isBlank b = true) (htext : ∀ c ∈ text.head?, isBlank c = false) :
    run.foldr consCollapsed text = if text = [] then [] else space :: text := by
  induction run with
  | nil => exact absurd rfl hne
  | cons b run ih =>
      have hb := hrun b List.mem_cons_self
      cases run with
      | nil => exact consCollapsed_of_isBlank hb text htext
      | cons c run =>
          rw [List.foldr_cons, ih (List.cons_ne_nil c run) fun d m =>
            hrun d (List.mem_cons_of_mem b m)]
          by_cases hnil : text = []
          · rw [if_pos hnil]
            exact consCollapsed_of_isBlank hb [] (by simp)
          · rw [if_neg hnil]
            exact consCollapsed_space hb text

theorem foldr_consCollapsed_others {run : Bytes} (hrun : ∀ b ∈ run, isBlank b = false)
    (text : Bytes) : run.foldr consCollapsed text = run ++ text := by
  induction run with
  | nil => rfl
  | cons b run ih =>
      have hb := hrun b List.mem_cons_self
      rw [List.foldr_cons, ih fun c m => hrun c (List.mem_cons_of_mem b m)]
      unfold consCollapsed
      rw [hb]
      rfl

theorem mem_consCollapsed {b c : UInt8} {text : Bytes} (h : c ∈ consCollapsed b text) :
    c = b ∨ c = space ∨ c ∈ text := by
  unfold consCollapsed at h
  split at h
  · split at h
    · cases h
    · split at h
      · exact .inr (.inr h)
      · exact .inr (List.mem_cons.mp h)
  · exact (List.mem_cons.mp h).imp id .inr

theorem mem_collapseBlanks {c : UInt8} {text : Bytes} (h : c ∈ collapseBlanks text) :
    c = space ∨ c ∈ text := by
  induction text with
  | nil => cases h
  | cons b text ih =>
      rcases mem_consCollapsed h with rfl | rfl | h
      · exact .inr List.mem_cons_self
      · exact .inl rfl
      · exact (ih h).imp id (List.mem_cons_of_mem b)

theorem dropFinal_append {text : Bytes} (h : text ≠ []) (b : UInt8) (before : Bytes) :
    dropFinal b (before ++ text) = before ++ dropFinal b text := by
  unfold dropFinal
  rw [List.getLast?_append_of_ne_nil before h, List.dropLast_append_of_ne_nil h]
  split <;> rfl

/-- A run: at least one octet, and all of one kind. -/
structure IsRun (blank : Bool) (run : Bytes) : Prop where
  ne_nil : run ≠ []
  kind : ∀ b ∈ run, isBlank b = blank

theorem runForm_blanks {run : Bytes} (h : IsRun true run) : runForm run = [space] :=
  if_pos (List.all_eq_true.mpr h.kind)

theorem runForm_others {run : Bytes} (h : IsRun false run) : runForm run = run := by
  obtain ⟨b, rest, rfl⟩ := List.exists_cons_of_ne_nil h.ne_nil
  refine if_neg fun hall => ?_
  have hb := List.all_eq_true.mp hall b List.mem_cons_self
  rw [h.kind b List.mem_cons_self] at hb
  cases hb

theorem dropFinal_others {run : Bytes} (h : IsRun false run) (text : Bytes) :
    dropFinal space (run ++ text) = run ++ dropFinal space text := by
  cases text with
  | nil =>
      have hspace : space ∉ run := fun m => absurd (h.kind space m) (by decide)
      rw [List.append_nil, dropFinal_of_notMem hspace]
      exact (List.append_nil run).symm
  | cons b text => exact dropFinal_append (List.cons_ne_nil b text) space run

/-- Runs of alternating kind, the first of which is of the kind `blank`. -/
inductive Alternating : Bool → List Bytes → Prop
  | nil (blank : Bool) : Alternating blank []
  | cons {blank : Bool} {run : Bytes} {runs : List Bytes} :
      IsRun blank run → Alternating (!blank) runs → Alternating blank (run :: runs)

theorem isRun_of_isChain {b : UInt8} : ∀ {run : Bytes},
    (b :: run).IsChain (fun a b => (isBlank a == isBlank b) = true) →
      IsRun (isBlank b) (b :: run)
  | [], _ => ⟨List.cons_ne_nil b [], by simp⟩
  | c :: run, h => by
      obtain ⟨hc, hrest⟩ := List.isChain_cons_cons.mp h
      have hkind : isBlank c = isBlank b := (beq_iff_eq.mp hc).symm
      refine ⟨List.cons_ne_nil b _, fun d m => ?_⟩
      rcases List.mem_cons.mp m with rfl | m
      · rfl
      · exact hkind ▸ (isRun_of_isChain hrest).kind d m

/-- The runs of a text alternate. -/
theorem alternating_of_isChain : ∀ {runs : List Bytes}, [] ∉ runs →
    (∀ run ∈ runs, run.IsChain fun a b => (isBlank a == isBlank b) = true) →
    (runs.IsChain fun a b => ∃ ha hb,
      (isBlank (a.getLast ha) == isBlank (b.head hb)) = false) →
    ∃ blank, Alternating blank runs
  | [], _, _, _ => ⟨true, .nil true⟩
  | [] :: runs, hne, _, _ => absurd List.mem_cons_self hne
  | (b :: run) :: runs, hne, hrun, hchain => by
      have hfirst := isRun_of_isChain (hrun _ List.mem_cons_self)
      have hne' : [] ∉ runs := fun m => hne (List.mem_cons_of_mem _ m)
      obtain ⟨blank, hruns⟩ := alternating_of_isChain hne'
        (fun r m => hrun r (List.mem_cons_of_mem _ m)) (List.isChain_cons.mp hchain).2
      refine ⟨isBlank b, .cons hfirst ?_⟩
      cases hruns with
      | nil => exact .nil _
      | @cons _ next runs hnext hruns =>
          obtain ⟨ha, hb, hother⟩ := (List.isChain_cons.mp hchain).1 next rfl
          rw [hfirst.kind _ (List.getLast_mem ha), hnext.kind _ (List.head_mem hb)] at hother
          obtain rfl : blank = !isBlank b := by
            revert hother
            cases blank <;> cases isBlank b <;> simp
          exact .cons hnext hruns

/-- **Collapsing blanks** octet by octet does to a text what it does to its runs. -/
theorem collapseBlanks_flatten {blank : Bool} {runs : List Bytes} (h : Alternating blank runs) :
    collapseBlanks runs.flatten = dropFinal space (runs.flatMap runForm) := by
  induction h with
  | nil => rfl
  | @cons blank run runs hrun hruns ih =>
      have e : collapseBlanks (run :: runs).flatten =
          run.foldr consCollapsed (collapseBlanks runs.flatten) := by
        rw [List.flatten_cons, collapseBlanks, List.foldr_append]
        rfl
      rw [e, ih, List.flatMap_cons]
      cases blank with
      | false =>
          rw [foldr_consCollapsed_others hrun.kind, runForm_others hrun, dropFinal_others hrun]
      | true =>
          rw [runForm_blanks hrun]
          cases hruns with
          | nil => exact foldr_consCollapsed_blanks hrun.ne_nil hrun.kind fun c m => nomatch m
          | @cons _ next runs hnext _ =>
              obtain ⟨b, rest, rfl⟩ := List.exists_cons_of_ne_nil hnext.ne_nil
              have hne : b :: rest ++ runs.flatMap runForm ≠ [] := List.cons_ne_nil b _
              rw [List.flatMap_cons, runForm_others hnext, dropFinal_append hne,
                dropFinal_others hnext, foldr_consCollapsed_blanks hrun.ne_nil hrun.kind ?_]
              · rfl
              · rintro c ⟨⟩
                exact hnext.kind b List.mem_cons_self

theorem exists_alternating (text : Bytes) : ∃ blank, Alternating blank (blankRuns text) :=
  alternating_of_isChain (List.nil_notMem_splitBy _ text)
    (fun _ m => List.isChain_of_mem_splitBy m)
    (List.isChain_getLast_head_splitBy (fun a b => isBlank a == isBlank b) text)

theorem flatten_blankRuns (text : Bytes) : (blankRuns text).flatten = text :=
  List.flatten_splitBy _ text

theorem collapseBlanks_eq_spacedText (text : Bytes) : collapseBlanks text = spacedText text := by
  obtain ⟨blank, hruns⟩ := exists_alternating text
  have e := collapseBlanks_flatten hruns
  rwa [flatten_blankRuns] at e

namespace Dkim

/-! ### The form of a body -/

/-- The form of a piece of a body between two line feeds: a carriage return at its end belongs to
the line end, and in relaxed form the blanks are collapsed. -/
def pieceForm : Canonicalization → Bytes → Bytes
  | .simple, piece => dropFinal cr piece
  | .relaxed, piece => spacedText (dropFinal cr piece)

/-- The lines of the canonical form: those of the body, without the empty ones at the end. -/
def formLines (mode : Canonicalization) (body : Bytes) : List Bytes :=
  ((body.splitOn lf).map (pieceForm mode)).rdropWhile List.isEmpty

/-- The canonical form of a body.  Every line ends in CRLF; in simple form a body without lines is
one line end. -/
def bodyForm (mode : Canonicalization) (body : Bytes) : Bytes :=
  if mode = .simple ∧ formLines mode body = [] then crlf else writeLines (formLines mode body)

namespace CanonicalBody

/-- Takes some octets of the body; the second part is what is let go. -/
def feed (c : CanonicalBody) : Bytes → CanonicalBody × Bytes
  | [] => (c, [])
  | b :: body => ((c.step b).1.feed body |>.1, (c.step b).2 ++ ((c.step b).1.feed body).2)

/-- What is let go over a body that arrives in chunks, and at its end. -/
def feedAll (c : CanonicalBody) : List Bytes → Bytes
  | [] => c.finish
  | chunk :: chunks => (c.feed chunk).2 ++ (c.feed chunk).1.feedAll chunks

/-- The lines that are still to come when the octets `body` are all that follow. -/
def remainingLines (c : CanonicalBody) (body : Bytes) : List Bytes :=
  (List.replicate c.emptyLines [] ++
    ((c.line.reverse ++ body).splitOn lf).map (pieceForm c.mode)).rdropWhile List.isEmpty

/-- What is still to be let go. -/
def remaining (c : CanonicalBody) (body : Bytes) : Bytes :=
  if c.written = false ∧ c.mode = .simple ∧ c.remainingLines body = [] then crlf
  else writeLines (c.remainingLines body)

/-! ### One octet at a time -/

theorem reverse_dropReturn (line : Bytes) :
    (dropReturn line).reverse = dropFinal cr line.reverse := by
  cases line with
  | nil => rfl
  | cons b line =>
      rw [dropReturn, List.reverse_cons, dropFinal, List.getLast?_concat, List.dropLast_concat]
      by_cases h : b = cr
      · rw [if_pos h, if_pos (congrArg some h)]
      · rw [if_neg h, if_neg fun e => h (Option.some.inj e), List.reverse_cons]

/-- The current line is brought into the form of its piece. -/
theorem lineForm_eq_pieceForm (mode : Canonicalization) (line : Bytes) :
    lineForm mode (dropReturn line).reverse = pieceForm mode line.reverse := by
  rw [reverse_dropReturn]
  cases mode with
  | simple => rfl
  | relaxed => exact collapseBlanks_eq_spacedText _

theorem writeLines_append (texts more : List Bytes) :
    writeLines (texts ++ more) = writeLines texts ++ writeLines more :=
  List.flatMap_append

theorem writeLines_replicate (n : Nat) : writeLines (List.replicate n []) = lineEnds n := by
  rw [writeLines, List.flatMap_replicate]
  rfl

/-- Lines at the end are dropped up to the last one that is kept. -/
theorem rdropWhile_append_cons {p : Bytes → Bool} {line : Bytes} (h : ¬ p line = true)
    (above below : List Bytes) :
    (above ++ line :: below).rdropWhile p = above ++ line :: below.rdropWhile p := by
  induction below using List.reverseRecOn with
  | nil =>
      rw [List.rdropWhile_concat_neg p above line h]
      rfl
  | append_singleton below last ih =>
      rw [← List.cons_append, ← List.append_assoc]
      by_cases hlast : p last = true
      · rw [List.rdropWhile_concat_pos p _ last hlast, List.rdropWhile_concat_pos p _ last hlast,
          ih]
      · rw [List.rdropWhile_concat_neg p _ last hlast, List.rdropWhile_concat_neg p _ last hlast,
          List.append_assoc, List.cons_append]

theorem endLine_of_eq_nil {c : CanonicalBody} (h : pieceForm c.mode c.line.reverse = []) :
    c.endLine = (⟨c.mode, [], c.emptyLines + 1, c.written⟩, []) := by
  unfold endLine
  rw [lineForm_eq_pieceForm, h]
  rfl

theorem endLine_of_ne_nil {c : CanonicalBody} (h : pieceForm c.mode c.line.reverse ≠ []) :
    c.endLine = (⟨c.mode, [], 0, true⟩,
      lineEnds c.emptyLines ++ pieceForm c.mode c.line.reverse ++ crlf) := by
  unfold endLine
  rw [lineForm_eq_pieceForm]
  exact if_neg fun e => h (List.isEmpty_iff.mp e)

/-- The current line is the first of the lines that are still to come. -/
theorem remainingLines_lf {c : CanonicalBody} (hline : lf ∉ c.line) (body : Bytes) :
    c.remainingLines (lf :: body) =
      (List.replicate c.emptyLines [] ++ pieceForm c.mode c.line.reverse ::
        (body.splitOn lf).map (pieceForm c.mode)).rdropWhile List.isEmpty := by
  have hline : lf ∉ c.line.reverse := by simpa using hline
  rw [remainingLines, List.splitOn_append_cons_self_of_not_mem hline, List.map_cons]

/-- The end of a line moves what the line gives rise to from what remains to what is let go. -/
theorem endLine_remaining {c : CanonicalBody} (hline : lf ∉ c.line) (body : Bytes) :
    c.endLine.2 ++ c.endLine.1.remaining body = c.remaining (lf :: body) := by
  have hlines := remainingLines_lf hline body
  by_cases hform : pieceForm c.mode c.line.reverse = []
  · -- the empty line is held back with the others
    rw [hform, List.append_cons, ← List.replicate_succ'] at hlines
    rw [endLine_of_eq_nil hform, remaining, remaining, hlines]
    rfl
  · have hkept : ¬ (pieceForm c.mode c.line.reverse).isEmpty = true := fun e =>
      hform (List.isEmpty_iff.mp e)
    rw [rdropWhile_append_cons hkept] at hlines
    have hne : c.remainingLines (lf :: body) ≠ [] := by
      rw [hlines]
      exact List.append_ne_nil_of_right_ne_nil _ (List.cons_ne_nil _ _)
    rw [endLine_of_ne_nil hform, remaining, remaining, if_neg fun h => Bool.noConfusion h.1,
      if_neg fun h => hne h.2.2, hlines, writeLines_append, writeLines_replicate]
    simp [writeLines, remainingLines]

/-- **One octet** moves a part of what remains to what is let go. -/
theorem step_remaining {c : CanonicalBody} (hline : lf ∉ c.line) (b : UInt8) (body : Bytes) :
    (c.step b).2 ++ (c.step b).1.remaining body = c.remaining (b :: body) := by
  unfold step
  by_cases hb : b = lf
  · rw [if_pos hb, hb]
    exact endLine_remaining hline body
  · have hlines : ({ c with line := b :: c.line } : CanonicalBody).remainingLines body =
        c.remainingLines (b :: body) := by
      rw [remainingLines, remainingLines, List.reverse_cons, List.append_assoc]
      rfl
    rw [if_neg hb, remaining, remaining, hlines]
    rfl

theorem line_endLine (c : CanonicalBody) : c.endLine.1.line = [] := by
  by_cases h : pieceForm c.mode c.line.reverse = []
  · rw [endLine_of_eq_nil h]
  · rw [endLine_of_ne_nil h]

/-- The current line never holds a line feed. -/
theorem lf_notMem_step {c : CanonicalBody} (hline : lf ∉ c.line) (b : UInt8) :
    lf ∉ (c.step b).1.line := by
  unfold step
  split
  · rw [line_endLine]
    exact List.not_mem_nil
  · next hb => simpa using ⟨Ne.symm hb, hline⟩

theorem pieceForm_nil (mode : Canonicalization) : pieceForm mode [] = [] := by
  cases mode <;> rfl

/-- A line feed at the end of the body does not count. -/
theorem remainingLines_lf_nil {c : CanonicalBody} (hline : lf ∉ c.line) :
    c.remainingLines [lf] = c.remainingLines [] := by
  have hlines := remainingLines_lf hline []
  have hline : lf ∉ c.line.reverse := by simpa using hline
  rw [hlines, remainingLines, List.append_nil, List.splitOn_eq_singleton hline, List.splitOn_nil,
    List.map_singleton, List.map_singleton, pieceForm_nil, List.append_cons]
  exact List.rdropWhile_concat_pos _ _ [] rfl

/-- Where no line is current, nothing but empty lines can remain, and these are dropped. -/
theorem finish_of_line_eq_nil {c : CanonicalBody} (h : c.line = []) :
    c.finish = c.remaining [] := by
  have hlines : c.remainingLines [] = [] := by
    have hall : c.remainingLines [] = (List.replicate (c.emptyLines + 1) []).rdropWhile
        List.isEmpty := by
      rw [remainingLines, h, List.replicate_succ']
      simp [pieceForm_nil]
    rw [hall, List.rdropWhile_eq_nil_iff]
    exact fun line m => List.isEmpty_iff.mpr (List.eq_of_mem_replicate m)
  unfold finish remaining
  rw [h, hlines]
  simp [writeLines]

theorem finish_of_line_ne_nil {c : CanonicalBody} (h : c.line ≠ []) :
    c.finish = c.endLine.2 ++ c.endLine.1.finish := by
  have hopen : c.line.isEmpty = false := List.isEmpty_eq_false_iff.mpr h
  unfold finish
  rw [hopen, line_endLine, if_neg Bool.false_ne_true, if_pos List.isEmpty_nil]
  dsimp only
  split
  · rfl
  · exact (List.append_nil _).symm

/-- At the end of the body a current line ends as if a line feed followed. -/
theorem finish_eq_remaining {c : CanonicalBody} (hline : lf ∉ c.line) :
    c.finish = c.remaining [] := by
  by_cases h : c.line = []
  · exact finish_of_line_eq_nil h
  · have e := endLine_remaining hline []
    rw [finish_of_line_ne_nil h, finish_of_line_eq_nil (line_endLine c), e, remaining, remaining,
      remainingLines_lf_nil hline]

/-! ### The whole body -/

/-- Chunk by chunk everything is let go that remains. -/
theorem feed_remaining {c : CanonicalBody} (hline : lf ∉ c.line) (chunk body : Bytes) :
    lf ∉ (c.feed chunk).1.line ∧
      (c.feed chunk).2 ++ (c.feed chunk).1.remaining body = c.remaining (chunk ++ body) := by
  induction chunk generalizing c with
  | nil => exact ⟨hline, rfl⟩
  | cons b chunk ih =>
      obtain ⟨hnext, e⟩ := ih (lf_notMem_step hline b)
      refine ⟨hnext, ?_⟩
      rw [feed, List.append_assoc, e, step_remaining hline, List.cons_append]

theorem feedAll_eq_remaining {c : CanonicalBody} (hline : lf ∉ c.line) (chunks : List Bytes) :
    c.feedAll chunks = c.remaining chunks.flatten := by
  induction chunks generalizing c with
  | nil => exact finish_eq_remaining hline
  | cons chunk chunks ih =>
      obtain ⟨hnext, e⟩ := feed_remaining hline chunk chunks.flatten
      rw [feedAll, ih hnext, e, List.flatten_cons]

/-- What is let go over a whole body in the given form. -/
def fed (mode : Canonicalization) (chunks : List Bytes) : Bytes :=
  feedAll ⟨mode, [], 0, false⟩ chunks

theorem fed_eq_bodyForm (mode : Canonicalization) (chunks : List Bytes) :
    fed mode chunks = bodyForm mode chunks.flatten := by
  rw [fed, feedAll_eq_remaining List.not_mem_nil, remaining, bodyForm]
  simp [remainingLines, formLines]

end CanonicalBody

/-! ### What is hashed -/

namespace BodyHash

variable {algorithm : HashAlgorithm}

/-- The hash takes what is let go. -/
theorem update_eq_feed (h : BodyHash algorithm) (chunk : Bytes) :
    h.update chunk = ⟨(h.body.feed chunk).1, h.hasher.update (h.body.feed chunk).2⟩ := by
  induction chunk generalizing h with
  | nil => rfl
  | cons b chunk ih =>
      have e : h.update (b :: chunk) = (h.step b).update chunk := rfl
      rw [e, ih, CanonicalBody.feed, Sha2.Hasher.update_append]
      rfl

theorem finish_foldl_update (h : BodyHash algorithm) (chunks : List Bytes) :
    (chunks.foldl update h).finish = (h.hasher.update (h.body.feedAll chunks)).finish := by
  induction chunks generalizing h with
  | nil => rfl
  | cons chunk chunks ih =>
      rw [List.foldl_cons, ih, update_eq_feed, CanonicalBody.feedAll, Sha2.Hasher.update_append]

end BodyHash

/-- **A body in chunks is hashed in its canonical form.**  In both modes, however the body is cut,
the octets that are let go to be hashed are the canonical form of the whole body.  They are what the
hasher takes, whatever it took before, and so the body hash is the digest of that form. -/
theorem hashed_body_form (mode : Canonicalization) (chunks : List Bytes) :
    CanonicalBody.fed mode chunks = bodyForm mode chunks.flatten ∧
      ∀ algorithm : HashAlgorithm,
        (∀ hasher : Hasher algorithm,
          (chunks.foldl BodyHash.update ⟨⟨mode, [], 0, false⟩, hasher⟩).finish =
            (hasher.update (CanonicalBody.fed mode chunks)).finish) ∧
        (chunks.foldl BodyHash.update (BodyHash.start mode : BodyHash algorithm)).finish =
          algorithm.digest (bodyForm mode chunks.flatten) := by
  have hform := CanonicalBody.fed_eq_bodyForm mode chunks
  refine ⟨hform, fun algorithm => ⟨fun hasher => ?_, ?_⟩⟩
  · exact BodyHash.finish_foldl_update ⟨⟨mode, [], 0, false⟩, hasher⟩ chunks
  · rw [BodyHash.finish_foldl_update, ← hform]
    rfl

-- a CR without its LF, blanks at a line end, and empty lines, in chunks that cut through a CRLF
example :
    CanonicalBody.fed .relaxed [[32, 65, 9, 32, 13], [10, 32, 13, 10], [66, 13]] =
        [32, 65, 13, 10, 13, 10, 66, 13, 10] ∧
      CanonicalBody.fed .simple [[13], [10, 10]] = crlf ∧
      CanonicalBody.fed .relaxed [[13], [10, 10]] = [] := by
  decide

end Dkim

end Mailroom
