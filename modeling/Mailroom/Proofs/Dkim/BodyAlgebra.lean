import Mailroom.Proofs.Dkim.Words
import Mailroom.Proofs.Header.WireForm

/-! # Forms of forms

A canonical form is a body again, and its lines are those that it was written from.  So the form of
a form is the form in the coarser of both modes (`formLines_bodyForm`), up to the one line end that
stands for a body without lines in simple form, and the form of a body tells its lines
(`bodyForm_eq_iff`).

At the end of a body a missing line feed does not count.  A missing CRLF does not count either if
the body does not end in a carriage return: there the form takes the carriage return for a part of
the line end, and a further CRLF brings it back (`final_line_end`). -/

namespace Mailroom

open Octet

namespace Dkim

open CanonicalBody (lineForm pieceForm_nil)

/-! ### Lines that are free of line feeds -/

theorem lf_notMem_of_mem_splitOn {body piece : Bytes} (m : piece ∈ body.splitOn lf) :
    lf ∉ piece := by
  induction body generalizing piece with
  | nil =>
      obtain rfl : piece = [] := by simpa using m
      exact List.not_mem_nil
  | cons b body ih =>
      rw [List.splitOn_cons_eq_if_modifyHead] at m
      split at m
      · rcases List.mem_cons.mp m with rfl | m
        · exact List.not_mem_nil
        · exact ih m
      · next hb =>
        have hne : lf ≠ b := fun e => hb (by simp [e])
        obtain ⟨first, pieces, e⟩ := List.exists_cons_of_ne_nil (List.splitOn_ne_nil lf body)
        rw [e, List.modifyHead_cons] at m
        rcases List.mem_cons.mp m with rfl | m
        · have hfirst : lf ∉ first := ih (e ▸ List.mem_cons_self)
          simpa using ⟨hne, hfirst⟩
        · exact ih (e ▸ List.mem_cons_of_mem first m)

theorem lf_notMem_lineForm (mode : Canonicalization) {text : Bytes} (h : lf ∉ text) :
    lf ∉ lineForm mode text := by
  cases mode with
  | simple => exact h
  | relaxed =>
      intro m
      rcases mem_collapseBlanks m with e | m
      · exact absurd e (by decide)
      · exact h m

theorem pieceForm_eq_lineForm (mode : Canonicalization) (piece : Bytes) :
    pieceForm mode piece = lineForm mode (dropFinal cr piece) := by
  cases mode with
  | simple => rfl
  | relaxed => exact (collapseBlanks_eq_spacedText _).symm

theorem lf_notMem_formLines {mode : Canonicalization} {body line : Bytes}
    (m : line ∈ formLines mode body) : lf ∉ line := by
  obtain ⟨piece, mp, rfl⟩ := List.mem_map.mp ((List.rdropWhile_prefix _ _).subset m)
  rw [pieceForm_eq_lineForm]
  exact lf_notMem_lineForm mode fun h => lf_notMem_of_mem_splitOn mp (mem_of_mem_dropFinal h)

/-! ### Lines that were written -/

theorem splitOn_writeLines {texts : List Bytes} (h : ∀ text ∈ texts, lf ∉ text) :
    (writeLines texts).splitOn lf = texts.map (· ++ [cr]) ++ [[]] := by
  induction texts with
  | nil => exact List.splitOn_nil lf
  | cons text texts ih =>
      have htext : lf ∉ text ++ [cr] := by
        have := h text List.mem_cons_self
        simpa [lf, cr] using this
      have e : writeLines (text :: texts) = (text ++ [cr]) ++ lf :: writeLines texts := by
        simp [writeLines, crlf]
      rw [e, List.splitOn_append_cons_self_of_not_mem htext,
        ih fun t m => h t (List.mem_cons_of_mem text m)]
      rfl

/-- Written lines are brought into form one by one. -/
theorem formLines_writeLines (mode : Canonicalization) {texts : List Bytes}
    (h : ∀ text ∈ texts, lf ∉ text) :
    formLines mode (writeLines texts) = (texts.map (lineForm mode)).rdropWhile List.isEmpty := by
  have hpiece : pieceForm mode ∘ (· ++ [cr]) = lineForm mode := by
    funext text
    rw [Function.comp_apply, pieceForm_eq_lineForm, dropFinal_append_self]
  rw [formLines, splitOn_writeLines h, List.map_append, List.map_map, hpiece, List.map_singleton,
    pieceForm_nil]
  exact List.rdropWhile_concat_pos _ _ [] rfl

/-- Empty lines at the end may be dropped before the lines are changed. -/
theorem rdropWhile_map_rdropWhile {f : Bytes → Bytes} (hf : f [] = []) (lines : List Bytes) :
    ((lines.rdropWhile List.isEmpty).map f).rdropWhile List.isEmpty =
      (lines.map f).rdropWhile List.isEmpty := by
  induction lines using List.reverseRecOn with
  | nil => rfl
  | append_singleton lines last ih =>
      cases last with
      | nil =>
          have hempty : List.isEmpty (f []) = true := by rw [hf]; rfl
          rw [List.rdropWhile_concat_pos _ _ [] rfl, ih, List.map_append, List.map_singleton,
            List.rdropWhile_concat_pos _ _ _ hempty]
      | cons b last => rw [List.rdropWhile_concat_neg _ _ _ (by simp)]

/-! ### Two forms in a row -/

/-- The coarser of two modes: relaxed if one of them is. -/
def Canonicalization.coarser : Canonicalization → Canonicalization → Canonicalization
  | simple, mode => mode
  | relaxed, _ => relaxed

theorem lineForm_lineForm (mode first : Canonicalization) (text : Bytes) :
    lineForm mode (lineForm first text) = lineForm (mode.coarser first) text := by
  cases mode with
  | simple => rfl
  | relaxed =>
      cases first with
      | simple => rfl
      | relaxed => exact collapseBlanks_idem text

/-- A form is a body of the lines of the form; one empty line may stand for none. -/
theorem exists_writeLines_bodyForm (mode : Canonicalization) (body : Bytes) :
    ∃ texts : List Bytes, bodyForm mode body = writeLines texts ∧ (∀ text ∈ texts, lf ∉ text) ∧
      texts.rdropWhile List.isEmpty = formLines mode body := by
  unfold bodyForm
  split
  · next h => exact ⟨[[]], by simp [writeLines], by simp, by rw [h.2]; rfl⟩
  · exact ⟨formLines mode body, rfl, fun text m => lf_notMem_formLines m,
      List.rdropWhile_idempotent _ _⟩

/-- **The lines of a form** are the lines of the body in the coarser of both modes. -/
theorem formLines_bodyForm (mode first : Canonicalization) (body : Bytes) :
    formLines mode (bodyForm first body) = formLines (mode.coarser first) body := by
  obtain ⟨texts, e, hlf, htexts⟩ := exists_writeLines_bodyForm first body
  have hnil : lineForm mode [] = [] := by cases mode <;> rfl
  have hpiece : lineForm mode ∘ pieceForm first = pieceForm (mode.coarser first) := by
    funext piece
    rw [Function.comp_apply, pieceForm_eq_lineForm, pieceForm_eq_lineForm, lineForm_lineForm]
  calc formLines mode (bodyForm first body)
      = (texts.map (lineForm mode)).rdropWhile List.isEmpty := by
        rw [e, formLines_writeLines mode hlf]
    _ = ((formLines first body).map (lineForm mode)).rdropWhile List.isEmpty := by
        rw [← rdropWhile_map_rdropWhile hnil, htexts]
    _ = formLines (mode.coarser first) body := by
        rw [formLines, rdropWhile_map_rdropWhile hnil, List.map_map, hpiece]
        rfl

/-- **The form of a body tells its lines,** and nothing else. -/
theorem bodyForm_eq_iff {mode : Canonicalization} {body other : Bytes} :
    bodyForm mode body = bodyForm mode other ↔ formLines mode body = formLines mode other := by
  constructor
  · intro e
    have hlines := congrArg (formLines .simple) e
    rwa [formLines_bodyForm, formLines_bodyForm] at hlines
  · intro e
    rw [bodyForm, bodyForm, e]

theorem bodyForm_idem (mode : Canonicalization) (body : Bytes) :
    bodyForm mode (bodyForm mode body) = bodyForm mode body := by
  rw [bodyForm_eq_iff, formLines_bodyForm]
  cases mode <;> rfl

theorem relaxed_simple (body : Bytes) :
    bodyForm .relaxed (bodyForm .simple body) = bodyForm .relaxed body := by
  rw [bodyForm_eq_iff, formLines_bodyForm]
  rfl

theorem bodyForm_relaxed_eq_nil_iff {body : Bytes} :
    bodyForm .relaxed body = [] ↔ formLines .relaxed body = [] := by
  cases h : formLines .relaxed body <;> simp [bodyForm, h, writeLines, crlf]

theorem simple_relaxed (body : Bytes) :
    bodyForm .simple (bodyForm .relaxed body) =
      if bodyForm .relaxed body = [] then crlf else bodyForm .relaxed body := by
  have hlines : formLines .simple (bodyForm .relaxed body) = formLines .relaxed body :=
    formLines_bodyForm .simple .relaxed body
  have hform : bodyForm .relaxed body = writeLines (formLines .relaxed body) := by simp [bodyForm]
  simp only [bodyForm_relaxed_eq_nil_iff]
  conv_lhs => rw [bodyForm, hlines]
  simp [hform]

theorem fed_whole (mode : Canonicalization) (body : Bytes) :
    CanonicalBody.fed mode [body] = bodyForm mode body := by
  rw [CanonicalBody.fed_eq_bodyForm, List.flatten_singleton]

/-- **The algebra of the forms of a body.**  Each form is its own form, the relaxed form of the
simple form is the relaxed form, and the simple form of the relaxed form is the relaxed form, or
CRLF if that is empty.  So bodies that agree in simple form agree in relaxed form.  In each mode two
bodies have the same form if and only if they have the same lines in form, up to empty lines at the
end. -/
theorem body_form_algebra :
    (∀ body, CanonicalBody.fed .simple [CanonicalBody.fed .simple [body]] =
      CanonicalBody.fed .simple [body]) ∧
    (∀ body, CanonicalBody.fed .relaxed [CanonicalBody.fed .relaxed [body]] =
      CanonicalBody.fed .relaxed [body]) ∧
    (∀ body, CanonicalBody.fed .relaxed [CanonicalBody.fed .simple [body]] =
      CanonicalBody.fed .relaxed [body]) ∧
    (∀ body, CanonicalBody.fed .simple [CanonicalBody.fed .relaxed [body]] =
      if CanonicalBody.fed .relaxed [body] = [] then crlf else CanonicalBody.fed .relaxed [body]) ∧
    (∀ body other, CanonicalBody.fed .simple [body] = CanonicalBody.fed .simple [other] →
      CanonicalBody.fed .relaxed [body] = CanonicalBody.fed .relaxed [other]) ∧
    ∀ mode body other, CanonicalBody.fed mode [body] = CanonicalBody.fed mode [other] ↔
      formLines mode body = formLines mode other := by
  simp only [fed_whole]
  refine ⟨bodyForm_idem .simple, bodyForm_idem .relaxed, relaxed_simple, simple_relaxed, ?_,
    fun _ _ _ => bodyForm_eq_iff⟩
  intro body other e
  rw [← relaxed_simple body, e, relaxed_simple]

/-- Bare line feeds, a carriage return in front of a CRLF, and an empty line at the end. -/
theorem body_form_algebra_bare :
    let body : Bytes := [65, 32, 32, 13, 10, 13, 13, 10, 66, 13]
    let other : Bytes := [65, 32, 32, 10, 13, 13, 10, 66, 10, 10]
    CanonicalBody.fed .simple [body] = CanonicalBody.fed .simple [other] ∧
      CanonicalBody.fed .relaxed [body] = CanonicalBody.fed .relaxed [other] := by
  intro body other
  have hsimple : CanonicalBody.fed .simple [body] = CanonicalBody.fed .simple [other] := by decide
  exact ⟨hsimple, body_form_algebra.2.2.2.2.1 body other hsimple⟩

/-! ### The end of a body -/

/-- The end of a body decides about its last line only. -/
theorem exists_lastLine (body : Bytes) : ∃ start last above, body = start ++ last ∧ lf ∉ last ∧
    start.getLast? ≠ some cr ∧ ∀ (mode : Canonicalization) (tail : Bytes), lf ∉ tail →
      formLines mode (start ++ tail) =
        (List.map (pieceForm mode) above ++ [pieceForm mode tail]).rdropWhile List.isEmpty := by
  by_cases hlf : lf ∈ body
  · obtain ⟨before, last, rfl, hlast⟩ := exists_last_lf hlf
    refine ⟨before ++ [lf], last, before.splitOn lf, by simp, hlast, by simp [lf, cr], ?_⟩
    intro mode tail htail
    have e : before ++ [lf] ++ tail = before ++ lf :: tail := by simp
    rw [formLines, e, List.splitOn_append_cons_self, List.splitOn_eq_singleton htail,
      List.map_append, List.map_singleton]
  · refine ⟨[], body, [], rfl, hlf, by simp, fun mode tail htail => ?_⟩
    rw [List.nil_append, formLines, List.splitOn_eq_singleton htail]
    rfl

theorem count_consCollapsed (b : UInt8) (text : Bytes) :
    (consCollapsed b text).count cr = (b :: text).count cr := by
  unfold consCollapsed
  split
  · next hb =>
    have hne : b ≠ cr := by
      rintro rfl
      exact absurd hb (by decide)
    rw [List.count_cons_of_ne hne]
    cases text with
    | nil => rfl
    | cons c text =>
        dsimp only
        split
        · rfl
        · rw [List.count_cons_of_ne (by decide)]
  · rfl

/-- The form of a line keeps the carriage returns in it. -/
theorem count_lineForm (mode : Canonicalization) (text : Bytes) :
    (lineForm mode text).count cr = text.count cr := by
  cases mode with
  | simple => rfl
  | relaxed =>
      show (collapseBlanks text).count cr = text.count cr
      induction text with
      | nil => rfl
      | cons b text ih =>
          have e : collapseBlanks (b :: text) = consCollapsed b (collapseBlanks text) := rfl
          rw [e, count_consCollapsed, List.count_cons, List.count_cons, ih]

theorem rdropWhile_concat_ne {lines : List Bytes} {line other : Bytes} (hne : line ≠ [])
    (h : line ≠ other) :
    (lines ++ [line]).rdropWhile List.isEmpty ≠ (lines ++ [other]).rdropWhile List.isEmpty := by
  intro e
  rw [List.rdropWhile_concat_neg _ _ _ (by simpa using hne)] at e
  have hprefix : lines ++ [line] <+: lines ++ [other] := e ▸ List.rdropWhile_prefix _ _
  have hall := hprefix.eq_of_length (by simp)
  simp only [List.append_cancel_left_eq, List.cons.injEq, and_true] at hall
  exact h hall

/-- **A carriage return behind a body** counts if and only if one stands there already. -/
theorem formLines_append_cr_iff {mode : Canonicalization} {body : Bytes} :
    formLines mode (body ++ [cr]) = formLines mode body ↔ body.getLast? ≠ some cr := by
  obtain ⟨start, last, above, rfl, hlf, hstart, hlines⟩ := exists_lastLine body
  have hlf' : lf ∉ last ++ [cr] := by simpa [lf, cr] using hlf
  rw [List.append_assoc, hlines mode _ hlf', hlines mode _ hlf, pieceForm_eq_lineForm,
    pieceForm_eq_lineForm, dropFinal_append_self]
  by_cases hlast : last.getLast? = some cr
  · -- the form took this carriage return for a part of the line end
    obtain ⟨text, rfl⟩ := List.getLast?_eq_some_iff.mp hlast
    have hcount : (lineForm mode (text ++ [cr])).count cr = (lineForm mode text).count cr + 1 := by
      rw [count_lineForm, count_lineForm, List.count_append, List.count_singleton_self]
    have hne : lineForm mode (text ++ [cr]) ≠ [] := by
      intro e
      rw [e, List.count_nil] at hcount
      omega
    have hother : lineForm mode (text ++ [cr]) ≠ lineForm mode text := by
      intro e
      rw [e] at hcount
      omega
    rw [dropFinal_append_self]
    have hend : (start ++ (text ++ [cr])).getLast? = some cr := by simp
    exact iff_of_false (rdropWhile_concat_ne hne hother) (fun h => h hend)
  · have hkept : dropFinal cr last = last := if_neg hlast
    have hend : (start ++ last).getLast? ≠ some cr := by
      cases last with
      | nil => simpa using hstart
      | cons b last => rwa [List.getLast?_append_of_ne_nil _ (List.cons_ne_nil b last)]
    rw [hkept]
    exact iff_of_true rfl hend

theorem formLines_append_lf (mode : Canonicalization) (body : Bytes) :
    formLines mode (body ++ [lf]) = formLines mode body := by
  rw [formLines, List.splitOn_append_cons_self, List.splitOn_nil, List.map_append,
    List.map_singleton, pieceForm_nil]
  exact List.rdropWhile_concat_pos _ _ [] rfl

/-- The hash of a whole body. -/
def bodyHash (algorithm : HashAlgorithm) (mode : Canonicalization) (body : Bytes) : Bytes :=
  ((BodyHash.start mode : BodyHash algorithm).update body).finish

theorem bodyHash_eq_digest (algorithm : HashAlgorithm) (mode : Canonicalization) (body : Bytes) :
    bodyHash algorithm mode body = algorithm.digest (CanonicalBody.fed mode [body]) :=
  BodyHash.finish_foldl_update (BodyHash.start mode) [body]

/-- Bodies of the same form have the same hash. -/
theorem bodyHash_congr (algorithm : HashAlgorithm) {mode : Canonicalization} {body other : Bytes}
    (h : CanonicalBody.fed mode [body] = CanonicalBody.fed mode [other]) :
    bodyHash algorithm mode body = bodyHash algorithm mode other := by
  rw [bodyHash_eq_digest, bodyHash_eq_digest, h]

/-- **A missing line end at the end of a body.**  A missing line feed never counts.  A missing CRLF
does not count, for the form and so for the hash, if and only if the body does not end in a carriage
return. -/
theorem final_line_end (mode : Canonicalization) (body : Bytes) :
    CanonicalBody.fed mode [body ++ [lf]] = CanonicalBody.fed mode [body] ∧
    (CanonicalBody.fed mode [body ++ crlf] = CanonicalBody.fed mode [body] ↔
      body.getLast? ≠ some cr) ∧
    ∀ algorithm : HashAlgorithm,
      bodyHash algorithm mode (body ++ [lf]) = bodyHash algorithm mode body ∧
      (body.getLast? ≠ some cr →
        bodyHash algorithm mode (body ++ crlf) = bodyHash algorithm mode body) := by
  have hlf : ∀ body, CanonicalBody.fed mode [body ++ [lf]] = CanonicalBody.fed mode [body] := by
    intro body
    rw [fed_whole, fed_whole, bodyForm_eq_iff, formLines_append_lf]
  have hcrlf : CanonicalBody.fed mode [body ++ crlf] = CanonicalBody.fed mode [body] ↔
      body.getLast? ≠ some cr := by
    have e : body ++ crlf = (body ++ [cr]) ++ [lf] := by simp [crlf]
    rw [e, hlf, fed_whole, fed_whole, bodyForm_eq_iff, formLines_append_cr_iff]
  exact ⟨hlf body, hcrlf, fun algorithm => ⟨bodyHash_congr algorithm (hlf body), fun h =>
    bodyHash_congr algorithm (hcrlf.mpr h)⟩⟩

/-- A last line that ends in blanks. -/
theorem final_line_end_blank :
    let body := utf8 "Hello \t"
    body.getLast? ≠ some cr ∧
      bodyHash .sha256 .relaxed (body ++ crlf) = bodyHash .sha256 .relaxed body := by
  intro body
  have hlast : body.getLast? ≠ some cr := by decide
  exact ⟨hlast, ((final_line_end .relaxed body).2.2 .sha256).2 hlast⟩

/-- A body that ends in a carriage return has another hash than with a CRLF behind it. -/
theorem final_return_lost :
    let body := utf8 "Hello\r"
    body ≠ [] ∧ body.getLast? ≠ some lf ∧
      ∀ mode, bodyHash .sha256 mode body ≠ bodyHash .sha256 mode (body ++ crlf) := by
  intro body
  refine ⟨by decide, by decide, fun mode => ?_⟩
  have hfed : CanonicalBody.fed mode [body] = utf8 "Hello\r\n" := by cases mode <;> decide
  have hfed' : CanonicalBody.fed mode [body ++ crlf] = utf8 "Hello\r\r\n" := by
    cases mode <;> decide
  have hdigests : HashAlgorithm.sha256.digest (utf8 "Hello\r\n") ≠
      HashAlgorithm.sha256.digest (utf8 "Hello\r\r\n") := by
    decide +kernel
  rwa [bodyHash_eq_digest, bodyHash_eq_digest, hfed, hfed']

end Dkim

end Mailroom
