import Mailroom.Proofs.Dkim.SignedOctets
import Mailroom.Proofs.Dkim.Words

/-! # The relaxed form of a field is a normal form

The relaxed form is the name in lower case without the blanks behind it, a colon, and the words of
the unfolded value with single spaces between them (`relaxed_field_eq`).  For names without a colon
it tells everything that it is made of (`relaxed_field_eq_iff`), and read as a field again it is its
own relaxed form (`relaxed_field_ofOctets`). -/

namespace Mailroom

open Octet (colon cr lf space isBlank)

/-! ### Text and its octets -/

theorem le_of_mem_utf8EncodeChar {c : Char} (hc : 128 ≤ c.toNat) {b : UInt8}
    (hb : b ∈ String.utf8EncodeChar c) : 128 ≤ b.toNat := by
  by_contra hlow
  have hlt : b.toNat < 128 := by omega
  have e : c = Char.ofNat b.toNat :=
    eq_of_mem_utf8EncodeChar hlt (by rwa [UInt8.ofNat_toNat])
  rw [e, toNat_ofNat_of_lt hlt] at hc
  omega

theorem map_toLower_utf8EncodeChar (c : Char) :
    (String.utf8EncodeChar c).map Octet.toLower = String.utf8EncodeChar c.toLower := by
  by_cases hc : c.toNat < 128
  · exact forall_ascii (p := fun c => (String.utf8EncodeChar c).map Octet.toLower =
      String.utf8EncodeChar c.toLower) (by decide +kernel) hc
  · have hlarge : 128 ≤ c.toNat := by omega
    have hoctets : ∀ b ∈ String.utf8EncodeChar c, Octet.toLower b = b := by
      intro b m
      have := le_of_mem_utf8EncodeChar hlarge m
      refine if_neg fun hupper => ?_
      have hle : b.toNat ≤ 90 := by
        simp only [Bool.and_eq_true, decide_eq_true_eq, UInt8.le_iff_toNat_le] at hupper
        exact hupper.2
      omega
    rw [toLower_of_le hlarge, List.map_congr_left hoctets, List.map_id']

/-- Lowering the octets of a text is lowering the text. -/
theorem map_toLower_utf8 (s : String) : (utf8 s).map Octet.toLower = utf8 (lowerAscii s) := by
  rw [utf8, utf8, lowerAscii, String.toList_ofList, utf8Chars, utf8Chars, List.map_flatMap,
    List.flatMap_map]
  exact List.flatMap_congr fun c _ => map_toLower_utf8EncodeChar c

/-- Space or tab, as a character. -/
def isBlankChar (c : Char) : Bool := c == ' ' || c == '\t'

/-- The octets of a character other than a space or a tab do not end in a blank. -/
theorem exists_last_utf8EncodeChar {c : Char} (hc : isBlankChar c = false) :
    ∃ front last, String.utf8EncodeChar c = front ++ [last] ∧ isBlank last = false := by
  rcases List.eq_nil_or_concat (String.utf8EncodeChar c) with hnil | ⟨front, last, e⟩
  · exact absurd (congrArg List.length hnil) (by simp [Nat.ne_of_gt c.utf8Size_pos])
  · rw [List.concat_eq_append] at e
    refine ⟨front, last, e, Bool.eq_false_iff.mpr fun hlast => ?_⟩
    have m : last ∈ String.utf8EncodeChar c := by simp [e]
    rcases eq_blank_of_mem_utf8EncodeChar m hlast with rfl | rfl <;> cases hc

/-- Blanks at the end of the octets are blanks at the end of the text. -/
theorem dropTrailingBlanks_utf8Chars (chars : List Char) :
    dropTrailingBlanks (utf8Chars chars) = utf8Chars (chars.rdropWhile isBlankChar) := by
  show (utf8Chars chars).rdropWhile isBlank = _
  induction chars using List.reverseRecOn with
  | nil => rfl
  | append_singleton chars c ih =>
      have hlast : utf8Chars [c] = String.utf8EncodeChar c := by simp [utf8Chars]
      rw [utf8Chars_append, hlast]
      cases hc : isBlankChar c with
      | true =>
          have hone : String.utf8EncodeChar c = [UInt8.ofNat c.toNat] ∧
              isBlank (UInt8.ofNat c.toNat) = true := by
            have : c = ' ' ∨ c = '\t' := by simpa [isBlankChar] using hc
            rcases this with rfl | rfl <;> decide
          rw [hone.1, List.rdropWhile_concat_pos _ _ _ hone.2, ih,
            List.rdropWhile_concat_pos _ _ _ hc]
      | false =>
          obtain ⟨front, last, e, hblank⟩ := exists_last_utf8EncodeChar hc
          rw [List.rdropWhile_concat_neg _ _ _ (by simp [hc]), utf8Chars_append, hlast, e,
            ← List.append_assoc, List.rdropWhile_concat_neg _ _ _ (by simp [hblank])]

/-! ### Names -/

/-- The name without the spaces and tabs at its end. -/
def Field.bareName (f : Field) : String := String.ofList (f.name.toList.rdropWhile isBlankChar)

theorem Field.lowName_eq (f : Field) : f.lowName = utf8 (lowerAscii f.bareName) := by
  rw [Field.lowName, ← map_toLower_utf8, Field.bareName, utf8, dropTrailingBlanks_utf8Chars, utf8,
    String.toList_ofList]

theorem isBlankChar_toLower (c : Char) : isBlankChar c.toLower = isBlankChar c := by
  have hback : ∀ d : Char, d.toNat < 65 → d.toLower = d → (c.toLower == d) = (c == d) := by
    intro d hd hlow
    rw [Bool.eq_iff_iff, beq_iff_eq, beq_iff_eq]
    constructor
    · exact eq_of_toLower_eq hd
    · rintro rfl
      exact hlow
  rw [isBlankChar, isBlankChar, hback ' ' (by decide) rfl, hback '\t' (by decide) rfl]

theorem rdropWhile_map_toLower (chars : List Char) :
    (chars.map Char.toLower).rdropWhile isBlankChar =
      (chars.rdropWhile isBlankChar).map Char.toLower := by
  have hcomp : isBlankChar ∘ Char.toLower = isBlankChar := funext isBlankChar_toLower
  rw [List.rdropWhile, List.rdropWhile, ← List.map_reverse, List.dropWhile_map, hcomp,
    List.map_reverse]

theorem lowerAscii_lowerAscii (s : String) : lowerAscii (lowerAscii s) = lowerAscii s := by
  have hcomp : Char.toLower ∘ Char.toLower = Char.toLower := funext toLower_toLower
  rw [lowerAscii, lowerAscii, String.toList_ofList, List.map_map, hcomp]

/-- Nothing is left to trim or to lower in a lowered bare name. -/
theorem Field.bareName_lowered (f : Field) (raw : Bytes) :
    (Field.mk (lowerAscii f.bareName) raw).bareName = lowerAscii f.bareName := by
  simp only [Field.bareName, lowerAscii, String.toList_ofList]
  rw [rdropWhile_map_toLower, List.rdropWhile_idempotent]

/-! ### Values -/

/-- A relaxed value is unfolded. -/
theorem unfold_relaxedValue_append_crlf (raw : Bytes) :
    unfold (relaxedValue raw ++ crlf) = relaxedValue raw := by
  have hkept : unfold (relaxedValue raw) = relaxedValue raw := by
    refine List.filter_eq_self.mpr fun b m => ?_
    rcases mem_collapseBlanks m with rfl | m
    · rfl
    · exact (List.mem_filter.mp ((List.dropWhile_suffix _).subset m)).2
  have hend : unfold crlf = [] := rfl
  rw [unfold, List.filter_append, ← unfold, ← unfold, hkept, hend, List.append_nil]

/-- The words of a value stand in its relaxed form. -/
theorem wordsOf_relaxedValue (raw : Bytes) : wordsOf (relaxedValue raw) = wordsOf (unfold raw) := by
  rw [relaxedValue_eq_joinWords, wordsOf_joinWords fun w m => isRun_of_mem_wordsOf m]

/-- The field that octets hold: its name in front of the first colon, its value behind. -/
def Field.ofOctets (octets : Bytes) : Field :=
  ⟨String.ofList (decodeLossyChars (octets.takeWhile (· != colon))),
    (octets.dropWhile (· != colon)).tail⟩

theorem Field.ofOctets_append {name : String} (h : colon ∉ utf8 name) (raw : Bytes) :
    Field.ofOctets (utf8 name ++ colon :: raw) = ⟨name, raw⟩ := by
  have hname : ∀ b ∈ utf8 name, (b != colon) = true := by
    intro b m
    simpa using fun e : b = colon => h (e ▸ m)
  rw [Field.ofOctets, List.takeWhile_append_of_pos hname, List.dropWhile_append_of_pos hname]
  simp [utf8, decodeLossyChars_utf8Chars]

namespace Dkim

open Canonicalization (relaxed)

/-! ### Relaxed forms -/

theorem relaxed_field_eq (f : Field) :
    relaxed.field f = utf8 (lowerAscii f.bareName) ++
      colon :: (joinWords (wordsOf (unfold f.raw)) ++ crlf) := by
  rw [← f.lowName_eq, ← relaxedValue_eq_joinWords, relaxed_field_eq_lowName]

theorem relaxed_field_eq_iff {f g : Field} (hf : ':' ∉ f.name.toList) (hg : ':' ∉ g.name.toList) :
    relaxed.field f = relaxed.field g ↔ equalsIgnoringCase f.bareName g.bareName = true ∧
      wordsOf (unfold f.raw) = wordsOf (unfold g.raw) := by
  have hfname := f.lowName_eq ▸ Field.colon_notMem_lowName (colon_notMem_utf8Chars hf)
  have hgname := g.lowName_eq ▸ Field.colon_notMem_lowName (colon_notMem_utf8Chars hg)
  rw [equalsIgnoringCase_iff]
  constructor
  · intro e
    rw [relaxed_field_eq, relaxed_field_eq] at e
    have hfield := congrArg Field.ofOctets e
    rw [Field.ofOctets_append hfname, Field.ofOctets_append hgname, Field.mk.injEq] at hfield
    refine ⟨hfield.1, ?_⟩
    have hvalue := congrArg wordsOf (List.append_cancel_right hfield.2)
    rwa [wordsOf_joinWords fun w m => isRun_of_mem_wordsOf m,
      wordsOf_joinWords fun w m => isRun_of_mem_wordsOf m] at hvalue
  · rintro ⟨hname, hwords⟩
    rw [relaxed_field_eq, relaxed_field_eq, hname, hwords]

theorem relaxed_field_ofOctets {f : Field} (hf : ':' ∉ f.name.toList) :
    relaxed.field (Field.ofOctets (relaxed.field f)) = relaxed.field f := by
  have hname := f.lowName_eq ▸ Field.colon_notMem_lowName (colon_notMem_utf8Chars hf)
  have hwords : wordsOf (unfold (joinWords (wordsOf (unfold f.raw)) ++ crlf)) =
      wordsOf (unfold f.raw) := by
    rw [← relaxedValue_eq_joinWords, unfold_relaxedValue_append_crlf, wordsOf_relaxedValue]
  rw [relaxed_field_eq f, Field.ofOctets_append hname, relaxed_field_eq, f.bareName_lowered,
    lowerAscii_lowerAscii, hwords]

/-- **The relaxed form of a field** is the bare name in lower case, a colon, the words of the
unfolded value with single spaces between them, and CRLF.  Fields whose names hold no colon have the
same relaxed form if and only if their bare names agree up to case and their values have the same
words; and the relaxed form, read as a field, has itself as its relaxed form. -/
theorem relaxed_normal_form :
    (∀ f : Field, relaxed.field f = utf8 (lowerAscii f.bareName) ++
      colon :: (joinWords (wordsOf (unfold f.raw)) ++ crlf)) ∧
    (∀ f g : Field, ':' ∉ f.name.toList → ':' ∉ g.name.toList →
      (relaxed.field f = relaxed.field g ↔
        equalsIgnoringCase f.bareName g.bareName = true ∧
          wordsOf (unfold f.raw) = wordsOf (unfold g.raw))) ∧
    ∀ f : Field, ':' ∉ f.name.toList →
      relaxed.field (Field.ofOctets (relaxed.field f)) = relaxed.field f :=
  ⟨relaxed_field_eq, fun _ _ => relaxed_field_eq_iff, fun _ => relaxed_field_ofOctets⟩

/-- Blanks behind a name, a folded value, octets beyond ASCII, and a bare carriage return. -/
theorem relaxed_normal_form_folded :
    let f : Field := ⟨"SubJ\u00c9ct \t", [32, 0xE9, 32, 9, 13, 10, 9, 66, 13, 67, 32]⟩
    let g : Field := ⟨"subj\u00c9ct", [9, 9, 0xE9, 13, 10, 32, 66, 67, 13, 10, 32]⟩
    ':' ∉ f.name.toList ∧ ':' ∉ g.name.toList ∧
      wordsOf (unfold f.raw) = [[0xE9], [66, 67]] ∧
      relaxed.field f = relaxed.field g ∧
      relaxed.field (Field.ofOctets (relaxed.field f)) = relaxed.field f := by
  intro f g
  have hf : ':' ∉ f.name.toList := by decide
  have hg : ':' ∉ g.name.toList := by decide
  have hname : equalsIgnoringCase f.bareName g.bareName = true := by decide
  have hwords : wordsOf (unfold f.raw) = wordsOf (unfold g.raw) := by decide
  exact ⟨hf, hg, by decide, (relaxed_normal_form.2.1 f g hf hg).mpr ⟨hname, hwords⟩,
    relaxed_normal_form.2.2 f hf⟩

end Dkim

end Mailroom
