import Mailroom.Header.Parser
import Mailroom.Proofs.Text.Decoding
import Mathlib.Data.List.TakeWhile

/-! # Header sections survive the wire

A field is *writable* (`Field.Writable`) if its name is a field name and its value is folded the
way `FoldedValue` says: a line feed stands only in a CRLF with a blank behind it.  Reading gives
writable fields only (`writable_of_mem_parse`), and a header of writable fields is read back as it
was written, whatever body follows (`parse_toBytes`). -/

namespace Mailroom

/-! ### Lines -/

theorem splitLines_cons_lf (raw : Bytes) :
    splitLines (Octet.lf :: raw) = [Octet.lf] :: splitLines raw := by
  simp [splitLines]

theorem splitLines_cons_of_ne {b : UInt8} (h : b ≠ Octet.lf) (raw : Bytes) :
    splitLines (b :: raw) = consLine b (splitLines raw) := by
  simp [splitLines, h]

/-- The first line is cut off at the first line feed. -/
theorem splitLines_line {text : Bytes} (h : Octet.lf ∉ text) (rest : Bytes) :
    splitLines (text ++ Octet.lf :: rest) = (text ++ [Octet.lf]) :: splitLines rest := by
  induction text with
  | nil => exact splitLines_cons_lf rest
  | cons b text ih =>
      have hb : b ≠ Octet.lf := fun e => h (e ▸ List.mem_cons_self)
      have ht : Octet.lf ∉ text := fun m => h (List.mem_cons_of_mem b m)
      rw [List.cons_append, splitLines_cons_of_ne hb, ih ht]
      rfl

/-- A line has a line feed at its end only, if at all. -/
theorem eq_of_mem_splitLines {raw line : Bytes} (h : line ∈ splitLines raw) :
    ∃ text, Octet.lf ∉ text ∧ (line = text ∨ line = text ++ [Octet.lf]) := by
  induction raw generalizing line with
  | nil => simp [splitLines] at h
  | cons b raw ih =>
      by_cases hb : b = Octet.lf
      · rw [hb, splitLines_cons_lf] at h
        rcases List.mem_cons.mp h with rfl | h
        · exact ⟨[], by simp, .inr rfl⟩
        · exact ih h
      · rw [splitLines_cons_of_ne hb] at h
        cases hl : splitLines raw with
        | nil =>
            rw [hl] at h
            obtain rfl := List.mem_singleton.mp h
            exact ⟨[b], by simpa using Ne.symm hb, .inl rfl⟩
        | cons first lines =>
            rw [hl] at h
            rcases List.mem_cons.mp h with rfl | h
            · obtain ⟨text, ht, e⟩ := ih (hl ▸ List.mem_cons_self)
              refine ⟨b :: text, by simp [ht, Ne.symm hb], ?_⟩
              rcases e with rfl | rfl
              · exact .inl rfl
              · exact .inr rfl
            · exact ih (hl ▸ List.mem_cons_of_mem first h)

theorem dropFinal_append_self (b : UInt8) (text : Bytes) : dropFinal b (text ++ [b]) = text := by
  simp [dropFinal]

theorem dropFinal_of_notMem {b : UInt8} {text : Bytes} (h : b ∉ text) :
    dropFinal b text = text := by
  unfold dropFinal
  rw [if_neg]
  intro e
  exact h (List.mem_of_getLast? e)

theorem mem_of_mem_dropFinal {b c : UInt8} {text : Bytes} (h : c ∈ dropFinal b text) :
    c ∈ text := by
  unfold dropFinal at h
  split at h
  · exact List.dropLast_subset text h
  · exact h

@[simp] theorem lineText_append_crlf (text : Bytes) : lineText (text ++ crlf) = text := by
  have e : text ++ crlf = (text ++ [Octet.cr]) ++ [Octet.lf] := by simp [crlf]
  rw [lineText, e, dropFinal_append_self, dropFinal_append_self]

/-- The text of a line is free of line feeds. -/
theorem lf_notMem_lineText {raw line : Bytes} (h : line ∈ splitLines raw) :
    Octet.lf ∉ lineText line := by
  obtain ⟨text, ht, rfl | rfl⟩ := eq_of_mem_splitLines h
  · rw [lineText, dropFinal_of_notMem ht]
    exact fun m => ht (mem_of_mem_dropFinal m)
  · rw [lineText, dropFinal_append_self]
    exact fun m => ht (mem_of_mem_dropFinal m)

/-- Texts on lines of their own. -/
def writeLines (texts : List Bytes) : Bytes := texts.flatMap (· ++ crlf)

/-- **Written lines are cut as they were written,** whatever follows them. -/
theorem splitLines_writeLines (rest : Bytes) {texts : List Bytes}
    (h : ∀ text ∈ texts, Octet.lf ∉ text) :
    splitLines (writeLines texts ++ rest) = texts.map (· ++ crlf) ++ splitLines rest := by
  induction texts with
  | nil => rfl
  | cons text texts ih =>
      have ht : Octet.lf ∉ text ++ [Octet.cr] := by
        have := h text List.mem_cons_self
        simpa [Octet.lf, Octet.cr] using this
      have e : writeLines (text :: texts) ++ rest =
          (text ++ [Octet.cr]) ++ Octet.lf :: (writeLines texts ++ rest) := by
        simp [writeLines, crlf]
      rw [e, splitLines_line ht, ih fun t m => h t (List.mem_cons_of_mem text m)]
      simp [crlf]

/-! ### Field names -/

theorem utf8EncodeChar_ofNat :
    ∀ n < 128, String.utf8EncodeChar (Char.ofNat n) = [UInt8.ofNat n] := by
  decide

theorem utf8_asciiText {bytes : Bytes} (h : ∀ b ∈ bytes, b.toNat < 128) :
    utf8 (asciiText bytes) = bytes := by
  induction bytes with
  | nil => simp [asciiText, utf8, utf8Chars]
  | cons b bytes ih =>
      have ih := ih fun c m => h c (List.mem_cons_of_mem b m)
      have hb := utf8EncodeChar_ofNat b.toNat (h b List.mem_cons_self)
      simp only [asciiText, utf8, utf8Chars, String.toList_ofList, List.map_cons,
        List.flatMap_cons] at ih ⊢
      rw [hb, ih, UInt8.ofNat_toNat]
      rfl

theorem utf8_inj {s t : String} (h : utf8 s = utf8 t) : s = t := by
  have e : decodeLossyChars (utf8 s) = decodeLossyChars (utf8 t) := congrArg decodeLossyChars h
  rw [utf8, utf8, decodeLossyChars_utf8Chars, decodeLossyChars_utf8Chars] at e
  exact String.toList_inj.mp e

/-- A field name consists of graphic octets and of blanks. -/
theorem graphic_or_blank {name : Bytes} (h : isFieldName name = true) {b : UInt8} (hb : b ∈ name) :
    Octet.isGraphic b = true ∨ Octet.isBlank b = true := by
  have e := List.takeWhile_append_dropWhile (p := Octet.isBlank) (l := name.reverse)
  have hall : ∀ b ∈ dropTrailingBlanks name, Octet.isGraphic b = true := by
    simp only [isFieldName, Bool.and_eq_true, List.all_eq_true] at h
    exact h.2
  rw [← List.mem_reverse, ← e, List.mem_append] at hb
  rcases hb with hb | hb
  · exact .inr (List.mem_takeWhile_imp hb)
  · exact .inl (hall b (List.mem_reverse.mpr hb))

theorem isGraphic_iff {b : UInt8} : Octet.isGraphic b = true ↔ 33 ≤ b.toNat ∧ b.toNat ≤ 126 := by
  simp [Octet.isGraphic, UInt8.le_iff_toNat_le]

theorem isBlank_iff {b : UInt8} : Octet.isBlank b = true ↔ b.toNat = 32 ∨ b.toNat = 9 := by
  simp [Octet.isBlank, Octet.space, Octet.tab, ← UInt8.toNat_inj]

theorem lt_of_mem_fieldName {name : Bytes} (h : isFieldName name = true) {b : UInt8}
    (hb : b ∈ name) :
    b.toNat < 128 := by
  rcases graphic_or_blank h hb with hg | hg
  · have := isGraphic_iff.mp hg
    omega
  · have := isBlank_iff.mp hg
    omega

theorem lf_notMem_fieldName {name : Bytes} (h : isFieldName name = true) : Octet.lf ∉ name := by
  intro hb
  rcases graphic_or_blank h hb with hg | hg <;> revert hg <;> decide

/-- A field name does not start with a blank. -/
theorem isContinuation_fieldName {name rest : Bytes} (h : isFieldName name = true) :
    isContinuation (name ++ rest) = false := by
  have hpre : dropTrailingBlanks name <+: name := by
    rw [← List.reverse_suffix, dropTrailingBlanks, List.reverse_reverse]
    exact List.dropWhile_suffix _
  simp only [isFieldName, Bool.and_eq_true, Bool.not_eq_true', List.all_eq_true] at h
  obtain ⟨tail, e⟩ := hpre
  cases hd : dropTrailingBlanks name with
  | nil => simp [hd] at h
  | cons b core =>
      have hb := isGraphic_iff.mp (h.2 b (hd ▸ List.mem_cons_self))
      rw [← e, hd]
      show Octet.isBlank b = false
      rw [Bool.eq_false_iff, ne_eq, isBlank_iff]
      omega

/-- **What a field line is:** a field name, a colon and a value. -/
theorem ofLine?_eq_some_iff {text : Bytes} {f : Field} :
    Field.ofLine? text = some f ↔ ∃ name, isFieldName name = true ∧ Octet.colon ∉ name ∧
      f.name = asciiText name ∧ text = name ++ Octet.colon :: f.raw := by
  constructor
  · intro h
    have e := List.takeWhile_append_dropWhile (p := (· != Octet.colon)) (l := text)
    unfold Field.ofLine? at h
    split at h
    · simp at h
    · next b value hv =>
      dsimp only at h
      split at h
      · next hname =>
        cases h
        have hb : b = Octet.colon := by
          have := List.head_dropWhile_not (· != Octet.colon) (l := text) (by simp [hv])
          simpa [hv] using this
        refine ⟨_, hname, ?_, rfl, ?_⟩
        · intro hc
          have := List.mem_takeWhile_imp hc
          simp at this
        · rw [hv, hb] at e
          exact e.symm
      · simp at h
  · rintro ⟨name, hname, hcolon, hf, rfl⟩
    have hne : ∀ b ∈ name, (b != Octet.colon) = true := by
      intro b hb
      simpa using fun e : b = Octet.colon => hcolon (e ▸ hb)
    unfold Field.ofLine?
    rw [List.dropWhile_append_of_pos hne, List.takeWhile_append_of_pos hne]
    simp [hname, ← hf]

theorem ofLine?_of_isContinuation {text : Bytes} (h : isContinuation text = true) :
    Field.ofLine? text = none := by
  cases hf : Field.ofLine? text with
  | none => rfl
  | some f =>
      obtain ⟨name, hname, -, -, rfl⟩ := ofLine?_eq_some_iff.mp hf
      rw [isContinuation_fieldName hname] at h
      cases h

/-! ### Folded values -/

/-- A value on one line, or on several ones of which all but the first start with a blank. -/
inductive FoldedValue : Bytes → Prop
  | line {text : Bytes} : Octet.lf ∉ text → FoldedValue text
  | fold {value text : Bytes} :
      FoldedValue value → isContinuation text = true → Octet.lf ∉ text →
        FoldedValue (value ++ crlf ++ text)

namespace FoldedValue

theorem append {value : Bytes} (h : FoldedValue value) {more : Bytes} (hm : Octet.lf ∉ more) :
    FoldedValue (value ++ more) := by
  cases h with
  | line ht => exact .line (by simp [ht, hm])
  | @fold value text hv hc ht =>
      rw [List.append_assoc]
      refine .fold hv ?_ (by simp [ht, hm])
      cases text with
      | nil => cases hc
      | cons b text => exact hc

theorem append_folds : ∀ {value : Bytes} (_ : FoldedValue value) {texts : List Bytes},
    (∀ text ∈ texts, isContinuation text = true ∧ Octet.lf ∉ text) →
      FoldedValue (value ++ texts.flatMap (crlf ++ ·))
  | value, h, [], _ => by simpa using h
  | value, h, text :: texts, ht => by
      have hfirst := ht text List.mem_cons_self
      have := append_folds (.fold h hfirst.1 hfirst.2) fun t m => ht t (List.mem_cons_of_mem text m)
      simpa using this

/-- The lines of a folded value. -/
theorem exists_texts {value : Bytes} (h : FoldedValue value) :
    ∃ (first : Bytes) (texts : List Bytes), Octet.lf ∉ first ∧
      (∀ text ∈ texts, isContinuation text = true ∧ Octet.lf ∉ text) ∧
      value = first ++ texts.flatMap (crlf ++ ·) := by
  induction h with
  | @line text ht => exact ⟨text, [], ht, by simp, by simp⟩
  | @fold value text _ hc ht ih =>
      obtain ⟨first, texts, hfirst, hall, rfl⟩ := ih
      refine ⟨first, texts ++ [text], hfirst, ?_, by simp⟩
      intro t m
      rcases List.mem_append.mp m with m | m
      · exact hall t m
      · obtain rfl := List.mem_singleton.mp m
        exact ⟨hc, ht⟩

end FoldedValue

/-- A field that can be read back. -/
structure Field.Writable (f : Field) : Prop where
  name : isFieldName (utf8 f.name) = true
  colon : Octet.colon ∉ utf8 f.name
  value : FoldedValue f.raw

/-! ### One line at a time -/

/-- A field line starts a field and hands it the lines collected below. -/
theorem prependLine_field {line : Bytes} {f : Field} (h : Field.ofLine? (lineText line) = some f)
    (below : List Field) (folded : Bytes) :
    prependLine line (below, folded) = (⟨f.name, f.raw ++ folded⟩ :: below, []) := by
  simp only [prependLine, h]

/-- A continuation line is collected for the field above it. -/
theorem prependLine_continuation {line : Bytes} (h : isContinuation (lineText line) = true)
    (below : List Field) (folded : Bytes) :
    prependLine line (below, folded) = (below, crlf ++ lineText line ++ folded) := by
  simp only [prependLine, ofLine?_of_isContinuation h]

/-! ### Reading what was written -/

/-- `texts` are the texts of the lines in which `fields` are written. -/
structure WrittenAs (fields : List Field) (texts : List Bytes) : Prop where
  lf : ∀ text ∈ texts, Octet.lf ∉ text
  header : ∀ text ∈ texts, isHeaderLine text = true
  first : ∀ text ∈ texts.head?, (Field.ofLine? text).isSome
  bytes : fields.flatMap Field.toBytes = writeLines texts
  fields_eq : ∀ below, (texts.map (· ++ crlf)).foldr prependLine (below, []) = (fields ++ below, [])

theorem foldr_prependLine_continuations (below : List Field) : ∀ {texts : List Bytes},
    (∀ text ∈ texts, isContinuation text = true ∧ Octet.lf ∉ text) →
      (texts.map (· ++ crlf)).foldr prependLine (below, []) = (below, texts.flatMap (crlf ++ ·))
  | [], _ => rfl
  | text :: texts, h => by
      have hc : isContinuation (lineText (text ++ crlf)) = true := by
        rw [lineText_append_crlf]
        exact (h text List.mem_cons_self).1
      have ih := foldr_prependLine_continuations below fun t m => h t (List.mem_cons_of_mem text m)
      rw [List.map_cons, List.foldr_cons, ih, prependLine_continuation hc, lineText_append_crlf]
      rfl

theorem writeLines_folds (first : Bytes) : ∀ texts : List Bytes,
    writeLines (first :: texts) = first ++ texts.flatMap (crlf ++ ·) ++ crlf
  | [] => by simp [writeLines]
  | text :: texts => by
      have ih := writeLines_folds text texts
      simp only [writeLines, List.flatMap_cons, List.append_assoc] at ih ⊢
      rw [ih]

theorem Field.Writable.exists_writtenAs {f : Field} (h : f.Writable) :
    ∃ texts, WrittenAs [f] texts := by
  obtain ⟨first, texts, hfirst, hall, hraw⟩ := h.value.exists_texts
  have hname : asciiText (utf8 f.name) = f.name :=
    utf8_inj (utf8_asciiText fun b hb => lt_of_mem_fieldName h.name hb)
  have hline : Field.ofLine? (utf8 f.name ++ Octet.colon :: first) = some ⟨f.name, first⟩ :=
    ofLine?_eq_some_iff.mpr ⟨_, h.name, h.colon, hname.symm, rfl⟩
  refine ⟨(utf8 f.name ++ Octet.colon :: first) :: texts, ?_, ?_, ?_, ?_, ?_⟩
  · intro text m
    rcases List.mem_cons.mp m with rfl | m
    · have := lf_notMem_fieldName h.name
      simp only [List.mem_append, List.mem_cons, not_or]
      exact ⟨this, by decide, hfirst⟩
    · exact (hall text m).2
  · intro text m
    rcases List.mem_cons.mp m with rfl | m
    · simp [isHeaderLine, hline]
    · simp [isHeaderLine, (hall text m).1]
  · simp [hline]
  · rw [writeLines_folds]
    simp [Field.toBytes, hraw]
  · intro below
    rw [List.map_cons, List.foldr_cons, foldr_prependLine_continuations below hall,
      prependLine_field (by rw [lineText_append_crlf]; exact hline), ← hraw]
    rfl

theorem exists_writtenAs : ∀ {fields : List Field},
    (∀ f ∈ fields, f.Writable) → ∃ texts, WrittenAs fields texts
  | [], _ => ⟨[], by simp, by simp, by simp, rfl, fun _ => rfl⟩
  | f :: fields, h => by
      obtain ⟨above, ha⟩ := (h f List.mem_cons_self).exists_writtenAs
      obtain ⟨texts, ht⟩ := exists_writtenAs fun g m => h g (List.mem_cons_of_mem f m)
      refine ⟨above ++ texts, ?_, ?_, ?_, ?_, ?_⟩
      · intro text m
        exact (List.mem_append.mp m).elim (ha.lf text) (ht.lf text)
      · intro text m
        exact (List.mem_append.mp m).elim (ha.header text) (ht.header text)
      · intro text m
        cases above with
        | nil => exact ht.first text m
        | cons first rest => exact ha.first text m
      · have ea := ha.bytes
        have et := ht.bytes
        simp only [List.flatMap_cons, List.flatMap_nil, List.append_nil] at ea ⊢
        rw [ea, et]
        simp [writeLines]
      · intro below
        rw [List.map_append, List.foldr_append, ht.fields_eq below, ha.fields_eq]
        rfl

/-- Below a field line, lines are taken up to the first one that belongs to no header. -/
theorem headerBlock_cons_append {first : Bytes} {lines more : List Bytes}
    (hfirst : (Field.ofLine? (lineText first)).isSome = true)
    (hlines : ∀ line ∈ lines, isHeaderLine (lineText line) = true)
    (hmore : ∀ line ∈ more.head?, ¬ isHeaderLine (lineText line) = true) :
    headerBlock (first :: (lines ++ more)) = (first :: lines, more) := by
  have hall : ∀ line ∈ lines, (isHeaderLine ∘ lineText) line = true := hlines
  rw [headerBlock, if_pos hfirst, List.takeWhile_append_of_pos hall,
    List.dropWhile_append_of_pos hall]
  cases more with
  | nil => simp
  | cons line more =>
      have hno : ¬ (isHeaderLine ∘ lineText) line = true := hmore line rfl
      rw [List.takeWhile_cons_of_neg hno, List.dropWhile_cons_of_neg hno, List.append_nil]

/-- The lines of a header section are cut off in front of the empty line. -/
theorem headerBlock_of_writtenAs {fields : List Field} {texts : List Bytes}
    (h : WrittenAs fields texts) (rest : List Bytes) :
    headerBlock (texts.map (· ++ crlf) ++ crlf :: rest) =
      (texts.map (· ++ crlf), crlf :: rest) := by
  cases texts with
  | nil => rfl
  | cons first texts =>
      have hfirst := h.first first rfl
      have hall : ∀ line ∈ texts.map (· ++ crlf), isHeaderLine (lineText line) = true := by
        intro line m
        obtain ⟨text, mt, rfl⟩ := List.mem_map.mp m
        simpa using h.header text (List.mem_cons_of_mem first mt)
      refine headerBlock_cons_append (by rwa [lineText_append_crlf]) hall ?_
      rintro line ⟨⟩
      decide

/-- **A header of writable fields is read back,** and what follows it is the body. -/
theorem parse_toBytes {h : Header} (hw : ∀ f ∈ h.fields, f.Writable) (body : Bytes) :
    Header.parse (h.toBytes ++ body) = (h, body) := by
  obtain ⟨texts, ht⟩ := exists_writtenAs hw
  have e : h.toBytes ++ body = writeLines texts ++ ([Octet.cr] ++ Octet.lf :: body) := by
    simp [Header.toBytes, ht.bytes, crlf]
  have hlines : splitLines (h.toBytes ++ body) =
      texts.map (· ++ crlf) ++ crlf :: splitLines body := by
    rw [e, splitLines_writeLines _ ht.lf, splitLines_line (by decide)]
    rfl
  have hfields := ht.fields_eq []
  rw [List.append_nil] at hfields
  have hend : dropEmptyLine (crlf :: splitLines body) = splitLines body := rfl
  rw [Header.parse, hlines, headerBlock_of_writtenAs ht]
  simp only [assembleFields, hfields, hend, flatten_splitLines]

/-- **Written headers are told apart.** -/
theorem Header.eq_of_toBytes {h g : Header} (hh : ∀ f ∈ h.fields, f.Writable)
    (hg : ∀ f ∈ g.fields, f.Writable) (e : h.toBytes = g.toBytes) : h = g := by
  have hread := parse_toBytes hh []
  rw [e, parse_toBytes hg []] at hread
  exact (congrArg Prod.fst hread).symm

/-! ### What reading gives -/

/-- The lines of a header section are lines of the message that belong to a header. -/
theorem mem_headerBlock {lines : List Bytes} {line : Bytes} (h : line ∈ (headerBlock lines).1) :
    line ∈ lines ∧ isHeaderLine (lineText line) = true := by
  cases lines with
  | nil => cases h
  | cons first lines =>
      rw [headerBlock] at h
      split at h
      · next hfirst =>
        rcases List.mem_cons.mp h with rfl | h
        · exact ⟨List.mem_cons_self, by simp [isHeaderLine, hfirst]⟩
        · have hsub := (List.takeWhile_prefix (isHeaderLine ∘ lineText)).subset h
          exact ⟨List.mem_cons_of_mem first hsub,
            List.mem_takeWhile_imp (p := isHeaderLine ∘ lineText) h⟩
      · cases h

/-- A field line denotes a writable field, also with continuation lines below it. -/
theorem Field.Writable.of_ofLine? {text : Bytes} {f : Field} (h : Field.ofLine? text = some f)
    (hlf : Octet.lf ∉ text) {texts : List Bytes}
    (ht : ∀ text ∈ texts, isContinuation text = true ∧ Octet.lf ∉ text) :
    Field.Writable ⟨f.name, f.raw ++ texts.flatMap (crlf ++ ·)⟩ := by
  obtain ⟨name, hname, hcolon, hf, rfl⟩ := ofLine?_eq_some_iff.mp h
  have e : utf8 f.name = name := by
    rw [hf]
    exact utf8_asciiText fun b hb => lt_of_mem_fieldName hname hb
  have hraw : Octet.lf ∉ f.raw := by
    simp only [List.mem_append, List.mem_cons, not_or] at hlf
    exact hlf.2.2
  exact ⟨e ▸ hname, e ▸ hcolon, (FoldedValue.line hraw).append_folds ht⟩

/-- Header lines, read from the bottom up, give writable fields; what is collected for the field
above them is made of continuation lines. -/
theorem writable_foldr_prependLine : ∀ {lines : List Bytes},
    (∀ line ∈ lines, Octet.lf ∉ lineText line ∧ isHeaderLine (lineText line) = true) →
      (∀ f ∈ (lines.foldr prependLine ([], [])).1, f.Writable) ∧
      ∃ texts : List Bytes, (∀ text ∈ texts, isContinuation text = true ∧ Octet.lf ∉ text) ∧
        (lines.foldr prependLine ([], [])).2 = texts.flatMap (crlf ++ ·)
  | [], _ => ⟨by simp, [], by simp, rfl⟩
  | line :: lines, h => by
      have hline := h line List.mem_cons_self
      obtain ⟨hw, texts, ht, e⟩ :=
        writable_foldr_prependLine fun l m => h l (List.mem_cons_of_mem line m)
      rw [List.foldr_cons]
      generalize lines.foldr prependLine ([], []) = state at hw e ⊢
      obtain ⟨below, folded⟩ := state
      obtain rfl : folded = texts.flatMap (crlf ++ ·) := e
      cases hf : Field.ofLine? (lineText line) with
      | some f =>
          rw [prependLine_field hf]
          refine ⟨?_, [], by simp, rfl⟩
          intro g m
          rcases List.mem_cons.mp m with rfl | m
          · exact .of_ofLine? hf hline.1 ht
          · exact hw g m
      | none =>
          have hc : isContinuation (lineText line) = true := by
            simpa [isHeaderLine, hf] using hline.2
          rw [prependLine_continuation hc]
          refine ⟨hw, lineText line :: texts, ?_, by simp⟩
          intro text m
          rcases List.mem_cons.mp m with rfl | m
          · exact ⟨hc, hline.1⟩
          · exact ht text m

/-- **Reading gives writable fields only.** -/
theorem writable_of_mem_parse {raw : Bytes} {f : Field} (h : f ∈ (Header.parse raw).1.fields) :
    f.Writable := by
  have hlines : ∀ line ∈ (headerBlock (splitLines raw)).1,
      Octet.lf ∉ lineText line ∧ isHeaderLine (lineText line) = true := fun line m =>
    ⟨lf_notMem_lineText (mem_headerBlock m).1, (mem_headerBlock m).2⟩
  exact (writable_foldr_prependLine hlines).1 f h

end Mailroom
