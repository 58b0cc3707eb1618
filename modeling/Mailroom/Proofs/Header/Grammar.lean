import Mailroom.Proofs.Header.WireForm

/-! # The grammar of a header section

`HeaderSection` says what the header section of a message is, without the reader: whole lines
(`WholeLines`), each of them a field line or a continuation line with a field line above it
(`GoesOn`), then the empty line if there is one, and no line left behind them that could go on.

Reading takes the header section (`HeaderSection.parse_eq`), every message has one
(`exists_headerSection`), and of its lines nothing is lost but the style of their ends
(`toBytes_assembleFields`).  So a header and an offset are what reading gives if and only if they
are given by the grammar (`parse_iff_headerSection`). -/

namespace Mailroom

open Octet

/-! ### Whole lines -/

/-- `lines` are whole lines in front of `rest`.  A line ends at its only line feed; the last line of
a message may lack it. -/
inductive WholeLines : List Bytes → Bytes → Prop
  | nil (rest : Bytes) : WholeLines [] rest
  | ended {text rest : Bytes} {lines : List Bytes} :
      lf ∉ text → WholeLines lines rest → WholeLines ((text ++ [lf]) :: lines) rest
  | unended {line : Bytes} : line ≠ [] → lf ∉ line → WholeLines [line] []

theorem splitLines_eq_singleton {line : Bytes} (hne : line ≠ []) (hlf : lf ∉ line) :
    splitLines line = [line] := by
  induction line with
  | nil => exact absurd rfl hne
  | cons b line ih =>
      have hb : b ≠ lf := fun e => hlf (e ▸ List.mem_cons_self)
      rw [splitLines_cons_of_ne hb]
      cases line with
      | nil => rfl
      | cons c line =>
          rw [ih (List.cons_ne_nil c line) fun m => hlf (List.mem_cons_of_mem b m)]
          rfl

namespace WholeLines

/-- Whole lines are cut off one by one. -/
theorem splitLines_eq {lines : List Bytes} {rest : Bytes} (h : WholeLines lines rest) :
    splitLines (lines.flatten ++ rest) = lines ++ splitLines rest := by
  induction h with
  | nil rest => rfl
  | @ended text rest lines hlf _ ih =>
      have e : ((text ++ [lf]) :: lines).flatten ++ rest =
          text ++ lf :: (lines.flatten ++ rest) := by
        simp
      rw [e, splitLines_line hlf, ih, List.cons_append]
  | @unended line hne hlf =>
      have e : [line].flatten ++ [] = line := by simp
      rw [e, splitLines_eq_singleton hne hlf]
      rfl

/-- What is cut off are whole lines. -/
theorem of_splitLines {raw : Bytes} {lines more : List Bytes}
    (h : splitLines raw = lines ++ more) : WholeLines lines more.flatten := by
  induction lines generalizing raw with
  | nil => exact .nil _
  | cons line lines ih =>
      by_cases hlf : lf ∈ raw
      · obtain ⟨text, rest, rfl, hfirst⟩ := List.eq_append_cons_of_mem hlf
        rw [splitLines_line hfirst] at h
        obtain ⟨rfl, hrest⟩ := List.cons.inj h
        exact .ended hfirst (ih hrest)
      · have hne : raw ≠ [] := by
          rintro rfl
          cases h
        rw [splitLines_eq_singleton hne hlf] at h
        obtain ⟨rfl, hrest⟩ := List.cons.inj h
        obtain ⟨rfl, rfl⟩ := List.append_eq_nil_iff.mp hrest.symm
        exact .unended hne hlf

theorem of_append {above lines : List Bytes} {rest : Bytes} (h : WholeLines (above ++ lines) rest) :
    WholeLines lines rest := by
  induction above with
  | nil => exact h
  | cons line above ih =>
      generalize e : line :: above ++ lines = all at h
      cases h with
      | nil => cases e
      | ended _ h =>
          obtain ⟨-, rfl⟩ := List.cons.inj e
          exact ih h
      | unended =>
          obtain ⟨-, rfl⟩ := List.append_eq_nil_iff.mp (List.cons.inj e).2
          exact .nil []

end WholeLines

/-! ### Lines of a header section -/

/-- A field line: a name of printable ASCII octets other than space and colon, spaces or tabs, a
colon, and anything. -/
def IsFieldLine (text : Bytes) : Prop :=
  ∃ name blanks value : Bytes, text = name ++ blanks ++ colon :: value ∧ name ≠ [] ∧
    (∀ b ∈ name, 0x21 ≤ b.toNat ∧ b.toNat ≤ 0x7E ∧ b ≠ colon) ∧ ∀ b ∈ blanks, b = space ∨ b = tab

/-- A continuation line starts with a space or a tab. -/
def IsContinuationLine (text : Bytes) : Prop :=
  ∃ b rest, text = b :: rest ∧ (b = space ∨ b = tab)

/-- A line with this text goes on with a header section that has the lines `above`. -/
def GoesOn (above : List Bytes) (text : Bytes) : Prop :=
  IsFieldLine text ∨
    IsContinuationLine text ∧ ∃ line ∈ above, IsFieldLine (lineText line)

/-- The header section in front of `rest`: its lines, and the empty line that ends it if there is
one. -/
structure HeaderSection (lines : List Bytes) (ending : Option Bytes) (rest : Bytes) : Prop where
  whole : WholeLines (lines ++ ending.toList) rest
  goesOn : ∀ above line below, lines = above ++ line :: below → GoesOn above (lineText line)
  ending_empty : ∀ line ∈ ending, lineText line = []
  /-- Nothing follows, or the empty line was taken, or the next line does not go on. -/
  maximal : rest = [] ∨ ending ≠ none ∨
    ∃ line more, rest = line ++ more ∧ WholeLines [line] more ∧ lineText line ≠ [] ∧
      ¬ GoesOn lines (lineText line)

theorem isBlank_eq_true_iff {b : UInt8} : isBlank b = true ↔ b = space ∨ b = tab := by
  simp [isBlank]

theorem isFieldLine_iff {text : Bytes} :
    IsFieldLine text ↔ (Field.ofLine? text).isSome = true := by
  rw [Option.isSome_iff_exists]
  constructor
  · rintro ⟨name, blanks, value, rfl, hne, hname, hblanks⟩
    have hgraphic : ∀ b ∈ name, isGraphic b = true := fun b m =>
      isGraphic_iff.mpr ⟨(hname b m).1, (hname b m).2.1⟩
    have hspaces : ∀ b ∈ blanks, isBlank b = true := fun b m =>
      isBlank_eq_true_iff.mpr (hblanks b m)
    refine ⟨⟨asciiText (name ++ blanks), value⟩, ofLine?_eq_some_iff.mpr ⟨name ++ blanks, ?_, ?_,
      rfl, rfl⟩⟩
    · rw [isFieldName, dropTrailingBlanks_append hgraphic hspaces]
      simpa [hne] using hgraphic
    · intro m
      rcases List.mem_append.mp m with m | m
      · exact (hname colon m).2.2 rfl
      · exact absurd (hspaces colon m) (by decide)
  · rintro ⟨f, hf⟩
    obtain ⟨name, hname, hcolon, -, rfl⟩ := ofLine?_eq_some_iff.mp hf
    obtain ⟨core, blanks, rfl, hne, hcore, hblanks⟩ := exists_core_of_isFieldName hname
    refine ⟨core, blanks, f.raw, rfl, hne, fun b m => ?_, fun b m =>
      isBlank_eq_true_iff.mp (hblanks b m)⟩
    have hrange := isGraphic_iff.mp (hcore b m)
    exact ⟨hrange.1, hrange.2, fun e => hcolon (List.mem_append_left blanks (e ▸ m))⟩

theorem goesOn_nil_iff {text : Bytes} : GoesOn [] text ↔ IsFieldLine text := by
  simp [GoesOn]

/-- The empty line does not go on. -/
theorem not_goesOn_empty (above : List Bytes) : ¬ GoesOn above [] := by
  rintro (⟨name, blanks, value, e, -⟩ | ⟨⟨b, rest, e, -⟩, -⟩) <;> simp at e

/-- Below a field line the reader takes the lines that go on. -/
theorem isHeaderLine_iff {above : List Bytes} {text : Bytes}
    (h : ∃ line ∈ above, IsFieldLine (lineText line)) :
    isHeaderLine text = true ↔ GoesOn above text := by
  rw [isHeaderLine, Bool.or_eq_true, isContinuation_iff, ← isFieldLine_iff, GoesOn, or_comm]
  exact or_congr_right (and_iff_left h).symm

/-! ### Reading a section -/

section Block

variable {lines more : List Bytes}

/-- The reader stops where the lines do not go on. -/
theorem headerBlock_append
    (hlines : ∀ above line below, lines = above ++ line :: below → GoesOn above (lineText line))
    (hmore : ∀ line ∈ more.head?, ¬ GoesOn lines (lineText line)) :
    headerBlock (lines ++ more) = (lines, more) := by
  cases lines with
  | nil =>
      cases more with
      | nil => rfl
      | cons line more =>
          have hno := hmore line rfl
          rw [goesOn_nil_iff, isFieldLine_iff] at hno
          exact if_neg hno
  | cons first lines =>
      have hfirst : IsFieldLine (lineText first) := goesOn_nil_iff.mp (hlines [] first lines rfl)
      have htop : ∀ above, ∃ line ∈ first :: above, IsFieldLine (lineText line) := fun above =>
        ⟨first, List.mem_cons_self, hfirst⟩
      refine headerBlock_cons_append (isFieldLine_iff.mp hfirst) ?_ ?_
      · intro line m
        obtain ⟨above, below, rfl⟩ := List.append_of_mem m
        exact (isHeaderLine_iff (htop above)).mpr (hlines (first :: above) line below rfl)
      · exact fun line m h => hmore line m ((isHeaderLine_iff (htop lines)).mp h)

/-- Of any lines, a first part goes on as far as possible. -/
theorem exists_goesOn (lines : List Bytes) : ∃ block more, lines = block ++ more ∧
    (∀ above line below, block = above ++ line :: below → GoesOn above (lineText line)) ∧
      ∀ line ∈ more.head?, ¬ GoesOn block (lineText line) := by
  cases lines with
  | nil => exact ⟨[], [], rfl, by simp, by simp⟩
  | cons first lines =>
      by_cases hfirst : IsFieldLine (lineText first)
      · have htop : ∀ above : List Bytes, ∃ line ∈ first :: above, IsFieldLine (lineText line) :=
          fun above => ⟨first, List.mem_cons_self, hfirst⟩
        refine ⟨first :: lines.takeWhile (isHeaderLine ∘ lineText),
          lines.dropWhile (isHeaderLine ∘ lineText), by simp, ?_, ?_⟩
        · intro above line below e
          cases above with
          | nil =>
              obtain ⟨rfl, -⟩ := List.cons.inj e
              exact .inl hfirst
          | cons top above =>
              obtain ⟨rfl, htail⟩ := List.cons.inj e
              have m : line ∈ lines.takeWhile (isHeaderLine ∘ lineText) := by
                rw [htail]
                simp
              exact (isHeaderLine_iff (htop above)).mp
                (List.mem_takeWhile_imp (p := isHeaderLine ∘ lineText) m)
        · intro line m h
          have hno := List.head?_dropWhile_not (isHeaderLine ∘ lineText) lines
          rw [Option.mem_def.mp m] at hno
          have hyes := (isHeaderLine_iff (htop _)).mpr h
          exact Bool.false_ne_true (hno.symm.trans hyes)
      · refine ⟨[], first :: lines, rfl, by simp, ?_⟩
        rintro line ⟨⟩ h
        exact hfirst (goesOn_nil_iff.mp h)

end Block

/-- **Reading takes the header section.** -/
theorem HeaderSection.parse_eq {lines : List Bytes} {ending : Option Bytes} {rest : Bytes}
    (h : HeaderSection lines ending rest) :
    Header.parse ((lines ++ ending.toList).flatten ++ rest) = (⟨assembleFields lines⟩, rest) := by
  have hsplit : splitLines ((lines ++ ending.toList).flatten ++ rest) =
      lines ++ (ending.toList ++ splitLines rest) := by
    rw [h.whole.splitLines_eq, List.append_assoc]
  have hbelow : (∀ line ∈ (ending.toList ++ splitLines rest).head?,
        ¬ GoesOn lines (lineText line)) ∧
      dropEmptyLine (ending.toList ++ splitLines rest) = splitLines rest := by
    cases ending with
    | some line =>
        have hempty : lineText line = [] := h.ending_empty line rfl
        constructor
        · rintro line ⟨⟩
          rw [hempty]
          exact not_goesOn_empty lines
        · simp [dropEmptyLine, hempty]
    | none =>
        rcases h.maximal with rfl | hnone | ⟨line, more, rfl, hline, hne, hno⟩
        · exact ⟨by simp [splitLines], rfl⟩
        · exact absurd rfl hnone
        · have e : splitLines (line ++ more) = line :: splitLines more := by
            simpa using hline.splitLines_eq
          rw [e]
          constructor
          · rintro line ⟨⟩
            exact hno
          · simp [dropEmptyLine, hne]
  rw [Header.parse, hsplit, headerBlock_append h.goesOn hbelow.1]
  simp only [hbelow.2, flatten_splitLines]

/-- **Every message has a header section.** -/
theorem exists_headerSection (raw : Bytes) : ∃ lines ending rest,
    raw = (lines ++ ending.toList).flatten ++ rest ∧ HeaderSection lines ending rest := by
  obtain ⟨lines, more, e, hlines, hmore⟩ := exists_goesOn (splitLines raw)
  have hraw : raw = lines.flatten ++ more.flatten := by
    rw [← List.flatten_append, ← e, flatten_splitLines]
  cases more with
  | nil =>
      refine ⟨lines, none, [], by simpa using hraw, ?_, hlines, by simp, .inl rfl⟩
      simpa using WholeLines.of_splitLines e
  | cons line more =>
      have e : splitLines raw = (lines ++ [line]) ++ more := by simp [e]
      have hwhole : WholeLines (lines ++ [line]) more.flatten := .of_splitLines e
      by_cases hempty : lineText line = []
      · refine ⟨lines, some line, more.flatten, by simpa using hraw, hwhole, hlines, ?_,
          .inr (.inl (by simp))⟩
        rintro line ⟨⟩
        exact hempty
      · refine ⟨lines, none, line ++ more.flatten, by simpa using hraw, ?_, hlines, by simp,
          .inr (.inr ⟨line, more.flatten, rfl, hwhole.of_append, hempty, hmore line rfl⟩)⟩
        have e : splitLines raw = lines ++ (line :: more) := by simp [e]
        simpa using WholeLines.of_splitLines e

/-! ### What is kept -/

theorem eq_of_ofLine? {text : Bytes} {f : Field} (h : Field.ofLine? text = some f) :
    text = utf8 f.name ++ colon :: f.raw := by
  obtain ⟨name, hname, -, hf, e⟩ := ofLine?_eq_some_iff.mp h
  rw [e, hf, utf8_asciiText fun b m => lt_of_mem_fieldName hname m]

/-- The fields read so far and what is collected for the field above them hold the texts of all
lines. -/
theorem writeLines_foldr_prependLine (lines : List Bytes) :
    (lines.foldr prependLine ([], [])).2 ++ crlf ++
        (lines.foldr prependLine ([], [])).1.flatMap Field.toBytes =
      crlf ++ writeLines (lines.map lineText) := by
  induction lines with
  | nil => simp [writeLines]
  | cons line lines ih =>
      have hlines : writeLines ((line :: lines).map lineText) =
          lineText line ++ crlf ++ writeLines (lines.map lineText) := by
        simp [writeLines]
      rw [List.foldr_cons, hlines, List.append_assoc (lineText line), ← ih]
      generalize lines.foldr prependLine ([], []) = state
      obtain ⟨below, folded⟩ := state
      cases hf : Field.ofLine? (lineText line) with
      | some f =>
          rw [prependLine_field hf, eq_of_ofLine? hf]
          simp [Field.toBytes]
      | none => simp [prependLine, hf]

/-- **Only the style of the line ends is lost.** -/
theorem toBytes_assembleFields {lines : List Bytes}
    (h : ∀ above line below, lines = above ++ line :: below → GoesOn above (lineText line)) :
    (Header.mk (assembleFields lines)).toBytes = writeLines (lines.map lineText) ++ crlf := by
  have e := writeLines_foldr_prependLine lines
  have hfolded : (lines.foldr prependLine ([], [])).2 = [] := by
    cases lines with
    | nil => rfl
    | cons first lines =>
        have hfirst := isFieldLine_iff.mp (goesOn_nil_iff.mp (h [] first lines rfl))
        obtain ⟨f, hf⟩ := Option.isSome_iff_exists.mp hfirst
        rw [List.foldr_cons]
        generalize lines.foldr prependLine ([], []) = state
        obtain ⟨below, folded⟩ := state
        rw [prependLine_field hf]
  rw [hfolded, List.nil_append] at e
  rw [Header.toBytes, assembleFields, List.append_cancel_left e]

/-- **Reading accepts exactly the grammar.**  Reading gives a header and an offset if and only if
the octets in front of the offset are the lines of the header section, and the header is written as
the texts of these lines, each with CRLF, and the empty line. -/
theorem parse_iff_headerSection (raw : Bytes) (h : Header) (offset : Nat) :
    (Header.parse raw = (h, raw.drop offset) ∧ Header.parseOffset raw = offset) ↔
      offset ≤ raw.length ∧ (∀ f ∈ h.fields, f.WellFormed) ∧
        ∃ lines ending, raw.take offset = (lines ++ ending.toList).flatten ∧
          HeaderSection lines ending (raw.drop offset) ∧
          h.toBytes = writeLines (lines.map lineText) ++ crlf := by
  have hread : ∀ f ∈ (Header.parse raw).1.fields, f.WellFormed := fun f m =>
    Field.writable_iff.mp (writable_of_mem_parse m)
  constructor
  · rintro ⟨hparse, hoffset⟩
    rw [hparse] at hread
    obtain ⟨lines, ending, rest, hraw, hsection⟩ := exists_headerSection raw
    have e := hsection.parse_eq
    rw [← hraw, hparse] at e
    obtain ⟨rfl, hrest⟩ := Prod.mk.inj e
    have hle : offset ≤ raw.length := by
      rw [← hoffset, Header.parseOffset]
      exact Nat.sub_le _ _
    have htake : raw.take offset = (lines ++ ending.toList).flatten := by
      have e := (List.take_append_drop offset raw).trans hraw
      rw [hrest] at e
      exact List.append_cancel_right e
    exact ⟨hle, hread, lines, ending, htake, hrest ▸ hsection,
      toBytes_assembleFields hsection.goesOn⟩
  · rintro ⟨hle, hwell, lines, ending, htake, hsection, hbytes⟩
    have e := hsection.parse_eq
    rw [← htake, List.take_append_drop] at e
    rw [e] at hread
    have hheader : h = ⟨assembleFields lines⟩ :=
      Header.eq_of_toBytes (fun f m => Field.writable_iff.mpr (hwell f m))
        (fun f m => Field.writable_iff.mpr (hread f m))
        (hbytes.trans (toBytes_assembleFields hsection.goesOn).symm)
    refine ⟨hheader ▸ e, ?_⟩
    rw [Header.parseOffset, e, List.length_drop]
    omega

-- a bare LF, a folded field and a blank continuation are taken; a line without a colon is not
example :
    (Header.parse (utf8 "A: b\n c\r\r\n \t\nno field\n")).1.toBytes =
        utf8 "A: b\r\n c\r\r\n \t\r\n\r\n" ∧
      Header.parseOffset (utf8 "A: b\n c\r\r\n \t\nno field\n") = 13 := by
  decide

end Mailroom
