import Mailroom.Message
import Mailroom.Proofs.Header.RoundTrip

/-! # Which headers survive the wire

`Field.WellFormed` says of the characters of a name and of the octets of a value what
`Field.Writable` says of lines; the two are the same (`Field.writable_iff`).  A header is read
back as it was written if and only if all of its fields are well-formed, and the body starts
behind it (`parse_toBytes_iff`).  What is read is well-formed, so a message that was read once is
read alike ever after. -/

namespace Mailroom

/-! ### Names -/

/-- A name on the wire: printable ASCII characters other than space and colon, at least one of
them, and spaces or tabs behind. -/
def IsWireName (name : String) : Prop :=
  ∃ core blanks : List Char, name.toList = core ++ blanks ∧ core ≠ [] ∧
    (∀ c ∈ core, 0x21 ≤ c.toNat ∧ c.toNat ≤ 0x7E ∧ c ≠ ':') ∧ ∀ c ∈ blanks, c = ' ' ∨ c = '\t'

/-- ASCII characters are written as one octet each. -/
theorem utf8Chars_ascii : ∀ {chars : List Char}, (∀ c ∈ chars, c.toNat < 128) →
    utf8Chars chars = chars.map fun c => UInt8.ofNat c.toNat
  | [], _ => rfl
  | c :: chars, h => by
      have ih := utf8Chars_ascii fun d m => h d (List.mem_cons_of_mem c m)
      have hc := utf8EncodeChar_ofNat c.toNat (h c List.mem_cons_self)
      rw [Char.ofNat_toNat] at hc
      rw [List.map_cons, ← ih, utf8Chars, List.flatMap_cons, hc]
      rfl

theorem dropTrailingBlanks_append {core blanks : Bytes}
    (hcore : ∀ b ∈ core, Octet.isGraphic b = true)
    (hblanks : ∀ b ∈ blanks, Octet.isBlank b = true) :
    dropTrailingBlanks (core ++ blanks) = core := by
  have hkept : core.reverse.dropWhile Octet.isBlank = core.reverse := by
    cases hr : core.reverse with
    | nil => rfl
    | cons b rest =>
        have hb := isGraphic_iff.mp (hcore b (List.mem_reverse.mp (hr ▸ List.mem_cons_self)))
        refine List.dropWhile_cons_of_neg fun hblank => ?_
        have := isBlank_iff.mp hblank
        omega
  rw [dropTrailingBlanks, List.reverse_append,
    List.dropWhile_append_of_pos fun b m => hblanks b (List.mem_reverse.mp m), hkept,
    List.reverse_reverse]

/-- The octets of a field name are graphic octets with blanks behind. -/
theorem exists_core_of_isFieldName {name : Bytes} (h : isFieldName name = true) :
    ∃ core blanks, name = core ++ blanks ∧ core ≠ [] ∧ (∀ b ∈ core, Octet.isGraphic b = true) ∧
      ∀ b ∈ blanks, Octet.isBlank b = true := by
  have hsplit := List.takeWhile_append_dropWhile (p := Octet.isBlank) (l := name.reverse)
  simp only [isFieldName, Bool.and_eq_true, Bool.not_eq_true', List.isEmpty_eq_false_iff,
    List.all_eq_true] at h
  refine ⟨dropTrailingBlanks name, (name.reverse.takeWhile Octet.isBlank).reverse, ?_, h.1, h.2,
    fun b m => List.mem_takeWhile_imp (List.mem_reverse.mp m)⟩
  rw [dropTrailingBlanks, ← List.reverse_append, hsplit, List.reverse_reverse]

theorem toNat_ofNat_of_lt {n : Nat} (h : n < 128) : (Char.ofNat n).toNat = n := by
  have hvalid : n.isValidChar := .inl (by omega)
  rw [Char.ofNat, dif_pos hvalid]
  rfl

/-- What can be read as a field name is a name on the wire. -/
theorem isWireName_of_isFieldName {name : String} (hname : isFieldName (utf8 name) = true)
    (hcolon : Octet.colon ∉ utf8 name) : IsWireName name := by
  have hchars : name = asciiText (utf8 name) :=
    utf8_inj (utf8_asciiText fun b hb => lt_of_mem_fieldName hname hb).symm
  obtain ⟨core, blanks, e, hne, hcore, hblanks⟩ := exists_core_of_isFieldName hname
  rw [e] at hcolon hchars
  refine ⟨core.map fun b => Char.ofNat b.toNat, blanks.map fun b => Char.ofNat b.toNat, ?_,
    by simpa using hne, ?_, ?_⟩
  · rw [hchars, asciiText, String.toList_ofList, List.map_append]
  · intro c m
    obtain ⟨b, mb, rfl⟩ := List.mem_map.mp m
    have hrange := isGraphic_iff.mp (hcore b mb)
    have hnat : (Char.ofNat b.toNat).toNat = b.toNat := toNat_ofNat_of_lt (by omega)
    rw [hnat]
    refine ⟨hrange.1, hrange.2, fun hc => hcolon (List.mem_append_left _ ?_)⟩
    have hb : b = Octet.colon := UInt8.toNat_inj.mp (hnat.symm.trans (congrArg Char.toNat hc))
    exact hb ▸ mb
  · intro c m
    obtain ⟨b, mb, rfl⟩ := List.mem_map.mp m
    rcases isBlank_iff.mp (hblanks b mb) with hb | hb
    · left
      rw [hb]
    · right
      rw [hb]

/-- The octets of an ASCII text, one for each character. -/
theorem mem_map_ofNat {chars : List Char} (h : ∀ c ∈ chars, c.toNat < 128) {b : UInt8}
    (hb : b ∈ chars.map fun c => UInt8.ofNat c.toNat) : ∃ c ∈ chars, b.toNat = c.toNat := by
  obtain ⟨c, mc, rfl⟩ := List.mem_map.mp hb
  exact ⟨c, mc, UInt8.toNat_ofNat_of_lt' (Nat.lt_trans (h c mc) (by decide))⟩

/-- A name on the wire is read as a field name. -/
theorem IsWireName.isFieldName {name : String} (h : IsWireName name) :
    isFieldName (utf8 name) = true ∧ Octet.colon ∉ utf8 name := by
  obtain ⟨core, blanks, e, hne, hcore, hblanks⟩ := h
  have hlow : ∀ c ∈ core, c.toNat < 128 := by
    intro c m
    have := (hcore c m).2.1
    omega
  have hblank : ∀ c ∈ blanks, c.toNat = 32 ∨ c.toNat = 9 := fun c m =>
    (hblanks c m).imp (congrArg Char.toNat) (congrArg Char.toNat)
  have hlow' : ∀ c ∈ blanks, c.toNat < 128 := by
    intro c m
    have := hblank c m
    omega
  have hoctets : utf8 name = core.map (fun c => UInt8.ofNat c.toNat) ++
      blanks.map fun c => UInt8.ofNat c.toNat := by
    rw [utf8, e, utf8Chars_append, utf8Chars_ascii hlow, utf8Chars_ascii hlow']
  have hgraphic : ∀ b ∈ core.map fun c => UInt8.ofNat c.toNat, Octet.isGraphic b = true := by
    intro b m
    obtain ⟨c, mc, hc⟩ := mem_map_ofNat hlow m
    rw [isGraphic_iff, hc]
    exact ⟨(hcore c mc).1, (hcore c mc).2.1⟩
  have hspaces : ∀ b ∈ blanks.map fun c => UInt8.ofNat c.toNat, Octet.isBlank b = true := by
    intro b m
    obtain ⟨c, mc, hc⟩ := mem_map_ofNat hlow' m
    rw [isBlank_iff, hc]
    exact hblank c mc
  constructor
  · rw [hoctets, Mailroom.isFieldName, dropTrailingBlanks_append hgraphic hspaces]
    simpa [hne] using hgraphic
  · intro m
    rw [hoctets, List.mem_append] at m
    rcases m with m | m
    · obtain ⟨c, mc, hc⟩ := mem_map_ofNat hlow m
      exact (hcore c mc).2.2 (Char.toNat_inj.mp hc.symm)
    · have := hspaces _ m
      revert this
      decide

/-! ### Values -/

/-- A value on the wire: every line feed ends a CRLF and has a space or a tab behind it. -/
def IsWireValue (raw : Bytes) : Prop :=
  ∀ before after, raw = before ++ Octet.lf :: after →
    before.getLast? = some Octet.cr ∧
      ∃ b rest, after = b :: rest ∧ (b = Octet.space ∨ b = Octet.tab)

theorem isContinuation_iff {text : Bytes} :
    isContinuation text = true ↔
      ∃ b rest, text = b :: rest ∧ (b = Octet.space ∨ b = Octet.tab) := by
  cases text with
  | nil => simp [isContinuation]
  | cons b text => simp [isContinuation, Octet.isBlank]

/-- A text with a line feed has a last one. -/
theorem exists_last_lf {raw : Bytes} (h : Octet.lf ∈ raw) :
    ∃ before after, raw = before ++ Octet.lf :: after ∧ Octet.lf ∉ after := by
  obtain ⟨above, below, e, hnone⟩ := List.eq_append_cons_of_mem (List.mem_reverse.mpr h)
  refine ⟨below.reverse, above.reverse, ?_, fun m => hnone (List.mem_reverse.mp m)⟩
  rw [← List.reverse_reverse raw, e, List.reverse_append, List.reverse_cons, List.append_assoc]
  rfl

/-- A line feed of a text is the last one, or it stands in front of the last one. -/
theorem last_lf_or {above text before after : Bytes} (hlf : Octet.lf ∉ text)
    (e : above ++ Octet.lf :: text = before ++ Octet.lf :: after) :
    (before = above ∧ after = text) ∨
      ∃ inside, above = before ++ Octet.lf :: inside ∧ after = inside ++ Octet.lf :: text := by
  rcases List.append_eq_append_iff.mp e with ⟨more, hbefore, htext⟩ | ⟨more, habove, hafter⟩
  · cases more with
    | nil => exact .inl ⟨by rw [hbefore, List.append_nil], (List.cons.inj htext).2.symm⟩
    | cons b more =>
        obtain ⟨-, rfl⟩ := List.cons.inj htext
        exact absurd (List.mem_append_right more List.mem_cons_self) hlf
  · cases more with
    | nil => exact .inl ⟨by rw [habove, List.append_nil], (List.cons.inj hafter).2⟩
    | cons b more =>
        obtain ⟨rfl, rfl⟩ := List.cons.inj hafter
        exact .inr ⟨more, habove, rfl⟩

theorem IsWireValue.of_folded {raw : Bytes} (h : FoldedValue raw) : IsWireValue raw := by
  induction h with
  | @line text hlf =>
      rintro before after rfl
      exact absurd (List.mem_append_right before List.mem_cons_self) hlf
  | @fold value text _ hc hlf ih =>
      intro before after e
      have e : (value ++ [Octet.cr]) ++ Octet.lf :: text = before ++ Octet.lf :: after := by
        rw [← e]
        simp [crlf]
      rcases last_lf_or hlf e with ⟨rfl, rfl⟩ | ⟨inside, hvalue, rfl⟩
      · exact ⟨by simp, isContinuation_iff.mp hc⟩
      · -- the carriage return belongs to the fold, so the line feed stands in the value
        rcases List.eq_nil_or_concat inside with rfl | ⟨inside, b, rfl⟩
        · exact absurd (List.append_inj' hvalue rfl).2 (by decide)
        · have hvalue : value ++ [Octet.cr] = (before ++ Octet.lf :: inside) ++ [b] := by
            rw [hvalue]
            simp
          obtain ⟨hlast, first, rest, rfl, hfirst⟩ :=
            ih before inside (List.append_inj' hvalue rfl).1
          exact ⟨hlast, first, _, rfl, hfirst⟩

theorem IsWireValue.folded {raw : Bytes} (h : IsWireValue raw) : FoldedValue raw := by
  by_cases hlf : Octet.lf ∈ raw
  · obtain ⟨before, after, rfl, hnone⟩ := exists_last_lf hlf
    obtain ⟨hlast, hafter⟩ := h before after rfl
    obtain ⟨value, rfl⟩ := List.getLast?_eq_some_iff.mp hlast
    have hvalue : IsWireValue value := by
      rintro above below rfl
      obtain ⟨hcr, b, rest, e, hb⟩ := h above (below ++ [Octet.cr] ++ Octet.lf :: after) (by simp)
      cases below with
      | nil =>
          obtain ⟨rfl, -⟩ := List.cons.inj e
          have hreturn : ¬ (Octet.cr = Octet.space ∨ Octet.cr = Octet.tab) := by decide
          exact absurd hb hreturn
      | cons first below =>
          obtain ⟨rfl, -⟩ := List.cons.inj e
          exact ⟨hcr, first, below, rfl, hb⟩
    have e : value ++ [Octet.cr] ++ Octet.lf :: after = value ++ crlf ++ after := by simp [crlf]
    exact e ▸ .fold hvalue.folded (isContinuation_iff.mpr hafter) hnone
  · exact .line hlf
termination_by raw.length
decreasing_by
  subst_vars
  simp only [List.length_append, List.length_cons]
  omega

/-! ### Fields and headers -/

/-- A field that is written as it will be read. -/
structure Field.WellFormed (f : Field) : Prop where
  name : IsWireName f.name
  value : IsWireValue f.raw

/-- **Writable fields** are the well-formed ones. -/
theorem Field.writable_iff {f : Field} : f.Writable ↔ f.WellFormed := by
  constructor
  · intro h
    exact ⟨isWireName_of_isFieldName h.name h.colon, .of_folded h.value⟩
  · intro h
    obtain ⟨hname, hcolon⟩ := h.name.isFieldName
    exact ⟨hname, hcolon, h.value.folded⟩

namespace Header

/-- Reading takes whole lines from the front of the message. -/
theorem parse_suffix (raw : Bytes) : (Header.parse raw).2 <:+ raw := by
  have hblock : ∀ lines, (headerBlock lines).2 <:+ lines := by
    intro lines
    cases lines with
    | nil => exact List.suffix_refl _
    | cons first lines =>
        rw [headerBlock]
        split
        · exact (List.dropWhile_suffix _).trans (List.suffix_cons first lines)
        · exact List.suffix_refl _
  have hempty : ∀ lines, dropEmptyLine lines <:+ lines := by
    intro lines
    cases lines with
    | nil => exact List.suffix_refl _
    | cons line lines =>
        rw [dropEmptyLine]
        split
        · exact List.suffix_cons line lines
        · exact List.suffix_refl _
  obtain ⟨above, e⟩ := (hempty _).trans (hblock (splitLines raw))
  refine ⟨above.flatten, ?_⟩
  rw [Header.parse, ← List.flatten_append, e, flatten_splitLines]

/-- The body starts at the offset. -/
theorem drop_parseOffset (raw : Bytes) : raw.drop (parseOffset raw) = (Header.parse raw).2 :=
  (List.suffix_iff_eq_drop.mp (parse_suffix raw)).symm

theorem parseOffset_of_parse {h : Header} {above body : Bytes}
    (e : Header.parse (above ++ body) = (h, body)) :
    parseOffset (above ++ body) = above.length := by
  rw [parseOffset, e, List.length_append, Nat.add_sub_cancel]

end Header

/-- **Well-formed headers, and no others, survive the wire.**  Whatever body follows, the header is
read back and the body starts behind it if and only if every field is well-formed.  All that is
read is well-formed, and so a message that was read is read alike once it was written. -/
theorem parse_toBytes_iff :
    (∀ (h : Header) (body : Bytes),
      ((Header.parse (h.toBytes ++ body)).1 = h ∧
        Header.parseOffset (h.toBytes ++ body) = h.toBytes.length) ↔
          ∀ f ∈ h.fields, f.WellFormed) ∧
    (∀ raw : Bytes, ∀ f ∈ (Header.parse raw).1.fields, f.WellFormed) ∧
    ∀ (entropy later : Nat) (sender other : String) (raw : Bytes),
      let m := Message.ofRaw entropy sender raw
      let again := Message.ofRaw later other m.toBytes
      again.header = m.header ∧ again.body = m.body := by
  have hread : ∀ raw : Bytes, ∀ f ∈ (Header.parse raw).1.fields, f.WellFormed := fun raw f m =>
    Field.writable_iff.mp (writable_of_mem_parse m)
  refine ⟨fun h body => ⟨?_, fun hwell => ?_⟩, hread, ?_⟩
  · rintro ⟨hheader, -⟩
    exact hheader ▸ hread (h.toBytes ++ body)
  · have e := parse_toBytes (fun f m => Field.writable_iff.mpr (hwell f m)) body
    exact ⟨congrArg Prod.fst e, Header.parseOffset_of_parse e⟩
  · intro entropy later sender other raw m again
    have e : Header.parse m.toBytes = (m.header, m.body) :=
      parse_toBytes (fun f hf => writable_of_mem_parse hf) m.body
    exact ⟨congrArg Prod.fst e, congrArg Prod.snd e⟩

-- a bare CR stays in a value, a blank may stand in front of the colon; a lone LF does not survive
example :
    let well : Field := ⟨"Subject 	", [13, 65, 13, 13, 10, 32, 9, 13]⟩
    let folded : Field := ⟨"Subject", [65, 10, 32, 66]⟩
    (Header.parse ((Header.mk [well]).toBytes ++ [10])).1.fields = [well] ∧
      (Header.parse ((Header.mk [folded]).toBytes ++ [10])).1.fields ≠ [folded] := by
  decide

end Mailroom
