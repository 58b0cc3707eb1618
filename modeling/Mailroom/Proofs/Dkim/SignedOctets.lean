import Mailroom.Proofs.Dkim.BodyForm
import Mailroom.Proofs.Dkim.FinishedSignature
import Mailroom.Proofs.Dkim.RelaxedForm
import Mathlib.Data.List.Chain

/-! # The signed octets are unambiguous

What is signed is a plain concatenation of canonical forms, without lengths.  Still no boundary
between two fields can be shifted: the canonical form of a field is again a field on the wire
(`toBytes_form`), and fields on the wire are read back one by one.  So the octets determine the
canonical forms (`fields_eq_iff`).

The signature field at the end is one more such field in relaxed form.  In simple form it need not
be one, for a name in its list of fields may hold a line feed; there it is found because no colon
inside its value has a space behind it (`isChain_signatureText`). -/

namespace Mailroom

/-- **Written fields are told apart.** -/
theorem eq_of_flatMap_toBytes {fs gs : List Field} (hf : ∀ f ∈ fs, f.Writable)
    (hg : ∀ g ∈ gs, g.Writable) (e : fs.flatMap Field.toBytes = gs.flatMap Field.toBytes) :
    fs = gs := by
  have hbytes : (Header.mk fs).toBytes = (Header.mk gs).toBytes := congrArg (· ++ crlf) e
  exact congrArg Header.fields (Header.eq_of_toBytes hf hg hbytes)

/-! ### Relaxed values and names -/

/-- A relaxed value stands on one line. -/
theorem lf_notMem_relaxedValue (raw : Bytes) : Octet.lf ∉ relaxedValue raw := by
  intro h
  rcases mem_collapseBlanks h with h | h
  · exact absurd h (by decide)
  · have hunfold := (List.dropWhile_suffix _).subset h
    simp [unfold] at hunfold

theorem isGraphic_toLower {b : UInt8} (h : Octet.isGraphic b = true) :
    Octet.isGraphic (Octet.toLower b) = true := by
  have hall : ∀ n < 256, Octet.isGraphic (UInt8.ofNat n) = true →
      Octet.isGraphic (Octet.toLower (UInt8.ofNat n)) = true := by
    decide +kernel
  have hb := hall b.toNat b.toNat_lt
  rw [UInt8.ofNat_toNat] at hb
  exact hb h

/-- A name that can stand in front of a colon. -/
structure Field.Named (f : Field) : Prop where
  name : isFieldName (utf8 f.name) = true
  colon : Octet.colon ∉ utf8 f.name

namespace Field.Named

variable {f : Field} (h : f.Named)

include h

theorem isGraphic_of_mem_lowName {b : UInt8} (m : b ∈ f.lowName) : Octet.isGraphic b = true := by
  obtain ⟨c, mc, rfl⟩ := List.mem_map.mp m
  have hname := h.name
  simp only [isFieldName, Bool.and_eq_true, List.all_eq_true] at hname
  exact isGraphic_toLower (hname.2 c mc)

theorem isFieldName_lowName : isFieldName f.lowName = true := by
  have hkept : dropTrailingBlanks f.lowName = f.lowName := by
    have e : dropTrailingBlanks (f.lowName ++ []) = f.lowName :=
      dropTrailingBlanks_append (fun b m => h.isGraphic_of_mem_lowName m) fun b m => nomatch m
    rwa [List.append_nil] at e
  have hname := h.name
  simp only [isFieldName, Bool.and_eq_true, Bool.not_eq_true', List.isEmpty_eq_false_iff] at hname
  rw [isFieldName, hkept]
  simp only [Bool.and_eq_true, Bool.not_eq_true', List.isEmpty_eq_false_iff, List.all_eq_true]
  exact ⟨by simpa [lowName] using hname.1, fun b m => h.isGraphic_of_mem_lowName m⟩

theorem utf8_asciiText_lowName : utf8 (asciiText f.lowName) = f.lowName :=
  utf8_asciiText fun _ m => lt_of_mem_fieldName h.isFieldName_lowName m

end Field.Named

theorem Field.Writable.named {f : Field} (h : f.Writable) : f.Named := ⟨h.name, h.colon⟩

namespace Dkim

namespace Canonicalization

/-! ### Canonical forms as fields -/

/-- The canonical form of a field, as a field. -/
def form : Canonicalization → Field → Field
  | simple, f => f
  | relaxed, f => ⟨asciiText f.lowName, relaxedValue f.raw⟩

/-- Two fields agree in canonical form: in simple form they have the same name and the same raw
value, in relaxed form the same lowered name without blanks and the same value unfolded, with its
blanks collapsed. -/
def SameForm : Canonicalization → Field → Field → Prop
  | simple, f, g => f.name = g.name ∧ f.raw = g.raw
  | relaxed, f, g => f.lowName = g.lowName ∧ relaxedValue f.raw = relaxedValue g.raw

/-- The octets of a canonical form are those of a field on the wire. -/
theorem toBytes_form (mode : Canonicalization) {f : Field} (h : f.Named) :
    (mode.form f).toBytes = mode.field f := by
  cases mode with
  | simple => rfl
  | relaxed =>
      rw [Field.toBytes, form, h.utf8_asciiText_lowName]
      rfl

/-- A relaxed form can be read back, whatever the value is. -/
theorem writable_relaxed {f : Field} (h : f.Named) : (relaxed.form f).Writable := by
  have e := h.utf8_asciiText_lowName
  exact ⟨e.symm ▸ h.isFieldName_lowName, e.symm ▸ Field.colon_notMem_lowName h.colon,
    .line (lf_notMem_relaxedValue f.raw)⟩

theorem writable_form (mode : Canonicalization) {f : Field} (h : f.Writable) :
    (mode.form f).Writable := by
  cases mode with
  | simple => exact h
  | relaxed => exact writable_relaxed h.named

theorem form_eq_iff (mode : Canonicalization) {f g : Field} (hf : f.Named) (hg : g.Named) :
    mode.form f = mode.form g ↔ mode.SameForm f g := by
  cases mode with
  | simple => exact Iff.of_eq (Field.mk.injEq f.name f.raw g.name g.raw)
  | relaxed =>
      have hname : asciiText f.lowName = asciiText g.lowName ↔ f.lowName = g.lowName := by
        refine ⟨fun e => ?_, congrArg asciiText⟩
        rw [← hf.utf8_asciiText_lowName, e, hg.utf8_asciiText_lowName]
      rw [form, form, Field.mk.injEq, hname, SameForm]

theorem forall₂_sameForm_iff (mode : Canonicalization) : ∀ {fs gs : List Field},
    (∀ f ∈ fs, f.Named) → (∀ g ∈ gs, g.Named) →
      (List.Forall₂ mode.SameForm fs gs ↔ fs.map mode.form = gs.map mode.form)
  | [], [], _, _ => by simp
  | [], g :: gs, _, _ => by simp
  | f :: fs, [], _, _ => by simp
  | f :: fs, g :: gs, hf, hg => by
      have ih := forall₂_sameForm_iff mode (fun k m => hf k (List.mem_cons_of_mem f m))
        (fun k m => hg k (List.mem_cons_of_mem g m))
      rw [List.forall₂_cons, List.map_cons, List.map_cons, List.cons.injEq, ih,
        form_eq_iff mode (hf f List.mem_cons_self) (hg g List.mem_cons_self)]

theorem fields_eq_flatMap (mode : Canonicalization) {fs : List Field} (h : ∀ f ∈ fs, f.Named) :
    mode.fields fs = (fs.map mode.form).flatMap Field.toBytes := by
  rw [fields, List.flatMap_map]
  exact List.flatMap_congr fun f m => (toBytes_form mode (h f m)).symm

/-- **Octets determine the forms** of fields that can be read back in canonical form. -/
theorem map_form_eq_of_fields_eq (mode : Canonicalization) {fs gs : List Field}
    (hf : ∀ f ∈ fs, f.Named ∧ (mode.form f).Writable)
    (hg : ∀ g ∈ gs, g.Named ∧ (mode.form g).Writable) (e : mode.fields fs = mode.fields gs) :
    fs.map mode.form = gs.map mode.form := by
  rw [fields_eq_flatMap mode fun f m => (hf f m).1, fields_eq_flatMap mode fun g m => (hg g m).1]
    at e
  refine eq_of_flatMap_toBytes ?_ ?_ e
  · exact List.forall_mem_map.mpr fun f m => (hf f m).2
  · exact List.forall_mem_map.mpr fun g m => (hg g m).2

/-- Writable fields have the same octets if and only if they have the same forms, one by one. -/
theorem fields_eq_iff (mode : Canonicalization) {fs gs : List Field}
    (hf : ∀ f ∈ fs, f.Writable) (hg : ∀ g ∈ gs, g.Writable) :
    mode.fields fs = mode.fields gs ↔ List.Forall₂ mode.SameForm fs gs := by
  have hfn : ∀ f ∈ fs, f.Named := fun f m => (hf f m).named
  have hgn : ∀ g ∈ gs, g.Named := fun g m => (hg g m).named
  rw [forall₂_sameForm_iff mode hfn hgn]
  constructor
  · exact map_form_eq_of_fields_eq mode (fun f m => ⟨hfn f m, writable_form mode (hf f m)⟩)
      (fun g m => ⟨hgn g m, writable_form mode (hg g m)⟩)
  · intro e
    rw [fields_eq_flatMap mode hfn, fields_eq_flatMap mode hgn, e]

end Canonicalization

/-! ### Pairs that a text does not hold -/

/-- One item does not come right behind another. -/
def NotPair {α : Type} (x y a b : α) : Prop := ¬ (a = x ∧ b = y)

section NotPair

variable {α : Type} {x y : α}

theorem isChain_notPair_of_notMem : ∀ {text : List α}, y ∉ text → text.IsChain (NotPair x y)
  | [], _ => .nil
  | [c], _ => .singleton c
  | c :: d :: text, h => by
      rw [List.mem_cons, not_or] at h
      refine List.isChain_cons_cons.mpr ⟨fun e => h.2 (e.2 ▸ List.mem_cons_self), ?_⟩
      exact isChain_notPair_of_notMem h.2

/-- Two texts are joined if the first does not end in `x`, or the second does not start with
`y`. -/
theorem isChain_notPair_append {text more : List α} (h : text.IsChain (NotPair x y))
    (hm : more.IsChain (NotPair x y)) (hne : text.getLast? ≠ some x ∨ more.head? ≠ some y) :
    (text ++ more).IsChain (NotPair x y) := by
  refine List.isChain_append.mpr ⟨h, hm, fun a ha b hb e => ?_⟩
  obtain ⟨rfl, rfl⟩ := e
  exact hne.elim (fun hn => hn ha) (fun hn => hn hb)

theorem not_isChain_notPair (above below : List α) :
    ¬ (above ++ x :: y :: below).IsChain (NotPair x y) := fun h =>
  (List.isChain_cons_cons.mp (List.isChain_append.mp h).2.1).1 ⟨rfl, rfl⟩

/-- Behind the last pair there is no further one. -/
theorem eq_nil_of_last_pair {gap below below' : List α} (h : (y :: below).IsChain (NotPair x y))
    (e : x :: y :: below = gap ++ x :: y :: below') : gap = [] := by
  cases gap with
  | nil => rfl
  | cons a gap =>
      rw [(List.cons.inj e).2] at h
      exact absurd h (not_isChain_notPair gap below')

/-- **The last pair is found:** what stands in front of it is determined by the whole text. -/
theorem eq_of_last_pair {above above' below below' : List α}
    (h : (y :: below).IsChain (NotPair x y)) (h' : (y :: below').IsChain (NotPair x y))
    (e : above ++ x :: y :: below = above' ++ x :: y :: below') : above = above' := by
  rcases List.append_eq_append_iff.mp e with ⟨gap, habove, hbelow⟩ | ⟨gap, habove, hbelow⟩
  · rw [habove, eq_nil_of_last_pair h hbelow, List.append_nil]
  · rw [habove, eq_nil_of_last_pair h' hbelow, List.append_nil]

end NotPair

/-- The octets of a text without a space behind a colon are such a text as well. -/
theorem isChain_notPair_utf8Chars {text : List Char} (h : text.IsChain (NotPair ':' ' ')) :
    (utf8Chars text).IsChain (NotPair Octet.colon Octet.space) := by
  induction text with
  | nil => exact .nil
  | cons c text ih =>
      have hfirst : (String.utf8EncodeChar c).IsChain (NotPair Octet.colon Octet.space) := by
        by_cases hc : Octet.space ∈ String.utf8EncodeChar c
        · obtain rfl := eq_of_mem_utf8EncodeChar (n := 32) (by decide) hc
          exact .singleton _
        · exact isChain_notPair_of_notMem hc
      refine List.isChain_append.mpr ⟨hfirst, ih h.tail, fun a ha b hb e => ?_⟩
      obtain ⟨rfl, rfl⟩ := e
      obtain ⟨d, hd, hb⟩ := exists_of_head?_utf8Chars hb
      have hcolon := eq_of_mem_utf8EncodeChar (n := 58) (by decide) (List.mem_of_mem_getLast? ha)
      have hspace := eq_of_mem_utf8EncodeChar (n := 32) (by decide) hb
      exact List.isChain_cons.mp h |>.1 d hd ⟨hcolon, hspace⟩

/-! ### Spaces in a signature field -/

namespace FoldedText

theorem isChain_breakLine {f : FoldedText} (h : f.text.IsChain (NotPair ':' ' ')) :
    f.breakLine.text.IsChain (NotPair ':' ' ') :=
  isChain_notPair_append h (by simp [NotPair]) (.inr (by simp))

theorem isChain_write {f : FoldedText} (h : f.text.IsChain (NotPair ':' ' ')) {text : List Char}
    (hspace : ' ' ∉ text) : (f.write text).text.IsChain (NotPair ':' ' ') :=
  isChain_notPair_append h (isChain_notPair_of_notMem hspace)
    (.inr fun e => hspace (List.mem_of_mem_head? e))

theorem isChain_addPiece {f : FoldedText} (h : f.text.IsChain (NotPair ':' ' '))
    {piece : List Char} (hspace : ' ' ∉ piece) :
    (f.addPiece piece).text.IsChain (NotPair ':' ' ') := by
  unfold addPiece
  split
  · exact isChain_write (isChain_breakLine h) hspace
  · exact isChain_write h hspace

theorem isChain_foldl_addPiece : ∀ {pieces : List (List Char)} {f : FoldedText},
    f.text.IsChain (NotPair ':' ' ') → ' ' ∉ pieces.flatten →
      (pieces.foldl addPiece f).text.IsChain (NotPair ':' ' ')
  | [], _, h, _ => h
  | piece :: pieces, f, h, hspace => by
      rw [List.flatten_cons, List.mem_append, not_or] at hspace
      rw [List.foldl_cons]
      exact isChain_foldl_addPiece (isChain_addPiece h hspace.1) hspace.2

/-- A tag is written behind a space only where the text does not end in a colon. -/
theorem isChain_addTag {f : FoldedText} (h : f.text.IsChain (NotPair ':' ' '))
    (hlast : f.text.getLast? ≠ some ':') {tag : List Char} (hspace : ' ' ∉ tag) :
    (f.addTag tag).text.IsChain (NotPair ':' ' ') := by
  unfold addTag
  split
  · exact isChain_write h hspace
  · split
    · exact isChain_write (isChain_breakLine h) hspace
    · exact isChain_write (isChain_notPair_append h (.singleton ' ') (.inl hlast)) hspace

theorem isChain_addList {f : FoldedText} (h : f.text.IsChain (NotPair ':' ' '))
    (hlast : f.text.getLast? ≠ some ':') {tag : List Char} (hspace : ' ' ∉ tag) :
    (f.addList tag).text.IsChain (NotPair ':' ' ') := by
  rw [← flatten_splitAfter ':' tag] at hspace
  unfold addList
  split
  · exact h
  · next first pieces e =>
    rw [e, List.flatten_cons, List.mem_append, not_or] at hspace
    exact isChain_foldl_addPiece (isChain_addTag h hlast hspace.1) hspace.2

/-- A list of tags leaves the text with a semicolon at its end. -/
theorem isChain_foldl_addTag : ∀ {tags : List String} {f : FoldedText},
    f.text.IsChain (NotPair ':' ' ') → f.text.getLast? ≠ some ':' →
      (' ' ∉ tags.flatMap fun tag => tag.toList ++ [';']) →
      let folded := tags.foldl (fun f tag => f.addTag (tag.toList ++ [';'])) f
      folded.text.IsChain (NotPair ':' ' ') ∧ folded.text.getLast? ≠ some ':'
  | [], _, h, hlast, _ => ⟨h, hlast⟩
  | tag :: tags, f, h, hlast, hspace => by
      rw [List.flatMap_cons, List.mem_append, not_or] at hspace
      have hclosed : (f.addTag (tag.toList ++ [';'])).text.getLast? ≠ some ':' := by
        obtain ⟨gap, e⟩ := f.exists_addTag (tag.toList ++ [';'])
        rw [e, ← List.append_assoc, List.getLast?_concat]
        decide
      rw [List.foldl_cons]
      exact isChain_foldl_addTag (isChain_addTag h hlast hspace.1) hclosed hspace.2

/-- Folding leaves the end of a text alone, up to white space. -/
theorem Holds.getLast?_ne_colon {f : FoldedText} {text : List Char}
    (h : f.Holds (text ++ [';'])) : f.text.getLast? ≠ some ':' := by
  intro hlast
  obtain ⟨above, e⟩ := List.getLast?_eq_some_iff.mp hlast
  have hkept := h.withoutWhiteSpace_eq
  rw [e, withoutWhiteSpace_append, withoutWhiteSpace_append] at hkept
  have hlast := (List.append_inj' hkept rfl).2
  cases hlast

end FoldedText

/-- **No colon in a signature field has a space behind it,** apart from the one behind the name. -/
theorem isChain_signatureText {parameters : Parameters} (hp : parameters.WellFormed)
    {keyType bodyHash : String} (hkey : ' ' ∉ keyType.toList) (hbody : ' ' ∉ bodyHash.toList) :
    (signatureText parameters keyType bodyHash).toList.IsChain (NotPair ':' ' ') := by
  have hgiven : ∀ {value : String}, breaksTag value = false → ' ' ∉ value.toList := fun h m =>
    List.any_eq_false.mp h ' ' m (by decide)
  have hspace := notMem_flatMap_statedTags (c := ' ') (by decide) (by decide) (hgiven hp.domain)
    (hgiven hp.selector) (fun name m mc => (ne_of_isInvalidKey (hp.keys name m) mc).2.2.1 rfl)
    hkey hbody
  rw [flatMap_statedTags, List.mem_append, List.mem_append, not_or, not_or] at hspace
  obtain ⟨⟨hleading, hnames⟩, hhash⟩ := hspace
  have hlist := (FoldedText.Holds.start.foldl_addTag (leadingTags parameters keyType)).addList
    (['h', '='] ++ joinWith [':'] (parameters.headerKeys.map String.toList) ++ [';'])
  have hhashed := hlist.addTag (['b', 'h', '='] ++ bodyHash.toList ++ [';'])
  rw [← List.append_assoc] at hlist hhashed
  -- a space is put in front of a tag only, and the text in front of a tag ends in a semicolon
  obtain ⟨hchain, hlast⟩ := FoldedText.isChain_foldl_addTag (f := .start) .nil (by decide) hleading
  rw [signatureText, String.toList_ofList]
  have hchain := FoldedText.isChain_addList hchain hlast hnames
  have hchain := FoldedText.isChain_addTag hchain hlist.getLast?_ne_colon hhash
  exact FoldedText.isChain_addTag hchain hhashed.getLast?_ne_colon (by decide)

/-! ### The field at the end -/

theorem named_signatureField (value : String) : (Field.new signatureField value).Named :=
  ⟨isFieldName_signatureField.1, isFieldName_signatureField.2⟩

section OwnField

variable {fs gs : List Field} (hf : ∀ f ∈ fs, f.Writable) (hg : ∀ g ∈ gs, g.Writable)
  {value value' : String}

include hf hg

/-- In simple form the signature field starts around the last colon with a space behind it. -/
theorem sameForm_of_simple (h : value.toList.IsChain (NotPair ':' ' '))
    (h' : value'.toList.IsChain (NotPair ':' ' '))
    (e : Canonicalization.simple.fields fs ++
        Canonicalization.simple.fieldText (Field.new signatureField value) =
      Canonicalization.simple.fields gs ++
        Canonicalization.simple.fieldText (Field.new signatureField value')) :
    List.Forall₂ Canonicalization.simple.SameForm fs gs ∧
      Canonicalization.simple.SameForm (Field.new signatureField value)
        (Field.new signatureField value') := by
  have hraw : ∀ {text : List Char}, text.IsChain (NotPair ':' ' ') →
      (Octet.space :: utf8Chars text).IsChain (NotPair Octet.colon Octet.space) := fun h =>
    List.isChain_cons.mpr ⟨fun _ _ e => absurd e.1 (by decide), isChain_notPair_utf8Chars h⟩
  have hfields : Canonicalization.simple.fields fs = Canonicalization.simple.fields gs := by
    -- what follows the pair need not be a field, so reading back is of no use here
    have hpair := e
    simp only [Canonicalization.fieldText, Field.new, ← List.append_assoc] at hpair
    exact (List.append_left_inj _).mp (eq_of_last_pair (hraw h) (hraw h') hpair)
  rw [hfields, List.append_right_inj] at e
  simp only [Canonicalization.fieldText, Field.new, List.append_right_inj] at e
  exact ⟨(Canonicalization.fields_eq_iff .simple hf hg).mp hfields, rfl, (List.cons.inj e).2⟩

/-- In relaxed form the signature field stands on one line, so it is one more field that can be
read back. -/
theorem sameForm_of_relaxed
    (e : Canonicalization.relaxed.fields fs ++
        Canonicalization.relaxed.fieldText (Field.new signatureField value) =
      Canonicalization.relaxed.fields gs ++
        Canonicalization.relaxed.fieldText (Field.new signatureField value')) :
    List.Forall₂ Canonicalization.relaxed.SameForm fs gs ∧
      Canonicalization.relaxed.SameForm (Field.new signatureField value)
        (Field.new signatureField value') := by
  have hread : ∀ {fs : List Field} (value : String), (∀ f ∈ fs, f.Writable) →
      ∀ f ∈ fs ++ [Field.new signatureField value],
        f.Named ∧ (Canonicalization.relaxed.form f).Writable := by
    intro fs value hf f m
    have hnamed : f.Named := by
      rcases List.mem_append.mp m with m | m
      · exact (hf f m).named
      · exact List.mem_singleton.mp m ▸ named_signatureField value
    exact ⟨hnamed, Canonicalization.writable_relaxed hnamed⟩
  have hend : ∀ (fs : List Field) (value : String),
      Canonicalization.relaxed.fields (fs ++ [Field.new signatureField value]) =
        (Canonicalization.relaxed.fields fs ++
          Canonicalization.relaxed.fieldText (Field.new signatureField value)) ++ crlf := by
    intro fs value
    simp [Canonicalization.fields, Canonicalization.field]
  have hforms := Canonicalization.map_form_eq_of_fields_eq .relaxed (hread value hf)
    (hread value' hg) (by rw [hend, hend, e])
  rw [List.map_append, List.map_append] at hforms
  obtain ⟨hforms, hown⟩ := List.append_inj' hforms rfl
  refine ⟨?_, ?_⟩
  · exact (Canonicalization.forall₂_sameForm_iff .relaxed (fun f m => (hf f m).named)
      fun g m => (hg g m).named).mpr hforms
  · exact (Canonicalization.form_eq_iff .relaxed (named_signatureField value)
      (named_signatureField value')).mp (List.cons.inj hown).1

end OwnField

theorem mem_pickAfter {h : Header} {f : Field} : ∀ {keys used : List String},
    f ∈ pickAfter h used keys → f ∈ h.fields
  | key :: keys, used, m => by
      rw [pickAfter, List.mem_append, Option.mem_toList] at m
      rcases m with m | m
      · exact (List.mem_filter.mp (List.mem_reverse.mp (List.mem_of_getElem? m))).1
      · exact mem_pickAfter m

/-- The header has no part in the value of the signature field in front of the signature. -/
theorem Signer.unsigned_writeMessage (s : Signer) (before : List Bytes) (header : Header)
    (after : List Bytes) :
    (s.writeMessage before header after).unsigned = signatureText s.parameters s.key.typeName
      (base64 (s.body.update (before ++ after).flatten).finish) := by
  rw [writeMessage_eq]
  rfl

/-- The unsigned value of a signer that accepted its parameters. -/
theorem isChain_unsigned {parameters : Parameters} {key : SigningKey} {signer : Signer}
    (hnew : Signer.new parameters key = .ok signer) (before : List Bytes) (header : Header)
    (after : List Bytes) :
    (signer.writeMessage before header after).unsigned.toList.IsChain (NotPair ':' ' ') := by
  obtain ⟨hp, rfl⟩ := Signer.new_eq_ok hnew
  rw [Signer.unsigned_writeMessage]
  have htag : ¬ IsTagChar ' ' := by decide
  refine isChain_signatureText hp (fun m => htag (isTagChar_typeName key ' ' m)) fun m => ?_
  rw [base64, String.toList_ofList] at m
  exact htag (isTagChar_of_mem_base64Chars m)

/-- **The signed octets are unambiguous.**  Fields of headers that were read have the same
canonical octets, all together, if and only if they agree one by one in canonical form.  So if two
signers, with any accepted parameters, get the same octets to sign for two messages, their picked
fields agree one by one, and so do their signature fields. -/
theorem signed_fields_unambiguous (mode : Canonicalization) :
    (∀ fs gs : List Field, (∀ f ∈ fs, ∃ raw, f ∈ (Header.parse raw).1.fields) →
      (∀ g ∈ gs, ∃ raw, g ∈ (Header.parse raw).1.fields) →
        (mode.fields fs = mode.fields gs ↔ List.Forall₂ mode.SameForm fs gs)) ∧
    ∀ {parameters parameters' : Parameters} {key key' : SigningKey} {signer signer' : Signer},
      Signer.new parameters key = .ok signer → Signer.new parameters' key' = .ok signer' →
      parameters.headerMode = mode → parameters'.headerMode = mode →
      ∀ (raw raw' : Bytes) (before before' after after' : List Bytes),
        let header := (Header.parse raw).1
        let header' := (Header.parse raw').1
        let unsigned := (signer.writeMessage before header after).unsigned
        let unsigned' := (signer'.writeMessage before' header' after').unsigned
        signedOctets parameters header unsigned = signedOctets parameters' header' unsigned' →
          List.Forall₂ mode.SameForm (pickFields header parameters.headerKeys)
              (pickFields header' parameters'.headerKeys) ∧
            mode.SameForm (Field.new signatureField unsigned)
              (Field.new signatureField unsigned') := by
  constructor
  · intro fs gs hf hg
    exact mode.fields_eq_iff (fun f m => (hf f m).elim fun _ => writable_of_mem_parse)
      fun g m => (hg g m).elim fun _ => writable_of_mem_parse
  · intro parameters parameters' key key' signer signer' hnew hnew' hmode hmode' raw raw' before
      before' after after' header header' unsigned unsigned' e
    have hpicked : ∀ (raw : Bytes) (keys : List String),
        ∀ f ∈ pickFields (Header.parse raw).1 keys, f.Writable := fun raw keys f m =>
      writable_of_mem_parse (mem_pickAfter m)
    rw [signedOctets, signedOctets, hmode, hmode'] at e
    cases mode with
    | simple =>
        exact sameForm_of_simple (hpicked raw _) (hpicked raw' _)
          (isChain_unsigned hnew before header after)
          (isChain_unsigned hnew' before' header' after') e
    | relaxed => exact sameForm_of_relaxed (hpicked raw _) (hpicked raw' _) e

/-- A folded subject and one on a single line: other octets on the wire, the same ones to sign. -/
theorem signed_fields_unambiguous_folded :
    let raw := utf8 "From: alice@example.org\r\nSubject: Quarterly\r\n  report\r\n\r\n"
    let raw' := utf8 "FROM:alice@example.org\r\nsubject:Quarterly report \r\n\r\n"
    let header := (Header.parse raw).1
    let header' := (Header.parse raw').1
    Canonicalization.relaxed.fields header.fields = Canonicalization.relaxed.fields header'.fields ∧
      List.Forall₂ Canonicalization.relaxed.SameForm header.fields header'.fields ∧
      ∃ signer, Signer.new sampleParameters (.ed25519 (List.replicate 32 7)) = .ok signer ∧
        let unsigned := (signer.writeMessage [] header [utf8 "Hello"]).unsigned
        let unsigned' := (signer.writeMessage [] header' [utf8 "Hello"]).unsigned
        signedOctets sampleParameters header unsigned =
          signedOctets sampleParameters header' unsigned' ∧
        List.Forall₂ Canonicalization.relaxed.SameForm
          (pickFields header sampleParameters.headerKeys)
          (pickFields header' sampleParameters.headerKeys) ∧
        Canonicalization.relaxed.SameForm (Field.new signatureField unsigned)
          (Field.new signatureField unsigned') := by
  intro raw raw' header header'
  have hfields : Canonicalization.relaxed.fields header.fields =
      Canonicalization.relaxed.fields header'.fields := by
    decide +kernel
  have hpicked : Canonicalization.relaxed.fields (pickFields header sampleParameters.headerKeys) =
      Canonicalization.relaxed.fields (pickFields header' sampleParameters.headerKeys) := by
    decide +kernel
  refine ⟨hfields, ?_, _, new_sampleParameters, ?_⟩
  · exact ((signed_fields_unambiguous .relaxed).1 header.fields header'.fields
      (fun f m => ⟨raw, m⟩) fun g m => ⟨raw', m⟩).mp hfields
  · intro unsigned unsigned'
    have hunsigned : unsigned = unsigned' :=
      (Signer.unsigned_writeMessage _ [] header _).trans
        (Signer.unsigned_writeMessage _ [] header' _).symm
    have hoctets : signedOctets sampleParameters header unsigned =
        signedOctets sampleParameters header' unsigned' := by
      rw [signedOctets, signedOctets, hunsigned]
      exact congrArg (· ++ _) hpicked
    exact ⟨hoctets, (signed_fields_unambiguous .relaxed).2 new_sampleParameters
      new_sampleParameters rfl rfl raw raw' [] [] [utf8 "Hello"] [utf8 "Hello"] hoctets⟩

end Dkim

end Mailroom
