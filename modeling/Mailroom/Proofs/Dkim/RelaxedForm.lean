import Mailroom.Dkim.Parameters
import Mailroom.Proofs.Dkim.Oversigning
import Mailroom.Proofs.Header.WireForm
import Mailroom.Proofs.Text.LowerCase

/-! # What relaxed signing ignores

The relaxed form of a field forgets the case of its name, the folding and the runs of blanks of its
value, and the blanks in front of the colon.  Names are looked up otherwise: these blanks belong to
the name (`Field.isNamed`).  So headers of the same relaxed form are signed alike if the blanks in
front of the colons are the same too (`relaxed_selection`), but not in general
(`selection_sees_blanks`): for all names that a signer accepts, a field with such blanks is as good
as absent (`selection_strict`).

No list of names can tell two headers apart if and only if they are `Alike`: under each name they
have the same forms in the same order (`alike_iff`). -/

namespace Mailroom

/-! ### Names in canonical form -/

/-- The blanks between the name of a field and its colon. -/
def Field.blanks (f : Field) : Bytes := ((utf8 f.name).reverse.takeWhile Octet.isBlank).reverse

theorem dropTrailingBlanks_append_blanks (f : Field) :
    dropTrailingBlanks (utf8 f.name) ++ f.blanks = utf8 f.name := by
  rw [dropTrailingBlanks, Field.blanks, ← List.reverse_append, List.takeWhile_append_dropWhile,
    List.reverse_reverse]

theorem eq_colon_of_toLower {b : UInt8} (h : Octet.toLower b = Octet.colon) : b = Octet.colon := by
  unfold Octet.toLower at h
  split at h
  · next hupper =>
    have hrange : 65 ≤ b.toNat ∧ b.toNat ≤ 90 := by
      simpa [UInt8.le_iff_toNat_le] using hupper
    have e : (b.toNat + 32) % 256 = 58 := congrArg UInt8.toNat h
    omega
  · exact h

/-- The name of a field in relaxed form: lowered, without the blanks in front of the colon. -/
def Field.lowName (f : Field) : Bytes := (dropTrailingBlanks (utf8 f.name)).map Octet.toLower

theorem Field.colon_notMem_lowName {f : Field} (h : Octet.colon ∉ utf8 f.name) :
    Octet.colon ∉ f.lowName := by
  intro m
  obtain ⟨c, mc, hc⟩ := List.mem_map.mp m
  have hname : c ∈ utf8 f.name := by
    rw [← dropTrailingBlanks_append_blanks]
    exact List.mem_append_left _ mc
  exact h (eq_colon_of_toLower hc ▸ hname)

/-- A blank octet is one of a blank character. -/
theorem eq_blank_of_mem_utf8EncodeChar {c : Char} {b : UInt8} (m : b ∈ String.utf8EncodeChar c)
    (hb : Octet.isBlank b = true) : c = ' ' ∨ c = '\t' := by
  rcases isBlank_iff.mp hb with hb | hb
  · obtain rfl : b = UInt8.ofNat 32 := UInt8.toNat_inj.mp hb
    exact .inl (eq_of_mem_utf8EncodeChar (by decide) m)
  · obtain rfl : b = UInt8.ofNat 9 := UInt8.toNat_inj.mp hb
    exact .inr (eq_of_mem_utf8EncodeChar (by decide) m)

/-- Lowering ASCII octets is lowering the text. -/
theorem lowerAscii_asciiText {bytes : Bytes} (h : ∀ b ∈ bytes, b.toNat < 128) :
    lowerAscii (asciiText bytes) = asciiText (bytes.map Octet.toLower) := by
  have hall : ∀ n < 128, (Char.ofNat n).toLower =
      Char.ofNat (Octet.toLower (UInt8.ofNat n)).toNat := by
    decide
  rw [lowerAscii, asciiText, asciiText, String.toList_ofList, List.map_map, List.map_map]
  congr 1
  refine List.map_congr_left fun b m => ?_
  have := hall b.toNat (h b m)
  rwa [UInt8.ofNat_toNat] at this

/-- The fields without blanks in front of their colon. -/
def Header.strict (h : Header) : Header := ⟨h.fields.filter (·.blanks.isEmpty)⟩

/-- A character that is no letter stands in both of two names that agree up to case. -/
theorem mem_of_equalsIgnoringCase {a b : String} (h : equalsIgnoringCase a b = true) {c : Char}
    (hc : c.toNat < 65) (m : c ∈ a.toList) : c ∈ b.toList := by
  have hupper : ¬ (c.val ≥ 'A'.val ∧ c.val ≤ 'Z'.val) := by
    rw [ge_iff_le, UInt32.le_iff_toNat_le]
    exact fun hrange => absurd hrange.1 (Nat.not_le.mpr hc)
  have hsame : c.toLower = c := dif_neg hupper
  have hlists : a.toList.map Char.toLower = b.toList.map Char.toLower := by
    simpa [equalsIgnoringCase] using h
  have m : c ∈ b.toList.map Char.toLower := hlists ▸ hsame ▸ List.mem_map_of_mem m
  obtain ⟨d, md, hd⟩ := List.mem_map.mp m
  exact eq_of_toLower_eq hc hd ▸ md

namespace Dkim

open Canonicalization (relaxed)

theorem relaxed_field_eq_lowName (f : Field) :
    relaxed.field f = f.lowName ++ Octet.colon :: (relaxedValue f.raw ++ crlf) := by
  rw [Canonicalization.field, Canonicalization.fieldText, List.append_assoc, List.cons_append]
  rfl

/-- The relaxed form starts with the name, lowered and without blanks. -/
theorem takeWhile_relaxed {f : Field} (h : f.Writable) :
    (relaxed.field f).takeWhile (· != Octet.colon) =
      (dropTrailingBlanks (utf8 f.name)).map Octet.toLower := by
  have hkept : ∀ b ∈ f.lowName, (b != Octet.colon) = true := by
    intro b m
    simpa using fun e : b = Octet.colon => Field.colon_notMem_lowName h.colon (e ▸ m)
  rw [relaxed_field_eq_lowName, List.takeWhile_append_of_pos hkept,
    List.takeWhile_cons_of_neg (by simp), List.append_nil]
  rfl

/-- **The name of a field, up to case,** can be told from its relaxed form and the blanks in front
of its colon. -/
theorem lowerAscii_name {f : Field} (h : f.Writable) :
    lowerAscii f.name = asciiText
      ((relaxed.field f).takeWhile (· != Octet.colon) ++ f.blanks.map Octet.toLower) := by
  have hascii : ∀ b ∈ utf8 f.name, b.toNat < 128 := fun b m => lt_of_mem_fieldName h.name m
  have hname : f.name = asciiText (utf8 f.name) := utf8_inj (utf8_asciiText hascii).symm
  rw [takeWhile_relaxed h, ← List.map_append, dropTrailingBlanks_append_blanks,
    ← lowerAscii_asciiText hascii, ← hname]

/-! ### Headers that names cannot tell apart -/

/-- Under every name the headers have the same canonical forms in the same order. -/
def Alike (mode : Canonicalization) (h g : Header) : Prop :=
  ∀ name, (h.fieldsNamed name).map mode.field = (g.fieldsNamed name).map mode.field

namespace Alike

variable {mode : Canonicalization} {h g : Header}

theorem count_eq (e : Alike mode h g) (name : String) : h.count name = g.count name := by
  rw [Header.count, ← List.length_map mode.field, e name, List.length_map, Header.count]

theorem namesToSign_eq (e : Alike mode h g) (oversign sign : List String) :
    namesToSign h oversign sign = namesToSign g oversign sign := by
  simp only [namesToSign, e.count_eq]

theorem map_pickAfter (e : Alike mode h g) : ∀ (used keys : List String),
    (pickAfter h used keys).map mode.field = (pickAfter g used keys).map mode.field
  | _, [] => rfl
  | used, key :: keys => by
      have ih := map_pickAfter e (key :: used) keys
      have hpick : ∀ (k : Header) (i : Nat), (k.fieldsNamed key).reverse[i]?.toList.map mode.field =
          ((k.fieldsNamed key).map mode.field).reverse[i]?.toList := by
        intro k i
        rw [← List.map_reverse, List.getElem?_map]
        cases (k.fieldsNamed key).reverse[i]? <;> rfl
      rw [pickAfter, pickAfter, List.map_append, List.map_append, ih, hpick, hpick, e key]

theorem coveredOctets_eq (e : Alike mode h g) (keys : List String) :
    coveredOctets mode h keys = coveredOctets mode g keys := by
  rw [coveredOctets, coveredOctets, Canonicalization.fields, Canonicalization.fields, List.flatMap,
    List.flatMap, pickFields, pickFields, e.map_pickAfter]

end Alike

/-- A block picks the bottom fields of its name. -/
theorem pickFields_replicate (h : Header) (name : String) (n : Nat) :
    pickFields h (List.replicate n name) = (h.fieldsNamed name).reverse.take n := by
  have e := pickAfter_replicate h name [] n []
  rwa [List.append_nil, List.countP_nil, List.drop_zero, pickAfter, List.append_nil] at e

/-- Equally many forms are the same if their first `n` take the same octets, for each `n`. -/
theorem map_field_eq_of_fields_take {mode : Canonicalization} : ∀ {fs gs : List Field},
    fs.length = gs.length → (∀ n, mode.fields (fs.take n) = mode.fields (gs.take n)) →
      fs.map mode.field = gs.map mode.field
  | [], [], _, _ => rfl
  | f :: fs, g :: gs, hlen, htake => by
      have hone := htake 1
      have hfirst : mode.field f = mode.field g := by
        simpa [Canonicalization.fields] using hone
      have hrest : ∀ n, mode.fields (fs.take n) = mode.fields (gs.take n) := by
        intro n
        have := htake (n + 1)
        simp only [List.take_succ_cons, Canonicalization.fields, List.flatMap_cons, hfirst] at this
        exact List.append_cancel_left this
      have ih := map_field_eq_of_fields_take (Nat.succ.inj hlen) hrest
      rw [List.map_cons, List.map_cons, hfirst, ih]

/-- **What names can tell apart.**  Two headers give the same names to sign and the same octets for
all lists if and only if they are alike. -/
theorem alike_iff {mode : Canonicalization} {h g : Header} :
    Alike mode h g ↔
      (∀ oversign sign, namesToSign h oversign sign = namesToSign g oversign sign) ∧
        ∀ keys, coveredOctets mode h keys = coveredOctets mode g keys := by
  constructor
  · exact fun e => ⟨e.namesToSign_eq, e.coveredOctets_eq⟩
  · rintro ⟨hnames, hoctets⟩ name
    have hcount : (h.fieldsNamed name).length = (g.fieldsNamed name).length := by
      have := congrArg List.length (hnames [] [name])
      simpa [namesToSign, freshNames, Header.count] using this
    have htake : ∀ n, mode.fields ((h.fieldsNamed name).reverse.take n) =
        mode.fields ((g.fieldsNamed name).reverse.take n) := by
      intro n
      rw [← pickFields_replicate, ← pickFields_replicate]
      exact hoctets (List.replicate n name)
    have := map_field_eq_of_fields_take (by simpa using hcount) htake
    rwa [List.map_reverse, List.map_reverse, List.reverse_inj] at this

/-- What a lookup under a name gives, from the forms and the names up to case. -/
theorem map_fieldsNamed (mode : Canonicalization) (h : Header) (name : String) :
    (h.fieldsNamed name).map mode.field =
      ((h.fields.map fun f => (mode.field f, lowerAscii f.name)).filter
        (·.2 == lowerAscii name)).map Prod.fst := by
  have hnamed : ∀ f : Field, f.isNamed name = (lowerAscii f.name == lowerAscii name) := by
    intro f
    rw [Bool.eq_iff_iff, Field.isNamed, equalsIgnoringCase_iff, beq_iff_eq]
  rw [List.filter_map, List.map_map, Header.fieldsNamed, List.filter_congr fun f _ => hnamed f]
  rfl

theorem alike_of_names {mode : Canonicalization} {h g : Header}
    (e : h.fields.map (fun f => (mode.field f, lowerAscii f.name)) =
      g.fields.map fun f => (mode.field f, lowerAscii f.name)) : Alike mode h g := by
  intro name
  rw [map_fieldsNamed, map_fieldsNamed, e]

/-- The names of a header, up to case, can be told from the relaxed forms and the blanks. -/
theorem map_lowerAscii_name {h : Header} (hw : ∀ f ∈ h.fields, f.Writable) :
    h.fields.map (fun f => (relaxed.field f, lowerAscii f.name)) =
      ((h.fields.map relaxed.field).zip (h.fields.map Field.blanks)).map fun (form, blanks) =>
        (form, asciiText (form.takeWhile (· != Octet.colon) ++ blanks.map Octet.toLower)) := by
  rw [List.zip_map', List.map_map]
  exact List.map_congr_left fun f m => Prod.ext rfl (lowerAscii_name (hw f m))

/-- **Relaxed signing ignores what the relaxed form ignores, but for blanks in front of a colon.**
If two headers that were read have the same relaxed forms and the same blanks in front of their
colons, they give the same names to sign and the same octets for all lists of names. -/
theorem relaxed_selection {raw other : Bytes}
    (hforms : (Header.parse raw).1.fields.map relaxed.field =
      (Header.parse other).1.fields.map relaxed.field)
    (hblanks : (Header.parse raw).1.fields.map Field.blanks =
      (Header.parse other).1.fields.map Field.blanks)
    (oversign sign keys : List String) :
    namesToSign (Header.parse raw).1 oversign sign =
        namesToSign (Header.parse other).1 oversign sign ∧
      coveredOctets relaxed (Header.parse raw).1 keys =
        coveredOctets relaxed (Header.parse other).1 keys := by
  have e : Alike relaxed (Header.parse raw).1 (Header.parse other).1 := by
    refine alike_of_names ?_
    rw [map_lowerAscii_name fun f m => writable_of_mem_parse m,
      map_lowerAscii_name fun f m => writable_of_mem_parse m, hforms, hblanks]
  exact ⟨e.namesToSign_eq oversign sign, e.coveredOctets_eq keys⟩

/-- Another case of the names, a folded value, other blanks, and an obsolete field as it was. -/
theorem relaxed_selection_folded :
    let raw := utf8 "Subject: two  words\r\nX-Old : 1\r\nsubject: again\r\n\r\n"
    let other := utf8 "SUBJECT:two\r\n\twords \r\nx-old :1\r\nSubject:  again\r\n\r\nHello"
    (Header.parse raw).1.fields.map relaxed.field =
        (Header.parse other).1.fields.map relaxed.field ∧
      (Header.parse raw).1.fields.map Field.blanks =
        (Header.parse other).1.fields.map Field.blanks ∧
      namesToSign (Header.parse raw).1 ["Subject"] ["X-Old "] =
        namesToSign (Header.parse other).1 ["Subject"] ["X-Old "] ∧
      coveredOctets relaxed (Header.parse raw).1 ["x-old ", "Subject"] =
        coveredOctets relaxed (Header.parse other).1 ["x-old ", "Subject"] := by
  intro raw other
  have hforms : (Header.parse raw).1.fields.map relaxed.field =
      (Header.parse other).1.fields.map relaxed.field := by
    decide +kernel
  have hblanks : (Header.parse raw).1.fields.map Field.blanks =
      (Header.parse other).1.fields.map Field.blanks := by
    decide +kernel
  exact ⟨hforms, hblanks, relaxed_selection hforms hblanks ["Subject"] ["X-Old "]
    ["x-old ", "Subject"]⟩

/-- A blank in front of the colon leaves the relaxed form as it is, but the field is not found. -/
theorem selection_sees_blanks :
    let h := (Header.parse (utf8 "Subject: x\r\n\r\n")).1
    let g := (Header.parse (utf8 "Subject : x\r\n\r\n")).1
    h.size = g.size ∧ h.fields.map relaxed.field = g.fields.map relaxed.field ∧
      namesToSign h ["Subject"] [] ≠ namesToSign g ["Subject"] [] ∧
      coveredOctets relaxed h ["Subject"] ≠ coveredOctets relaxed g ["Subject"] := by
  decide +kernel

/-! ### Fields with blanks in front of the colon -/

/-- No name that a signer accepts finds a field with blanks in front of its colon. -/
theorem blanks_eq_nil_of_isNamed {f : Field} {key : String} (hkey : isInvalidKey key = false)
    (h : f.isNamed key = true) : f.blanks = [] := by
  refine List.eq_nil_iff_forall_not_mem.mpr fun b m => ?_
  have hblank : Octet.isBlank b = true := List.mem_takeWhile_imp (List.mem_reverse.mp m)
  have hname : b ∈ utf8 f.name := by
    rw [← dropTrailingBlanks_append_blanks]
    exact List.mem_append_right _ m
  obtain ⟨c, mc, hc⟩ := List.mem_flatMap.mp hname
  rcases eq_blank_of_mem_utf8EncodeChar hc hblank with rfl | rfl
  · have mkey := mem_of_equalsIgnoringCase h (by decide) mc
    exact (ne_of_isInvalidKey hkey mkey).2.2.1 rfl
  · have mkey := mem_of_equalsIgnoringCase h (by decide) mc
    exact (ne_of_isInvalidKey hkey mkey).2.2.2 rfl

theorem fieldsNamed_strict (h : Header) {key : String} (hkey : isInvalidKey key = false) :
    h.strict.fieldsNamed key = h.fieldsNamed key := by
  rw [Header.fieldsNamed, Header.strict, List.filter_filter]
  refine List.filter_congr fun f _ => ?_
  cases hf : f.isNamed key with
  | false => rfl
  | true =>
      rw [blanks_eq_nil_of_isNamed hkey hf]
      rfl

theorem pickAfter_strict (h : Header) : ∀ (used : List String) {keys : List String},
    (∀ key ∈ keys, isInvalidKey key = false) → pickAfter h.strict used keys = pickAfter h used keys
  | _, [], _ => rfl
  | used, key :: keys, hkeys => by
      have ih := pickAfter_strict h (key :: used) fun k m => hkeys k (List.mem_cons_of_mem key m)
      rw [pickAfter, pickAfter, fieldsNamed_strict h (hkeys key List.mem_cons_self), ih]

/-- **A field with blanks in front of its colon is as good as absent:** with names that a signer
accepts, it is neither counted nor picked. -/
theorem selection_strict (h : Header) {oversign sign keys : List String}
    (hnames : ∀ name ∈ oversign ++ sign, isInvalidKey name = false)
    (hkeys : ∀ key ∈ keys, isInvalidKey key = false) :
    namesToSign h.strict oversign sign = namesToSign h oversign sign ∧
      pickFields h.strict keys = pickFields h keys := by
  refine ⟨?_, pickAfter_strict h [] hkeys⟩
  have hcount : ∀ name ∈ oversign ++ sign, h.strict.count name = h.count name := fun name m =>
    congrArg List.length (fieldsNamed_strict h (hnames name m))
  have hover : ∀ name ∈ freshNames [] oversign, h.strict.count name = h.count name := fun name m =>
    hcount name (List.mem_append_left sign (freshNames_subset m))
  have hsign : ∀ name ∈ freshNames oversign sign, h.strict.count name = h.count name :=
    fun name m => hcount name (List.mem_append_right oversign (freshNames_subset m))
  have hblocks : signedBlocks h.strict oversign sign = signedBlocks h oversign sign := by
    rw [signedBlocks, signedBlocks]
    congr 1
    · exact List.map_congr_left fun name m => by rw [hover name m]
    · exact List.map_congr_left fun name m => by rw [hsign name m]
  rw [namesToSign_eq_listing, namesToSign_eq_listing, hblocks]

end Dkim

end Mailroom
