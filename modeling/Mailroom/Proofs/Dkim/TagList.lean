import Mailroom.Dkim.TagList
import Mailroom.Encoding.Base64
import Mailroom.Proofs.Text.Separators
import Mailroom.Text.Digits

/-! # Reading back a tag list

`readTags` sees only what is left without white space (`readTags_eq`), so however a list was
folded, its tags are found if the text without white space is the tags with semicolons between
them (`readTags_of_joined`).  Numbers, base64 text and quoted values consist of characters that
neither end a tag nor get lost (`IsTagChar`). -/

namespace Mailroom.Dkim

/-! ### White space -/

theorem withoutWhiteSpace_append (text more : List Char) :
    withoutWhiteSpace (text ++ more) = withoutWhiteSpace text ++ withoutWhiteSpace more :=
  List.filter_append text more

theorem withoutWhiteSpace_of_none {text : List Char} (h : ∀ c ∈ text, isWhiteSpace c = false) :
    withoutWhiteSpace text = text :=
  List.filter_eq_self.mpr fun c m => by rw [h c m]; rfl

theorem mem_withoutWhiteSpace {text : List Char} {c : Char} :
    c ∈ withoutWhiteSpace text ↔ c ∈ text ∧ isWhiteSpace c = false := by
  simp [withoutWhiteSpace]

theorem withoutWhiteSpace_dropWhile : ∀ text : List Char,
    withoutWhiteSpace (text.dropWhile isWhiteSpace) = withoutWhiteSpace text
  | [] => rfl
  | c :: text => by
      by_cases hc : isWhiteSpace c = true
      · rw [List.dropWhile_cons_of_pos hc, withoutWhiteSpace_dropWhile text]
        simp [withoutWhiteSpace, hc]
      · rw [List.dropWhile_cons_of_neg hc]

theorem withoutWhiteSpace_reverse (text : List Char) :
    withoutWhiteSpace text.reverse = (withoutWhiteSpace text).reverse :=
  List.filter_reverse

/-- Trimming removes nothing but white space. -/
theorem withoutWhiteSpace_trimChars (text : List Char) :
    withoutWhiteSpace (trimChars text) = withoutWhiteSpace text := by
  rw [trimChars, withoutWhiteSpace_reverse, withoutWhiteSpace_dropWhile, withoutWhiteSpace_reverse,
    withoutWhiteSpace_dropWhile, List.reverse_reverse]

/-! ### Characters of a tag -/

/-- A printable ASCII character that does not end a tag. -/
def IsTagChar (c : Char) : Prop := 0x21 ≤ c.toNat ∧ c.toNat ≤ 0x7E ∧ c ≠ ';'

instance (c : Char) : Decidable (IsTagChar c) := inferInstanceAs (Decidable (_ ∧ _ ∧ _))

/-- Whether a text consists of such characters. -/
def areTagChars (text : List Char) : Bool := text.all fun c => decide (IsTagChar c)

theorem areTagChars_iff {text : List Char} :
    areTagChars text = true ↔ ∀ c ∈ text, IsTagChar c := by
  simp [areTagChars]

/-- A printable character other than space is no white space. -/
theorem isWhiteSpace_of_printable {c : Char} (h1 : 0x21 ≤ c.toNat) (h2 : c.toNat ≤ 0x7E) :
    isWhiteSpace c = false := by
  simp only [isWhiteSpace, Bool.or_eq_false_iff, Bool.and_eq_false_iff, decide_eq_false_iff_not,
    beq_eq_false_iff_ne, ne_eq]
  omega

theorem IsTagChar.isWhiteSpace {c : Char} (h : IsTagChar c) : isWhiteSpace c = false :=
  isWhiteSpace_of_printable h.1 h.2.1

theorem notMem_of_isTagChar {text : List Char} (h : ∀ c ∈ text, IsTagChar c) : ';' ∉ text :=
  fun m => (h ';' m).2.2 rfl

theorem lf_notMem_of_isTagChar {text : List Char} (h : ∀ c ∈ text, IsTagChar c) : '\n' ∉ text :=
  fun m => absurd (h '\n' m).1 (by decide)

theorem withoutWhiteSpace_of_isTagChar {text : List Char} (h : ∀ c ∈ text, IsTagChar c) :
    withoutWhiteSpace text = text :=
  withoutWhiteSpace_of_none fun c m => (h c m).isWhiteSpace

theorem isTagChar_of_isDigit {c : Char} (h : c.isDigit = true) : IsTagChar c := by
  have hc : 48 ≤ c.toNat ∧ c.toNat ≤ 57 := by
    simpa [Char.isDigit, UInt32.le_iff_toNat_le] using h
  refine ⟨by omega, by omega, ?_⟩
  rintro rfl
  exact absurd hc.2 (by decide)

theorem isTagChar_of_mem_intDigits {n : Int} {c : Char} (h : c ∈ intDigits n) : IsTagChar c := by
  have hnat : ∀ {n : Nat}, c ∈ natDigits n → IsTagChar c := fun m =>
    isTagChar_of_isDigit (Nat.isDigit_of_mem_toDigits (by decide) (by decide) m)
  cases n with
  | ofNat n => exact hnat h
  | negSucc n =>
      rcases List.mem_cons.mp h with rfl | h
      · decide
      · exact hnat h

theorem isTagChar_base64Char : ∀ n < 64, IsTagChar (base64Char n) := by decide

theorem isTagChar_of_mem_base64Chars : ∀ {bytes : Bytes} {c : Char},
    c ∈ base64Chars bytes → IsTagChar c
  | [], c, h => by cases h
  | [a], c, h => by
      have ha := a.toNat_lt
      simp only [base64Chars, List.mem_cons, List.not_mem_nil, or_false] at h
      rcases h with rfl | rfl | rfl | rfl
      · exact isTagChar_base64Char _ (by omega)
      · exact isTagChar_base64Char _ (by omega)
      · decide
      · decide
  | [a, b], c, h => by
      have ha := a.toNat_lt
      have hb := b.toNat_lt
      simp only [base64Chars, List.mem_cons, List.not_mem_nil, or_false] at h
      rcases h with rfl | rfl | rfl | rfl
      · exact isTagChar_base64Char _ (by omega)
      · exact isTagChar_base64Char _ (by omega)
      · exact isTagChar_base64Char _ (by omega)
      · decide
  | x :: y :: z :: rest, c, h => by
      have hx := x.toNat_lt
      have hy := y.toNat_lt
      have hz := z.toNat_lt
      rw [base64Chars] at h
      simp only [List.mem_cons] at h
      rcases h with rfl | rfl | rfl | rfl | h
      · exact isTagChar_base64Char _ (by omega)
      · exact isTagChar_base64Char _ (by omega)
      · exact isTagChar_base64Char _ (by omega)
      · exact isTagChar_base64Char _ (by omega)
      · exact isTagChar_of_mem_base64Chars h

theorem isTagChar_quotedOctet {n : Nat} (hn : n < 256) :
    ∀ c ∈ quotedOctet (UInt8.ofNat n), IsTagChar c := by
  have h : ∀ n < 256, areTagChars (quotedOctet (UInt8.ofNat n)) = true := by decide +kernel
  exact areTagChars_iff.mp (h n hn)

theorem isTagChar_of_mem_quotedPrintable {value : String} {c : Char}
    (h : c ∈ (quotedPrintable value).toList) : IsTagChar c := by
  rw [quotedPrintable, String.toList_ofList] at h
  obtain ⟨b, -, hc⟩ := List.mem_flatMap.mp h
  have := isTagChar_quotedOctet b.toNat_lt c
  rw [UInt8.ofNat_toNat] at this
  exact this hc

/-! ### Tags -/

/-- The tag that a piece without white space holds. -/
def readTag (piece : List Char) : Option (String × String) :=
  (cutFirst '=' piece).map fun (name, value) => (String.ofList name, String.ofList value)

/-- Folding white space in a tag list has no meaning. -/
theorem readTags_eq (value : String) :
    readTags value = (splitAt ';' (withoutWhiteSpace value.toList)).filterMap readTag := by
  rw [readTags, withoutWhiteSpace, splitAt_filter rfl, List.filterMap_map]
  congr 1
  funext piece
  rw [Function.comp_apply, readTag, cutFirst_filter rfl, Option.map_map]
  rfl

/-- A tag as it stands in a list. -/
def tagText (tag : String × String) : List Char := tag.1.toList ++ '=' :: tag.2.toList

/-- Whether a tag can be told from its neighbours and its name from its value. -/
structure IsTag (tag : String × String) : Prop where
  name : ∀ c ∈ tag.1.toList, IsTagChar c
  equals : '=' ∉ tag.1.toList
  value : ';' ∉ tag.2.toList

theorem IsTag.notMem_tagText {tag : String × String} (h : IsTag tag) : ';' ∉ tagText tag := by
  simp only [tagText, List.mem_append, List.mem_cons, not_or]
  exact ⟨notMem_of_isTagChar h.name, by decide, h.value⟩

theorem readTag_tagText {tag : String × String} (h : IsTag tag) :
    readTag (tagText tag) = some tag := by
  rw [readTag, tagText, cutFirst_append_cons h.equals]
  simp

theorem filterMap_readTag {tags : List (String × String)} (h : ∀ tag ∈ tags, IsTag tag) :
    (tags.map tagText).filterMap readTag = tags := by
  induction tags with
  | nil => rfl
  | cons tag tags ih =>
      have ih := ih fun t m => h t (List.mem_cons_of_mem tag m)
      rw [List.map_cons, List.filterMap_cons, readTag_tagText (h tag List.mem_cons_self), ih]

/-- **The tags of a list are read in their order,** wherever the list was folded. -/
theorem readTags_of_joined {value : String} {tags : List (String × String)} (hne : tags ≠ [])
    (htags : ∀ tag ∈ tags, IsTag tag)
    (h : withoutWhiteSpace value.toList = joinWith [';'] (tags.map tagText)) :
    readTags value = tags := by
  have hpieces : ∀ piece ∈ tags.map tagText, ';' ∉ piece := by
    intro piece m
    obtain ⟨tag, mt, rfl⟩ := List.mem_map.mp m
    exact (htags tag mt).notMem_tagText
  rw [readTags_eq, h, splitAt_joinWith (by simpa using hne) hpieces, filterMap_readTag htags]

/-- A tag as a reader sees it. -/
def tagAsRead (tag : String × String) : String × String :=
  (tag.1, String.ofList (withoutWhiteSpace tag.2.toList))

theorem IsTag.tagAsRead {tag : String × String} (h : IsTag tag) : IsTag (tagAsRead tag) := by
  refine ⟨h.name, h.equals, ?_⟩
  rw [Dkim.tagAsRead, String.toList_ofList, mem_withoutWhiteSpace]
  exact fun m => h.value m.1

theorem withoutWhiteSpace_tagText {tag : String × String} (h : IsTag tag) :
    withoutWhiteSpace (tagText tag) = tagText (tagAsRead tag) := by
  have e : tagText tag = tag.1.toList ++ (['='] ++ tag.2.toList) := rfl
  rw [e, withoutWhiteSpace_append, withoutWhiteSpace_append, withoutWhiteSpace_of_isTagChar h.name,
    tagText, tagAsRead, String.toList_ofList]
  rfl

theorem withoutWhiteSpace_tagTexts {tags : List (String × String)}
    (h : ∀ tag ∈ tags, IsTag tag) :
    withoutWhiteSpace (tags.flatMap fun tag => tagText tag ++ [';']) =
      ((tags.map tagAsRead).map tagText).flatMap (· ++ [';']) := by
  induction tags with
  | nil => rfl
  | cons tag tags ih =>
      have ih := ih fun t m => h t (List.mem_cons_of_mem tag m)
      rw [List.flatMap_cons, withoutWhiteSpace_append, withoutWhiteSpace_append,
        withoutWhiteSpace_tagText (h tag List.mem_cons_self), ih]
      rfl

/-- **A list of tags is read back,** each value without its white space. -/
theorem readTags_of_tagTexts {value : String} {tags : List (String × String)}
    {last : String × String}
    (htags : ∀ tag ∈ tags ++ [last], IsTag tag)
    (h : withoutWhiteSpace value.toList =
      withoutWhiteSpace (tags.flatMap (fun tag => tagText tag ++ [';']) ++ tagText last)) :
    readTags value = (tags ++ [last]).map tagAsRead := by
  have hread : ∀ tag ∈ (tags ++ [last]).map tagAsRead, IsTag tag := by
    intro tag m
    obtain ⟨t, mt, rfl⟩ := List.mem_map.mp m
    exact (htags t mt).tagAsRead
  refine readTags_of_joined (by simp) hread ?_
  rw [h, withoutWhiteSpace_append,
    withoutWhiteSpace_tagTexts fun t m => htags t (List.mem_append_left _ m),
    withoutWhiteSpace_tagText (htags last (by simp)), List.map_append, List.map_append]
  exact (joinWith_concat _ _).symm

/-- The value of the first tag with this name. -/
def tag? (tags : List (String × String)) (name : String) : Option String :=
  (tags.find? (·.1 == name)).map Prod.snd

end Mailroom.Dkim
