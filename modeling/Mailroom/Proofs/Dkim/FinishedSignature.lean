import Mailroom.Proofs.Dkim.Verification
import Mailroom.Proofs.Header.WireForm

/-! # What a finished signature is

A signer that accepted its parameters finishes with a tag list that says what was signed, each value
without its white space (`readTags_finished`).  On top of a header that was read, the value makes
one field that is read back, if no name in the list of fields holds a line feed, and only then
(`finished_read_back`).  Such names are accepted (`finished_lost`): the check of the parameters
looks for white space of every kind in domain and selector, but for blanks only in field names. -/

namespace Mailroom.Dkim

/-! ### The value -/

section Finished

variable {parameters : Parameters} {key : SigningKey} {signer : Signer} {before after : List Bytes}
  {header : Header} {value : String}

/-- The value of a finished signature, in terms of the parameters and the message. -/
theorem eq_of_finish (hnew : Signer.new parameters key = .ok signer)
    (hvalue : (signer.writeMessage before header after).finish = .ok value) :
    parameters.WellFormed ∧ ∃ digest signature,
      (signer.writeMessage before header after).digest? = some digest ∧
      key.sign digest = .ok signature ∧
      value = signatureText parameters key.typeName
        (base64 (hashBody parameters.hash parameters.bodyMode (before ++ after).flatten)) ++
          base64 signature := by
  obtain ⟨hp, rfl⟩ := Signer.new_eq_ok hnew
  rw [Signer.writeMessage_eq] at hvalue ⊢
  obtain ⟨digest, signature, hdigest, hsign, rfl⟩ := Signer.finish_eq_ok_iff.mp hvalue
  exact ⟨hp, digest, signature, hdigest, hsign, rfl⟩

/-! ### The tags -/

/-- The text without any white space. -/
def spaceless (text : String) : String := String.ofList (withoutWhiteSpace text.toList)

/-- The names of the list of fields as they are read. -/
def spacelessKeys (parameters : Parameters) : List (List Char) :=
  parameters.headerKeys.map fun key => withoutWhiteSpace key.toList

theorem tagAsRead_of_isTagChar {name value : String} (h : ∀ c ∈ value.toList, IsTagChar c) :
    tagAsRead (name, value) = (name, value) := by
  rw [tagAsRead, withoutWhiteSpace_of_isTagChar h, String.ofList_toList]

theorem tagAsRead_algorithm (key : SigningKey) (hash : HashAlgorithm) :
    tagAsRead ("a", key.typeName ++ "-" ++ hash.name) =
      ("a", key.typeName ++ "-" ++ hash.name) := by
  have hdash : areTagChars "-".toList = true := by decide
  have hhash : areTagChars hash.name.toList = true := by cases hash; decide
  refine tagAsRead_of_isTagChar fun c m => ?_
  rw [String.toList_append, String.toList_append, List.mem_append, List.mem_append] at m
  rcases m with (m | m) | m
  · exact isTagChar_typeName key c m
  · exact areTagChars_iff.mp hdash c m
  · exact areTagChars_iff.mp hhash c m

theorem tagAsRead_modes (headerMode bodyMode : Canonicalization) :
    tagAsRead ("c", headerMode.name ++ "/" ++ bodyMode.name) =
      ("c", headerMode.name ++ "/" ++ bodyMode.name) := by
  cases headerMode <;> cases bodyMode <;> rfl

theorem tagAsRead_digits (name : String) (n : Int) :
    tagAsRead (name, String.ofList (intDigits n)) = (name, String.ofList (intDigits n)) :=
  tagAsRead_of_isTagChar fun _ m => isTagChar_of_mem_intDigits (String.toList_ofList ▸ m)

theorem tagAsRead_quotedPrintable (name value : String) :
    tagAsRead (name, quotedPrintable value) = (name, quotedPrintable value) :=
  tagAsRead_of_isTagChar fun _ m => isTagChar_of_mem_quotedPrintable m

theorem tagAsRead_base64 (name : String) (bytes : Bytes) :
    tagAsRead (name, base64 bytes) = (name, base64 bytes) := by
  rw [tagAsRead, withoutWhiteSpace_base64]

theorem tagAsRead_names (parameters : Parameters) :
    tagAsRead ("h", String.ofList (joinWith [':'] (parameters.headerKeys.map String.toList))) =
      ("h", String.ofList (joinWith [':'] (spacelessKeys parameters))) := by
  rw [tagAsRead, String.toList_ofList, withoutWhiteSpace, filter_joinWith rfl, List.map_map]
  rfl

/-- An optional tag is read as it is, if there is one. -/
theorem map_tagAsRead_toList {tag? : Option (String × String)}
    (h : ∀ tag ∈ tag?, tagAsRead tag = tag) : tag?.toList.map tagAsRead = tag?.toList := by
  cases tag? with
  | none => rfl
  | some tag => exact congrArg (fun tag => [tag]) (h tag rfl)

/-- Only the texts that the signer was given can lose white space. -/
theorem map_tagAsRead_statedTags (parameters : Parameters) (key : SigningKey)
    (bodyHash signature : Bytes) :
    (statedTags parameters key.typeName (base64 bodyHash) ++ [("b", base64 signature)]).map
        tagAsRead =
      [("v", "1"), ("a", key.typeName ++ "-" ++ parameters.hash.name),
        ("c", parameters.headerMode.name ++ "/" ++ parameters.bodyMode.name),
        ("d", spaceless parameters.domain), ("s", spaceless parameters.selector),
        ("t", String.ofList (intDigits parameters.timestamp))] ++
      (parameters.expiration.map fun x => ("x", String.ofList (intDigits x))).toList ++
      (parameters.identifier.map fun i => ("i", quotedPrintable i)).toList ++
      [("h", String.ofList (joinWith [':'] (spacelessKeys parameters))),
        ("bh", base64 bodyHash), ("b", base64 signature)] := by
  have hversion : tagAsRead ("v", "1") = ("v", "1") := rfl
  have hexpiration : ∀ tag ∈ parameters.expiration.map fun x => ("x", String.ofList (intDigits x)),
      tagAsRead tag = tag := by
    intro tag m
    obtain ⟨x, -, rfl⟩ := Option.map_eq_some_iff.mp m
    exact tagAsRead_digits "x" x
  have hidentifier : ∀ tag ∈ parameters.identifier.map fun i => ("i", quotedPrintable i),
      tagAsRead tag = tag := by
    intro tag m
    obtain ⟨i, -, rfl⟩ := Option.map_eq_some_iff.mp m
    exact tagAsRead_quotedPrintable "i" i
  simp only [statedTags, List.map_append, List.map_cons, List.map_nil, hversion,
    tagAsRead_algorithm, tagAsRead_modes, tagAsRead_digits,
    map_tagAsRead_toList hexpiration, map_tagAsRead_toList hidentifier, tagAsRead_names,
    tagAsRead_base64, List.append_assoc, List.cons_append, List.nil_append]
  rfl

/-- The list of names is cut into the names. -/
theorem splitAt_spacelessKeys (hp : parameters.WellFormed) :
    splitAt ':' (joinWith [':'] (spacelessKeys parameters)) = spacelessKeys parameters := by
  refine splitAt_joinWith (by simpa [spacelessKeys] using hp.keys_ne_nil) ?_
  intro piece m
  obtain ⟨name, mn, rfl⟩ := List.mem_map.mp m
  exact fun h => (notMem_of_isInvalidKey (hp.keys name mn)).1 (mem_withoutWhiteSpace.mp h).1

/-- **The tags of a finished signature say what was signed,** in this order and nothing else,
wherever lines were broken: each text that the signer was given without its white space, the hash of
the body, and what the key made of the digest.  The list of names is cut into one entry for each
name. -/
theorem readTags_finished (hnew : Signer.new parameters key = .ok signer)
    (before : List Bytes) (header : Header) (after : List Bytes)
    (hvalue : (signer.writeMessage before header after).finish = .ok value) :
    ∃ digest signature, (signer.writeMessage before header after).digest? = some digest ∧
      key.sign digest = .ok signature ∧
      readTags value =
        [("v", "1"), ("a", key.typeName ++ "-" ++ parameters.hash.name),
          ("c", parameters.headerMode.name ++ "/" ++ parameters.bodyMode.name),
          ("d", spaceless parameters.domain), ("s", spaceless parameters.selector),
          ("t", String.ofList (intDigits parameters.timestamp))] ++
        (parameters.expiration.map fun x => ("x", String.ofList (intDigits x))).toList ++
        (parameters.identifier.map fun i => ("i", quotedPrintable i)).toList ++
        [("h", String.ofList (joinWith [':'] (spacelessKeys parameters))),
          ("bh", base64
            (hashBody parameters.hash parameters.bodyMode (before ++ after).flatten)),
          ("b", base64 signature)] ∧
      splitAt ':' (joinWith [':'] (spacelessKeys parameters)) = spacelessKeys parameters := by
  obtain ⟨hp, digest, signature, hdigest, hsign, rfl⟩ := eq_of_finish hnew hvalue
  refine ⟨digest, signature, hdigest, hsign, ?_, splitAt_spacelessKeys hp⟩
  rw [readTags_signatureText hp (notMem_of_isTagChar (isTagChar_typeName key))
    (notMem_base64 _).1 (notMem_base64 signature).1, map_tagAsRead_statedTags]

end Finished

/-- All tags, the list of fields with a name that stands in it twice. -/
theorem readTags_finished_ed25519 :
    let key := SigningKey.ed25519 (List.replicate 32 7)
    let header := (Header.parse (utf8 "From: alice@example.org\r\nSubject: report\r\n\r\n")).1
    let before := [utf8 "Hello "]
    let after := [utf8 "both,\r", utf8 "\n\r\n"]
    ∃ signer value digest signature,
      Signer.new sampleParameters key = .ok signer ∧
      (signer.writeMessage before header after).finish = .ok value ∧
      (signer.writeMessage before header after).digest? = some digest ∧
      key.sign digest = .ok signature ∧
      readTags value = [("v", "1"), ("a", "ed25519-sha256"), ("c", "relaxed/simple"),
        ("d", "example.org"), ("s", "s1"), ("t", "1791194400"), ("x", "1791799200"),
        ("i", "alice@mail.example.org"), ("h", "Subject:Subject:From"),
        ("bh", base64 (hashBody .sha256 .simple (before ++ after).flatten)),
        ("b", base64 signature)] := by
  intro key header before after
  obtain ⟨digest, signature, hdigest, hsign, htags, -⟩ :=
    readTags_finished new_sampleParameters before header after rfl
  refine ⟨_, _, digest, signature, new_sampleParameters, rfl, hdigest, hsign, htags.trans ?_⟩
  rfl

/-! ### Line feeds in the list of fields -/

namespace FoldedText

/-- A tag is written behind what was written before. -/
theorem exists_addTag (f : FoldedText) (tag : List Char) :
    ∃ gap, (f.addTag tag).text = f.text ++ gap ++ tag := by
  unfold addTag
  split
  · exact ⟨[], by rw [List.append_nil]; rfl⟩
  · split
    · exact ⟨_, rfl⟩
    · exact ⟨_, rfl⟩

theorem prefix_addTag (f : FoldedText) (tag : List Char) : f.text <+: (f.addTag tag).text := by
  obtain ⟨gap, e⟩ := f.exists_addTag tag
  rw [e, List.append_assoc]
  exact List.prefix_append _ _

theorem suffix_addTag (f : FoldedText) (tag : List Char) : tag <:+ (f.addTag tag).text := by
  obtain ⟨gap, e⟩ := f.exists_addTag tag
  rw [e]
  exact List.suffix_append _ _

/-- A piece is written behind what was written before. -/
theorem exists_addPiece (f : FoldedText) (piece : List Char) :
    ∃ gap, (f.addPiece piece).text = f.text ++ gap ++ piece := by
  unfold addPiece
  split
  · exact ⟨_, rfl⟩
  · exact ⟨[], by rw [List.append_nil]; rfl⟩

theorem prefix_foldl_addPiece : ∀ (pieces : List (List Char)) (f : FoldedText),
    f.text <+: (pieces.foldl addPiece f).text
  | [], f => List.prefix_refl _
  | piece :: pieces, f => by
      obtain ⟨gap, e⟩ := f.exists_addPiece piece
      have hfirst : f.text <+: (f.addPiece piece).text := by
        rw [e, List.append_assoc]
        exact List.prefix_append _ _
      exact hfirst.trans (prefix_foldl_addPiece pieces _)

theorem infix_foldl_addPiece {piece : List Char} : ∀ {pieces : List (List Char)} (f : FoldedText),
    piece ∈ pieces → piece <:+: (pieces.foldl addPiece f).text
  | first :: pieces, f, h => by
      rcases List.mem_cons.mp h with rfl | h
      · obtain ⟨gap, e⟩ := f.exists_addPiece piece
        have hin : piece <:+: (f.addPiece piece).text := e ▸ (List.suffix_append _ _).isInfix
        exact hin.trans (prefix_foldl_addPiece pieces _).isInfix
      · exact infix_foldl_addPiece (f.addPiece first) h

/-- **Lines are broken between pieces only:** each piece of a list is written as it is. -/
theorem infix_addList {f : FoldedText} {tag piece : List Char} (h : piece ∈ splitAfter ':' tag) :
    piece <:+: (f.addList tag).text := by
  unfold addList
  split
  · next e =>
    rw [e] at h
    cases h
  · next first pieces e =>
    rw [e] at h
    rcases List.mem_cons.mp h with rfl | h
    · exact (f.suffix_addTag piece).isInfix.trans (prefix_foldl_addPiece pieces _).isInfix
    · exact infix_foldl_addPiece _ h

end FoldedText

/-- The list of fields as a tag. -/
def namesTag (parameters : Parameters) : List Char :=
  ['h', '='] ++ joinWith [':'] (parameters.headerKeys.map String.toList) ++ [';']

theorem infix_signatureText {parameters : Parameters} {piece : List Char}
    (h : piece ∈ splitAfter ':' (namesTag parameters)) (keyType bodyHash : String) :
    piece <:+: (signatureText parameters keyType bodyHash).toList := by
  have hlast : ∀ (f : FoldedText) (tag last : List Char),
      f.text <+: ((f.addTag tag).addTag last).text := fun f tag last =>
    (f.prefix_addTag tag).trans ((f.addTag tag).prefix_addTag last)
  rw [signatureText, String.toList_ofList]
  exact (FoldedText.infix_addList h).trans (hlast _ _ _).isInfix

/-- A line feed in a field name is followed by no blank, for no name holds one. -/
theorem exists_infix_namesTag {parameters : Parameters} (hp : parameters.WellFormed)
    {name : String} (hname : name ∈ parameters.headerKeys) (hlf : '\n' ∈ name.toList) :
    ∃ c, (c ≠ ' ' ∧ c ≠ '\t') ∧ ['\n', c] <:+: namesTag parameters := by
  have hinside : ∀ c ∈ name.toList, c ≠ ' ' ∧ c ≠ '\t' := fun c m =>
    (ne_of_isInvalidKey (hp.keys name hname) m).2.2
  obtain ⟨stop, hstop, hin⟩ := exists_infix_joinWith ':' ';'
    (List.mem_map_of_mem (f := String.toList) hname)
  have hin : name.toList ++ [stop] <:+: namesTag parameters := by
    rw [namesTag, List.append_assoc]
    exact hin.trans (List.suffix_append _ _).isInfix
  obtain ⟨above, below, e⟩ := List.append_of_mem hlf
  rw [e, List.append_assoc] at hin
  cases below with
  | nil =>
      -- the line feed ends the name: a colon or the semicolon of the tag is next
      refine ⟨stop, ?_, (List.suffix_append above _).isInfix.trans hin⟩
      rcases hstop with rfl | rfl <;> decide
  | cons c below =>
      have hpair : ['\n', c] <:+: above ++ ('\n' :: c :: below ++ [stop]) :=
        ⟨above, below ++ [stop], by simp⟩
      exact ⟨c, hinside c (by simp [e]), hpair.trans hin⟩

/-- A value with a line feed and no blank behind it cannot be read back. -/
theorem not_isWireValue {name value : String} {c : Char} (hc : c ≠ ' ' ∧ c ≠ '\t')
    (h : ['\n', c] <:+: value.toList) : ¬ IsWireValue (Field.new name value).raw := by
  intro hw
  obtain ⟨above, below, e⟩ := h
  have hraw : (Field.new name value).raw = (Octet.space :: utf8Chars above) ++
      Octet.lf :: (String.utf8EncodeChar c ++ utf8Chars below) := by
    rw [Field.new, utf8, ← e, utf8Chars_append, utf8Chars_append]
    simp [utf8Chars, String.utf8EncodeChar, Octet.lf]
  obtain ⟨-, b, rest, hafter, hb⟩ := hw _ _ hraw
  have hfirst : b ∈ (utf8Chars (c :: below)).head? := by
    rw [utf8Chars, List.flatMap_cons, ← utf8Chars, hafter]
    rfl
  obtain ⟨d, hd, hmem⟩ := exists_of_head?_utf8Chars hfirst
  obtain rfl : c = d := Option.some.inj hd
  rcases hb with rfl | rfl
  · exact hc.1 (eq_of_mem_utf8EncodeChar (n := 32) (by decide) hmem)
  · exact hc.2 (eq_of_mem_utf8EncodeChar (n := 9) (by decide) hmem)

/-! ### The field -/

section Field

variable {parameters : Parameters} {key : SigningKey} {signer : Signer} {before after : List Bytes}
  {header : Header} {value : String}

theorem writable_finished (hnew : Signer.new parameters key = .ok signer)
    (hvalue : (signer.writeMessage before header after).finish = .ok value)
    (hnames : ∀ name ∈ parameters.headerKeys, '\n' ∉ name.toList) :
    (Field.new signatureField value).Writable := by
  obtain ⟨hp, digest, signature, -, -, rfl⟩ := eq_of_finish hnew hvalue
  exact writable_signatureText hp hnames key _ signature

/-- A line feed in a field name breaks the signature field. -/
theorem lf_notMem_of_read_back (hnew : Signer.new parameters key = .ok signer)
    (before : List Bytes) (header : Header) (after : List Bytes)
    (hvalue : (signer.writeMessage before header after).finish = .ok value)
    (hread : (Header.parse (header.add signatureField value).toBytes).1 =
      header.add signatureField value) :
    ∀ name ∈ parameters.headerKeys, '\n' ∉ name.toList := by
  intro name hname hlf
  have hmem : Field.new signatureField value ∈
      (Header.parse (header.add signatureField value).toBytes).1.fields := by
    rw [hread]
    exact List.mem_cons_self
  have hwire : IsWireValue (Field.new signatureField value).raw :=
    .of_folded (writable_of_mem_parse hmem).value
  obtain ⟨hp, digest, signature, -, -, rfl⟩ := eq_of_finish hnew hvalue
  obtain ⟨c, hc, hin⟩ := exists_infix_namesTag hp hname hlf
  have hcolon : '\n' ≠ ':' := by decide
  obtain ⟨piece, m, hpiece⟩ := exists_infix_splitAfter hcolon hin
  refine not_isWireValue hc ?_ hwire
  rw [String.toList_append]
  exact (hpiece.trans (infix_signatureText m _ _)).trans (List.prefix_append _ _).isInfix

/-- **A finished signature makes one field that is read back,** on top of any header that was read,
if and only if no name in its list of fields holds a line feed. -/
theorem finished_read_back (hnew : Signer.new parameters key = .ok signer) (raw : Bytes)
    (before after : List Bytes)
    (hvalue : (signer.writeMessage before (Header.parse raw).1 after).finish = .ok value) :
    let signed := (Header.parse raw).1.add signatureField value
    ((Header.parse signed.toBytes).1 = signed ∧
      Header.parseOffset signed.toBytes = signed.toBytes.length) ↔
        ∀ name ∈ parameters.headerKeys, '\n' ∉ name.toList := by
  intro signed
  constructor
  · exact fun h => lf_notMem_of_read_back hnew before _ after hvalue h.1
  · intro hnames
    have hw : ∀ f ∈ signed.fields, f.Writable := by
      intro f m
      rcases List.mem_cons.mp m with rfl | m
      · exact writable_finished hnew hvalue hnames
      · exact writable_of_mem_parse m
    have e := parse_toBytes hw []
    have hoffset := Header.parseOffset_of_parse e
    rw [List.append_nil] at e hoffset
    exact ⟨congrArg Prod.fst e, hoffset⟩

end Field

/-- A signature with every tag on top of a folded subject. -/
theorem finished_read_back_ed25519 :
    let raw := utf8 "From: alice@example.org\r\nSubject: Quarterly\r\n  report\r\n\r\nHello"
    ∃ signer value,
      Signer.new sampleParameters (.ed25519 (List.replicate 32 7)) = .ok signer ∧
      (signer.writeMessage [] (Header.parse raw).1 [utf8 "Hello"]).finish = .ok value ∧
      let signed := (Header.parse raw).1.add signatureField value
      (Header.parse signed.toBytes).1 = signed ∧
        Header.parseOffset signed.toBytes = signed.toBytes.length := by
  intro raw
  have hnames : ∀ name ∈ sampleParameters.headerKeys, '\n' ∉ name.toList := by decide
  refine ⟨_, _, new_sampleParameters, rfl, ?_⟩
  exact (finished_read_back new_sampleParameters raw [] [utf8 "Hello"] rfl).mpr hnames

/-- A field name with a line feed is accepted, and the signature falls apart. -/
theorem finished_lost :
    let parameters := { sampleParameters with headerKeys := ["From", "X\nY"] }
    let header := (Header.parse (utf8 "From: alice@example.org\r\n\r\n")).1
    ∃ signer value, Signer.new parameters (.ed25519 (List.replicate 32 7)) = .ok signer ∧
      (signer.writeMessage [] header [utf8 "Hello"]).finish = .ok value ∧
      (Header.parse (header.add signatureField value).toBytes).1 ≠
        header.add signatureField value := by
  intro parameters header
  have hcheck : parameters.check (.ed25519 (List.replicate 32 7)) = .ok () := by decide +kernel
  have hnew : Signer.new parameters (.ed25519 (List.replicate 32 7)) =
      .ok ⟨parameters, .ed25519 (List.replicate 32 7), none, BodyHash.start .simple⟩ := by
    rw [Signer.new, Parameters.validate, hcheck]
    rfl
  have hname : "X\nY" ∈ parameters.headerKeys := by decide
  have hlf : '\n' ∈ "X\nY".toList := by decide
  refine ⟨_, _, hnew, rfl, fun hread => ?_⟩
  exact lf_notMem_of_read_back hnew [] header [utf8 "Hello"] rfl hread _ hname hlf

end Mailroom.Dkim
