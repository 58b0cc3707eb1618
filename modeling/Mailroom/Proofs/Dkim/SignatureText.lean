import Mailroom.Dkim.Signature
import Mailroom.Proofs.Dkim.TagList
import Mailroom.Proofs.Header.RoundTrip

/-! # What a signature field says

Folding puts spaces and line breaks between the parts of a text and changes nothing else
(`FoldedText.Holds`).  Hence the value of a signature field is the list of the tags that the
signer means (`statedTags`), it is read back as that list (`readTags_signatureText`), and it is a
value that a header can hold (`foldedValue_signatureText`). -/

namespace Mailroom.Dkim

/-! ### Accepted parameters -/

/-- What the check of the parameters promises about the texts of the tags. -/
structure Parameters.WellFormed (parameters : Parameters) : Prop where
  domain : breaksTag parameters.domain = false
  selector : breaksTag parameters.selector = false
  keys_ne_nil : parameters.headerKeys ≠ []
  keys : ∀ name ∈ parameters.headerKeys, isInvalidKey name = false

theorem breaksTag_of_checkTagText {what value : String} (h : checkTagText what value = .ok ()) :
    breaksTag value = false := by
  unfold checkTagText at h
  split at h
  · cases h
  · split at h
    · cases h
    · next hb => exact Bool.eq_false_iff.mpr hb

theorem isInvalidKey_of_checkKeys {keys : List String} (h : checkKeys keys = .ok ()) :
    keys ≠ [] ∧ ∀ name ∈ keys, isInvalidKey name = false := by
  unfold checkKeys at h
  split at h
  · cases h
  · next hne =>
    refine ⟨by simpa using hne, ?_⟩
    split at h
    · cases h
    · next hfind =>
      intro name m
      exact Bool.eq_false_iff.mpr (List.find?_eq_none.mp hfind name m)

theorem bind_eq_ok {ε α β : Type} {x : Except ε α} {f : α → Except ε β} {b : β}
    (h : (x >>= f) = .ok b) : ∃ a, x = .ok a ∧ f a = .ok b := by
  cases x with
  | error e => cases h
  | ok a => exact ⟨a, rfl, h⟩

theorem bind_eq_ok_iff {ε β : Type} {x : Except ε Unit} {f : Unit → Except ε β} {b : β} :
    (x >>= f) = .ok b ↔ x = .ok () ∧ f () = .ok b := by
  refine ⟨fun h => ?_, fun ⟨hx, hf⟩ => by rw [hx]; exact hf⟩
  obtain ⟨_, hx, hf⟩ := bind_eq_ok h
  exact ⟨hx, hf⟩

/-- The checks that parameters have to pass. -/
structure Parameters.Accepted (parameters : Parameters) (key : SigningKey) : Prop where
  domain : checkTagText "domain" parameters.domain = .ok ()
  selector : checkTagText "selector" parameters.selector = .ok ()
  identifier : ∀ identifier, parameters.identifier = some identifier →
    checkIdentifier identifier parameters.domain = .ok ()
  keys : checkKeys parameters.headerKeys = .ok ()
  expiration : checkExpiration parameters.timestamp parameters.expiration = .ok ()
  hash : key.supports parameters.hash = true

/-- **Parameters are accepted if they pass every check,** and only then. -/
theorem Parameters.check_eq_ok_iff {parameters : Parameters} {key : SigningKey} :
    parameters.check key = .ok () ↔ parameters.Accepted key := by
  have hhash : ∀ fault : ParameterFault,
      (if key.supports parameters.hash then pure () else throw fault : Except ParameterFault Unit) =
        .ok () ↔ key.supports parameters.hash = true := by
    intro fault
    split
    · next h => exact ⟨fun _ => h, fun _ => rfl⟩
    · next h => exact ⟨nofun, fun h' => absurd h' h⟩
  unfold Parameters.check
  rw [bind_eq_ok_iff, bind_eq_ok_iff]
  cases hi : parameters.identifier with
  | none =>
      dsimp only
      rw [bind_eq_ok_iff, bind_eq_ok_iff, hhash]
      constructor
      · rintro ⟨hdomain, hselector, hkeys, hexpiration, hh⟩
        exact ⟨hdomain, hselector, fun _ e => (nomatch hi.symm.trans e), hkeys, hexpiration, hh⟩
      · rintro ⟨hdomain, hselector, -, hkeys, hexpiration, hh⟩
        exact ⟨hdomain, hselector, hkeys, hexpiration, hh⟩
  | some identifier =>
      dsimp only
      rw [bind_eq_ok_iff, bind_eq_ok_iff, bind_eq_ok_iff, hhash]
      constructor
      · rintro ⟨hdomain, hselector, hidentifier, hkeys, hexpiration, hh⟩
        refine ⟨hdomain, hselector, fun other e => ?_, hkeys, hexpiration, hh⟩
        obtain rfl := Option.some.inj (hi.symm.trans e)
        exact hidentifier
      · rintro ⟨hdomain, hselector, hidentifier, hkeys, hexpiration, hh⟩
        exact ⟨hdomain, hselector, hidentifier identifier hi, hkeys, hexpiration, hh⟩

theorem Parameters.validate_eq_ok_iff {parameters : Parameters} {key : SigningKey} :
    parameters.validate key = .ok () ↔ parameters.Accepted key := by
  rw [← check_eq_ok_iff, validate]
  cases parameters.check key with
  | ok _ => exact ⟨fun _ => rfl, fun _ => rfl⟩
  | error fault => exact ⟨nofun, nofun⟩

/-- **Accepted parameters are well-formed.** -/
theorem Parameters.Accepted.wellFormed {parameters : Parameters} {key : SigningKey}
    (h : parameters.Accepted key) : parameters.WellFormed := by
  have hkeys := isInvalidKey_of_checkKeys h.keys
  exact ⟨breaksTag_of_checkTagText h.domain, breaksTag_of_checkTagText h.selector, hkeys.1, hkeys.2⟩

theorem Parameters.wellFormed_of_validate {parameters : Parameters} {key : SigningKey}
    (h : parameters.validate key = .ok ()) : parameters.WellFormed :=
  (validate_eq_ok_iff.mp h).wellFormed

theorem notMem_of_breaksTag {value : String} (h : breaksTag value = false) :
    ';' ∉ value.toList ∧ '\n' ∉ value.toList := by
  have hall := List.any_eq_false.mp h
  exact ⟨fun m => hall _ m (by decide), fun m => hall _ m (by decide)⟩

theorem notMem_of_isInvalidKey {name : String} (h : isInvalidKey name = false) :
    ':' ∉ name.toList ∧ ';' ∉ name.toList :=
  ⟨fun m => (ne_of_isInvalidKey h m).1 rfl, fun m => (ne_of_isInvalidKey h m).2.1 rfl⟩

/-! ### Folding -/

/-- A folded text holds another one if it is that text with spaces and line breaks put in. -/
inductive FoldedText.Holds : FoldedText → List Char → Prop
  | start : Holds start []
  | write {f : FoldedText} {text : List Char} (more : List Char) :
      Holds f text → Holds (f.write more) (text ++ more)
  | space {f : FoldedText} {text : List Char} : Holds f text → Holds (f.write [' ']) text
  | breakLine {f : FoldedText} {text : List Char} : Holds f text → Holds f.breakLine text

namespace FoldedText.Holds

variable {f : FoldedText} {text : List Char}

theorem addTag (h : f.Holds text) (tag : List Char) : (f.addTag tag).Holds (text ++ tag) := by
  unfold FoldedText.addTag
  split
  · exact h.write tag
  · split
    · exact h.breakLine.write tag
    · exact h.space.write tag

theorem addPiece (h : f.Holds text) (piece : List Char) :
    (f.addPiece piece).Holds (text ++ piece) := by
  unfold FoldedText.addPiece
  split
  · exact h.breakLine.write piece
  · exact h.write piece

theorem foldl_addPiece : ∀ {f : FoldedText} {text : List Char} (_ : f.Holds text)
    (pieces : List (List Char)), (pieces.foldl FoldedText.addPiece f).Holds (text ++ pieces.flatten)
  | _, _, h, [] => by simpa using h
  | _, _, h, piece :: pieces => by
      have := foldl_addPiece (h.addPiece piece) pieces
      rwa [List.append_assoc, ← List.flatten_cons] at this

theorem addList (h : f.Holds text) (tag : List Char) : (f.addList tag).Holds (text ++ tag) := by
  have e := flatten_splitAfter ':' tag
  unfold FoldedText.addList
  split
  · next hs =>
    rw [hs] at e
    rw [← e]
    simpa using h
  · next first pieces hs =>
    have := foldl_addPiece (h.addTag first) pieces
    rwa [List.append_assoc, ← List.flatten_cons, ← hs, e] at this

theorem foldl_addTag :
    ∀ {f : FoldedText} {text : List Char} (_ : f.Holds text) (tags : List String),
    (tags.foldl (fun f tag => f.addTag (tag.toList ++ [';'])) f).Holds
      (text ++ tags.flatMap fun tag => tag.toList ++ [';'])
  | _, _, h, [] => by simpa using h
  | _, _, h, tag :: tags => by
      rw [List.flatMap_cons, ← List.append_assoc]
      exact foldl_addTag (h.addTag (tag.toList ++ [';'])) tags

/-- Folding puts nothing but white space in. -/
theorem withoutWhiteSpace_eq (h : f.Holds text) :
    withoutWhiteSpace f.text = withoutWhiteSpace text := by
  induction h with
  | start => rfl
  | @write f text more _ ih =>
      show withoutWhiteSpace (f.text ++ more) = _
      rw [withoutWhiteSpace_append, withoutWhiteSpace_append, ih]
  | @space f text _ ih =>
      show withoutWhiteSpace (f.text ++ [' ']) = _
      rw [withoutWhiteSpace_append, ih]
      exact List.append_nil _
  | @breakLine f text _ ih =>
      show withoutWhiteSpace (f.text ++ ['\r', '\n', ' ']) = _
      rw [withoutWhiteSpace_append, ih]
      exact List.append_nil _

/-- A text on one line is folded into a value that a header can hold. -/
theorem foldedValue (h : f.Holds text) (hlf : '\n' ∉ text) :
    FoldedValue (Octet.space :: utf8Chars f.text) := by
  induction h with
  | start => exact .line (by decide)
  | @write f text more _ ih =>
      rw [List.mem_append, not_or] at hlf
      show FoldedValue (Octet.space :: utf8Chars (f.text ++ more))
      rw [utf8Chars_append]
      exact (ih hlf.1).append (lf_notMem_utf8Chars hlf.2)
  | @space f text _ ih =>
      show FoldedValue (Octet.space :: utf8Chars (f.text ++ [' ']))
      rw [utf8Chars_append]
      exact (ih hlf).append (by decide)
  | @breakLine f text _ ih =>
      show FoldedValue (Octet.space :: utf8Chars (f.text ++ ['\r', '\n', ' ']))
      rw [utf8Chars_append]
      have hblank : isContinuation [Octet.space] = true := rfl
      have := (ih hlf).fold hblank (by decide)
      rwa [List.append_assoc] at this

end FoldedText.Holds

/-! ### The tags of a signature -/

/-- The tags that a signature states in front of the signature itself, in their order. -/
def statedTags (parameters : Parameters) (keyType bodyHash : String) : List (String × String) :=
  [("v", "1"), ("a", keyType ++ "-" ++ parameters.hash.name),
    ("c", parameters.headerMode.name ++ "/" ++ parameters.bodyMode.name),
    ("d", parameters.domain), ("s", parameters.selector),
    ("t", String.ofList (intDigits parameters.timestamp))] ++
  (parameters.expiration.map fun x => ("x", String.ofList (intDigits x))).toList ++
  (parameters.identifier.map fun i => ("i", quotedPrintable i)).toList ++
  [("h", String.ofList (joinWith [':'] (parameters.headerKeys.map String.toList))),
    ("bh", bodyHash)]

/-- The stated tags are the leading tags, the list of fields and the hash of the body. -/
theorem flatMap_statedTags (parameters : Parameters) (keyType bodyHash : String) :
    (statedTags parameters keyType bodyHash).flatMap (fun tag => tagText tag ++ [';']) =
      ((leadingTags parameters keyType).flatMap fun tag => tag.toList ++ [';']) ++
        (['h', '='] ++ joinWith [':'] (parameters.headerKeys.map String.toList) ++ [';']) ++
        (['b', 'h', '='] ++ bodyHash.toList ++ [';']) := by
  unfold statedTags leadingTags
  cases parameters.expiration <;> cases parameters.identifier <;> simp [tagText]

/-- The signature field holds the stated tags and an empty signature, folded. -/
theorem exists_holds_signatureText (parameters : Parameters) (keyType bodyHash : String) :
    ∃ f : FoldedText, signatureText parameters keyType bodyHash = String.ofList f.text ∧
      f.Holds ((statedTags parameters keyType bodyHash).flatMap (fun tag => tagText tag ++ [';']) ++
        ['b', '=']) := by
  have h := (((FoldedText.Holds.start.foldl_addTag (leadingTags parameters keyType)).addList
    (['h', '='] ++ joinWith [':'] (parameters.headerKeys.map String.toList) ++ [';'])).addTag
    (['b', 'h', '='] ++ bodyHash.toList ++ [';'])).addTag ['b', '=']
  refine ⟨_, rfl, ?_⟩
  rw [flatMap_statedTags]
  exact h

theorem name_of_mem_statedTags {parameters : Parameters} {keyType bodyHash : String}
    {tag : String × String} (h : tag ∈ statedTags parameters keyType bodyHash) :
    ∀ c ∈ tag.1.toList, IsTagChar c ∧ c ≠ '=' := by
  have hname : tag.1 ∈ ["v", "a", "c", "d", "s", "t", "x", "i", "h", "bh"] := by
    simp only [statedTags, List.mem_append, List.mem_cons, List.not_mem_nil, or_false,
      Option.mem_toList, Option.map_eq_some_iff] at h
    rcases h with
      (((rfl | rfl | rfl | rfl | rfl | rfl) | ⟨x, -, rfl⟩) | ⟨i, -, rfl⟩) | rfl | rfl <;> simp
  have hall : ∀ name ∈ ["v", "a", "c", "d", "s", "t", "x", "i", "h", "bh"],
      areTagChars name.toList = true ∧ name.toList.contains '=' = false := by decide
  obtain ⟨hchars, hequals⟩ := hall tag.1 hname
  refine fun c m => ⟨areTagChars_iff.mp hchars c m, ?_⟩
  rintro rfl
  rw [List.contains_iff_mem.mpr m] at hequals
  cases hequals

/-- A character that ends a tag or a line stands in no value, unless it stands in a text that the
signer was given. -/
theorem notMem_of_mem_statedTags {c : Char} (hc : ¬IsTagChar c) {parameters : Parameters}
    (hdomain : c ∉ parameters.domain.toList) (hselector : c ∉ parameters.selector.toList)
    (hnames : ∀ name ∈ parameters.headerKeys, c ∉ name.toList) {keyType bodyHash : String}
    (hkey : c ∉ keyType.toList) (hbody : c ∉ bodyHash.toList) {tag : String × String}
    (h : tag ∈ statedTags parameters keyType bodyHash) : c ∉ tag.2.toList := by
  have hfixed : ∀ {text : List Char}, areTagChars text = true → c ∉ text := fun h m =>
    hc (areTagChars_iff.mp h c m)
  have hhash : ∀ hash : HashAlgorithm, c ∉ hash.name.toList := fun hash =>
    hfixed (by cases hash; decide)
  have hmode : ∀ mode : Canonicalization, c ∉ mode.name.toList := fun mode =>
    hfixed (by cases mode <;> decide)
  have hlist : c ∉ joinWith [':'] (parameters.headerKeys.map String.toList) := by
    intro m
    rcases mem_joinWith m with m | ⟨piece, mp, m⟩
    · exact hfixed (by decide) m
    · obtain ⟨name, mn, rfl⟩ := List.mem_map.mp mp
      exact hnames name mn m
  have htime : ∀ x : Int, c ∉ intDigits x := fun x m => hc (isTagChar_of_mem_intDigits m)
  simp only [statedTags, List.mem_append, List.mem_cons, List.not_mem_nil, or_false,
    Option.mem_toList, Option.map_eq_some_iff] at h
  rcases h with (((rfl | rfl | rfl | rfl | rfl | rfl) | ⟨x, -, rfl⟩) | ⟨i, -, rfl⟩) | rfl | rfl
  · exact hfixed (by decide)
  · have hdash : c ∉ "-".toList := hfixed (by decide)
    simp only [String.toList_append, List.mem_append, not_or]
    exact ⟨⟨hkey, hdash⟩, hhash _⟩
  · have hslash : c ∉ "/".toList := hfixed (by decide)
    simp only [String.toList_append, List.mem_append, not_or]
    exact ⟨⟨hmode _, hslash⟩, hmode _⟩
  · exact hdomain
  · exact hselector
  · rw [String.toList_ofList]
    exact htime _
  · rw [String.toList_ofList]
    exact htime x
  · exact fun m => hc (isTagChar_of_mem_quotedPrintable m)
  · rw [String.toList_ofList]
    exact hlist
  · exact hbody

/-- Nor does it stand in the tags as they are written. -/
theorem notMem_flatMap_statedTags {c : Char} (hc : ¬IsTagChar c) (hsemicolon : c ≠ ';')
    {parameters : Parameters} (hdomain : c ∉ parameters.domain.toList)
    (hselector : c ∉ parameters.selector.toList)
    (hnames : ∀ name ∈ parameters.headerKeys, c ∉ name.toList) {keyType bodyHash : String}
    (hkey : c ∉ keyType.toList) (hbody : c ∉ bodyHash.toList) :
    c ∉ (statedTags parameters keyType bodyHash).flatMap (fun tag => tagText tag ++ [';']) := by
  intro m
  obtain ⟨tag, mt, m⟩ := List.mem_flatMap.mp m
  simp only [tagText, List.mem_append, List.mem_cons, List.not_mem_nil, or_false] at m
  rcases m with (m | rfl | m) | m
  · exact hc (name_of_mem_statedTags mt c m).1
  · exact hc (by decide)
  · exact notMem_of_mem_statedTags hc hdomain hselector hnames hkey hbody mt m
  · exact hsemicolon m

theorem isTag_of_mem_statedTags {parameters : Parameters} (hp : parameters.WellFormed)
    {keyType bodyHash : String} (hkey : ';' ∉ keyType.toList) (hbody : ';' ∉ bodyHash.toList)
    {tag : String × String} (h : tag ∈ statedTags parameters keyType bodyHash) : IsTag tag := by
  have hname := name_of_mem_statedTags h
  refine ⟨fun c m => (hname c m).1, fun m => (hname '=' m).2 rfl, ?_⟩
  exact notMem_of_mem_statedTags (by decide) (notMem_of_breaksTag hp.domain).1
    (notMem_of_breaksTag hp.selector).1 (fun name m => (notMem_of_isInvalidKey (hp.keys name m)).2)
    hkey hbody h

/-- **The stated tags and the signature are read back.** -/
theorem readTags_signatureText {parameters : Parameters} (hp : parameters.WellFormed)
    {keyType bodyHash signature : String} (hkey : ';' ∉ keyType.toList)
    (hbody : ';' ∉ bodyHash.toList) (hsign : ';' ∉ signature.toList) :
    readTags (signatureText parameters keyType bodyHash ++ signature) =
      (statedTags parameters keyType bodyHash ++ [("b", signature)]).map tagAsRead := by
  obtain ⟨f, e, h⟩ := exists_holds_signatureText parameters keyType bodyHash
  refine readTags_of_tagTexts ?_ ?_
  · intro tag m
    rcases List.mem_append.mp m with m | m
    · exact isTag_of_mem_statedTags hp hkey hbody m
    · obtain rfl := List.mem_singleton.mp m
      have hname : areTagChars "b".toList = true := by decide
      have hequals : '=' ∉ "b".toList := by decide
      exact ⟨areTagChars_iff.mp hname, hequals, hsign⟩
  · have htext : tagText ("b", signature) = ['b', '='] ++ signature.toList := by simp [tagText]
    rw [e, String.toList_append, String.toList_ofList, htext, withoutWhiteSpace_append,
      h.withoutWhiteSpace_eq, ← withoutWhiteSpace_append, List.append_assoc]

/-- A reader of the field sees the tags of its value: the octets are those of the value after one
space, and trimming takes white space only. -/
theorem readTags_value_new (name value : String) :
    readTags (Field.new name value).value = readTags value := by
  have e : decodeLossyChars (Field.new name value).raw = ' ' :: value.toList :=
    decodeLossyChars_utf8Chars (' ' :: value.toList)
  rw [readTags_eq, Field.value, String.toList_ofList, withoutWhiteSpace_trimChars, e, readTags_eq]
  rfl

/-- **A header can hold a signature field** whose field names have no line feed. -/
theorem foldedValue_signatureText {parameters : Parameters} (hp : parameters.WellFormed)
    (hnames : ∀ name ∈ parameters.headerKeys, '\n' ∉ name.toList)
    {keyType bodyHash signature : String}
    (hkey : '\n' ∉ keyType.toList) (hbody : '\n' ∉ bodyHash.toList)
    (hsign : '\n' ∉ signature.toList) :
    FoldedValue (Field.new signatureField
      (signatureText parameters keyType bodyHash ++ signature)).raw := by
  obtain ⟨f, e, h⟩ := exists_holds_signatureText parameters keyType bodyHash
  have hlf : '\n' ∉
      (statedTags parameters keyType bodyHash).flatMap (fun tag => tagText tag ++ [';']) ++
      ['b', '='] := by
    rw [List.mem_append, not_or]
    exact ⟨notMem_flatMap_statedTags (by decide) (by decide) (notMem_of_breaksTag hp.domain).2
      (notMem_of_breaksTag hp.selector).2 hnames hkey hbody, by decide⟩
  have htext : utf8 (signatureText parameters keyType bodyHash ++ signature) =
      utf8Chars f.text ++ utf8Chars signature.toList := by
    rw [e, utf8, String.toList_append, String.toList_ofList, utf8Chars_append]
  show FoldedValue (Octet.space :: utf8 (signatureText parameters keyType bodyHash ++ signature))
  rw [htext]
  exact (h.foldedValue hlf).append (lf_notMem_utf8Chars hsign)

end Mailroom.Dkim
