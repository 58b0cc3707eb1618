import Mailroom.Dkim.Signing
import Mailroom.Proofs.Dkim.SignatureText
import Mailroom.Proofs.Encoding.Base64

/-! # A verifier agrees with the signer

A verifier has the octets of a message and nothing else.  `examine` is its work up to the public
key: it reads the top field of the message as a signature (`readSignature`), hashes the body, and
computes the digest that the signature covers.  If a signer completed a signature and the field
stands on top of the message, the verifier finds the body hash that the field states and the very
digest that was signed (`examine_signed`). -/

namespace Mailroom.Dkim

/-! ### The verifier -/

/-- What a verifier reads in a signature field. -/
structure SignatureReading where
  headerMode : Canonicalization
  bodyMode : Canonicalization
  names : List String
  bodyHash : Bytes
  signature : Bytes
  /-- The field with an empty signature. -/
  unsigned : Field

/-- What a verifier of a message has to compare. -/
structure Findings where
  /-- The body hash that the signature states. -/
  statedBodyHash : Bytes
  /-- The body hash of the message. -/
  bodyHash : Bytes
  signature : Bytes
  /-- The digest that the signature has to fit. -/
  digest : Bytes

/-- The canonicalizations of header and body, with a slash between their names. -/
def readModes (text : String) : Option (Canonicalization × Canonicalization) := do
  let (header, body) ← cutFirst '/' text.toList
  return (← (Canonicalization.parse (String.ofList header)).toOption,
    ← (Canonicalization.parse (String.ofList body)).toOption)

/-- The octets in front of a text in which they end. -/
def beforeSuffix? (tail bytes : Bytes) : Option Bytes :=
  if tail.isSuffixOf bytes then some (bytes.take (bytes.length - tail.length)) else none

/-- Reads a signature field. -/
def readSignature (field : Field) : Option SignatureReading := do
  guard (field.isNamed signatureField)
  let tags := readTags field.value
  let (headerMode, bodyMode) ← readModes (← tag? tags "c")
  let names := (splitAt ':' (← tag? tags "h").toList).map String.ofList
  let bodyHash ← unbase64? (← tag? tags "bh").toList
  let text ← tag? tags "b"
  let signature ← unbase64? text.toList
  let raw ← beforeSuffix? (utf8 text) field.raw
  return ⟨headerMode, bodyMode, names, bodyHash, signature, ⟨field.name, raw⟩⟩

/-- The hash of a whole body. -/
def hashBody (algorithm : HashAlgorithm) (mode : Canonicalization) (body : Bytes) : Bytes :=
  ((BodyHash.start mode : BodyHash algorithm).update body).finish

/-- Reads a message with a signature on top and computes what the signature is about. -/
def examine (algorithm : HashAlgorithm) (message : Bytes) : Option Findings :=
  let (header, body) := Header.parse message
  match header.fields with
  | [] => none
  | field :: below =>
    (readSignature field).map fun s =>
      let octets := s.headerMode.fields (pickFields ⟨below⟩ s.names) ++
        s.headerMode.fieldText s.unsigned
      ⟨s.bodyHash, hashBody algorithm s.bodyMode body, s.signature, algorithm.digest octets⟩

/-! ### The signer -/

namespace Signer

/-- The value of the signature field in front of the signature. -/
def unsigned (s : Signer) : String :=
  signatureText s.parameters s.key.typeName (base64 s.body.finish)

/-- The digest that is given to the key. -/
def digest? (s : Signer) : Option Bytes :=
  s.header?.map fun header => headerDigest s.parameters header s.unsigned

/-- **What a completed signature is:** the key signed the digest. -/
theorem finish_eq_ok_iff {s : Signer} {value : String} :
    s.finish = .ok value ↔ ∃ digest signature, s.digest? = some digest ∧
      s.key.sign digest = .ok signature ∧ value = s.unsigned ++ base64 signature := by
  cases hh : s.header? with
  | none => simp [finish, digest?, hh]
  | some header =>
      cases hs : s.key.sign (headerDigest s.parameters header s.unsigned) with
      | error failure =>
          have e : s.finish = .error failure := by
            rw [finish, hh]
            dsimp only
            rw [← unsigned, hs]
          simp [e, digest?, hh, hs]
      | ok signature =>
          have e : s.finish = .ok (s.unsigned ++ base64 signature) := by
            rw [finish, hh]
            dsimp only
            rw [← unsigned, hs]
          simp [e, digest?, hh, hs, eq_comm]

theorem new_eq_ok {parameters : Parameters} {key : SigningKey} {s : Signer}
    (h : Signer.new parameters key = .ok s) :
    parameters.WellFormed ∧ s = ⟨parameters, key, none, BodyHash.start parameters.bodyMode⟩ := by
  unfold Signer.new at h
  cases hv : parameters.validate key with
  | error failure => rw [hv] at h; cases h
  | ok _ =>
      rw [hv] at h
      cases h
      exact ⟨Parameters.wellFormed_of_validate hv, rfl⟩

end Signer

theorem BodyHash.update_append {algorithm : HashAlgorithm} (h : BodyHash algorithm)
    (chunk more : Bytes) : h.update (chunk ++ more) = (h.update chunk).update more :=
  List.foldl_append

namespace Signer

/-- Chunks of the body count as one chunk. -/
theorem foldl_write : ∀ (s : Signer) (chunks : List Bytes),
    chunks.foldl write s = { s with body := s.body.update chunks.flatten }
  | _, [] => rfl
  | s, chunk :: chunks => by
      rw [List.foldl_cons, foldl_write (s.write chunk) chunks, List.flatten_cons,
        BodyHash.update_append]
      rfl

/-- Takes a message: chunks of its body, its header, and the other chunks. -/
def writeMessage (s : Signer) (before : List Bytes) (header : Header) (after : List Bytes) :
    Signer :=
  after.foldl write ((before.foldl write s).writeHeader header)

theorem writeMessage_eq (s : Signer) (before : List Bytes) (header : Header) (after : List Bytes) :
    s.writeMessage before header after =
      ⟨s.parameters, s.key, some header, s.body.update (before ++ after).flatten⟩ := by
  rw [writeMessage, foldl_write, foldl_write, List.flatten_append, BodyHash.update_append]
  rfl

end Signer

/-! ### Reading what the signer wrote -/

theorem readModes_name (header body : Canonicalization) :
    readModes (header.name ++ "/" ++ body.name) = some (header, body) := by
  cases header <;> cases body <;> rfl

theorem beforeSuffix?_append (bytes tail : Bytes) :
    beforeSuffix? tail (bytes ++ tail) = some bytes := by
  simp [beforeSuffix?]

/-- Names that can be read in a list of fields: printable ASCII. -/
def Parameters.PrintableKeys (parameters : Parameters) : Prop :=
  ∀ name ∈ parameters.headerKeys, ∀ c ∈ name.toList, 0x20 ≤ c.toNat ∧ c.toNat ≤ 0x7E

theorem printableKeys_of_all {parameters : Parameters}
    (h : (parameters.headerKeys.all fun name =>
      name.toList.all fun c => decide (0x20 ≤ c.toNat ∧ c.toNat ≤ 0x7E)) = true) :
    parameters.PrintableKeys := by
  intro name hname c hc
  exact of_decide_eq_true (List.all_eq_true.mp (List.all_eq_true.mp h name hname) c hc)

theorem isTagChar_of_mem_key {parameters : Parameters} (hp : parameters.WellFormed)
    (hprint : parameters.PrintableKeys) {name : String} (hname : name ∈ parameters.headerKeys) :
    ∀ c ∈ name.toList, IsTagChar c := by
  intro c hc
  obtain ⟨-, hsemicolon, hspace, -⟩ := ne_of_isInvalidKey (hp.keys name hname) hc
  have hrange := hprint name hname c hc
  have hne : c.toNat ≠ 0x20 := fun e => hspace (Char.toNat_inj.mp e)
  exact ⟨by omega, hrange.2, hsemicolon⟩

/-- The list of names has no white space and is cut into the names. -/
theorem splitAt_joined_keys {parameters : Parameters} (hp : parameters.WellFormed)
    (hprint : parameters.PrintableKeys) :
    (splitAt ':' (withoutWhiteSpace
      (joinWith [':'] (parameters.headerKeys.map String.toList)))).map String.ofList =
        parameters.headerKeys := by
  have hchar : ∀ c ∈ joinWith [':'] (parameters.headerKeys.map String.toList), IsTagChar c := by
    intro c m
    rcases mem_joinWith m with m | ⟨piece, mp, m⟩
    · obtain rfl := List.mem_singleton.mp m
      decide
    · obtain ⟨name, mn, rfl⟩ := List.mem_map.mp mp
      exact isTagChar_of_mem_key hp hprint mn c m
  have hcolon : ∀ piece ∈ parameters.headerKeys.map String.toList, ':' ∉ piece := by
    intro piece m
    obtain ⟨name, mn, rfl⟩ := List.mem_map.mp m
    exact (notMem_of_isInvalidKey (hp.keys name mn)).1
  rw [withoutWhiteSpace_of_isTagChar hchar,
    splitAt_joinWith (by simpa using hp.keys_ne_nil) hcolon, List.map_map]
  simp

/-- The tags that a verifier looks up. -/
theorem tag?_statedTags (parameters : Parameters) (keyType bodyHash signature : String) :
    let tags := (statedTags parameters keyType bodyHash ++ [("b", signature)]).map tagAsRead
    tag? tags "c" = some (String.ofList (withoutWhiteSpace
        (parameters.headerMode.name ++ "/" ++ parameters.bodyMode.name).toList)) ∧
      tag? tags "h" = some (String.ofList (withoutWhiteSpace
        (joinWith [':'] (parameters.headerKeys.map String.toList)))) ∧
      tag? tags "bh" = some (String.ofList (withoutWhiteSpace bodyHash.toList)) ∧
      tag? tags "b" = some (String.ofList (withoutWhiteSpace signature.toList)) := by
  unfold statedTags
  cases parameters.expiration <;> cases parameters.identifier <;>
    simp [tag?, tagAsRead]

theorem withoutWhiteSpace_base64 (bytes : Bytes) :
    String.ofList (withoutWhiteSpace (base64 bytes).toList) = base64 bytes := by
  rw [base64, String.toList_ofList,
    withoutWhiteSpace_of_isTagChar fun c m => isTagChar_of_mem_base64Chars m]

theorem notMem_base64 (bytes : Bytes) :
    ';' ∉ (base64 bytes).toList ∧ '\n' ∉ (base64 bytes).toList := by
  rw [base64, String.toList_ofList]
  exact ⟨notMem_of_isTagChar fun c m => isTagChar_of_mem_base64Chars m,
    lf_notMem_of_isTagChar fun c m => isTagChar_of_mem_base64Chars m⟩

/-- **A signature field is read as it was meant.** -/
theorem readSignature_signatureText {parameters : Parameters} (hp : parameters.WellFormed)
    (hprint : parameters.PrintableKeys) {keyType : String} (hkey : ';' ∉ keyType.toList)
    (bodyHash signature : Bytes) :
    readSignature (Field.new signatureField
        (signatureText parameters keyType (base64 bodyHash) ++ base64 signature)) =
      some ⟨parameters.headerMode, parameters.bodyMode, parameters.headerKeys, bodyHash, signature,
        Field.new signatureField (signatureText parameters keyType (base64 bodyHash))⟩ := by
  have hnamed : (Field.new signatureField
      (signatureText parameters keyType (base64 bodyHash) ++ base64 signature)).isNamed
        signatureField = true := by
    simp [Field.isNamed, Field.new, equalsIgnoringCase]
  have htags :=
    readTags_signatureText hp hkey (notMem_base64 bodyHash).1 (notMem_base64 signature).1
  obtain ⟨hc, hh, hbh, hb⟩ :=
    tag?_statedTags parameters keyType (base64 bodyHash) (base64 signature)
  have hmodes : String.ofList (withoutWhiteSpace
      (parameters.headerMode.name ++ "/" ++ parameters.bodyMode.name).toList) =
        parameters.headerMode.name ++ "/" ++ parameters.bodyMode.name := by
    cases parameters.headerMode <;> cases parameters.bodyMode <;> rfl
  have hraw : (Field.new signatureField
      (signatureText parameters keyType (base64 bodyHash) ++ base64 signature)).raw =
        (Field.new signatureField (signatureText parameters keyType (base64 bodyHash))).raw ++
          utf8 (base64 signature) := by
    simp [Field.new, utf8_append]
  have hdecode : ∀ bytes, unbase64? (base64 bytes).toList = some bytes := fun bytes => by
    rw [base64, String.toList_ofList, unbase64?_base64Chars]
  unfold readSignature
  rw [hnamed, readTags_value_new, htags]
  dsimp only
  have hpassed : (guard (true = true) : Option Unit) = some () := rfl
  rw [hc, hh, hbh, hb, hmodes, withoutWhiteSpace_base64, withoutWhiteSpace_base64, hraw, hpassed]
  simp only [Option.pure_def, Option.bind_eq_bind, Option.bind_some, readModes_name,
    String.toList_ofList, splitAt_joined_keys hp hprint, hdecode, beforeSuffix?_append]
  rfl

/-! ### Agreement -/

theorem isTagChar_typeName : ∀ (key : SigningKey), ∀ c ∈ key.typeName.toList, IsTagChar c
  | .rsa _ => areTagChars_iff.mp (by decide : areTagChars "rsa".toList = true)
  | .ed25519 _ => areTagChars_iff.mp (by decide : areTagChars "ed25519".toList = true)

theorem isFieldName_signatureField :
    isFieldName (utf8 signatureField) = true ∧ Octet.colon ∉ utf8 signatureField := by
  decide

/-- A header can hold a signature field, if no field name holds a line feed. -/
theorem writable_signatureText {parameters : Parameters} (hp : parameters.WellFormed)
    (hnames : ∀ name ∈ parameters.headerKeys, '\n' ∉ name.toList) (key : SigningKey)
    (bodyHash signature : Bytes) :
    (Field.new signatureField
      (signatureText parameters key.typeName (base64 bodyHash) ++ base64 signature)).Writable := by
  have hkey := lf_notMem_of_isTagChar (isTagChar_typeName key)
  exact ⟨isFieldName_signatureField.1, isFieldName_signatureField.2,
    foldedValue_signatureText hp hnames hkey (notMem_base64 bodyHash).2 (notMem_base64 signature).2⟩

section Agreement

variable {parameters : Parameters} (hp : parameters.WellFormed) (hprint : parameters.PrintableKeys)
  (key : SigningKey)

include hp hprint

theorem writable_signature (bodyHash signature : Bytes) :
    (Field.new signatureField
      (signatureText parameters key.typeName (base64 bodyHash) ++ base64 signature)).Writable := by
  have hnames : ∀ name ∈ parameters.headerKeys, '\n' ∉ name.toList := fun name m =>
    lf_notMem_of_isTagChar (isTagChar_of_mem_key hp hprint m)
  exact writable_signatureText hp hnames key bodyHash signature

/-- What a verifier finds in a message with a signature field on top. -/
theorem examine_signatureText {h : Header} (hw : ∀ f ∈ h.fields, f.Writable)
    (bodyHash signature body : Bytes) :
    examine parameters.hash ((h.add signatureField
        (signatureText parameters key.typeName (base64 bodyHash) ++
          base64 signature)).toBytes ++ body) =
      some ⟨bodyHash, hashBody parameters.hash parameters.bodyMode body, signature,
        headerDigest parameters h (signatureText parameters key.typeName (base64 bodyHash))⟩ := by
  have hfields : ∀ f ∈ (h.add signatureField
      (signatureText parameters key.typeName (base64 bodyHash) ++ base64 signature)).fields,
        f.Writable := by
    intro f m
    rcases List.mem_cons.mp m with rfl | m
    · exact writable_signature hp hprint key bodyHash signature
    · exact hw f m
  have hread := readSignature_signatureText hp hprint
    (notMem_of_isTagChar (isTagChar_typeName key)) bodyHash signature
  unfold examine
  rw [parse_toBytes hfields]
  simp only [Header.fields_add, hread, Option.map_some, headerDigest, signedOctets]

end Agreement

/-- **A verifier agrees with the signer.**  The header comes from a message, the body arrives in
any chunks, before and after the header; the verifier gets the message with the signature on top.
It finds the body hash that the signature states, and the digest that was given to the key. -/
theorem examine_signed {parameters : Parameters} {key : SigningKey} {signer : Signer}
    (hnew : Signer.new parameters key = .ok signer) (hprint : parameters.PrintableKeys)
    (raw : Bytes) (before after : List Bytes) {value : String}
    (hvalue : (signer.writeMessage before (Header.parse raw).1 after).finish = .ok value) :
    ∃ found, examine parameters.hash
        (((Header.parse raw).1.add signatureField value).toBytes ++ (before ++ after).flatten) =
          some found ∧
      found.bodyHash = found.statedBodyHash ∧
      (signer.writeMessage before (Header.parse raw).1 after).digest? = some found.digest ∧
      key.sign found.digest = .ok found.signature := by
  obtain ⟨hp, rfl⟩ := Signer.new_eq_ok hnew
  rw [Signer.writeMessage_eq] at hvalue ⊢
  obtain ⟨digest, signature, hdigest, hsign, rfl⟩ := Signer.finish_eq_ok_iff.mp hvalue
  have hw : ∀ f ∈ (Header.parse raw).1.fields, f.Writable := fun f m => writable_of_mem_parse m
  have hfound := examine_signatureText hp hprint key hw
    (hashBody parameters.hash parameters.bodyMode (before ++ after).flatten) signature
    (before ++ after).flatten
  refine ⟨_, hfound, rfl, rfl, ?_⟩
  rw [← hsign, Option.some.inj hdigest.symm]
  rfl

/-- Parameters with every optional tag, a name that is listed twice, and different modes. -/
def sampleParameters : Parameters where
  domain := "example.org"
  selector := "s1"
  identifier := some "alice@mail.example.org"
  headerMode := .relaxed
  bodyMode := .simple
  headerKeys := ["Subject", "Subject", "From"]
  timestamp := 1791194400
  expiration := some 1791799200

theorem sampleParameters_check :
    sampleParameters.check (.ed25519 (List.replicate 32 7)) = .ok () := by
  decide +kernel

theorem new_sampleParameters : Signer.new sampleParameters (.ed25519 (List.replicate 32 7)) =
    .ok ⟨sampleParameters, .ed25519 (List.replicate 32 7), none, BodyHash.start .simple⟩ := by
  rw [Signer.new, Parameters.validate, sampleParameters_check]
  rfl

/-- A folded subject, and a body in three chunks with the header between the first two. -/
theorem examine_signed_ed25519 :
    let raw := utf8 "From: Alice <alice@example.org>\r\nSubject: Quarterly\r\n  report\r\n\r\nHello"
    let before := [utf8 "Hello "]
    let after := [utf8 "both,\r", utf8 "\n\r\n"]
    ∃ signer value found,
      Signer.new sampleParameters (.ed25519 (List.replicate 32 7)) = .ok signer ∧
      sampleParameters.PrintableKeys ∧
      (signer.writeMessage before (Header.parse raw).1 after).finish = .ok value ∧
      examine sampleParameters.hash (((Header.parse raw).1.add signatureField value).toBytes ++
        (before ++ after).flatten) = some found ∧
      found.bodyHash = found.statedBodyHash ∧
      (signer.writeMessage before (Header.parse raw).1 after).digest? = some found.digest ∧
      (SigningKey.ed25519 (List.replicate 32 7)).sign found.digest = .ok found.signature := by
  intro raw before after
  have hnew : Signer.new sampleParameters (.ed25519 (List.replicate 32 7)) =
      .ok ⟨sampleParameters, .ed25519 (List.replicate 32 7), none, BodyHash.start .simple⟩ := by
    rw [Signer.new, Parameters.validate, sampleParameters_check]
    rfl
  have hprint : sampleParameters.PrintableKeys := printableKeys_of_all (by decide)
  obtain ⟨found, h⟩ := examine_signed hnew hprint raw before after rfl
  exact ⟨_, _, found, hnew, hprint, rfl, h⟩

end Mailroom.Dkim
