import Mailroom.Dkim.MessageSigner
import Mailroom.Proofs.Delivery.Outcome
import Mailroom.Proofs.Dkim.Oversigning
import Mailroom.Proofs.Dkim.Verification

/-! # Signatures under other fields

A signature does not stay on top of its message: further signatures and trace fields are put above
it.  `examineAt` is the work of a verifier that takes the signature field at any position and leaves
that field out of the header.  A signer whose configuration is `Lasting` oversigns none of the
fields that come later, and prints nothing that cannot be read back; what it signed is found again
under any number of such fields (`foundAt_of_signature`). -/

namespace Mailroom.Dkim

/-! ### A verifier that looks anywhere -/

/-- Reads the field at a position, counted from the top, as a signature, and computes what the
signature is about.  The header is taken without that field. -/
def examineAt (algorithm : HashAlgorithm) (position : Nat) (message : Bytes) : Option Findings :=
  let (header, body) := Header.parse message
  (header.fields[position]?.bind readSignature).map fun s =>
    let octets := s.headerMode.fields (pickFields (header.removeAt position) s.names) ++
      s.headerMode.fieldText s.unsigned
    ⟨s.bodyHash, hashBody algorithm s.bodyMode body, s.signature, algorithm.digest octets⟩

/-- At the top this is the verifier that reads the top field. -/
theorem examineAt_zero (algorithm : HashAlgorithm) (message : Bytes) :
    examineAt algorithm 0 message = examine algorithm message := by
  unfold examineAt examine
  cases hm : Header.parse message with
  | mk header body =>
      obtain ⟨fields⟩ := header
      cases fields with
      | nil => rfl
      | cons field below => rfl

/-- What a verifier finds under other fields that pick nothing. -/
theorem examineAt_signatureText {parameters : Parameters} (hp : parameters.WellFormed)
    (hprint : parameters.PrintableKeys) (key : SigningKey) {above below : Header}
    (habove : ∀ f ∈ above.fields, f.Writable) (hbelow : ∀ f ∈ below.fields, f.Writable)
    (hpick : pickFields (above.prepend below) parameters.headerKeys =
      pickFields below parameters.headerKeys)
    (bodyHash signature body : Bytes) :
    examineAt parameters.hash above.size ((above.prepend (below.add signatureField
        (signatureText parameters key.typeName (base64 bodyHash) ++
          base64 signature))).toBytes ++ body) =
      some ⟨bodyHash, hashBody parameters.hash parameters.bodyMode body, signature,
        headerDigest parameters below
          (signatureText parameters key.typeName (base64 bodyHash))⟩ := by
  let field := Field.new signatureField
    (signatureText parameters key.typeName (base64 bodyHash) ++ base64 signature)
  have hwritable : ∀ f ∈ (above.prepend (below.addField field)).fields, f.Writable := by
    intro f m
    rcases List.mem_append.mp m with m | m
    · exact habove f m
    · rcases List.mem_cons.mp m with rfl | m
      · exact writable_signature hp hprint key bodyHash signature
      · exact hbelow f m
  have hat : (above.prepend (below.addField field)).fields[above.size]? = some field :=
    Header.getElem?_prepend_addField above below field
  have hread := readSignature_signatureText hp hprint
    (notMem_of_isTagChar (isTagChar_typeName key)) bodyHash signature
  show examineAt parameters.hash above.size
    ((above.prepend (below.addField field)).toBytes ++ body) = _
  unfold examineAt
  rw [parse_toBytes hwritable]
  dsimp only
  rw [hat, Header.removeAt_prepend_addField, Option.bind_some, hread, Option.map_some, hpick]
  rfl

/-! ### Signers -/

/-- The fields that are put on top of a message after it was signed: further signatures, and the
trace fields of a delivery. -/
def laterFields : List String := [signatureField, "Return-Path", "Delivered-To"]

/-- A configuration whose signatures last. -/
structure SignerConfig.Lasting (c : SignerConfig) : Prop where
  /-- The names of the fields to sign are printable ASCII. -/
  printable : ∀ name ∈ c.oversignFields ++ c.signFields,
    ∀ char ∈ name.toList, 0x20 ≤ char.toNat ∧ char.toNat ≤ 0x7E
  /-- No field that is put on top later is oversigned. -/
  later : ∀ name ∈ c.oversignFields, ∀ field ∈ laterFields, equalsIgnoringCase field name = false

instance (c : SignerConfig) : Decidable c.Lasting :=
  decidable_of_iff
    (((c.oversignFields ++ c.signFields).all fun name =>
        name.toList.all fun char => decide (0x20 ≤ char.toNat ∧ char.toNat ≤ 0x7E)) = true ∧
      (c.oversignFields.all fun name =>
        laterFields.all fun field => !equalsIgnoringCase field name) = true) <| by
    simp only [List.all_eq_true, decide_eq_true_eq, Bool.not_eq_true']
    exact ⟨fun h => ⟨h.1, h.2⟩, fun h => ⟨h.printable, h.later⟩⟩

/-- Signatures made by the usual configuration last. -/
theorem lasting_usual : ({} : SignerConfig).Lasting := by
  decide

namespace MessageSigner

variable {s : MessageSigner} {host : Host} {identifier value : String} {header : Header}
  {body : Body}

/-- The signature on its way, after it has taken header and body. -/
def loaded (s : MessageSigner) (host : Host) (identifier : String) (header : Header)
    (body : Body) : Except Failure Signer := do
  let parameters ← s.parameters host.now identifier header
  let signer ← Signer.new parameters s.key
  let content ← (body.read host.disk).mapError Failure.io
  return (signer.writeHeader header).write content

/-- A signature is a loaded signer that was completed. -/
theorem signature_eq_bind (s : MessageSigner) (host : Host) (identifier : String)
    (header : Header) (body : Body) :
    s.signature host identifier header body =
      s.loaded host identifier header body >>= Signer.finish := by
  unfold signature loaded signWith
  cases s.parameters host.now identifier header with
  | error failure => rfl
  | ok parameters =>
      show (Signer.new parameters s.key >>= _) = (Signer.new parameters s.key >>= _) >>= _
      cases Signer.new parameters s.key with
      | error failure => rfl
      | ok signer =>
          show ((body.read host.disk).mapError Failure.io >>= _) =
            ((body.read host.disk).mapError Failure.io >>= _) >>= _
          cases body.read host.disk <;> rfl

/-- What a loaded signer is. -/
theorem loaded_eq_ok {signer : Signer} (h : s.loaded host identifier header body = .ok signer) :
    ∃ parameters content, body.read host.disk = .ok content ∧ parameters.WellFormed ∧
      parameters.hash = s.config.hash ∧ parameters.headerKeys = s.namesToSign header ∧
      signer = ⟨parameters, s.key, some header,
        (BodyHash.start parameters.bodyMode).update content⟩ := by
  unfold loaded at h
  obtain ⟨parameters, hparameters, h⟩ := bind_eq_ok h
  obtain ⟨expiration, -, hp⟩ := bind_eq_ok hparameters
  obtain ⟨fresh, hnew, h⟩ := bind_eq_ok h
  obtain ⟨hwell, rfl⟩ := Signer.new_eq_ok hnew
  obtain ⟨content, hcontent, h⟩ := bind_eq_ok h
  obtain rfl := Except.ok.inj h
  refine ⟨parameters, content, ?_, hwell, ?_, ?_, rfl⟩
  · cases hr : body.read host.disk with
    | error fault => rw [hr] at hcontent; cases hcontent
    | ok content' => rw [hr] at hcontent; exact congrArg _ (Except.ok.inj hcontent)
  · exact congrArg Parameters.hash (Except.ok.inj hp).symm
  · exact congrArg Parameters.headerKeys (Except.ok.inj hp).symm

theorem printableKeys (hc : s.config.Lasting) {parameters : Parameters}
    (hkeys : parameters.headerKeys = s.namesToSign header) : parameters.PrintableKeys := by
  intro name m
  rw [hkeys] at m
  exact hc.printable name (mem_of_mem_namesToSign m)

/-- **What a signature is:** the value of a field for a loaded signer whose key signed its
digest. -/
theorem signature_eq_ok (h : s.signature host identifier header body = .ok value) :
    ∃ signer digest signature, s.loaded host identifier header body = .ok signer ∧
      signer.digest? = some digest ∧ signer.key.sign digest = .ok signature ∧
      value = signer.unsigned ++ base64 signature := by
  rw [signature_eq_bind] at h
  obtain ⟨signer, hloaded, hfinish⟩ := bind_eq_ok h
  obtain ⟨digest, signature, hdigest, hsign, hvalue⟩ := Signer.finish_eq_ok_iff.mp hfinish
  exact ⟨signer, digest, signature, hloaded, hdigest, hsign, hvalue⟩

/-- The signature field can be read back. -/
theorem writable_signatureField (hc : s.config.Lasting)
    (h : s.signature host identifier header body = .ok value) :
    (Field.new signatureField value).Writable := by
  obtain ⟨signer, digest, signature, hloaded, -, -, rfl⟩ := signature_eq_ok h
  obtain ⟨parameters, content, -, hp, -, hkeys, rfl⟩ := loaded_eq_ok hloaded
  exact writable_signature hp (printableKeys hc hkeys) s.key _ signature

/-- What it means that a signature of this header and body is found again at a position of a
message: a verifier recomputes the body hash that the field states and the digest that was signed,
and it reads what the key made of that digest. -/
def FoundAt (s : MessageSigner) (host : Host) (identifier : String) (header : Header)
    (body : Body) (position : Nat) (message : Bytes) : Prop :=
  ∃ found signer, examineAt s.config.hash position message = some found ∧
    found.bodyHash = found.statedBodyHash ∧
    s.loaded host identifier header body = .ok signer ∧ signer.digest? = some found.digest ∧
    s.key.sign found.digest = .ok found.signature

/-- **A signature is found again under later fields.** -/
theorem foundAt_of_signature (hc : s.config.Lasting)
    (h : s.signature host identifier header body = .ok value)
    (hheader : ∀ f ∈ header.fields, f.Writable) {above : Header}
    (habove : ∀ f ∈ above.fields, f.name ∈ laterFields ∧ f.Writable) {content : Bytes}
    (hcontent : body.read host.disk = .ok content) :
    s.FoundAt host identifier header body above.size
      ((above.prepend (header.add signatureField value)).toBytes ++ content) := by
  obtain ⟨signer, digest, signature, hloaded, hdigest, hsign, rfl⟩ := signature_eq_ok h
  obtain ⟨parameters, content', hread, hp, hhash, hkeys, rfl⟩ := loaded_eq_ok hloaded
  obtain rfl : content = content' := Except.ok.inj (hcontent.symm.trans hread)
  have hunnamed : ∀ f ∈ above.fields, ∀ name ∈ s.config.oversignFields, f.isNamed name = false :=
    fun f m name hname => hc.later name hname f.name (habove f m).1
  have hpick : pickFields (above.prepend header) parameters.headerKeys =
      pickFields header parameters.headerKeys := by
    rw [hkeys]
    exact pickFields_prepend header _ hunnamed
  unfold FoundAt
  have hfound := examineAt_signatureText hp (printableKeys hc hkeys) s.key
    (fun f m => (habove f m).2) hheader hpick
    (hashBody parameters.hash parameters.bodyMode content) signature content
  rw [← hhash]
  refine ⟨_, _, hfound, rfl, hloaded, rfl, ?_⟩
  rw [← hsign, Option.some.inj hdigest.symm]
  rfl

/-- Running a signer puts its signature on top, or changes nothing. -/
theorem modifier_outcome (s : MessageSigner) (envelope : Envelope) (body : Body) (host : Host)
    (header : Header) :
    (s.modifier.run envelope body (host, header)).outcome =
      match s.signature host (s.identifier envelope.sender) header body with
      | .ok value => (.ok (), host, header.add signatureField value)
      | .error failure => (.error failure, host, header) := by
  have hedit : (s.modifier.run envelope body (host, header)).outcome =
      let edited := s.addSignature envelope body (host, header)
      (Modifier.combine edited.answer (.ok ()), edited.state) := rfl
  rw [hedit]
  unfold addSignature
  dsimp only
  cases s.signature host (s.identifier envelope.sender) header body <;> rfl

end MessageSigner

end Mailroom.Dkim
