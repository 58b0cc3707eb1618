import Mailroom.Dkim.KeyFile
import Mailroom.Proofs.Keys.RsaRoundTrip

/-! # Sound keys

A key is sound if its numbers belong together and let it be written out (`SigningKey.Sound`).  A
sound key has a text, which is read as that key again, and a record to publish
(`Sound.readKey`, `Sound.exists_dnsRecord`).  What is said of a key source asks no more of it than
that it gives sound keys, as `SigningKey.generate` does (`sound_of_generate`). -/

namespace Mailroom

theorem Sha2.length_digest (v : Variant) (message : Bytes) :
    (digest v message).length = 8 * v.wordSize := by
  unfold digest Hasher.finish bigEndian
  simp only [List.flatMap_cons, List.flatMap_nil, List.length_append, List.length_map,
    List.length_reverse, List.length_range, List.length_nil]
  omega

/-- Entropy is stretched to the length that is asked for. -/
theorem length_expandEntropy (entropy : Nat) (label : String) (count : Nat) :
    (expandEntropy entropy label count).length = count := by
  have hword : 8 * Sha2.sha256.wordSize = 32 := rfl
  unfold expandEntropy
  rw [List.length_take, List.length_flatMap]
  simp only [Sha2.length_digest, hword, List.map_const', List.length_range, List.sum_replicate_nat]
  omega

/-- The public part of a key whose numbers belong together is short enough to be written. -/
theorem Keys.exists_publishRsa? {key : Rsa.PrivateKey} (h : key.isConsistent = true) :
    ∃ octets, publishRsa? key = some octets := by
  simp only [Rsa.PrivateKey.isConsistent, Bool.and_eq_true, decide_eq_true_eq, and_assoc] at h
  obtain ⟨hbits, -, hexponent, -⟩ := h
  obtain ⟨width, hwidth, hsize⟩ : ∃ width, Rsa.maxModulusBits = 8 * width ∧ width = 512 :=
    ⟨512, rfl, rfl⟩
  have hmodulus : key.modulus < 256 ^ width := by
    rw [hwidth, bitLength_le_iff, Nat.pow_mul] at hbits
    exact hbits
  have hsmall : key.publicExponent < 256 ^ 5 := Nat.lt_of_le_of_lt hexponent (by decide)
  have hfirst := Der.length_natural_le (by omega) (by omega) hmodulus
  have hsecond := Der.length_natural_le (by decide) (by decide) hsmall
  have hnumbers : (Der.sequence [Der.natural key.modulus,
      Der.natural key.publicExponent]).length ≤ 537 := by
    have hcontent : [Der.natural key.modulus,
        Der.natural key.publicExponent].flatten.length ≤ 531 := by
      simp only [List.flatten_cons, List.flatten_nil, List.append_nil, List.length_append]
      omega
    have := Der.length_element_le Der.sequenceTag (Nat.lt_of_le_of_lt hcontent (by decide))
    unfold Der.sequence
    omega
  unfold publishRsa?
  dsimp only
  generalize Der.sequence [Der.natural key.modulus, Der.natural key.publicExponent] = numbers
    at hnumbers ⊢
  have hstring : (Der.element Der.bitStringTag (0 :: numbers)).length ≤ 544 := by
    have hcontent : (0 :: numbers).length ≤ 538 := by
      rw [List.length_cons]
      omega
    have := Der.length_element_le Der.bitStringTag (Nat.lt_of_le_of_lt hcontent (by decide))
    omega
  have hwhole : (Der.sequence
      [rsaAlgorithm, Der.element Der.bitStringTag (0 :: numbers)]).length ≤ 565 := by
    have hname : rsaAlgorithm.length = 15 := by decide
    have hcontent : [rsaAlgorithm,
        Der.element Der.bitStringTag (0 :: numbers)].flatten.length ≤ 559 := by
      simp only [List.flatten_cons, List.flatten_nil, List.append_nil, List.length_append]
      omega
    have := Der.length_element_le Der.sequenceTag (Nat.lt_of_le_of_lt hcontent (by decide))
    unfold Der.sequence
    omega
  have hmax : Der.maxLength = 268435455 := by decide
  exact ⟨_, if_neg (by omega)⟩

namespace Dkim.SigningKey

/-- Whether the numbers of a key belong together and let it be written out. -/
def Sound : SigningKey → Prop
  | rsa key => key.isConsistent = true ∧ key.privateExponent < key.modulus ∧
      key.coefficient?.isSome = true
  | ed25519 seed => seed.length = 32

namespace Sound

variable {key : SigningKey} (h : key.Sound)
include h

/-- A sound key can be written out. -/
theorem exists_toPem : ∃ pem, key.toPem = .ok pem := by
  cases key with
  | rsa key =>
      obtain ⟨coefficient, hc⟩ := Option.isSome_iff_exists.mp h.2.2
      unfold toPem Keys.wrapRsa? Keys.writeRsa?
      dsimp only
      rw [hc]
      exact ⟨_, rfl⟩
  | ed25519 seed => exact ⟨_, rfl⟩

/-- **A sound key is read** from its text. -/
theorem readKey (path : String) {pem : String} (hpem : key.toPem = .ok pem) :
    readKey path pem = .ok key := by
  have hread : ofPem pem = .ok key := by
    cases key with
    | rsa key => exact ofPem_toPem_rsa h.1 h.2.1 hpem
    | ed25519 seed =>
        obtain ⟨text, htext, hread⟩ := ofPem_toPem_ed25519 h
        obtain rfl := Except.ok.inj (hpem.symm.trans htext)
        exact hread
  rw [Dkim.readKey, hread]
  rfl

/-- A sound key has a record to publish. -/
theorem exists_dnsRecord : ∃ record, key.dnsRecord = .ok record := by
  have hpublic : ∃ octets, key.publicOctets? = some octets := by
    cases key with
    | rsa key =>
        simp only [publicOctets?]
        exact Keys.exists_publishRsa? h.1
    | ed25519 seed => exact ⟨_, rfl⟩
  obtain ⟨octets, hoctets⟩ := hpublic
  unfold dnsRecord publicText
  rw [hoctets]
  exact ⟨_, rfl⟩

end Sound

variable {kind : KeyKind} {entropy : Nat} {key : SigningKey}

theorem sound_of_generateRsa {bits : Nat} (hbits : bits ≤ Rsa.maxModulusBits)
    (h : generateRsa bits entropy = .ok key) : key.Sound := by
  unfold generateRsa at h
  split at h
  · next made hmade =>
    obtain rfl := Except.ok.inj h
    have hfresh := Rsa.fresh_of_generate? hmade
    exact ⟨hfresh.isConsistent hbits, hfresh.privateExponent_lt, hfresh.coefficient⟩
  · cases h

/-- **Keys that are made here are sound.** -/
theorem sound_of_generate (h : generate kind entropy = .ok key) : key.Sound := by
  cases kind with
  | rsa4096 | rsa2048 =>
      rw [generate] at h
      exact sound_of_generateRsa (by decide) h
  | ed25519 =>
      obtain rfl := Except.ok.inj h
      exact length_expandEntropy entropy "ed25519" 32

end Dkim.SigningKey
end Mailroom
