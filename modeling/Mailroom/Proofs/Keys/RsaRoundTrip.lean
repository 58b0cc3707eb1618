import Mathlib.Algebra.Order.BigOperators.Group.List
import Mathlib.Data.Int.ModEq
import Mathlib.Tactic.Ring
import Mailroom.Crypto.Prime
import Mailroom.Proofs.Keys.RoundTrip

/-! # RSA keys that are written can be read

Euclid's algorithm finds inverses (`mul_inverseMod?`), so the exponents of a new key are inverse to
each other modulo each prime less one, and the numbers of the key belong together
(`Rsa.PrivateKey.Fresh.isConsistent`).  A key whose numbers belong together is read as it was
written (`Keys.readRsa?_writeRsa?`), also in the form that names the algorithm
(`SigningKey.ofPem_toPem_rsa`). -/

namespace Mailroom

/-! ### Inverses -/

/-- **Euclid's algorithm** keeps each of its numbers congruent to its factor times `x`. -/
theorem euclid_dvd {m x : Int} {a b : Nat} {s t : Int} (ha : m ∣ a - s * x) (hb : m ∣ b - t * x) :
    m ∣ (euclid a b s t).1 - (euclid a b s t).2 * x := by
  fun_induction euclid a b s t with
  | case1 a s t => exact ha
  | case2 a b s t _ ih =>
      refine ih hb ?_
      have hdiv : ((a % b : Nat) : Int) = a - b * (a / b : Nat) := by
        rw [← Int.natCast_mul, ← Int.natCast_sub (Nat.mul_div_le a b), Nat.mod_eq_sub]
      have hstep : ((a % b : Nat) : Int) - (s - (a / b : Nat) * t) * x =
          (a - s * x) - (a / b : Nat) * (b - t * x) := by
        rw [hdiv]
        ring
      rw [hstep]
      exact Int.dvd_sub ha (Dvd.dvd.mul_left hb _)

/-- **The inverse is one.** -/
theorem mul_inverseMod? {a m d : Nat} (hm : 1 < m) (h : inverseMod? a m = some d) :
    a * d % m = 1 ∧ d < m := by
  have hdvd : (m : Int) ∣ (euclid (a % m) m 1 0).1 - (euclid (a % m) m 1 0).2 * (a : Int) := by
    refine euclid_dvd ?_ (by simp)
    rw [one_mul, Int.natCast_mod, ← Int.neg_sub, Int.dvd_neg]
    exact Int.dvd_self_sub_emod
  unfold inverseMod? at h
  split at h
  · next s he =>
    rw [he] at hdvd
    obtain rfl := Option.some.inj h
    have hpos : (0 : Int) < m := by omega
    have hcast : ((s % (m : Int)).toNat : Int) = s % m :=
      Int.toNat_of_nonneg (Int.emod_nonneg s hpos.ne')
    have hlt := Int.emod_lt_of_pos s hpos
    have hone : (a : Int) * (s % m) ≡ 1 [ZMOD m] := calc
      (a : Int) * (s % m) ≡ a * s [ZMOD m] := (Int.mod_modEq s m).mul_left a
      _ = s * a := Int.mul_comm _ _
      _ ≡ 1 [ZMOD m] := Int.modEq_iff_dvd.mpr hdvd
    refine ⟨?_, by omega⟩
    rw [← hcast, ← Int.natCast_mul, ← Int.natCast_one, Int.natCast_modEq_iff, Nat.ModEq,
      Nat.mod_eq_of_lt hm] at hone
    exact hone
  · cases h

/-! ### New keys -/

namespace Rsa

theorem le_of_nextPrime? {exponent prime : Nat} : ∀ {tries n : Nat},
    nextPrime? exponent tries n = some prime → n ≤ prime
  | tries + 1, n, h => by
      rw [nextPrime?] at h
      split at h
      · exact Nat.le_of_eq (Option.some.inj h)
      · exact Nat.le_trans (Nat.le_add_right n 2) (le_of_nextPrime? h)

/-- A new prime is large enough: even less one, it is no divisor of one. -/
theorem lt_of_generatePrime? {bits entropy prime exponent : Nat} {label : String}
    (h : generatePrime? bits entropy label exponent = some prime) : 3 < prime := by
  have hpow : 0 < Nat.pow 2 (bits - 2) := Nat.two_pow_pos _
  have hle := le_of_nextPrime? h
  omega

/-- What is known of a new key of so many bits. -/
structure PrivateKey.Fresh (bits : Nat) (key : PrivateKey) : Prop where
  bits : bitLength key.modulus = bits
  product : key.p * key.q = key.modulus
  exponent : key.publicExponent = standardExponent
  inverse : inverseMod? standardExponent ((key.p - 1) * (key.q - 1)) = some key.privateExponent
  p : 3 < key.p
  q : 3 < key.q
  coefficient : key.coefficient?.isSome = true

variable {bits entropy : Nat} {key : PrivateKey}

theorem fresh_of_generate? (h : generate? bits entropy = some key) : key.Fresh bits := by
  simp only [generate?, Option.bind_eq_bind, Option.bind_eq_some_iff] at h
  obtain ⟨p, hp, q, hq, d, hd, h⟩ := h
  split at h
  · next hmade =>
    obtain ⟨hbits, hsome⟩ := Bool.and_eq_true_iff.mp hmade
    obtain rfl := Option.some.inj h
    exact ⟨of_decide_eq_true hbits, rfl, rfl, hd, lt_of_generatePrime? hp,
      lt_of_generatePrime? hq, hsome⟩
  · cases h

namespace PrivateKey.Fresh

variable (h : key.Fresh bits)
include h

/-- The exponents are inverse to each other. -/
theorem mul_privateExponent :
    key.publicExponent * key.privateExponent % ((key.p - 1) * (key.q - 1)) = 1 ∧
      key.privateExponent < (key.p - 1) * (key.q - 1) := by
  have hp := h.p
  have hq := h.q
  have hmany : 2 * 2 ≤ (key.p - 1) * (key.q - 1) := Nat.mul_le_mul (by omega) (by omega)
  rw [h.exponent]
  exact mul_inverseMod? (by omega) h.inverse

theorem privateExponent_lt : key.privateExponent < key.modulus := by
  have hlt := h.mul_privateExponent.2
  have hle : (key.p - 1) * (key.q - 1) ≤ key.p * key.q :=
    Nat.mul_le_mul (Nat.sub_le _ 1) (Nat.sub_le _ 1)
  rw [← h.product]
  omega

/-- The exponents fit modulo what divides the product, if that is more than one. -/
theorem exponentsFit {prime : Nat} (hprime : 3 < prime)
    (hdvd : prime - 1 ∣ (key.p - 1) * (key.q - 1)) : key.exponentsFit prime = true := by
  rw [PrivateKey.exponentsFit, beq_iff_eq, ← Nat.mod_mod_of_dvd _ hdvd, h.mul_privateExponent.1,
    Nat.mod_eq_of_lt (by omega)]

/-- **The numbers of a new key belong together,** if it is not too long. -/
theorem isConsistent (hbits : bits ≤ maxModulusBits) : key.isConsistent = true := by
  have hp := h.p
  have hq := h.q
  have hlength := h.bits
  have hmodulus : bitLength key.modulus ≤ maxModulusBits := by omega
  have hexponent : 2 ≤ key.publicExponent ∧ key.publicExponent ≤ maxPublicExponent := by
    rw [h.exponent]
    decide
  have hfitp := h.exponentsFit hp (Nat.dvd_mul_right _ _)
  have hfitq := h.exponentsFit hq (Nat.dvd_mul_left _ _)
  simp only [PrivateKey.isConsistent, Bool.and_eq_true, decide_eq_true_eq, beq_iff_eq, and_assoc]
  exact ⟨hmodulus, hexponent.1, hexponent.2, by omega, by omega, h.product, hfitp, hfitq⟩

end PrivateKey.Fresh

/-- The numbers that a key is written as. -/
def PrivateKey.numbers (key : PrivateKey) (coefficient : Nat) : List Nat :=
  [0, key.modulus, key.publicExponent, key.privateExponent, key.p, key.q,
    key.privateExponent % (key.p - 1), key.privateExponent % (key.q - 1), coefficient]

/-- No number of a key takes more octets than the largest modulus. -/
theorem PrivateKey.lt_of_mem_numbers {coefficient width : Nat} (hwidth : maxModulusBits = 8 * width)
    (h : key.isConsistent = true) (hd : key.privateExponent < key.modulus)
    (hc : key.coefficient? = some coefficient) :
    ∀ n ∈ key.numbers coefficient, n < 256 ^ width := by
  simp only [isConsistent, Bool.and_eq_true, decide_eq_true_eq, beq_iff_eq, and_assoc] at h
  obtain ⟨hbits, -, hexponent, hp, hq, hproduct, -⟩ := h
  have hmodulus : key.modulus < 256 ^ width := by
    rw [hwidth, bitLength_le_iff, Nat.pow_mul] at hbits
    exact hbits
  have hpm : key.p ≤ key.modulus := hproduct ▸ Nat.le_mul_of_pos_right _ (by omega)
  have hqm : key.q ≤ key.modulus := hproduct ▸ Nat.le_mul_of_pos_left _ (by omega)
  have hcp : coefficient < key.p := (mul_inverseMod? hp hc).2
  have hdp : key.privateExponent % (key.p - 1) ≤ key.privateExponent := Nat.mod_le _ _
  have hdq : key.privateExponent % (key.q - 1) ≤ key.privateExponent := Nat.mod_le _ _
  have hsmall : maxPublicExponent < 256 ^ width := by
    have hwidth : 5 ≤ width := by
      have : maxModulusBits = 4096 := rfl
      omega
    exact Nat.lt_of_lt_of_le (by decide) (Nat.pow_le_pow_right (by decide) hwidth)
  intro n hn
  simp only [numbers, List.mem_cons, List.not_mem_nil, or_false] at hn
  rcases hn with rfl | rfl | rfl | rfl | rfl | rfl | rfl | rfl | rfl <;> omega

end Rsa

/-! ### Elements of a key -/

namespace Keys

open Rsa (PrivateKey)

variable {key : PrivateKey} {content : Bytes}

theorem writeRsa?_eq_some_iff : writeRsa? key = some content ↔ ∃ coefficient,
    key.coefficient? = some coefficient ∧
      Der.element Der.sequenceTag ((key.numbers coefficient).map Der.natural).flatten = content :=
  Option.map_eq_some_iff

/-- **An RSA key that was written is read,** if its numbers belong together.  It is not long. -/
theorem readRsa?_writeRsa? (h : key.isConsistent = true) (hd : key.privateExponent < key.modulus)
    (hcontent : writeRsa? key = some content) :
    readRsa? content = some key ∧ content.length < 256 ^ 3 := by
  obtain ⟨coefficient, hc, rfl⟩ := writeRsa?_eq_some_iff.mp hcontent
  obtain ⟨width, hwidth⟩ : ∃ width, Rsa.maxModulusBits = 8 * width := ⟨512, rfl⟩
  have hsize : width = 512 := by
    have : Rsa.maxModulusBits = 4096 := rfl
    omega
  have hfits := PrivateKey.lt_of_mem_numbers hwidth h hd hc
  have hread := Der.readNaturals?_flatten (key.numbers coefficient) fun n hn => by
    have := Der.length_naturalOctets_le (by omega) (hfits n hn)
    omega
  have hlength : ((key.numbers coefficient).map Der.natural).flatten.length ≤ 9 * (width + 7) := by
    rw [List.length_flatten]
    refine List.sum_le_card_nsmul _ (width + 7) fun size hmem => ?_
    obtain ⟨octets, hoctets, rfl⟩ := List.mem_map.mp hmem
    obtain ⟨n, hn, rfl⟩ := List.mem_map.mp hoctets
    exact Der.length_natural_le (by omega) (by omega) (hfits n hn)
  generalize ((key.numbers coefficient).map Der.natural).flatten = octets at hread hlength ⊢
  have hfields : octets.length < 256 ^ 4 := by omega
  constructor
  · unfold readRsa?
    rw [Der.whole?_element _ hfields, Option.bind_eq_bind, Option.bind_some, Option.bind_eq_bind,
      show 9 = (key.numbers coefficient).length from rfl, hread, Option.bind_some]
    exact if_pos h
  · have := Der.length_element_le Der.sequenceTag hfields
    omega

theorem readAlgorithm?_rsa :
    readAlgorithm? (Der.element Der.identifierTag rsaIdentifier ++ Der.element Der.nullTag []) =
      some (rsaIdentifier, some ⟨Der.nullTag, []⟩) := by
  decide

theorem expect?_rsaAlgorithm (rest : Bytes) : Der.expect? Der.sequenceTag (rsaAlgorithm ++ rest) =
    some (Der.element Der.identifierTag rsaIdentifier ++ Der.element Der.nullTag [], rest) := by
  rw [rsaAlgorithm, Der.sequence, List.flatten_cons, List.flatten_singleton]
  exact Der.expect?_element Der.sequenceTag (by decide) rest

theorem readPublicKey?_nil : readPublicKey? [] = some (none, []) := by
  rw [readPublicKey?]
  rfl

/-- **The form that names the algorithm** gives back what an RSA key was written as. -/
theorem readWrapped?_rsa (h : content.length < 256 ^ 3) :
    readWrapped? (Der.sequence
      [Der.natural 0, rsaAlgorithm, Der.element Der.octetStringTag content]) =
        some ⟨rsaIdentifier, some ⟨Der.nullTag, []⟩, content, none⟩ := by
  have hshort : content.length < 256 ^ 4 := by omega
  have hcontent := Der.length_element_le Der.octetStringTag hshort
  have hversion : ∀ rest, Der.readNatural? (Der.natural 0 ++ rest) = some (0, rest) :=
    Der.readNatural?_natural (by decide)
  have hread : Der.expect? Der.octetStringTag (Der.element Der.octetStringTag content) =
      some (content, []) := by
    have e := Der.expect?_element Der.octetStringTag hshort []
    rwa [List.append_nil] at e
  have hfields : [Der.natural 0, rsaAlgorithm, Der.element Der.octetStringTag content].flatten =
      Der.natural 0 ++ (rsaAlgorithm ++ Der.element Der.octetStringTag content) := by
    simp
  have hlength : (Der.natural 0 ++ (rsaAlgorithm ++
      Der.element Der.octetStringTag content)).length < 256 ^ 4 := by
    have hfirst : (Der.natural 0).length = 3 := by decide
    have hsecond : rsaAlgorithm.length = 15 := by decide
    rw [List.length_append, List.length_append]
    omega
  have hnone : onlyExtensions [] = true := by
    rw [onlyExtensions]
    rfl
  unfold readWrapped? Der.sequence
  rw [hfields, Der.whole?_element _ hlength]
  simp only [Option.bind_eq_bind, Option.bind_some, hversion, expect?_rsaAlgorithm,
    readAlgorithm?_rsa, hread, readPublicKey?_nil, hnone]
  rfl

end Keys

/-- **An RSA key that was written is read again,** if its numbers belong together. -/
theorem Dkim.SigningKey.ofPem_toPem_rsa {key : Rsa.PrivateKey} (h : key.isConsistent = true)
    (hd : key.privateExponent < key.modulus) {pem : String} (hpem : (rsa key).toPem = .ok pem) :
    ofPem pem = .ok (rsa key) := by
  unfold toPem Keys.wrapRsa? at hpem
  dsimp only at hpem
  cases hcontent : Keys.writeRsa? key with
  | none => rw [hcontent] at hpem; cases hpem
  | some content =>
      rw [hcontent] at hpem
      obtain ⟨hread, hlength⟩ := Keys.readRsa?_writeRsa? h hd hcontent
      have hkey : Keys.Wrapped.rsa? ⟨Keys.rsaIdentifier, some ⟨Der.nullTag, []⟩, content, none⟩ =
          some key := (if_pos (by simp)).trans hread
      obtain rfl := Except.ok.inj hpem
      rw [ofPem, ofPem?, Pem.read?_write, Option.bind_some, Keys.readWrapped?_rsa hlength]
      dsimp only
      rw [hkey]
      rfl

end Mailroom
