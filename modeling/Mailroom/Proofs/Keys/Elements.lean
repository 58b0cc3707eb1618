import Mathlib.Tactic.Ring
import Mailroom.Keys.Der

/-! # Elements that are written can be read

Octets denote a number, most significant octet first, and a number that fits into so many octets is
the one that its octets denote (`natOfBytes_bigEndian`).  So lengths are read as they were written
(`Der.readLength?_length`), then elements whose length takes at most four octets
(`Der.readElement?_element`), and then natural numbers (`Der.readNaturals?_flatten`). -/

namespace Mailroom

theorem bitLength_le_iff {n bits : Nat} : bitLength n ≤ bits ↔ n < 2 ^ bits := by
  unfold bitLength
  split
  · next h =>
    rw [h]
    exact ⟨fun _ => Nat.two_pow_pos bits, fun _ => Nat.zero_le bits⟩
  · next h => rw [Nat.succ_le_iff, Nat.log2_lt h]

/-- What was read before counts for more with every octet. -/
theorem foldl_octets (bytes : List UInt8) : ∀ n : Nat,
    bytes.foldl (fun n b => n * 256 + b.toNat) n = n * 256 ^ bytes.length + natOfBytes bytes := by
  unfold natOfBytes
  induction bytes with
  | nil => intro n; simp
  | cons b bytes ih =>
      intro n
      rw [List.foldl_cons, List.foldl_cons, ih, ih (0 * 256 + b.toNat), List.length_cons,
        Nat.pow_succ]
      ring

theorem natOfBytes_cons (b : UInt8) (bytes : List UInt8) :
    natOfBytes (b :: bytes) = b.toNat * 256 ^ bytes.length + natOfBytes bytes := by
  rw [natOfBytes, List.foldl_cons, Nat.zero_mul, Nat.zero_add, foldl_octets]

/-- An octet of zero in front of others does not count. -/
theorem natOfBytes_zero_cons (bytes : List UInt8) : natOfBytes (0 :: bytes) = natOfBytes bytes := by
  rw [natOfBytes_cons, UInt8.toNat_zero, Nat.zero_mul, Nat.zero_add]

namespace Sha2

theorem length_bigEndian (width n : Nat) : (bigEndian width n).length = width := by
  simp [bigEndian]

theorem bigEndian_succ (width n : Nat) :
    bigEndian (width + 1) n = UInt8.ofNat (n >>> (8 * width)) :: bigEndian width n := by
  simp [bigEndian, List.range_succ]

end Sha2

/-- **The octets of a number** denote it, up to what does not fit into them. -/
theorem natOfBytes_bigEndian (width n : Nat) :
    natOfBytes (Sha2.bigEndian width n) = n % 256 ^ width := by
  induction width with
  | zero => exact (Nat.mod_one n).symm
  | succ width ih =>
      have htop : (UInt8.ofNat (n >>> (8 * width))).toNat = n / 256 ^ width % 256 := by
        rw [UInt8.toNat_ofNat', Nat.shiftRight_eq_div_pow, Nat.pow_mul]
      rw [Sha2.bigEndian_succ, natOfBytes_cons, Sha2.length_bigEndian, ih, htop, Nat.mod_pow_succ]
      ring

namespace Der

/-! ### Lengths -/

theorem octetCount_pos (n : Nat) : 0 < octetCount n := Nat.le_max_left 1 _

theorem octetCount_le_iff {n width : Nat} (h : 0 < width) :
    octetCount n ≤ width ↔ n < 256 ^ width := by
  have hpow : 2 ^ (8 * width) = 256 ^ width := Nat.pow_mul 2 8 width
  rw [← hpow, ← bitLength_le_iff, octetCount, Nat.max_le]
  omega

/-- A number fits into the octets that it needs. -/
theorem lt_pow_octetCount (n : Nat) : n < 256 ^ octetCount n :=
  (octetCount_le_iff (octetCount_pos n)).mp (Nat.le_refl _)

theorem natOfBytes_octets (n : Nat) : natOfBytes (Sha2.bigEndian (octetCount n) n) = n := by
  rw [natOfBytes_bigEndian, Nat.mod_eq_of_lt (lt_pow_octetCount n)]

/-- **A length that was written is read,** if it takes up to four octets. -/
theorem readLength?_length {n : Nat} (h : n < 256 ^ 4) (rest : Bytes) :
    readLength? (length n ++ rest) = some (n, rest) := by
  unfold length
  split
  · next hshort =>
    have hexact : (UInt8.ofNat n).toNat = n := by
      rw [UInt8.toNat_ofNat']
      omega
    rw [List.singleton_append, readLength?, if_pos, hexact]
    rw [UInt8.lt_iff_toNat_lt, hexact]
    exact hshort
  · next hlong =>
    have hcount : octetCount n ≤ 4 := (octetCount_le_iff (by decide)).mpr h
    have hpos := octetCount_pos n
    have hexact : (UInt8.ofNat (128 + octetCount n)).toNat = 128 + octetCount n := by
      rw [UInt8.toNat_ofNat']
      omega
    have hoctets : (Sha2.bigEndian (octetCount n) n ++ rest).take (octetCount n) =
        Sha2.bigEndian (octetCount n) n :=
      List.take_left' (Sha2.length_bigEndian _ _)
    have hmarked : ¬ UInt8.ofNat (128 + octetCount n) < 0x80 := by
      rw [UInt8.lt_iff_toNat_lt, hexact]
      exact Nat.not_lt.mpr (Nat.le_add_right 128 _)
    rw [List.cons_append, readLength?, if_neg hmarked, hexact, Nat.add_sub_cancel_left]
    dsimp only
    rw [hoctets, natOfBytes_octets, Sha2.length_bigEndian,
      List.drop_left' (Sha2.length_bigEndian _ _), length, if_neg hlong, if_neg]
    simp
    omega

theorem length_length_le {n : Nat} (h : n < 256 ^ 4) : (length n).length ≤ 5 := by
  unfold length
  split
  · simp
  · have hcount : octetCount n ≤ 4 := (octetCount_le_iff (by decide)).mpr h
    rw [List.length_cons, Sha2.length_bigEndian]
    omega

/-! ### Elements -/

section element

variable (tag : UInt8) {content : Bytes} (h : content.length < 256 ^ 4)
include h

/-- **An element that was written is read.** -/
theorem readElement?_element (rest : Bytes) :
    readElement? (element tag content ++ rest) = some (⟨tag, content⟩, rest) := by
  have hlength := readLength?_length h (content ++ rest)
  rw [element, List.cons_append, List.cons_append, List.append_assoc]
  show (readLength? (length content.length ++ (content ++ rest))).bind _ = _
  rw [hlength]
  dsimp only [Option.bind]
  rw [if_neg (by rw [List.length_append]; omega), List.take_left, List.drop_left]

theorem expect?_element (rest : Bytes) :
    expect? tag (element tag content ++ rest) = some (content, rest) := by
  unfold expect?
  rw [readElement?_element tag h]
  exact if_pos rfl

theorem whole?_element : whole? tag (element tag content) = some content := by
  have e := expect?_element tag h []
  rw [List.append_nil] at e
  unfold whole?
  rw [e]
  rfl

theorem length_element_le : (element tag content).length ≤ content.length + 6 := by
  have hlength := length_length_le h
  rw [element, List.cons_append, List.length_cons, List.length_append]
  omega

end element

/-- The length of a short content takes one octet. -/
theorem length_element (tag : UInt8) {content : Bytes} (h : content.length < 128) :
    (element tag content).length = content.length + 2 := by
  rw [element, length, if_pos h]
  simp

/-! ### Natural numbers -/

theorem natOfBytes_naturalOctets (n : Nat) : natOfBytes (naturalOctets n) = n := by
  have hoctets := natOfBytes_octets n
  unfold naturalOctets
  dsimp only
  split
  · split
    · rw [natOfBytes_zero_cons, hoctets]
    · exact hoctets
  · exact hoctets

theorem length_naturalOctets_le {n width : Nat} (hwidth : 0 < width) (h : n < 256 ^ width) :
    (naturalOctets n).length ≤ width + 1 := by
  have hcount := (octetCount_le_iff hwidth).mpr h
  have hlength : (Sha2.bigEndian (octetCount n) n).length = octetCount n :=
    Sha2.length_bigEndian _ _
  unfold naturalOctets
  dsimp only
  split
  · split
    · rw [List.length_cons]
      omega
    · omega
  · omega

theorem length_natural_le {n width : Nat} (hwidth : 0 < width) (hbound : width < 256 ^ 3)
    (h : n < 256 ^ width) : (natural n).length ≤ width + 7 := by
  have hoctets := length_naturalOctets_le hwidth h
  have hlength : (naturalOctets n).length < 256 ^ 4 := by omega
  have helement := length_element_le integerTag hlength
  unfold natural
  omega

/-- **A natural number that was written is read.** -/
theorem readNatural?_natural {n : Nat} (h : (naturalOctets n).length < 256 ^ 4) (rest : Bytes) :
    readNatural? (natural n ++ rest) = some (n, rest) := by
  unfold readNatural?
  rw [natural, expect?_element integerTag h]
  show (if naturalOctets n = naturalOctets (natOfBytes (naturalOctets n)) then
    some (natOfBytes (naturalOctets n), rest) else none) = _
  rw [natOfBytes_naturalOctets, if_pos rfl]

/-- Natural numbers that were written one after the other are read. -/
theorem readNaturals?_flatten : ∀ numbers : List Nat,
    (∀ n ∈ numbers, (naturalOctets n).length < 256 ^ 4) →
      readNaturals? numbers.length (numbers.map natural).flatten = some (numbers, [])
  | [], _ => rfl
  | n :: numbers, h => by
      have hmore := readNaturals?_flatten numbers fun m hm => h m (List.mem_cons_of_mem n hm)
      rw [List.map_cons, List.flatten_cons, List.length_cons, readNaturals?,
        readNatural?_natural (h n List.mem_cons_self)]
      show (readNaturals? numbers.length (numbers.map natural).flatten).bind _ = _
      rw [hmore]
      rfl

end Der

end Mailroom
