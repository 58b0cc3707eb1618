import Mailroom.Proofs.Dkim.TagList
import Mailroom.Proofs.Header.RoundTrip

/-! # Quoted values

In a quoted value, `=` starts a group of an octet in hexadecimal and every other character stands
for itself; `unquoted?` reads such a value.  A quoted text is read back as its octets
(`unquoted?_flatMap`), so quoting loses nothing, and it fits into a tag: no character of it ends the
tag or is lost when the tag is folded (`quotedPrintable_lossless`). -/

namespace Mailroom.Dkim

/-! ### Reading a quoted value -/

/-- A hexadecimal digit as it is written in a quoted value. -/
def IsUpperHexDigit (c : Char) : Prop := ('0' ≤ c ∧ c ≤ '9') ∨ ('A' ≤ c ∧ c ≤ 'F')

instance (c : Char) : Decidable (IsUpperHexDigit c) := inferInstanceAs (Decidable (_ ∨ _))

/-- The value of an upper-case hexadecimal digit. -/
def upperHexValue? (c : Char) : Option Nat :=
  if '0' ≤ c ∧ c ≤ '9' then some (c.toNat - 48)
  else if 'A' ≤ c ∧ c ≤ 'F' then some (c.toNat - 55)
  else none

/-- The octets of a quoted value.  An `=` without two digits behind it has no meaning. -/
def unquoted? : List Char → Option Bytes
  | [] => some []
  | '=' :: high :: low :: text => do
    let octet := UInt8.ofNat ((← upperHexValue? high) * 16 + (← upperHexValue? low))
    return octet :: (← unquoted? text)
  | c :: text => if c = '=' then none else (unquoted? text).map (String.utf8EncodeChar c ++ ·)

/-! ### One octet -/

theorem isUpperHexDigit_upperHexDigit : ∀ n < 16, IsUpperHexDigit (upperHexDigit n) := by decide

theorem upperHexValue?_upperHexDigit : ∀ n < 16, upperHexValue? (upperHexDigit n) = some n := by
  decide

theorem IsUpperHexDigit.ne_equals {c : Char} (h : IsUpperHexDigit c) : c ≠ '=' := by
  rintro rfl
  exact absurd h (by decide)

/-- An octet that stands for itself is the one octet of an ASCII character other than `=`. -/
theorem literal_of_isTagSafe {b : UInt8} (h : isTagSafe b = true) :
    Char.ofNat b.toNat ≠ '=' ∧ String.utf8EncodeChar (Char.ofNat b.toNat) = [b] := by
  have hall : ∀ n < 256, isTagSafe (UInt8.ofNat n) = true →
      Char.ofNat n ≠ '=' ∧ String.utf8EncodeChar (Char.ofNat n) = [UInt8.ofNat n] := by
    decide +kernel
  have hb := hall b.toNat b.toNat_lt
  rw [UInt8.ofNat_toNat] at hb
  exact hb h

theorem unquoted?_cons_of_ne {c : Char} (h : c ≠ '=') (text : List Char) :
    unquoted? (c :: text) = (unquoted? text).map (String.utf8EncodeChar c ++ ·) := by
  rw [unquoted?.eq_3 _ _ fun _ _ _ e _ => h e, if_neg h]

/-- **A quoted octet is read as this octet,** whatever follows. -/
theorem unquoted?_quotedOctet (b : UInt8) (text : List Char) :
    unquoted? (quotedOctet b ++ text) = (unquoted? text).map (b :: ·) := by
  unfold quotedOctet
  split
  · next hsafe =>
    obtain ⟨hne, hoctets⟩ := literal_of_isTagSafe hsafe
    rw [List.singleton_append, unquoted?_cons_of_ne hne, hoctets]
    rfl
  · have hb := b.toNat_lt
    have e : b.toNat / 16 * 16 + b.toNat % 16 = b.toNat := by omega
    show unquoted? ('=' :: upperHexDigit _ :: upperHexDigit _ :: text) = _
    rw [unquoted?, upperHexValue?_upperHexDigit _ (by omega),
      upperHexValue?_upperHexDigit _ (by omega)]
    simp only [Option.bind_eq_bind, Option.bind_some, e, UInt8.ofNat_toNat]
    cases unquoted? text <;> rfl

/-! ### A whole text -/

/-- **Quoted octets are read back.** -/
theorem unquoted?_flatMap : ∀ bytes : Bytes, unquoted? (bytes.flatMap quotedOctet) = some bytes
  | [] => rfl
  | b :: bytes => by
      rw [List.flatMap_cons, unquoted?_quotedOctet, unquoted?_flatMap bytes]
      rfl

/-- Every `=` among quoted octets starts a group. -/
theorem group_of_flatMap : ∀ {bytes : Bytes} {before after : List Char},
    bytes.flatMap quotedOctet = before ++ '=' :: after →
      ∃ high low text, after = high :: low :: text ∧ IsUpperHexDigit high ∧ IsUpperHexDigit low
  | [], before, after, h => by cases before <;> cases h
  | b :: bytes, before, after, h => by
      rw [List.flatMap_cons, quotedOctet] at h
      split at h
      · next hsafe =>
        -- an octet that stands for itself is no `=`, so the `=` comes later
        rcases before with _ | ⟨c, before⟩
        · exact absurd (List.cons.inj h).1 (literal_of_isTagSafe hsafe).1
        · exact group_of_flatMap (List.cons.inj h).2
      · have hb := b.toNat_lt
        have hhigh := isUpperHexDigit_upperHexDigit (b.toNat / 16) (by omega)
        have hlow := isUpperHexDigit_upperHexDigit (b.toNat % 16) (by omega)
        -- the `=` of this group, one of its two digits, or a later character
        rcases before with _ | ⟨c, _ | ⟨d, _ | ⟨e, before⟩⟩⟩
        · exact ⟨_, _, _, (List.cons.inj h).2.symm, hhigh, hlow⟩
        · obtain ⟨-, h⟩ := List.cons.inj h
          exact absurd (List.cons.inj h).1 hhigh.ne_equals
        · obtain ⟨-, h⟩ := List.cons.inj h
          obtain ⟨-, h⟩ := List.cons.inj h
          exact absurd (List.cons.inj h).1 hlow.ne_equals
        · obtain ⟨-, h⟩ := List.cons.inj h
          obtain ⟨-, h⟩ := List.cons.inj h
          exact group_of_flatMap (List.cons.inj h).2

/-- **Quoting is lossless and safe in a tag.**  A quoted text consists of printable ASCII characters
other than the semicolon, each `=` in it starts a group of two upper-case hexadecimal digits, and it
is read back as the octets of the text.  So no two texts are quoted alike. -/
theorem quotedPrintable_lossless (text : String) :
    (∀ c ∈ (quotedPrintable text).toList, 0x21 ≤ c.toNat ∧ c.toNat ≤ 0x7E ∧ c ≠ ';') ∧
    (∀ before after, (quotedPrintable text).toList = before ++ '=' :: after →
      ∃ high low rest, after = high :: low :: rest ∧
        IsUpperHexDigit high ∧ IsUpperHexDigit low) ∧
    unquoted? (quotedPrintable text).toList = some (utf8 text) ∧
    ∀ other, quotedPrintable other = quotedPrintable text → other = text := by
  have hread : ∀ s, unquoted? (quotedPrintable s).toList = some (utf8 s) := fun s => by
    rw [quotedPrintable, String.toList_ofList, unquoted?_flatMap]
  refine ⟨fun c m => isTagChar_of_mem_quotedPrintable m, fun before after h => ?_, hread text,
    fun other h => ?_⟩
  · rw [quotedPrintable, String.toList_ofList] at h
    exact group_of_flatMap h
  · have hoctets := hread other
    rw [h, hread text] at hoctets
    exact utf8_inj (Option.some.inj hoctets).symm

example : quotedPrintable "a b;c=d" = "a=20b=3Bc=3Dd" := by decide

end Mailroom.Dkim
