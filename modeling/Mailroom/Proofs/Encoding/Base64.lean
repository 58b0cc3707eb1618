import Mailroom.Encoding.Base64

/-! # Reading back what was written in base64

Six-bit values and their characters are one to one (`base64Value?_base64Char`), and no such
character is the padding character, so each group of four characters is read as the octets it was
written for: `unbase64?_base64Chars`. -/

namespace Mailroom

theorem base64Value?_base64Char : ∀ n < 64, base64Value? (base64Char n) = some n := by decide

theorem base64Char_ne_padding : ∀ n < 64, base64Char n ≠ '=' := by decide

/-- A group without padding: four six-bit values hold 24 bits. -/
theorem unbase64?_group {n : Nat} (hn : n < 64 * 64 * 64 * 64) {rest : List Char} {bytes : Bytes}
    (hrest : unbase64? rest = some bytes) :
    unbase64? (base64Char (n / 262144) :: base64Char (n / 4096 % 64) ::
        base64Char (n / 64 % 64) :: base64Char (n % 64) :: rest) =
      some (UInt8.ofNat (n / 65536) :: UInt8.ofNat (n / 256 % 256) :: UInt8.ofNat (n % 256) ::
        bytes) := by
  have hpad := base64Char_ne_padding (n % 64) (by omega)
  have e : ((n / 262144 * 64 + n / 4096 % 64) * 64 + n / 64 % 64) * 64 + n % 64 = n := by omega
  rw [unbase64?.eq_4 _ _ _ _ _ (fun _ h _ => hpad h) (fun h _ => hpad h),
    base64Value?_base64Char _ (by omega), base64Value?_base64Char _ (by omega),
    base64Value?_base64Char _ (by omega), base64Value?_base64Char _ (by omega), hrest]
  simp only [Option.bind_eq_bind, Option.bind_some, e]
  rfl

/-- A group with one padding character: three six-bit values hold 16 bits and two zeros. -/
theorem unbase64?_group_one {n : Nat} (hn : n < 64 * 64 * 64) (hzero : n % 4 = 0) :
    unbase64? [base64Char (n / 4096), base64Char (n / 64 % 64), base64Char (n % 64), '='] =
      some [UInt8.ofNat (n / 1024), UInt8.ofNat (n / 4 % 256)] := by
  have hpad := base64Char_ne_padding (n % 64) (by omega)
  have e : (n / 4096 * 64 + n / 64 % 64) * 64 + n % 64 = n := by omega
  rw [unbase64?.eq_3 _ _ _ hpad, base64Value?_base64Char _ (by omega),
    base64Value?_base64Char _ (by omega), base64Value?_base64Char _ (by omega)]
  simp only [Option.bind_eq_bind, Option.bind_some, e, hzero, ↓reduceIte]
  rfl

/-- A group with two padding characters: two six-bit values hold 8 bits and four zeros. -/
theorem unbase64?_group_two {n : Nat} (hn : n < 64 * 64) (hzero : n % 16 = 0) :
    unbase64? [base64Char (n / 64), base64Char (n % 64), '=', '='] =
      some [UInt8.ofNat (n / 16)] := by
  have e : n / 64 * 64 + n % 64 = n := by omega
  rw [unbase64?.eq_2, base64Value?_base64Char _ (by omega), base64Value?_base64Char _ (by omega)]
  simp only [Option.bind_eq_bind, Option.bind_some, e, hzero, ↓reduceIte]
  rfl

theorem ofNat_eq_of_toNat {b : UInt8} {n : Nat} (h : n = b.toNat) : UInt8.ofNat n = b := by
  rw [h, UInt8.ofNat_toNat]

/-- **What was written in base64 is read back.** -/
theorem unbase64?_base64Chars : ∀ bytes : Bytes, unbase64? (base64Chars bytes) = some bytes
  | [] => rfl
  | [a] => by
      have ha := a.toNat_lt
      rw [base64Chars, unbase64?_group_two (by omega) (by omega),
        ofNat_eq_of_toNat (b := a) (by omega)]
  | [a, b] => by
      have ha := a.toNat_lt
      have hb := b.toNat_lt
      rw [base64Chars, unbase64?_group_one (by omega) (by omega),
        ofNat_eq_of_toNat (b := a) (by omega), ofNat_eq_of_toNat (b := b) (by omega)]
  | a :: b :: c :: rest => by
      have ha := a.toNat_lt
      have hb := b.toNat_lt
      have hc := c.toNat_lt
      rw [base64Chars, unbase64?_group (by omega) (unbase64?_base64Chars rest),
        ofNat_eq_of_toNat (b := a) (by omega), ofNat_eq_of_toNat (b := b) (by omega),
        ofNat_eq_of_toNat (b := c) (by omega)]

end Mailroom
