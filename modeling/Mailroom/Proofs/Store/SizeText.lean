import Mathlib.Algebra.Group.Int.Defs
import Mathlib.Algebra.Group.Nat.Defs
import Mailroom.Config.Setting
import Mailroom.Proofs.Dkim.TagList
import Mailroom.Proofs.Text.Decoding

/-! # Sizes in text

Apart from `unlimited` and `-1`, a text states a size if it is a decimal number of any length with
at most one letter behind it (`SizeLimit.Scaled`, `SizeLimit.IsCount`).  It is accepted if and only
if that size fits into 32 bits, and the limit is then exactly the size (`SizeLimit.parse_exact`).  A
limit that is given as an integer is the one that the decimal text of the integer denotes, and a
limit that was written out is read again (`SizeLimit.forms_agree`). -/

namespace Mailroom

/-! ### Numbers -/

theorem digitsValue_eq (digits : List Char) :
    digitsValue digits = Nat.ofDigitChars 10 digits 0 := by
  rw [digitsValue, Nat.ofDigitChars_eq_foldl]
  simp only [Nat.mul_comm 10]
  rfl

theorem readNat?_eq_some_iff {text : List Char} {n : Nat} :
    readNat? text = some n ↔
      text ≠ [] ∧ (∀ c ∈ text, c.isDigit = true) ∧ n = Nat.ofDigitChars 10 text 0 := by
  have hread : (!text.isEmpty && text.all Char.isDigit) = true ↔
      text ≠ [] ∧ ∀ c ∈ text, c.isDigit = true := by
    simp
  rw [readNat?, digitsValue_eq]
  split
  · next h =>
    obtain ⟨hne, hdigits⟩ := hread.mp h
    rw [Option.some.injEq]
    exact ⟨fun e => ⟨hne, hdigits, e.symm⟩, fun e => e.2.2.symm⟩
  · next h => exact ⟨nofun, fun e => absurd (hread.mpr ⟨e.1, e.2.1⟩) h⟩

theorem isDigit_of_mem_natDigits {n : Nat} {c : Char} (h : c ∈ natDigits n) : c.isDigit = true :=
  Nat.isDigit_of_mem_toDigits (by decide) (by decide) h

/-- **A number that was written is read.** -/
theorem readNat?_natDigits (n : Nat) : readNat? (natDigits n) = some n :=
  readNat?_eq_some_iff.mpr ⟨Nat.toDigits_ne_nil, fun _ => isDigit_of_mem_natDigits,
    Nat.ofDigitChars_ten_toDigits.symm⟩

/-- The decimal text of an integer. -/
theorem ofList_intDigits (n : Int) : String.ofList (intDigits n) = toString n := by
  cases n with
  | ofNat n => rfl
  | negSucc n => simp [intDigits, natDigits, Int.repr_eq_if, Nat.repr_eq_ofList_toDigits]

/-! ### Trimming -/

/-- Trimming does not change a text without white space. -/
theorem trimChars_of_none {text : List Char} (h : ∀ c ∈ text, isWhiteSpace c = false) :
    trimChars text = text := by
  have hdrop : ∀ text : List Char, (∀ c ∈ text, isWhiteSpace c = false) →
      text.dropWhile isWhiteSpace = text
    | [], _ => rfl
    | c :: text, h => List.dropWhile_cons_of_neg (by simp [h c])
  rw [trimChars, hdrop text h, hdrop _ fun c m => h c (List.mem_reverse.mp m), List.reverse_reverse]

theorem trim_ofList_intDigits (n : Int) :
    trim (String.ofList (intDigits n)) = String.ofList (intDigits n) := by
  rw [trim, String.toList_ofList,
    trimChars_of_none fun c m => (Dkim.isTagChar_of_mem_intDigits m).isWhiteSpace]

/-! ### Letters -/

theorem toNat_toUpper (c : Char) :
    c.toUpper.toNat = if 97 ≤ c.toNat ∧ c.toNat ≤ 122 then c.toNat - 32 else c.toNat := by
  have hlower : ('a'.val ≤ c.val ∧ c.val ≤ 'z'.val) ↔ 97 ≤ c.toNat ∧ c.toNat ≤ 122 := by
    simp only [UInt32.le_iff_toNat_le]
    rfl
  unfold Char.toUpper
  split
  · next h =>
    have hc := hlower.mp h
    rw [if_pos hc]
    show (c.val + ('A'.val - 'a'.val)).toNat = c.val.toNat - 32
    rw [UInt32.toNat_add, show ('A'.val - 'a'.val).toNat = 2 ^ 32 - 32 by decide]
    simp only [Char.toNat] at hc
    omega
  · next h => rw [if_neg (mt hlower.mpr h)]

namespace SizeLimit

/-- The letters that may stand behind a number, with the factor that each stands for. -/
def multiplierLetters : List (Char × Nat) :=
  [('K', 2 ^ 10), ('k', 2 ^ 10), ('M', 2 ^ 20), ('m', 2 ^ 20), ('G', 2 ^ 30), ('g', 2 ^ 30)]

theorem multiplier?_eq_some_iff {c : Char} {factor : Nat} :
    multiplier? c = some factor ↔ (c, factor) ∈ multiplierLetters := by
  have hupper : ∀ upper lower : Char, 65 ≤ upper.toNat ∧ upper.toNat ≤ 90 →
      lower.toNat = upper.toNat + 32 → c.toUpper = upper → c = upper ∨ c = lower := by
    intro upper lower hrange hlower h
    have hc := toNat_toUpper c
    rw [h] at hc
    rw [← Char.toNat_inj, ← Char.toNat_inj (d := lower)]
    split at hc <;> omega
  constructor
  · intro h
    unfold multiplier? at h
    split at h
    · next hc => rcases hupper 'K' 'k' (by decide) rfl hc with rfl | rfl <;> cases h <;> decide
    · next hc => rcases hupper 'M' 'm' (by decide) rfl hc with rfl | rfl <;> cases h <;> decide
    · next hc => rcases hupper 'G' 'g' (by decide) rfl hc with rfl | rfl <;> cases h <;> decide
    · cases h
  · intro h
    simp only [multiplierLetters, List.mem_cons, Prod.mk.injEq, List.not_mem_nil, or_false] at h
    rcases h with ⟨rfl, rfl⟩ | ⟨rfl, rfl⟩ | ⟨rfl, rfl⟩ | ⟨rfl, rfl⟩ | ⟨rfl, rfl⟩ | ⟨rfl, rfl⟩ <;> rfl

/-- What stands in front of a final letter, and the factor of that letter; a text without such a
letter stands alone. -/
inductive Scaled : List Char → List Char → Nat → Prop
  | letter (rest : List Char) {c : Char} {factor : Nat} (h : (c, factor) ∈ multiplierLetters) :
      Scaled (rest ++ [c]) rest factor
  | plain {text : List Char}
      (h : ∀ c factor, (c, factor) ∈ multiplierLetters → text.getLast? ≠ some c) :
      Scaled text text 1

variable {text rest : List Char} {factor n : Nat}

theorem cutMultiplier_eq_iff : cutMultiplier text = (rest, factor) ↔ Scaled text rest factor := by
  constructor
  · intro h
    unfold cutMultiplier at h
    split at h
    · next hcut =>
      obtain ⟨rfl, rfl⟩ := Prod.mk.inj h
      obtain ⟨c, hlast, hc⟩ := Option.bind_eq_some_iff.mp hcut
      obtain ⟨front, rfl⟩ := List.getLast?_eq_some_iff.mp hlast
      rw [List.dropLast_concat]
      exact .letter front (multiplier?_eq_some_iff.mp hc)
    · next hcut =>
      obtain ⟨rfl, rfl⟩ := Prod.mk.inj h
      refine .plain fun c factor hc hlast => ?_
      rw [hlast, Option.bind_some, multiplier?_eq_some_iff.mpr hc] at hcut
      cases hcut
  · rintro (⟨rest, h⟩ | h)
    · rw [cutMultiplier, List.getLast?_concat, Option.bind_some, multiplier?_eq_some_iff.mpr h,
        List.dropLast_concat]
    · unfold cutMultiplier
      split
      · next other hcut =>
        obtain ⟨c, hlast, hc⟩ := Option.bind_eq_some_iff.mp hcut
        exact absurd hlast (h c other (multiplier?_eq_some_iff.mp hc))
      · rfl

/-- A letter is one octet, so cutting one octet off never cuts a longer character in two. -/
theorem Scaled.utf8Chars_eq (h : Scaled text rest factor) (hcut : rest ≠ text) :
    utf8Chars rest = (utf8Chars text).take ((utf8Chars text).length - 1) := by
  cases h with
  | plain => exact absurd rfl hcut
  | @letter _ c factor h =>
      have hoctets : ∀ entry ∈ multiplierLetters, (String.utf8EncodeChar entry.1).length = 1 := by
        decide
      have hoctet : (String.utf8EncodeChar c).length = 1 := hoctets _ h
      rw [utf8Chars_append, List.length_append]
      simp [utf8Chars, hoctet]

/-! ### Sizes -/

/-- A decimal number of any length, perhaps behind a plus sign. -/
def IsCount (text : List Char) (n : Nat) : Prop :=
  ∃ digits, (text = digits ∨ text = '+' :: digits) ∧ digits ≠ [] ∧
    (∀ c ∈ digits, c.isDigit = true) ∧ n = Nat.ofDigitChars 10 digits 0

theorem readCount?_eq_some_iff : readCount? text = some n ↔ IsCount text n ∧ n < UInt64.size := by
  have hread : readCount? text = some n ↔
      (∃ digits, (text = digits ∨ text = '+' :: digits) ∧ readNat? digits = some n) ∧
        n < UInt64.size := by
    unfold readCount?
    split
    · next rest =>
      have hplus : readNat? ('+' :: rest) = none := by rw [readNat?]; rfl
      simp [Option.filter_eq_some_iff, hplus]
    · next hplus =>
      have hplus : ∀ digits, text ≠ '+' :: digits := fun digits e => hplus digits e
      simp [Option.filter_eq_some_iff, hplus]
  rw [hread]
  simp only [readNat?_eq_some_iff, IsCount]

/-- Whether a text stands for no limit. -/
def IsUnlimited (text : String) : Prop := lowerAscii text = "unlimited" ∨ text = "-1"

theorem Scaled.factor_pos (h : Scaled text rest factor) : 0 < factor := by
  have hletters : ∀ entry ∈ multiplierLetters, 0 < entry.2 := by decide
  cases h with
  | letter _ h => exact hletters _ h
  | plain => exact Nat.one_pos

variable {source : String}

theorem parse_of_isUnlimited (h : IsUnlimited (trim source)) : parse source = .ok unlimited := by
  have hcond : (equalsIgnoringCase (trim source) "unlimited" || trim source == "-1") = true := by
    rw [Bool.or_eq_true, equalsIgnoringCase_iff, beq_iff_eq]
    exact h
  unfold parse
  dsimp only
  rw [if_pos hcond]

theorem parse_of_scaled (hlimited : ¬ IsUnlimited (trim source))
    (hscaled : Scaled (trim source).toList rest factor) :
    parse source = match readCount? (trimChars rest) with
      | some n => ofNat (n * factor) (trim source)
      | none => .error (.invalid (trim source)) := by
  have hcond : ¬ (equalsIgnoringCase (trim source) "unlimited" || trim source == "-1") = true := by
    rw [Bool.or_eq_true, equalsIgnoringCase_iff, beq_iff_eq]
    exact hlimited
  have hcut := cutMultiplier_eq_iff.mpr hscaled
  cases hcount : readCount? (trimChars rest) <;>
    simp only [parse, if_neg hcond, hcut, hcount]

theorem ofNat_eq_ok_iff {size : Nat} {shown : String} {limit : SizeLimit} :
    ofNat size shown = .ok limit ↔
      size ≤ 2 ^ 32 - 1 ∧ limit.bytes?.map UInt32.toNat = some size := by
  have hsize : UInt32.size = 2 ^ 32 := rfl
  unfold ofNat
  split
  · next h =>
    have hexact : (UInt32.ofNat size).toNat = size := UInt32.toNat_ofNat_of_lt h
    constructor
    · intro e
      obtain rfl := Except.ok.inj e
      refine ⟨by omega, ?_⟩
      rw [ofBytes, Option.map_some, hexact]
    · rintro ⟨-, e⟩
      obtain ⟨bytes?⟩ := limit
      obtain ⟨bytes, rfl, hbytes⟩ := Option.map_eq_some_iff.mp e
      rw [ofBytes, ← hbytes, UInt32.ofNat_toNat]
  · next h => exact ⟨nofun, fun e => absurd e.1 (by omega)⟩

theorem ofNat_eq_error {size : Nat} {shown : String} (h : 2 ^ 32 - 1 < size) :
    ofNat size shown = .error (.tooLarge shown) := by
  have hsize : UInt32.size = 2 ^ 32 := rfl
  rw [ofNat, if_neg (by omega)]

/-- **A size is read exactly.**  White space around the text does not count.  After that,
`unlimited` in any case and `-1` stand for no limit.  Any other text is accepted if and only if what
stands in front of its final letter is a number whose product with the factor of that letter fits
into 32 bits, and that product is the limit; all other texts are refused.  Cutting off the letter
cuts off one octet, whatever character stands last. -/
theorem parse_exact (source : String) :
    let shown := trim source
    (IsUnlimited shown → parse source = .ok unlimited) ∧
    ∃ rest factor, Scaled shown.toList rest factor ∧
      (rest ≠ shown.toList → utf8Chars rest = (utf8 shown).take ((utf8 shown).length - 1)) ∧
      (¬ IsUnlimited shown →
        (∀ limit, parse source = .ok limit ↔
          ∃ n, IsCount (trimChars rest) n ∧ n * factor ≤ 2 ^ 32 - 1 ∧
            limit.bytes?.map UInt32.toNat = some (n * factor)) ∧
        ((∀ n, IsCount (trimChars rest) n → 2 ^ 32 - 1 < n * factor) →
          parse source = .error (.invalid shown) ∨ parse source = .error (.tooLarge shown))) := by
  intro shown
  refine ⟨parse_of_isUnlimited, ?_⟩
  obtain ⟨rest, factor, hcut⟩ : ∃ rest factor, cutMultiplier shown.toList = (rest, factor) :=
    ⟨_, _, rfl⟩
  have hscaled := cutMultiplier_eq_iff.mp hcut
  refine ⟨rest, factor, hscaled, hscaled.utf8Chars_eq, fun hlimited => ?_⟩
  have hparse := parse_of_scaled hlimited hscaled
  -- a number whose size fits into 32 bits fits into 64 bits itself
  have hread : ∀ {n}, IsCount (trimChars rest) n → n * factor ≤ 2 ^ 32 - 1 →
      readCount? (trimChars rest) = some n := fun {n} hn hfits => by
    have hle := Nat.le_mul_of_pos_right n hscaled.factor_pos
    have hword : UInt64.size = 2 ^ 64 := rfl
    exact readCount?_eq_some_iff.mpr ⟨hn, by omega⟩
  cases hcount : readCount? (trimChars rest) with
  | none =>
      rw [hcount] at hparse
      refine ⟨fun limit => ?_, fun _ => .inl hparse⟩
      rw [hparse]
      refine ⟨nofun, ?_⟩
      rintro ⟨n, hn, hfits, -⟩
      cases hcount.symm.trans (hread hn hfits)
  | some n =>
      rw [hcount] at hparse
      obtain ⟨hn, -⟩ := readCount?_eq_some_iff.mp hcount
      refine ⟨fun limit => ?_, fun hlarge => .inr (hparse.trans (ofNat_eq_error (hlarge n hn)))⟩
      rw [hparse]
      dsimp only
      rw [ofNat_eq_ok_iff]
      constructor
      · rintro ⟨hfits, e⟩
        exact ⟨n, hn, hfits, e⟩
      · rintro ⟨m, hm, hfits, e⟩
        obtain rfl : n = m := Option.some.inj (hcount.symm.trans (hread hm hfits))
        exact ⟨hfits, e⟩

/-! ### Integers and written limits -/

theorem mem_intDigits {c : Char} {n : Int} (h : c ∈ intDigits n) : c = '-' ∨ c.isDigit = true := by
  cases n with
  | ofNat n => exact .inr (isDigit_of_mem_natDigits h)
  | negSucc n => exact (List.mem_cons.mp h).imp id isDigit_of_mem_natDigits

theorem toNat_le_of_mem_intDigits {c : Char} {n : Int} (h : c ∈ intDigits n) : c.toNat ≤ 57 := by
  rcases mem_intDigits h with rfl | hdigit
  · decide
  · simp only [Char.isDigit, Bool.and_eq_true, decide_eq_true_eq, UInt32.le_iff_toNat_le] at hdigit
    exact hdigit.2

/-- The decimal text of an integer has no letter at its end. -/
theorem scaled_intDigits (n : Int) : Scaled (intDigits n) (intDigits n) 1 := by
  have hletters : ∀ entry ∈ multiplierLetters, ¬ (entry.1 = '-' ∨ entry.1.isDigit = true) := by
    decide
  exact .plain fun c factor hc hlast => hletters _ hc (mem_intDigits (List.mem_of_getLast? hlast))

theorem isUnlimited_ofList_intDigits {n : Int} :
    IsUnlimited (String.ofList (intDigits n)) ↔ n = -1 := by
  have hdash : ¬ '-'.isDigit = true := by decide
  constructor
  · rintro (h | h)
    · -- no character of the text is a letter
      have hu : 'u' ∈ (intDigits n).map Char.toLower := by
        rw [← String.toList_inj, lowerAscii, String.toList_ofList, String.toList_ofList] at h
        rw [h]
        decide
      obtain ⟨c, hc, hlower⟩ := List.mem_map.mp hu
      have hle := toNat_le_of_mem_intDigits hc
      have hkept : c.toLower = c := dif_neg fun hupper => by
        have : 65 ≤ c.toNat := by simpa [UInt32.le_iff_toNat_le] using hupper.1
        omega
      obtain rfl : c = 'u' := hkept.symm.trans hlower
      exact absurd hle (by decide)
    · rw [← String.toList_inj, String.toList_ofList] at h
      cases n with
      | ofNat n =>
          have hmem : '-' ∈ natDigits n := by
            rw [show natDigits n = _ from h]
            decide
          exact absurd (isDigit_of_mem_natDigits hmem) hdash
      | negSucc n =>
          have hone : natDigits (n + 1) = ['1'] := (List.cons.inj h).2
          have hread := readNat?_natDigits (n + 1)
          rw [hone] at hread
          obtain rfl : n = 0 := Nat.succ.inj (Option.some.inj hread).symm
          rfl
  · rintro rfl
    exact .inr (by decide)

theorem not_isCount_negSucc (n : Nat) (m : Nat) : ¬ IsCount (intDigits (.negSucc n)) m := by
  rintro ⟨digits, rfl | h, -, hdigits, -⟩
  · exact absurd (hdigits '-' List.mem_cons_self) (by decide)
  · cases h

theorem isCount_natDigits (n : Nat) : IsCount (natDigits n) n := by
  obtain ⟨hne, hdigits, hvalue⟩ := readNat?_eq_some_iff.mp (readNat?_natDigits n)
  exact ⟨natDigits n, .inl rfl, hne, hdigits, hvalue⟩

/-- **The decimal text of an integer** of 64 bits denotes the limit that the integer denotes. -/
theorem parse_intDigits {n : Int} (h : n < 2 ^ 64) :
    parse (String.ofList (intDigits n)) = ofInt n := by
  have htrim := trim_ofList_intDigits n
  unfold ofInt
  dsimp only
  split
  · next hn => exact parse_of_isUnlimited (htrim.symm ▸ isUnlimited_ofList_intDigits.mpr hn)
  · next hn =>
    have hlimited := mt isUnlimited_ofList_intDigits.mp hn
    have hscaled : Scaled (trim (String.ofList (intDigits n))).toList (intDigits n) 1 := by
      rw [htrim, String.toList_ofList]
      exact scaled_intDigits n
    rw [parse_of_scaled (htrim.symm ▸ hlimited) hscaled, htrim,
      trimChars_of_none fun c m => (Dkim.isTagChar_of_mem_intDigits m).isWhiteSpace]
    cases n with
    | ofNat n =>
        have hword : n < UInt64.size := Int.ofNat_lt.mp h
        rw [if_neg (by simp), show intDigits (.ofNat n) = natDigits n from rfl,
          readCount?_eq_some_iff.mpr ⟨isCount_natDigits n, hword⟩]
        simp
    | negSucc n =>
        have hnone : readCount? (intDigits (.negSucc n)) = none :=
          Option.eq_none_iff_forall_ne_some.mpr fun m e =>
            not_isCount_negSucc n m (readCount?_eq_some_iff.mp e).1
        rw [if_pos (Int.negSucc_lt_zero n), hnone]

/-- **The forms of a limit agree.**  An integer of 64 bits gives what its decimal text gives, as a
limit, as no limit or as a failure with the same message; and a limit that was written out is read
again. -/
theorem forms_agree :
    (∀ n : Int64, ofInt n.toInt = parse (toString n.toInt) ∧
      Config.size (.integer n.toInt) = Config.size (.string (toString n.toInt))) ∧
    ∀ limit : SizeLimit, parse limit.display = .ok limit := by
  constructor
  · intro n
    have hparse : parse (toString n.toInt) = ofInt n.toInt := by
      rw [← ofList_intDigits, parse_intDigits (by have := n.toInt_lt; omega)]
    refine ⟨hparse.symm, ?_⟩
    rw [Config.size, Config.size, hparse]
  · rintro ⟨_ | bytes⟩
    · exact parse_of_isUnlimited (.inl (by decide))
    · have hword := bytes.toNat_lt
      have hparse := parse_intDigits (n := bytes.toNat) (by omega)
      rw [ofInt, if_neg (by omega), if_neg (by omega), Int.toNat_natCast] at hparse
      refine hparse.trans (ofNat_eq_ok_iff.mpr ⟨by omega, rfl⟩)

end SizeLimit

end Mailroom
