import Mailroom.Text.Blank
import Mailroom.Text.Utf8

/-! # Reading back what was written in UTF-8

The decoder of `Mailroom.Utf8` takes one octet at a time.  On the octets of one character it runs
through the pending states of that character and ends between characters with this one item
more (`foldl_step_encodeChar`), so a written text is read back character by character
(`characters_utf8Chars`), with nothing to replace (`decodeLossyChars_utf8Chars`). -/

namespace Mailroom
namespace Utf8

/-! ### One octet -/

/-- A first octet that announces one tail octet. -/
theorem ofLead?_two : ∀ n < 32, 2 ≤ n →
    Pending.ofLead? (UInt8.ofNat (n + 192)) = some ⟨1, 0x80, 0xBF, n⟩ := by decide

/-- A first octet that announces two tail octets. -/
theorem ofLead?_three : ∀ n < 16,
    Pending.ofLead? (UInt8.ofNat (n + 224)) =
      some ⟨2, if n = 0 then 0xA0 else 0x80, if n = 13 then 0x9F else 0xBF, n⟩ := by decide

/-- A first octet that announces three tail octets. -/
theorem ofLead?_four : ∀ n < 5,
    Pending.ofLead? (UInt8.ofNat (n + 240)) =
      some ⟨3, if n = 0 then 0x90 else 0x80, if n = 4 then 0x8F else 0xBF, n⟩ := by decide

theorem toNat_tail : ∀ n < 64, (UInt8.ofNat (n + 128)).toNat - 0x80 = n := by decide

theorem tail_le : ∀ n < 64, 0x80 ≤ UInt8.ofNat (n + 128) ∧ UInt8.ofNat (n + 128) ≤ 0xBF := by
  decide

theorem ofNat_le_ofNat {m n : Nat} (h : m ≤ n) (hn : n < 256) : UInt8.ofNat m ≤ UInt8.ofNat n := by
  rw [UInt8.le_iff_toNat_le, UInt8.toNat_ofNat_of_lt' hn,
    UInt8.toNat_ofNat_of_lt' (Nat.lt_of_le_of_lt h hn)]
  exact h

theorem step_ascii (items : List (Option Char)) {n : Nat} (h : n < 128) :
    Decoder.step ⟨items, none⟩ (UInt8.ofNat n) = ⟨some (Char.ofNat n) :: items, none⟩ := by
  have e : (UInt8.ofNat n).toNat = n := UInt8.toNat_ofNat_of_lt' (Nat.lt_trans h (by decide))
  have hlt : UInt8.ofNat n < 0x80 := by
    rw [UInt8.lt_iff_toNat_lt, e]
    exact h
  simp only [Decoder.step, Decoder.start, hlt, ↓reduceIte, e]

theorem step_lead (items : List (Option Char)) {b : UInt8} {p : Pending}
    (h : Pending.ofLead? b = some p) (hb : 0x80 ≤ b) :
    Decoder.step ⟨items, none⟩ b = ⟨items, some p⟩ := by
  have hlt : ¬ b < 0x80 := UInt8.not_lt.mpr hb
  simp only [Decoder.step, Decoder.start, hlt, ↓reduceIte, h]

/-- A tail octet that leaves more tail octets owed. -/
theorem step_tail (items : List (Option Char)) (owed : Nat) {code n : Nat} {low high : UInt8}
    (hn : n < 64) (hlow : low ≤ UInt8.ofNat (n + 128)) (hhigh : UInt8.ofNat (n + 128) ≤ high) :
    Decoder.step ⟨items, some ⟨owed + 2, low, high, code⟩⟩ (UInt8.ofNat (n + 128)) =
      ⟨items, some ⟨owed + 1, 0x80, 0xBF, code * 64 + n⟩⟩ := by
  simp only [Decoder.step, hlow, hhigh, decide_true, Bool.and_self, ↓reduceIte, toNat_tail n hn]
  rfl

/-- The last tail octet of a character. -/
theorem step_last (items : List (Option Char)) {code n : Nat} {low high : UInt8}
    (hn : n < 64) (hlow : low ≤ UInt8.ofNat (n + 128)) (hhigh : UInt8.ofNat (n + 128) ≤ high) :
    Decoder.step ⟨items, some ⟨1, low, high, code⟩⟩ (UInt8.ofNat (n + 128)) =
      ⟨some (Char.ofNat (code * 64 + n)) :: items, none⟩ := by
  simp only [Decoder.step, hlow, hhigh, decide_true, Bool.and_self, ↓reduceIte, toNat_tail n hn]

/-! ### One character -/

/-- **The octets of one character are read as this character.** -/
theorem foldl_step_encodeChar (items : List (Option Char)) (c : Char) :
    (String.utf8EncodeChar c).foldl Decoder.step ⟨items, none⟩ = ⟨some c :: items, none⟩ := by
  have hvalid : c.val.toNat < 0xD800 ∨ 0xDFFF < c.val.toNat ∧ c.val.toNat < 0x110000 := c.valid
  have hback : ∀ n, n = c.val.toNat → Char.ofNat n = c := fun n h => h ▸ Char.ofNat_toNat c
  unfold String.utf8EncodeChar
  generalize c.val.toNat = v at hvalid hback
  dsimp only
  -- one case for each number of octets; the bits of `v` are cut into groups of six
  split
  · next h1 =>
    rw [List.foldl_cons, step_ascii items (by omega), List.foldl_nil, hback v rfl]
  · split
    · next h1 h2 =>
      have lead := ofLead?_two (v / 64 % 32) (by omega) (by omega)
      have last := tail_le (v % 64) (by omega)
      rw [List.foldl_cons, step_lead items lead (ofNat_le_ofNat (m := 128) (by omega) (by omega)),
        List.foldl_cons, step_last items (by omega) last.1 last.2, List.foldl_nil,
        hback _ (by omega)]
    · split
      · next h1 h2 h3 =>
        have lead := ofLead?_three (v / 4096 % 16) (by omega)
        have mid := tail_le (v / 64 % 64) (by omega)
        have last := tail_le (v % 64) (by omega)
        rw [List.foldl_cons, step_lead items lead (ofNat_le_ofNat (m := 128) (by omega) (by omega)),
          List.foldl_cons, step_tail items 0 (by omega), List.foldl_cons,
          step_last items (by omega) last.1 last.2, List.foldl_nil, hback _ (by omega)]
        · split
          · exact ofNat_le_ofNat (m := 0xA0) (by omega) (by omega)
          · exact mid.1
        · split
          · exact ofNat_le_ofNat (n := 0x9F) (by omega) (by omega)
          · exact mid.2
      · next h1 h2 h3 =>
        have lead := ofLead?_four (v / 262144 % 8) (by omega)
        have second := tail_le (v / 4096 % 64) (by omega)
        have third := tail_le (v / 64 % 64) (by omega)
        have last := tail_le (v % 64) (by omega)
        rw [List.foldl_cons, step_lead items lead (ofNat_le_ofNat (m := 128) (by omega) (by omega)),
          List.foldl_cons, step_tail items 1 (by omega), List.foldl_cons,
          step_tail items 0 (by omega) third.1 third.2, List.foldl_cons,
          step_last items (by omega) last.1 last.2, List.foldl_nil, hback _ (by omega)]
        · split
          · exact ofNat_le_ofNat (m := 0x90) (by omega) (by omega)
          · exact second.1
        · split
          · exact ofNat_le_ofNat (n := 0x8F) (by omega) (by omega)
          · exact second.2

/-! ### A whole text -/

theorem foldl_step_utf8Chars (items : List (Option Char)) (text : List Char) :
    (utf8Chars text).foldl Decoder.step ⟨items, none⟩ =
      ⟨(text.map some).reverse ++ items, none⟩ := by
  induction text generalizing items with
  | nil => rfl
  | cons c text ih =>
      have e : utf8Chars (c :: text) = String.utf8EncodeChar c ++ utf8Chars text := rfl
      rw [e, List.foldl_append, foldl_step_encodeChar, ih]
      simp

/-- **A written text is read back character by character.** -/
theorem characters_utf8Chars (text : List Char) : characters (utf8Chars text) = text.map some := by
  simp [characters, foldl_step_utf8Chars, Decoder.finish]

end Utf8

/-- Nothing is replaced in the octets of a text. -/
theorem decodeLossyChars_utf8Chars (text : List Char) :
    decodeLossyChars (utf8Chars text) = text := by
  simp [decodeLossyChars, Utf8.characters_utf8Chars, Function.comp_def]

/-! ### ASCII octets -/

/-- The octets of characters outside of ASCII are outside of ASCII. -/
theorem eq_of_mem_utf8EncodeChar {n : Nat} (hn : n < 128) {c : Char}
    (h : UInt8.ofNat n ∈ String.utf8EncodeChar c) : c = Char.ofNat n := by
  have hn' : (UInt8.ofNat n).toNat = n := UInt8.toNat_ofNat_of_lt' (Nat.lt_trans hn (by decide))
  have hne : ∀ m, 128 ≤ m → m < 256 → UInt8.ofNat n ≠ UInt8.ofNat m := by
    intro m h1 h2 e
    have := congrArg UInt8.toNat e
    rw [hn', UInt8.toNat_ofNat_of_lt' h2] at this
    omega
  unfold String.utf8EncodeChar at h
  dsimp only at h
  split at h
  · next h1 =>
    have hlt : c.val.toNat < UInt8.size := Nat.lt_of_le_of_lt h1 (by decide)
    have e := congrArg UInt8.toNat (List.mem_singleton.mp h)
    rw [hn', UInt8.toNat_ofNat_of_lt' hlt] at e
    rw [e]
    exact (Char.ofNat_toNat c).symm
  · exfalso
    split at h
    · simp only [List.mem_cons, List.not_mem_nil, or_false] at h
      rcases h with h | h <;> exact hne _ (by omega) (by omega) h
    · split at h
      · simp only [List.mem_cons, List.not_mem_nil, or_false] at h
        rcases h with h | h | h <;> exact hne _ (by omega) (by omega) h
      · simp only [List.mem_cons, List.not_mem_nil, or_false] at h
        rcases h with h | h | h | h <;> exact hne _ (by omega) (by omega) h

theorem utf8Chars_append (text more : List Char) :
    utf8Chars (text ++ more) = utf8Chars text ++ utf8Chars more :=
  List.flatMap_append

theorem utf8_append (text more : String) : utf8 (text ++ more) = utf8 text ++ utf8 more := by
  rw [utf8, String.toList_append, utf8Chars_append]
  rfl

/-- An ASCII octet in the octets is that character in the text. -/
theorem ofNat_notMem_utf8Chars {n : Nat} (hn : n < 128) {text : List Char}
    (h : Char.ofNat n ∉ text) : UInt8.ofNat n ∉ utf8Chars text := by
  intro hb
  obtain ⟨c, hc, hb⟩ := List.mem_flatMap.mp hb
  exact h (eq_of_mem_utf8EncodeChar hn hb ▸ hc)

theorem lf_notMem_utf8Chars {text : List Char} (h : '\n' ∉ text) : Octet.lf ∉ utf8Chars text :=
  ofNat_notMem_utf8Chars (n := 10) (by decide) h

theorem colon_notMem_utf8Chars {text : List Char} (h : ':' ∉ text) :
    Octet.colon ∉ utf8Chars text :=
  ofNat_notMem_utf8Chars (n := 58) (by decide) h

/-- The first octet of a text is one of its first character. -/
theorem exists_of_head?_utf8Chars {text : List Char} {b : UInt8}
    (h : b ∈ (utf8Chars text).head?) : ∃ c ∈ text.head?, b ∈ String.utf8EncodeChar c := by
  cases text with
  | nil => cases h
  | cons c text =>
      refine ⟨c, rfl, ?_⟩
      cases hchar : String.utf8EncodeChar c with
      | nil => exact absurd (congrArg List.length hchar) (by simp [Nat.ne_of_gt c.utf8Size_pos])
      | cons first more =>
          rw [utf8Chars, List.flatMap_cons, hchar] at h
          exact Option.some.inj h ▸ List.mem_cons_self

end Mailroom
