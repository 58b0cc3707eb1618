import Mailroom.Text.Ascii
import Mailroom.Text.LowerCase

/-! # Lower-case text is a normal form

What a character is lowered to is lowered already (`isLower_of_mem_lowerChar`), as no run of the
table leads into another one (`image_apart_unreachedRuns`).  Hence lower-casing a text twice is
lower-casing it once (`lowerChars_lowerChars`), although the form of a sigma depends on the letters
around it.  It keeps the parts on both sides of an `@` apart (`exists_lowerFrom_at`), and it does not
see the case of ASCII letters (`lowerChars_map_toLower`). -/

namespace Mailroom

/-! ### ASCII letters -/

/-- Only ASCII letters are lowered. -/
theorem toLower_of_le {c : Char} (hc : 128 ≤ c.toNat) : c.toLower = c := by
  refine dif_neg fun hupper => ?_
  have hle : c.toNat ≤ 90 := by simpa [UInt32.le_iff_toNat_le] using hupper.2
  omega

/-- A fact of all ASCII characters from their numbers. -/
theorem forall_ascii {p : Char → Prop} (h : ∀ n < 128, p (Char.ofNat n)) {c : Char}
    (hc : c.toNat < 128) : p c := by
  have := h c.toNat hc
  rwa [Char.ofNat_toNat] at this

theorem toLower_toLower (c : Char) : c.toLower.toLower = c.toLower := by
  by_cases hc : c.toNat < 128
  · exact forall_ascii (p := fun c => c.toLower.toLower = c.toLower) (by decide) hc
  · have hkept := toLower_of_le (by omega : 128 ≤ c.toNat)
    rw [hkept, hkept]

/-- What is lowered to a character in front of all letters is this character. -/
theorem eq_of_toLower_eq {c d : Char} (hd : d.toNat < 65) (h : c.toLower = d) : c = d := by
  by_cases hupper : c.val ≥ 'A'.val ∧ c.val ≤ 'Z'.val
  · have e : (c.toNat + 32) % 4294967296 = d.toNat :=
      congrArg Char.toNat ((dif_pos hupper).symm.trans h)
    have hlow : 65 ≤ c.toNat := by simpa [UInt32.le_iff_toNat_le] using hupper.1
    have hhigh : c.toNat ≤ 90 := by simpa [UInt32.le_iff_toNat_le] using hupper.2
    omega
  · exact (dif_neg hupper).symm.trans h

/-- A character in front of all letters stands where it stood before lowering, and nowhere else. -/
theorem toLower_eq_iff {d : Char} (hd : d.toNat < 65) (c : Char) : c.toLower = d ↔ c = d := by
  refine ⟨eq_of_toLower_eq hd, ?_⟩
  rintro rfl
  refine dif_neg fun hupper => ?_
  have hlow : 65 ≤ c.toNat := by simpa [UInt32.le_iff_toNat_le] using hupper.1
  omega

/-! ### The table -/

namespace CaseRun

/-- The run of the code points that a run leads to. -/
def image (run : CaseRun) : CaseRun :=
  ⟨(run.first + run.shift).toNat, (run.last + run.shift).toNat, run.step, 0⟩

/-- Whether two runs have no code point in common: one ends before the other begins, or they go in
steps that never meet. -/
def apart (run other : CaseRun) : Bool :=
  Nat.blt run.last other.first || Nat.blt other.last run.first ||
    ((run.first == run.last || run.step % other.step == 0) &&
      run.first % other.step != other.first % other.step)

theorem contains_iff {run : CaseRun} {n : Nat} : run.contains n = true ↔
    run.first ≤ n ∧ n ≤ run.last ∧ (n - run.first) % run.step = 0 := by
  simp [contains, and_assoc]

theorem contains_image {run : CaseRun} (hshift : 0 ≤ run.first + run.shift) {n : Nat}
    (h : run.contains n = true) : run.image.contains (n + run.shift).toNat = true := by
  obtain ⟨hfirst, hlast, hstep⟩ := contains_iff.mp h
  have hoffset : (n + run.shift).toNat - (run.first + run.shift).toNat = n - run.first := by omega
  refine contains_iff.mpr ⟨?_, ?_, ?_⟩
  · show (run.first + run.shift).toNat ≤ _
    omega
  · show _ ≤ (run.last + run.shift).toNat
    omega
  · show ((n + run.shift).toNat - (run.first + run.shift).toNat) % run.step = 0
    rw [hoffset, hstep]

theorem not_contains_of_apart {run other : CaseRun} (h : run.apart other = true) {n : Nat}
    (hn : run.contains n = true) : other.contains n = false := by
  refine Bool.eq_false_iff.mpr fun hother => ?_
  obtain ⟨hfirst, hlast, hstep⟩ := contains_iff.mp hn
  obtain ⟨hfirst', hlast', hstep'⟩ := contains_iff.mp hother
  simp only [apart, Nat.blt_eq, Bool.or_eq_true, Bool.and_eq_true, beq_iff_eq, bne_iff_ne] at h
  rcases h with (h | h) | ⟨h, hne⟩
  · omega
  · omega
  · -- both first members are congruent to the common one modulo the step of the other run
    have hn' : n % other.step = other.first % other.step := by
      obtain ⟨k, hk⟩ := Nat.dvd_of_mod_eq_zero hstep'
      have e : n = other.first + other.step * k := by omega
      rw [e, Nat.add_mul_mod_self_left]
    refine hne (Eq.trans ?_ hn')
    rcases h with h | h
    · have e : n = run.first := by omega
      rw [e]
    · obtain ⟨k, hk⟩ := Nat.dvd_trans (Nat.dvd_of_mod_eq_zero h) (Nat.dvd_of_mod_eq_zero hstep)
      have e : n = run.first + other.step * k := by omega
      rw [e, Nat.add_mul_mod_self_left]

end CaseRun

/-- Runs that no character is lowered into: the ASCII capitals with the `@` in front of them, `İ`,
the surrogates, and the table itself. -/
def unreachedRuns : List CaseRun :=
  ⟨0x40, 0x5A, 1, 0⟩ :: ⟨0x130, 0x130, 1, 0⟩ :: ⟨0xD800, 0xDFFF, 1, 0⟩ :: lowerCaseRuns

theorem image_apart_unreachedRuns :
    (lowerCaseRuns.all fun run => unreachedRuns.all run.image.apart) = true := by
  decide +kernel

theorem shift_in_bounds : ∀ run ∈ lowerCaseRuns,
    0 ≤ run.first + run.shift ∧ run.last + run.shift < 0x110000 := by
  decide +kernel

/-- Whether a code point lies in none of these runs. -/
def IsUnreached (n : Nat) : Prop := ∀ run ∈ unreachedRuns, run.contains n = false

theorem isUnreached_shift {run : CaseRun} (hrun : run ∈ lowerCaseRuns) {n : Nat}
    (h : run.contains n = true) : IsUnreached (n + run.shift).toNat := by
  intro other hother
  have hall := List.all_eq_true.mp image_apart_unreachedRuns run hrun
  exact CaseRun.not_contains_of_apart (List.all_eq_true.mp hall other hother)
    (CaseRun.contains_image (shift_in_bounds run hrun).1 h)

theorem toNat_ofNat_shift {run : CaseRun} (hrun : run ∈ lowerCaseRuns) {n : Nat}
    (h : run.contains n = true) :
    (Char.ofNat (n + run.shift).toNat).toNat = (n + run.shift).toNat := by
  have hlast := (CaseRun.contains_iff.mp h).2.1
  have hbound := (shift_in_bounds run hrun).2
  have hsurrogate := isUnreached_shift hrun h ⟨0xD800, 0xDFFF, 1, 0⟩ (by simp [unreachedRuns])
  have hvalid : (n + run.shift).toNat.isValidChar := by
    simp only [CaseRun.contains, Nat.mod_one, beq_self_eq_true, Bool.and_true,
      Bool.and_eq_false_iff, decide_eq_false_iff_not] at hsurrogate
    unfold Nat.isValidChar
    omega
  rw [Char.ofNat, dif_pos hvalid]
  rfl

/-! ### Single characters -/

/-- Lower-casing keeps a character, wherever it stands. -/
def IsLower (c : Char) : Prop := lowerChar c = [c] ∧ c ≠ 'Σ'

instance (c : Char) : Decidable (IsLower c) := inferInstanceAs (Decidable (_ ∧ _))

theorem isLower_of_isUnreached {c : Char} (h : IsUnreached c.toNat) : IsLower c ∧ c ≠ '@' := by
  have hcapital := h ⟨0x40, 0x5A, 1, 0⟩ List.mem_cons_self
  have hdotted := h ⟨0x130, 0x130, 1, 0⟩ (by simp [unreachedRuns])
  have htable : ∀ run ∈ lowerCaseRuns, run.contains c.toNat = false := fun run m =>
    h run (by simp [unreachedRuns, m])
  refine ⟨⟨?_, ?_⟩, ?_⟩
  · unfold lowerChar
    split
    · have hkept : c.toLower = c := by
        refine dif_neg fun hupper => ?_
        have hrange : 65 ≤ c.toNat ∧ c.toNat ≤ 90 := by
          simpa [UInt32.le_iff_toNat_le] using hupper
        simp [CaseRun.contains] at hcapital
        omega
      rw [hkept]
    · split
      · next e =>
        rw [e] at hdotted
        exact absurd hdotted (by decide)
      · split
        · next run hrun =>
          have := htable run (List.mem_of_find?_eq_some hrun)
          rw [List.find?_some hrun] at this
          cases this
        · rfl
  · rintro rfl
    have hsigma : ∃ run ∈ lowerCaseRuns, run.contains 'Σ'.toNat = true := by decide +kernel
    obtain ⟨run, m, hrun⟩ := hsigma
    rw [htable run m] at hrun
    cases hrun
  · rintro rfl
    cases hcapital

/-- **What a character is lowered to is lowered,** and it is an `@` only if the character is. -/
theorem isLower_of_mem_lowerChar {c d : Char} (h : d ∈ lowerChar c) :
    IsLower d ∧ (d = '@' → c = '@') := by
  unfold lowerChar at h
  split at h
  · next hc =>
    obtain rfl := List.mem_singleton.mp h
    refine ⟨forall_ascii (p := fun c => IsLower c.toLower) (by decide +kernel) hc, ?_⟩
    exact eq_of_toLower_eq (by decide)
  · split at h
    · simp only [List.mem_cons, List.not_mem_nil, or_false] at h
      rcases h with rfl | rfl
      · exact ⟨by decide +kernel, fun e => absurd e (by decide)⟩
      · exact ⟨by decide +kernel, fun e => absurd e (by decide)⟩
    · split at h
      · next run hfind =>
        obtain rfl := List.mem_singleton.mp h
        have hrun := List.mem_of_find?_eq_some hfind
        have hcontains := List.find?_some hfind
        have hunreached := isUnreached_shift hrun hcontains
        rw [← toNat_ofNat_shift hrun hcontains] at hunreached
        obtain ⟨hlower, hat⟩ := isLower_of_isUnreached hunreached
        exact ⟨hlower, fun e => absurd e hat⟩
      · next hascii hdotted _ hfind =>
        obtain rfl := List.mem_singleton.mp h
        refine ⟨⟨?_, ?_⟩, id⟩
        · rw [lowerChar, if_neg hascii, if_neg hdotted, hfind]
        · rintro rfl
          have hsigma : lowerCaseRuns.find? (·.contains 'Σ'.toNat) ≠ none := by decide +kernel
          exact hsigma hfind

theorem lowerChar_ne_nil (c : Char) : lowerChar c ≠ [] := by
  unfold lowerChar
  split
  · exact List.cons_ne_nil _ _
  · split
    · exact List.cons_ne_nil _ _
    · split <;> exact List.cons_ne_nil _ _

theorem isLower_lowerSigma (before after : List Char) :
    IsLower (lowerSigma before after) ∧ lowerSigma before after ≠ '@' := by
  unfold lowerSigma
  split
  · exact ⟨by decide +kernel, by decide⟩
  · exact ⟨by decide +kernel, by decide⟩

/-! ### Texts -/

/-- What a single character of a text is lowered to. -/
theorem exists_lowerFrom_cons (before : List Char) (c : Char) (text : List Char) :
    ∃ lowered, lowerFrom before (c :: text) = lowered ++ lowerFrom (c :: before) text ∧
      lowered ≠ [] ∧ ∀ d ∈ lowered, IsLower d ∧ (d = '@' → c = '@') := by
  rw [lowerFrom]
  by_cases hc : c = 'Σ'
  · rw [if_pos hc]
    refine ⟨_, rfl, List.cons_ne_nil _ _, fun d m => ?_⟩
    obtain rfl := List.mem_singleton.mp m
    obtain ⟨hlower, hat⟩ := isLower_lowerSigma before text
    exact ⟨hlower, fun e => absurd e hat⟩
  · rw [if_neg hc]
    exact ⟨_, rfl, lowerChar_ne_nil c, fun d m => isLower_of_mem_lowerChar m⟩

/-- A text that was lowered consists of lower-case characters. -/
theorem isLower_of_mem_lowerFrom : ∀ {before text : List Char} {d : Char},
    d ∈ lowerFrom before text → IsLower d ∧ (d = '@' → '@' ∈ text)
  | before, c :: text, d, h => by
      obtain ⟨lowered, e, -, hlowered⟩ := exists_lowerFrom_cons before c text
      rw [e] at h
      rcases List.mem_append.mp h with h | h
      · obtain ⟨hlower, hat⟩ := hlowered d h
        exact ⟨hlower, fun e => hat e ▸ List.mem_cons_self⟩
      · obtain ⟨hlower, hat⟩ := isLower_of_mem_lowerFrom h
        exact ⟨hlower, fun e => List.mem_cons_of_mem c (hat e)⟩

/-- Lower-case characters stay as they are. -/
theorem lowerFrom_of_isLower (before : List Char) : ∀ {text : List Char},
    (∀ c ∈ text, IsLower c) → lowerFrom before text = text
  | [], _ => rfl
  | c :: text, h => by
      obtain ⟨hc, hsigma⟩ := h c List.mem_cons_self
      have ih := lowerFrom_of_isLower (c :: before) fun d m => h d (List.mem_cons_of_mem c m)
      rw [lowerFrom, if_neg hsigma, hc, ih]
      rfl

/-- **Lower-casing twice is lower-casing once.** -/
theorem lowerChars_lowerChars (text : List Char) : lowerChars (lowerChars text) = lowerChars text :=
  lowerFrom_of_isLower [] fun _ m => (isLower_of_mem_lowerFrom m).1

theorem lowerCase_lowerCase (s : String) : lowerCase (lowerCase s) = lowerCase s := by
  rw [lowerCase, lowerCase, String.toList_ofList, lowerChars_lowerChars]

theorem lowerFrom_eq_nil_iff {before text : List Char} : lowerFrom before text = [] ↔ text = [] := by
  cases text with
  | nil => exact iff_of_true rfl rfl
  | cons c text =>
      obtain ⟨lowered, e, hne, -⟩ := exists_lowerFrom_cons before c text
      refine iff_of_false (fun h => ?_) (List.cons_ne_nil c text)
      rw [e] at h
      exact hne (List.append_eq_nil_iff.mp h).1

/-- The parts around the first `@` are lowered to the parts around the first `@`, and to nothing only
if they are empty. -/
theorem exists_lowerFrom_at : ∀ (before : List Char) {localPart : List Char} (domain : List Char),
    '@' ∉ localPart → ∃ localPart' domain',
      lowerFrom before (localPart ++ '@' :: domain) = localPart' ++ '@' :: domain' ∧
        '@' ∉ localPart' ∧ (localPart' = [] ↔ localPart = []) ∧ (domain' = [] ↔ domain = [])
  | before, [], domain, _ =>
      ⟨[], lowerFrom ('@' :: before) domain, rfl, List.not_mem_nil, iff_of_true rfl rfl,
        lowerFrom_eq_nil_iff⟩
  | before, c :: localPart, domain, h => by
      obtain ⟨lowered, e, hne, hlowered⟩ :=
        exists_lowerFrom_cons before c (localPart ++ '@' :: domain)
      obtain ⟨localPart', domain', ih, hat, -, hdomain⟩ := exists_lowerFrom_at (c :: before) domain
        fun m => h (List.mem_cons_of_mem c m)
      refine ⟨lowered ++ localPart', domain', ?_, fun m => ?_, ?_, hdomain⟩
      · rw [List.cons_append, e, ih, List.append_assoc]
      · rcases List.mem_append.mp m with m | m
        · exact h ((hlowered '@' m).2 rfl ▸ List.mem_cons_self)
        · exact hat m
      · exact iff_of_false (fun e => hne (List.append_eq_nil_iff.mp e).1)
          (List.cons_ne_nil c localPart)

/-! ### The case of ASCII letters -/

theorem lowerChar_toLower (c : Char) : lowerChar c.toLower = lowerChar c := by
  by_cases hc : c.toNat < 128
  · exact forall_ascii (p := fun c => lowerChar c.toLower = lowerChar c) (by decide +kernel) hc
  · rw [toLower_of_le (by omega)]

/-- Of ASCII characters only the ranges that begin among them matter. -/
theorem inRanges_ascii (ranges : List (Nat × Nat)) {c : Char} (hc : c.toNat < 128) :
    inRanges ranges c = inRanges (ranges.filter fun range => Nat.blt range.1 128) c := by
  rw [inRanges, inRanges, List.any_filter]
  congr 1
  funext range
  have hstart : range.1 ≤ c.toNat → range.1 < 128 := fun h => Nat.lt_of_le_of_lt h hc
  by_cases h : range.1 ≤ c.toNat
  · simp [h, hstart h]
  · simp [h]

/-- Ranges that hold both cases of each ASCII letter or none hold both cases of any character. -/
theorem inRanges_toLower {ranges : List (Nat × Nat)}
    (h : ∀ n < 128, inRanges (ranges.filter fun range => Nat.blt range.1 128)
      (Char.ofNat n).toLower =
        inRanges (ranges.filter fun range => Nat.blt range.1 128) (Char.ofNat n)) (c : Char) :
    inRanges ranges c.toLower = inRanges ranges c := by
  by_cases hc : c.toNat < 128
  · have hlow : c.toLower.toNat < 128 :=
      forall_ascii (p := fun c => c.toLower.toNat < 128) (by decide) hc
    rw [inRanges_ascii ranges hc, inRanges_ascii ranges hlow]
    exact forall_ascii (p := fun c => inRanges _ c.toLower = inRanges _ c) h hc
  · rw [toLower_of_le (by omega)]

theorem isCased_toLower (c : Char) : isCased c.toLower = isCased c :=
  inRanges_toLower (by decide +kernel) c

theorem isCaseIgnorable_toLower (c : Char) : isCaseIgnorable c.toLower = isCaseIgnorable c :=
  inRanges_toLower (by decide +kernel) c

theorem toLower_eq_sigma_iff {c : Char} : c.toLower = 'Σ' ↔ c = 'Σ' := by
  by_cases hc : c.toNat < 128
  · exact forall_ascii (p := fun c => c.toLower = 'Σ' ↔ c = 'Σ') (by decide +kernel) hc
  · rw [toLower_of_le (by omega)]

theorem reachesCased_map_toLower (text : List Char) :
    reachesCased (text.map Char.toLower) = reachesCased text := by
  have hignorable : isCaseIgnorable ∘ Char.toLower = isCaseIgnorable :=
    funext isCaseIgnorable_toLower
  rw [reachesCased, reachesCased, List.dropWhile_map, hignorable]
  cases text.dropWhile isCaseIgnorable with
  | nil => rfl
  | cons c _ => exact isCased_toLower c

theorem lowerSigma_map_toLower (before after : List Char) :
    lowerSigma (before.map Char.toLower) (after.map Char.toLower) = lowerSigma before after := by
  rw [lowerSigma, lowerSigma, reachesCased_map_toLower, reachesCased_map_toLower]

theorem lowerFrom_map_toLower : ∀ before text : List Char,
    lowerFrom (before.map Char.toLower) (text.map Char.toLower) = lowerFrom before text
  | _, [] => rfl
  | before, c :: text => by
      have ih := lowerFrom_map_toLower (c :: before) text
      rw [List.map_cons, lowerFrom, lowerFrom, ← List.map_cons, ih, lowerSigma_map_toLower,
        lowerChar_toLower]
      simp only [toLower_eq_sigma_iff]

/-- **The case of ASCII letters does not matter** for the lower-case form. -/
theorem lowerChars_map_toLower (text : List Char) :
    lowerChars (text.map Char.toLower) = lowerChars text :=
  lowerFrom_map_toLower [] text

end Mailroom
