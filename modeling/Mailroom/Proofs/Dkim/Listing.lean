import Mailroom.Proofs.Dkim.Selection

/-! # The list of signed names covers what it should

The specification of the list: each name that was asked for stands at its first listing
(`firstListings`), in one block whose length is `blockLength`.  The list that `namesToSign` makes is
exactly that, and what it picks is, block by block, every field of the name from the bottom up;
hence every field with a name that was asked for is picked once, and no other field
(`namesToSign_exact`). -/

namespace Mailroom.Dkim

/-! ### First listings -/

/-- Each name at its first listing: the later names that equal it, up to case, are left out. -/
def firstListings : List String → List String
  | [] => []
  | name :: names =>
    name :: (firstListings names).filter fun other => !equalsIgnoringCase name other

/-- Whether a name is one of some names, up to case. -/
def listedIn (names : List String) (name : String) : Bool := names.any (equalsIgnoringCase name)

@[simp] theorem listedIn_nil (name : String) : listedIn [] name = false := rfl

@[simp] theorem listedIn_cons (first : String) (names : List String) (name : String) :
    listedIn (first :: names) name = (equalsIgnoringCase name first || listedIn names name) :=
  List.any_cons

theorem listedIn_of_equal {names : List String} {a b : String}
    (hab : equalsIgnoringCase a b = true) (h : listedIn names b = true) :
    listedIn names a = true := by
  obtain ⟨n, mn, hn⟩ := List.any_eq_true.mp h
  exact List.any_eq_true.mpr ⟨n, mn, equalsIgnoringCase_trans hab hn⟩

/-- **The fresh names** are the first listings that were not seen before. -/
theorem freshNames_eq (seen names : List String) :
    freshNames seen names = (firstListings names).filter fun name => !listedIn seen name := by
  induction names generalizing seen with
  | nil => rfl
  | cons first names ih =>
      rw [freshNames, firstListings]
      by_cases hseen : seen.any (equalsIgnoringCase first) = true
      · -- the first name was seen, and so was every later one that equals it
        have hlater : ∀ name, (!listedIn seen name && !equalsIgnoringCase first name) =
            !listedIn seen name := by
          intro name
          by_cases heq : equalsIgnoringCase first name = true
          · have hname : listedIn seen name = true :=
              listedIn_of_equal (equalsIgnoringCase_comm name first ▸ heq) hseen
            simp [hname]
          · simp [heq]
        have hfirst : listedIn seen first = true := hseen
        rw [if_pos hseen, ih, List.filter_cons_of_neg (by simp [hfirst]), List.filter_filter]
        simp only [hlater]
      · have hfirst : ¬ listedIn seen first = true := hseen
        have hlater : ∀ name, (!listedIn (first :: seen) name) =
            (!listedIn seen name && !equalsIgnoringCase first name) := by
          intro name
          rw [listedIn_cons, Bool.not_or, Bool.and_comm, equalsIgnoringCase_comm name first]
        rw [if_neg hseen, ih, List.filter_cons_of_pos (by simp [hfirst]), List.filter_filter]
        simp only [hlater]

/-- First listings among more names: those of the names before, then those that are new. -/
theorem firstListings_append (before names : List String) :
    firstListings (before ++ names) =
      firstListings before ++ (firstListings names).filter fun name => !listedIn before name := by
  induction before with
  | nil =>
      symm
      simp [firstListings]
  | cons first before ih =>
      have hnew : ∀ name, (!equalsIgnoringCase first name && !listedIn before name) =
          !listedIn (first :: before) name := by
        intro name
        rw [listedIn_cons, Bool.not_or, equalsIgnoringCase_comm name first]
      rw [List.cons_append, firstListings, ih, firstListings, List.filter_append,
        List.filter_filter, List.cons_append]
      simp only [hnew]

/-- The names that a signature lists are the first listings among all names that were asked for. -/
theorem signedNames_eq (oversign sign : List String) :
    signedNames oversign sign = firstListings (oversign ++ sign) := by
  rw [signedNames, freshNames_eq, freshNames_eq, firstListings_append]
  simp

/-! ### Blocks -/

/-- How often a name is listed: as often as it occurs, and once more if it is to be oversigned. -/
def blockLength (h : Header) (oversign : List String) (name : String) : Nat :=
  h.count name + if listedIn oversign name then 1 else 0

theorem namesToSign_eq_blocks (h : Header) (oversign sign : List String) :
    namesToSign h oversign sign = (signedNames oversign sign).flatMap fun name =>
      List.replicate (blockLength h oversign name) name := by
  have hover : ∀ name ∈ freshNames [] oversign,
      List.replicate (h.count name + 1) name =
        List.replicate (blockLength h oversign name) name := by
    intro name m
    have hlisted : listedIn oversign name = true :=
      List.any_eq_true.mpr ⟨name, freshNames_subset m, equalsIgnoringCase_refl name⟩
    rw [blockLength, if_pos hlisted]
  have hsign : ∀ name ∈ freshNames oversign sign,
      List.replicate (h.count name) name = List.replicate (blockLength h oversign name) name := by
    intro name m
    have hnew : ¬ listedIn oversign name = true := by
      rw [listedIn, List.any_eq_true]
      rintro ⟨n, mn, hn⟩
      simp [freshNames_new m n mn] at hn
    rw [blockLength, if_neg hnew, Nat.add_zero]
  rw [namesToSign, signedNames, List.flatMap_append]
  simp only [List.flatMap, List.map_congr_left hover, List.map_congr_left hsign]

/-! ### The fields -/

theorem not_isNamed_of_apart {f : Field} {a b : String} (hab : equalsIgnoringCase a b = false)
    (ha : f.isNamed a = true) : f.isNamed b = false := by
  apply Bool.eq_false_iff.mpr
  intro hb
  have hba : equalsIgnoringCase a f.name = true := equalsIgnoringCase_comm f.name a ▸ ha
  exact Bool.false_ne_true (hab.symm.trans (equalsIgnoringCase_trans hba hb))

/-- All fields of names that differ are all fields that have one of the names, each once. -/
theorem perm_fieldsNamed (h : Header) : ∀ {names : List String}, Apart names →
    (names.flatMap fun name => (h.fieldsNamed name).reverse).Perm
      (h.fields.filter fun f => names.any f.isNamed)
  | [], _ => by simp
  | name :: names, hapart => by
      obtain ⟨hname, hrest⟩ := List.pairwise_cons.mp hapart
      have ih := perm_fieldsNamed h hrest
      let listed := h.fields.filter fun f => (name :: names).any f.isNamed
      have hfirst : listed.filter (·.isNamed name) = h.fieldsNamed name := by
        rw [List.filter_filter]
        apply List.filter_congr
        intro f _
        rw [List.any_cons]
        cases f.isNamed name <;> rfl
      have hothers : listed.filter (fun f => !f.isNamed name) =
          h.fields.filter fun f => names.any f.isNamed := by
        rw [List.filter_filter]
        apply List.filter_congr
        intro f _
        by_cases hf : f.isNamed name = true
        · have hnone : names.any f.isNamed = false := by
            rw [List.any_eq_false]
            intro n mn
            simp [not_isNamed_of_apart (hname n mn) hf]
          simp [hf, hnone]
        · simp [hf]
      have hsplit := List.filter_append_perm (·.isNamed name) listed
      rw [hfirst, hothers] at hsplit
      rw [List.flatMap_cons]
      exact ((List.reverse_perm _).append ih).trans hsplit

/-- A field has one of the first listings for a name if it has any of the names. -/
theorem any_isNamed_signedNames (oversign sign : List String) (f : Field) :
    (signedNames oversign sign).any f.isNamed = (oversign ++ sign).any f.isNamed := by
  rw [Bool.eq_iff_iff, List.any_eq_true, List.any_eq_true]
  constructor
  · rintro ⟨n, mn, hn⟩
    refine ⟨n, ?_, hn⟩
    rcases List.mem_append.mp mn with mn | mn
    · exact List.mem_append_left _ (freshNames_subset mn)
    · exact List.mem_append_right _ (freshNames_subset mn)
  · rintro ⟨name, mname, hname⟩
    obtain ⟨n, mn, hn⟩ := exists_signedName mname
    exact ⟨n, mn, equalsIgnoringCase_trans hname hn⟩

/-- **The list of signed names is exact.**  It has one block for each name that was asked for, in
the order of the first listings and spelled as there; it picks, block by block, all fields of the
name from the bottom up; and so it picks every field with such a name once, and no other field. -/
theorem namesToSign_exact (h : Header) (oversign sign : List String) :
    let names := firstListings (oversign ++ sign)
    let keys := namesToSign h oversign sign
    keys = names.flatMap (fun name => List.replicate (blockLength h oversign name) name) ∧
    pickFields h keys = names.flatMap (fun name => (h.fieldsNamed name).reverse) ∧
    (pickFields h keys).Perm (h.fields.filter fun f => (oversign ++ sign).any f.isNamed) := by
  intro names keys
  have hnames : names = signedNames oversign sign := (signedNames_eq oversign sign).symm
  have hpicked : pickFields h keys = names.flatMap fun name => (h.fieldsNamed name).reverse := by
    rw [hnames]
    exact pickFields_namesToSign (fun _ _ => Nat.le_succ _) (fun _ _ => Nat.le_refl _)
  refine ⟨?_, hpicked, ?_⟩
  · rw [hnames]
    exact namesToSign_eq_blocks h oversign sign
  · rw [hpicked, hnames]
    simp only [← any_isNamed_signedNames]
    exact perm_fieldsNamed h (signedNames_apart oversign sign)

-- a name in both lists is oversigned only, spelled as it stood first
example :
    let h : Header := ⟨[⟨"to", [1]⟩, ⟨"From", [2]⟩, ⟨"TO", [3]⟩, ⟨"Date", [4]⟩]⟩
    let keys := namesToSign h ["To", "Cc"] ["tO", "DATE", "date", "List-Id"]
    keys = ["To", "To", "To", "Cc", "DATE"] ∧
      (pickFields h keys).map (·.raw) = [[3], [1], [4]] := by
  decide +kernel

end Mailroom.Dkim
