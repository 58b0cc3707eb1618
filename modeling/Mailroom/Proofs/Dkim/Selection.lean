import Mailroom.Dkim.Selection

/-! # What a list of names picks

A name that is listed `n` times picks the `n` bottom fields of that name.  So a list made of one
block for each name (`listing`) picks block by block (`pickFields_listing`).  The list that
`namesToSign` makes is of this kind: its names are pairwise different up to case and stand for
every name that was asked for (`signedNames_apart`, `exists_signedName`).  It is counted from the
bottom, so what is put on top later changes nothing (`pickFields_prepend`). -/

namespace Mailroom

/-! ### Names up to case -/

theorem equalsIgnoringCase_refl (a : String) : equalsIgnoringCase a a = true :=
  equalsIgnoringCase_iff.mpr rfl

theorem equalsIgnoringCase_comm (a b : String) :
    equalsIgnoringCase a b = equalsIgnoringCase b a := by
  rw [Bool.eq_iff_iff, equalsIgnoringCase_iff, equalsIgnoringCase_iff]
  exact eq_comm

theorem equalsIgnoringCase_trans {a b c : String} (hab : equalsIgnoringCase a b = true)
    (hbc : equalsIgnoringCase b c = true) : equalsIgnoringCase a c = true := by
  rw [equalsIgnoringCase_iff] at hab hbc ⊢
  exact hab.trans hbc

namespace Dkim

/-! ### Blocks -/

/-- The list in which each name stands as often as the number beside it says. -/
def listing (blocks : List (String × Nat)) : List String :=
  blocks.flatMap fun b => List.replicate b.2 b.1

/-- Names that differ from each other, up to case. -/
def Apart (names : List String) : Prop :=
  names.Pairwise fun a b => equalsIgnoringCase a b = false

theorem toList_getElem?_append_take {α : Type} (l : List α) (i n : Nat) :
    l[i]?.toList ++ (l.drop (i + 1)).take n = (l.drop i).take (n + 1) := by
  by_cases hi : i < l.length
  · rw [List.drop_eq_getElem_cons hi, List.take_succ_cons, List.getElem?_eq_getElem hi]
    rfl
  · have h1 : l.drop i = [] := List.drop_eq_nil_of_le (by omega)
    have h2 : l.drop (i + 1) = [] := List.drop_eq_nil_of_le (by omega)
    rw [h1, h2, List.getElem?_eq_none (by omega), List.take_nil, List.take_nil]
    rfl

/-- A block picks as many fields of its name as it is long, above those that were picked before. -/
theorem pickAfter_replicate (h : Header) (name : String) (keys : List String) :
    ∀ (n : Nat) (used : List String),
      pickAfter h used (List.replicate n name ++ keys) =
        ((h.fieldsNamed name).reverse.drop (used.countP (equalsIgnoringCase name))).take n ++
          pickAfter h (List.replicate n name ++ used) keys
  | 0, used => by simp
  | n + 1, used => by
      have ih := pickAfter_replicate h name keys n (name :: used)
      have hcount : (name :: used).countP (equalsIgnoringCase name) =
          used.countP (equalsIgnoringCase name) + 1 :=
        List.countP_cons_of_pos (equalsIgnoringCase_refl name)
      have hused : List.replicate n name ++ name :: used = List.replicate (n + 1) name ++ used := by
        rw [List.replicate_succ', List.append_assoc]
        rfl
      rw [hcount, hused] at ih
      rw [List.replicate_succ, List.cons_append, pickAfter, ih, ← List.append_assoc,
        toList_getElem?_append_take, List.replicate_succ, List.cons_append]

theorem pickAfter_listing (h : Header) : ∀ (blocks : List (String × Nat)) (used : List String),
    Apart (blocks.map Prod.fst) →
      (∀ b ∈ blocks, ∀ u ∈ used, equalsIgnoringCase b.1 u = false) →
        pickAfter h used (listing blocks) =
          blocks.flatMap fun b => (h.fieldsNamed b.1).reverse.take b.2
  | [], _, _, _ => rfl
  | b :: blocks, used, hapart, hused => by
      obtain ⟨hb, hrest⟩ := List.pairwise_cons.mp hapart
      have hzero : used.countP (equalsIgnoringCase b.1) = 0 :=
        List.countP_eq_zero.mpr fun u m => by simp [hused b List.mem_cons_self u m]
      have hnext : ∀ c ∈ blocks, ∀ u ∈ List.replicate b.2 b.1 ++ used,
          equalsIgnoringCase c.1 u = false := by
        intro c mc u mu
        rcases List.mem_append.mp mu with mu | mu
        · rw [List.eq_of_mem_replicate mu, equalsIgnoringCase_comm]
          exact hb c.1 (List.mem_map_of_mem mc)
        · exact hused c (List.mem_cons_of_mem b mc) u mu
      have ih := pickAfter_listing h blocks (List.replicate b.2 b.1 ++ used) hrest hnext
      have e : listing (b :: blocks) = List.replicate b.2 b.1 ++ listing blocks := rfl
      rw [e, pickAfter_replicate, hzero, List.drop_zero, ih, List.flatMap_cons]

/-- **A list of blocks picks block by block.** -/
theorem pickFields_listing (h : Header) {blocks : List (String × Nat)}
    (hapart : Apart (blocks.map Prod.fst)) :
    pickFields h (listing blocks) = blocks.flatMap fun b => (h.fieldsNamed b.1).reverse.take b.2 :=
  pickAfter_listing h blocks [] hapart fun _ _ u m => by cases m

/-! ### The names to sign -/

theorem freshNames_subset : ∀ {seen names : List String} {name : String},
    name ∈ freshNames seen names → name ∈ names
  | seen, first :: names, name, h => by
      rw [freshNames] at h
      split at h
      · exact List.mem_cons_of_mem first (freshNames_subset h)
      · rcases List.mem_cons.mp h with rfl | h
        · exact List.mem_cons_self
        · exact List.mem_cons_of_mem first (freshNames_subset h)

theorem freshNames_new : ∀ {seen names : List String} {name : String},
    name ∈ freshNames seen names → ∀ s ∈ seen, equalsIgnoringCase name s = false
  | seen, first :: names, name, h => by
      rw [freshNames] at h
      split at h
      · exact freshNames_new h
      · next hfirst =>
        rcases List.mem_cons.mp h with rfl | h
        · simpa using hfirst
        · exact fun s m => freshNames_new h s (List.mem_cons_of_mem first m)

theorem freshNames_apart : ∀ seen names : List String, Apart (freshNames seen names)
  | _, [] => List.Pairwise.nil
  | seen, first :: names => by
      rw [freshNames]
      split
      · exact freshNames_apart seen names
      · refine List.pairwise_cons.mpr ⟨?_, freshNames_apart (first :: seen) names⟩
        intro name m
        rw [equalsIgnoringCase_comm]
        exact freshNames_new m first List.mem_cons_self

/-- A name is new or was seen. -/
theorem seen_or_fresh : ∀ (seen : List String) {names : List String} {name : String}, name ∈ names →
    (∃ s ∈ seen, equalsIgnoringCase name s = true) ∨
      ∃ n ∈ freshNames seen names, equalsIgnoringCase name n = true
  | seen, first :: names, name, h => by
      rw [freshNames]
      split
      · next hseen =>
        rcases List.mem_cons.mp h with rfl | h
        · exact .inl (by simpa using hseen)
        · exact seen_or_fresh seen h
      · rcases List.mem_cons.mp h with rfl | h
        · exact .inr ⟨name, List.mem_cons_self, equalsIgnoringCase_refl name⟩
        · rcases seen_or_fresh (first :: seen) h with ⟨s, ms, hs⟩ | ⟨n, mn, hn⟩
          · rcases List.mem_cons.mp ms with rfl | ms
            · exact .inr ⟨s, List.mem_cons_self, hs⟩
            · exact .inl ⟨s, ms, hs⟩
          · exact .inr ⟨n, List.mem_cons_of_mem first mn, hn⟩

/-- The names that a signature lists, each once. -/
def signedNames (oversign sign : List String) : List String :=
  freshNames [] oversign ++ freshNames oversign sign

theorem signedNames_apart (oversign sign : List String) : Apart (signedNames oversign sign) := by
  refine List.pairwise_append.mpr ⟨freshNames_apart [] oversign, freshNames_apart oversign sign, ?_⟩
  intro a ma b mb
  rw [equalsIgnoringCase_comm]
  exact freshNames_new mb a (freshNames_subset ma)

/-- Every name to oversign is listed as such. -/
theorem exists_oversignedName {oversign : List String} {name : String} (h : name ∈ oversign) :
    ∃ n ∈ freshNames [] oversign, equalsIgnoringCase name n = true := by
  rcases seen_or_fresh [] h with ⟨s, ms, -⟩ | hn
  · cases ms
  · exact hn

/-- Every name to sign is listed. -/
theorem exists_signedName {oversign sign : List String} {name : String}
    (h : name ∈ oversign ++ sign) :
    ∃ n ∈ signedNames oversign sign, equalsIgnoringCase name n = true := by
  have hover : ∀ {name : String}, name ∈ oversign →
      ∃ n ∈ signedNames oversign sign, equalsIgnoringCase name n = true := fun m => by
    obtain ⟨n, mn, hn⟩ := exists_oversignedName m
    exact ⟨n, List.mem_append_left _ mn, hn⟩
  rcases List.mem_append.mp h with h | h
  · exact hover h
  · rcases seen_or_fresh oversign h with ⟨s, ms, hs⟩ | ⟨n, mn, hn⟩
    · obtain ⟨n, mn, hn⟩ := hover ms
      exact ⟨n, mn, equalsIgnoringCase_trans hs hn⟩
    · exact ⟨n, List.mem_append_right _ mn, hn⟩

/-- The names to sign with the length of their blocks. -/
def signedBlocks (h : Header) (oversign sign : List String) : List (String × Nat) :=
  (freshNames [] oversign).map (fun name => (name, h.count name + 1)) ++
    (freshNames oversign sign).map fun name => (name, h.count name)

theorem namesToSign_eq_listing (h : Header) (oversign sign : List String) :
    namesToSign h oversign sign = listing (signedBlocks h oversign sign) := by
  simp only [namesToSign, listing, signedBlocks, List.flatMap_append, List.flatMap_map]

/-- Only names that were asked for are listed. -/
theorem mem_of_mem_namesToSign {h : Header} {oversign sign : List String} {name : String}
    (m : name ∈ namesToSign h oversign sign) : name ∈ oversign ++ sign := by
  rcases List.mem_append.mp m with m | m
  · obtain ⟨n, mn, m⟩ := List.mem_flatMap.mp m
    rw [List.eq_of_mem_replicate m]
    exact List.mem_append_left _ (freshNames_subset mn)
  · obtain ⟨n, mn, m⟩ := List.mem_flatMap.mp m
    rw [List.eq_of_mem_replicate m]
    exact List.mem_append_right _ (freshNames_subset mn)

theorem map_fst_signedBlocks (h : Header) (oversign sign : List String) :
    (signedBlocks h oversign sign).map Prod.fst = signedNames oversign sign := by
  simp [signedBlocks, signedNames, Function.comp_def]

/-- **What the names to sign pick in a header** that is not the one they were made for: as long as
no name occurs more often than its block is long, all fields of these names. -/
theorem pickFields_namesToSign {h g : Header} {oversign sign : List String}
    (hover : ∀ name ∈ freshNames [] oversign, g.count name ≤ h.count name + 1)
    (hsign : ∀ name ∈ freshNames oversign sign, g.count name ≤ h.count name) :
    pickFields g (namesToSign h oversign sign) =
      (signedNames oversign sign).flatMap fun name => (g.fieldsNamed name).reverse := by
  have hapart : Apart ((signedBlocks h oversign sign).map Prod.fst) := by
    rw [map_fst_signedBlocks]
    exact signedNames_apart oversign sign
  have hall : ∀ b ∈ signedBlocks h oversign sign,
      (g.fieldsNamed b.1).reverse.take b.2 = (g.fieldsNamed b.1).reverse := by
    intro b m
    refine List.take_of_length_le ?_
    rw [List.length_reverse]
    rcases List.mem_append.mp m with m | m
    · obtain ⟨name, mn, rfl⟩ := List.mem_map.mp m
      exact hover name mn
    · obtain ⟨name, mn, rfl⟩ := List.mem_map.mp m
      exact hsign name mn
  rw [namesToSign_eq_listing, pickFields_listing g hapart, ← map_fst_signedBlocks h,
    List.flatMap_map, List.flatMap, List.flatMap, List.map_congr_left hall]

/-- **Fields put on top pick nothing,** as long as none of them has an oversigned name. -/
theorem pickFields_prepend {above : Header} {oversign : List String} (h : Header)
    (sign : List String) (habove : ∀ f ∈ above.fields, ∀ name ∈ oversign, f.isNamed name = false) :
    pickFields (above.prepend h) (namesToSign h oversign sign) =
      pickFields h (namesToSign h oversign sign) := by
  have hapart : Apart ((signedBlocks h oversign sign).map Prod.fst) := by
    rw [map_fst_signedBlocks]
    exact signedNames_apart oversign sign
  have hsplit : ∀ name, ((above.prepend h).fieldsNamed name).reverse =
      (h.fieldsNamed name).reverse ++ (above.fieldsNamed name).reverse := by
    intro name
    rw [← List.reverse_append]
    exact congrArg List.reverse (List.filter_append _ _)
  have hsame : ∀ b ∈ signedBlocks h oversign sign,
      ((above.prepend h).fieldsNamed b.1).reverse.take b.2 =
        (h.fieldsNamed b.1).reverse.take b.2 := by
    intro b m
    rw [hsplit b.1]
    rcases List.mem_append.mp m with m | m
    · -- an oversigned name: the block is longer than what stands below, but nothing is on top
      obtain ⟨name, mn, rfl⟩ := List.mem_map.mp m
      have hnone : above.fieldsNamed name = [] := by
        apply List.filter_eq_nil_iff.mpr
        intro f mf
        rw [habove f mf name (freshNames_subset mn)]
        exact Bool.false_ne_true
      rw [hnone, List.reverse_nil, List.append_nil]
    · -- any other name: the block is as long as what stands below
      obtain ⟨name, mn, rfl⟩ := List.mem_map.mp m
      exact List.take_append_of_le_length (Nat.le_of_eq List.length_reverse.symm)
  rw [namesToSign_eq_listing, pickFields_listing _ hapart, pickFields_listing _ hapart,
    List.flatMap, List.flatMap, List.map_congr_left hsame]

end Dkim

end Mailroom
