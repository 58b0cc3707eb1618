import Mailroom.Host.FileSystem
import Mailroom.Proofs.Text.Separators

/-! # Paths that start with other paths

A walk along a path begins with a walk along any path that it starts with (`Path.Starts`).  A path
starts with the directory that holds it (`starts_of_parent?`), and with what remains of it without
the slashes at its end (`starts_trimSlashes`). -/

namespace Mailroom
namespace Path

/-- The names among the pieces of a text. -/
def named (text : List Char) : List String :=
  ((splitAt '/' text).map String.ofList).filter (· != "")

/-- A path starts with another one, as text and as a walk; `more` are the segments behind it. -/
structure Starts (base path : String) (more : List String) : Prop where
  text : base.toList <+: path.toList
  segments : Path.segments path = Path.segments base ++ more

variable {path base parent : String} {text : List Char}

/-! ### Segments -/

theorem named_append (text more : List Char) :
    named (text ++ '/' :: more) = named text ++ named more := by
  rw [named, splitAt_append_sep, List.map_append, List.filter_append]
  rfl

/-- A walk goes along the names of a path, and perhaps to a final dot. -/
theorem exists_segments_eq (path : String) : ∃ dot, segments path = named path.toList ++ dot := by
  unfold segments
  dsimp only
  split
  · exact ⟨["."], rfl⟩
  · exact ⟨[], (List.append_nil _).symm⟩

/-- If the last piece of a text is empty, the text is empty or ends in the separator. -/
theorem getLast?_of_splitAt (h : (splitAt '/' text).getLast? = some []) :
    text = [] ∨ text.getLast? = some '/' := by
  obtain ⟨pieces, e⟩ := List.getLast?_eq_some_iff.mp h
  have hjoin : joinWith ['/'] (splitAt '/' text) = text := joinWith_splitAt text
  rw [e, joinWith_concat, List.append_nil] at hjoin
  rcases List.eq_nil_or_concat pieces with rfl | ⟨front, piece, rfl⟩
  · exact .inl hjoin.symm
  · right
    rw [← hjoin, List.concat_eq_append, List.flatMap_append, List.flatMap_singleton,
      ← List.append_assoc, List.getLast?_concat]

theorem segments_of_not_endsInSlash (h : ¬ endsInSlash path = true) :
    segments path = named path.toList := by
  unfold segments
  dsimp only
  rw [if_neg]
  · rfl
  · intro hdot
    obtain ⟨hlast, hnamed⟩ := Bool.and_eq_true_iff.mp hdot
    rw [decide_eq_true_iff, List.getLast?_map, Option.map_eq_some_iff] at hlast
    obtain ⟨piece, hpiece, hempty⟩ := hlast
    obtain rfl : piece = [] := by simpa using hempty
    rcases getLast?_of_splitAt hpiece with hnil | hslash
    · rw [hnil] at hnamed
      cases hnamed
    · exact h (beq_iff_eq.mpr hslash)

/-- A walk along a path that ends in a slash goes nowhere, or to a final dot. -/
theorem segments_of_endsInSlash (h : endsInSlash path = true) :
    segments path = [] ∨ ∃ names, segments path = names ++ ["."] := by
  obtain ⟨text, e⟩ := List.getLast?_eq_some_iff.mp (beq_iff_eq.mp h)
  have hlast : ((splitAt '/' path.toList).map String.ofList).getLast? = some "" := by
    rw [e, splitAt_append_sep, List.map_append]
    exact List.getLast?_concat
  unfold segments
  dsimp only
  rw [hlast, decide_eq_true rfl, Bool.true_and]
  split
  · exact .inr ⟨_, rfl⟩
  · next hempty =>
    left
    simpa using hempty

theorem segments_append (hbase : ¬ endsInSlash base = true) {rest : List Char}
    (h : path.toList = base.toList ++ '/' :: rest) :
    ∃ dot, segments path = segments base ++ (named rest ++ dot) := by
  obtain ⟨dot, e⟩ := exists_segments_eq path
  refine ⟨dot, ?_⟩
  rw [e, h, named_append, segments_of_not_endsInSlash hbase, List.append_assoc]

/-! ### The directory that holds a path -/

theorem dropIdle_suffix (pieces : List (List Char)) : dropIdle pieces <:+ pieces := by
  fun_induction dropIdle pieces with
  | case1 => exact List.suffix_refl _
  | case2 first => exact List.suffix_refl _
  | case3 piece pieces _ _ ih => exact ih.trans (List.suffix_cons _ _)
  | case4 piece pieces _ _ => exact List.suffix_refl _

/-- Only the first piece of a path may be idle. -/
theorem ne_nil_of_dropIdle {pieces rest : List (List Char)} {last next : List Char}
    (h : dropIdle pieces = last :: next :: rest) : last ≠ [] := by
  fun_induction dropIdle pieces with
  | case1 => cases h
  | case2 first => cases h
  | case3 piece pieces _ _ ih => exact ih h
  | case4 piece pieces _ hbusy =>
      cases h
      rintro rfl
      exact hbusy rfl

/-- Pieces that end in one that is not empty make no path that ends in a slash. -/
theorem not_endsInSlash_join {front : List (List Char)} {piece : List Char} (hne : piece ≠ [])
    (hslash : '/' ∉ piece) :
    ¬ endsInSlash (String.ofList (joinWith ['/'] (front ++ [piece]))) = true := by
  intro h
  rw [endsInSlash, String.toList_ofList, joinWith_concat, beq_iff_eq] at h
  obtain ⟨init, c, rfl⟩ := (List.eq_nil_or_concat piece).resolve_left hne
  rw [List.concat_eq_append, ← List.append_assoc, List.getLast?_concat] at h
  obtain rfl := Option.some.inj h
  exact hslash (by simp)

/-- A walk along pieces that end in one that is not empty ends with that one. -/
theorem segments_join {front : List (List Char)} {piece : List Char} (hne : piece ≠ [])
    (hslash : ∀ other ∈ front ++ [piece], '/' ∉ other) :
    segments (String.ofList (joinWith ['/'] (front ++ [piece]))) =
      (front.map String.ofList).filter (· != "") ++ [String.ofList piece] := by
  have hends : ¬ endsInSlash (String.ofList (joinWith ['/'] (front ++ [piece]))) = true :=
    not_endsInSlash_join hne (hslash piece (by simp))
  have hkept : String.ofList piece ≠ "" := fun e => hne (by simpa using e)
  rw [segments_of_not_endsInSlash hends, String.toList_ofList, named,
    splitAt_joinWith (by simp) hslash, List.map_append, List.filter_append, List.map_singleton,
    List.filter_cons_of_pos (by simpa using hkept), List.filter_nil]

/-- **A name that goes on:** what is put behind a path that ends in a name is put behind that
name. -/
theorem segments_append_name (suffix : String) (hslash : ¬ endsInSlash path = true)
    (hne : ¬ path.isEmpty = true) (hsuffix : '/' ∉ suffix.toList) :
    ∃ names name, segments path = names ++ [name] ∧
      segments (path ++ suffix) = names ++ [name ++ suffix] := by
  rcases List.eq_nil_or_concat (splitAt '/' path.toList) with hnil | ⟨front, piece, hpieces⟩
  · exact absurd hnil (splitAt_ne_nil _ _)
  rw [List.concat_eq_append] at hpieces
  have hpiece : piece ≠ [] := by
    rintro rfl
    rcases getLast?_of_splitAt (hpieces ▸ List.getLast?_concat) with hempty | hlast
    · exact hne (by rw [String.isEmpty_iff, ← String.toList_inj, hempty]; rfl)
    · exact hslash (beq_iff_eq.mpr hlast)
  have hnone : ∀ other ∈ front ++ [piece], '/' ∉ other := fun other m =>
    notMem_of_mem_splitAt (hpieces ▸ m)
  have hpath : path = String.ofList (joinWith ['/'] (front ++ [piece])) := by
    rw [← hpieces, joinWith_splitAt, String.ofList_toList]
  have hlonger : path ++ suffix =
      String.ofList (joinWith ['/'] (front ++ [piece ++ suffix.toList])) := by
    rw [hpath, ← String.toList_inj, String.toList_append, String.toList_ofList,
      String.toList_ofList, joinWith_concat, joinWith_concat, List.append_assoc]
  have hbare : ∀ other ∈ front ++ [piece ++ suffix.toList], '/' ∉ other := by
    intro other m
    rcases List.mem_append.mp m with m | m
    · exact hnone other (List.mem_append_left _ m)
    · rw [List.mem_singleton.mp m, List.mem_append, not_or]
      exact ⟨hnone piece (by simp), hsuffix⟩
  refine ⟨_, _, hpath ▸ segments_join hpiece hnone, ?_⟩
  rw [hlonger, segments_join (by simp [hpiece]) hbare, String.ofList_append, String.ofList_toList]

theorem dropIdle_ne_nil {pieces : List (List Char)} (h : pieces ≠ []) : dropIdle pieces ≠ [] := by
  fun_induction dropIdle pieces with
  | case1 => exact h
  | case2 first => exact h
  | case3 piece pieces hnil _ ih => exact ih hnil
  | case4 piece pieces _ _ => exact h

/-- What a path is made of: its directory, which is the root or ends in a name, and what stands
behind it, which has a name as well. -/
theorem splitAt_of_parent? (h : parent? path = some parent) (hne : ¬ parent.isEmpty = true) :
    ∃ kept tail : List (List Char), splitAt '/' path.toList = kept ++ tail ∧
      (∃ last ∈ tail, last ≠ []) ∧
      (kept = [[]] ∧ parent = "/" ∨ ∃ front piece, kept = front ++ [piece] ∧ piece ≠ [] ∧
        parent = String.ofList (joinWith ['/'] kept)) := by
  unfold parent? at h
  cases hd : dropIdle (splitAt '/' path.toList).reverse with
  | nil => rw [hd] at h; cases h
  | cons last held =>
      rw [hd] at h
      cases held with
      | nil =>
          dsimp only at h
          split at h
          · cases h
          · cases h
            exact absurd rfl hne
      | cons next held =>
          dsimp only at h
          obtain ⟨idle, e⟩ := dropIdle_suffix (splitAt '/' path.toList).reverse
          obtain ⟨more, emore⟩ := dropIdle_suffix (next :: held)
          have hpieces : splitAt '/' path.toList =
              (dropIdle (next :: held)).reverse ++ (more.reverse ++ last :: idle.reverse) := by
            rw [hd, ← emore] at e
            rw [← List.reverse_reverse (splitAt '/' path.toList), ← e]
            simp
          refine ⟨_, _, hpieces, ⟨last, by simp, ne_nil_of_dropIdle hd⟩, ?_⟩
          cases hkept : dropIdle (next :: held) with
          | nil => exact absurd hkept (dropIdle_ne_nil (List.cons_ne_nil _ _))
          | cons piece front =>
              rw [hkept] at h
              split at h
              · next eroot =>
                rw [eroot]
                exact .inl ⟨rfl, (Option.some.inj h).symm⟩
              · next hroot =>
                refine .inr ⟨front.reverse, piece, List.reverse_cons, ?_, (Option.some.inj h).symm⟩
                cases front with
                | nil =>
                    rintro rfl
                    exact hroot rfl
                | cons _ _ => exact ne_nil_of_dropIdle hkept

/-- **A path starts with the directory that holds it,** and goes on from there unless that is the
root. -/
theorem starts_of_parent? (h : parent? path = some parent) (hne : ¬ parent.isEmpty = true) :
    ∃ more, Starts parent path more ∧ (parent = "/" ∨ more ≠ []) := by
  obtain ⟨kept, tail, hpieces, ⟨last, hlast, hlastne⟩, hparent⟩ := splitAt_of_parent? h hne
  have hslash : ∀ piece ∈ kept ++ tail, '/' ∉ piece := fun piece m =>
    notMem_of_mem_splitAt (hpieces ▸ m)
  have htail : tail ≠ [] := List.ne_nil_of_mem hlast
  have hkept : kept ≠ [] := by
    rcases hparent with ⟨rfl, -⟩ | ⟨front, piece, rfl, -⟩ <;> simp
  have htext : path.toList = joinWith ['/'] kept ++ '/' :: joinWith ['/'] tail := by
    rw [← joinWith_append hkept htail, ← hpieces, joinWith_splitAt]
  rcases hparent with ⟨rfl, rfl⟩ | ⟨front, piece, rfl, hpiece, rfl⟩
  · have hroot : segments "/" = [] := by decide
    have hslashed : "/".toList = joinWith ['/'] [[]] ++ ['/'] := by decide
    refine ⟨segments path, ⟨?_, ?_⟩, .inl rfl⟩
    · rw [htext, hslashed]
      exact ⟨_, (List.append_cons _ _ _).symm⟩
    · rw [hroot, List.nil_append]
  · have hends : ¬ endsInSlash (String.ofList (joinWith ['/'] (front ++ [piece]))) = true :=
      not_endsInSlash_join hpiece (hslash piece (by simp))
    generalize hbase : String.ofList (joinWith ['/'] (front ++ [piece])) = base at hends ⊢
    rw [← String.toList_ofList (l := joinWith ['/'] (front ++ [piece])), hbase] at htext
    obtain ⟨dot, hsegments⟩ := segments_append hends htext
    refine ⟨_, ⟨?_, hsegments⟩, .inr ?_⟩
    · rw [htext]
      exact List.prefix_append _ _
    · have hnamed : String.ofList last ∈ named (joinWith ['/'] tail) := by
        rw [named, splitAt_joinWith htail fun piece m => hslash piece (List.mem_append_right _ m)]
        exact List.mem_filter.mpr ⟨List.mem_map_of_mem hlast, by simpa using hlastne⟩
      exact List.ne_nil_of_mem (List.mem_append_left _ hnamed)

/-! ### Slashes at the end -/

theorem reverse_dropWhile_slash (text : List Char) :
    (∃ count, text.reverse = (text.dropWhile (· == '/')).reverse ++ List.replicate count '/') ∧
      (text.dropWhile (· == '/')).head? ≠ some '/' := by
  induction text with
  | nil => exact ⟨⟨0, rfl⟩, nofun⟩
  | cons c text ih =>
      by_cases hc : c = '/'
      · obtain ⟨⟨count, htext⟩, hhead⟩ := ih
        rw [hc, List.dropWhile_cons_of_pos (by decide)]
        refine ⟨⟨count + 1, ?_⟩, hhead⟩
        rw [List.reverse_cons, htext, List.append_assoc, ← List.replicate_succ']
      · rw [List.dropWhile_cons_of_neg (by simpa using hc)]
        exact ⟨⟨0, (List.append_nil _).symm⟩, fun e => hc (Option.some.inj e)⟩

/-- A path is what remains without its final slashes, followed by them. -/
theorem toList_trimSlashes (path : String) :
    (∃ count, path.toList =
        (FileSystem.trimSlashes path).toList ++ List.replicate count '/') ∧
      ¬ endsInSlash (FileSystem.trimSlashes path) = true := by
  obtain ⟨⟨count, htext⟩, hhead⟩ := reverse_dropWhile_slash path.toList.reverse
  rw [List.reverse_reverse] at htext
  unfold FileSystem.trimSlashes
  rw [endsInSlash, String.toList_ofList, List.getLast?_reverse, beq_iff_eq]
  exact ⟨⟨count, htext⟩, hhead⟩

/-- Without a slash at the end of a path, all of it remains. -/
theorem trimSlashes_of_not_endsInSlash {path : String} (h : ¬ endsInSlash path = true) :
    FileSystem.trimSlashes path = path := by
  obtain ⟨⟨count, htext⟩, -⟩ := toList_trimSlashes path
  rcases count with _ | count
  · exact (String.toList_inj.mp (htext.trans (List.append_nil _))).symm
  · refine absurd ?_ h
    rw [endsInSlash, htext, List.replicate_succ', ← List.append_assoc, List.getLast?_concat,
      beq_self_eq_true]

/-- **A path starts with what remains of it** without the slashes at its end. -/
theorem starts_trimSlashes (path : String) :
    ∃ more, Starts (FileSystem.trimSlashes path) path more := by
  obtain ⟨⟨count, htext⟩, hends⟩ := toList_trimSlashes path
  cases count with
  | zero =>
      rw [List.replicate_zero, List.append_nil] at htext
      rw [← String.toList_inj.mp htext]
      exact ⟨[], ⟨List.prefix_refl _, (List.append_nil _).symm⟩⟩
  | succ count =>
      obtain ⟨dot, hsegments⟩ := segments_append hends htext
      refine ⟨_, ⟨?_, hsegments⟩⟩
      rw [htext]
      exact List.prefix_append _ _

end Path
end Mailroom
