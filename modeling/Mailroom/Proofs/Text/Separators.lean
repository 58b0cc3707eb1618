import Mailroom.Text.Split

/-! # Cutting and joining

`splitAt` gives back the pieces that were joined (`splitAt_joinWith`), `splitAfter` loses nothing
(`flatten_splitAfter`) and keeps neighbours together (`exists_infix_splitAfter`), and removing or
replacing characters commutes with cutting and joining as long as the separator stays
(`splitAt_filter`, `splitAt_map`, `cutFirst_filter`, `filter_joinWith`).  The last pieces of a text
are those of what it ends in (`splitAt_suffix_iff`). -/

namespace Mailroom

variable {sep : Char}

/-! ### Cutting everywhere -/

theorem splitAt_cons_self (text : List Char) :
    splitAt sep (sep :: text) = [] :: splitAt sep text := by
  simp [splitAt]

theorem splitAt_cons_of_ne {c : Char} (h : c ≠ sep) (text : List Char) :
    splitAt sep (c :: text) = consPiece c (splitAt sep text) := by
  simp [splitAt, h]

/-- The first piece ends at the first separator. -/
theorem splitAt_append_cons {before : List Char} (h : sep ∉ before) (rest : List Char) :
    splitAt sep (before ++ sep :: rest) = before :: splitAt sep rest := by
  induction before with
  | nil => exact splitAt_cons_self rest
  | cons c before ih =>
      have hc : c ≠ sep := fun e => h (e ▸ List.mem_cons_self)
      have hb : sep ∉ before := fun m => h (List.mem_cons_of_mem c m)
      rw [List.cons_append, splitAt_cons_of_ne hc, ih hb]
      rfl

theorem splitAt_of_notMem {text : List Char} (h : sep ∉ text) : splitAt sep text = [text] := by
  induction text with
  | nil => rfl
  | cons c text ih =>
      have hc : c ≠ sep := fun e => h (e ▸ List.mem_cons_self)
      have ht : sep ∉ text := fun m => h (List.mem_cons_of_mem c m)
      rw [splitAt_cons_of_ne hc, ih ht]
      rfl

theorem splitAt_ne_nil (sep : Char) : ∀ text : List Char, splitAt sep text ≠ []
  | [] => List.cons_ne_nil _ _
  | c :: text => by
      by_cases hc : c = sep
      · rw [hc, splitAt_cons_self]
        exact List.cons_ne_nil _ _
      · rw [splitAt_cons_of_ne hc]
        cases splitAt sep text <;> exact List.cons_ne_nil _ _

theorem joinWith_singleton (between piece : List Char) : joinWith between [piece] = piece := by
  simp [joinWith]

theorem joinWith_cons_cons (between piece next : List Char) (pieces : List (List Char)) :
    joinWith between (piece :: next :: pieces) =
      piece ++ between ++ joinWith between (next :: pieces) := by
  simp [joinWith]

/-- A joined text ends in its last piece. -/
theorem joinWith_concat (last : List Char) : ∀ pieces : List (List Char),
    joinWith [sep] (pieces ++ [last]) = (pieces.flatMap (· ++ [sep])) ++ last
  | [] => joinWith_singleton _ _
  | [piece] => by simp [joinWith]
  | piece :: next :: pieces => by
      have ih := joinWith_concat last (next :: pieces)
      rw [List.cons_append] at ih
      rw [List.cons_append, List.cons_append, joinWith_cons_cons, ih]
      simp

/-- **Joined pieces are found again,** if none of them holds the separator. -/
theorem splitAt_joinWith : ∀ {pieces : List (List Char)}, pieces ≠ [] →
    (∀ piece ∈ pieces, sep ∉ piece) → splitAt sep (joinWith [sep] pieces) = pieces
  | [], h, _ => absurd rfl h
  | [piece], _, h => by
      rw [joinWith_singleton, splitAt_of_notMem (h piece List.mem_cons_self)]
  | piece :: next :: pieces, _, h => by
      have hnext : ∀ p ∈ next :: pieces, sep ∉ p := fun p m => h p (List.mem_cons_of_mem piece m)
      have ih := splitAt_joinWith (List.cons_ne_nil next pieces) hnext
      rw [joinWith_cons_cons, List.append_assoc, List.singleton_append,
        splitAt_append_cons (h piece List.mem_cons_self), ih]

/-- Cutting at a separator cuts what stands before it and what stands behind it. -/
theorem splitAt_append_sep (text more : List Char) :
    splitAt sep (text ++ sep :: more) = splitAt sep text ++ splitAt sep more := by
  induction text with
  | nil => exact splitAt_cons_self more
  | cons c text ih =>
      by_cases hc : c = sep
      · rw [List.cons_append, hc, splitAt_cons_self, splitAt_cons_self, ih]
        rfl
      · rw [List.cons_append, splitAt_cons_of_ne hc, splitAt_cons_of_ne hc, ih]
        obtain ⟨piece, pieces, e⟩ := List.exists_cons_of_ne_nil (splitAt_ne_nil sep text)
        rw [e]
        rfl

theorem joinWith_consPiece (between : List Char) (c : Char) {pieces : List (List Char)}
    (h : pieces ≠ []) : joinWith between (consPiece c pieces) = c :: joinWith between pieces := by
  match pieces, h with
  | [piece], _ => rw [consPiece, joinWith_singleton, joinWith_singleton]
  | piece :: next :: pieces, _ => rw [consPiece, joinWith_cons_cons, joinWith_cons_cons]; rfl

/-- **Pieces are joined again** to the text that was cut. -/
theorem joinWith_splitAt (text : List Char) : joinWith [sep] (splitAt sep text) = text := by
  induction text with
  | nil => rfl
  | cons c text ih =>
      have hne := splitAt_ne_nil sep text
      by_cases hc : c = sep
      · rw [hc, splitAt_cons_self]
        obtain ⟨piece, pieces, e⟩ := List.exists_cons_of_ne_nil hne
        rw [e] at ih ⊢
        rw [joinWith_cons_cons, ih]
        rfl
      · rw [splitAt_cons_of_ne hc, joinWith_consPiece _ _ hne, ih]

theorem notMem_of_mem_splitAt {text piece : List Char} (h : piece ∈ splitAt sep text) :
    sep ∉ piece := by
  induction text generalizing piece with
  | nil =>
      obtain rfl := List.mem_singleton.mp h
      exact List.not_mem_nil
  | cons c text ih =>
      by_cases hc : c = sep
      · rw [hc, splitAt_cons_self] at h
        rcases List.mem_cons.mp h with rfl | h
        · exact List.not_mem_nil
        · exact ih h
      · rw [splitAt_cons_of_ne hc] at h
        obtain ⟨first, pieces, e⟩ := List.exists_cons_of_ne_nil (splitAt_ne_nil sep text)
        rw [e] at h ih
        rcases List.mem_cons.mp h with rfl | h
        · intro m
          rcases List.mem_cons.mp m with rfl | m
          · exact hc rfl
          · exact ih List.mem_cons_self m
        · exact ih (List.mem_cons_of_mem first h)

theorem joinWith_append {pieces more : List (List Char)} (h : pieces ≠ []) (hmore : more ≠ []) :
    joinWith [sep] (pieces ++ more) = joinWith [sep] pieces ++ sep :: joinWith [sep] more := by
  match pieces, h with
  | [piece], _ =>
      obtain ⟨next, rest, rfl⟩ := List.exists_cons_of_ne_nil hmore
      rw [joinWith_singleton, List.singleton_append, joinWith_cons_cons, List.append_assoc]
      rfl
  | piece :: next :: pieces, _ =>
      have ih := joinWith_append (List.cons_ne_nil next pieces) hmore
      rw [List.cons_append] at ih
      rw [List.cons_append, List.cons_append, joinWith_cons_cons, joinWith_cons_cons, ih,
        List.append_assoc, List.append_assoc, List.append_assoc]

/-- A joined text holds what its pieces and the separator hold. -/
theorem mem_joinWith {between : List Char} {c : Char} : ∀ {pieces : List (List Char)},
    c ∈ joinWith between pieces → c ∈ between ∨ ∃ piece ∈ pieces, c ∈ piece
  | [], h => by simp [joinWith] at h
  | [piece], h => .inr ⟨piece, List.mem_cons_self, by rwa [joinWith_singleton] at h⟩
  | piece :: next :: pieces, h => by
      rw [joinWith_cons_cons, List.mem_append, List.mem_append] at h
      rcases h with (h | h) | h
      · exact .inr ⟨piece, List.mem_cons_self, h⟩
      · exact .inl h
      · rcases mem_joinWith h with h | ⟨p, m, h⟩
        · exact .inl h
        · exact .inr ⟨p, List.mem_cons_of_mem piece m, h⟩

/-- A piece of a joined text stands in it with the separator or what follows the text behind it. -/
theorem exists_infix_joinWith (sep stop : Char) {piece : List Char} :
    ∀ {pieces : List (List Char)}, piece ∈ pieces →
      ∃ c, (c = sep ∨ c = stop) ∧ piece ++ [c] <:+: joinWith [sep] pieces ++ [stop]
  | [last], h => by
      obtain rfl := List.mem_singleton.mp h
      exact ⟨stop, .inr rfl, by simp only [joinWith_singleton, List.infix_refl]⟩
  | first :: next :: pieces, h => by
      rw [joinWith_cons_cons, List.append_assoc _ _ [stop]]
      rcases List.mem_cons.mp h with rfl | h
      · exact ⟨sep, .inl rfl, (List.prefix_append _ _).isInfix⟩
      · obtain ⟨c, hc, hin⟩ := exists_infix_joinWith sep stop h
        exact ⟨c, hc, hin.trans (List.suffix_append _ _).isInfix⟩

/-- The pieces of one text are the last pieces of another one if and only if the other text is the
first one, or ends in it behind a separator. -/
theorem splitAt_suffix_iff {tail text : List Char} :
    splitAt sep tail <:+ splitAt sep text ↔ text = tail ∨ sep :: tail <:+ text := by
  constructor
  · rintro ⟨front, e⟩
    have hjoin : joinWith [sep] (front ++ splitAt sep tail) = text := by rw [e, joinWith_splitAt]
    cases front with
    | nil =>
        rw [List.nil_append, joinWith_splitAt] at hjoin
        exact .inl hjoin.symm
    | cons piece front =>
        rw [joinWith_append (List.cons_ne_nil piece front) (splitAt_ne_nil sep tail),
          joinWith_splitAt] at hjoin
        exact .inr ⟨_, hjoin⟩
  · rintro (rfl | ⟨front, rfl⟩)
    · exact List.suffix_rfl
    · rw [splitAt_append_sep]
      exact List.suffix_append _ _

/-! ### Pieces that keep their separator -/

theorem splitAfter_cons_self (text : List Char) :
    splitAfter sep (sep :: text) = [sep] :: splitAfter sep text := by
  simp [splitAfter]

theorem splitAfter_cons_of_ne {c : Char} (h : c ≠ sep) (text : List Char) :
    splitAfter sep (c :: text) = consPiece c (splitAfter sep text) := by
  simp [splitAfter, h]

theorem flatten_consPiece (c : Char) : ∀ pieces : List (List Char),
    (consPiece c pieces).flatten = c :: pieces.flatten
  | [] => rfl
  | _ :: _ => rfl

theorem flatten_splitAfter (sep : Char) (text : List Char) :
    (splitAfter sep text).flatten = text := by
  induction text with
  | nil => rfl
  | cons c text ih =>
      by_cases hc : c = sep
      · rw [hc, splitAfter_cons_self, List.flatten_cons, ih, List.singleton_append]
      · rw [splitAfter_cons_of_ne hc, flatten_consPiece, ih]

/-- The first piece starts like the text. -/
theorem exists_splitAfter_cons (sep c : Char) (text : List Char) :
    ∃ rest pieces, splitAfter sep (c :: text) = (c :: rest) :: pieces := by
  by_cases hc : c = sep
  · exact ⟨[], splitAfter sep text, by rw [hc, splitAfter_cons_self]⟩
  · rw [splitAfter_cons_of_ne hc]
    cases splitAfter sep text with
    | nil => exact ⟨[], [], rfl⟩
    | cons piece pieces => exact ⟨piece, pieces, rfl⟩

/-- Neighbours stay together in a piece, unless the first of them is the separator. -/
theorem exists_infix_splitAfter {x y : Char} (hx : x ≠ sep) : ∀ {text : List Char},
    [x, y] <:+: text → ∃ piece ∈ splitAfter sep text, [x, y] <:+: piece
  | [], h => by cases List.eq_nil_of_infix_nil h
  | c :: text, h => by
      rcases List.infix_cons_iff.mp h with h | h
      · -- `y` starts the first piece of what follows, and `x` is put in front of it
        obtain ⟨rest, e⟩ := h
        obtain ⟨rfl, rfl⟩ := List.cons.inj e
        obtain ⟨more, pieces, hsplit⟩ := exists_splitAfter_cons sep y rest
        refine ⟨x :: y :: more, ?_, (List.prefix_append [x, y] more).isInfix⟩
        rw [splitAfter_cons_of_ne hx]
        show _ ∈ consPiece x (splitAfter sep (y :: rest))
        rw [hsplit]
        exact List.mem_cons_self
      · obtain ⟨piece, m, hin⟩ := exists_infix_splitAfter hx h
        by_cases hc : c = sep
        · rw [hc, splitAfter_cons_self]
          exact ⟨piece, List.mem_cons_of_mem _ m, hin⟩
        · rw [splitAfter_cons_of_ne hc]
          cases hs : splitAfter sep text with
          | nil => rw [hs] at m; cases m
          | cons first pieces =>
              rw [hs] at m
              rcases List.mem_cons.mp m with rfl | m
              · exact ⟨c :: piece, List.mem_cons_self, List.infix_cons hin⟩
              · exact ⟨piece, List.mem_cons_of_mem _ m, hin⟩

/-! ### Replacing characters -/

section Replace

variable {f : Char → Char}

theorem map_consPiece (f : Char → Char) (c : Char) : ∀ pieces : List (List Char),
    (consPiece c pieces).map (List.map f) = consPiece (f c) (pieces.map (List.map f))
  | [] => rfl
  | _ :: _ => rfl

/-- Replacing characters commutes with cutting if the separator and nothing else becomes the
separator. -/
theorem splitAt_map (hf : ∀ c, f c = sep ↔ c = sep) (text : List Char) :
    splitAt sep (text.map f) = (splitAt sep text).map (List.map f) := by
  induction text with
  | nil => rfl
  | cons c text ih =>
      rw [List.map_cons]
      by_cases hc : c = sep
      · rw [(hf c).mpr hc, hc, splitAt_cons_self, splitAt_cons_self, ih]
        rfl
      · rw [splitAt_cons_of_ne (mt (hf c).mp hc), splitAt_cons_of_ne hc, ih, map_consPiece]

end Replace

/-! ### Removing characters -/

section Filter

variable {keep : Char → Bool}

theorem map_filter_consPiece {c : Char} (hc : keep c = true) : ∀ pieces : List (List Char),
    (consPiece c pieces).map (List.filter keep) = consPiece c (pieces.map (List.filter keep))
  | [] => by simp [consPiece, hc]
  | piece :: pieces => by simp [consPiece, hc]

theorem map_filter_consPiece_of_removed {c : Char} (hc : keep c = false) {piece : List Char}
    {pieces : List (List Char)} :
    (consPiece c (piece :: pieces)).map (List.filter keep) =
      (piece :: pieces).map (List.filter keep) := by
  simp [consPiece, hc]

theorem splitAt_filter (hsep : keep sep = true) (text : List Char) :
    splitAt sep (text.filter keep) = (splitAt sep text).map (List.filter keep) := by
  induction text with
  | nil => rfl
  | cons c text ih =>
      by_cases hc : c = sep
      · rw [hc, List.filter_cons_of_pos hsep, splitAt_cons_self, splitAt_cons_self, ih]
        rfl
      · rw [splitAt_cons_of_ne hc]
        cases hk : keep c with
        | true =>
            rw [List.filter_cons_of_pos hk, splitAt_cons_of_ne hc, ih, map_filter_consPiece hk]
        | false =>
            rw [List.filter_cons_of_neg (by simp [hk]), ih]
            obtain ⟨piece, pieces, e⟩ := List.exists_cons_of_ne_nil (splitAt_ne_nil sep text)
            rw [e, map_filter_consPiece_of_removed hk]

theorem filter_joinWith (hsep : keep sep = true) : ∀ pieces : List (List Char),
    (joinWith [sep] pieces).filter keep = joinWith [sep] (pieces.map (List.filter keep))
  | [] => rfl
  | [piece] => by rw [List.map_singleton, joinWith_singleton, joinWith_singleton]
  | piece :: next :: pieces => by
      have ih := filter_joinWith hsep (next :: pieces)
      rw [List.map_cons] at ih
      rw [joinWith_cons_cons, List.filter_append, List.filter_append, ih, List.map_cons,
        List.map_cons, joinWith_cons_cons, List.filter_cons_of_pos hsep]
      rfl

theorem cutFirst_filter (hsep : keep sep = true) (text : List Char) :
    cutFirst sep (text.filter keep) =
      (cutFirst sep text).map fun (before, after) => (before.filter keep, after.filter keep) := by
  induction text with
  | nil => rfl
  | cons c text ih =>
      by_cases hc : c = sep
      · simp [hc, hsep, cutFirst]
      · cases hk : keep c with
        | true =>
            rw [List.filter_cons_of_pos hk, cutFirst, cutFirst, if_neg hc, if_neg hc, ih]
            cases cutFirst sep text with
            | none => rfl
            | some cut => simp [hk]
        | false =>
            rw [List.filter_cons_of_neg (by simp [hk]), cutFirst, if_neg hc, ih]
            cases cutFirst sep text with
            | none => rfl
            | some cut => simp [hk]

end Filter

/-! ### Cutting once -/

theorem cutFirst_append_cons {before : List Char} (h : sep ∉ before) (after : List Char) :
    cutFirst sep (before ++ sep :: after) = some (before, after) := by
  induction before with
  | nil => simp [cutFirst]
  | cons c before ih =>
      have hc : c ≠ sep := fun e => h (e ▸ List.mem_cons_self)
      have hb : sep ∉ before := fun m => h (List.mem_cons_of_mem c m)
      rw [List.cons_append, cutFirst, if_neg hc, ih hb]
      rfl

theorem cutFirst_eq_none {text : List Char} (h : cutFirst sep text = none) : sep ∉ text := by
  intro m
  obtain ⟨before, after, rfl, hbefore⟩ := List.eq_append_cons_of_mem m
  rw [cutFirst_append_cons hbefore] at h
  cases h

theorem cutFirst_eq_some {before after : List Char} : ∀ {text : List Char},
    cutFirst sep text = some (before, after) → text = before ++ sep :: after
  | c :: text, h => by
      rw [cutFirst] at h
      split at h
      · next hc =>
        obtain ⟨rfl, rfl⟩ := Prod.mk.inj (Option.some.inj h)
        rw [hc]
        rfl
      · obtain ⟨⟨rest, _⟩, hcut, e⟩ := Option.map_eq_some_iff.mp h
        obtain ⟨rfl, rfl⟩ := Prod.mk.inj e
        rw [cutFirst_eq_some hcut]
        rfl

theorem cutFirst_of_notMem {text : List Char} (h : sep ∉ text) : cutFirst sep text = none := by
  cases hcut : cutFirst sep text with
  | none => rfl
  | some parts => exact absurd (cutFirst_eq_some hcut ▸ List.mem_append_right _ List.mem_cons_self) h

/-- Replacing characters commutes with the cut if the separator and nothing else becomes the
separator. -/
theorem cutFirst_map {f : Char → Char} (hf : ∀ c, f c = sep ↔ c = sep) (text : List Char) :
    cutFirst sep (text.map f) =
      (cutFirst sep text).map fun (before, after) => (before.map f, after.map f) := by
  induction text with
  | nil => rfl
  | cons c text ih =>
      rw [List.map_cons, cutFirst, cutFirst]
      by_cases hc : c = sep
      · rw [if_pos ((hf c).mpr hc), if_pos hc]
        rfl
      · rw [if_neg (mt (hf c).mp hc), if_neg hc, ih]
        cases cutFirst sep text <;> rfl

/-- The two parts of a text, without a cut the whole text and nothing. -/
theorem cutFirst_getD (sep : Char) (text : List Char) :
    (cutFirst sep text).getD (text, []) =
      (text.takeWhile (· != sep), (text.dropWhile (· != sep)).tail) := by
  induction text with
  | nil => rfl
  | cons c text ih =>
      rw [cutFirst]
      by_cases hc : c = sep
      · simp [hc]
      · rw [if_neg hc]
        have htake : (c :: text).takeWhile (· != sep) = c :: text.takeWhile (· != sep) :=
          List.takeWhile_cons_of_pos (by simp [hc])
        have hdrop : (c :: text).dropWhile (· != sep) = text.dropWhile (· != sep) :=
          List.dropWhile_cons_of_pos (by simp [hc])
        rw [htake, hdrop]
        cases hcut : cutFirst sep text with
        | none =>
            rw [hcut] at ih
            exact congrArg (fun parts => (c :: parts.1, parts.2)) ih
        | some parts =>
            rw [hcut] at ih
            exact congrArg (fun parts => (c :: parts.1, parts.2)) ih

/-- A character occurs at most once if it does not occur again behind its first occurrence. -/
theorem count_le_one_iff (sep : Char) (text : List Char) :
    text.count sep ≤ 1 ↔ sep ∉ (text.dropWhile (· != sep)).tail := by
  induction text with
  | nil => simp
  | cons c text ih =>
      by_cases hc : c = sep
      · rw [hc, List.count_cons_self, List.dropWhile_cons_of_neg (by simp), List.tail_cons,
          ← List.count_eq_zero]
        omega
      · have hdrop : (c :: text).dropWhile (· != sep) = text.dropWhile (· != sep) :=
          List.dropWhile_cons_of_pos (by simp [hc])
        rw [List.count_cons_of_ne hc, hdrop, ih]

/-! ### Cutting once at the end -/

theorem cutLast_of_notMem {text : List Char} (h : sep ∉ text) : cutLast sep text = none := by
  rw [cutLast, cutFirst_of_notMem (mt List.mem_reverse.mp h)]
  rfl

theorem cutLast_append_cons (before : List Char) {after : List Char} (h : sep ∉ after) :
    cutLast sep (before ++ sep :: after) = some (before, after) := by
  have e : (before ++ sep :: after).reverse = after.reverse ++ sep :: before.reverse := by simp
  rw [cutLast, e, cutFirst_append_cons (mt List.mem_reverse.mp h)]
  simp

/-- A text with a separator has a last one. -/
theorem exists_last_sep {text : List Char} (h : sep ∈ text) :
    ∃ before after, text = before ++ sep :: after ∧ sep ∉ after := by
  obtain ⟨after, before, e, hafter⟩ := List.eq_append_cons_of_mem (List.mem_reverse.mpr h)
  refine ⟨before.reverse, after.reverse, ?_, mt List.mem_reverse.mp hafter⟩
  rw [← List.reverse_reverse text, e]
  simp

end Mailroom
