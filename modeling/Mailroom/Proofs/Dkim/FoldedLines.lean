import Mailroom.Proofs.Dkim.FinishedSignature

/-! # The lines of a signature field

A signature is folded part by part (`Part`): a part goes behind the text on the current line, or to a
new line if it does not fit (`FoldedText.place`).  So the width that is kept is the width of the last
line, and a line is longer than it should be only if it holds a single part (`FoldedText.Laid.place`).
Folding puts a line end and a space in place of what stands before a part, and nothing else
(`Spread`); the main result is `signatureText_lines`. -/

namespace Mailroom.Dkim

/-! ### Lines -/

/-- The lines of a text, without their line ends. -/
def crlfLines : List Char → List (List Char)
  | [] => [[]]
  | '\r' :: '\n' :: text => [] :: crlfLines text
  | c :: text => consPiece c (crlfLines text)

theorem crlfLines_cons {c : Char} {text : List Char} (h : ∀ rest, c = '\r' → text ≠ '\n' :: rest) :
    crlfLines (c :: text) = consPiece c (crlfLines text) :=
  crlfLines.eq_3 c text fun rest hc ht => h rest hc ht

theorem crlfLines_ne_nil (text : List Char) : crlfLines text ≠ [] := by
  fun_induction crlfLines text with
  | case1 => exact List.cons_ne_nil _ _
  | case2 text ih => exact List.cons_ne_nil _ _
  | case3 c text h ih => cases crlfLines text <;> exact List.cons_ne_nil _ _

theorem exists_crlfLines_concat (text : List Char) :
    ∃ before last, crlfLines text = before ++ [last] := by
  obtain ⟨before, last, e⟩ :=
    (List.eq_nil_or_concat (crlfLines text)).resolve_left (crlfLines_ne_nil text)
  exact ⟨before, last, e.trans List.concat_eq_append⟩

theorem consPiece_append (c : Char) {pieces : List (List Char)} (h : pieces ≠ [])
    (more : List (List Char)) : consPiece c (pieces ++ more) = consPiece c pieces ++ more := by
  obtain ⟨piece, pieces, rfl⟩ := List.exists_cons_of_ne_nil h
  rfl

/-- A line end ends a line. -/
theorem crlfLines_append_crlf (text more : List Char) :
    crlfLines (text ++ '\r' :: '\n' :: more) = crlfLines text ++ crlfLines more := by
  fun_induction crlfLines text with
  | case1 => rfl
  | case2 text ih =>
      rw [List.cons_append, List.cons_append, crlfLines, ih]
      rfl
  | case3 c text h ih =>
      have hnext : ∀ rest, c = '\r' → text ++ '\r' :: '\n' :: more ≠ '\n' :: rest := by
        intro rest hc e
        cases text with
        | nil => cases e
        | cons d text => exact h text hc (by rw [(List.cons.inj e).1])
      rw [List.cons_append, crlfLines_cons hnext, ih, consPiece_append c (crlfLines_ne_nil text)]

theorem crlfLines_of_lf_notMem {text : List Char} (h : '\n' ∉ text) : crlfLines text = [text] := by
  induction text with
  | nil => rfl
  | cons c text ih =>
      have hnext : ∀ rest, c = '\r' → text ≠ '\n' :: rest := by
        rintro rest - rfl
        exact h (List.mem_cons_of_mem c List.mem_cons_self)
      rw [crlfLines_cons hnext, ih fun m => h (List.mem_cons_of_mem c m)]
      rfl

/-- What holds no line feed goes behind the last line. -/
theorem crlfLines_append {more : List Char} (hmore : '\n' ∉ more) {text : List Char}
    {before : List (List Char)} {last : List Char} (hlines : crlfLines text = before ++ [last]) :
    crlfLines (text ++ more) = before ++ [last ++ more] := by
  fun_induction crlfLines text generalizing before last with
  | case1 =>
      have hsplit : [] ++ [[]] = before ++ [last] := hlines
      obtain ⟨rfl, elast⟩ := List.append_inj' hsplit rfl
      obtain rfl := List.singleton_inj.mp elast
      exact crlfLines_of_lf_notMem hmore
  | case2 text ih =>
      rw [List.cons_append, List.cons_append, crlfLines]
      rcases before with _ | ⟨line, before⟩
      · exact absurd (List.cons.inj hlines).2 (crlfLines_ne_nil text)
      · obtain ⟨rfl, hrest⟩ := List.cons.inj hlines
        rw [ih hrest]
        rfl
  | case3 c text h ih =>
      have hnext : ∀ rest, c = '\r' → text ++ more ≠ '\n' :: rest := by
        intro rest hc e
        cases text with
        | nil =>
            rw [List.nil_append] at e
            exact hmore (e ▸ List.mem_cons_self)
        | cons d text => exact h text hc (by rw [(List.cons.inj e).1])
      rw [List.cons_append, crlfLines_cons hnext]
      obtain ⟨lines, line, e⟩ := exists_crlfLines_concat text
      rw [ih e]
      rw [e] at hlines
      -- the character goes to the front of the first line, which may be the last one
      rcases lines with _ | ⟨first, lines⟩
      · have hsplit : [] ++ [c :: line] = before ++ [last] := hlines
        obtain ⟨rfl, elast⟩ := List.append_inj' hsplit rfl
        obtain rfl := List.singleton_inj.mp elast
        rfl
      · have hsplit : ((c :: first) :: lines) ++ [line] = before ++ [last] := hlines
        obtain ⟨rfl, elast⟩ := List.append_inj' hsplit rfl
        obtain rfl := List.singleton_inj.mp elast
        rfl

/-! ### Parts -/

/-- A part of a signature, and what stands between it and the text before it on the same line. -/
structure Part where
  glue : List Char
  element : List Char

/-- A tag stands behind a space. -/
def Part.tag (element : List Char) : Part := ⟨[' '], element⟩

/-- A further name in the list of fields stands right behind the colon. -/
def Part.piece (element : List Char) : Part := ⟨[], element⟩

theorem utf8Length_append (text more : List Char) :
    utf8Length (text ++ more) = utf8Length text + utf8Length more := by
  induction text with
  | nil => exact (Nat.zero_add _).symm
  | cons c text ih =>
      have e : ∀ t, utf8Length (c :: t) = c.utf8Size + utf8Length t := fun _ => rfl
      rw [List.cons_append, e, e, ih, Nat.add_assoc]

namespace FoldedText

/-- Writes a part on the current line, or on a new one if it does not fit. -/
def place (f : FoldedText) (part : Part) : FoldedText :=
  if foldWidth < f.width + utf8Length (part.glue ++ part.element) then
    f.breakLine.write part.element
  else f.write (part.glue ++ part.element)

/-- Writes parts one after another. -/
def placeAll (f : FoldedText) (parts : List Part) : FoldedText := parts.foldl place f

theorem write_write (f : FoldedText) (text more : List Char) :
    (f.write text).write more = f.write (text ++ more) := by
  rw [write, write, write, List.append_assoc, utf8Length_append, Nat.add_assoc]

theorem addTag_eq_place {f : FoldedText} (h : f.text ≠ []) (tag : List Char) :
    f.addTag tag = f.place (.tag tag) := by
  have hempty : f.text.isEmpty = false := List.isEmpty_eq_false_iff.mpr h
  have hwidth : f.width + utf8Length ([' '] ++ tag) = f.width + 1 + utf8Length tag :=
    (Nat.add_assoc _ _ _).symm
  rw [addTag, hempty, if_neg Bool.false_ne_true, write_write, ← hwidth]
  rfl

theorem text_place_ne_nil {f : FoldedText} (h : f.text ≠ []) (part : Part) :
    (f.place part).text ≠ [] := by
  unfold place
  split
  · exact List.append_ne_nil_of_left_ne_nil (List.append_ne_nil_of_left_ne_nil h _) _
  · exact List.append_ne_nil_of_left_ne_nil h _

theorem text_placeAll_ne_nil : ∀ {f : FoldedText} (_ : f.text ≠ []) (parts : List Part),
    (f.placeAll parts).text ≠ []
  | _, h, [] => h
  | _, h, part :: parts => text_placeAll_ne_nil (text_place_ne_nil h part) parts

theorem placeAll_append (f : FoldedText) (parts more : List Part) :
    f.placeAll (parts ++ more) = (f.placeAll parts).placeAll more :=
  List.foldl_append

theorem foldl_addTag_eq_placeAll : ∀ {f : FoldedText} (_ : f.text ≠ []) (tags : List String),
    tags.foldl (fun f tag => f.addTag (tag.toList ++ [';'])) f =
      f.placeAll ((tags.map fun tag => tag.toList ++ [';']).map .tag)
  | _, _, [] => rfl
  | f, h, tag :: tags => by
      have ih := foldl_addTag_eq_placeAll
        (text_place_ne_nil h (.tag (tag.toList ++ [';']))) tags
      rw [List.foldl_cons, addTag_eq_place h, ih]
      rfl

end FoldedText

/-! ### Width -/

/-- The room that the name of the field takes on a line with these lines before it. -/
def leadWidth (before : List (List Char)) : Nat :=
  if before.isEmpty then signatureField.length + 2 else 0

/-- A line that folding begins: a space and an element, and more only if the line fits. -/
def IsFoldedLine (elements : List (List Char)) (line : List Char) : Prop :=
  ∃ element ∈ elements, ∃ more, line = ' ' :: element ++ more ∧
    (utf8Length line ≤ foldWidth ∨ more = [])

/-- **Lines that are folded well:** the first one fits behind the name of the field, every other one
begins with a space and an element and fits, or holds a single element. -/
inductive WellFolded (elements : List (List Char)) : List (List Char) → Prop
  | lines {first : List Char} {rest : List (List Char)} :
      signatureField.length + 2 + utf8Length first ≤ foldWidth →
        (∀ line ∈ rest, IsFoldedLine elements line) → WellFolded elements (first :: rest)

section Width

variable {elements before : List (List Char)} {line last : List Char}

theorem isFoldedLine_single {element : List Char} (h : element ∈ elements) :
    IsFoldedLine elements (' ' :: element) :=
  ⟨element, h, [], (List.append_nil _).symm, .inr rfl⟩

theorem IsFoldedLine.append (h : IsFoldedLine elements line) {more : List Char}
    (hfit : utf8Length (line ++ more) ≤ foldWidth) : IsFoldedLine elements (line ++ more) := by
  obtain ⟨element, hmem, rest, rfl, -⟩ := h
  exact ⟨element, hmem, rest ++ more, List.append_assoc _ _ _, .inl hfit⟩

/-- More text on the last line, if it fits. -/
theorem WellFolded.append (h : WellFolded elements (before ++ [last])) {more : List Char}
    (hfit : leadWidth before + utf8Length (last ++ more) ≤ foldWidth) :
    WellFolded elements (before ++ [last ++ more]) := by
  rcases before with _ | ⟨first, before⟩
  · exact .lines hfit nofun
  · obtain ⟨hfirst, hrest⟩ := h
    have hlast : leadWidth (first :: before) = 0 := rfl
    rw [hlast, Nat.zero_add] at hfit
    refine .lines hfirst fun line m => ?_
    rcases List.mem_append.mp m with m | m
    · exact hrest line (List.mem_append_left _ m)
    · obtain rfl := List.mem_singleton.mp m
      exact (hrest last (List.mem_append_right _ List.mem_cons_self)).append hfit

/-- A further line. -/
theorem WellFolded.concat {lines : List (List Char)} (h : WellFolded elements lines)
    (hline : IsFoldedLine elements line) : WellFolded elements (lines ++ [line]) := by
  obtain ⟨hfirst, hrest⟩ := h
  refine .lines hfirst fun line m => ?_
  rcases List.mem_append.mp m with m | m
  · exact hrest line m
  · exact List.mem_singleton.mp m ▸ hline

/-- A text whose lines are folded well and whose last line is as wide as the text says. -/
def FoldedText.Laid (elements : List (List Char)) (f : FoldedText) : Prop :=
  ∃ before last, crlfLines f.text = before ++ [last] ∧ WellFolded elements (before ++ [last]) ∧
    f.width = leadWidth before + utf8Length last

/-- A part whose element is one of these and that holds no line feed. -/
structure Part.IsPlain (elements : List (List Char)) (part : Part) : Prop where
  mem : part.element ∈ elements
  glue : '\n' ∉ part.glue
  element : '\n' ∉ part.element

/-- **What placing a part does to the lines:** it goes behind the last line if it fits, and to a new
line otherwise. -/
theorem FoldedText.crlfLines_place {f : FoldedText} (hlines : crlfLines f.text = before ++ [last])
    {part : Part} (hpart : part.IsPlain elements) :
    (f.width + utf8Length (part.glue ++ part.element) ≤ foldWidth ∧
      crlfLines (f.place part).text = before ++ [last ++ (part.glue ++ part.element)] ∧
      (f.place part).width = f.width + utf8Length (part.glue ++ part.element)) ∨
    (crlfLines (f.place part).text = before ++ [last] ++ [' ' :: part.element] ∧
      (f.place part).width = utf8Length (' ' :: part.element)) := by
  unfold FoldedText.place
  split
  · have hnew : '\n' ∉ ' ' :: part.element := fun m =>
      (List.mem_cons.mp m).elim (by decide) hpart.element
    have htext : (f.breakLine.write part.element).text =
        f.text ++ '\r' :: '\n' :: (' ' :: part.element) := List.append_assoc _ _ _
    refine .inr ⟨?_, rfl⟩
    rw [htext, crlfLines_append_crlf, hlines, crlfLines_of_lf_notMem hnew]
  · next hfits =>
    have hmore : '\n' ∉ part.glue ++ part.element := fun m =>
      (List.mem_append.mp m).elim hpart.glue hpart.element
    exact .inl ⟨Nat.not_lt.mp hfits, crlfLines_append hmore hlines, rfl⟩

/-- **Placing a part keeps the lines folded well.** -/
theorem FoldedText.Laid.place {f : FoldedText} (h : f.Laid elements) {part : Part}
    (hpart : part.IsPlain elements) : (f.place part).Laid elements := by
  obtain ⟨before, last, hlines, hfolded, hwidth⟩ := h
  rcases FoldedText.crlfLines_place hlines hpart with ⟨hfits, hnew, hwidth'⟩ | ⟨hnew, hwidth'⟩
  · rw [hwidth, Nat.add_assoc, ← utf8Length_append] at hfits
    refine ⟨before, _, hnew, hfolded.append hfits, ?_⟩
    rw [hwidth', hwidth, utf8Length_append last, Nat.add_assoc]
  · have hlead : leadWidth (before ++ [last]) = 0 := by cases before <;> rfl
    refine ⟨before ++ [last], _, hnew, hfolded.concat (isFoldedLine_single hpart.mem), ?_⟩
    rw [hwidth', hlead, Nat.zero_add]

theorem FoldedText.Laid.placeAll : ∀ {f : FoldedText} (_ : f.Laid elements) (parts : List Part),
    (∀ part ∈ parts, part.IsPlain elements) → (f.placeAll parts).Laid elements
  | _, h, [], _ => h
  | _, h, part :: parts, hparts =>
      (h.place (hparts part List.mem_cons_self)).placeAll parts fun p m =>
        hparts p (List.mem_cons_of_mem part m)

end Width

/-! ### What is left without line ends -/

/-- A text made of parts, with their glue or a space in front of each. -/
inductive Spread : List Part → List Char → Prop
  | nil : Spread [] []
  | cons {part : Part} {parts : List Part} {text : List Char} (gap : List Char) :
      gap = part.glue ∨ gap = [' '] → Spread parts text →
        Spread (part :: parts) (gap ++ part.element ++ text)

/-- Without the line ends, a placed part stands behind its glue or a space. -/
theorem exists_gap_place (f : FoldedText) {elements : List (List Char)} {part : Part}
    (hpart : part.IsPlain elements) :
    ∃ gap, (gap = part.glue ∨ gap = [' ']) ∧ (crlfLines (f.place part).text).flatten =
      (crlfLines f.text).flatten ++ (gap ++ part.element) := by
  obtain ⟨before, last, hlines⟩ := exists_crlfLines_concat f.text
  rcases FoldedText.crlfLines_place hlines hpart with ⟨-, hnew, -⟩ | ⟨hnew, -⟩
  · refine ⟨part.glue, .inl rfl, ?_⟩
    rw [hnew, hlines]
    simp
  · refine ⟨[' '], .inr rfl, ?_⟩
    rw [hnew, hlines]
    simp

theorem exists_spread_placeAll {elements : List (List Char)} : ∀ {parts : List Part}
    (_ : ∀ part ∈ parts, part.IsPlain elements) (f : FoldedText),
      ∃ text, Spread parts text ∧
        (crlfLines (f.placeAll parts).text).flatten = (crlfLines f.text).flatten ++ text
  | [], _, f => ⟨[], .nil, (List.append_nil _).symm⟩
  | part :: parts, hparts, f => by
      obtain ⟨gap, hgap, e⟩ := exists_gap_place f (hparts part List.mem_cons_self)
      obtain ⟨text, hspread, etext⟩ :=
        exists_spread_placeAll (fun p m => hparts p (List.mem_cons_of_mem part m)) (f.place part)
      refine ⟨gap ++ part.element ++ text, .cons gap hgap hspread, ?_⟩
      rw [e, List.append_assoc] at etext
      exact etext

/-- Tags stand behind single spaces. -/
theorem Spread.tags {parts : List Part} : ∀ {tags : List (List Char)} {text : List Char},
    Spread (tags.map .tag ++ parts) text →
      ∃ more, text = tags.flatMap (' ' :: ·) ++ more ∧ Spread parts more
  | [], text, h => ⟨text, rfl, h⟩
  | tag :: tags, _, .cons gap hgap h => by
      obtain ⟨more, rfl, hmore⟩ := Spread.tags h
      refine ⟨more, ?_, hmore⟩
      have hspace : gap = [' '] := hgap.elim id id
      rw [hspace, List.flatMap_cons, List.append_assoc, List.append_assoc]
      rfl

/-! ### The list of names -/

/-- Names with a colon behind each but the last one, and at most one space behind each colon. -/
inductive NamesText : List (List Char) → List Char → Prop
  | last (name : List Char) : NamesText [name] name
  | cons {next : List Char} {names : List (List Char)} {text : List Char} (name gap : List Char) :
      gap = [] ∨ gap = [' '] → NamesText (next :: names) text →
        NamesText (name :: next :: names) (name ++ ':' :: (gap ++ text))

/-- The parts of a list of names: each name with the colon or semicolon behind it, the first one
behind `start`. -/
def nameParts (glue start : List Char) : List (List Char) → List Part
  | [] => []
  | [name] => [⟨glue, start ++ name ++ [';']⟩]
  | name :: next :: names => ⟨glue, start ++ name ++ [':']⟩ :: nameParts [] [] (next :: names)

theorem splitAfter_append_cons {sep : Char} {before : List Char} (h : sep ∉ before)
    (rest : List Char) :
    splitAfter sep (before ++ sep :: rest) = (before ++ [sep]) :: splitAfter sep rest := by
  induction before with
  | nil => exact splitAfter_cons_self rest
  | cons c before ih =>
      have hc : c ≠ sep := fun e => h (e ▸ List.mem_cons_self)
      rw [List.cons_append, splitAfter_cons_of_ne hc, ih fun m => h (List.mem_cons_of_mem c m)]
      rfl

theorem splitAfter_concat {sep last : Char} (hlast : last ≠ sep) {text : List Char}
    (h : sep ∉ text) : splitAfter sep (text ++ [last]) = [text ++ [last]] := by
  induction text with
  | nil => exact splitAfter_cons_of_ne hlast []
  | cons c text ih =>
      have hc : c ≠ sep := fun e => h (e ▸ List.mem_cons_self)
      rw [List.cons_append, splitAfter_cons_of_ne hc, ih fun m => h (List.mem_cons_of_mem c m)]
      rfl

/-- Cutting a list of names behind its colons gives the parts. -/
theorem splitAfter_names (glue : List Char) : ∀ {names : List (List Char)} {start : List Char},
    names ≠ [] → ':' ∉ start → (∀ name ∈ names, ':' ∉ name) →
      splitAfter ':' (start ++ joinWith [':'] names ++ [';']) =
        (nameParts glue start names).map Part.element
  | [], _, h, _, _ => absurd rfl h
  | [name], start, _, hstart, hnames => by
      have hcolon : ':' ∉ start ++ name := fun m =>
        (List.mem_append.mp m).elim hstart (hnames name List.mem_cons_self)
      rw [joinWith_singleton, splitAfter_concat (by decide) hcolon]
      rfl
  | name :: next :: names, start, _, hstart, hnames => by
      have hcolon : ':' ∉ start ++ name := fun m =>
        (List.mem_append.mp m).elim hstart (hnames name List.mem_cons_self)
      have ih := splitAfter_names [] (List.cons_ne_nil next names) List.not_mem_nil
        fun n m => hnames n (List.mem_cons_of_mem name m)
      have e : start ++ joinWith [':'] (name :: next :: names) ++ [';'] =
          (start ++ name) ++ ':' :: ([] ++ joinWith [':'] (next :: names) ++ [';']) := by
        rw [joinWith_cons_cons]
        simp
      rw [e, splitAfter_append_cons hcolon, ih]
      rfl

theorem nameParts_eq_pieces : ∀ names : List (List Char),
    nameParts [] [] names = ((nameParts [] [] names).map Part.element).map .piece
  | [] => rfl
  | [_] => rfl
  | _ :: next :: names => congrArg (List.cons _) (nameParts_eq_pieces (next :: names))

/-- Writing a list of names is placing its parts. -/
theorem FoldedText.addList_eq_placeAll {f : FoldedText} (h : f.text ≠ [])
    {names : List (List Char)} {start : List Char} (hne : names ≠ []) (hstart : ':' ∉ start)
    (hnames : ∀ name ∈ names, ':' ∉ name) :
    f.addList (start ++ joinWith [':'] names ++ [';']) =
      f.placeAll (nameParts [' '] start names) := by
  have hparts : ∃ (first : List Char) (rest : List (List Char)),
      nameParts [' '] start names = .tag first :: rest.map .piece := by
    match names, hne with
    | [name], _ => exact ⟨_, [], rfl⟩
    | name :: next :: names, _ =>
        exact ⟨_, _, congrArg (List.cons _) (nameParts_eq_pieces (next :: names))⟩
  obtain ⟨first, rest, hparts⟩ := hparts
  have hrest : (rest.map Part.piece).map Part.element = rest := by
    rw [List.map_map]
    exact List.map_id rest
  unfold addList
  rw [splitAfter_names [' '] hne hstart hnames, hparts, List.map_cons, hrest]
  dsimp only [Part.tag]
  rw [addTag_eq_place h, placeAll, List.foldl_cons, List.foldl_map]
  -- adding a piece is placing it, by definition
  rfl

/-- A list of names spread over the lines is one with a space behind some of the colons. -/
theorem Spread.names : ∀ {names : List (List Char)} {glue start : List Char} {parts : List Part}
    {text : List Char}, names ≠ [] → Spread (nameParts glue start names ++ parts) text →
      ∃ gap list more, (gap = glue ∨ gap = [' ']) ∧ NamesText names list ∧
        text = gap ++ (start ++ list ++ [';']) ++ more ∧ Spread parts more
  | [], _, _, _, _, h, _ => absurd rfl h
  | [name], _, start, parts, text, _, h => by
      cases h with
      | @cons _ _ more gap hgap hmore =>
          exact ⟨gap, name, more, hgap, .last name, rfl, hmore⟩
  | name :: next :: names, _, start, parts, text, _, h => by
      cases h with
      | cons gap hgap hrest =>
          obtain ⟨gap', list, more, hgap', hlist, rfl, hmore⟩ :=
            Spread.names (List.cons_ne_nil next names) hrest
          refine ⟨gap, name ++ ':' :: (gap' ++ list), more, hgap, .cons name gap' hgap' hlist, ?_,
            hmore⟩
          simp

/-! ### The whole field -/

/-- What folding keeps together: the tags, each with its semicolon, and the names in the list of
fields, each with the colon or semicolon behind it and the first one with `h=` in front. -/
def signatureElements (parameters : Parameters) (keyType bodyHash : String) : List (List Char) :=
  (leadingTags parameters keyType).map (fun tag => tag.toList ++ [';']) ++
    splitAfter ':' (namesTag parameters) ++
    [['b', 'h', '='] ++ bodyHash.toList ++ [';'], ['b', '=']]

/-- The parts of a signature. -/
def signatureParts (parameters : Parameters) (keyType bodyHash : String) : List Part :=
  (leadingTags parameters keyType).map (fun tag => .tag (tag.toList ++ [';'])) ++
    nameParts [' '] ['h', '='] (parameters.headerKeys.map String.toList) ++
    [.tag (['b', 'h', '='] ++ bodyHash.toList ++ [';']), .tag ['b', '=']]

theorem exists_leadingTags_cons (parameters : Parameters) (keyType : String) :
    ∃ tags, leadingTags parameters keyType = "v=1" :: tags := ⟨_, rfl⟩

theorem tail_signatureParts {parameters : Parameters} {keyType : String} {tags : List String}
    (h : leadingTags parameters keyType = "v=1" :: tags) (bodyHash : String) :
    (signatureParts parameters keyType bodyHash).tail =
      (tags.map fun tag => tag.toList ++ [';']).map .tag ++
        nameParts [' '] ['h', '='] (parameters.headerKeys.map String.toList) ++
        [['b', 'h', '='] ++ bodyHash.toList ++ [';'], ['b', '=']].map .tag := by
  rw [signatureParts, h, List.map_map]
  rfl

/-- The first tag stands right behind the name of the field. -/
def firstTag : FoldedText := FoldedText.start.write ['v', '=', '1', ';']

section Field

variable {parameters : Parameters} (hp : parameters.WellFormed)

include hp

theorem map_headerKeys_ne_nil : parameters.headerKeys.map String.toList ≠ [] := fun h =>
  hp.keys_ne_nil (List.map_eq_nil_iff.mp h)

theorem colon_notMem_of_mem_map_headerKeys :
    ∀ name ∈ parameters.headerKeys.map String.toList, ':' ∉ name := by
  intro text m
  obtain ⟨name, mn, rfl⟩ := List.mem_map.mp m
  exact (notMem_of_isInvalidKey (hp.keys name mn)).1

theorem splitAfter_namesTag : splitAfter ':' (namesTag parameters) =
    (nameParts [' '] ['h', '='] (parameters.headerKeys.map String.toList)).map Part.element :=
  splitAfter_names [' '] (map_headerKeys_ne_nil hp) (by decide)
    (colon_notMem_of_mem_map_headerKeys hp)

theorem map_element_signatureParts (keyType bodyHash : String) :
    (signatureParts parameters keyType bodyHash).map Part.element =
      signatureElements parameters keyType bodyHash := by
  rw [signatureParts, signatureElements, splitAfter_namesTag hp, List.map_append, List.map_append,
    List.map_map]
  rfl

/-- **The value is the parts behind the first one, placed one after another.** -/
theorem signatureText_eq_placeAll (keyType bodyHash : String) :
    signatureText parameters keyType bodyHash =
      String.ofList (firstTag.placeAll (signatureParts parameters keyType bodyHash).tail).text := by
  obtain ⟨tags, htags⟩ := exists_leadingTags_cons parameters keyType
  have hfirst : FoldedText.start.addTag ("v=1".toList ++ [';']) = firstTag := by decide
  have hne : ∀ parts, (firstTag.placeAll parts).text ≠ [] :=
    FoldedText.text_placeAll_ne_nil (by decide)
  have hlist := FoldedText.addList_eq_placeAll
    (hne ((tags.map fun tag => tag.toList ++ [';']).map .tag)) (map_headerKeys_ne_nil hp)
    (by decide : ':' ∉ ['h', '=']) (colon_notMem_of_mem_map_headerKeys hp)
  have hend : ∀ (f : FoldedText) (tag last : List Char),
      f.placeAll ([tag, last].map .tag) = (f.place (.tag tag)).place (.tag last) :=
    fun _ _ _ => rfl
  rw [signatureText, htags, List.foldl_cons, hfirst,
    FoldedText.foldl_addTag_eq_placeAll (by decide), hlist, ← FoldedText.placeAll_append,
    FoldedText.addTag_eq_place (hne _),
    FoldedText.addTag_eq_place (FoldedText.text_place_ne_nil (hne _) _),
    tail_signatureParts htags, FoldedText.placeAll_append _ (_ ++ _), hend]

omit hp in
/-- All the elements together are the stated tags and an empty signature. -/
theorem flatten_signatureElements (parameters : Parameters) (keyType bodyHash : String) :
    (signatureElements parameters keyType bodyHash).flatten =
      (statedTags parameters keyType bodyHash).flatMap (fun tag => tagText tag ++ [';']) ++
        ['b', '='] := by
  rw [signatureElements, flatMap_statedTags, List.flatten_append, List.flatten_append,
    flatten_splitAfter, ← List.flatMap_def]
  simp [namesTag]

end Field

/-! ### What the elements look like -/

/-- A text without a space starts with another character, whatever follows it. -/
theorem exists_cons_of_space_notMem {text : List Char} (hne : text ≠ []) (h : ' ' ∉ text)
    (more : List Char) : ∃ c rest, text ++ more = c :: rest ∧ c ≠ ' ' := by
  obtain ⟨c, text, rfl⟩ := List.exists_cons_of_ne_nil hne
  exact ⟨c, text ++ more, rfl, fun e => h (e ▸ List.mem_cons_self)⟩

theorem glue_of_mem_nameParts : ∀ {glue start : List Char} {names : List (List Char)} {part : Part},
    part ∈ nameParts glue start names → part.glue = glue ∨ part.glue = []
  | _, _, [_], _, h => .inl (List.mem_singleton.mp h ▸ rfl)
  | _, _, _ :: _ :: _, _, h => by
      rcases List.mem_cons.mp h with rfl | h
      · exact .inl rfl
      · exact .inr ((glue_of_mem_nameParts h).elim id id)

theorem exists_cons_of_mem_nameParts : ∀ {glue start : List Char} {names : List (List Char)},
    ' ' ∉ start → (∀ name ∈ names, name ≠ [] ∧ ' ' ∉ name) → ∀ part ∈ nameParts glue start names,
      ∃ c rest, part.element = c :: rest ∧ c ≠ ' '
  | _, start, [name], hstart, hnames, part, h => by
      obtain ⟨hne, hspace⟩ := hnames name List.mem_cons_self
      obtain rfl := List.mem_singleton.mp h
      exact exists_cons_of_space_notMem (List.append_ne_nil_of_right_ne_nil start hne)
        (fun m => (List.mem_append.mp m).elim hstart hspace) [';']
  | _, start, name :: next :: names, hstart, hnames, part, h => by
      obtain ⟨hne, hspace⟩ := hnames name List.mem_cons_self
      rcases List.mem_cons.mp h with rfl | h
      · exact exists_cons_of_space_notMem (List.append_ne_nil_of_right_ne_nil start hne)
          (fun m => (List.mem_append.mp m).elim hstart hspace) [':']
      · exact exists_cons_of_mem_nameParts List.not_mem_nil
          (fun n m => hnames n (List.mem_cons_of_mem name m)) part h

theorem exists_cons_of_mem_leadingTags {parameters : Parameters} {keyType tag : String}
    (h : tag ∈ leadingTags parameters keyType) : ∃ c rest, tag.toList = c :: rest ∧ c ≠ ' ' := by
  have hcons : ∀ {c : Char} {start text : String}, start.toList = [c, '='] → c ≠ ' ' →
      ∃ d rest, (start ++ text).toList = d :: rest ∧ d ≠ ' ' := by
    intro c start text e hc
    rw [String.toList_append, e]
    exact ⟨c, _, rfl, hc⟩
  simp only [leadingTags, List.mem_append, List.mem_cons, List.not_mem_nil, or_false,
    Option.mem_toList, Option.map_eq_some_iff, String.append_assoc] at h
  rcases h with ((rfl | rfl | rfl | rfl | rfl | rfl) | ⟨x, -, rfl⟩) | ⟨i, -, rfl⟩
  · exact ⟨'v', ['=', '1'], rfl, by decide⟩
  all_goals exact hcons rfl (by decide)

theorem ne_nil_of_isInvalidKey {name : String} (h : isInvalidKey name = false) :
    name.toList ≠ [] := by
  intro e
  rw [isInvalidKey, String.toList_eq_nil_iff.mp e] at h
  cases h

/-- No element starts with a space. -/
theorem exists_cons_of_mem_signatureElements {parameters : Parameters} (hp : parameters.WellFormed)
    {keyType bodyHash : String} {element : List Char}
    (h : element ∈ signatureElements parameters keyType bodyHash) :
    ∃ c rest, element = c :: rest ∧ c ≠ ' ' := by
  rw [signatureElements, splitAfter_namesTag hp] at h
  rcases List.mem_append.mp h with h | h
  · rcases List.mem_append.mp h with h | h
    · obtain ⟨tag, ht, rfl⟩ := List.mem_map.mp h
      obtain ⟨c, rest, e, hc⟩ := exists_cons_of_mem_leadingTags ht
      rw [e]
      exact ⟨c, _, rfl, hc⟩
    · obtain ⟨part, hpart, rfl⟩ := List.mem_map.mp h
      refine exists_cons_of_mem_nameParts (by decide) (fun text m => ?_) part hpart
      obtain ⟨name, mn, rfl⟩ := List.mem_map.mp m
      exact ⟨ne_nil_of_isInvalidKey (hp.keys name mn), fun m =>
        (ne_of_isInvalidKey (hp.keys name mn) m).2.2.1 rfl⟩
  · simp only [List.mem_cons, List.not_mem_nil, or_false] at h
    rcases h with rfl | rfl
    · exact ⟨'b', _, rfl, by decide⟩
    · exact ⟨'b', _, rfl, by decide⟩

/-- Parts are plain if the elements hold no line feed. -/
theorem isPlain_signatureParts {parameters : Parameters} (hp : parameters.WellFormed)
    {keyType bodyHash : String}
    (hlf : '\n' ∉ (signatureElements parameters keyType bodyHash).flatten) :
    ∀ part ∈ (signatureParts parameters keyType bodyHash).tail,
      part.IsPlain (signatureElements parameters keyType bodyHash) := by
  intro part htail
  have h : part ∈ signatureParts parameters keyType bodyHash := List.mem_of_mem_tail htail
  have hmem : part.element ∈ signatureElements parameters keyType bodyHash :=
    map_element_signatureParts hp keyType bodyHash ▸ List.mem_map_of_mem h
  refine ⟨hmem, ?_, fun m => hlf (List.mem_flatten.mpr ⟨_, hmem, m⟩)⟩
  have hglue : part.glue = [' '] ∨ part.glue = [] := by
    rcases List.mem_append.mp h with h | h
    · rcases List.mem_append.mp h with h | h
      · obtain ⟨tag, -, rfl⟩ := List.mem_map.mp h
        exact .inl rfl
      · exact glue_of_mem_nameParts h
    · simp only [List.mem_cons, List.not_mem_nil, or_false] at h
      rcases h with rfl | rfl
      · exact .inl rfl
      · exact .inl rfl
  rcases hglue with e | e
  · rw [e]
    decide
  · rw [e]
    exact List.not_mem_nil

/-! ### The main result -/

theorem joinWith_space_cons (first : List Char) : ∀ pieces : List (List Char),
    joinWith [' '] (first :: pieces) = first ++ pieces.flatMap (' ' :: ·)
  | [] => by rw [joinWith_singleton, List.flatMap_nil, List.append_nil]
  | next :: pieces => by
      rw [joinWith_cons_cons, joinWith_space_cons next pieces, List.flatMap_cons]
      simp

theorem laid_firstTag (elements : List (List Char)) : firstTag.Laid elements :=
  ⟨[], ['v', '=', '1', ';'], by decide, .lines (by decide) nofun, by decide⟩

/-- Without the line ends, the tags stand behind single spaces and the list of fields is as it was,
but for spaces behind colons. -/
theorem exists_flatten_crlfLines {parameters : Parameters} (hp : parameters.WellFormed)
    {keyType bodyHash : String}
    (hlf : '\n' ∉ (signatureElements parameters keyType bodyHash).flatten) :
    ∃ list, NamesText (parameters.headerKeys.map String.toList) list ∧
      (crlfLines (signatureText parameters keyType bodyHash).toList).flatten = joinWith [' ']
        ((leadingTags parameters keyType).map (fun tag => tag.toList ++ [';']) ++
          [['h', '='] ++ list ++ [';'], ['b', 'h', '='] ++ bodyHash.toList ++ [';'],
            ['b', '=']]) := by
  obtain ⟨text, htext, etext⟩ := exists_spread_placeAll (isPlain_signatureParts hp hlf) firstTag
  obtain ⟨tags, htags⟩ := exists_leadingTags_cons parameters keyType
  rw [tail_signatureParts htags, List.append_assoc] at htext
  obtain ⟨behindTags, rfl, hbehindTags⟩ := htext.tags
  obtain ⟨gap, list, behindList, hgap, hlist, rfl, hbehindList⟩ :=
    Spread.names (map_headerKeys_ne_nil hp) hbehindTags
  rw [← List.append_nil (List.map _ _)] at hbehindList
  obtain ⟨rest, rfl, hrest⟩ := hbehindList.tags
  cases hrest
  have hspace : gap = [' '] := hgap.elim id id
  have hfirst : (crlfLines firstTag.text).flatten = "v=1".toList ++ [';'] := by decide
  refine ⟨list, hlist, ?_⟩
  rw [signatureText_eq_placeAll hp, String.toList_ofList, etext, hfirst, htags]
  refine Eq.trans ?_ (joinWith_space_cons ("v=1".toList ++ [';']) (tags.map _ ++ _)).symm
  rw [List.flatMap_append, hspace]
  simp

/-- **The lines of a signature are folded well.**  Of accepted parameters whose names of fields
hold no line feed: the first line fits behind the name of the field, and every other line begins
with one space and a tag or a name, and fits unless that is all it holds.  The value ends in an
empty signature, and without its line ends it is the tags with single spaces between them, the
names in the list of fields with a colon and at most one space between them. -/
theorem signatureText_lines {parameters : Parameters} {key : SigningKey}
    (hvalid : parameters.validate key = .ok ())
    (hnames : ∀ name ∈ parameters.headerKeys, '\n' ∉ name.toList) (bodyHash : Bytes) :
    let elements := signatureElements parameters key.typeName (base64 bodyHash)
    let value := (signatureText parameters key.typeName (base64 bodyHash)).toList
    WellFolded elements (crlfLines value) ∧
      (∀ element ∈ elements, ∃ c rest, element = c :: rest ∧ c ≠ ' ') ∧
      ['b', '='] <:+ value ∧
      ∃ list, NamesText (parameters.headerKeys.map String.toList) list ∧
        (crlfLines value).flatten = joinWith [' ']
          ((leadingTags parameters key.typeName).map (fun tag => tag.toList ++ [';']) ++
            [['h', '='] ++ list ++ [';'], ['b', 'h', '='] ++ (base64 bodyHash).toList ++ [';'],
              ['b', '=']]) := by
  intro elements value
  have hp := Parameters.wellFormed_of_validate hvalid
  have hlf : '\n' ∉ elements.flatten := by
    rw [flatten_signatureElements, List.mem_append, not_or]
    exact ⟨notMem_flatMap_statedTags (by decide) (by decide) (notMem_of_breaksTag hp.domain).2
      (notMem_of_breaksTag hp.selector).2 hnames
      (lf_notMem_of_isTagChar (isTagChar_typeName key)) (notMem_base64 bodyHash).2, by decide⟩
  refine ⟨?_, fun element m => exists_cons_of_mem_signatureElements hp m, ?_,
    exists_flatten_crlfLines hp hlf⟩
  · obtain ⟨before, last, hlines, hfolded, -⟩ :=
      (laid_firstTag elements).placeAll _ (isPlain_signatureParts hp hlf)
    have hvalue : crlfLines value = before ++ [last] := by
      rw [← hlines]
      show crlfLines (signatureText _ _ _).toList = _
      rw [signatureText_eq_placeAll hp, String.toList_ofList]
    rwa [hvalue]
  · show _ <:+ (signatureText _ _ _).toList
    rw [signatureText, String.toList_ofList]
    exact FoldedText.suffix_addTag _ _

/-- Parameters with a name that is too long for any line, between two that are not. -/
def longNameParameters : Parameters :=
  { sampleParameters with
    headerKeys := ["Subject", String.ofList (List.replicate 80 'X'), "From"] }

/-- The long name stands on a line of its own. -/
theorem signatureText_lines_long_name :
    let key := SigningKey.ed25519 (List.replicate 32 7)
    let lines := crlfLines (signatureText longNameParameters key.typeName (base64 [1, 2, 3])).toList
    lines.map utf8Length = [55, 71, 82, 18] ∧
      longNameParameters.validate key = .ok () ∧
      (∀ name ∈ longNameParameters.headerKeys, '\n' ∉ name.toList) ∧
      WellFolded (signatureElements longNameParameters key.typeName (base64 [1, 2, 3])) lines := by
  intro key lines
  have hwidths : lines.map utf8Length = [55, 71, 82, 18] := by
    show (crlfLines (signatureText _ _ _).toList).map utf8Length = _
    rw [signatureText, String.toList_ofList]
    decide +kernel
  have hcheck : longNameParameters.check key = .ok () := by decide +kernel
  have hvalid : longNameParameters.validate key = .ok () := by
    rw [Parameters.validate, hcheck]
    rfl
  have hnames : ∀ name ∈ longNameParameters.headerKeys, '\n' ∉ name.toList := by decide +kernel
  exact ⟨hwidths, hvalid, hnames, (signatureText_lines hvalid hnames [1, 2, 3]).1⟩

end Mailroom.Dkim
