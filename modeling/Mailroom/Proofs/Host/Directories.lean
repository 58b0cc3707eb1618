import Mailroom.Proofs.Host.PathText
import Mailroom.Proofs.Host.Paths
import Mailroom.Proofs.Text.Decoding

/-! # What making directories does

Making directories, also if it fails halfway, adds directories and changes nothing else
(`grown_makeDirectories`), and whatever a path led to before, it leads to afterwards
(`Grown.nodeAt?`).  A path that leads anywhere has a directory above it (`isDirectory_of_parent?`);
so where the directories of a path cannot be made, it leads nowhere
(`isDirectory_of_makeDirectories`). -/

namespace Mailroom
namespace FileSystem

variable {fs gs : FileSystem} {loc : Location} {path : String}

/-! ### New directories -/

/-- What stands at a location is as before, or it is a new directory. -/
def GrownAt (fs gs : FileSystem) (loc : Location) : Prop :=
  gs.node? loc = fs.node? loc ∨ fs.node? loc = none ∧ gs.node? loc = some .directory

/-- There are new directories, and all else is as before. -/
def Grown (fs gs : FileSystem) : Prop := ∀ loc, GrownAt fs gs loc

namespace Grown

theorem refl (fs : FileSystem) : Grown fs fs := fun _ => .inl rfl

theorem trans {hs : FileSystem} (h : Grown fs gs) (h' : Grown gs hs) : Grown fs hs := by
  intro loc
  rcases h' loc with e' | ⟨hnone', e'⟩
  · rcases h loc with e | ⟨hnone, e⟩
    · exact .inl (e'.trans e)
    · exact .inr ⟨hnone, e'.trans e⟩
  · rcases h loc with e | ⟨hnone, e⟩
    · exact .inr ⟨e ▸ hnone', e'⟩
    · cases hnone'.symm.trans e

theorem node? (h : Grown fs gs) {node : Node} (hn : fs.node? loc = some node) :
    gs.node? loc = some node := by
  rcases h loc with e | ⟨hnone, -⟩
  · exact e.trans hn
  · cases hnone.symm.trans hn

end Grown

theorem grown_put (h : fs.node? loc = none) : Grown fs (fs.put loc .directory) := by
  have hroot : loc ≠ [] := by
    rintro rfl
    cases h
  intro other
  rw [GrownAt, node?_put fs hroot]
  split
  · next e => exact .inr ⟨e ▸ h, rfl⟩
  · exact .inl rfl

/-- What making a directory does; slashes at the end of its path do not count. -/
theorem makeDirectory_eq_ok (h : fs.makeDirectory path = .ok gs) :
    ∃ base more loc, Path.segments path = Path.segments base ++ more ∧
      fs.lookup false base = .ok (.free loc) ∧ gs = fs.put loc .directory := by
  unfold makeDirectory at h
  have hbase : ∃ more, Path.segments path = Path.segments
      (if (trimSlashes path).isEmpty then path else trimSlashes path) ++ more := by
    split
    · exact ⟨[], (List.append_nil _).symm⟩
    · obtain ⟨more, hstarts⟩ := Path.starts_trimSlashes path
      exact ⟨more, hstarts.segments⟩
  obtain ⟨more, hsegments⟩ := hbase
  cases hl : fs.lookup false (if (trimSlashes path).isEmpty then path else trimSlashes path) with
  | error fault => rw [hl] at h; cases h
  | ok place =>
      rw [hl] at h
      cases place with
      | taken loc node => cases h
      | free loc =>
          refine ⟨_, more, loc, hsegments, hl, ?_⟩
          dsimp only [bind, Except.bind] at h
          split at h <;> cases h
          rfl

theorem grown_makeDirectory (h : fs.makeDirectory path = .ok gs) : Grown fs gs := by
  obtain ⟨_, _, loc, _, hfree, rfl⟩ := makeDirectory_eq_ok h
  exact grown_put (node?_of_free hfree)

theorem grown_ensureDirectory (fs : FileSystem) (path : String) :
    Grown fs (fs.ensureDirectory path).2 := by
  unfold ensureDirectory
  cases h : fs.makeDirectory path with
  | ok made => exact grown_makeDirectory h
  | error fault => exact .refl fs

section after

variable (above : FileSystem → String → Except IoFault Unit × FileSystem)

/-- What making a directory comes to: nothing for the empty path, one directory, or one directory
after that above it, if there is one and it can be made. -/
theorem makeDirectoryAfter_cases (fs : FileSystem) (path : String) :
    makeDirectoryAfter above fs path = (.ok (), fs) ∨
    makeDirectoryAfter above fs path = fs.ensureDirectory path ∨
    fs.makeDirectory path = .error (.system .notFound) ∧
      ((∃ fault, makeDirectoryAfter above fs path = (.error fault, fs)) ∨
      ∃ parent, Path.parent? path = some parent ∧
        makeDirectoryAfter above fs path =
          match above fs parent with
          | (.ok (), made) => made.ensureDirectory path
          | (.error fault, made) => (.error fault, made)) := by
  unfold makeDirectoryAfter
  split
  · exact .inl rfl
  · right
    split
    · next parent hmissing hparent => exact .inr ⟨hmissing, .inr ⟨parent, hparent, rfl⟩⟩
    · next hmissing _ => exact .inr ⟨hmissing, .inl ⟨_, rfl⟩⟩
    · exact .inl rfl

theorem grown_makeDirectoryAfter (habove : ∀ fs path, Grown fs (above fs path).2)
    (fs : FileSystem) (path : String) : Grown fs (makeDirectoryAfter above fs path).2 := by
  rcases makeDirectoryAfter_cases above fs path with
    e | e | ⟨-, ⟨fault, e⟩ | ⟨parent, -, e⟩⟩ <;> rw [e]
  · exact .refl fs
  · exact grown_ensureDirectory fs path
  · exact .refl fs
  · have h := habove fs parent
    cases hmade : above fs parent with
    | mk answer made =>
        rw [hmade] at h
        cases answer with
        | error fault => exact h
        | ok _ => exact h.trans (grown_ensureDirectory made path)

end after

theorem grown_makeDirectoriesFrom (depth : Nat) :
    ∀ (fs : FileSystem) (path : String), Grown fs (makeDirectoriesFrom depth fs path).2 := by
  induction depth with
  | zero => exact grown_makeDirectoryAfter _ fun fs _ => .refl fs
  | succ depth ih => exact grown_makeDirectoryAfter _ ih

/-- **Making directories** adds directories and changes nothing else, whether it fails or not. -/
theorem grown_makeDirectories (fs : FileSystem) (path : String) :
    Grown fs (fs.makeDirectories path).2 :=
  grown_makeDirectoriesFrom path.length fs path

/-! ### Walks -/

/-- **New directories disturb no walk.** -/
theorem Grown.walk (h : Grown fs gs) {follow : Bool} {links : Nat} {dir : Location}
    {names : List String} {node : Node}
    (hw : fs.walk follow links dir names = .ok (.taken loc node)) :
    gs.walk follow links dir names = .ok (.taken loc node) := by
  fun_induction FileSystem.walk fs follow links dir names with
  | case1 =>
      rw [FileSystem.walk]
      exact hw
  | case2 links dir rest ih =>
      rw [FileSystem.walk, if_pos rfl]
      exact ih hw
  | case3 links dir rest hdot ih =>
      rw [FileSystem.walk, if_neg hdot, if_pos rfl]
      exact ih hw
  | case7 links dir name rest hdot hup hlong here hdir ih =>
      rw [FileSystem.walk, if_neg hdot, if_neg hup, if_neg hlong]
      dsimp only
      rw [h.node? hdir]
      exact ih hw
  | case8 links dir name rest hdot hup hlong here content mode hfile hrest =>
      rw [FileSystem.walk, if_neg hdot, if_neg hup, if_neg hlong]
      dsimp only
      rw [h.node? hfile]
      dsimp only
      rw [if_pos hrest, ← hw]
  | case10 links dir name rest hdot hup hlong here target hlink hend =>
      rw [FileSystem.walk, if_neg hdot, if_neg hup, if_neg hlong]
      dsimp only
      rw [h.node? hlink]
      dsimp only
      rw [if_pos hend, ← hw]
  | case12 dir name rest hdot hup hlong here target hlink hgo links ih =>
      rw [FileSystem.walk, if_neg hdot, if_neg hup, if_neg hlong]
      dsimp only
      rw [h.node? hlink]
      dsimp only
      rw [if_neg hgo]
      exact ih hw
  | case4 | case5 | case6 | case9 | case11 => cases hw

/-- A walk that follows a final link goes the same way without following it, unless there is such a
link. -/
theorem walk_unfollowed {links : Nat} {dir : Location} {names : List String} {place : Place}
    (hw : fs.walk true links dir names = .ok place) :
    fs.walk false links dir names = .ok place ∨
      ∃ other target, fs.walk false links dir names = .ok (.taken other (.link target)) := by
  fun_induction FileSystem.walk fs true links dir names with
  | case1 links dir =>
      rw [FileSystem.walk]
      exact .inl hw
  | case2 links dir rest ih =>
      rw [FileSystem.walk, if_pos rfl]
      exact ih hw
  | case3 links dir rest hdot ih =>
      rw [FileSystem.walk, if_neg hdot, if_pos rfl]
      exact ih hw
  | case5 links dir name rest hdot hup hlong here hnone hrest =>
      rw [FileSystem.walk, if_neg hdot, if_neg hup, if_neg hlong]
      dsimp only
      rw [hnone]
      dsimp only
      rw [if_pos hrest]
      exact .inl hw
  | case7 links dir name rest hdot hup hlong here hdir ih =>
      rw [FileSystem.walk, if_neg hdot, if_neg hup, if_neg hlong]
      dsimp only
      rw [hdir]
      exact ih hw
  | case8 links dir name rest hdot hup hlong here content mode hfile hrest =>
      rw [FileSystem.walk, if_neg hdot, if_neg hup, if_neg hlong]
      dsimp only
      rw [hfile]
      dsimp only
      rw [if_pos hrest]
      exact .inl hw
  | case10 links dir name rest _ _ _ here target _ hend => simp at hend
  | case12 dir name rest hdot hup hlong here target hlink hgo links ih =>
      rw [FileSystem.walk, if_neg hdot, if_neg hup, if_neg hlong]
      dsimp only
      rw [hlink]
      dsimp only
      split
      · exact .inr ⟨_, _, rfl⟩
      · exact ih hw
  | case4 | case6 | case9 | case11 => cases hw

/-- What a walk finds if it follows links it also finds if it stops at a final one. -/
theorem exists_walk_unfollowed {links : Nat} {dir : Location} {names : List String} {node : Node}
    (hw : fs.walk true links dir names = .ok (.taken loc node)) :
    ∃ other there, fs.walk false links dir names = .ok (.taken other there) := by
  rcases walk_unfollowed hw with h | ⟨other, target, h⟩
  · exact ⟨_, _, h⟩
  · exact ⟨_, _, h⟩

/-- **A walk to somewhere passes through directories:** what stands before more segments leads to a
directory, and the walk goes on from there. -/
theorem exists_walk_append {follow : Bool} {more : List String} {place : Place}
    (hmore : more ≠ []) :
    ∀ {links : Nat} {dir : Location} {names : List String},
      fs.walk follow links dir (names ++ more) = .ok place →
        ∃ left there, fs.walk true links dir names = .ok (.taken there .directory) ∧
          fs.walk follow left there more = .ok place
  | links, dir, [], hw => ⟨links, dir, by rw [FileSystem.walk], hw⟩
  | links, dir, name :: names, hw => by
      -- no segment of `names` is the last one in `hw`, so that walk ends at none of them
      have hne : (names ++ more).isEmpty = false := by
        simpa using fun _ => hmore
      rw [List.cons_append, FileSystem.walk] at hw
      rw [FileSystem.walk]
      by_cases hdot : name = "."
      · rw [if_pos hdot] at hw ⊢
        exact exists_walk_append hmore hw
      rw [if_neg hdot] at hw ⊢
      by_cases hup : name = ".."
      · rw [if_pos hup] at hw ⊢
        exact exists_walk_append hmore hw
      rw [if_neg hup] at hw ⊢
      by_cases hlong : maxNameLength < (utf8 name).length
      · rw [if_pos hlong] at hw
        cases hw
      rw [if_neg hlong] at hw ⊢
      dsimp only at hw ⊢
      cases hn : fs.node? (dir ++ [name]) with
      | none =>
          rw [hn, hne] at hw
          cases hw
      | some node =>
          rw [hn] at hw
          cases node with
          | directory => exact exists_walk_append hmore hw
          | file content mode =>
              dsimp only at hw
              rw [hne] at hw
              cases hw
          | link target =>
              dsimp only at hw ⊢
              rw [hne, Bool.false_and] at hw
              rw [Bool.not_true, Bool.and_false]
              cases links with
              | zero => cases hw
              | succ links =>
                  dsimp only at hw ⊢
                  rw [if_neg Bool.false_ne_true, ← List.append_assoc] at hw
                  rw [if_neg Bool.false_ne_true]
                  exact exists_walk_append hmore hw
termination_by links _ names => (links, names.length)

/-! ### Paths to directories -/

/-- What a path that can be looked up starts with can be looked up. -/
theorem Lookable.of_starts {base : String} {more : List String} (h : Lookable path)
    (hstarts : Path.Starts base path more) (hne : ¬ base.isEmpty = true) : Lookable base where
  nul := by
    obtain ⟨rest, e⟩ := hstarts.text
    have hnul := h.nul
    rw [← e, List.any_append, Bool.or_eq_true, not_or] at hnul
    exact hnul.1
  empty := hne
  long := by
    obtain ⟨rest, e⟩ := hstarts.text
    have hlong := h.long
    rw [utf8, ← e, utf8Chars_append, List.length_append] at hlong
    unfold utf8
    omega

theorem isDirectory_iff :
    fs.isDirectory path = true ↔ ∃ loc, fs.lookup true path = .ok (.taken loc .directory) := by
  unfold isDirectory
  split
  · next loc e => exact ⟨fun _ => ⟨loc, e⟩, fun _ => rfl⟩
  · next hnone =>
    refine ⟨nofun, ?_⟩
    rintro ⟨loc, e⟩
    exact absurd e (hnone loc)

/-- **A path that leads anywhere,** be it to a free name, has a directory above it. -/
theorem isDirectory_of_parent? {follow : Bool} {parent : String} {place : Place}
    (hparent : Path.parent? path = some parent) (hne : ¬ parent.isEmpty = true)
    (h : fs.lookup follow path = .ok place) : fs.isDirectory parent = true := by
  obtain ⟨more, hstarts, hgoes⟩ := Path.starts_of_parent? hparent hne
  obtain ⟨hlookable, hwalk⟩ := lookup_eq_ok_iff.mp h
  have hup : ∃ loc, fs.walk true maxLinks [] (Path.segments parent) =
      .ok (.taken loc .directory) := by
    rcases hgoes with rfl | hmore
    · exact ⟨[], by rw [show Path.segments "/" = [] by decide, FileSystem.walk]⟩
    · rw [hstarts.segments] at hwalk
      obtain ⟨-, loc, hloc, -⟩ := exists_walk_append hmore hwalk
      exact ⟨loc, hloc⟩
  obtain ⟨loc, hloc⟩ := hup
  exact isDirectory_iff.mpr
    ⟨loc, lookup_eq_ok_iff.mpr ⟨hlookable.of_starts hstarts hne, hloc⟩⟩

/-- A directory that is there is no free name, with or without slashes at its end. -/
theorem makeDirectory_of_isDirectory (h : fs.isDirectory path = true) :
    fs.makeDirectory path = .error (.system .alreadyExists) := by
  obtain ⟨loc, hlookup⟩ := isDirectory_iff.mp h
  have htaken : ∃ other there, fs.lookup false
      (if (trimSlashes path).isEmpty then path else trimSlashes path) =
        .ok (.taken other there) := by
    obtain ⟨hlookable, hwalk⟩ := lookup_eq_ok_iff.mp hlookup
    split
    · obtain ⟨other, there, e⟩ := exists_walk_unfollowed hwalk
      exact ⟨other, there, lookup_eq_ok_iff.mpr ⟨hlookable, e⟩⟩
    · next hne =>
      -- the final slashes add more segments only behind a directory
      obtain ⟨more, hstarts⟩ := Path.starts_trimSlashes path
      have hbase : ∃ loc, fs.walk true maxLinks [] (Path.segments (trimSlashes path)) =
          .ok (.taken loc .directory) := by
        rw [hstarts.segments] at hwalk
        by_cases hmore : more = []
        · rw [hmore, List.append_nil] at hwalk
          exact ⟨loc, hwalk⟩
        · obtain ⟨-, there, e, -⟩ := exists_walk_append hmore hwalk
          exact ⟨there, e⟩
      obtain ⟨loc, hloc⟩ := hbase
      obtain ⟨other, there, e⟩ := exists_walk_unfollowed hloc
      exact ⟨other, there, lookup_eq_ok_iff.mpr ⟨hlookable.of_starts hstarts hne, e⟩⟩
  obtain ⟨other, there, e⟩ := htaken
  unfold makeDirectory
  rw [e]
  rfl

theorem isDirectory_of_ensureDirectory {fault : IoFault}
    (h : fs.ensureDirectory path = (.error fault, gs)) : gs.isDirectory path = false := by
  unfold ensureDirectory at h
  cases hm : fs.makeDirectory path with
  | ok made => rw [hm] at h; cases h
  | error other =>
      rw [hm] at h
      obtain ⟨hanswer, rfl⟩ := Prod.mk.inj h
      split at hanswer
      · cases hanswer
      · next hd => exact Bool.eq_false_iff.mpr hd

theorem isDirectory_of_makeDirectoryAfter
    {above : FileSystem → String → Except IoFault Unit × FileSystem}
    (habove : ∀ {parent fault made}, above fs parent = (.error fault, made) →
      made = fs ∨ ¬ parent.isEmpty = true ∧ made.isDirectory parent = false) {fault : IoFault}
    (h : makeDirectoryAfter above fs path = (.error fault, gs)) : gs.isDirectory path = false := by
  have hmissing : fs.makeDirectory path = .error (.system .notFound) →
      fs.isDirectory path = false := fun hm => by
    rw [Bool.eq_false_iff]
    intro hd
    cases hm.symm.trans (makeDirectory_of_isDirectory hd)
  rcases makeDirectoryAfter_cases above fs path with
    e | e | ⟨hm, ⟨other, e⟩ | ⟨parent, hparent, e⟩⟩
  · cases e.symm.trans h
  · exact isDirectory_of_ensureDirectory (e.symm.trans h)
  · cases e.symm.trans h
    exact hmissing hm
  · have e' := e.symm.trans h
    cases hmade : above fs parent with
    | mk answer made =>
        rw [hmade] at e'
        cases answer with
        | ok _ => exact isDirectory_of_ensureDirectory e'
        | error other =>
            cases e'
            rcases habove hmade with rfl | ⟨hne, hnot⟩
            · exact hmissing hm
            · rw [Bool.eq_false_iff]
              intro hd
              obtain ⟨loc, hl⟩ := isDirectory_iff.mp hd
              exact Bool.noConfusion ((isDirectory_of_parent? hparent hne hl).symm.trans hnot)

/-- **A directory that cannot be made** is not there. -/
theorem isDirectory_of_makeDirectories {fault : IoFault}
    (h : fs.makeDirectories path = (.error fault, gs)) : gs.isDirectory path = false := by
  unfold makeDirectories at h
  -- whatever the depth is: a depth that runs out is one more way to fail
  generalize path.length = depth at h
  induction depth generalizing path gs fault with
  | zero =>
      refine isDirectory_of_makeDirectoryAfter (fun hmade => ?_) h
      cases hmade
      exact .inl rfl
  | succ depth ih =>
      refine isDirectory_of_makeDirectoryAfter (fun hmade => .inr ⟨fun hempty => ?_, ih hmade⟩) h
      cases depth <;>
        · rw [makeDirectoriesFrom, makeDirectoryAfter, if_pos hempty] at hmade
          cases hmade

/-! ### What a path leads to -/

/-- What a path leads to, if it leads to something. -/
def nodeAt? (fs : FileSystem) (path : String) : Option Node :=
  match fs.lookup true path with
  | .ok (.taken _ node) => some node
  | _ => none

theorem nodeAt?_eq_some_iff {node : Node} :
    fs.nodeAt? path = some node ↔ ∃ loc, fs.lookup true path = .ok (.taken loc node) := by
  unfold nodeAt?
  split
  · next loc there e =>
    rw [e]
    constructor
    · intro h
      exact ⟨loc, by rw [Option.some.inj h]⟩
    · rintro ⟨other, h⟩
      rw [(Place.taken.inj (Except.ok.inj h)).2]
  · next hnone =>
    refine ⟨nofun, ?_⟩
    rintro ⟨loc, e⟩
    exact absurd e (hnone loc node)

/-- **New directories leave everything where it was.** -/
theorem Grown.nodeAt? (h : Grown fs gs) {node : Node} (he : fs.nodeAt? path = some node) :
    gs.nodeAt? path = some node := by
  obtain ⟨loc, hl⟩ := nodeAt?_eq_some_iff.mp he
  rw [lookup_eq_ok_iff] at hl
  exact nodeAt?_eq_some_iff.mpr ⟨loc, lookup_eq_ok_iff.mpr ⟨hl.1, h.walk hl.2⟩⟩

/-- A path leads to nothing where the directories above it cannot be made. -/
theorem nodeAt?_of_makeDirectories {parent : String} {fault : IoFault}
    (hparent : Path.parent? path = some parent) (hne : ¬ parent.isEmpty = true)
    (h : fs.makeDirectories parent = (.error fault, gs)) : gs.nodeAt? path = none := by
  cases he : gs.nodeAt? path with
  | none => rfl
  | some node =>
      obtain ⟨loc, hl⟩ := nodeAt?_eq_some_iff.mp he
      exact Bool.noConfusion ((isDirectory_of_parent? hparent hne hl).symm.trans
        (isDirectory_of_makeDirectories h))

/-- A path that ends in a slash leads to no file. -/
theorem not_endsInSlash_of_file {content : Bytes} {mode : Nat}
    (h : fs.lookup true path = .ok (.taken loc (.file content mode))) :
    ¬ Path.endsInSlash path = true := by
  intro hslash
  obtain ⟨-, hwalk⟩ := lookup_eq_ok_iff.mp h
  rcases Path.segments_of_endsInSlash hslash with e | ⟨names, e⟩
  · rw [e, FileSystem.walk] at hwalk
    cases hwalk
  · rw [e] at hwalk
    obtain ⟨left, there, -, hdot⟩ := exists_walk_append (List.cons_ne_nil _ _) hwalk
    rw [FileSystem.walk, if_pos rfl, FileSystem.walk] at hdot
    cases hdot

/-- New directories bring no new file. -/
theorem Grown.node?_of_file (h : Grown fs gs) {content : Bytes} {mode : Nat}
    (hl : gs.lookup true path = .ok (.taken loc (.file content mode))) :
    fs.node? loc = some (.file content mode) := by
  have hnode := (node?_of_walk (lookup_eq_ok_iff.mp hl).2).2 (.file content mode) nofun rfl
  rcases h loc with e | ⟨-, e⟩
  · exact e.symm.trans hnode
  · cases e.symm.trans hnode

/-! ### Texts in files -/

theorem decodeUtf8?_utf8 (text : String) : decodeUtf8? (utf8 text) = some text := by
  unfold decodeUtf8? utf8
  rw [Utf8.characters_utf8Chars, if_pos (by simp)]
  simp

/-- Reading a text is reading a file and decoding it. -/
theorem readText_eq (fs : FileSystem) (path : String) :
    fs.readText path = match fs.readFile path with
      | .error fault => .error fault
      | .ok bytes =>
        match decodeUtf8? bytes with
        | some text => .ok text
        | none => .error .notText := by
  unfold readText
  cases fs.readFile path <;> rfl

/-- If no file is found, the path leads to nothing. -/
theorem nodeAt?_of_readText (h : fs.readText path = .error (.system .notFound)) :
    fs.nodeAt? path = none := by
  cases he : fs.nodeAt? path with
  | none => rfl
  | some node =>
      obtain ⟨loc, hl⟩ := nodeAt?_eq_some_iff.mp he
      rw [readText_eq, readFile, hl] at h
      cases node with
      | directory | link target => cases h
      | file content mode =>
          dsimp only [bind, Except.bind, pure, Except.pure] at h
          split at h <;> cases h

/-- A text that was written is read. -/
theorem readText_of_readFile {text : String} (h : fs.readFile path = .ok (utf8 text)) :
    fs.readText path = .ok text := by
  rw [readText_eq, h]
  dsimp only
  rw [decodeUtf8?_utf8]

end FileSystem
end Mailroom
