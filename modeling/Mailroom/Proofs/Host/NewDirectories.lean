import Mailroom.Proofs.Host.Directories

/-! # What new directories bring to light

A path leads nowhere while a directory on its way is missing.  When that directory is made, the path
can lead to what stood at its end all the time: with `..` in a path this can be anything, as
`x/../f` leads to `f` once there is a directory `x`.  Without `..` in it, the path of a directory
that was made leads to a new one, and there is nothing in it (`madeNew_of_makeDirectories`,
`walk_of_new`). -/

namespace Mailroom
namespace FileSystem

variable {fs gs : FileSystem} {loc : Location} {path : String}

/-! ### Links at the end -/

theorem node?_put_of_ne (hroot : loc ≠ []) (node : Node) {other : Location} (h : other ≠ loc) :
    (fs.put loc node).node? other = fs.node? other := by
  rw [node?_put fs hroot, if_neg h]

/-- Whether a path leads to a symbolic link. -/
def IsLink (fs : FileSystem) (path : String) : Prop :=
  ∃ loc target, fs.lookup false path = .ok (.taken loc (.link target))

/-- A path that is no link leads to the same place, followed or not. -/
theorem lookup_of_not_isLink (hlink : ¬ fs.IsLink path) {place : Place}
    (h : fs.lookup true path = .ok place) : fs.lookup false path = .ok place := by
  rw [lookup_eq_ok_iff] at h ⊢
  refine ⟨h.1, (walk_unfollowed h.2).resolve_right ?_⟩
  rintro ⟨loc, target, hwalk⟩
  exact hlink ⟨loc, target, lookup_eq_ok_iff.mpr ⟨h.1, hwalk⟩⟩

/-- A file that is written makes no link of another path. -/
theorem not_isLink_put (hend : fs.IsEnd loc) {content : Bytes} {mode : Nat}
    (hlink : ¬ fs.IsLink path) : ¬ (fs.put loc (.file content mode)).IsLink path := by
  rintro ⟨other, target, h⟩
  obtain ⟨hlookable, hwalk⟩ := lookup_eq_ok_iff.mp h
  have hfile : (fs.put loc (.file content mode)).node? loc = some (.file content mode) := by
    rw [node?_put fs hend.1, if_pos rfl]
  have hne : other ≠ loc := by
    rintro rfl
    have hthere := (node?_of_walk hwalk).2 (.link target) nofun rfl
    rw [hfile] at hthere
    cases hthere
  have hback := walk_of_agrees ⟨hend.1, .inr ⟨content, mode, hfile⟩⟩
    (fun _ hplace => (node?_put_of_ne hend.1 (.file content mode) hplace).symm) hwalk hne
  exact hlink ⟨other, target, lookup_eq_ok_iff.mpr ⟨hlookable, hback⟩⟩

/-- **A file that exists keeps its mode** when it is written. -/
theorem fileToWrite_of_file {old : Bytes} {kept : Nat}
    (h : fs.lookup true path = .ok (.taken loc (.file old kept))) (mode : Nat) :
    fs.fileToWrite path mode = .ok ⟨loc, kept⟩ := by
  unfold fileToWrite
  rw [if_neg (not_endsInSlash_of_file h), h]
  rfl

/-- What a file that is written at one place does to a path to another one: nothing. -/
theorem lookup_put_of_ne {follow : Bool} {other : Location} {node : Node} {written : Bytes}
    {kept : Nat} (h : fs.lookup follow path = .ok (.taken loc node)) (hend : fs.IsEnd other)
    (hne : other ≠ loc) :
    (fs.put other (.file written kept)).lookup follow path = .ok (.taken loc node) := by
  rw [lookup_eq_ok_iff] at h ⊢
  exact ⟨h.1, walk_of_agrees hend (fun _ => node?_put_of_ne hend.1 (.file written kept)) h.2
    (Ne.symm hne)⟩

/-- A walk that ends at a free name or a file without following a link there ends at its last
segment. -/
theorem getLast?_of_lookup {names : List String} {name : String} {place : Place}
    (hsegments : Path.segments path = names ++ [name]) (h : fs.lookup false path = .ok place)
    (hp : Writable loc place) : loc.getLast? = some name := by
  have hwalk := (lookup_eq_ok_iff.mp h).2
  rw [hsegments] at hwalk
  obtain ⟨left, there, -, hlast⟩ := exists_walk_append (List.cons_ne_nil _ _) hwalk
  have hstay : ∀ dir, fs.walk false left dir [] ≠ .ok place := fun dir e => by
    rw [FileSystem.walk] at e
    cases e
    cases hp
  have hhere : loc = there ++ [name] := by
    rw [FileSystem.walk] at hlast
    split at hlast
    · exact absurd hlast (hstay there)
    split at hlast
    · exact absurd hlast (hstay there.dropLast)
    split at hlast
    · cases hlast
    dsimp only at hlast
    cases hn : fs.node? (there ++ [name]) with
    | none =>
        rw [hn] at hlast
        cases hlast
        exact hp.eq_of_free
    | some node =>
        rw [hn] at hlast
        cases node with
        | directory => exact absurd hlast (hstay (there ++ [name]))
        | file content mode =>
            cases hlast
            exact hp.eq_of_file
        | link target =>
            cases hlast
            exact absurd hp not_writable_link
  rw [hhere, List.getLast?_concat]

/-! ### New directories -/

/-- Everything but the root lies in a directory. -/
def IsTree (fs : FileSystem) : Prop :=
  ∀ (loc : Location) (name : String), fs.node? (loc ++ [name]) ≠ none →
    fs.node? loc = some .directory

/-- Whether a walk ends at no other directory than a new one. -/
def EndsAtNew (fs gs : FileSystem) (names : List String) : Prop :=
  ∀ loc, gs.walk true maxLinks [] names = .ok (.taken loc .directory) → fs.node? loc = none

/-- A walk to a free name ends at a directory that was made there. -/
theorem walk_put_directory {links : Nat} {dir : Location} {names : List String}
    (h : fs.walk false links dir names = .ok (.free loc)) :
    (fs.put loc .directory).walk true links dir names = .ok (.taken loc .directory) := by
  have hend := isEnd_of_walk h .free
  have hmade : (fs.put loc .directory).node? loc = some .directory := by
    rw [FileSystem.node?_put fs hend.1, if_pos rfl]
  fun_induction FileSystem.walk fs false links dir names with
  | case2 links dir rest ih =>
      rw [FileSystem.walk, if_pos rfl]
      exact ih h
  | case3 links dir rest hdot ih =>
      rw [FileSystem.walk, if_neg hdot, if_pos rfl]
      exact ih h
  | case5 links dir name rest hdot hup hlong here hnone hrest =>
      obtain rfl : here = loc := Place.free.inj (Except.ok.inj h)
      rw [FileSystem.walk, if_neg hdot, if_neg hup, if_neg hlong]
      dsimp only
      rw [hmade, List.isEmpty_iff.mp hrest]
      dsimp only
      rw [FileSystem.walk]
  | case7 links dir name rest hdot hup hlong here hdir ih =>
      rw [FileSystem.walk, if_neg hdot, if_neg hup, if_neg hlong]
      dsimp only
      rw [hend.node?_put _ hdir fun _ _ => Node.noConfusion]
      exact ih h
  | case12 dir name rest hdot hup hlong here target hlink hgo links ih =>
      rw [FileSystem.walk, if_neg hdot, if_neg hup, if_neg hlong]
      dsimp only
      rw [hend.node?_put _ hlink fun _ _ => Node.noConfusion]
      dsimp only
      rw [if_neg (by simp)]
      exact ih h
  | case1 | case8 | case10 | case4 | case6 | case9 | case11 => cases h

/-- What making a directory comes to, by the place at its path, if the medium is sound. -/
theorem makeDirectory_eq (hslash : ¬ Path.endsInSlash path = true) (hflaws : fs.flaws = []) :
    fs.makeDirectory path = (fs.lookup false path).bind fun
      | .taken _ _ => .error (.system .alreadyExists)
      | .free loc => .ok (fs.put loc .directory) := by
  unfold makeDirectory
  rw [Path.trimSlashes_of_not_endsInSlash hslash, ite_self]
  have hflaw : ∀ loc, fs.flaw? loc = none := fun loc => by rw [flaw?, hflaws]; rfl
  simp only [hflaw]
  rfl

/-- A directory that can be made at once needs none above it. -/
theorem makeDirectoriesFrom_of_makeDirectory (hne : ¬ path.isEmpty = true)
    (h : fs.makeDirectory path = .ok gs) (depth : Nat) :
    makeDirectoriesFrom depth fs path = (.ok (), gs) := by
  have hafter : ∀ above, makeDirectoryAfter above fs path = (.ok (), gs) := by
    intro above
    unfold makeDirectoryAfter
    rw [if_neg hne, h]
    dsimp only
    unfold ensureDirectory
    rw [h]
  cases depth with
  | zero => exact hafter _
  | succ depth => exact hafter _

section tree

variable (htree : fs.IsTree)
include htree

/-- **There is nothing in a new directory:** below it, a walk that does not go up ends at a new
directory again. -/
theorem walk_of_new (hgrown : Grown fs gs) {follow : Bool} {links : Nat} {node : Node} :
    ∀ {dir : Location} {names : List String}, fs.node? dir = none → ".." ∉ names →
      gs.walk follow links dir names = .ok (.taken loc node) →
        node = .directory ∧ fs.node? loc = none
  | dir, [], hnew, _, hwalk => by
      rw [FileSystem.walk] at hwalk
      obtain ⟨rfl, rfl⟩ := Place.taken.inj (Except.ok.inj hwalk)
      exact ⟨rfl, hnew⟩
  | dir, name :: names, hnew, hplain, hwalk => by
      obtain ⟨hup, hplain⟩ := not_or.mp (mt List.mem_cons.mpr hplain)
      have hbelow : fs.node? (dir ++ [name]) = none :=
        Classical.not_not.mp fun hne => by cases hnew.symm.trans (htree dir name hne)
      rw [FileSystem.walk] at hwalk
      split at hwalk
      · exact walk_of_new hgrown hnew hplain hwalk
      rw [if_neg (Ne.symm hup)] at hwalk
      split at hwalk
      · cases hwalk
      dsimp only at hwalk
      rcases hgrown (dir ++ [name]) with e | ⟨-, e⟩
      · rw [e, hbelow] at hwalk
        dsimp only at hwalk
        split at hwalk <;> cases hwalk
      · rw [e] at hwalk
        exact walk_of_new hgrown hbelow hplain hwalk

/-- What lies beyond a new directory is a new directory, too. -/
theorem EndsAtNew.walk_append (hgrown : Grown fs gs) {names more : List String}
    (hnew : fs.EndsAtNew gs names) (hplain : ".." ∉ more) (hmore : more ≠ []) {follow : Bool}
    {node : Node} (hwalk : gs.walk follow maxLinks [] (names ++ more) = .ok (.taken loc node)) :
    node = .directory ∧ fs.node? loc = none := by
  obtain ⟨left, dir, hdir, hrest⟩ := exists_walk_append hmore hwalk
  exact walk_of_new htree hgrown (hnew dir hdir) hplain hrest

theorem EndsAtNew.append (hgrown : Grown fs gs) {names more : List String}
    (hnew : fs.EndsAtNew gs names) (hplain : ".." ∉ more) : fs.EndsAtNew gs (names ++ more) := by
  intro loc hwalk
  by_cases hmore : more = []
  · rw [hmore, List.append_nil] at hwalk
    exact hnew loc hwalk
  · exact (hnew.walk_append htree hgrown hplain hmore hwalk).2

/-- A directory that was made is a new one. -/
theorem endsAtNew_of_ensureDirectory {made : FileSystem} (hgrown : Grown fs made)
    (hplain : ".." ∉ Path.segments path) (h : made.ensureDirectory path = (.ok (), gs)) :
    gs = made ∨ fs.EndsAtNew gs (Path.segments path) := by
  have hmore := h ▸ grown_ensureDirectory made path
  unfold ensureDirectory at h
  cases hm : made.makeDirectory path with
  | error fault =>
      rw [hm] at h
      exact .inl (Prod.mk.inj h).2.symm
  | ok after =>
      rw [hm] at h
      obtain rfl : gs = after := (Prod.mk.inj h).2.symm
      right
      obtain ⟨base, more, loc, hsegments, hlookup, rfl⟩ := makeDirectory_eq_ok hm
      have hfree := node?_of_free hlookup
      have hnone : fs.node? loc = none := by
        cases hn : fs.node? loc with
        | none => rfl
        | some node => cases (hgrown.node? hn).symm.trans hfree
      rw [hsegments] at hplain ⊢
      refine EndsAtNew.append htree (hgrown.trans hmore) ?_ fun m =>
        hplain (List.mem_append_right _ m)
      intro other hwalk
      rw [walk_put_directory (lookup_eq_ok_iff.mp hlookup).2] at hwalk
      rw [← (Place.taken.inj (Except.ok.inj hwalk)).1]
      exact hnone

/-- What is known of the file system after the directory of a path was made. -/
def MadeNew (fs gs : FileSystem) (path : String) : Prop :=
  gs = fs ∨ ¬ path.isEmpty = true ∧ fs.EndsAtNew gs (Path.segments path)

theorem MadeNew.of_parent (hgrown : Grown fs gs) {parent : String}
    (hparent : Path.parent? path = some parent) (hempty : ¬ path.isEmpty = true)
    (hplain : ".." ∉ Path.segments path)
    (h : ".." ∉ Path.segments parent → fs.MadeNew gs parent) : fs.MadeNew gs path := by
  by_cases hne : parent.isEmpty = true
  · have hroot : ".." ∉ Path.segments parent := by
      rw [String.isEmpty_iff.mp hne]
      decide
    exact .inl ((h hroot).resolve_right fun hnew => hnew.1 hne)
  · obtain ⟨more, hstarts, -⟩ := Path.starts_of_parent? hparent hne
    have hsegments := hstarts.segments
    rw [hsegments] at hplain
    refine (h fun m => hplain (List.mem_append_left _ m)).imp id ?_
    rintro ⟨-, hnew⟩
    rw [hsegments]
    exact ⟨hempty, hnew.append htree hgrown fun m => hplain (List.mem_append_right _ m)⟩

theorem madeNew_of_makeDirectoryAfter
    {above : FileSystem → String → Except IoFault Unit × FileSystem}
    (hgrown : ∀ parent, Grown fs (above fs parent).2)
    (habove : ∀ {parent made}, ".." ∉ Path.segments parent → above fs parent = (.ok (), made) →
      fs.MadeNew made parent)
    (hplain : ".." ∉ Path.segments path) (h : makeDirectoryAfter above fs path = (.ok (), gs)) :
    fs.MadeNew gs path := by
  by_cases hempty : path.isEmpty = true
  · left
    rw [makeDirectoryAfter, if_pos hempty] at h
    exact (Prod.mk.inj h).2.symm
  rcases makeDirectoryAfter_cases above fs path with
    e | e | ⟨-, ⟨fault, e⟩ | ⟨parent, hparent, e⟩⟩
  · exact .inl (Prod.mk.inj (e.symm.trans h)).2.symm
  · exact (endsAtNew_of_ensureDirectory htree (.refl fs) hplain (e.symm.trans h)).imp id
      fun hnew => ⟨hempty, hnew⟩
  · cases e.symm.trans h
  · cases hmade : above fs parent with
    | mk answer made =>
        rw [hmade] at e
        cases answer with
        | error fault => cases e.symm.trans h
        | ok _ =>
            have hg : Grown fs made := by
              have := hgrown parent
              rwa [hmade] at this
            rcases endsAtNew_of_ensureDirectory htree hg hplain (e.symm.trans h) with rfl | hnew
            · -- there was no need to make this directory: what counts is the one above it
              exact MadeNew.of_parent htree hg hparent hempty hplain fun hplain =>
                habove hplain hmade
            · exact .inr ⟨hempty, hnew⟩

/-- **Directories that were made** are new ones, if the path does not go up. -/
theorem madeNew_of_makeDirectories (hplain : ".." ∉ Path.segments path)
    (h : fs.makeDirectories path = (.ok (), gs)) : fs.MadeNew gs path := by
  unfold makeDirectories at h
  generalize path.length = depth at h
  induction depth generalizing path gs with
  | zero =>
      refine madeNew_of_makeDirectoryAfter htree (fun _ => .refl fs) (fun _ hmade => ?_) hplain h
      cases hmade
  | succ depth ih =>
      exact madeNew_of_makeDirectoryAfter htree (grown_makeDirectoriesFrom depth fs) ih hplain h

end tree

end FileSystem
end Mailroom
