import Mailroom.Body

/-! # Written files are read again

A walk to a free name or to a file ends there also after something was written to that place, so
reading a path gives what was written to it (`readFile_storeFile`).  A body that was put into a
file can therefore be read (`Body.read_create`).  Writing can fail and leave a file that holds a
beginning of what was to be written (`storeFile_cases`). -/

namespace Mailroom
namespace FileSystem

variable {fs : FileSystem} {loc : Location}

/-! ### Places -/

/-- **What putting does:** the location has the node, every other one is as before. -/
theorem node?_put (fs : FileSystem) {loc : Location} (h : loc ≠ []) (node : Node)
    (other : Location) :
    (fs.put loc node).node? other = if other = loc then some node else fs.node? other := by
  unfold node? put
  by_cases ho : other = loc
  · rw [if_pos ho, if_neg (ho ▸ h), List.find?_cons_of_pos (by simp [ho])]
    rfl
  · rw [if_neg ho]
    by_cases hroot : other = []
    · rw [if_pos hroot, if_pos hroot]
    · rw [if_neg hroot, if_neg hroot, List.find?_cons_of_neg (by simpa using Ne.symm ho),
        List.find?_filter]
      congr 2
      funext e
      by_cases he : e.1 = other
      · simp [he, ho]
      · simp [he]

/-- A place where a file may be written: a free name, or a file. -/
inductive Writable (loc : Location) : Place → Prop
  | free : Writable loc (.free loc)
  | file (content : Bytes) (mode : Nat) : Writable loc (.taken loc (.file content mode))

theorem Writable.eq_of_free {other : Location} : Writable loc (.free other) → loc = other
  | .free => rfl

theorem Writable.eq_of_file {other : Location} {content : Bytes} {mode : Nat} :
    Writable loc (.taken other (.file content mode)) → loc = other
  | .file _ _ => rfl

theorem not_writable_link {other : Location} {target : String} :
    ¬ Writable loc (.taken other (.link target)) := fun h => by cases h

/-- No walk leads through a place where a file may be written. -/
def IsEnd (fs : FileSystem) (loc : Location) : Prop :=
  loc ≠ [] ∧ (fs.node? loc = none ∨ ∃ content mode, fs.node? loc = some (.file content mode))

/-- What lies on the way of a walk is no end, so it stays if only an end changes. -/
theorem IsEnd.node?_of_agrees {gs : FileSystem} (h : fs.IsEnd loc)
    (hagrees : ∀ other, other ≠ loc → gs.node? other = fs.node? other) {other : Location}
    {there : Node} (ht : fs.node? other = some there)
    (hnode : ∀ content mode, there ≠ .file content mode) : gs.node? other = some there := by
  rw [hagrees other, ht]
  rintro rfl
  rcases h.2 with hnone | ⟨content, mode, hfile⟩
  · rw [ht] at hnone
    cases hnone
  · rw [ht] at hfile
    exact hnode content mode (Option.some.inj hfile)

theorem IsEnd.node?_put (h : fs.IsEnd loc) (node : Node) {other : Location}
    {there : Node} (ht : fs.node? other = some there)
    (hnode : ∀ content mode, there ≠ .file content mode) :
    (fs.put loc node).node? other = some there :=
  h.node?_of_agrees (fun other hne => by rw [FileSystem.node?_put fs h.1, if_neg hne]) ht hnode

/-! ### Walks -/

/-- Where a walk ends at a writable place, nothing lies behind. -/
theorem isEnd_of_walk {follow : Bool} {links : Nat} {dir : Location} {names : List String}
    {place : Place} (h : fs.walk follow links dir names = .ok place) (hp : Writable loc place) :
    fs.IsEnd loc := by
  fun_induction FileSystem.walk fs follow links dir names with
  | case1 => cases h; cases hp
  | case2 links dir rest ih => exact ih h
  | case3 links dir rest _ ih => exact ih h
  | case5 links dir name rest _ _ _ here hnone _ =>
      cases h
      obtain rfl := hp.eq_of_free
      exact ⟨by simp [here], .inl hnone⟩
  | case7 links dir name rest _ _ _ here _ ih => exact ih h
  | case8 links dir name rest _ _ _ here content mode hfile _ =>
      cases h
      obtain rfl := hp.eq_of_file
      exact ⟨by simp [here], .inr ⟨content, mode, hfile⟩⟩
  | case10 =>
      cases h
      exact absurd hp not_writable_link
  | case12 dir name rest _ _ _ here target _ _ links ih => exact ih h
  | case4 | case6 | case9 | case11 => cases h

/-- **A walk to a writable place** ends at what is written there. -/
theorem walk_put {follow : Bool} {links : Nat} {dir : Location} {names : List String}
    {place : Place} (h : fs.walk follow links dir names = .ok place) (hp : Writable loc place)
    (written : Bytes) (mode : Nat) :
    (fs.put loc (.file written mode)).walk follow links dir names =
      .ok (.taken loc (.file written mode)) := by
  have hend := isEnd_of_walk h hp
  have hwritten : (fs.put loc (.file written mode)).node? loc = some (.file written mode) := by
    rw [FileSystem.node?_put fs hend.1, if_pos rfl]
  fun_induction FileSystem.walk fs follow links dir names with
  | case1 => cases h; cases hp
  | case2 links dir rest ih =>
      rw [walk, if_pos rfl]
      exact ih h
  | case3 links dir rest hdot ih =>
      rw [walk, if_neg hdot, if_pos rfl]
      exact ih h
  | case5 links dir name rest hdot hup hlong here hnone hrest =>
      cases h
      obtain rfl := hp.eq_of_free
      rw [walk, if_neg hdot, if_neg hup, if_neg hlong]
      dsimp only
      rw [hwritten]
      dsimp only
      rw [if_pos hrest]
  | case7 links dir name rest hdot hup hlong here hdir ih =>
      rw [walk, if_neg hdot, if_neg hup, if_neg hlong]
      dsimp only
      rw [hend.node?_put _ hdir (fun _ _ => Node.noConfusion)]
      exact ih h
  | case8 links dir name rest hdot hup hlong here content mode hfile hrest =>
      cases h
      obtain rfl := hp.eq_of_file
      rw [walk, if_neg hdot, if_neg hup, if_neg hlong]
      dsimp only
      rw [hwritten]
      dsimp only
      rw [if_pos hrest]
  | case10 =>
      cases h
      exact absurd hp not_writable_link
  | case12 dir name rest hdot hup hlong here target hlink hgo links ih =>
      rw [walk, if_neg hdot, if_neg hup, if_neg hlong]
      dsimp only
      rw [hend.node?_put _ hlink (fun _ _ => Node.noConfusion)]
      dsimp only
      rw [if_neg hgo]
      exact ih h
  | case4 | case6 | case9 | case11 => cases h

/-! ### Whole files -/

/-- A path that can be looked up: it is not empty, not too long and has no NUL character. -/
structure Lookable (path : String) : Prop where
  nul : ¬ path.toList.any (· == '\x00') = true
  empty : ¬ path.isEmpty = true
  long : ¬ maxPathLength < (utf8 path).length

instance (path : String) : Decidable (Lookable path) :=
  decidable_of_iff (¬ path.toList.any (· == '\x00') = true ∧ ¬ path.isEmpty = true ∧
    ¬ maxPathLength < (utf8 path).length)
    ⟨fun ⟨hnul, hempty, hlong⟩ => ⟨hnul, hempty, hlong⟩, fun h => ⟨h.nul, h.empty, h.long⟩⟩

/-- Looking up a path is walking along its segments. -/
theorem lookup_eq_ok_iff {follow : Bool} {path : String} {place : Place} :
    fs.lookup follow path = .ok place ↔
      Lookable path ∧ fs.walk follow maxLinks [] (Path.segments path) = .ok place := by
  unfold lookup
  constructor
  · intro h
    split at h
    · cases h
    · next hnul =>
      split at h
      · cases h
      · next hempty =>
        split at h
        · cases h
        · next hlong =>
          refine ⟨⟨hnul, hempty, hlong⟩, ?_⟩
          cases hw : fs.walk follow maxLinks [] (Path.segments path) with
          | error fault => rw [hw] at h; cases h
          | ok found =>
              rw [hw] at h
              cases h
              rfl
  · rintro ⟨⟨hnul, hempty, hlong⟩, hw⟩
    rw [if_neg hnul, if_neg hempty, if_neg hlong, hw]
    rfl

/-- What looking up a path comes to, by its segments. -/
theorem lookup_of_walk {follow : Bool} {path : String} {names : List String}
    {found : Except SystemFault Place} (h : Lookable path) (hsegments : Path.segments path = names)
    (hwalk : fs.walk follow maxLinks [] names = found) :
    fs.lookup follow path = found.mapError .system := by
  unfold lookup
  rw [if_neg h.nul, if_neg h.empty, if_neg h.long, hsegments, hwalk]

/-- The walk to a path that was written ends at what was written. -/
theorem lookup_put {follow : Bool} {path : String} {place : Place}
    (h : fs.lookup follow path = .ok place) (hp : Writable loc place) (content : Bytes)
    (mode : Nat) :
    (fs.put loc (.file content mode)).lookup follow path =
      .ok (.taken loc (.file content mode)) := by
  rw [lookup_eq_ok_iff] at h ⊢
  exact ⟨h.1, walk_put h.2 hp content mode⟩

/-! ### Writing -/

theorem put_put (fs : FileSystem) (loc : Location) (first second : Node) :
    (fs.put loc first).put loc second = fs.put loc second := by
  simp [put, List.filter_filter]

@[simp] theorem flaw?_put (fs : FileSystem) (loc : Location) (node : Node) (other : Location) :
    (fs.put loc node).flaw? other = fs.flaw? other := rfl

variable {path : String} {mode : Nat} {file : OpenFile} {content : Bytes} {after : FileSystem}

/-- What is opened for writing is a free name or a file, and the path does not ask for a
directory. -/
theorem fileToWrite_eq_ok (h : fs.fileToWrite path mode = .ok file) :
    ¬ Path.endsInSlash path = true ∧
      ∃ place, fs.lookup true path = .ok place ∧ Writable file.loc place := by
  unfold fileToWrite at h
  by_cases hslash : Path.endsInSlash path = true
  · rw [if_pos hslash] at h
    cases hl : fs.lookup false (trimSlashes path) with
    | error fault => rw [hl] at h; cases h
    | ok place => rw [hl] at h; cases h
  · rw [if_neg hslash] at h
    refine ⟨hslash, ?_⟩
    cases hl : fs.lookup true path with
    | error fault => rw [hl] at h; cases h
    | ok place =>
        rw [hl] at h
        refine ⟨place, rfl, ?_⟩
        match place, h with
        | .free loc, h =>
            cases h
            exact .free
        | .taken loc (.file old kept), h =>
            cases h
            exact .file old kept

/-- Opening a file changes nothing, or it makes or empties the file. -/
theorem openFile_cases (fs : FileSystem) (path : String) (mode : Nat) :
    (∃ fault, fs.openFile path mode = (.error fault, fs)) ∨
    ∃ file, fs.fileToWrite path mode = .ok file ∧
      fs.openFile path mode = (.ok file, fs.put file.loc (.file [] file.mode)) := by
  unfold openFile
  cases fs.fileToWrite path mode with
  | error fault => exact .inl ⟨fault, rfl⟩
  | ok file =>
      dsimp only
      split
      · next fault _ => exact .inl ⟨fault, rfl⟩
      · exact .inr ⟨file, rfl, rfl⟩

/-- Filling a file breaks off where there is no more room, or it writes the whole content. -/
theorem fillFile_cases (fs : FileSystem) (file : OpenFile) (content : Bytes) :
    (∃ room fault, fs.flaw? file.loc = some ⟨.filling room, fault⟩ ∧ fs.fillFile file content =
        (.error fault, fs.put file.loc (.file (content.take room) file.mode))) ∨
    fs.fillFile file content = (.ok (), fs.put file.loc (.file content file.mode)) := by
  unfold fillFile
  split
  · next room fault hflaw =>
    split
    · exact .inl ⟨room, fault, hflaw, rfl⟩
    · exact .inr rfl
  · exact .inr rfl

/-- **What writing a file comes to.**  Nothing can be opened, and nothing changes; or the medium
breaks off, and the file holds what there was room for; or it holds the whole content. -/
theorem storeFile_cases (fs : FileSystem) (path : String) (content : Bytes) (mode : Nat) :
    (∃ fault, fs.storeFile path content mode = (.error fault, fs)) ∨
    ∃ file, fs.fileToWrite path mode = .ok file ∧
      ((∃ room fault, fs.flaw? file.loc = some ⟨.filling room, fault⟩ ∧
          fs.storeFile path content mode =
            (.error fault, fs.put file.loc (.file (content.take room) file.mode))) ∨
        fs.storeFile path content mode =
          (.ok file, fs.put file.loc (.file content file.mode))) := by
  unfold storeFile
  rcases openFile_cases fs path mode with ⟨fault, e⟩ | ⟨file, hfile, e⟩ <;> rw [e] <;> dsimp only
  · exact .inl ⟨fault, rfl⟩
  · refine .inr ⟨file, hfile, ?_⟩
    rcases fillFile_cases (fs.put file.loc (.file [] file.mode)) file content with
      ⟨room, fault, hflaw, e⟩ | e <;> rw [e, put_put]
    · exact .inl ⟨room, fault, hflaw, rfl⟩
    · exact .inr rfl

section flaws

variable (h : fs.fileToWrite path mode = .ok file)
include h

/-- A file is opened unless the medium refuses that. -/
theorem openFile_of_flaw? (hflaw : ∀ fault, fs.flaw? file.loc ≠ some ⟨.opening, fault⟩) :
    fs.openFile path mode = (.ok file, fs.put file.loc (.file [] file.mode)) := by
  unfold openFile
  rw [h]
  dsimp only
  split
  · next fault hrefused => exact absurd hrefused (hflaw fault)
  · rfl

/-- Where the medium is sound, a file that can be opened is written whole. -/
theorem storeFile_of_flaw? (hflaw : fs.flaw? file.loc = none) (content : Bytes) :
    fs.storeFile path content mode = (.ok file, fs.put file.loc (.file content file.mode)) := by
  unfold storeFile
  rw [openFile_of_flaw? h fun _ e => by cases hflaw.symm.trans e]
  dsimp only
  rcases fillFile_cases (fs.put file.loc (.file [] file.mode)) file content with
    ⟨_, _, hbroken, -⟩ | e
  · cases hflaw.symm.trans hbroken
  · rw [e, put_put]

/-- Where there is no room for a content, writing breaks off. -/
theorem storeFile_of_filling {room : Nat} {fault : IoFault}
    (hflaw : fs.flaw? file.loc = some ⟨.filling room, fault⟩) (hroom : room < content.length) :
    fs.storeFile path content mode =
      (.error fault, fs.put file.loc (.file (content.take room) file.mode)) := by
  unfold storeFile
  rw [openFile_of_flaw? h fun _ e => by cases hflaw.symm.trans e]
  unfold fillFile
  dsimp only
  rw [flaw?_put, hflaw]
  dsimp only
  rw [if_pos hroom, put_put]

end flaws

/-- Whether the medium has no flaw at the file that writing to a path fills. -/
def SoundAt (fs : FileSystem) (path : String) : Prop :=
  ∀ mode file, fs.fileToWrite path mode = .ok file → fs.flaw? file.loc = none

theorem soundAt_of_flaws (h : fs.flaws = []) (path : String) : fs.SoundAt path := by
  intro mode file _
  rw [flaw?, h]
  rfl

/-- Where the medium is sound, a file is not written at all or it is written whole. -/
theorem SoundAt.storeFile_cases (h : fs.SoundAt path) (content : Bytes) (mode : Nat) :
    (∃ fault, fs.storeFile path content mode = (.error fault, fs)) ∨
    ∃ file after, fs.storeFile path content mode = (.ok file, after) := by
  rcases FileSystem.storeFile_cases fs path content mode with
    hrefused | ⟨file, hfile, ⟨_, _, hflaw, -⟩ | e⟩
  · exact .inl hrefused
  · cases (h mode file hfile).symm.trans hflaw
  · exact .inr ⟨file, _, e⟩

/-- A file that was written holds the whole content. -/
theorem storeFile_eq_ok (h : fs.storeFile path content mode = (.ok file, after)) :
    fs.fileToWrite path mode = .ok file ∧ after = fs.put file.loc (.file content file.mode) := by
  rcases storeFile_cases fs path content mode with
    ⟨fault, e⟩ | ⟨opened, hopened, ⟨room, fault, -, e⟩ | e⟩
  · cases h.symm.trans e
  · cases h.symm.trans e
  · cases h.symm.trans e
    exact ⟨hopened, rfl⟩

/-- Whether the file that a path leads to was written, at this location, and holds `kept`. -/
def Writes (fs : FileSystem) (path : String) (loc : Location) (kept : Bytes)
    (after : FileSystem) : Prop :=
  ∃ place mode, fs.lookup true path = .ok place ∧ Writable loc place ∧
    after = fs.put loc (.file kept mode)

namespace Writes

variable {kept : Bytes} (h : fs.Writes path loc kept after)
include h

theorem isEnd : fs.IsEnd loc := by
  obtain ⟨place, mode, hl, hp, -⟩ := h
  exact isEnd_of_walk (lookup_eq_ok_iff.mp hl).2 hp

/-- The path leads to what was written. -/
theorem exists_lookup : ∃ mode, after.lookup true path = .ok (.taken loc (.file kept mode)) := by
  obtain ⟨place, mode, hl, hp, rfl⟩ := h
  exact ⟨mode, lookup_put hl hp kept mode⟩

theorem readFile : after.readFile path = .ok kept := by
  obtain ⟨mode, hl⟩ := h.exists_lookup
  unfold FileSystem.readFile
  rw [hl]
  rfl

end Writes

/-- **A file is written whole, or up to some octet, or not at all.** -/
theorem storeFile_writes (fs : FileSystem) (path : String) (content : Bytes) (mode : Nat) :
    (∃ fault, fs.storeFile path content mode = (.error fault, fs)) ∨
    ∃ loc kept after, kept <+: content ∧ fs.Writes path loc kept after ∧
      ((∃ fault, fs.storeFile path content mode = (.error fault, after)) ∨
        kept = content ∧ ∃ file, fs.storeFile path content mode = (.ok file, after)) := by
  rcases storeFile_cases fs path content mode with h | ⟨file, hfile, h⟩
  · exact .inl h
  · obtain ⟨-, place, hl, hp⟩ := fileToWrite_eq_ok hfile
    right
    rcases h with ⟨room, fault, -, e⟩ | e
    · exact ⟨file.loc, _, _, content.take_prefix room, ⟨place, file.mode, hl, hp, rfl⟩,
        .inl ⟨fault, e⟩⟩
    · exact ⟨file.loc, content, _, content.prefix_refl, ⟨place, file.mode, hl, hp, rfl⟩,
        .inr ⟨rfl, file, e⟩⟩

/-- **What was written is read.** -/
theorem readFile_storeFile (h : fs.storeFile path content mode = (.ok file, after)) :
    after.readFile path = .ok content := by
  obtain ⟨hfile, rfl⟩ := storeFile_eq_ok h
  obtain ⟨-, place, hl, hp⟩ := fileToWrite_eq_ok hfile
  exact Writes.readFile ⟨place, file.mode, hl, hp, rfl⟩

end FileSystem

/-- A body that was put into a file is there. -/
theorem Body.read_create {disk after : FileSystem} {path : String} {content : Bytes} {kept : Body}
    (h : Body.create disk path content = (.ok kept, after)) : kept.read after = .ok content := by
  unfold Body.create at h
  rcases hw : disk.storeFile path content FileSystem.publicMode with ⟨fault | file, written⟩
  · rw [hw] at h
    cases h
  · rw [hw] at h
    cases h
    exact FileSystem.readFile_storeFile hw

end Mailroom
