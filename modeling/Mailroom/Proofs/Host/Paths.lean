import Mailroom.Proofs.Host.Files

/-! # Where paths lead

A path that leads to a file leads there until something happens at that location: neither a file
that is written at a free name nor one that is removed disturbs any other (`LeadsTo.of_agrees`).
A file that was written at a free name can therefore be removed by its path, however many others
came and went (`storeFile_of_free`, `LeadsTo.removeFile_eq`). -/

namespace Mailroom
namespace FileSystem

variable {fs gs : FileSystem} {loc : Location}

/-- Whether a file stands at a location. -/
def HasFile (fs : FileSystem) (loc : Location) : Prop :=
  ∃ content mode, fs.node? loc = some (.file content mode)

/-- Whether a path leads to a file at a location, which is no symbolic link. -/
def LeadsTo (fs : FileSystem) (path : String) (loc : Location) : Prop :=
  ∃ content mode, fs.lookup false path = .ok (.taken loc (.file content mode))

/-! ### Places -/

/-- **What erasing does:** the location is free, every other one is as before. -/
theorem node?_erase (fs : FileSystem) {loc : Location} (h : loc ≠ []) (other : Location) :
    (fs.erase loc).node? other = if other = loc then none else fs.node? other := by
  unfold node? erase
  rw [List.find?_filter]
  by_cases ho : other = loc
  · subst ho
    rw [if_neg h, if_pos rfl]
    simp
  · rw [if_neg ho]
    congr 3
    funext e
    by_cases he : e.1 = other
    · simp [he, ho]
    · simp [he]

/-- A walk that ends at a free name, a file or a link tells what is there. -/
theorem node?_of_walk {follow : Bool} {links : Nat} {dir : Location} {names : List String}
    {place : Place} (h : fs.walk follow links dir names = .ok place) :
    (place = .free loc → fs.node? loc = none) ∧
      ∀ node, node ≠ .directory → place = .taken loc node → fs.node? loc = some node := by
  fun_induction FileSystem.walk fs follow links dir names with
  | case1 =>
      cases h
      exact ⟨fun e => (by cases e), fun node hnode e => absurd (Place.taken.inj e).2.symm hnode⟩
  | case2 links dir rest ih => exact ih h
  | case3 links dir rest _ ih => exact ih h
  | case5 links dir name rest _ _ _ here hnone _ =>
      cases h
      refine ⟨fun e => ?_, fun node _ e => by cases e⟩
      obtain rfl : loc = here := (Place.free.inj e).symm
      exact hnone
  | case7 links dir name rest _ _ _ here _ ih => exact ih h
  | case8 links dir name rest _ _ _ here content mode there _ =>
      cases h
      refine ⟨fun e => (by cases e), fun node _ e => ?_⟩
      obtain ⟨rfl, rfl⟩ := Place.taken.inj e
      exact there
  | case10 links dir name rest _ _ _ here target there _ =>
      cases h
      refine ⟨fun e => (by cases e), fun node _ e => ?_⟩
      obtain ⟨rfl, rfl⟩ := Place.taken.inj e
      exact there
  | case12 dir name rest _ _ _ here target _ _ links ih => exact ih h
  | case4 | case6 | case9 | case11 => cases h

/-- A walk that ends at no link goes the same way if it follows a link at the end. -/
theorem walk_follow {links : Nat} {dir : Location} {names : List String} {place : Place}
    (h : fs.walk false links dir names = .ok place) (hp : Writable loc place) :
    fs.walk true links dir names = .ok place := by
  fun_induction FileSystem.walk fs false links dir names with
  | case1 => cases h; cases hp
  | case2 links dir rest ih =>
      rw [walk, if_pos rfl]
      exact ih h
  | case3 links dir rest hdot ih =>
      rw [walk, if_neg hdot, if_pos rfl]
      exact ih h
  | case5 links dir name rest hdot hup hlong here hnone hrest =>
      rw [walk, if_neg hdot, if_neg hup, if_neg hlong]
      dsimp only
      rw [hnone]
      dsimp only
      rw [if_pos hrest, ← h]
  | case7 links dir name rest hdot hup hlong here hdir ih =>
      rw [walk, if_neg hdot, if_neg hup, if_neg hlong]
      dsimp only
      rw [hdir]
      exact ih h
  | case8 links dir name rest hdot hup hlong here content mode hfile hrest =>
      rw [walk, if_neg hdot, if_neg hup, if_neg hlong]
      dsimp only
      rw [hfile]
      dsimp only
      rw [if_pos hrest, ← h]
  | case10 =>
      cases h
      exact absurd hp not_writable_link
  | case12 dir name rest hdot hup hlong here target hlink hgo links ih =>
      rw [walk, if_neg hdot, if_neg hup, if_neg hlong]
      dsimp only
      rw [hlink]
      dsimp only
      rw [if_neg (by simp)]
      exact ih h
  | case4 | case6 | case9 | case11 => cases h

/-- Where nothing but an end differs, walks to other places go the same way. -/
theorem walk_of_agrees (hend : fs.IsEnd loc)
    (hagrees : ∀ other, other ≠ loc → gs.node? other = fs.node? other) {follow : Bool} {links : Nat}
    {dir : Location} {names : List String} {other : Location} {node : Node}
    (h : fs.walk follow links dir names = .ok (.taken other node)) (hne : other ≠ loc) :
    gs.walk follow links dir names = .ok (.taken other node) := by
  fun_induction FileSystem.walk fs follow links dir names with
  | case1 links dir => rw [walk, h]
  | case2 links dir rest ih =>
      rw [walk, if_pos rfl]
      exact ih h
  | case3 links dir rest hdot ih =>
      rw [walk, if_neg hdot, if_pos rfl]
      exact ih h
  | case7 links dir name rest hdot hup hlong here hdir ih =>
      rw [walk, if_neg hdot, if_neg hup, if_neg hlong]
      dsimp only
      rw [hend.node?_of_agrees hagrees hdir fun _ _ => Node.noConfusion]
      exact ih h
  | case8 links dir name rest hdot hup hlong here old oldMode hfile hrest =>
      obtain ⟨e, hnode⟩ := Place.taken.inj (Except.ok.inj h)
      obtain rfl : other = here := e.symm
      rw [walk, if_neg hdot, if_neg hup, if_neg hlong]
      dsimp only
      rw [hagrees _ hne, hfile]
      dsimp only
      rw [if_pos hrest, hnode]
  | case10 links dir name rest hdot hup hlong here target hlink hstop =>
      rw [walk, if_neg hdot, if_neg hup, if_neg hlong]
      dsimp only
      rw [hend.node?_of_agrees hagrees hlink fun _ _ => Node.noConfusion]
      dsimp only
      rw [if_pos hstop, ← h]
  | case12 dir name rest hdot hup hlong here target hlink hgo links ih =>
      rw [walk, if_neg hdot, if_neg hup, if_neg hlong]
      dsimp only
      rw [hend.node?_of_agrees hagrees hlink fun _ _ => Node.noConfusion]
      dsimp only
      rw [if_neg hgo]
      exact ih h
  | case4 | case5 | case6 | case9 | case11 => cases h

/-! ### Paths to files -/

namespace LeadsTo

variable {path : String}

theorem hasFile (h : fs.LeadsTo path loc) : fs.HasFile loc := by
  obtain ⟨content, mode, h⟩ := h
  exact ⟨content, mode, (node?_of_walk (lookup_eq_ok_iff.mp h).2).2 _ nofun rfl⟩

/-- What happens at an end leaves every path to another file alone. -/
theorem of_agrees (hend : fs.IsEnd loc)
    (hagrees : ∀ other, other ≠ loc → gs.node? other = fs.node? other) {other : Location}
    (h : fs.LeadsTo path other) (hne : other ≠ loc) : gs.LeadsTo path other := by
  obtain ⟨content, mode, h⟩ := h
  rw [lookup_eq_ok_iff] at h
  exact ⟨content, mode, lookup_eq_ok_iff.mpr ⟨h.1, walk_of_agrees hend hagrees h.2 hne⟩⟩

/-- A file is an end. -/
theorem isEnd (h : fs.LeadsTo path loc) : fs.IsEnd loc := by
  obtain ⟨content, mode, h⟩ := h
  exact isEnd_of_walk (lookup_eq_ok_iff.mp h).2 (.file content mode)

/-- A file can be removed by a path that leads to it. -/
theorem removeFile_eq (h : fs.LeadsTo path loc) : fs.removeFile path = .ok (fs.erase loc) := by
  obtain ⟨content, mode, h⟩ := h
  unfold removeFile
  rw [h]
  rfl

/-- Removing a file leaves every path to another one alone. -/
theorem erase (h : fs.LeadsTo path loc) {path' : String} {other : Location}
    (hother : fs.LeadsTo path' other) (hne : other ≠ loc) : (fs.erase loc).LeadsTo path' other :=
  hother.of_agrees h.isEnd
    (fun place hplace => by rw [node?_erase fs h.isEnd.1, if_neg hplace]) hne

end LeadsTo

section free

variable {path : String} (h : fs.lookup false path = .ok (.free loc))
include h

theorem node?_of_free : fs.node? loc = none :=
  (node?_of_walk (lookup_eq_ok_iff.mp h).2).1 rfl

theorem isEnd_of_free : fs.IsEnd loc := isEnd_of_walk (lookup_eq_ok_iff.mp h).2 .free

theorem lookup_of_free : fs.lookup true path = .ok (.free loc) := by
  rw [lookup_eq_ok_iff] at h ⊢
  exact ⟨h.1, walk_follow h.2 .free⟩

/-- At a free name a new file is opened, unless the path asks for a directory. -/
theorem fileToWrite_of_free (hslash : ¬ Path.endsInSlash path = true) (mode : Nat) :
    fs.fileToWrite path mode = .ok ⟨loc, mode⟩ := by
  unfold fileToWrite
  rw [if_neg hslash, lookup_of_free h]
  rfl

/-- **A file that is written at a free name** stands there, and the path leads to it. -/
theorem storeFile_of_free {content : Bytes} {mode : Nat} {file : OpenFile} {after : FileSystem}
    (hstore : fs.storeFile path content mode = (.ok file, after)) :
    after = fs.put loc (.file content mode) ∧ after.LeadsTo path loc := by
  obtain ⟨hfile, rfl⟩ := storeFile_eq_ok hstore
  obtain rfl := Except.ok.inj
    ((fileToWrite_of_free h (fileToWrite_eq_ok hfile).1 mode).symm.trans hfile)
  exact ⟨rfl, content, mode, lookup_put h .free content mode⟩

/-- Where the medium is sound, a file can be written at a free name. -/
theorem storeFile_eq_of_free (hslash : ¬ Path.endsInSlash path = true)
    (hflaw : fs.flaw? loc = none) (content : Bytes) (mode : Nat) :
    fs.storeFile path content mode = (.ok ⟨loc, mode⟩, fs.put loc (.file content mode)) :=
  storeFile_of_flaw? (fileToWrite_of_free h hslash mode) hflaw content

/-- A file at a free name leaves every path to another one alone. -/
theorem LeadsTo.put (content : Bytes) (mode : Nat) {path' : String} {other : Location}
    (hother : fs.LeadsTo path' other) :
    (fs.put loc (.file content mode)).LeadsTo path' other := by
  have hend := isEnd_of_free h
  refine hother.of_agrees hend (fun place hplace => ?_) ?_
  · rw [node?_put fs hend.1, if_neg hplace]
  · rintro rfl
    obtain ⟨_, _, hthere⟩ := hother.hasFile
    rw [node?_of_free h] at hthere
    cases hthere

end free

end FileSystem
end Mailroom
