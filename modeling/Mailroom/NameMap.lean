/-! # Maps from names

A `NameMap α` holds a value for each of finitely many names, in the order of the names, which is
the order of their code points.  Accounts, mailboxes, modules and options are kept in such
maps; the order decides in which order modules are built and options are checked.

Main facts: `get?_put` and `get?_erase` say what each change does to every name. -/

namespace Mailroom

/-- Values under names, in the order of the names. -/
structure NameMap (α : Type) where
  entries : List (String × α) := []
deriving DecidableEq, Repr

namespace NameMap

variable {α β : Type}

instance : Inhabited (NameMap α) := ⟨{}⟩

/-- Puts a value under a name into ordered entries, in place of the one that is there. -/
def putEntry (name : String) (value : α) : List (String × α) → List (String × α)
  | [] => [(name, value)]
  | entry :: entries =>
    if name = entry.1 then (name, value) :: entries
    else if name < entry.1 then (name, value) :: entry :: entries
    else entry :: putEntry name value entries

/-- Puts a value under a name, in place of the one that is there. -/
def put (m : NameMap α) (name : String) (value : α) : NameMap α :=
  ⟨putEntry name value m.entries⟩

/-- The value under a name. -/
def get? (m : NameMap α) (name : String) : Option α :=
  (m.entries.find? (·.1 == name)).map Prod.snd

/-- Whether there is a value under a name. -/
def contains (m : NameMap α) (name : String) : Bool := (m.get? name).isSome

/-- The map without a name. -/
def erase (m : NameMap α) (name : String) : NameMap α := ⟨m.entries.filter (·.1 != name)⟩

/-- The names, in order. -/
def names (m : NameMap α) : List String := m.entries.map Prod.fst

/-- The first name, in order, whose value has a property. -/
def findName? (m : NameMap α) (property : α → Bool) : Option String :=
  (m.entries.find? fun e => property e.2).map Prod.fst

/-- Every value replaced. -/
def map (f : α → β) (m : NameMap α) : NameMap β := ⟨m.entries.map fun e => (e.1, f e.2)⟩

/-- The map with these values; the last value under a name counts. -/
def ofList (entries : List (String × α)) : NameMap α :=
  entries.foldl (fun m e => m.put e.1 e.2) {}

theorem find?_putEntry (name other : String) (value : α) (entries : List (String × α)) :
    ((putEntry name value entries).find? (·.1 == other)).map Prod.snd =
      if name = other then some value
      else (entries.find? (·.1 == other)).map Prod.snd := by
  induction entries with
  | nil => by_cases h : name = other <;> simp [putEntry, h]
  | cons entry entries ih =>
      simp only [putEntry]
      split
      · next hn =>
        by_cases h : name = other
        · simp [h]
        · simp [h, ← hn]
      · split
        · by_cases h : name = other <;> simp [h]
        · next hn _ =>
          simp only [List.find?_cons]
          by_cases he : entry.1 = other
          · have : ¬ name = other := fun h => hn (h.trans he.symm)
            simp [he, this]
          · simp only [beq_eq_false_iff_ne.mpr he]
            exact ih

/-- **What putting does:** the name has the value, every other name is as before. -/
theorem get?_put (m : NameMap α) (name other : String) (value : α) :
    (m.put name value).get? other = if name = other then some value else m.get? other :=
  find?_putEntry name other value m.entries

@[simp] theorem get?_put_self (m : NameMap α) (name : String) (value : α) :
    (m.put name value).get? name = some value := by simp [get?_put]

/-- **What erasing does:** the name is free, every other name is as before. -/
theorem get?_erase (m : NameMap α) (name other : String) :
    (m.erase name).get? other = if name = other then none else m.get? other := by
  simp only [get?, erase, List.find?_filter]
  split
  · next h =>
    subst h
    simp
  · next h =>
    congr 1
    congr 1
    funext e
    by_cases he : e.1 = other
    · simp [he, Ne.symm h]
    · simp [he]

end NameMap

end Mailroom
