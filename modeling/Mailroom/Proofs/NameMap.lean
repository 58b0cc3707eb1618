import Mailroom.NameMap

/-! # Ordered names

Putting and erasing keep the names of a map in ascending order (`ordered_put`, `ordered_erase`).
In an ordered map no name occurs twice, so what is found by its value is what stands under its
name (`exists_get?_of_findName?`), and putting a value where it is already changes nothing
(`put_of_get?`). -/

namespace Mailroom
namespace NameMap

variable {α : Type}

/-- The names stand in ascending order. -/
def Ordered (m : NameMap α) : Prop := m.entries.Pairwise fun a b => a.1 < b.1

theorem ordered_empty : Ordered ({} : NameMap α) := List.Pairwise.nil

theorem mem_putEntry {name : String} {value : α} {e : String × α} {entries : List (String × α)}
    (h : e ∈ putEntry name value entries) : e = (name, value) ∨ e ∈ entries := by
  induction entries with
  | nil => exact .inl (List.mem_singleton.mp h)
  | cons entry entries ih =>
      rw [putEntry] at h
      split at h
      · rcases List.mem_cons.mp h with rfl | h
        · exact .inl rfl
        · exact .inr (List.mem_cons_of_mem entry h)
      · split at h
        · rcases List.mem_cons.mp h with rfl | h
          · exact .inl rfl
          · exact .inr h
        · rcases List.mem_cons.mp h with rfl | h
          · exact .inr List.mem_cons_self
          · rcases ih h with h | h
            · exact .inl h
            · exact .inr (List.mem_cons_of_mem entry h)

theorem pairwise_putEntry (name : String) (value : α) {entries : List (String × α)}
    (h : entries.Pairwise fun a b => a.1 < b.1) :
    (putEntry name value entries).Pairwise fun a b => a.1 < b.1 := by
  induction entries with
  | nil => exact List.pairwise_singleton _ _
  | cons entry entries ih =>
      obtain ⟨hfirst, hrest⟩ := List.pairwise_cons.mp h
      rw [putEntry]
      split
      · next he => exact List.pairwise_cons.mpr ⟨fun b m => he ▸ hfirst b m, hrest⟩
      · next hne =>
        split
        · next hlt =>
          refine List.pairwise_cons.mpr ⟨fun b m => ?_, h⟩
          rcases List.mem_cons.mp m with rfl | m
          · exact hlt
          · exact String.lt_trans hlt (hfirst b m)
        · next hlt =>
          refine List.pairwise_cons.mpr ⟨fun b m => ?_, ih hrest⟩
          rcases mem_putEntry m with rfl | m
          · exact String.not_le.mp fun hle => hne (String.le_antisymm hle (String.not_lt.mp hlt))
          · exact hfirst b m

theorem ordered_put {m : NameMap α} (h : m.Ordered) (name : String) (value : α) :
    (m.put name value).Ordered :=
  pairwise_putEntry name value h

theorem ordered_erase {m : NameMap α} (h : m.Ordered) (name : String) : (m.erase name).Ordered :=
  h.filter _

/-- In ordered entries a name leads to the entry that has it. -/
theorem find?_of_mem : ∀ {entries : List (String × α)},
    entries.Pairwise (fun a b => a.1 < b.1) → ∀ {e : String × α}, e ∈ entries →
      entries.find? (·.1 == e.1) = some e
  | entry :: entries, h, e, m => by
      obtain ⟨hfirst, hrest⟩ := List.pairwise_cons.mp h
      rcases List.mem_cons.mp m with rfl | m
      · simp
      · have hne : entry.1 ≠ e.1 := String.ne_of_lt (hfirst e m)
        rw [List.find?_cons_of_neg (by simpa using hne)]
        exact find?_of_mem hrest m

theorem putEntry_of_mem : ∀ {entries : List (String × α)},
    entries.Pairwise (fun a b => a.1 < b.1) → ∀ {e : String × α}, e ∈ entries →
      putEntry e.1 e.2 entries = entries
  | entry :: entries, h, e, m => by
      obtain ⟨hfirst, hrest⟩ := List.pairwise_cons.mp h
      rcases List.mem_cons.mp m with rfl | m
      · rw [putEntry, if_pos rfl]
      · have hlt := hfirst e m
        rw [putEntry, if_neg (String.ne_of_lt hlt).symm, if_neg (String.lt_asymm hlt),
          putEntry_of_mem hrest m]

/-- Putting what is there already changes nothing. -/
theorem put_of_get? {m : NameMap α} (h : m.Ordered) {name : String} {value : α}
    (hv : m.get? name = some value) : m.put name value = m := by
  obtain ⟨e, he, rfl⟩ := Option.map_eq_some_iff.mp hv
  obtain rfl : e.1 = name := by simpa using List.find?_some he
  rw [put, putEntry_of_mem h (List.mem_of_find?_eq_some he)]

/-- What is found by its value stands under its name. -/
theorem exists_get?_of_findName? {m : NameMap α} (h : m.Ordered) {property : α → Bool}
    {name : String} (hf : m.findName? property = some name) :
    ∃ value, m.get? name = some value ∧ property value = true := by
  obtain ⟨e, he, rfl⟩ := Option.map_eq_some_iff.mp hf
  refine ⟨e.2, ?_, by simpa using List.find?_some he⟩
  rw [get?, find?_of_mem h (List.mem_of_find?_eq_some he)]
  rfl

/-- If nothing is found by its value, no value has the property. -/
theorem eq_false_of_findName?_eq_none {m : NameMap α} {property : α → Bool}
    (hf : m.findName? property = none) {name : String} {value : α} (hv : m.get? name = some value) :
    property value = false := by
  obtain ⟨e, he, rfl⟩ := Option.map_eq_some_iff.mp hv
  have hnone := List.find?_eq_none.mp (Option.map_eq_none_iff.mp hf)
  simpa using hnone e (List.mem_of_find?_eq_some he)

theorem contains_eq_true_iff {m : NameMap α} {name : String} :
    m.contains name = true ↔ ∃ value, m.get? name = some value :=
  Option.isSome_iff_exists

/-- A name that is put stays, and so does every other name. -/
theorem contains_put {m : NameMap α} {other : String} (h : m.contains other = true) (name : String)
    (value : α) : (m.put name value).contains other = true := by
  rw [contains, get?_put]
  split
  · rfl
  · exact h

end NameMap
end Mailroom
