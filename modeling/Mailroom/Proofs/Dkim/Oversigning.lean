import Mailroom.Dkim.Canonicalization
import Mailroom.Proofs.Dkim.Selection
import Mathlib.Algebra.Order.BigOperators.Group.List
import Mathlib.Algebra.Order.Ring.Nat

/-! # What oversigning protects

A signature covers the canonical forms of the fields that its names pick (`coveredOctets`).  A
name to oversign is listed once more than it occurs, so a further field of that name is picked
wherever it is put in; a listed field that is taken out is missed.  Either way the covered octets
change their number (`oversigning_detects`). -/

namespace Mailroom

/-! ### Changing a header -/

namespace Header

/-- Puts a field in at a position counted from the top. -/
def insertAt (h : Header) (position : Nat) (f : Field) : Header :=
  ⟨h.fields.take position ++ f :: h.fields.drop position⟩

/-- Takes out the field at a position counted from the top. -/
def removeAt (h : Header) (position : Nat) : Header :=
  ⟨h.fields.take position ++ h.fields.drop (position + 1)⟩

theorem removeAt_insertAt {h : Header} {position : Nat} {f : Field}
    (hf : h.fields[position]? = some f) : (h.removeAt position).insertAt position f = h := by
  obtain ⟨hlt, e⟩ := List.getElem?_eq_some_iff.mp hf
  have hlen : (h.fields.take position).length = position :=
    List.length_take_of_le (Nat.le_of_lt hlt)
  have htop : (h.removeAt position).fields.take position = h.fields.take position :=
    List.take_left' hlen
  have hrest : (h.removeAt position).fields.drop position = h.fields.drop (position + 1) :=
    List.drop_left' hlen
  rw [insertAt, htop, hrest, ← e, List.cons_getElem_drop_succ, List.take_append_drop]

theorem getElem?_prepend_addField (above below : Header) (f : Field) :
    (above.prepend (below.addField f)).fields[above.size]? = some f := by
  rw [fields_prepend, fields_addField, size, List.getElem?_append_right (Nat.le_refl _),
    Nat.sub_self]
  rfl

/-- The field under others is taken out. -/
theorem removeAt_prepend_addField (above below : Header) (f : Field) :
    (above.prepend (below.addField f)).removeAt above.size = above.prepend below := by
  have hdrop : (above.fields ++ f :: below.fields).drop (above.fields.length + 1) =
      below.fields := by
    rw [List.append_cons]
    exact List.drop_left' List.length_append
  rw [removeAt, fields_prepend, fields_addField, size, List.take_left' rfl, hdrop]
  rfl

theorem fieldsNamed_insertAt (h : Header) (position : Nat) (f : Field) (name : String) :
    (h.insertAt position f).fieldsNamed name =
      (h.fields.take position).filter (·.isNamed name) ++
        ((if f.isNamed name then [f] else []) ++
          (h.fields.drop position).filter (·.isNamed name)) := by
  rw [fieldsNamed, insertAt, List.filter_append, List.filter_cons]
  split <;> rfl

theorem fieldsNamed_split (h : Header) (position : Nat) (name : String) :
    h.fieldsNamed name = (h.fields.take position).filter (·.isNamed name) ++
      (h.fields.drop position).filter (·.isNamed name) := by
  rw [fieldsNamed, ← List.filter_append, List.take_append_drop]

/-- A name occurs once more than before if the new field has it. -/
theorem count_insertAt (h : Header) (position : Nat) (f : Field) (name : String) :
    (h.insertAt position f).count name = h.count name + if f.isNamed name then 1 else 0 := by
  rw [count, count, fieldsNamed_insertAt, fieldsNamed_split h position]
  split <;> simp only [List.length_append, List.length_cons, List.length_nil] <;> omega

end Header

namespace Dkim

/-! ### The octets of the picked fields -/

/-- The octets of the header that a signature with this list of names covers. -/
def coveredOctets (mode : Canonicalization) (h : Header) (names : List String) : Bytes :=
  mode.fields (pickFields h names)

theorem field_ne_nil (mode : Canonicalization) (f : Field) : mode.field f ≠ [] :=
  List.append_ne_nil_of_right_ne_nil _ (List.cons_ne_nil _ _)

theorem fields_append (mode : Canonicalization) (above below : List Field) :
    mode.fields (above ++ below) = mode.fields above ++ mode.fields below :=
  List.flatMap_append

theorem length_fields_reverse (mode : Canonicalization) (fs : List Field) :
    (mode.fields fs.reverse).length = (mode.fields fs).length := by
  simp only [Canonicalization.fields, List.length_flatMap]
  rw [List.map_reverse, List.sum_reverse]

/-- The length of the octets that whole names contribute. -/
theorem length_fields_flatMap (mode : Canonicalization) (h : Header) (names : List String) :
    (mode.fields (names.flatMap fun name => (h.fieldsNamed name).reverse)).length =
      (names.map fun name => (mode.fields (h.fieldsNamed name)).length).sum := by
  induction names with
  | nil => rfl
  | cons name names ih =>
      rw [List.flatMap_cons, fields_append, List.length_append, length_fields_reverse, ih,
        List.map_cons, List.sum_cons]

/-- A field adds its canonical form to what its own names contribute, and nothing to others. -/
theorem length_fields_insertAt (mode : Canonicalization) (h : Header) (position : Nat) (f : Field)
    (name : String) :
    (mode.fields ((h.insertAt position f).fieldsNamed name)).length =
      (mode.fields (h.fieldsNamed name)).length +
        if f.isNamed name then (mode.field f).length else 0 := by
  rw [Header.fieldsNamed_insertAt, h.fieldsNamed_split position]
  split
  · simp only [fields_append, List.length_append]
    have e : mode.fields [f] = mode.field f := List.append_nil _
    rw [e]
    omega
  · simp only [fields_append, List.length_append]
    have e : mode.fields [] = [] := rfl
    rw [e, List.length_nil]
    omega

/-- A further field of one of the names makes the octets of these names longer. -/
theorem length_fields_lt (mode : Canonicalization) (h : Header) (position : Nat) {f : Field}
    {names : List String} (hf : ∃ name ∈ names, f.isNamed name = true) :
    (mode.fields (names.flatMap fun name => (h.fieldsNamed name).reverse)).length <
      (mode.fields
        (names.flatMap fun name => ((h.insertAt position f).fieldsNamed name).reverse)).length := by
  obtain ⟨name, m, hname⟩ := hf
  have hpos := List.length_pos_of_ne_nil (field_ne_nil mode f)
  rw [length_fields_flatMap, length_fields_flatMap]
  refine List.sum_lt_sum _ _ (fun n _ => ?_) ⟨name, m, ?_⟩
  · rw [length_fields_insertAt]
    omega
  · rw [length_fields_insertAt, if_pos hname]
    omega

/-! ### Both directions -/

/-- A field whose name was asked for has a name that is listed. -/
theorem exists_isNamed_signedName {oversign sign : List String} {f : Field}
    (h : ∃ name ∈ oversign ++ sign, f.isNamed name = true) :
    ∃ name ∈ signedNames oversign sign, f.isNamed name = true := by
  obtain ⟨name, m, hname⟩ := h
  obtain ⟨n, mn, hn⟩ := exists_signedName m
  exact ⟨n, mn, equalsIgnoringCase_trans hname hn⟩

/-- A field with an oversigned name has none of the names that are only signed. -/
theorem isNamed_of_oversigned {oversign sign : List String} {f : Field}
    (h : ∃ name ∈ oversign, f.isNamed name = true) :
    ∀ name ∈ freshNames oversign sign, f.isNamed name = false := by
  obtain ⟨o, mo, ho⟩ := h
  intro name m
  refine Bool.eq_false_iff.mpr fun hname => ?_
  rw [Field.isNamed, equalsIgnoringCase_comm] at hname
  have := equalsIgnoringCase_trans hname ho
  rw [freshNames_new m o mo] at this
  cases this

theorem coveredOctets_namesToSign (mode : Canonicalization) {h g : Header}
    {oversign sign : List String}
    (hover : ∀ name ∈ freshNames [] oversign, g.count name ≤ h.count name + 1)
    (hsign : ∀ name ∈ freshNames oversign sign, g.count name ≤ h.count name) :
    coveredOctets mode g (namesToSign h oversign sign) =
      mode.fields
        ((signedNames oversign sign).flatMap fun name => (g.fieldsNamed name).reverse) := by
  rw [coveredOctets, pickFields_namesToSign hover hsign]

theorem length_coveredOctets_insertAt (mode : Canonicalization) (h : Header)
    {oversign : List String} (sign : List String) {f : Field} (position : Nat)
    (hf : ∃ name ∈ oversign, f.isNamed name = true) :
    (coveredOctets mode h (namesToSign h oversign sign)).length <
      (coveredOctets mode (h.insertAt position f) (namesToSign h oversign sign)).length := by
  have hlisted : ∃ name ∈ signedNames oversign sign, f.isNamed name = true := by
    obtain ⟨name, m, hname⟩ := hf
    exact exists_isNamed_signedName ⟨name, List.mem_append_left _ m, hname⟩
  have hover : ∀ name ∈ freshNames [] oversign,
      (h.insertAt position f).count name ≤ h.count name + 1 := by
    intro name _
    rw [Header.count_insertAt]
    split <;> omega
  have hsign : ∀ name ∈ freshNames oversign sign,
      (h.insertAt position f).count name ≤ h.count name := by
    intro name m
    rw [Header.count_insertAt, isNamed_of_oversigned hf name m]
    simp
  rw [coveredOctets_namesToSign mode hover hsign,
    coveredOctets_namesToSign mode (fun _ _ => Nat.le_succ _) fun _ _ => Nat.le_refl _]
  exact length_fields_lt mode h position hlisted

theorem length_coveredOctets_removeAt (mode : Canonicalization) {h : Header}
    {oversign sign : List String} {f : Field} {position : Nat} (hp : h.fields[position]? = some f)
    (hf : ∃ name ∈ oversign ++ sign, f.isNamed name = true) :
    (coveredOctets mode (h.removeAt position) (namesToSign h oversign sign)).length <
      (coveredOctets mode h (namesToSign h oversign sign)).length := by
  have hcount : ∀ name, (h.removeAt position).count name ≤ h.count name := by
    intro name
    have e := (h.removeAt position).count_insertAt position f name
    rw [Header.removeAt_insertAt hp] at e
    omega
  have hlt := length_fields_lt mode (h.removeAt position) position (exists_isNamed_signedName hf)
  rw [Header.removeAt_insertAt hp] at hlt
  rw [coveredOctets_namesToSign mode (fun n _ => Nat.le_succ_of_le (hcount n)) fun n _ => hcount n,
    coveredOctets_namesToSign mode (fun _ _ => Nat.le_succ _) fun _ _ => Nat.le_refl _]
  exact hlt

/-- **Oversigning detects what is put in and what is taken out.**  The list of names is made for
`h`.  A field with an oversigned name makes the covered octets longer, wherever it is put in; and
they get shorter when a field with a listed name is taken out. -/
theorem oversigning_detects (mode : Canonicalization) (h : Header) (oversign sign : List String) :
    (∀ (f : Field) (position : Nat), (∃ name ∈ oversign, f.isNamed name = true) →
      (coveredOctets mode h (namesToSign h oversign sign)).length <
        (coveredOctets mode (h.insertAt position f) (namesToSign h oversign sign)).length) ∧
    (∀ (f : Field) (position : Nat), h.fields[position]? = some f →
      (∃ name ∈ oversign ++ sign, f.isNamed name = true) →
        (coveredOctets mode (h.removeAt position) (namesToSign h oversign sign)).length <
          (coveredOctets mode h (namesToSign h oversign sign)).length) :=
  ⟨fun _ position hf => length_coveredOctets_insertAt mode h sign position hf,
    fun _ _ hp hf => length_coveredOctets_removeAt mode hp hf⟩

/-- Subject is oversigned under two spellings and occurs twice, From is signed only. -/
theorem oversigning_detects_subject :
    let h : Header := ⟨[.new "From" "a@example.org", .new "subject" "one", .new "SUBJECT" "two"]⟩
    let keys := namesToSign h ["Subject", "SUBJECT"] ["From", "sUBJECT"]
    ((∃ name ∈ ["Subject", "SUBJECT"], (Field.new "suBJect" "").isNamed name = true) ∧
      (coveredOctets .relaxed h keys).length <
        (coveredOctets .relaxed (h.insertAt 2 (.new "suBJect" "")) keys).length) ∧
    (h.fields[0]? = some (.new "From" "a@example.org") ∧
      (∃ name ∈ ["Subject", "SUBJECT", "From", "sUBJECT"],
        (Field.new "From" "a@example.org").isNamed name = true) ∧
      (coveredOctets .relaxed (h.removeAt 0) keys).length <
        (coveredOctets .relaxed h keys).length) := by
  intro h keys
  have hdetects := oversigning_detects .relaxed h ["Subject", "SUBJECT"] ["From", "sUBJECT"]
  have hsubject :
      ∃ name ∈ ["Subject", "SUBJECT"], (Field.new "suBJect" "").isNamed name = true := by
    decide
  have hfrom : ∃ name ∈ ["Subject", "SUBJECT", "From", "sUBJECT"],
      (Field.new "From" "a@example.org").isNamed name = true := by
    decide
  exact ⟨⟨hsubject, hdetects.1 _ 2 hsubject⟩, rfl, hfrom, hdetects.2 _ 0 rfl hfrom⟩

end Dkim

end Mailroom
