import Mailroom.Proofs.Dkim.Listing
import Mathlib.Data.List.Nodup
import Mathlib.Data.List.ReduceOption

/-! # Where the picked fields stand

A name that is listed for the `j`-th time picks the `j`-th field of this name, counted from the
bottom (`placesOf`).  The names in between may be others: what a name picks depends on how often it
is listed, and on nothing else (`filter_placesAfter`).  So no place is picked twice
(`pickFields_places`). -/

namespace Mailroom

namespace Header

/-- Whether a field with this name stands at a place. -/
def namedAt (h : Header) (name : String) (place : Nat) : Bool :=
  h.fields[place]?.any (·.isNamed name)

/-- The places of the fields with this name, top to bottom. -/
def placesNamed (h : Header) (name : String) : List Nat :=
  (List.range h.size).filter (h.namedAt name)

variable (h : Header) {name other : String}

theorem nodup_placesNamed (name : String) : (h.placesNamed name).Nodup :=
  List.nodup_range.filter _

theorem namedAt_of_mem_placesNamed {place : Nat} (m : place ∈ h.placesNamed name) :
    h.namedAt name place = true :=
  (List.mem_filter.mp m).2

/-- The fields with a name are those at its places. -/
theorem map_placesNamed (name : String) :
    (h.placesNamed name).map (h.fields[·]?) = (h.fieldsNamed name).map some := by
  have hall : (List.range h.size).map (h.fields[·]?) = h.fields.map some :=
    List.ext_getElem? fun i => by
      by_cases hi : i < h.fields.length
      · simp [size, hi]
      · simp [size, Nat.le_of_not_lt hi]
  have hfilter := List.filter_map (l := List.range h.size) (f := (h.fields[·]?))
    (p := Option.any (·.isNamed name))
  rw [hall, List.filter_map] at hfilter
  exact hfilter.symm

theorem length_placesNamed (name : String) : (h.placesNamed name).length = h.count name := by
  have := congrArg List.length (h.map_placesNamed name)
  rwa [List.length_map, List.length_map] at this

/-- The field at the `i`-th place of a name, counted from the bottom. -/
theorem toList_map_placesNamed (name : String) (i : Nat) :
    ((h.placesNamed name).reverse[i]?.toList).map (h.fields[·]?) =
      ((h.fieldsNamed name).reverse[i]?.toList).map some := by
  have e := congrArg (fun fields => fields.reverse[i]?.toList) (h.map_placesNamed name)
  rwa [← List.map_reverse, ← List.map_reverse, List.getElem?_map, List.getElem?_map,
    Option.toList_map, Option.toList_map] at e

theorem isNamed_congr (f : Field) (he : equalsIgnoringCase name other = true) :
    f.isNamed name = f.isNamed other := by
  rw [Bool.eq_iff_iff]
  constructor
  · exact fun hf => equalsIgnoringCase_trans hf he
  · exact fun hf => equalsIgnoringCase_trans hf (by rwa [equalsIgnoringCase_comm])

theorem namedAt_congr (he : equalsIgnoringCase name other = true) :
    h.namedAt name = h.namedAt other := by
  funext place
  unfold namedAt
  congr 1
  funext f
  exact isNamed_congr f he

/-- A field has one name up to case. -/
theorem equalsIgnoringCase_of_namedAt {place : Nat} (hn : h.namedAt name place = true)
    (ho : h.namedAt other place = true) : equalsIgnoringCase name other = true := by
  unfold namedAt at hn ho
  rw [Option.any_eq_true] at hn ho
  obtain ⟨f, hf, hname⟩ := hn
  obtain ⟨g, hg, hother⟩ := ho
  obtain rfl := Option.some.inj (hf.symm.trans hg)
  refine equalsIgnoringCase_trans ?_ hother
  rw [equalsIgnoringCase_comm]
  exact hname

end Header

namespace Dkim

/-! ### One place for each name of the list -/

/-- What each name of a list picks, after `used` were looked up before them: the place of a field, or
nothing. -/
def placesAfter (h : Header) (used keys : List String) : List (Option Nat) :=
  keys.mapIdx fun i key => (h.placesNamed key).reverse[
    used.countP (equalsIgnoringCase key) + (keys.take i).countP (equalsIgnoringCase key)]?

/-- **What each name of a list picks:** the `j`-th listing of a name, the place of the `j`-th field of
this name, counted from the bottom; nothing if there are fewer. -/
def placesOf (h : Header) (keys : List String) : List (Option Nat) :=
  keys.mapIdx fun i key =>
    (h.placesNamed key).reverse[(keys.take i).countP (equalsIgnoringCase key)]?

/-- The places that are picked, in the order of the names. -/
def pickedPlaces (h : Header) (keys : List String) : List Nat := (placesOf h keys).reduceOption

variable (h : Header)

theorem placesAfter_nil (keys : List String) : placesAfter h [] keys = placesOf h keys := by
  simp [placesAfter, placesOf]

theorem placesAfter_cons (used : List String) (key : String) (keys : List String) :
    (placesAfter h used (key :: keys)).reduceOption =
      ((h.placesNamed key).reverse[used.countP (equalsIgnoringCase key)]?).toList ++
        (placesAfter h (key :: used) keys).reduceOption := by
  have hrest : placesAfter h used (key :: keys) =
      [(h.placesNamed key).reverse[used.countP (equalsIgnoringCase key)]?] ++
        placesAfter h (key :: used) keys := by
    rw [placesAfter, List.mapIdx_cons, placesAfter]
    congr 2
    funext i next
    rw [List.take_succ_cons, List.countP_cons, List.countP_cons]
    congr 1
    omega
  rw [hrest, List.reduceOption_append, List.reduceOption_singleton]

/-- The picked fields stand at the picked places. -/
theorem map_pickAfter : ∀ used keys : List String,
    (pickAfter h used keys).map some = (placesAfter h used keys).reduceOption.map (h.fields[·]?)
  | _, [] => rfl
  | used, key :: keys => by
      rw [pickAfter, placesAfter_cons, List.map_append, List.map_append,
        h.toList_map_placesNamed, map_pickAfter (key :: used) keys]

/-! ### The places of one name -/

/-- Names that are equal up to case occur equally often. -/
theorem countP_congr_name {a b : String} (he : equalsIgnoringCase a b = true)
    (keys : List String) :
    keys.countP (equalsIgnoringCase a) = keys.countP (equalsIgnoringCase b) := by
  refine List.countP_congr fun key _ => ?_
  constructor
  · exact fun hk => equalsIgnoringCase_trans (by rwa [equalsIgnoringCase_comm]) hk
  · exact fun hk => equalsIgnoringCase_trans he hk

/-- **What a name picks depends on how often it is listed:** so many of its places, from the bottom
up, above those that were picked before. -/
theorem filter_placesAfter (name : String) : ∀ used keys : List String,
    (placesAfter h used keys).reduceOption.filter (h.namedAt name) =
      ((h.placesNamed name).reverse.drop (used.countP (equalsIgnoringCase name))).take
        (keys.countP (equalsIgnoringCase name))
  | _, [] => by simp [placesAfter]
  | used, key :: keys => by
      have ih := filter_placesAfter name (key :: used) keys
      rw [placesAfter_cons, List.filter_append, ih, List.countP_cons, List.countP_cons]
      have hmem : ∀ place ∈ ((h.placesNamed key).reverse[
          used.countP (equalsIgnoringCase key)]?).toList, h.namedAt key place = true :=
        fun place m => h.namedAt_of_mem_placesNamed
          (List.mem_reverse.mp (List.mem_of_getElem? (Option.mem_toList.mp m)))
      cases hkey : equalsIgnoringCase name key with
      | true =>
          have hplaces : h.placesNamed key = h.placesNamed name := by
            rw [Header.placesNamed, Header.placesNamed, h.namedAt_congr hkey]
          rw [List.filter_eq_self.mpr (by rwa [h.namedAt_congr hkey]), hplaces,
            ← countP_congr_name hkey, if_pos rfl, toList_getElem?_append_take]
      | false =>
          have hnone : ∀ place ∈ ((h.placesNamed key).reverse[
              used.countP (equalsIgnoringCase key)]?).toList, ¬ h.namedAt name place = true := by
            intro place m hname
            rw [h.equalsIgnoringCase_of_namedAt hname (hmem place m)] at hkey
            cases hkey
          rw [List.filter_eq_nil_iff.mpr hnone, List.nil_append]
          rfl

theorem filter_pickedPlaces (name : String) (keys : List String) :
    (pickedPlaces h keys).filter (h.namedAt name) =
      (h.placesNamed name).reverse.take (keys.countP (equalsIgnoringCase name)) := by
  have e := filter_placesAfter h name [] keys
  rwa [placesAfter_nil, List.countP_nil, List.drop_zero] at e

/-- A place that is picked holds a field with a name of the list. -/
theorem exists_namedAt_of_mem {keys : List String} {place : Nat} (m : place ∈ pickedPlaces h keys) :
    ∃ key ∈ keys, h.namedAt key place = true := by
  obtain ⟨i, hi, e⟩ := List.mem_mapIdx.mp (List.reduceOption_mem_iff.mp m)
  exact ⟨keys[i], List.getElem_mem hi,
    h.namedAt_of_mem_placesNamed (List.mem_reverse.mp (List.mem_of_getElem? e))⟩

theorem nodup_pickedPlaces (keys : List String) : (pickedPlaces h keys).Nodup := by
  refine List.nodup_iff_count_le_one.mpr fun place => ?_
  by_cases m : place ∈ pickedPlaces h keys
  · -- every pick of this place is one of the picks for the name of its field
    obtain ⟨key, -, hkey⟩ := exists_namedAt_of_mem h m
    rw [← List.count_filter hkey, filter_pickedPlaces]
    have hnodup := (List.nodup_reverse.mpr (h.nodup_placesNamed key)).sublist
      (List.take_sublist (keys.countP (equalsIgnoringCase key)) _)
    exact List.nodup_iff_count_le_one.mp hnodup place
  · rw [List.count_eq_zero_of_not_mem m]
    exact Nat.zero_le 1

/-- **What an arbitrary list of names picks.**  The picked fields are those at the places that
`placesOf` gives, in the order of the names, and no place is picked twice.  A name that is listed `k`
times picks its `k` bottom fields, or all of them if there are fewer, from the bottom up; and it picks
what it would pick if no other name were listed. -/
theorem pickFields_places (h : Header) (keys : List String) :
    (pickFields h keys).map some = (pickedPlaces h keys).map (h.fields[·]?) ∧
    (pickedPlaces h keys).Nodup ∧
    ∀ name,
      let listed := keys.countP (equalsIgnoringCase name)
      let picked := (pickedPlaces h keys).filter (h.namedAt name)
      picked = (h.placesNamed name).reverse.take listed ∧
      picked.length = min listed (h.count name) ∧
      picked = pickedPlaces h (keys.filter (equalsIgnoringCase name)) := by
  refine ⟨?_, nodup_pickedPlaces h keys, fun name => ?_⟩
  · rw [pickFields, map_pickAfter, placesAfter_nil]
    rfl
  · have hpicked := filter_pickedPlaces h name keys
    refine ⟨hpicked, ?_, ?_⟩
    · rw [hpicked, List.length_take, List.length_reverse, h.length_placesNamed]
    · have hall : ∀ place ∈ pickedPlaces h (keys.filter (equalsIgnoringCase name)),
          h.namedAt name place = true := by
        intro place m
        obtain ⟨key, mkey, hkey⟩ := exists_namedAt_of_mem h m
        rwa [h.namedAt_congr (List.mem_filter.mp mkey).2]
      rw [hpicked, ← List.filter_eq_self.mpr hall, filter_pickedPlaces, List.countP_filter]
      simp

/-- Two fields for a name that is listed three times, with another name in between. -/
example : placesOf ⟨[⟨"Received", []⟩, ⟨"Subject", []⟩, ⟨"Received", []⟩]⟩
    ["received", "Received", "Subject", "RECEIVED"] = [some 2, some 0, some 1, none] := by
  decide

end Dkim

end Mailroom
