import ConditionalText.Text.Basic
import Mathlib.Data.List.Basic

/-!
Fields by their names, of which some are stated.
-/

namespace ConditionalText

variable {α β : Type}

theorem lookup_of_notMem {entries : List (Text × β)} {name : Text}
    (new : name ∉ entries.map Prod.fst) : entries.lookup name = none := by
  rw [List.lookup_eq_none_iff]
  intro entry member
  rw [bne_iff_ne]
  rintro rfl
  exact new (List.mem_map_of_mem member)

def statedFields (fields : List (Text × Option β)) : List (Text × β) :=
  fields.filterMap (fun field => field.2.map (fun value => (field.1, value)))

variable {fields : List (Text × Option β)}

theorem mem_statedFields {field : Text × β} :
    field ∈ statedFields fields ↔ (field.1, some field.2) ∈ fields := by
  unfold statedFields
  rw [List.mem_filterMap]
  constructor
  · rintro ⟨⟨name, stated⟩, member, found⟩
    obtain ⟨value, rfl, rfl⟩ := Option.map_eq_some_iff.mp found
    exact member
  · intro member
    exact ⟨(field.1, some field.2), member, rfl⟩

theorem map_statedFields (write : α → β) (fields : List (Text × Option α)) :
    (statedFields fields).map (fun field => (field.1, write field.2)) =
      statedFields (fields.map (fun field => (field.1, field.2.map write))) := by
  unfold statedFields
  rw [List.map_filterMap, List.filterMap_map]
  apply List.filterMap_congr
  intro field _
  cases stated : field.2 <;> simp [stated]

theorem statedFields_append (fields others : List (Text × Option β)) :
    statedFields (fields ++ others) = statedFields fields ++ statedFields others :=
  List.filterMap_append

theorem names_statedFields :
    ((statedFields fields).map Prod.fst).Sublist (fields.map Prod.fst) := by
  induction fields with
  | nil => exact List.Sublist.slnil
  | cons field fields ih =>
      obtain ⟨name, stated⟩ := field
      cases stated with
      | none => exact ih.cons name
      | some value => exact ih.cons_cons name

/-- Where no name comes twice, a stated field is found by its name. -/
theorem lookup_statedFields (distinct : (fields.map Prod.fst).Nodup) {name : Text}
    {stated : Option β} (member : (name, stated) ∈ fields) :
    (statedFields fields).lookup name = stated := by
  induction fields with
  | nil => cases member
  | cons field fields ih =>
      rw [List.map_cons, List.nodup_cons] at distinct
      obtain ⟨first, held⟩ := field
      cases List.mem_cons.mp member with
      | inl same =>
          obtain ⟨rfl, rfl⟩ := Prod.mk.inj same
          cases stated with
          | some value => simp [statedFields]
          | none =>
              have absent : name ∉ (statedFields fields).map Prod.fst :=
                fun later => distinct.1 (names_statedFields.subset later)
              have shorter : statedFields ((name, none) :: fields) = statedFields fields := rfl
              rw [shorter, lookup_of_notMem absent]
      | inr later =>
          have found := ih distinct.2 later
          have other : name ≠ first := by
            rintro rfl
            exact distinct.1 (List.mem_map.mpr ⟨(name, stated), later, rfl⟩)
          cases held with
          | none => exact found
          | some value =>
              have split : statedFields ((first, some value) :: fields) =
                  (first, value) :: statedFields fields := rfl
              rw [split, List.lookup_cons, beq_eq_false_iff_ne.mpr other]
              exact found

end ConditionalText
