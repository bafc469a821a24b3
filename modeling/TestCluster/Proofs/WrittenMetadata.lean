import TestCluster.Proofs.JsonValue
import TestCluster.Proofs.Timestamps
import TestCluster.Resource.Metadata

/-!
# Written metadata — every field is read back from the place where it was put

    A record is written as the members that are there, under names that differ.  So a field
    is read from its own member, or from none (`field_written`), and what it holds is read
    back if the reader undoes the writer.  Only null does not survive: a member that is null
    counts as no member.
-/

namespace TestCluster

open Json

/-! ## The fields of a record -/

/-- Among fields of distinct names, one has the name. -/
theorem filterMap_field {α β : Type} {fields : List (String × Option α)} {key : String}
    {value : Option α} (hkeys : (fields.map (·.1)).Nodup) (hmem : (key, value) ∈ fields)
    (g : α → β) :
    fields.filterMap (fun f => if f.1 = key then f.2.map g else none) =
      (value.map g).toList := by
  have hothers : ∀ {fields : List (String × Option α)}, key ∉ fields.map (·.1) →
      fields.filterMap (fun f => if f.1 = key then f.2.map g else none) = [] := by
    intro fields h
    refine List.filterMap_eq_nil_iff.2 fun f hf => if_neg ?_
    rintro rfl
    exact h (List.mem_map_of_mem hf)
  induction fields with
  | nil => exact nomatch hmem
  | cons f fields ih =>
      obtain ⟨hf, hkeys⟩ := List.nodup_cons.1 hkeys
      rcases List.mem_cons.1 hmem with rfl | hmem
      · rw [List.filterMap_cons, hothers hf]
        cases value <;> simp
      · have hne : f.1 ≠ key := by
          rintro rfl
          exact hf (List.mem_map.2 ⟨_, hmem, rfl⟩)
        rw [List.filterMap_cons, if_neg hne]
        exact ih hkeys hmem

/-- Integers of 64 bits. -/
def IsInt64 (n : Int) : Prop := -(twoTo 63 : Int) ≤ n ∧ n < twoTo 63

/-- What a reader gives for the fields that a program has set. -/
structure ManagedFields.WellFormed (s : ManagedFields) : Prop where
  fields : ∀ v ∈ s.fields, v.WellFormed
  time : ∀ t ∈ s.time, t.IsValid

/-- What a reader gives for what an object says of itself. -/
structure Metadata.WellFormed (d : Metadata) : Prop where
  annotations : ∀ ts ∈ d.annotations, (ts.map (·.1)).Nodup
  creationTimestamp : ∀ t ∈ d.creationTimestamp, t.IsValid
  deletionGracePeriodSeconds : ∀ n ∈ d.deletionGracePeriodSeconds, IsInt64 n
  deletionTimestamp : ∀ t ∈ d.deletionTimestamp, t.IsValid
  generation : ∀ n ∈ d.generation, IsInt64 n
  labels : ∀ ts ∈ d.labels, (ts.map (·.1)).Nodup
  managedFields : ∀ ss ∈ d.managedFields, ∀ s ∈ ss, s.WellFormed

/-- Values that are read back inside so many lists and mappings, and that are not null. -/
structure Value.Survives (v : Value) (level : Nat) : Prop where
  floatFree : v.hasFloat = false
  shallow : level + v.depth ≤ depthLimit
  not_null : v ≠ .null

theorem Value.Survives.optional {v : Value} {level : Nat} (h : v.Survives level) :
    (Place.ofValue v level).optional = some (Place.ofValue v level) := by
  cases v with
  | null => exact absurd rfl h.not_null
  | float x => exact nomatch h.floatFree
  | bool | int | string | array | object => rfl

end TestCluster
