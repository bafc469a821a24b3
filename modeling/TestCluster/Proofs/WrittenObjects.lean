import TestCluster.Proofs.EncodedText
import TestCluster.Proofs.WrittenMetadata
import TestCluster.Resource.Apply

/-!
# Written objects — the JSON text of an object is read as that object

    An object is written as one mapping: the two names of its kind, what it says of itself,
    and its other members.  When it is read, the names are taken out of the members, and they
    are the only ones, since no other member is called like one of them
    (`Object.WellFormed`).  What the text cannot carry is left out by `Object.Survives`.
-/

namespace TestCluster

open Json

/-- How an object names its kind, as members. -/
def Types.members (t : Types) : List (String × Value) :=
  [("apiVersion", .string t.apiVersion), ("kind", .string t.kind)]

/-- What a reader gives for an object. -/
structure Object.WellFormed (o : Object) : Prop where
  metadata : o.metadata.WellFormed
  nodup : (o.content.map (·.1)).Nodup
  key_ne : ∀ m ∈ o.content, m.1 ≠ "apiVersion" ∧ m.1 ≠ "kind" ∧ m.1 ≠ "metadata"
  values : ∀ m ∈ o.content, m.2.WellFormed

/-- Objects that JSON text carries as they are, but for their floats: nested no deeper than a
    reader of JSON goes, and without fields of a program that are null. -/
structure Object.Survives (o : Object) : Prop where
  shallow : o.toValue.depth ≤ depthLimit
  fields_ne : ∀ ss ∈ o.metadata.managedFields, ∀ s ∈ ss, ∀ v ∈ s.fields, v ≠ .null

namespace Object

variable {o : Object}

/-- Whether the fields of a program are null. -/
def hasNullFields (o : Object) : Bool :=
  o.metadata.managedFields.any (·.any fun s => s.fields matches some .null)

theorem survives_iff (o : Object) :
    o.Survives ↔ o.toValue.depth ≤ depthLimit ∧ o.hasNullFields = false := by
  have hnull (s : ManagedFields) :
      (s.fields matches some .null) = false ↔ ∀ v ∈ s.fields, v ≠ .null := by
    cases s.fields with
    | none => simp
    | some v => cases v <;> simp
  have hfields : o.hasNullFields = false ↔
      ∀ ss ∈ o.metadata.managedFields, ∀ s ∈ ss, ∀ v ∈ s.fields, v ≠ .null := by
    rw [hasNullFields]
    cases o.metadata.managedFields with
    | none => simp
    | some ss =>
        simp only [Option.any_some, List.any_eq_false, Bool.not_eq_true, hnull, Option.mem_def,
          Option.some.injEq, forall_eq']
  rw [hfields]
  exact ⟨fun h => ⟨h.shallow, h.fields_ne⟩, fun h => ⟨h.1, h.2⟩⟩

instance (o : Object) : Decidable o.Survives := decidable_of_iff _ (survives_iff o).symm

theorem mem_presentMembers {fields : List (String × Option Value)} {key : String} {v : Value}
    (h : (key, some v) ∈ fields) : (key, v) ∈ presentMembers fields :=
  List.mem_filterMap.2 ⟨_, h, rfl⟩

theorem metadata_mem_toValue (o : Object) : ∃ members, o.toValue = .object members ∧
    ("metadata", o.metadata.toValue) ∈ members ∧ ∀ m ∈ o.content, m ∈ members := by
  refine ⟨_, rfl, ?_, ?_⟩
  · exact List.mem_append_right _ List.mem_cons_self
  · exact fun m hm => List.mem_append_right _ (List.mem_cons_of_mem _ hm)

/-- The members of an object that survives are read back. -/
theorem Survives.content (hs : o.Survives) (hfloat : o.toValue.hasFloat = false)
    {m : String × Value} (hm : m ∈ o.content) :
    m.2.hasFloat = false ∧ 1 + m.2.depth ≤ depthLimit := by
  obtain ⟨members, hvalue, _, hcontent⟩ := metadata_mem_toValue o
  have hdepth := hs.shallow
  rw [hvalue] at hfloat hdepth
  exact ⟨Value.hasFloat_member hfloat (hcontent m hm),
    Nat.le_trans (Value.depth_member_lt (hcontent m hm)) hdepth⟩

/-- The fields of programs are read back, four levels below an object that survives. -/
theorem Survives.fields (hs : o.Survives) (hfloat : o.toValue.hasFloat = false)
    {ss : List ManagedFields} (hss : ss ∈ o.metadata.managedFields) {s : ManagedFields}
    (hmem : s ∈ ss) {v : Value} (hv : v ∈ s.fields) : v.Survives 4 := by
  obtain ⟨members, hvalue, hmetadata, _⟩ := metadata_mem_toValue o
  have hdepth := hs.shallow
  rw [hvalue] at hfloat hdepth
  -- from the object down: its metadata, the list of programs, one program, its fields
  have hlist : ("managedFields", Value.array (ss.map ManagedFields.toValue)) ∈
      presentMembers o.metadata.members := by
    refine mem_presentMembers ?_
    rw [Option.mem_def] at hss
    simp [Metadata.members, hss]
  have hprogram : s.toValue ∈ ss.map ManagedFields.toValue := List.mem_map_of_mem hmem
  have hfields : ("fieldsV1", v) ∈ presentMembers s.members := by
    refine mem_presentMembers ?_
    rw [Option.mem_def] at hv
    simp [ManagedFields.members, hv]
  have hfloat₁ := Value.hasFloat_member hfloat hmetadata
  have hfloat₂ := Value.hasFloat_member hfloat₁ hlist
  have hfloat₃ := Value.hasFloat_item hfloat₂ hprogram
  have hfloat₄ := Value.hasFloat_member hfloat₃ hfields
  have hdepth₁ : 1 + o.metadata.toValue.depth ≤ depthLimit :=
    Nat.le_trans (Value.depth_member_lt hmetadata) hdepth
  have hdepth₂ : 1 + (Value.array (ss.map ManagedFields.toValue)).depth ≤
      o.metadata.toValue.depth := Value.depth_member_lt hlist
  have hdepth₃ := Value.depth_item_lt hprogram
  have hdepth₄ : 1 + v.depth ≤ s.toValue.depth := Value.depth_member_lt hfields
  exact ⟨hfloat₄, by omega, hs.fields_ne ss hss s hmem v hv⟩

theorem takeTypes_cons (apiVersion kind : Option String) (key : String) (value : Value)
    (members : List (String × Value)) : takeTypes apiVersion kind ((key, value) :: members) =
      if key = "apiVersion" then
        match apiVersion, value with
        | none, .string s => takeTypes (some s) kind members
        | _, _ => (none, members)
      else if key = "kind" then
        match kind, value with
        | none, .string s => takeTypes apiVersion (some s) members
        | _, _ => (none, members)
      else
        ((takeTypes apiVersion kind members).1,
          (key, value) :: (takeTypes apiVersion kind members).2) := rfl

theorem subset_of_takeTypes (apiVersion kind : Option String) (members : List (String × Value)) :
    ∀ m ∈ (takeTypes apiVersion kind members).2, m ∈ members := by
  induction members generalizing apiVersion kind with
  | nil =>
      intro m hm
      rw [takeTypes.eq_def] at hm
      dsimp only at hm
      split at hm <;> exact nomatch hm
  | cons member members ih =>
      obtain ⟨key, value⟩ := member
      intro m hm
      rw [takeTypes_cons] at hm
      split at hm
      · split at hm
        · exact List.mem_cons_of_mem _ (ih _ _ m hm)
        · exact List.mem_cons_of_mem _ hm
      split at hm
      · split at hm
        · exact List.mem_cons_of_mem _ (ih _ _ m hm)
        · exact List.mem_cons_of_mem _ hm
      · rcases List.mem_cons.1 hm with rfl | hm
        · exact List.mem_cons_self
        · exact List.mem_cons_of_mem _ (ih _ _ m hm)

end Object

namespace Metadata

end Metadata

namespace Object

variable {o : Object}

theorem WellFormed.placed (ho : o.WellFormed) (mapping : Mapping) :
    (o.placed mapping).WellFormed := by
  rw [Object.placed]
  split
  · obtain ⟨⟨annotations, creation, grace, deletion, generation, labels, managed⟩, hnodup, hkeys,
      hvalues⟩ := ho
    exact ⟨⟨annotations, creation, grace, deletion, generation, labels, managed⟩, hnodup, hkeys,
      hvalues⟩
  · exact ho

end Object

end TestCluster
