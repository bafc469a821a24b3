import TestCluster.Manifest
import TestCluster.Proofs.WrittenObjects

/-!
# Decoded objects — what every document gives

    Whatever a document says, an object that is read from it is well formed: integers have 64
    bits, timestamps are seconds that there are, and no key comes twice.  A reading counts the
    aliases that it may still follow, and may fail; `Gives` speaks of what it gives when it
    does not, and has one law for each way to put readings together.
-/

namespace TestCluster

open Yaml

/-! ## Readings -/

/-- What a reading gives satisfies a condition. -/
def Gives {α : Type} (r : Reading α) (P : α → Prop) : Prop :=
  ∀ left a left', r left = some (a, left') → P a

section

variable {α β : Type} {P : α → Prop} {Q : β → Prop}

theorem gives_pure {a : α} (h : P a) : Gives (pure a) P := by
  rintro left b left' heq
  obtain ⟨rfl, -⟩ := Prod.mk.inj (Option.some.inj heq)
  exact h

theorem gives_failure : Gives (failure : Reading α) P := by
  intro left a left' heq
  exact nomatch heq

theorem gives_true (r : Reading α) : Gives r fun _ => True := by
  intro _ _ _ _
  trivial

theorem Gives.mono {P' : α → Prop} {r : Reading α} (h : Gives r P) (hP : ∀ a, P a → P' a) :
    Gives r P' := by
  intro left a left' heq
  exact hP a (h left a left' heq)

theorem Gives.bind {r : Reading α} {f : α → Reading β} (hr : Gives r P)
    (hf : ∀ a, P a → Gives (f a) Q) : Gives (r >>= f) Q := by
  intro left b left' heq
  obtain ⟨⟨a, left₁⟩, ha, hb⟩ := Option.bind_eq_some_iff.1 heq
  exact hf a (hr left a left₁ ha) left₁ b left' hb

theorem Gives.map {r : Reading α} {f : α → β} (h : Gives r fun a => Q (f a)) :
    Gives (f <$> r) Q := by
  rw [map_eq_pure_bind]
  exact h.bind fun a ha => gives_pure ha

theorem gives_mapM {f : α → Reading β} {xs : List α} (h : ∀ x ∈ xs, Gives (f x) Q) :
    Gives (xs.mapM f) fun ys => ∀ y ∈ ys, Q y := by
  induction xs with
  | nil => exact gives_pure (fun _ hy => nomatch hy)
  | cons x xs ih =>
      obtain ⟨hx, hxs⟩ := List.forall_mem_cons.1 h
      rw [List.mapM_cons]
      refine hx.bind fun y hy => (ih hxs).bind fun ys hys => gives_pure ?_
      exact List.forall_mem_cons.2 ⟨hy, hys⟩

end

/-! ## Formats -/

namespace Format

variable {α : Type} {P : α → Prop} {f : Format Reading Yaml.Place} {read : Yaml.Place → Reading α}

theorem gives_nullable (h : ∀ node, Gives (read node) P) (node : Yaml.Place) :
    Gives (f.nullable read node) fun a => ∀ x ∈ a, P x := by
  refine (gives_true (f.optional node)).bind fun place _ => ?_
  cases place with
  | none => exact gives_pure (fun _ hx => nomatch hx)
  | some place =>
      refine Gives.map ((h place).mono fun a ha x hx => ?_)
      obtain rfl := Option.some.inj hx
      exact ha

theorem gives_list (h : ∀ node, Gives (read node) P) (node : Yaml.Place) :
    Gives (f.list read node) fun xs => ∀ x ∈ xs, P x :=
  (gives_true (f.items node)).bind fun _ _ => gives_mapM fun node _ => h node

theorem gives_field (h : ∀ node, Gives (read node) P) (members : List (String × Yaml.Place))
    (key : String) : Gives (f.field members key read) fun a => ∀ x ∈ a, P x := by
  refine Gives.map ((gives_mapM fun node _ => gives_nullable h node).bind fun values hvalues => ?_)
  refine gives_pure fun x hx => ?_
  -- the value that counts is the last one
  obtain hlast := Option.join_eq_some_iff.1 (Option.mem_def.1 hx)
  exact hvalues (some x) (List.mem_of_getLast? hlast) x rfl

theorem gives_texts (node : Yaml.Place) :
    Gives (f.texts node) fun texts => (texts.map (·.1)).Nodup := by
  refine (gives_true (f.members node)).bind fun members _ => ?_
  exact Gives.map ((gives_true _).mono fun texts _ => Members.nodup_ofList texts)

end Format

/-! ## Values of a document -/

namespace Yaml

namespace Scalar

theorem nat?_lt {bound n : Nat} {s : String} (h : nat? bound s = some n) : n < bound := by
  rw [nat?.eq_def] at h
  split at h
  · exact of_decide_eq_true (Option.filter_eq_some_iff.1 h).2
  · exact of_decide_eq_true (Option.filter_eq_some_iff.1 h).2

theorem negative?_bounds {bound : Nat} {i : Int} {s : String} (h : negative? bound s = some i) :
    -(bound : Int) ≤ i ∧ i ≤ 0 := by
  rw [negative?.eq_def] at h
  split at h
  · obtain ⟨n, hn, rfl⟩ := Option.map_eq_some_iff.1 h
    obtain ⟨k, hk, hkn⟩ := Option.bind_eq_some_iff.1 hn
    obtain rfl := Option.some.inj hkn
    have hle : k ≤ bound := of_decide_eq_true (Option.filter_eq_some_iff.1 hk).2
    omega
  · exact nomatch h

theorem int?_isInt64 {s : String} {i : Int} (h : int? 64 s = some i) : IsInt64 i := by
  have hpositive : (0 : Int) < twoTo 63 := by decide
  rw [int?] at h
  split at h
  · rename_i n hn
    obtain rfl := Option.some.inj h
    have hlt : n < twoTo 63 := nat?_lt hn
    exact ⟨by omega, by omega⟩
  · have hbounds := negative?_bounds h
    exact ⟨hbounds.1, Int.lt_of_le_of_lt hbounds.2 hpositive⟩

theorem integer?_bounds {s : String} {i : Int} (h : integer? s = some (some i)) :
    -(twoTo 63 : Int) ≤ i ∧ i < twoTo 64 := by
  have hpositive : (0 : Int) < twoTo 64 := by decide
  rw [integer?] at h
  split at h
  · rename_i n hn
    obtain rfl := Option.some.inj (Option.some.inj h)
    have hlt : n < twoTo 64 := nat?_lt hn
    exact ⟨by omega, by omega⟩
  · rename_i hi _
    obtain rfl := Option.some.inj (Option.some.inj h)
    have hbounds := negative?_bounds hi
    exact ⟨hbounds.1, Int.lt_of_le_of_lt hbounds.2 hpositive⟩
  · split at h
    · exact nomatch h
    · exact nomatch h

theorem wellFormed_floatValue (x : Binary64) : (floatValue x).WellFormed := by
  rw [floatValue]
  split
  · exact .float x
  · exact .null

theorem wellFormed_value? {s : String} {v : Value} (h : value? s = some v) : v.WellFormed := by
  rw [value?] at h
  split at h
  · obtain rfl := Option.some.inj h
    exact .null
  split at h
  · obtain rfl := Option.some.inj h
    exact .bool _
  split at h
  · rename_i i hi
    obtain ⟨n, rfl, rfl⟩ := Option.map_eq_some_iff.1 h
    exact .int (integer?_bounds hi).1 (integer?_bounds hi).2
  split at h
  · obtain rfl := Option.some.inj h
    exact .string s
  split at h
  · obtain rfl := Option.some.inj h
    exact wellFormed_floatValue _
  · obtain rfl := Option.some.inj h
    exact .string s

end Scalar

namespace Document

theorem wellFormed_scalarValue {label : Label} {style : ScalarStyle} {chars : List Char}
    {v : Value} (h : scalarValue label style chars = some v) : v.WellFormed := by
  rw [scalarValue] at h
  split at h
  · split at h
    · exact Scalar.wellFormed_value? h
    · obtain rfl := Option.some.inj h
      exact .string _
  split at h
  · exact nomatch h
  split at h
  · obtain ⟨b, _, rfl⟩ := Option.map_eq_some_iff.1 h
    exact .bool b
  split at h
  · obtain ⟨i, hi, rfl⟩ := Option.map_eq_some_iff.1 h
    have hbounds := Scalar.integer?_bounds (Option.join_eq_some_iff.1 hi)
    exact .int hbounds.1 hbounds.2
  split at h
  · obtain ⟨x, _, rfl⟩ := Option.map_eq_some_iff.1 h
    exact Scalar.wellFormed_floatValue x
  split at h
  · split at h
    · obtain rfl := Option.some.inj h
      exact .null
    · exact nomatch h
  · obtain rfl := Option.some.inj h
    exact .string _

theorem gives_scalar (label : Label) (style : ScalarStyle) (chars : List Char) :
    Gives (scalar label style chars) Value.WellFormed := by
  rw [scalar]
  split
  · exact gives_pure (wellFormed_scalarValue ‹_›)
  · exact gives_failure

theorem gives_valueAt (d : Document) (loose : Bool) (room : Nat) (node : Node.Numbered) :
    Gives (d.valueAt loose room node) Value.WellFormed := by
  induction room generalizing node with
  | zero =>
      rw [valueAt]
      refine (gives_true _).bind fun place _ => ?_
      split
      · exact gives_pure .null
      · exact gives_scalar _ _ _
      · exact gives_failure
  | succ room ih =>
      rw [valueAt]
      refine (gives_true _).bind fun place _ => ?_
      split
      · exact gives_pure .null
      · exact gives_scalar _ _ _
      · split
        · exact gives_failure
        · exact Gives.map ((gives_mapM fun node _ => ih node).mono fun _ h => .array h)
      · split
        · exact gives_failure
        · refine (gives_mapM (Q := fun m => m.2.WellFormed) fun member _ => ?_).bind ?_
          · refine (gives_true _).bind fun key _ => (ih _).bind fun value hvalue => ?_
            exact gives_pure hvalue
          · intro members hmembers
            refine gives_pure (.object (Members.nodup_ofList members) fun m hm => ?_)
            exact hmembers m (Members.mem_of_mem_ofList hm)
      · exact gives_failure

theorem gives_value (d : Document) (loose : Bool) (place : Place) :
    Gives (d.value loose place) Value.WellFormed := by
  rw [value]
  split
  · exact gives_pure .null
  · exact d.gives_valueAt _ _ _

theorem gives_int64 (d : Document) (place : Place) : Gives (d.format.int64 place) IsInt64 := by
  refine (gives_true (d.spelling "int" place)).bind fun s _ => ?_
  cases h : Scalar.int? 64 s with
  | none => exact gives_failure
  | some i => exact gives_pure (Scalar.int?_isInt64 h)

theorem gives_timestamp (d : Document) (place : Place) :
    Gives (d.format.timestamp place) Timestamp.IsValid := by
  refine (gives_true (d.format.text place)).bind fun s _ => ?_
  cases h : Timestamp.ofText? s with
  | none => exact gives_failure
  | some t => exact gives_pure (Timestamp.isValid_of_ofText? h)

end Document

end Yaml

/-! ## Metadata and objects -/

section

variable (d : Yaml.Document)

theorem ManagedFields.gives_read (place : Yaml.Place) :
    Gives (ManagedFields.read d.format place) ManagedFields.WellFormed := by
  refine (gives_true _).bind fun members _ => ?_
  refine (gives_true _).bind fun apiVersion _ => (gives_true _).bind fun fieldsType _ => ?_
  refine (Format.gives_field (fun place => d.gives_value true place) members "fieldsV1").bind
    fun fields hfields => ?_
  refine (gives_true _).bind fun manager _ => (gives_true _).bind fun operation _ => ?_
  refine (gives_true _).bind fun subresource _ => ?_
  refine (Format.gives_field d.gives_timestamp members "time").bind fun time htime => ?_
  exact gives_pure ⟨hfields, htime⟩

theorem Metadata.gives_read (place : Yaml.Place) :
    Gives (Metadata.read d.format place) Metadata.WellFormed := by
  refine (gives_true _).bind fun members _ => ?_
  refine (Format.gives_field Format.gives_texts members "annotations").bind
    fun annotations hannotations => ?_
  refine (Format.gives_field d.gives_timestamp members "creationTimestamp").bind
    fun creation hcreation => ?_
  refine (Format.gives_field d.gives_int64 members "deletionGracePeriodSeconds").bind
    fun grace hgrace => ?_
  refine (Format.gives_field d.gives_timestamp members "deletionTimestamp").bind
    fun deletion hdeletion => ?_
  refine (gives_true _).bind fun finalizers _ => (gives_true _).bind fun generateName _ => ?_
  refine (Format.gives_field d.gives_int64 members "generation").bind
    fun generation hgeneration => ?_
  refine (Format.gives_field Format.gives_texts members "labels").bind fun labels hlabels => ?_
  refine (Format.gives_field (Format.gives_list (ManagedFields.gives_read d)) members
    "managedFields").bind fun managedFields hmanaged => ?_
  refine (gives_true _).bind fun name _ => (gives_true _).bind fun namespace_ _ => ?_
  refine (gives_true _).bind fun ownerReferences _ => ?_
  refine (gives_true _).bind fun resourceVersion _ => (gives_true _).bind fun selfLink _ => ?_
  refine (gives_true _).bind fun uid _ => ?_
  exact gives_pure ⟨hannotations, hcreation, hgrace, hdeletion, hgeneration, hlabels, hmanaged⟩

namespace Object

/-- Members from which the names of a kind were taken have no such name any more. -/
theorem key_ne_of_takeTypes {members content : List (String × Value)}
    {apiVersion kind : Option String} {types : Types}
    (h : takeTypes apiVersion kind members = (some types, content)) :
    ∀ m ∈ content, m.1 ≠ "apiVersion" ∧ m.1 ≠ "kind" := by
  induction members generalizing apiVersion kind content with
  | nil =>
      rw [takeTypes.eq_def] at h
      dsimp only at h
      split at h
      · obtain ⟨-, rfl⟩ := Prod.mk.inj h
        exact fun _ hm => nomatch hm
      · exact nomatch (Prod.mk.inj h).1
  | cons member members ih =>
      obtain ⟨key, value⟩ := member
      rw [takeTypes_cons] at h
      split at h
      -- a name that is taken out is no member; one that cannot be leaves no types
      · split at h
        · exact ih h
        · exact nomatch (Prod.mk.inj h).1
      split at h
      · split at h
        · exact ih h
        · exact nomatch (Prod.mk.inj h).1
      · obtain ⟨htypes, rfl⟩ := Prod.mk.inj h
        exact List.forall_mem_cons.2 ⟨⟨‹_›, ‹_›⟩, ih (Prod.ext htypes rfl)⟩

/-- What a document holds under the keys that are not metadata. -/
theorem gives_others (members : List (String × Yaml.Place)) :
    Gives ((members.filter (·.1 != "metadata")).mapM fun (k, v) => do
      pure (k, ← d.format.value v)) fun others =>
        ∀ m ∈ others, m.1 ≠ "metadata" ∧ m.2.WellFormed := by
  refine gives_mapM fun member hmember => ?_
  refine (d.gives_value false member.2).bind fun value hvalue => gives_pure ⟨?_, hvalue⟩
  exact bne_iff_ne.1 (List.mem_filter.1 hmember).2

theorem gives_metadata (members : List (String × Yaml.Place)) :
    Gives (d.format.once members "metadata" (Metadata.read d.format) (pure {}))
      Metadata.WellFormed := by
  rw [Format.once]
  split
  · refine gives_pure ⟨?_, ?_, ?_, ?_, ?_, ?_, ?_⟩ <;> rintro _ ⟨⟩
  · exact Metadata.gives_read d _
  · exact gives_failure

/-- An object that names its kind is well formed, whatever document it is read from. -/
theorem gives_read (place : Yaml.Place) :
    Gives (Object.read d.format place) fun o => ∀ types, o.types = some types → o.WellFormed := by
  refine (gives_true _).bind fun members _ => ?_
  refine (gives_metadata d members).bind fun metadata hmetadata => ?_
  refine (gives_others d members).bind fun others hothers => gives_pure fun types htypes => ?_
  have htaken : takeTypes none none others = (some types, (takeTypes none none others).2) :=
    Prod.ext htypes rfl
  have hmem : ∀ m ∈ Members.ofList (takeTypes none none others).2, m ∈ others := by
    intro m hm
    exact subset_of_takeTypes none none others m (Members.mem_of_mem_ofList hm)
  refine ⟨hmetadata, Members.nodup_ofList _, fun m hm => ?_, fun m hm => ?_⟩
  · obtain ⟨happly, hkind⟩ := key_ne_of_takeTypes htaken m (Members.mem_of_mem_ofList hm)
    exact ⟨happly, hkind, (hothers m (hmem m hm)).1⟩
  · exact (hothers m (hmem m hm)).2

end Object

end

namespace Manifest

end Manifest

end TestCluster
