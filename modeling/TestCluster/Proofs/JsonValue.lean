import Mathlib.Data.List.Nodup
import TestCluster.Json.Format
import TestCluster.Proofs.DistinctKeys
import TestCluster.Proofs.JsonLayout

/-!
# Written values — what a JSON text is read as

    The text of a value, compact or indented, is read as the tree that has the value's own
    shape (`reads_compactChars`, `reads_indentedChars`), and that tree says the value again, if
    the value is one that JSON can say: without floats, whose digits are another matter, and
    well formed, which means that its integers have 64 bits and that no mapping has a key
    twice.  Nesting is the same in the tree as in the value, so a value of unknown shape is
    read back unless it is nested too deep.
-/

namespace TestCluster

namespace Value

/-- How deep lists and mappings are nested. -/
def depth : Value → Nat
  | .array items => 1 + depthItems items
  | .object members => 1 + depthMembers members
  | _ => 0
where
  depthItems : List Value → Nat
    | [] => 0
    | v :: vs => max v.depth (depthItems vs)
  depthMembers : List (String × Value) → Nat
    | [] => 0
    | (_, v) :: ms => max v.depth (depthMembers ms)

/-- Whether there is a float in the value. -/
def hasFloat : Value → Bool
  | .float _ => true
  | .array items => itemsHave items
  | .object members => membersHave members
  | _ => false
where
  itemsHave : List Value → Bool
    | [] => false
    | v :: vs => v.hasFloat || itemsHave vs
  membersHave : List (String × Value) → Bool
    | [] => false
    | (_, v) :: ms => v.hasFloat || membersHave ms

/-- Values that documents can say: every integer has 64 bits, with a sign or without, and no
    mapping has a key twice. -/
inductive WellFormed : Value → Prop where
  | null : WellFormed .null
  | bool (b : Bool) : WellFormed (.bool b)
  | int {n : Int} : -(twoTo 63 : Int) ≤ n → n < twoTo 64 → WellFormed (.int n)
  | float (x : Binary64) : WellFormed (.float x)
  | string (s : String) : WellFormed (.string s)
  | array {items : List Value} : (∀ v ∈ items, WellFormed v) → WellFormed (.array items)
  | object {members : List (String × Value)} :
      (members.map (·.1)).Nodup → (∀ m ∈ members, WellFormed m.2) → WellFormed (.object members)

/-- Induction over values, with what holds of all items and of all members. -/
@[elab_as_elim]
theorem induct {motive : Value → Prop} (null : motive .null) (bool : ∀ b, motive (.bool b))
    (int : ∀ n, motive (.int n)) (float : ∀ x, motive (.float x))
    (string : ∀ s, motive (.string s))
    (array : ∀ items, (∀ v ∈ items, motive v) → motive (.array items))
    (object : ∀ members, (∀ m ∈ members, motive m.2) → motive (.object members)) (v : Value) :
    motive v := by
  refine @Value.rec motive (fun items => ∀ v ∈ items, motive v)
    (fun members => ∀ m ∈ members, motive m.2) (fun m => motive m.2)
    null bool int float string array object ?_ ?_ ?_ ?_ ?_ v
  · intro v hv
    exact nomatch hv
  · intro v vs hv hvs
    exact List.forall_mem_cons.2 ⟨hv, hvs⟩
  · intro m hm
    exact nomatch hm
  · intro m ms hm hms
    exact List.forall_mem_cons.2 ⟨hm, hms⟩
  · intro k v hv
    exact hv

theorem depth_item_lt {items : List Value} {v : Value} (h : v ∈ items) :
    1 + v.depth ≤ (Value.array items).depth := by
  have hle : v.depth ≤ depth.depthItems items := by
    induction items with
    | nil => exact nomatch h
    | cons item items ih =>
        rw [depth.depthItems]
        rcases List.mem_cons.1 h with rfl | h
        · exact Nat.le_max_left ..
        · exact Nat.le_trans (ih h) (Nat.le_max_right ..)
  rw [depth]
  omega

theorem depth_member_lt {members : List (String × Value)} {m : String × Value} (h : m ∈ members) :
    1 + m.2.depth ≤ (Value.object members).depth := by
  have hle : m.2.depth ≤ depth.depthMembers members := by
    induction members with
    | nil => exact nomatch h
    | cons member members ih =>
        rw [depth.depthMembers]
        rcases List.mem_cons.1 h with rfl | h
        · exact Nat.le_max_left ..
        · exact Nat.le_trans (ih h) (Nat.le_max_right ..)
  rw [depth]
  omega

theorem hasFloat_item {items : List Value} {v : Value}
    (hfloat : (Value.array items).hasFloat = false) (h : v ∈ items) : v.hasFloat = false := by
  rw [hasFloat] at hfloat
  induction items with
  | nil => exact nomatch h
  | cons item items ih =>
      rw [hasFloat.itemsHave, Bool.or_eq_false_iff] at hfloat
      rcases List.mem_cons.1 h with rfl | h
      · exact hfloat.1
      · exact ih hfloat.2 h

theorem hasFloat_member {members : List (String × Value)} {m : String × Value}
    (hfloat : (Value.object members).hasFloat = false) (h : m ∈ members) :
    m.2.hasFloat = false := by
  rw [hasFloat] at hfloat
  induction members with
  | nil => exact nomatch h
  | cons member members ih =>
      rw [hasFloat.membersHave, Bool.or_eq_false_iff] at hfloat
      rcases List.mem_cons.1 h with rfl | h
      · exact hfloat.1
      · exact ih hfloat.2 h

theorem hasFloat_array {items : List Value} (h : ∀ v ∈ items, v.hasFloat = false) :
    (Value.array items).hasFloat = false := by
  rw [hasFloat]
  induction items with
  | nil => rfl
  | cons item items ih =>
      obtain ⟨hitem, hitems⟩ := List.forall_mem_cons.1 h
      rw [hasFloat.itemsHave, hitem, ih hitems]
      rfl

theorem hasFloat_object {members : List (String × Value)}
    (h : ∀ m ∈ members, m.2.hasFloat = false) : (Value.object members).hasFloat = false := by
  rw [hasFloat]
  induction members with
  | nil => rfl
  | cons member members ih =>
      obtain ⟨hmember, hmembers⟩ := List.forall_mem_cons.1 h
      rw [hasFloat.membersHave, hmember, ih hmembers]
      rfl

end Value

namespace Json

/-! ## The tree of a value -/

/-- The tree as which a value without floats is written. -/
def Tree.ofValue : Value → Tree
  | .null => .null
  | .bool b => .bool b
  | .int n => .number (numberOf n)
  | .float _ => .null
  | .string s => .string (some s)
  | .array items => .array (ofItems items)
  | .object members => .object (ofMembers members)
where
  ofItems : List Value → List Tree
    | [] => []
    | v :: vs => ofValue v :: ofItems vs
  ofMembers : List (String × Value) → List (Option String × Tree)
    | [] => []
    | (k, v) :: ms => (some k, ofValue v) :: ofMembers ms

namespace Tree

theorem ofItems_eq_map (items : List Value) : ofValue.ofItems items = items.map ofValue := by
  induction items with
  | nil => rfl
  | cons v vs ih => exact congrArg (ofValue v :: ·) ih

theorem ofMembers_eq_map (members : List (String × Value)) :
    ofValue.ofMembers members = members.map fun (k, v) => (some k, ofValue v) := by
  induction members with
  | nil => rfl
  | cons m ms ih => exact congrArg (_ :: ·) ih

end Tree

/-! ## Reading the text of a value -/

/-- A value that is neither a list nor a mapping, nor a float. -/
theorem reads_scalarChars {v : Value} (hfloat : v.hasFloat = false)
    (hlist : ∀ items, v ≠ .array items) (hmapping : ∀ members, v ≠ .object members) :
    Reads (scalarChars v) (Tree.ofValue v) := by
  cases v with
  | null => exact reads_null
  | bool b =>
      cases b with
      | true => exact reads_true
      | false => exact reads_false
  | int n => exact reads_int n
  | float x => exact nomatch hfloat
  | string s => exact reads_string s
  | array items => exact absurd rfl (hlist items)
  | object members => exact absurd rfl (hmapping members)

theorem reads_compactItems {items : List Value} (hne : items ≠ [])
    (h : ∀ v ∈ items, Reads (compactChars v) (Tree.ofValue v)) :
    ReadsItems (compactChars.compactItems items) (Tree.ofValue.ofItems items) := by
  induction items with
  | nil => exact absurd rfl hne
  | cons v vs ih =>
      obtain ⟨hv, hvs⟩ := List.forall_mem_cons.1 h
      cases vs with
      | nil => exact ReadsItems.last hv allSpace_nil
      | cons w ws => exact ReadsItems.cons hv allSpace_nil (ih (List.cons_ne_nil w ws) hvs)

theorem reads_compactMembers {members : List (String × Value)} (hne : members ≠ [])
    (h : ∀ m ∈ members, Reads (compactChars m.2) (Tree.ofValue m.2)) :
    ReadsMembers (compactChars.compactMembers members) (Tree.ofValue.ofMembers members) := by
  induction members with
  | nil => exact absurd rfl hne
  | cons m ms ih =>
      obtain ⟨k, v⟩ := m
      obtain ⟨hv, hms⟩ := List.forall_mem_cons.1 h
      cases ms with
      | nil => exact ReadsMembers.lastWritten k hv allSpace_nil allSpace_nil
      | cons m' ms => exact ReadsMembers.consWritten k hv allSpace_nil (ih (List.cons_ne_nil m' ms) hms)

/-- The compact text of a value without floats is read as the tree of the value. -/
theorem reads_compactChars {v : Value} (hfloat : v.hasFloat = false) :
    Reads (compactChars v) (Tree.ofValue v) := by
  induction v using Value.induct with
  | null | bool | int | float | string =>
      exact reads_scalarChars hfloat (fun _ => nofun) (fun _ => nofun)
  | array items ih =>
      have hitems := fun v hv => ih v hv (Value.hasFloat_item hfloat hv)
      cases items with
      | nil => exact reads_noItems allSpace_nil
      | cons v vs => exact (reads_compactItems (List.cons_ne_nil v vs) hitems).array
  | object members ih =>
      have hmembers := fun m hm => ih m hm (Value.hasFloat_member hfloat hm)
      cases members with
      | nil => exact reads_noMembers allSpace_nil
      | cons m ms => exact (reads_compactMembers (List.cons_ne_nil m ms) hmembers).object

/-- The compact text of a value without floats is the value's tree. -/
theorem ofText?_compact {v : Value} (hfloat : v.hasFloat = false) :
    ofText? (compact v) = some (Tree.ofValue v) :=
  (reads_compactChars hfloat).ofText?

/-! ## The same with one item a line -/

theorem allSpace_newLine (level : Nat) : AllSpace (newLine level) := by
  intro c hc
  rcases List.mem_cons.1 hc with rfl | hc
  · rfl
  · obtain rfl := List.eq_of_mem_replicate hc
    rfl

theorem reads_indentedItems {level : Nat} {v : Value} {vs : List Value}
    (h : ∀ w ∈ v :: vs, Reads (indentedChars (level + 1) w) (Tree.ofValue w)) :
    ReadsItems (newLine (level + 1) ++ indentedChars (level + 1) v ++
      indentedChars.indentedItems level vs) (Tree.ofValue.ofItems (v :: vs)) := by
  induction vs generalizing v with
  | nil =>
      obtain ⟨hv, -⟩ := List.forall_mem_cons.1 h
      exact ReadsItems.last (hv.append (allSpace_newLine _)) (allSpace_newLine level)
  | cons w ws ih =>
      obtain ⟨hv, hws⟩ := List.forall_mem_cons.1 h
      exact ReadsItems.cons (hv.append (allSpace_newLine _)) allSpace_nil (ih hws)

theorem reads_indentedMembers {level : Nat} {k : String} {v : Value}
    {ms : List (String × Value)}
    (h : ∀ m ∈ (k, v) :: ms, Reads (indentedChars (level + 1) m.2) (Tree.ofValue m.2)) :
    ReadsMembers (newLine (level + 1) ++ stringChars k ++ ':' :: ' ' ::
      indentedChars (level + 1) v ++ indentedChars.indentedMembers level ms)
      (Tree.ofValue.ofMembers ((k, v) :: ms)) := by
  have hblank : AllSpace [' '] := List.forall_mem_singleton.2 rfl
  induction ms generalizing k v with
  | nil =>
      obtain ⟨hv, -⟩ := List.forall_mem_cons.1 h
      exact ReadsMembers.lastWritten k (hv.append hblank) (allSpace_newLine _) (allSpace_newLine level)
  | cons m ms ih =>
      obtain ⟨hv, hms⟩ := List.forall_mem_cons.1 h
      exact ReadsMembers.consWritten k (hv.append hblank) (allSpace_newLine _) (ih hms)

/-- The indented text of a value without floats is read as the tree of the value. -/
theorem reads_indentedChars {v : Value} (hfloat : v.hasFloat = false) (level : Nat) :
    Reads (indentedChars level v) (Tree.ofValue v) := by
  induction v using Value.induct generalizing level with
  | null | bool | int | float | string =>
      exact reads_scalarChars hfloat (fun _ => nofun) (fun _ => nofun)
  | array items ih =>
      have hitems := fun v hv => ih v hv (Value.hasFloat_item hfloat hv) (level + 1)
      cases items with
      | nil => exact reads_noItems allSpace_nil
      | cons v vs => exact (reads_indentedItems hitems).array
  | object members ih =>
      have hmembers := fun m hm => ih m hm (Value.hasFloat_member hfloat hm) (level + 1)
      cases members with
      | nil => exact reads_noMembers allSpace_nil
      | cons m ms => exact (reads_indentedMembers hmembers).object

/-- The indented text of a value without floats is the value's tree. -/
theorem ofText?_indented {v : Value} (hfloat : v.hasFloat = false) :
    ofText? (indented v) = some (Tree.ofValue v) :=
  (reads_indentedChars hfloat 0).ofText?

/-! ## The value of its tree -/

/-- The place of a value that was written, inside so many lists and mappings. -/
def Place.ofValue (v : Value) (level : Nat) : Place := ⟨.ofValue v, level⟩

/-- The members of a mapping that was written, at their places. -/
def Place.ofMembers (members : List (String × Value)) (level : Nat) : List (String × Place) :=
  members.map fun (k, v) => (k, Place.ofValue v level)

theorem Place.items?_ofValue (items : List Value) (level : Nat) :
    (Place.ofValue (.array items) level).items? =
      some (items.map (Place.ofValue · (level + 1))) := by
  show some ((Tree.ofValue.ofItems items).map _) = _
  rw [Tree.ofItems_eq_map, List.map_map]
  rfl

theorem Place.members?_ofValue (members : List (String × Value)) (level : Nat) :
    (Place.ofValue (.object members) level).members? =
      some (Place.ofMembers members (level + 1)) := by
  show (Tree.ofValue.ofMembers members).mapM _ = _
  rw [Tree.ofMembers_eq_map, List.mapM_map]
  exact List.mapM_pure (m := Option)

end Json

end TestCluster
