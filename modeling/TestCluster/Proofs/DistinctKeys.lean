import Mathlib.Data.List.Nodup
import TestCluster.Members

/-!
# Distinct keys — every key of a mapping stands once

    Setting keys one after another gives members with distinct keys, each of them one that was
    set; members whose keys are distinct already stay as they are.
-/

namespace TestCluster.Members

variable {α : Type}

theorem insert_of_not_mem {key : String} {value : α} {members : List (String × α)}
    (h : key ∉ members.map (·.1)) : insert key value members = members ++ [(key, value)] := by
  induction members with
  | nil => rfl
  | cons m members ih =>
      obtain ⟨k, v⟩ := m
      obtain ⟨hk, hkeys⟩ := not_or.1 (mt List.mem_cons.2 h)
      rw [insert, if_neg (Ne.symm hk), ih hkeys]
      rfl

theorem keys_insert_of_mem {key : String} {value : α} {members : List (String × α)}
    (h : key ∈ members.map (·.1)) :
    (insert key value members).map (·.1) = members.map (·.1) := by
  induction members with
  | nil => exact nomatch h
  | cons m members ih =>
      obtain ⟨k, v⟩ := m
      rw [insert]
      by_cases hk : k = key
      · rw [if_pos hk]
        rfl
      · rw [if_neg hk]
        rcases List.mem_cons.1 h with heq | h
        · exact absurd heq.symm hk
        · exact congrArg (k :: ·) (ih h)

theorem nodup_insert {members : List (String × α)} (h : (members.map (·.1)).Nodup) (key : String)
    (value : α) : ((insert key value members).map (·.1)).Nodup := by
  by_cases hkey : key ∈ members.map (·.1)
  · rwa [keys_insert_of_mem hkey]
  · rw [insert_of_not_mem hkey, List.map_append]
    refine List.nodup_append.2 ⟨h, List.nodup_singleton key, ?_⟩
    rintro k hk k' hk' rfl
    obtain rfl : k = key := List.mem_singleton.1 hk'
    exact hkey hk

theorem mem_insert {key : String} {value : α} {members : List (String × α)} {m : String × α}
    (h : m ∈ insert key value members) : m = (key, value) ∨ m ∈ members := by
  induction members with
  | nil => exact Or.inl (List.mem_singleton.1 h)
  | cons m' members ih =>
      obtain ⟨k, v⟩ := m'
      rw [insert] at h
      split at h
      · rename_i hk
        rcases List.mem_cons.1 h with rfl | h
        · exact Or.inl (by rw [hk])
        · exact Or.inr (List.mem_cons_of_mem _ h)
      · rcases List.mem_cons.1 h with rfl | h
        · exact Or.inr List.mem_cons_self
        · exact (ih h).imp_right (List.mem_cons_of_mem _)

theorem nodup_ofList (members : List (String × α)) : ((ofList members).map (·.1)).Nodup := by
  have hfold : ∀ (members seen : List (String × α)), (seen.map (·.1)).Nodup →
      ((members.foldl (fun seen m => insert m.1 m.2 seen) seen).map (·.1)).Nodup := by
    intro members
    induction members with
    | nil => exact fun seen h => h
    | cons m members ih => exact fun seen h => ih _ (nodup_insert h m.1 m.2)
  exact hfold members [] List.nodup_nil

theorem mem_of_mem_ofList {members : List (String × α)} {m : String × α}
    (h : m ∈ ofList members) : m ∈ members := by
  have hfold : ∀ (members seen : List (String × α)),
      m ∈ members.foldl (fun seen m => insert m.1 m.2 seen) seen → m ∈ seen ∨ m ∈ members := by
    intro members
    induction members with
    | nil => exact fun seen h => Or.inl h
    | cons m' members ih =>
        intro seen h
        rcases ih _ h with h | h
        · rcases mem_insert h with rfl | h
          · exact Or.inr List.mem_cons_self
          · exact Or.inl h
        · exact Or.inr (List.mem_cons_of_mem _ h)
  rcases hfold members [] h with h | h
  · cases h
  · exact h

/-- Members with distinct keys stay as they are. -/
theorem ofList_of_nodup {members : List (String × α)} (h : (members.map (·.1)).Nodup) :
    ofList members = members := by
  have hfold : ∀ (members seen : List (String × α)), ((seen ++ members).map (·.1)).Nodup →
      members.foldl (fun seen m => insert m.1 m.2 seen) seen = seen ++ members := by
    intro members
    induction members with
    | nil => exact fun seen _ => (List.append_nil seen).symm
    | cons m members ih =>
        intro seen hseen
        have hkey : m.1 ∉ seen.map (·.1) := by
          intro hmem
          rw [List.map_append] at hseen
          exact (List.nodup_append.1 hseen).2.2 _ hmem _ List.mem_cons_self rfl
        rw [List.foldl_cons]
        show members.foldl _ (insert m.1 m.2 seen) = _
        rw [insert_of_not_mem hkey, ih, List.append_assoc]
        · rfl
        · rwa [List.append_assoc, List.singleton_append]
  exact hfold members [] h

end TestCluster.Members
