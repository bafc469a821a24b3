import TestCluster.ClusterConfig
import TestCluster.Proofs.PoolAccounts

/-!
# Pools of consecutive ports — no port but those between 1 and 65535

    A range of ports is given by its first port and their number, both of them words, and it
    may end with the last port there is.  Then the sum of the two is one too large for the
    words of the ports, and so it is computed in wider ones; no port of a range that passes
    the check is too large, and every sum on the way is the sum of the numbers
    (`checkedSequential_eq`).

    As no port stands twice in such a pool, whoever holds a mapping holds it alone, whatever
    was allocated and released before.
-/

namespace TestCluster

/-- A name and valid node ports make a configuration. -/
theorem ClusterConfig.ofOptions_of_valid {name : String} {options : Options} (hname : name ≠ "")
    (hvalid : ∀ p ∈ options.nodePorts, p.IsValid) :
    ofOptions name options = .ok ⟨name, options, hname, hvalid⟩ := by
  rw [ofOptions, dif_neg hname]
  split
  · rename_i port hport
    have hfound := List.find?_some hport
    exact absurd (hvalid port (List.mem_of_find?_eq_some hport)) (of_decide_eq_true hfound)
  · rfl

namespace Pool

variable {first count : UInt16} {pool : Pool} {fault : RangeFault}

/-! ## The sums on the way -/

/-- The sum of two ports, if it fits into a word. -/
def sum16? (a b : UInt16) : Option UInt16 :=
  if a.toNat + b.toNat < UInt16.size then some (a + b) else none

/-- The sum of two wider words, if it fits into one. -/
def sum32? (a b : UInt32) : Option UInt32 :=
  if a.toNat + b.toNat < UInt32.size then some (a + b) else none

theorem sum16?_eq {a b : UInt16} (h : a.toNat + b.toNat < UInt16.size) :
    sum16? a b = some (a + b) := if_pos h

theorem sum32?_eq {a b : UInt32} (h : a.toNat + b.toNat < UInt32.size) :
    sum32? a b = some (a + b) := if_pos h

/-- The mapping at an offset from the first port, if the sums fit. -/
def checkedMapping? (first : UInt16) (offset : Nat) : Option NodePort := do
  let node ← sum16? first (.ofNat offset)
  let host ← sum16? first (.ofNat offset)
  some ⟨node, host⟩

/-- The pool of consecutive ports, where nothing comes of a sum that does not fit. -/
def checkedSequential (first count : UInt16) : Option (Except RangeFault Pool) :=
  if first = 0 then some (.error .startsAtZero)
  else do
    let last ← sum32? first.toUInt32 count.toUInt32
    let limit ← sum32? (65535 : UInt16).toUInt32 1
    if limit < last then some (.error (.pastEnd first count))
    else
      let mappings ← (List.range count.toNat).mapM (checkedMapping? first)
      some (.ok (ofPorts mappings))

/-! ## The check of a range -/

/-- A range of ports that are no ports but those between 1 and 65535. -/
structure IsInside (first count : UInt16) : Prop where
  first_ne : first ≠ 0
  last_le : first.toNat + count.toNat ≤ 65536

/-- The other ranges, each with its fault. -/
inductive IsOutside (first count : UInt16) : RangeFault → Prop where
  | startsAtZero : first = 0 → IsOutside first count .startsAtZero
  | pastEnd : first ≠ 0 → 65536 < first.toNat + count.toNat →
      IsOutside first count (.pastEnd first count)

theorem inside_or_outside (first count : UInt16) :
    IsInside first count ∨ ∃ fault, IsOutside first count fault := by
  by_cases hfirst : first = 0
  · exact Or.inr ⟨_, .startsAtZero hfirst⟩
  · by_cases hlast : first.toNat + count.toNat ≤ 65536
    · exact Or.inl ⟨hfirst, hlast⟩
    · exact Or.inr ⟨_, .pastEnd hfirst (by omega)⟩

/-- The end of a range, computed in the wider words, is the sum of the numbers. -/
theorem toNat_end (first count : UInt16) :
    (first.toUInt32 + count.toUInt32).toNat = first.toNat + count.toNat := by
  have hfirst := first.toNat_lt
  have hcount := count.toNat_lt
  rw [UInt32.toNat_add, UInt16.toNat_toUInt32, UInt16.toNat_toUInt32]
  omega

theorem limit_lt_iff (first count : UInt16) :
    (65535 : UInt16).toUInt32 + 1 < first.toUInt32 + count.toUInt32 ↔
      65536 < first.toNat + count.toNat := by
  rw [UInt32.lt_iff_toNat_lt, toNat_end]
  rfl

/-- The mapping at an offset from the first port. -/
def mappingAt (first : UInt16) (offset : Nat) : NodePort :=
  ⟨first + .ofNat offset, first + .ofNat offset⟩

/-- The mappings of a range. -/
def mappingsFrom (first count : UInt16) : List NodePort :=
  (List.range count.toNat).map (mappingAt first)

theorem sequential_inside (h : IsInside first count) :
    sequential first count = .ok (ofPorts (mappingsFrom first count)) := by
  have hlast := h.last_le
  rw [sequential, if_neg h.first_ne, if_neg ((limit_lt_iff first count).not.2 (by omega))]
  rfl

theorem sequential_outside (h : IsOutside first count fault) :
    sequential first count = .error fault := by
  cases h with
  | startsAtZero hfirst => rw [sequential, if_pos hfirst]
  | pastEnd hfirst hlast =>
      rw [sequential, if_neg hfirst, if_pos ((limit_lt_iff first count).2 hlast)]

theorem sequential_eq_error_iff :
    sequential first count = .error fault ↔ IsOutside first count fault := by
  constructor
  · intro h
    rcases inside_or_outside first count with hin | ⟨fault', hout⟩
    · rw [sequential_inside hin] at h
      cases h
    · rw [sequential_outside hout] at h
      obtain rfl := Except.error.inj h
      exact hout
  · intro h
    exact sequential_outside h

theorem sequential_eq_ok_iff :
    sequential first count = .ok pool ↔
      IsInside first count ∧ pool = ofPorts (mappingsFrom first count) := by
  constructor
  · intro h
    rcases inside_or_outside first count with hin | ⟨fault, hout⟩
    · rw [sequential_inside hin] at h
      exact ⟨hin, (Except.ok.inj h).symm⟩
    · rw [sequential_outside hout] at h
      cases h
  · rintro ⟨hin, rfl⟩
    exact sequential_inside hin

/-! ## The ports of a range -/

section Ports

variable {offset : Nat}

/-- No offset into a range leads past the last port. -/
theorem IsInside.sum_lt (h : IsInside first count) (hoffset : offset < count.toNat) :
    first.toNat + (UInt16.ofNat offset).toNat < UInt16.size ∧
      (UInt16.ofNat offset).toNat = offset := by
  have hlast := h.last_le
  have hcount := count.toNat_lt
  have heq : (UInt16.ofNat offset).toNat = offset := by
    rw [UInt16.toNat_ofNat']
    exact Nat.mod_eq_of_lt (by omega)
  refine ⟨?_, heq⟩
  rw [heq]
  show _ < 65536
  omega

theorem IsInside.toNat_port (h : IsInside first count) (hoffset : offset < count.toNat) :
    (first + .ofNat offset).toNat = first.toNat + offset := by
  obtain ⟨hsum, heq⟩ := h.sum_lt hoffset
  rw [UInt16.toNat_add, Nat.mod_eq_of_lt hsum, heq]

theorem IsInside.mem_mappingsFrom (h : IsInside first count) {p : NodePort}
    (hp : p ∈ mappingsFrom first count) :
    ∃ offset < count.toNat, p.node = p.host ∧ p.node.toNat = first.toNat + offset := by
  obtain ⟨offset, hoffset, rfl⟩ := List.mem_map.1 hp
  have hlt := List.mem_range.1 hoffset
  exact ⟨offset, hlt, rfl, h.toNat_port hlt⟩

/-- The ports of a range as numbers, from the first one on. -/
theorem IsInside.numbers (h : IsInside first count) :
    (mappingsFrom first count).map (fun p => (p.node.toNat, p.host.toNat)) =
      (List.range count.toNat).map fun i => (first.toNat + i, first.toNat + i) := by
  rw [mappingsFrom, List.map_map, List.map_inj_left]
  intro offset hoffset
  have hport := h.toNat_port (List.mem_range.1 hoffset)
  show ((first + .ofNat offset).toNat, (first + .ofNat offset).toNat) = _
  rw [hport]

theorem IsInside.nodup (h : IsInside first count) : (mappingsFrom first count).Nodup := by
  refine List.Nodup.of_map (fun p : NodePort => (p.node.toNat, p.host.toNat)) ?_
  rw [h.numbers]
  refine List.nodup_range.map ?_
  intro i j hij
  have hfst := congrArg Prod.fst hij
  simpa using hfst

theorem IsInside.isValid (h : IsInside first count) {p : NodePort}
    (hp : p ∈ mappingsFrom first count) : p.IsValid := by
  obtain ⟨offset, -, hsame, hnode⟩ := h.mem_mappingsFrom hp
  have hfirst : first.toNat ≠ 0 := by
    intro hzero
    exact h.first_ne (UInt16.toNat_inj.1 hzero)
  have hne : p.node ≠ 0 := by
    intro hzero
    rw [hzero] at hnode
    have : (0 : UInt16).toNat = 0 := rfl
    omega
  exact ⟨hne, hsame ▸ hne⟩

/-! ## The sums fit -/

theorem IsInside.checkedMapping?_eq (h : IsInside first count) (hoffset : offset < count.toNat) :
    checkedMapping? first offset = some (mappingAt first offset) := by
  obtain ⟨hsum, -⟩ := h.sum_lt hoffset
  rw [checkedMapping?, sum16?_eq hsum]
  rfl

theorem IsInside.mapM_checkedMapping? (h : IsInside first count) {offsets : List Nat}
    (hoffsets : ∀ offset ∈ offsets, offset < count.toNat) :
    offsets.mapM (checkedMapping? first) = some (offsets.map (mappingAt first)) := by
  induction offsets with
  | nil => rfl
  | cons offset offsets ih =>
      obtain ⟨hoffset, hrest⟩ := List.forall_mem_cons.1 hoffsets
      rw [List.mapM_cons, h.checkedMapping?_eq hoffset, ih hrest]
      rfl

end Ports

/-- Where every sum has to fit, the same comes out: so each of them does. -/
theorem checkedSequential_eq (first count : UInt16) :
    checkedSequential first count = some (sequential first count) := by
  have hlast : sum32? first.toUInt32 count.toUInt32 = some (first.toUInt32 + count.toUInt32) := by
    have hfirst := first.toNat_lt
    have hcount := count.toNat_lt
    refine sum32?_eq ?_
    rw [UInt16.toNat_toUInt32, UInt16.toNat_toUInt32]
    show _ < 4294967296
    omega
  have hlimit : sum32? (65535 : UInt16).toUInt32 1 = some ((65535 : UInt16).toUInt32 + 1) := by
    decide
  rcases inside_or_outside first count with hin | ⟨fault, hout⟩
  · have hmappings : (List.range count.toNat).mapM (checkedMapping? first) =
        some (mappingsFrom first count) :=
      hin.mapM_checkedMapping? fun _ => List.mem_range.1
    have hend : ¬ 65536 < first.toNat + count.toNat := Nat.not_lt.2 hin.last_le
    rw [sequential_inside hin, checkedSequential, if_neg hin.first_ne, hlast, hlimit, hmappings]
    exact if_neg (mt (limit_lt_iff first count).1 hend)
  · rw [sequential_outside hout, checkedSequential]
    cases hout with
    | startsAtZero hzero => exact if_pos hzero
    | pastEnd hne hpast =>
        rw [if_neg hne, hlast, hlimit]
        exact if_pos ((limit_lt_iff first count).2 hpast)

/-! ## Fresh pools -/

theorem ports_ofPorts (made : List NodePort) : (ofPorts made).ports = made := by
  simp [ofPorts, ports, Function.comp_def]

theorem freePorts_ofPorts (made : List NodePort) : freePorts (ofPorts made).slots = made := by
  simp [ofPorts, freePorts, List.filter_map, Function.comp_def]

theorem heldPorts_ofPorts (made : List NodePort) : heldPorts (ofPorts made).slots = [] := by
  simp [ofPorts, heldPorts, List.filter_map, Function.comp_def]

/-! ## Allocating again and again -/

section Allocations

variable {p : NodePort} {free : List NodePort}

theorem allocate_of_nil (h : freePorts pool.slots = []) : pool.allocate = (none, pool) := by
  cases hfirst : holdFirst pool.slots with
  | none => exact allocate_none hfirst
  | some taken =>
      obtain ⟨p, slots⟩ := taken
      obtain ⟨-, hfree, -⟩ := holdFirst_some hfirst
      rw [h] at hfree
      cases hfree

theorem allocate_of_cons (h : freePorts pool.slots = p :: free) :
    ∃ pool', pool.allocate = (some p, pool') ∧ freePorts pool'.slots = free := by
  cases hfirst : holdFirst pool.slots with
  | none =>
      rw [holdFirst_none hfirst] at h
      cases h
  | some taken =>
      obtain ⟨q, slots⟩ := taken
      obtain ⟨-, hfree, -⟩ := holdFirst_some hfirst
      rw [h] at hfree
      obtain ⟨rfl, rfl⟩ := List.cons.inj hfree
      exact ⟨⟨slots⟩, allocate_some hfirst, rfl⟩

theorem perform_allocate (pool : Pool) (steps : List Step) :
    (pool.perform (.allocate :: steps)).1 =
      .allocated pool.allocate.1 :: (pool.allocate.2.perform steps).1 := rfl

theorem perform_exhausted (h : freePorts pool.slots = []) (n : Nat) :
    (pool.perform (List.replicate n .allocate)).1 = List.replicate n (.allocated none) := by
  induction n with
  | zero => rfl
  | succ n ih => rw [List.replicate_succ, perform_allocate, allocate_of_nil h, ih, List.replicate_succ]

/-- The free mappings are handed out in pool order, and then nothing. -/
theorem perform_allocations (h : freePorts pool.slots = free) (more : Nat) :
    (pool.perform (List.replicate (free.length + more) .allocate)).1 =
      free.map (fun p => .allocated (some p)) ++ List.replicate more (.allocated none) := by
  induction free generalizing pool with
  | nil =>
      rw [List.length_nil, Nat.zero_add]
      exact perform_exhausted h more
  | cons p free ih =>
      obtain ⟨pool', hallocate, hfree⟩ := allocate_of_cons h
      have hlength : (p :: free).length + more = (free.length + more) + 1 := by
        rw [List.length_cons]
        omega
      rw [hlength, List.replicate_succ, perform_allocate, hallocate, ih hfree]
      rfl

end Allocations

/-! ## What a range is good for -/

/-- A pool of the ports from a first one on, as many as are counted. -/
structure IsRange (first count : UInt16) (pool : Pool) : Prop where
  /-- Its mappings are those of the ports in order, each with itself. -/
  numbers : pool.ports.map (fun p => (p.node.toNat, p.host.toNat)) =
    (List.range count.toNat).map fun i => (first.toNat + i, first.toNat + i)
  nodup : pool.ports.Nodup
  valid : ∀ p ∈ pool.ports, p.IsValid
  /-- With any name it makes the ports of a new cluster. -/
  usable : ∀ (name : String) (options : Options), name ≠ "" → options.nodePorts = pool.ports →
    ∃ config, ClusterConfig.ofOptions name options = .ok config ∧
      config.name = name ∧ config.options = options
  /-- It hands them out in order, and then nothing. -/
  handsOut : ∀ more, (pool.perform (List.replicate (count.toNat + more) .allocate)).1 =
    pool.ports.map (fun p => .allocated (some p)) ++ List.replicate more (.allocated none)
  /-- No mapping is out twice at a time, whatever was allocated and released. -/
  alone : ∀ steps p, out p (pool.perform steps).1 ≤ 1
  /-- Mappings that are out at the same time have no port in common. -/
  apart : ∀ steps p q, 0 < out p (pool.perform steps).1 → 0 < out q (pool.perform steps).1 →
    p.node = q.node ∨ p.host = q.host → p = q

/-- Of a fresh pool no mapping is out more often than it stands there. -/
theorem out_le_count (made : List NodePort) (steps : List Step) (p : NodePort) :
    out p ((ofPorts made).perform steps).1 ≤ made.count p := by
  obtain ⟨hports, hcount⟩ := perform_accounts (ofPorts made) steps
  have hmade : ((ofPorts made).perform steps).2.slots.map (·.port) = made :=
    hports.trans (ports_ofPorts made)
  have hslots := count_ports ((ofPorts made).perform steps).2.slots p
  have hheld := hcount p
  rw [hmade] at hslots
  rw [heldPorts_ofPorts, List.count_nil] at hheld
  omega

theorem IsInside.isRange (h : IsInside first count) :
    IsRange first count (ofPorts (mappingsFrom first count)) := by
  have hports := ports_ofPorts (mappingsFrom first count)
  constructor
  · rw [hports]
    exact h.numbers
  · rw [hports]
    exact h.nodup
  · rw [hports]
    intro p hp
    exact h.isValid hp
  · rw [hports]
    intro name options hname hoptions
    have hvalid : ∀ p ∈ options.nodePorts, p.IsValid := by
      rw [hoptions]
      intro p hp
      exact h.isValid hp
    exact ⟨_, ClusterConfig.ofOptions_of_valid hname hvalid, rfl, rfl⟩
  · intro more
    have hlength : (mappingsFrom first count).length = count.toNat := by
      rw [mappingsFrom, List.length_map, List.length_range]
    rw [hports, ← hlength]
    exact perform_allocations (freePorts_ofPorts _) more
  · intro steps p
    have hcount := out_le_count (mappingsFrom first count) steps p
    have hone := List.nodup_iff_count_le_one.1 h.nodup p
    omega
  · intro steps p q hp hq hshared
    have hsame : ∀ r : NodePort, 0 < out r ((ofPorts (mappingsFrom first count)).perform steps).1 →
        r.node = r.host := by
      intro r hr
      have hcount := out_le_count (mappingsFrom first count) steps r
      have hpos : 0 < (mappingsFrom first count).count r := by omega
      obtain ⟨-, -, hsame, -⟩ := h.mem_mappingsFrom (List.count_pos_iff.1 hpos)
      exact hsame
    have hnode : p.node = q.node := by
      rcases hshared with hnode | hhost
      · exact hnode
      · rw [hsame p hp, hsame q hq]
        exact hhost
    have hhost : p.host = q.host := by
      rw [← hsame p hp, ← hsame q hq]
      exact hnode
    cases p
    cases q
    exact congrArg₂ NodePort.mk hnode hhost

/-- **CONSECUTIVE PORTS STAY IN RANGE.**  There is no pool exactly if the range starts at 0 or
    goes past the last port, and no sum that is computed on the way overflows.  Every pool that
    there is has the ports from the first one on; they may be given to any new cluster, are
    handed out in order until none is left, and no two that are out have a port in common. -/
theorem sequential_in_range (first count : UInt16) :
    checkedSequential first count = some (sequential first count) ∧
    ((∃ fault, sequential first count = .error fault) ↔
      first = 0 ∨ 65536 < first.toNat + count.toNat) ∧
    (∀ fault, sequential first count = .error fault ↔ IsOutside first count fault) ∧
    ∀ pool, sequential first count = .ok pool → IsRange first count pool := by
  refine ⟨checkedSequential_eq first count, ?_, fun _ => sequential_eq_error_iff, ?_⟩
  · constructor
    · rintro ⟨fault, h⟩
      cases sequential_eq_error_iff.1 h with
      | startsAtZero hfirst => exact Or.inl hfirst
      | pastEnd _ hlast => exact Or.inr hlast
    · intro hbad
      rcases inside_or_outside first count with hin | ⟨fault, hout⟩
      · rcases hbad with hfirst | hlast
        · exact absurd hfirst hin.first_ne
        · exact absurd hin.last_le (by omega)
      · exact ⟨fault, sequential_outside hout⟩
  · intro pool h
    obtain ⟨hin, rfl⟩ := sequential_eq_ok_iff.1 h
    exact hin.isRange

/-- The last port makes a pool of its own, and is followed by none. -/
example : sequential 65535 1 = .ok (ofPorts [⟨65535, 65535⟩]) ∧
    sequential 65535 2 = .error (.pastEnd 65535 2) := ⟨rfl, rfl⟩

end Pool

end TestCluster
