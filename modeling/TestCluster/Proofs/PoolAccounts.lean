import Mathlib.Algebra.BigOperators.Ring.Finset
import TestCluster.Pool

/-!
# The accounts of a pool — what is out, whatever order it is taken and given back in

    Slots are taken by their place and given back by their mapping, so with a mapping that
    stands in several slots another slot may be freed than the one that was taken.  What is
    kept is therefore not which slots are held, but how often each mapping is held
    (`heldPorts`): an allocation adds one to the count of the mapping that it gives, a
    release that succeeds takes one off, and nothing else changes.
-/

namespace TestCluster

namespace Pool

/-! ## Held and free mappings of a row of slots -/

/-- The mappings of the held slots of a row, in order. -/
def heldPorts (slots : List Slot) : List NodePort := (slots.filter (·.held)).map (·.port)

/-- The mappings of the free slots of a row, in order. -/
def freePorts (slots : List Slot) : List NodePort := (slots.filter (!·.held)).map (·.port)

theorem heldPorts_cons (slot : Slot) (slots : List Slot) :
    heldPorts (slot :: slots)
      = if slot.held then slot.port :: heldPorts slots else heldPorts slots := by
  simp only [heldPorts]
  cases h : slot.held with
  | true => simp [h]
  | false => simp [h]

theorem freePorts_cons (slot : Slot) (slots : List Slot) :
    freePorts (slot :: slots)
      = if slot.held then freePorts slots else slot.port :: freePorts slots := by
  simp only [freePorts]
  cases h : slot.held with
  | true => simp [h]
  | false => simp [h]

/-- Every mapping of a row stands in a held or in a free slot. -/
theorem count_ports (slots : List Slot) (p : NodePort) :
    (slots.map (·.port)).count p = (heldPorts slots).count p + (freePorts slots).count p := by
  induction slots with
  | nil => rfl
  | cons slot slots ih =>
      rw [heldPorts_cons, freePorts_cons, List.map_cons, List.count_cons, ih]
      cases slot.held with
      | true => simp only [if_true, List.count_cons]; omega
      | false => simp only [Bool.false_eq_true, if_false, List.count_cons]; omega

theorem freePorts_sublist (slots : List Slot) :
    (freePorts slots).Sublist (slots.map (·.port)) :=
  List.filter_sublist.map _

theorem length_slots (slots : List Slot) :
    slots.length = (heldPorts slots).length + (freePorts slots).length := by
  induction slots with
  | nil => rfl
  | cons slot slots ih =>
      rw [heldPorts_cons, freePorts_cons, List.length_cons, ih]
      cases slot.held with
      | true => simp only [if_true, List.length_cons]; omega
      | false => simp only [Bool.false_eq_true, if_false, List.length_cons]; omega

theorem mem_ports_of_mem_heldPorts {slots : List Slot} {p : NodePort}
    (h : p ∈ heldPorts slots) : p ∈ slots.map (·.port) := by
  have := count_ports slots p
  have := List.count_pos_iff.2 h
  exact List.count_pos_iff.1 (by omega)

/-! ## One operation -/

/-- Holding the first free slot adds its mapping to those that are held, and takes it off the
    front of those that are free. -/
theorem holdFirst_some {slots slots' : List Slot} {p : NodePort}
    (h : holdFirst slots = some (p, slots')) :
    slots'.map (·.port) = slots.map (·.port) ∧ freePorts slots = p :: freePorts slots' ∧
      ∀ q, (heldPorts slots').count q = (heldPorts slots).count q + if q = p then 1 else 0 := by
  induction slots generalizing slots' with
  | nil => exact nomatch h
  | cons slot slots ih =>
      rw [holdFirst] at h
      cases hheld : slot.held with
      | true =>
          rw [if_pos hheld] at h
          obtain ⟨⟨p', rest⟩, hrest, heq⟩ := Option.map_eq_some_iff.1 h
          obtain ⟨rfl, rfl⟩ := Prod.mk.inj heq
          obtain ⟨hports, hfree, hcount⟩ := ih hrest
          refine ⟨by simp [hports], ?_, ?_⟩
          · rw [freePorts_cons, freePorts_cons, if_pos hheld, if_pos hheld, hfree]
          · intro q
            rw [heldPorts_cons, heldPorts_cons, if_pos hheld, if_pos hheld, List.count_cons,
              List.count_cons, hcount q]
            omega
      | false =>
          rw [if_neg (by simp [hheld])] at h
          obtain ⟨rfl, rfl⟩ := Prod.mk.inj (Option.some.inj h)
          refine ⟨rfl, ?_, ?_⟩
          · rw [freePorts_cons, freePorts_cons, hheld]
            rfl
          · intro q
            rw [heldPorts_cons, heldPorts_cons, hheld]
            simp only [if_true, Bool.false_eq_true, if_false, List.count_cons, beq_iff_eq]
            simp only [eq_comm]

theorem holdFirst_none {slots : List Slot} (h : holdFirst slots = none) :
    freePorts slots = [] := by
  induction slots with
  | nil => rfl
  | cons slot slots ih =>
      rw [holdFirst] at h
      cases hheld : slot.held with
      | true =>
          rw [if_pos hheld] at h
          rw [freePorts_cons, if_pos hheld]
          exact ih (Option.map_eq_none_iff.1 h)
      | false =>
          rw [if_neg (by simp [hheld])] at h
          exact nomatch h

/-- Freeing the first held slot with a mapping takes that mapping off those that are held. -/
theorem freeFirst_some {slots slots' : List Slot} {p : NodePort}
    (h : freeFirst p slots = some slots') :
    slots'.map (·.port) = slots.map (·.port) ∧
      ∀ q, (heldPorts slots).count q = (heldPorts slots').count q + if q = p then 1 else 0 := by
  induction slots generalizing slots' with
  | nil => exact nomatch h
  | cons slot slots ih =>
      rw [freeFirst] at h
      by_cases hslot : slot.held ∧ slot.port = p
      · rw [if_pos hslot] at h
        obtain rfl := Option.some.inj h
        refine ⟨rfl, ?_⟩
        intro q
        rw [heldPorts_cons, heldPorts_cons, if_pos hslot.1, hslot.2]
        simp only [Bool.false_eq_true, if_false, List.count_cons, beq_iff_eq]
        simp only [eq_comm]
      · rw [if_neg hslot] at h
        obtain ⟨rest, hrest, rfl⟩ := Option.map_eq_some_iff.1 h
        obtain ⟨hports, hcount⟩ := ih hrest
        refine ⟨by simp [hports], ?_⟩
        intro q
        rw [heldPorts_cons, heldPorts_cons]
        cases slot.held with
        | true =>
            simp only [if_true, List.count_cons, hcount q]
            omega
        | false => exact hcount q

theorem freeFirst_none {slots : List Slot} {p : NodePort} (h : freeFirst p slots = none) :
    p ∉ heldPorts slots := by
  induction slots with
  | nil => exact List.not_mem_nil
  | cons slot slots ih =>
      rw [freeFirst] at h
      by_cases hslot : slot.held ∧ slot.port = p
      · rw [if_pos hslot] at h
        exact nomatch h
      · rw [if_neg hslot] at h
        -- neither this slot nor one after it is held with the mapping
        have hrest := ih (Option.map_eq_none_iff.1 h)
        rw [heldPorts_cons]
        cases hheld : slot.held with
        | true =>
            rw [if_pos rfl]
            intro hmem
            rcases List.mem_cons.1 hmem with hp | hp
            · exact hslot ⟨hheld, hp.symm⟩
            · exact hrest hp
        | false => exact hrest

theorem allocate_some {pool : Pool} {p : NodePort} {slots : List Slot}
    (h : holdFirst pool.slots = some (p, slots)) : pool.allocate = (some p, ⟨slots⟩) := by
  rw [allocate]
  rw [h]

theorem allocate_none {pool : Pool} (h : holdFirst pool.slots = none) :
    pool.allocate = (none, pool) := by
  rw [allocate]
  rw [h]

theorem release_some {pool : Pool} {p : NodePort} {slots : List Slot}
    (h : freeFirst p pool.slots = some slots) : pool.release p = (true, ⟨slots⟩) := by
  rw [release]
  rw [h]

theorem release_none {pool : Pool} {p : NodePort} (h : freeFirst p pool.slots = none) :
    pool.release p = (false, pool) := by
  rw [release]
  rw [h]

/-- Allocating until nothing is free gives the free mappings, in pool order. -/
theorem allocateUpTo_eq {n : Nat} {pool : Pool} (h : (freePorts pool.slots).length < n) :
    (allocateUpTo n pool).1 = freePorts pool.slots := by
  induction n generalizing pool with
  | zero => omega
  | succ n ih =>
      rw [allocateUpTo]
      cases hfirst : holdFirst pool.slots with
      | none =>
          rw [allocate_none hfirst]
          exact (holdFirst_none hfirst).symm
      | some taken =>
          obtain ⟨p, slots⟩ := taken
          -- the first free mapping is taken, and by induction the rest in pool order
          obtain ⟨-, hfree, -⟩ := holdFirst_some hfirst
          rw [hfree, List.length_cons] at h
          have hrest : (allocateUpTo n ⟨slots⟩).1 = freePorts slots :=
            ih (Nat.succ_lt_succ_iff.1 h)
          rw [allocate_some hfirst, hfree]
          exact congrArg (p :: ·) hrest

theorem drain_eq (pool : Pool) : pool.drain.1 = freePorts pool.slots := by
  refine allocateUpTo_eq ?_
  have := length_slots pool.slots
  show _ < pool.slots.length + 1
  omega

/-! ## Runs -/

/-- One use of a pool. -/
inductive Step
  | allocate
  | release (port : NodePort)
  deriving DecidableEq, Repr

/-- What came of one use of a pool. -/
inductive Outcome
  | allocated (port : Option NodePort)
  | released (port : NodePort) (wasHeld : Bool)
  deriving DecidableEq, Repr

/-- Uses a pool once. -/
def step (pool : Pool) : Step → Outcome × Pool
  | .allocate => (.allocated pool.allocate.1, pool.allocate.2)
  | .release port => (.released port (pool.release port).1, (pool.release port).2)

/-- Uses a pool again and again. -/
def perform (pool : Pool) : List Step → List Outcome × Pool
  | [] => ([], pool)
  | s :: steps =>
    let (outcome, pool) := pool.step s
    let (outcomes, pool) := pool.perform steps
    (outcome :: outcomes, pool)

/-- How often a mapping is out: how often it was given, less how often it was taken back. -/
def out (p : NodePort) (outcomes : List Outcome) : Int :=
  outcomes.count (.allocated (some p)) - outcomes.count (.released p true)

theorem out_cons (p : NodePort) (outcome : Outcome) (outcomes : List Outcome) :
    out p (outcome :: outcomes) = out p [outcome] + out p outcomes := by
  simp only [out]
  simp only [List.count_cons, List.count_nil]
  omega

theorem out_allocated (p q : NodePort) :
    out p [.allocated (some q)] = if p = q then 1 else 0 := by
  by_cases hp : p = q
  · subst hp
    simp [out]
  · have hq : ¬ q = p := fun h => hp h.symm
    simp [out, hp, hq]

theorem out_released (p q : NodePort) :
    out p [.released q true] = -if p = q then 1 else 0 := by
  by_cases hp : p = q
  · subst hp
    simp [out]
  · have hq : ¬ q = p := fun h => hp h.symm
    simp [out, hp, hq]

/-- One use keeps the mappings, and changes how often a mapping is held by what is out of it
    by that use. -/
theorem step_accounts (pool : Pool) (s : Step) :
    (pool.step s).2.ports = pool.ports ∧
      ∀ p, ((heldPorts (pool.step s).2.slots).count p : Int)
        = (heldPorts pool.slots).count p + out p [(pool.step s).1] := by
  cases s with
  | allocate =>
      show pool.allocate.2.ports = _ ∧ ∀ p, ((heldPorts pool.allocate.2.slots).count p : Int)
        = _ + out p [.allocated pool.allocate.1]
      cases hfirst : holdFirst pool.slots with
      | none =>
          rw [allocate_none hfirst]
          exact ⟨rfl, fun p => by simp [out]⟩
      | some taken =>
          obtain ⟨q, slots⟩ := taken
          obtain ⟨hports, -, hcount⟩ := holdFirst_some hfirst
          rw [allocate_some hfirst]
          refine ⟨hports, ?_⟩
          intro p
          rw [hcount p, out_allocated]
          push_cast
          rfl
  | release q =>
      show (pool.release q).2.ports = _ ∧
        ∀ p, ((heldPorts (pool.release q).2.slots).count p : Int)
          = _ + out p [.released q (pool.release q).1]
      cases hfirst : freeFirst q pool.slots with
      | none =>
          rw [release_none hfirst]
          exact ⟨rfl, fun p => by simp [out]⟩
      | some slots =>
          obtain ⟨hports, hcount⟩ := freeFirst_some hfirst
          rw [release_some hfirst]
          refine ⟨hports, ?_⟩
          intro p
          rw [hcount p, out_released]
          push_cast
          omega

/-- A run keeps the mappings, and changes how often a mapping is held by what is out of it. -/
theorem perform_accounts (pool : Pool) (steps : List Step) :
    (pool.perform steps).2.ports = pool.ports ∧
      ∀ p, ((heldPorts (pool.perform steps).2.slots).count p : Int)
        = (heldPorts pool.slots).count p + out p (pool.perform steps).1 := by
  induction steps generalizing pool with
  | nil => exact ⟨rfl, fun p => by simp [perform, out]⟩
  | cons s steps ih =>
      obtain ⟨hports, hcount⟩ := ih (pool.step s).2
      obtain ⟨hports₁, hcount₁⟩ := pool.step_accounts s
      refine ⟨hports.trans hports₁, ?_⟩
      intro p
      show ((heldPorts ((pool.step s).2.perform steps).2.slots).count p : Int)
        = _ + out p ((pool.step s).1 :: ((pool.step s).2.perform steps).1)
      rw [hcount p, hcount₁ p]
      have hout := out_cons p (pool.step s).1 ((pool.step s).2.perform steps).1
      omega

/-! ## What a run leaves -/

/-- The accounts of a pool made of some mappings, of each of which a number is out. -/
structure Accounts (made : List NodePort) (out : NodePort → Int) (pool : Pool) : Prop where
  /-- No mapping is out less often than never, or more often than it was there. -/
  bounds : ∀ p, 0 ≤ out p ∧ out p ≤ made.count p
  /-- A mapping can be given back exactly while it is out; otherwise nothing changes. -/
  release : ∀ p, if 0 < out p then (pool.release p).1 = true else pool.release p = (false, pool)
  /-- Nothing can be taken exactly when as many are out as there are. -/
  exhausted : pool.allocate.1 = none ↔ ∑ p ∈ made.toFinset, out p = pool.size
  available : (pool.available : Int) = pool.size - ∑ p ∈ made.toFinset, out p
  ports : pool.ports = made
  size : pool.size = made.length
  isEmpty : pool.isEmpty = made.isEmpty
  /-- What can still be taken is taken in pool order. -/
  drain_order : pool.drain.1.Sublist pool.ports
  /-- Each mapping can still be taken as often as it is not out. -/
  drain_count : ∀ p, (pool.drain.1.count p : Int) = made.count p - out p

theorem available_eq (pool : Pool) : pool.available = (freePorts pool.slots).length := by
  rw [available, freePorts]
  rw [List.length_map, List.countP_eq_length_filter]

/-- A mapping that is held can be given back, and no other one. -/
theorem release_held (pool : Pool) (p : NodePort) :
    if p ∈ heldPorts pool.slots then (pool.release p).1 = true
      else pool.release p = (false, pool) := by
  cases hfirst : freeFirst p pool.slots with
  | none =>
      rw [if_neg (freeFirst_none hfirst)]
      exact release_none hfirst
  | some slots =>
      obtain ⟨-, hcount⟩ := freeFirst_some hfirst
      have hp := hcount p
      rw [if_pos rfl] at hp
      rw [if_pos (List.count_pos_iff.1 (by omega)), release_some hfirst]

theorem allocate_eq_none_iff (pool : Pool) :
    pool.allocate.1 = none ↔ freePorts pool.slots = [] := by
  cases hfirst : holdFirst pool.slots with
  | none =>
      rw [allocate_none hfirst]
      exact ⟨fun _ => holdFirst_none hfirst, fun _ => rfl⟩
  | some taken =>
      obtain ⟨p, slots⟩ := taken
      obtain ⟨-, hfree, -⟩ := holdFirst_some hfirst
      rw [allocate_some hfirst, hfree]
      exact ⟨nofun, nofun⟩

/-- The accounts are those of how often each mapping is held. -/
theorem accounts_of_held {made : List NodePort} {out : NodePort → Int} {pool : Pool}
    (hports : pool.ports = made)
    (hout : ∀ p, out p = (heldPorts pool.slots).count p) : Accounts made out pool := by
  have hcount : ∀ p, made.count p
      = (heldPorts pool.slots).count p + (freePorts pool.slots).count p := by
    intro p
    rw [← hports]
    exact count_ports pool.slots p
  have hlength : pool.size = (heldPorts pool.slots).length + (freePorts pool.slots).length :=
    length_slots pool.slots
  -- what is held was made, so no mapping that is out is missed by the sum
  have hsum : ∑ p ∈ made.toFinset, out p = (heldPorts pool.slots).length := by
    have hmem : ∀ p ∈ (heldPorts pool.slots : Multiset NodePort), p ∈ made.toFinset := by
      intro p hp
      rw [List.mem_toFinset, ← hports]
      exact mem_ports_of_mem_heldPorts (Multiset.mem_coe.1 hp)
    have hcard := Multiset.sum_count_eq_card hmem
    simp only [Multiset.coe_count, Multiset.coe_card] at hcard
    simp only [hout]
    rw [← Nat.cast_sum, hcard]
  have hsize : pool.size = made.length := by
    rw [← hports]
    exact (List.length_map _).symm
  refine ⟨?_, ?_, ?_, ?_, hports, hsize, ?_, ?_, ?_⟩
  · intro p
    have := hout p
    have := hcount p
    omega
  · intro p
    have hheld := release_held pool p
    by_cases hp : p ∈ heldPorts pool.slots
    · have hpos := List.count_pos_iff.2 hp
      have := hout p
      rw [if_pos hp] at hheld
      rw [if_pos (by omega)]
      exact hheld
    · have hzero := List.count_eq_zero.2 hp
      have := hout p
      rw [if_neg hp] at hheld
      rw [if_neg (by omega)]
      exact hheld
  · rw [allocate_eq_none_iff, hsum, ← List.length_eq_zero_iff]
    omega
  · rw [available_eq, hsum]
    omega
  · rw [isEmpty]
    rw [hsize]
    cases made with
    | nil => rfl
    | cons p made => rfl
  · rw [drain_eq]
    exact freePorts_sublist pool.slots
  · intro p
    rw [drain_eq, hout p, hcount p]
    omega

/-- **WHATEVER WAS DONE**: after every run of allocations and releases, on a pool made of any
    mappings, the accounts are those of what is out. -/
theorem accounts_perform (made : List NodePort) (steps : List Step) :
    Accounts made (out · ((ofPorts made).perform steps).1) ((ofPorts made).perform steps).2 := by
  obtain ⟨hports, hcount⟩ := perform_accounts (ofPorts made) steps
  have hmade : (ofPorts made).ports = made := by
    simp [ofPorts, ports, Function.comp_def]
  have hfresh : heldPorts (ofPorts made).slots = [] := by
    simp [ofPorts, heldPorts, List.filter_map, Function.comp_def]
  refine accounts_of_held (hports.trans hmade) ?_
  intro p
  rw [hcount p, hfresh]
  simp

end Pool

end TestCluster
