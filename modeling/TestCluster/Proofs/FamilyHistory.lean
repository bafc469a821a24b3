import Mathlib.Data.Finset.Card
import Mathlib.Data.List.GetD
import Mathlib.Logic.Function.Basic
import TestCluster.Proofs.ApplyOrder
import TestCluster.Resource.Clients

/-!
# The memories of families — what is remembered follows from what was done

    Clients that are copies of one another share one memory.  This module says what such a
    memory is without saying how it is kept: a family has a history of deeds (`Deed`), which
    are the mappings that it found or registered and the times when it forgot them all.  A
    kind is asked about exactly when the history since the last forgetting has no mapping
    under its key (`lastKept`), and as many mappings are remembered as that history has
    different keys (`keptKeys`).

    `Histories` has one history for every family, and `Histories.Steps` is all that a step of
    a client can do to them.  The main theorem takes any row of steps of any clients, each
    answered by a server of its own, and tells it as a row of such steps.
-/

namespace TestCluster

/-! ## Deeds -/

/-- What a family does that bears on its memory. -/
inductive Deed
  /-- A mapping was found by a discovery, or registered. -/
  | kept (key : MappingKey) (mapping : Mapping)
  /-- All mappings were forgotten. -/
  | forgot

/-- The mapping that was kept last under a key, since all were forgotten.  The latest deed
    stands first. -/
def lastKept (key : MappingKey) : List Deed → Option Mapping
  | [] => none
  | .forgot :: _ => none
  | .kept key' mapping :: deeds => if key' = key then some mapping else lastKept key deeds

/-- The keys under which mappings were kept, since all were forgotten. -/
def keptKeys : List Deed → Finset MappingKey
  | [] => ∅
  | .forgot :: _ => ∅
  | .kept key _ :: deeds => insert key (keptKeys deeds)

/-- The memory that deeds leave. -/
def memoryOf : List Deed → Mappings
  | [] => {}
  | .forgot :: _ => {}
  | .kept key mapping :: deeds => (memoryOf deeds).insert key mapping

namespace Mappings

theorem lookup_filter_ne {entries : List (MappingKey × Mapping)} {key key' : MappingKey}
    (h : key' ≠ key) : (entries.filter (·.1 != key)).lookup key' = entries.lookup key' := by
  induction entries with
  | nil => rfl
  | cons entry entries ih =>
      obtain ⟨k, mapping⟩ := entry
      by_cases hk : k = key
      -- an entry that is dropped is under another key than the one looked up
      · subst hk
        have hne : (key' == k) = false := beq_eq_false_iff_ne.2 h
        simp [List.lookup_cons, hne, ih]
      · simp [List.lookup_cons, hk, ih]

theorem get?_insert (m : Mappings) (key key' : MappingKey) (mapping : Mapping) :
    (m.insert key mapping).get? key' = if key = key' then some mapping else m.get? key' := by
  show ((key, mapping) :: m.entries.filter (·.1 != key)).lookup key' = _
  by_cases h : key = key'
  · subst h
    simp
  · have hne : (key' == key) = false := beq_eq_false_iff_ne.2 (Ne.symm h)
    rw [if_neg h, List.lookup_cons, hne]
    exact lookup_filter_ne (Ne.symm h)

/-- The keys of a memory, one for each of its mappings. -/
def keys (m : Mappings) : List MappingKey := m.entries.map (·.1)

theorem keys_insert (m : Mappings) (key : MappingKey) (mapping : Mapping) :
    (m.insert key mapping).keys = key :: m.keys.filter (· != key) := by
  show key :: (m.entries.filter (·.1 != key)).map (·.1) = key :: (m.entries.map (·.1)).filter _
  rw [List.filter_map]
  rfl

end Mappings

theorem get?_memoryOf (deeds : List Deed) (key : MappingKey) :
    (memoryOf deeds).get? key = lastKept key deeds := by
  induction deeds with
  | nil => rfl
  | cons deed deeds ih =>
      cases deed with
      | forgot => rfl
      | kept key' mapping =>
          show ((memoryOf deeds).insert key' mapping).get? key = _
          rw [Mappings.get?_insert, ih, lastKept]

theorem nodup_keys_memoryOf (deeds : List Deed) : (memoryOf deeds).keys.Nodup := by
  induction deeds with
  | nil => exact List.nodup_nil
  | cons deed deeds ih =>
      cases deed with
      | forgot => exact List.nodup_nil
      | kept key mapping =>
          show ((memoryOf deeds).insert key mapping).keys.Nodup
          rw [Mappings.keys_insert]
          exact List.nodup_cons.2 ⟨by simp, ih.filter _⟩

theorem toFinset_keys_memoryOf (deeds : List Deed) :
    (memoryOf deeds).keys.toFinset = keptKeys deeds := by
  induction deeds with
  | nil => rfl
  | cons deed deeds ih =>
      cases deed with
      | forgot => rfl
      | kept key mapping =>
          show ((memoryOf deeds).insert key mapping).keys.toFinset = insert key (keptKeys deeds)
          rw [Mappings.keys_insert, ← ih]
          ext other
          by_cases h : other = key
          · simp [h]
          · simp [h]

/-- A memory has as many mappings as different keys were kept. -/
theorem size_memoryOf (deeds : List Deed) : (memoryOf deeds).size = (keptKeys deeds).card := by
  rw [← toFinset_keys_memoryOf, List.toFinset_card_of_nodup (nodup_keys_memoryOf deeds)]
  exact (List.length_map ..).symm

/-! ## One look-up, and one object after another -/

/-- A look-up of a kind by a family with a history.  What was kept last under the kind's key
    is given, and nothing is asked.  If nothing was kept, the server is asked once, or not at
    all if the path is no address; only what is found is kept. -/
inductive Consulted (deeds : List Deed) (kind : GroupVersionKind) :
    List (Event Api.exchange) → Except ApiFault Mapping → List Deed → Prop where
  | recalled {mapping : Mapping} :
      lastKept kind.mappingKey deeds = some mapping →
      Consulted deeds kind [] (.ok mapping) deeds
  | unaddressed {fault : Api.AddressFault} :
      lastKept kind.mappingKey deeds = none → discoveryTarget kind = .error fault →
      Consulted deeds kind [] (.error (.address fault)) deeds
  | refused {target : Api.Target} {answer : Except OsError Api.Reply} {fault : ApiFault} :
      lastKept kind.mappingKey deeds = none → discoveryTarget kind = .ok target →
      discovered kind answer = .error fault →
      Consulted deeds kind [⟨.get target, answer⟩] (.error fault) deeds
  | found {target : Api.Target} {answer : Except OsError Api.Reply} {mapping : Mapping} :
      lastKept kind.mappingKey deeds = none → discoveryTarget kind = .ok target →
      discovered kind answer = .ok mapping →
      Consulted deeds kind [⟨.get target, answer⟩] (.ok mapping)
        (.kept kind.mappingKey mapping :: deeds)

/-- An object of a known mapping is sent by one patch, or by none if its path is no address. -/
inductive Sent (o : Object) (mapping : Mapping) :
    List (Event Api.exchange) → Except ApiFault Object → Prop where
  | unaddressed {fault : Api.AddressFault} :
      patchTarget o mapping = .error fault → Sent o mapping [] (.error (.address fault))
  | answered {target : Api.Target} (answer : Except OsError Api.Reply) :
      patchTarget o mapping = .ok target →
      Sent o mapping [⟨patchRequest o mapping target, answer⟩] (storedObject answer)

/-- The turn of an object.  What its kind's look-up kept stays kept, whatever comes of the
    patch. -/
inductive Turned (deeds : List Deed) (index : Nat) (o : Object) :
    List (Event Api.exchange) → Except Error Object → List Deed → Prop where
  | untyped : o.types = none → Turned deeds index o [] (.error (.decode index .missingTypes)) deeds
  | unknown {types : Types} {asked : List (Event Api.exchange)} {fault : ApiFault}
      {deeds' : List Deed} :
      o.types = some types → Consulted deeds types.groupVersionKind asked (.error fault) deeds' →
      Turned deeds index o asked (.error (.unknownKind types.namedVersion types.kind fault)) deeds'
  | sent {types : Types} {asked events : List (Event Api.exchange)} {mapping : Mapping}
      {stored : Except ApiFault Object} {deeds' : List Deed} :
      o.types = some types → Consulted deeds types.groupVersionKind asked (.ok mapping) deeds' →
      Sent o mapping events stored →
      Turned deeds index o (asked ++ events) (stored.mapError (.apply types.kind o.name)) deeds'

/-- The turns of objects one after another, each with the deeds that the one before it left,
    up to the first that fails. -/
inductive Applied : List Deed → Nat → List Object → List (Event Api.exchange) →
    Except Error (List Object) → List Deed → Prop where
  | all {deeds : List Deed} {index : Nat} : Applied deeds index [] [] (.ok []) deeds
  | stopped {deeds deeds' : List Deed} {index : Nat} {o : Object} {objects : List Object}
      {events : List (Event Api.exchange)} {e : Error} :
      Turned deeds index o events (.error e) deeds' →
      Applied deeds index (o :: objects) events (.error e) deeds'
  | next {deeds deeds₁ deeds₂ : List Deed} {index : Nat} {o stored : Object}
      {objects : List Object} {events more : List (Event Api.exchange)}
      {r : Except Error (List Object)} :
      Turned deeds index o events (.ok stored) deeds₁ →
      Applied deeds₁ (index + 1) objects more r deeds₂ →
      Applied deeds index (o :: objects) (events ++ more) (r.map (stored :: ·)) deeds₂

/-- A look-up with the memory that deeds left goes as the deeds say. -/
theorem consulted_of_lookedUp {deeds : List Deed} {kind : GroupVersionKind}
    {events : List (Event Api.exchange)} {found : Except ApiFault Mapping} {m : Mappings}
    (h : LookedUp (memoryOf deeds) kind events found m) :
    ∃ deeds', Consulted deeds kind events found deeds' ∧ m = memoryOf deeds' := by
  cases h with
  | remembered hm =>
      rw [get?_memoryOf] at hm
      exact ⟨deeds, .recalled hm, rfl⟩
  | unaddressed hm ht =>
      rw [get?_memoryOf] at hm
      exact ⟨deeds, .unaddressed hm ht, rfl⟩
  | refused hm ht hd =>
      rw [get?_memoryOf] at hm
      exact ⟨deeds, .refused hm ht hd, rfl⟩
  | found hm ht hd =>
      rw [get?_memoryOf] at hm
      exact ⟨_, .found hm ht hd, rfl⟩

theorem turned_of_patched {deeds : List Deed} {o stored : Object}
    {events : List (Event Api.exchange)} {m : Mappings}
    (h : Patched (memoryOf deeds) o events stored m) (index : Nat) :
    ∃ deeds', Turned deeds index o events (.ok stored) deeds' ∧ m = memoryOf deeds' := by
  cases h with
  | @intro types asked mapping _ target answer _ htypes hl ht hanswer =>
      obtain ⟨deeds', hc, rfl⟩ := consulted_of_lookedUp hl
      have hsent : Sent o mapping [⟨patchRequest o mapping target, answer⟩] (storedObject answer) :=
        .answered answer ht
      rw [hanswer] at hsent
      exact ⟨deeds', .sent htypes hc hsent, rfl⟩

theorem turned_of_failed {deeds : List Deed} {index : Nat} {o : Object}
    {events : List (Event Api.exchange)} {e : Error} {m : Mappings}
    (h : Failed (memoryOf deeds) index o events e m) :
    ∃ deeds', Turned deeds index o events (.error e) deeds' ∧ m = memoryOf deeds' := by
  cases h with
  | untyped htypes => exact ⟨deeds, .untyped htypes, rfl⟩
  | unknown htypes hl =>
      obtain ⟨deeds', hc, rfl⟩ := consulted_of_lookedUp hl
      exact ⟨deeds', .unknown htypes hc, rfl⟩
  | unaddressed htypes hl ht =>
      obtain ⟨deeds', hc, rfl⟩ := consulted_of_lookedUp hl
      refine ⟨deeds', ?_, rfl⟩
      rw [← List.append_nil events]
      exact .sent htypes hc (.unaddressed ht)
  | @refused types asked mapping _ target answer fault htypes hl ht hanswer =>
      obtain ⟨deeds', hc, rfl⟩ := consulted_of_lookedUp hl
      have hsent : Sent o mapping [⟨patchRequest o mapping target, answer⟩] (storedObject answer) :=
        .answered answer ht
      rw [hanswer] at hsent
      exact ⟨deeds', .sent htypes hc hsent, rfl⟩

/-- Objects that take their turns in order leave the memory of the deeds of those turns. -/
theorem applied_of_inOrder {deeds : List Deed} {index : Nat} {objects : List Object}
    {events : List (Event Api.exchange)} {r : Except Error (List Object) × Mappings}
    (h : InOrder (memoryOf deeds) index objects events r) :
    ∃ deeds', Applied deeds index objects events r.1 deeds' ∧ r.2 = memoryOf deeds' := by
  cases h with
  | all turns hobjects hturns =>
      subst hobjects
      induction turns generalizing deeds index with
      | nil =>
          cases hturns
          exact ⟨deeds, .all, rfl⟩
      | cons turn turns ih =>
          cases hturns with
          | cons hturn hturns =>
              obtain ⟨deeds₁, hturned, rfl⟩ := turned_of_patched hturn index
              obtain ⟨deeds₂, happlied, hm⟩ := ih hturns
              exact ⟨deeds₂, .next hturned happlied, hm⟩
  | stopped turns hobjects hturns hfailed =>
      subst hobjects
      induction turns generalizing deeds index with
      | nil =>
          cases hturns
          obtain ⟨deeds', hturned, hm⟩ := turned_of_failed hfailed
          exact ⟨deeds', .stopped hturned, hm⟩
      | cons turn turns ih =>
          cases hturns with
          | cons hturn hturns =>
              obtain ⟨deeds₁, hturned, rfl⟩ := turned_of_patched hturn index
              rw [List.length_cons, show index + (turns.length + 1) = index + 1 + turns.length by
                omega] at hfailed
              obtain ⟨deeds₂, happlied, hm⟩ := ih hturns hfailed
              rw [List.flatMap_cons, List.append_assoc]
              exact ⟨deeds₂, .next hturned happlied, hm⟩

/-! ## The histories of families -/

/-- Clients with the histories of their families.  A family is known by its first client. -/
structure Histories where
  /-- The first client of the family of each client. -/
  origins : List Nat
  /-- What each family has done, the latest deed first. -/
  deeds : Nat → List Deed

namespace Histories

/-- One client that has done nothing. -/
def start : Histories := ⟨[0], fun _ => []⟩

/-- The first client of a client's family. -/
def origin (h : Histories) (client : Nat) : Nat := h.origins.getD client 0

/-- What a client's family has done. -/
def of (h : Histories) (client : Nat) : List Deed := h.deeds (h.origin client)

/-- The histories once a client's family has done what is told. -/
def record (h : Histories) (client : Nat) (deeds : List Deed) : Histories :=
  { h with deeds := Function.update h.deeds (h.origin client) deeds }

/-- One more client, in the family of another. -/
def copy (h : Histories) (client : Nat) : Histories :=
  { h with origins := h.origins ++ [h.origin client] }

/-- One more client, the first one of a family that has done nothing. -/
def fresh (h : Histories) : Histories :=
  ⟨h.origins ++ [h.origins.length], Function.update h.deeds h.origins.length []⟩

/-- One step of a client, with what it asks and what it gives: the histories before the step
    decide whether the server is asked, and the step adds deeds to one history only. -/
inductive Steps (h : Histories) (client : Nat) :
    ClientStep → List (Event Api.exchange) → ClientResult → Histories → Prop where
  | unread {manifest : String} {e : Error} :
      Manifest.parse manifest = .error e →
      Steps h client (.apply manifest) [] (.objects (.error e)) h
  | applied {manifest : String} {objects : List Object} {events : List (Event Api.exchange)}
      {r : Except Error (List Object)} {deeds : List Deed} :
      Manifest.parse manifest = .ok objects → Applied (h.of client) 0 objects events r deeds →
      Steps h client (.apply manifest) events (.objects r) (h.record client deeds)
  | lookedUp {kind : GroupVersionKind} {events : List (Event Api.exchange)}
      {found : Except ApiFault Mapping} {deeds : List Deed} :
      Consulted (h.of client) kind events found deeds →
      Steps h client (.lookUp kind) events
        (.mapping (found.mapError (.unknownKind kind.apiVersion kind.kind)))
        (h.record client deeds)
  | registered {kind : GroupVersionKind} {mapping : Mapping} :
      Steps h client (.register kind mapping) [] .nothing
        (h.record client (.kept kind.mappingKey mapping :: h.of client))
  | forgotten :
      Steps h client .forget [] .nothing (h.record client (.forgot :: h.of client))
  | copied : Steps h client .copy [] .nothing (h.copy client)
  | fresh : Steps h client .fresh [] .nothing h.fresh

end Histories

theorem getD_concat {α : Type} (xs : List α) (a d : α) (i : Nat) :
    (xs ++ [a]).getD i d = if i = xs.length then a else xs.getD i d := by
  rcases Nat.lt_trichotomy i xs.length with h | h | h
  · rw [if_neg (Nat.ne_of_lt h), List.getD_append _ _ _ _ h]
  · subst h
    simp
  · rw [if_neg (Nat.ne_of_gt h), List.getD_eq_default _ _ (by simp; omega),
      List.getD_eq_default _ _ (by omega)]

/-- What clients remember is what their families have done. -/
structure Agree (c : Clients) (h : Histories) : Prop where
  length : c.families.length = h.origins.length
  family_lt : ∀ client, c.family client < c.memories.length
  origin_lt : ∀ client, h.origin client < h.origins.length
  family_iff : ∀ i j, c.family i = c.family j ↔ h.origin i = h.origin j
  memory : ∀ client, c.memory client = memoryOf (h.of client)

namespace Agree

variable {c : Clients} {h : Histories}

theorem single_start : Agree .single .start := by
  have hfamily : ∀ client, Clients.single.family client = 0 := by
    intro client
    cases client <;> rfl
  have horigin : ∀ client, Histories.start.origin client = 0 := by
    intro client
    cases client <;> rfl
  refine ⟨rfl, ?_, ?_, ?_, ?_⟩
  · intro client
    rw [hfamily]
    exact Nat.zero_lt_one
  · intro client
    rw [horigin]
    exact Nat.zero_lt_one
  · intro i j
    rw [hfamily, hfamily, horigin, horigin]
  · intro client
    rw [Clients.memory, hfamily]
    rfl

theorem remember (hc : Agree c h) (client : Nat) (deeds : List Deed) :
    Agree (c.remember client (memoryOf deeds)) (h.record client deeds) := by
  refine ⟨hc.length, ?_, hc.origin_lt, hc.family_iff, ?_⟩
  · intro other
    show c.family other < (c.memories.set (c.family client) (memoryOf deeds)).length
    rw [List.length_set]
    exact hc.family_lt other
  · intro other
    show (c.memories.set (c.family client) (memoryOf deeds)).getD (c.family other) {} =
      memoryOf (Function.update h.deeds (h.origin client) deeds (h.origin other))
    by_cases hother : h.origin other = h.origin client
    · have hfamily := (hc.family_iff other client).2 hother
      rw [hother, hfamily, Function.update_self]
      simp [List.getD, hc.family_lt client]
    · have hfamily := mt (hc.family_iff other client).1 hother
      rw [Function.update_of_ne hother]
      have hmemory := hc.memory other
      rw [Clients.memory] at hmemory
      rw [← Histories.of, ← hmemory]
      simp [List.getD, List.getElem?_set_ne (Ne.symm hfamily)]

theorem copy (hc : Agree c h) (client : Nat) : Agree (c.copy client) (h.copy client) := by
  -- the copy stands for the client that is copied
  have hfamily : ∀ i, (c.copy client).family i =
      c.family (if i = c.families.length then client else i) := by
    intro i
    show (c.families ++ [c.family client]).getD i 0 = _
    rw [getD_concat]
    split <;> rfl
  have horigin : ∀ i, (h.copy client).origin i =
      h.origin (if i = c.families.length then client else i) := by
    intro i
    show (h.origins ++ [h.origin client]).getD i 0 = _
    rw [getD_concat, hc.length]
    split <;> rfl
  refine ⟨?_, ?_, ?_, ?_, ?_⟩
  · show (c.families ++ [_]).length = (h.origins ++ [_]).length
    rw [List.length_append, List.length_append, hc.length]
    rfl
  · intro i
    rw [hfamily]
    exact hc.family_lt _
  · intro i
    rw [horigin]
    refine Nat.lt_of_lt_of_le (hc.origin_lt _) ?_
    show h.origins.length ≤ (h.origins ++ [_]).length
    simp
  · intro i j
    rw [hfamily, hfamily, horigin, horigin]
    exact hc.family_iff _ _
  · intro i
    rw [Clients.memory, Histories.of, hfamily, horigin]
    exact hc.memory _

theorem fresh (hc : Agree c h) : Agree c.fresh h.fresh := by
  have hfamily : ∀ i, c.fresh.family i =
      if i = c.families.length then c.memories.length else c.family i := by
    intro i
    exact getD_concat ..
  have horigin : ∀ i, h.fresh.origin i =
      if i = c.families.length then h.origins.length else h.origin i := by
    intro i
    rw [hc.length]
    exact getD_concat ..
  -- the number of the new family is none that a client has yet, on either side
  have hfamily_ne : ∀ i, c.family i ≠ c.memories.length := fun i =>
    Nat.ne_of_lt (hc.family_lt i)
  have horigin_ne : ∀ i, h.origin i ≠ h.origins.length := fun i =>
    Nat.ne_of_lt (hc.origin_lt i)
  refine ⟨?_, ?_, ?_, ?_, ?_⟩
  · show (c.families ++ [_]).length = (h.origins ++ [_]).length
    rw [List.length_append, List.length_append, hc.length]
    rfl
  · intro i
    have hlt := hc.family_lt i
    show c.fresh.family i < (c.memories ++ [_]).length
    rw [hfamily, List.length_append, List.length_singleton]
    split <;> omega
  · intro i
    have hlt := hc.origin_lt i
    show h.fresh.origin i < (h.origins ++ [_]).length
    rw [horigin, List.length_append, List.length_singleton]
    split <;> omega
  · intro i j
    rw [hfamily, hfamily, horigin, horigin]
    by_cases hi : i = c.families.length
    · by_cases hj : j = c.families.length
      · simp [hi, hj]
      · simp [hi, hj, Ne.symm (hfamily_ne j), Ne.symm (horigin_ne j)]
    · by_cases hj : j = c.families.length
      · simp [hi, hj, hfamily_ne i, horigin_ne i]
      · simpa [hi, hj] using hc.family_iff i j
  · intro i
    show (c.memories ++ [({} : Mappings)]).getD (c.fresh.family i) {} =
      memoryOf (Function.update h.deeds h.origins.length [] (h.fresh.origin i))
    rw [hfamily, horigin, getD_concat]
    by_cases hi : i = c.families.length
    · rw [if_pos hi, if_pos hi, if_pos rfl, Function.update_self]
      rfl
    · rw [if_neg hi, if_neg hi, if_neg (hfamily_ne i), Function.update_of_ne (horigin_ne i)]
      exact hc.memory i

end Agree

/-! ## Steps of any clients, each with a server of its own -/

/-- A step of a client, with what answers it. -/
structure ClientUse (σ : Type) where
  client : Nat
  step : ClientStep
  handle : Handler Api.exchange σ
  state : σ

/-- What is seen of a step: what it asks, what it gives, and the clients around it. -/
structure ClientRecord where
  client : Nat
  step : ClientStep
  events : List (Event Api.exchange)
  result : ClientResult
  before : Clients
  after : Clients

namespace Clients

variable {σ : Type}

/-- Does a step of a client. -/
def use (c : Clients) (u : ClientUse σ) : ClientRecord :=
  let r := ((c.step u.client u.step).run u.handle u.state).1
  ⟨u.client, u.step, (c.step u.client u.step).trace u.handle u.state, r.1, c, r.2⟩

/-- Does steps of clients one after another. -/
def useAll (c : Clients) : List (ClientUse σ) → List ClientRecord
  | [] => []
  | u :: us => c.use u :: (c.use u).after.useAll us

end Clients

/-- The memories of clients, seen from outside, are what the histories of their families
    leave: under each key the mapping that was kept last, and as many mappings as keys. -/
structure Remembered (c : Clients) (h : Histories) : Prop where
  get? : ∀ client key, (c.memory client).get? key = lastKept key (h.of client)
  sizes : c.sizes = h.origins.map fun origin => (keptKeys (h.deeds origin)).card

/-- A step that goes as the histories say. -/
structure ClientRecord.Follows (r : ClientRecord) (h h' : Histories) : Prop where
  steps : h.Steps r.client r.step r.events r.result h'
  before : Remembered r.before h
  after : Remembered r.after h'
  /-- A step of one family leaves the memory of every other as it was. -/
  apart : ∀ other < h.origins.length, h.origin other ≠ h.origin r.client →
    r.after.memory other = r.before.memory other
  /-- A step that keeps nothing and forgets nothing leaves every memory as it was. -/
  unchanged : h'.of r.client = h.of r.client → ∀ other < h.origins.length,
    r.after.memory other = r.before.memory other

/-- Steps one after another go as the histories say, each with those that the one before it
    left. -/
inductive Histories.Tell : Histories → List ClientRecord → Prop where
  | nil {h : Histories} : Tell h []
  | cons {h h' : Histories} {r : ClientRecord} {rs : List ClientRecord} :
      r.Follows h h' → Tell h' rs → Tell h (r :: rs)

theorem Agree.remembered {c : Clients} {h : Histories} (hc : Agree c h) : Remembered c h := by
  refine ⟨?_, ?_⟩
  · intro client key
    rw [hc.memory, get?_memoryOf]
  · refine List.ext_getElem ?_ ?_
    · show (c.families.map _).length = (h.origins.map _).length
      rw [List.length_map, List.length_map, hc.length]
    · intro i hi hi'
      rw [Clients.sizes, List.length_map] at hi
      rw [List.length_map] at hi'
      have hfamily : c.family i = c.families[i] := List.getD_eq_getElem _ _ hi
      have horigin : h.origin i = h.origins[i] := List.getD_eq_getElem _ _ hi'
      have hsize : (c.memory i).size = (keptKeys (h.of i)).card := by
        rw [hc.memory, size_memoryOf]
      rw [Clients.memory, Histories.of, hfamily, horigin] at hsize
      simpa [Clients.sizes] using hsize

namespace Histories

variable {h h' : Histories}

theorem of_record (h : Histories) (client other : Nat) (deeds : List Deed) :
    (h.record client deeds).of other =
      if h.origin other = h.origin client then deeds else h.of other := by
  show Function.update h.deeds (h.origin client) deeds (h.origin other) = _
  by_cases heq : h.origin other = h.origin client
  · rw [if_pos heq, heq, Function.update_self]
  · rw [if_neg heq, Function.update_of_ne heq]
    rfl

/-- What a family has done is after a step what it was before, unless the step is its own. -/
theorem Steps.of_eq {client other : Nat} {step : ClientStep} {events : List (Event Api.exchange)}
    {result : ClientResult} (hsteps : h.Steps client step events result h')
    (hborn : ∀ i, h.origin i < h.origins.length) (hother : other < h.origins.length) :
    h'.of other = h.of other ∨
      h.origin other = h.origin client ∧ h'.of other = h'.of client := by
  have hrecord : ∀ deeds, (h.record client deeds).of other = h.of other ∨
      h.origin other = h.origin client ∧
        (h.record client deeds).of other = (h.record client deeds).of client := by
    intro deeds
    rw [of_record, of_record, if_pos rfl]
    by_cases heq : h.origin other = h.origin client
    · exact Or.inr ⟨heq, if_pos heq⟩
    · exact Or.inl (if_neg heq)
  cases hsteps with
  | unread _ => exact Or.inl rfl
  | applied _ _ => exact hrecord _
  | lookedUp _ => exact hrecord _
  | registered => exact hrecord _
  | forgotten => exact hrecord _
  -- a client that is there before keeps its family when another one is added
  | copied =>
      refine Or.inl (congrArg h.deeds ?_)
      exact List.getD_append _ _ _ _ hother
  | fresh =>
      have horigin : h.fresh.origin other = h.origin other := List.getD_append _ _ _ _ hother
      refine Or.inl ?_
      show Function.update h.deeds h.origins.length [] (h.fresh.origin other) = _
      rw [horigin, Function.update_of_ne (Nat.ne_of_lt (hborn other))]
      rfl

end Histories

namespace Agree

variable {c c' : Clients} {h h' : Histories} {client : Nat}

theorem remember_memory (hc : Agree c h) : c.remember client (c.memory client) = c := by
  have hlt := hc.family_lt client
  show (⟨c.memories.set _ (c.memories.getD _ _), c.families⟩ : Clients) = c
  rw [List.getD_eq_getElem _ _ hlt, List.set_getElem_self]

theorem steps_apply {manifest : String} {events : List (Event Api.exchange)}
    {r : Except Error (List Object) × Mappings} (hc : Agree c h)
    (hw : (TestCluster.apply (c.memory client) manifest).Walk events r) :
    ∃ h', h.Steps client (.apply manifest) events (.objects r.1) h' ∧
      Agree (c.remember client r.2) h' := by
  rw [TestCluster.apply] at hw
  cases hparse : Manifest.parse manifest with
  | error e =>
      rw [hparse] at hw
      obtain ⟨rfl, rfl⟩ := Program.walk_done.1 hw
      exact ⟨h, .unread hparse, hc.remember_memory.symm ▸ hc⟩
  | ok objects =>
      rw [hparse, hc.memory] at hw
      obtain ⟨deeds, happlied, hm⟩ := applied_of_inOrder (inOrder_of_walk hw)
      exact ⟨_, .applied hparse happlied, hm ▸ hc.remember client deeds⟩

theorem steps_lookUp {kind : GroupVersionKind} {events : List (Event Api.exchange)}
    {r : Except Error Mapping × Mappings} (hc : Agree c h)
    (hw : (TestCluster.lookUp (c.memory client) kind).Walk events r) :
    ∃ h', h.Steps client (.lookUp kind) events (.mapping r.1) h' ∧
      Agree (c.remember client r.2) h' := by
  rw [hc.memory] at hw
  obtain ⟨found, hl, hresult⟩ := lookedUp_of_walk hw
  obtain ⟨deeds, hconsulted, hm⟩ := consulted_of_lookedUp hl
  exact ⟨_, hresult ▸ .lookedUp hconsulted, hm ▸ hc.remember client deeds⟩

/-- A step of a client goes as the histories say, and leaves what they say. -/
theorem steps_of_walk {step : ClientStep} {events : List (Event Api.exchange)}
    {r : ClientResult × Clients} (hc : Agree c h) (hw : (c.step client step).Walk events r) :
    ∃ h', h.Steps client step events r.1 h' ∧ Agree r.2 h' := by
  cases step with
  | apply manifest =>
      obtain ⟨before, found, after, rfl, ha, hr⟩ := Program.walk_bind.1 hw
      obtain ⟨rfl, rfl⟩ := Program.walk_done.1 hr
      rw [List.append_nil]
      exact hc.steps_apply ha
  | lookUp kind =>
      obtain ⟨before, found, after, rfl, hl, hr⟩ := Program.walk_bind.1 hw
      obtain ⟨rfl, rfl⟩ := Program.walk_done.1 hr
      rw [List.append_nil]
      exact hc.steps_lookUp hl
  | register kind mapping =>
      obtain ⟨rfl, rfl⟩ := Program.walk_done.1 hw
      refine ⟨_, .registered, ?_⟩
      show Agree (c.remember client ((c.memory client).insert kind.mappingKey mapping)) _
      rw [hc.memory]
      exact hc.remember client (.kept kind.mappingKey mapping :: h.of client)
  | forget =>
      obtain ⟨rfl, rfl⟩ := Program.walk_done.1 hw
      exact ⟨_, .forgotten, hc.remember client (.forgot :: h.of client)⟩
  | copy =>
      obtain ⟨rfl, rfl⟩ := Program.walk_done.1 hw
      exact ⟨_, .copied, hc.copy client⟩
  | fresh =>
      obtain ⟨rfl, rfl⟩ := Program.walk_done.1 hw
      exact ⟨_, .fresh, hc.fresh⟩

/-- A use of a client follows the histories. -/
theorem follows {σ : Type} (hc : Agree c h) (u : ClientUse σ) :
    ∃ h', (c.use u).Follows h h' ∧ Agree (c.use u).after h' := by
  have hwalk := Program.walk_run u.handle (c.step u.client u.step) u.state
  obtain ⟨h', hsteps, hc'⟩ := hc.steps_of_walk hwalk
  refine ⟨h', ⟨hsteps, hc.remembered, hc'.remembered, ?_, ?_⟩, hc'⟩
  · intro other hlt hother
    rcases hsteps.of_eq hc.origin_lt hlt with hof | ⟨horigin, -⟩
    · exact (hc'.memory other).trans ((congrArg memoryOf hof).trans (hc.memory other).symm)
    · exact absurd horigin hother
  · intro hsame other hlt
    have hof : h'.of other = h.of other := by
      rcases hsteps.of_eq hc.origin_lt hlt with hof | ⟨horigin, hof⟩
      · exact hof
      · rw [hof]
        exact hsame.trans (congrArg h.deeds horigin.symm)
    exact (hc'.memory other).trans ((congrArg memoryOf hof).trans (hc.memory other).symm)

/-- Uses one after another follow the histories. -/
theorem tell {σ : Type} (hc : Agree c h) (us : List (ClientUse σ)) : h.Tell (c.useAll us) := by
  induction us generalizing c h with
  | nil => exact .nil
  | cons u us ih =>
      obtain ⟨h', hfollows, hc'⟩ := hc.follows u
      exact .cons hfollows (ih hc')

end Agree

/-- **A MEMORY IS ITS FAMILY'S HISTORY.**  Whatever steps any number of clients do, and whatever
    answers each step: the server is asked about a kind exactly when the family has kept no
    mapping under its key since it last forgot, and otherwise the mapping kept last is given;
    what a family remembers is what it has kept since then, and no step of one family bears on
    another. -/
theorem Clients.memories_by_family {σ : Type} (us : List (ClientUse σ)) :
    Histories.start.Tell (Clients.single.useAll us) :=
  Agree.single_start.tell us

end TestCluster
