import TestCluster.Hook
import TestCluster.Proofs.FamilyHistory

/-!
# The order of an installation — one manifest after another, and the service last

    The ingress controller is installed by two sequences, one inside the other: manifests are
    fetched and applied in turn (`FetchedInOrder`), and the objects of each take their turns in
    it (`Applies`).  The first failure of either ends both.  `Installs` says that a run is such a
    row and then the service, and gives the turns of all objects in their order.

    All turns share one memory.  A turn that succeeds discovers its kind no more often than the
    memory of the kind grows by it (`Patched.discoveries_le`), and so does a row of turns; a turn
    that fails is the last.  Hence no kind is discovered twice.
-/

namespace TestCluster

/-! ## Exchanges with a server -/

namespace World

variable {α : Type} {events : List (Event calls)}

/-- What is exchanged with the API server at an address. -/
def exchanged (server : String) (asked : List (Event Api.exchange)) : List (Event calls) :=
  asked.map fun e => ⟨.host (.exchange server e.call), e.answer⟩

end World

/-! ## The turns of a manifest's objects -/

/-- An object that took its turn, whether it was applied or not, and what was asked in it. -/
structure Taken where
  object : Object
  asked : List (Event Api.exchange)

/-- The turn of an object that was applied. -/
def Turn.taken (turn : Turn) : Taken := ⟨turn.object, turn.events⟩

/-- What is asked in turns, one after another. -/
def askedIn (taken : List Taken) : List (Event Api.exchange) := taken.flatMap (·.asked)

/-- A manifest that is applied: all its objects are, one after another. -/
inductive Applies (m : Mappings) (manifest : String) : List Taken → Mappings → Prop where
  | intro (turns : List Turn) {m' : Mappings} :
      Manifest.parse manifest = .ok (turns.map (·.object)) → Turns m turns m' →
      Applies m manifest (turns.map Turn.taken) m'

/-- A manifest that cannot be applied: it cannot be read, and no object has a turn; or one of its
    objects fails after all before it were applied, and none after it has a turn. -/
inductive FailsToApply (m : Mappings) (manifest : String) : List Taken → Error → Prop where
  | unread {e : Error} : Manifest.parse manifest = .error e → FailsToApply m manifest [] e
  | stopped (turns : List Turn) {o : Object} {rest : List Object}
      {last : List (Event Api.exchange)} {e : Error} {m' m'' : Mappings} :
      Manifest.parse manifest = .ok (turns.map (·.object) ++ o :: rest) → Turns m turns m' →
      Failed m' turns.length o last e m'' →
      FailsToApply m manifest (turns.map Turn.taken ++ [⟨o, last⟩]) e

namespace ClientConfig

variable {c : ClientConfig} {m : Mappings} {manifest : String} {events : List (Event World.calls)}

/-- The client that the content of a kubeconfig file describes. -/
def ofContent : Except FileFault (List UInt8) → Except Error ClientConfig
  | .error _ => .error .kubeconfig
  | .ok bytes =>
    match (Kubeconfig.ofBytes? bytes).bind Kubeconfig.client? with
    | some config => .ok config
    | none => .error .kubeconfig

end ClientConfig

/-! ## No kind is discovered twice -/

/-- The key under which the mapping of an object's kind is remembered. -/
def Object.mappingKey? (o : Object) : Option MappingKey :=
  o.types.map (·.groupVersionKind.mappingKey)

/-- Whether a request is a discovery. -/
def isDiscovery (e : Event Api.exchange) : Bool :=
  match e.call with
  | .get _ => true
  | .patch .. => false

/-- How many discoveries of a kind there are in turns. -/
def discoveries (key : MappingKey) (taken : List Taken) : Nat :=
  (askedIn (taken.filter (·.object.mappingKey? = some key))).countP isDiscovery

/-- How many mappings are remembered under a key: one or none. -/
def Mappings.held (m : Mappings) (key : MappingKey) : Nat := (m.get? key).toList.length

section Discoveries

variable {key : MappingKey} {m m' : Mappings} {o stored : Object} {e : Error} {index : Nat}
  {asked : List (Event Api.exchange)} {kind : GroupVersionKind} {manifest : String}
  {taken : List Taken}

theorem Mappings.held_le_one (m : Mappings) (key : MappingKey) : m.held key ≤ 1 := by
  rw [held]
  cases m.get? key with
  | none => exact Nat.zero_le 1
  | some mapping => exact Nat.le_refl 1

theorem discoveries_append (taken others : List Taken) :
    discoveries key (taken ++ others) = discoveries key taken + discoveries key others := by
  rw [discoveries, List.filter_append, askedIn, List.flatMap_append, List.countP_append]
  rfl

/-- A turn in which another kind is looked up discovers nothing of this one. -/
theorem discoveries_single {types : Types} (htypes : o.types = some types) :
    discoveries key [⟨o, asked⟩] =
      if types.groupVersionKind.mappingKey = key then asked.countP isDiscovery else 0 := by
  have hkey : o.mappingKey? = some types.groupVersionKind.mappingKey := by
    rw [Object.mappingKey?, htypes]
    rfl
  rw [discoveries, List.filter_cons, hkey]
  by_cases h : types.groupVersionKind.mappingKey = key
  · simp [h, askedIn]
  · simp [h, askedIn]

/-- What a look-up finds it does not discover again. -/
theorem LookedUp.discoveries_le {mapping : Mapping} (h : LookedUp m kind asked (.ok mapping) m')
    (key : MappingKey) :
    (if kind.mappingKey = key then asked.countP isDiscovery else 0) + m.held key ≤ m'.held key := by
  cases h with
  | remembered => simp
  | found hnone =>
      rw [Mappings.held, Mappings.held, Mappings.get?_insert]
      by_cases hkey : kind.mappingKey = key
      · subst hkey
        simp [hnone, isDiscovery]
      · simp [hkey]

theorem LookedUp.discoveries_le_of_error {fault : ApiFault}
    (h : LookedUp m kind asked (.error fault) m') (key : MappingKey) :
    (if kind.mappingKey = key then asked.countP isDiscovery else 0) + m.held key ≤ 1 := by
  have hheld := m.held_le_one key
  cases h with
  | unaddressed => simpa using hheld
  | refused hnone =>
      by_cases hkey : kind.mappingKey = key
      · subst hkey
        simp [hnone, Mappings.held, isDiscovery]
      · simpa [hkey] using hheld

theorem countP_isDiscovery_patch (o : Object) (mapping : Mapping) (target : Api.Target)
    (answer : Except OsError Api.Reply) :
    (asked ++ [(⟨patchRequest o mapping target, answer⟩ : Event Api.exchange)]).countP isDiscovery =
      asked.countP isDiscovery := by
  rw [List.countP_append]
  rfl

/-- A turn that succeeds discovers its kind no more often than the memory of it grows. -/
theorem Patched.discoveries_le (h : Patched m o asked stored m') (key : MappingKey) :
    discoveries key [⟨o, asked⟩] + m.held key ≤ m'.held key := by
  obtain ⟨htypes, hfound, -, -⟩ := h
  rw [discoveries_single htypes, countP_isDiscovery_patch]
  exact hfound.discoveries_le key

theorem Failed.discoveries_le (h : Failed m index o asked e m') (key : MappingKey) :
    discoveries key [⟨o, asked⟩] + m.held key ≤ 1 := by
  cases h with
  | untyped hnone =>
      have hheld := m.held_le_one key
      simpa [discoveries, Object.mappingKey?, hnone, askedIn] using hheld
  | unknown htypes hfault =>
      rw [discoveries_single htypes]
      exact hfault.discoveries_le_of_error key
  | unaddressed htypes hfound =>
      rw [discoveries_single htypes]
      exact (hfound.discoveries_le key).trans (Mappings.held_le_one _ key)
  | refused htypes hfound =>
      rw [discoveries_single htypes, countP_isDiscovery_patch]
      exact (hfound.discoveries_le key).trans (Mappings.held_le_one _ key)

theorem Turns.discoveries_le {turns : List Turn} (h : Turns m turns m') (key : MappingKey) :
    discoveries key (turns.map Turn.taken) + m.held key ≤ m'.held key := by
  induction h with
  | nil => exact (Nat.zero_add _).le
  | @cons m m₁ m₂ turn turns hturn _ ih =>
      have hfirst := hturn.discoveries_le key
      calc discoveries key (turn.taken :: turns.map Turn.taken) + m.held key
          = discoveries key (turns.map Turn.taken) +
              (discoveries key [⟨turn.object, turn.events⟩] + m.held key) := by
            rw [← List.singleton_append, discoveries_append, Turn.taken]
            omega
        _ ≤ discoveries key (turns.map Turn.taken) + m₁.held key := Nat.add_le_add_left hfirst _
        _ ≤ m₂.held key := ih

theorem Applies.discoveries_le (h : Applies m manifest taken m') (key : MappingKey) :
    discoveries key taken + m.held key ≤ m'.held key := by
  obtain ⟨turns, -, hturns⟩ := h
  exact hturns.discoveries_le key

theorem FailsToApply.discoveries_le (h : FailsToApply m manifest taken e) (key : MappingKey) :
    discoveries key taken + m.held key ≤ 1 := by
  cases h with
  | unread => exact (Nat.zero_add _).trans_le (Mappings.held_le_one _ key)
  | stopped turns _ hturns hfailed =>
      have hbefore := hturns.discoveries_le key
      have hlast := hfailed.discoveries_le key
      rw [discoveries_append]
      omega

end Discoveries

namespace Ingress

variable {server kubeconfig url : String} {urls : List String} {key : MappingKey}
  {m m' : Mappings} {taken : List Taken} {events : List (Event World.calls)}

/-! ## Manifests that are fetched -/

/-- The fetch of a manifest, with its answer. -/
def fetched (url : String) (answer : Except FetchFault String) : Event World.calls :=
  ⟨.host (.fetch url), answer⟩

/-- A manifest that was fetched and applied. -/
structure Stage where
  url : String
  manifest : String
  taken : List Taken

/-- What is asked for a manifest: its text, and then what its objects ask in their turns. -/
def Stage.asked (server : String) (stage : Stage) : List (Event World.calls) :=
  fetched stage.url (.ok stage.manifest) :: World.exchanged server (askedIn stage.taken)

/-- Manifests that are applied one after another, each with the mappings that the one before it
    left. -/
inductive Stages : Mappings → List Stage → Mappings → Prop where
  | nil {m : Mappings} : Stages m [] m
  | cons {m m₁ m₂ : Mappings} {stage : Stage} {stages : List Stage} :
      Applies m stage.manifest stage.taken m₁ → Stages m₁ stages m₂ →
      Stages m (stage :: stages) m₂

/-- The manifests at locations are fetched and applied one after another: all of them, or those
    up to one that cannot be fetched, or up to one that cannot be applied. -/
inductive FetchedInOrder (server : String) (m : Mappings) (urls : List String) :
    List Taken → List (Event World.calls) → Except Error Mappings → Prop where
  | all (stages : List Stage) {m' : Mappings} :
      urls = stages.map (·.url) → Stages m stages m' →
      FetchedInOrder server m urls (stages.flatMap (·.taken)) (stages.flatMap (·.asked server))
        (.ok m')
  | unfetched (stages : List Stage) {m' : Mappings} {url : String} {rest : List String}
      (fault : FetchFault) :
      urls = stages.map (·.url) ++ url :: rest → Stages m stages m' →
      FetchedInOrder server m urls (stages.flatMap (·.taken))
        (stages.flatMap (·.asked server) ++ [fetched url (.error fault)])
        (.error (.fetch url fault))
  | unapplied (stages : List Stage) {m' : Mappings} {url manifest : String} {rest : List String}
      {last : List Taken} {e : Error} :
      urls = stages.map (·.url) ++ url :: rest → Stages m stages m' →
      FailsToApply m' manifest last e →
      FetchedInOrder server m urls (stages.flatMap (·.taken) ++ last)
        (stages.flatMap (·.asked server) ++
          fetched url (.ok manifest) :: World.exchanged server (askedIn last))
        (.error e)

/-- One more manifest applied in front. -/
theorem FetchedInOrder.cons {m₁ : Mappings} (stage : Stage) {r : Except Error Mappings}
    (hstage : Applies m stage.manifest stage.taken m₁)
    (h : FetchedInOrder server m₁ urls taken events r) :
    FetchedInOrder server m (stage.url :: urls) (stage.taken ++ taken)
      (stage.asked server ++ events) r := by
  cases h with
  | all stages hurls hstages =>
      subst hurls
      exact .all (stage :: stages) rfl (.cons hstage hstages)
  | unfetched stages fault hurls hstages =>
      subst hurls
      rw [← List.append_assoc]
      exact .unfetched (stage :: stages) fault rfl (.cons hstage hstages)
  | unapplied stages hurls hstages hfails =>
      subst hurls
      rw [← List.append_assoc, ← List.append_assoc]
      exact .unapplied (stage :: stages) rfl (.cons hstage hstages) hfails

/-- **ONE AFTER ANOTHER, AND THE SERVICE LAST**: the ways of an installation, with the turns that
    objects took in it.  There is no client, and nothing is fetched; or a manifest cannot be
    fetched or applied, and nothing is asked after that; or all were applied, and then the
    service cannot be applied; or it is, and the installation succeeds. -/
inductive Installs (kubeconfig : String) (urls : List String) :
    List Taken → List (Event World.calls) → Except Error Unit → Prop where
  | unconfigured {content : Except FileFault (List UInt8)} {e : Error} :
      ClientConfig.ofContent content = .error e →
      Installs kubeconfig urls [] [⟨.host (.readFile kubeconfig), content⟩] (.error e)
  | stopped {content : Except FileFault (List UInt8)} {c : ClientConfig} {taken : List Taken}
      {events : List (Event World.calls)} {e : Error} :
      ClientConfig.ofContent content = .ok c →
      FetchedInOrder c.server {} urls taken events (.error e) →
      Installs kubeconfig urls taken (⟨.host (.readFile kubeconfig), content⟩ :: events) (.error e)
  | unpinned {content : Except FileFault (List UInt8)} {c : ClientConfig} {m : Mappings}
      {taken last : List Taken} {events : List (Event World.calls)} {e : Error} :
      ClientConfig.ofContent content = .ok c →
      FetchedInOrder c.server {} urls taken events (.ok m) →
      FailsToApply m controllerService last e →
      Installs kubeconfig urls (taken ++ last) (⟨.host (.readFile kubeconfig), content⟩ ::
        (events ++ World.exchanged c.server (askedIn last))) (.error e)
  | installed {content : Except FileFault (List UInt8)} {c : ClientConfig} {m m' : Mappings}
      {taken last : List Taken} {events : List (Event World.calls)} :
      ClientConfig.ofContent content = .ok c →
      FetchedInOrder c.server {} urls taken events (.ok m) →
      Applies m controllerService last m' →
      Installs kubeconfig urls (taken ++ last) (⟨.host (.readFile kubeconfig), content⟩ ::
        (events ++ World.exchanged c.server (askedIn last))) (.ok ())

theorem Stages.discoveries_le {stages : List Stage} (h : Stages m stages m') (key : MappingKey) :
    discoveries key (stages.flatMap (·.taken)) + m.held key ≤ m'.held key := by
  induction h with
  | nil => exact (Nat.zero_add _).le
  | cons hstage _ ih =>
      have hfirst := hstage.discoveries_le key
      rw [List.flatMap_cons, discoveries_append]
      omega

theorem FetchedInOrder.discoveries_le (h : FetchedInOrder server m urls taken events (.ok m'))
    (key : MappingKey) : discoveries key taken + m.held key ≤ m'.held key := by
  cases h with
  | all stages _ hstages => exact hstages.discoveries_le key

theorem FetchedInOrder.discoveries_le_of_error {e : Error}
    (h : FetchedInOrder server m urls taken events (.error e)) (key : MappingKey) :
    discoveries key taken + m.held key ≤ 1 := by
  cases h with
  | unfetched stages fault _ hstages =>
      exact (hstages.discoveries_le key).trans (Mappings.held_le_one _ key)
  | unapplied stages _ hstages hfails =>
      have hbefore := hstages.discoveries_le key
      have hlast := hfails.discoveries_le key
      rw [discoveries_append]
      omega

/-- No kind is discovered twice in an installation, that of the service included. -/
theorem Installs.discoveries_le {r : Except Error Unit}
    (h : Installs kubeconfig urls taken events r) (key : MappingKey) :
    discoveries key taken ≤ 1 := by
  cases h with
  | unconfigured => exact Nat.zero_le 1
  | stopped _ hfetch => exact hfetch.discoveries_le_of_error key
  | unpinned _ hfetch hfails =>
      have hbefore := hfetch.discoveries_le key
      have hlast := hfails.discoveries_le key
      rw [discoveries_append]
      omega
  | @installed _ _ m m' _ _ _ _ hfetch happlies =>
      have hbefore := hfetch.discoveries_le key
      have hlast := happlies.discoveries_le key
      have hheld := m'.held_le_one key
      rw [discoveries_append]
      omega

end Ingress

end TestCluster
