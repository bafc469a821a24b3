import TestCluster.Proofs.EncodedText
import TestCluster.Proofs.KindDocument
import TestCluster.Proofs.ManifestCharacters
import TestCluster.Proofs.Ownership

/-!
# The published ingress — the lease says where the controller is reached

    A setup with ingress has one port in four places: the lease names it in its address, the
    host port is probed before anything is made, the document for the provider maps it to a
    port of the first node, and the service that the ingress hook applies pins the controller
    to that port of the node.  The document and the service are texts; they are read as YAML,
    and what they say is compared (`publishedPorts?`, `Ingress.pinnedPort?`).
-/

namespace TestCluster

open World

/-! ## What the two texts say -/

namespace Value

/-- What a mapping holds under a key. -/
def member? (key : String) : Value → Option Value
  | .object members => members.lookup key
  | _ => none

/-- The items of a list. -/
def items? : Value → Option (List Value)
  | .array items => some items
  | _ => none

/-- A whole number. -/
def int? : Value → Option Int
  | .int n => some n
  | _ => none

end Value

/-- The port of the node, and the port of this machine that it is published on. -/
def NodePort.numbers (p : NodePort) : Int × Int := (p.node.toNat, p.host.toNat)

namespace ClusterConfig

/-- The port of the node, and the port of the host, that a port mapping names. -/
def mappedPorts? (mapping : Value) : Option (Int × Int) := do
  let node ← (← mapping.member? "containerPort").int?
  let host ← (← mapping.member? "hostPort").int?
  some (node, host)

/-- The port mappings that a cluster's document gives its first node, in their order. -/
def publishedPorts? (document : String) : Option (List (Int × Int)) := do
  let cluster ← (Yaml.Document.single? document).bind (Yaml.Document.read (·.value))
  let node ← (← (← cluster.member? "nodes").items?).head?
  match node.member? "extraPortMappings" with
  | none => some []
  | some mappings => (← mappings.items?).mapM mappedPorts?

/-- The document of a cluster publishes the node ports of its options, in their order. -/
theorem publishedPorts?_composed (options : Options) : publishedPorts? (composed options) =
    some (options.nodePorts.map NodePort.numbers) := by
  have hmappings : ∀ ports : List NodePort, (ports.map mappingValue).mapM mappedPorts? =
      some (ports.map NodePort.numbers) := by
    intro ports
    have hmapping : mappedPorts? ∘ mappingValue = fun p => pure p.numbers := rfl
    rw [List.mapM_map, hmapping, List.mapM_pure]
    rfl
  rw [publishedPorts?, read_composed]
  show (match (controlPlaneValue options.nodePorts).member? "extraPortMappings" with
    | none => some []
    | some mappings => mappings.items?.bind (List.mapM mappedPorts?)) = _
  rw [controlPlaneValue]
  cases options.nodePorts with
  | nil => rfl
  | cons p ports => exact hmappings (p :: ports)

end ClusterConfig

namespace Ingress

/-- The port of the node that a service pins, if it has one port. -/
def pinnedPortOf? (service : Object) : Option Int := do
  match ← (← (← service.toValue.member? "spec").member? "ports").items? with
  | [port] => (← port.member? "nodePort").int?
  | _ => none

/-- The port of the node that a manifest pins, if it holds one service and nothing else. -/
def pinnedPort? (manifest : String) : Option Int :=
  match Manifest.parse manifest with
  | .ok [service] => if service.types = some ⟨"v1", "Service"⟩ then pinnedPortOf? service else none
  | _ => none

/-- The text of the service pins the port on which the controller listens. -/
theorem pinnedPort?_controllerService :
    pinnedPort? controllerService = some (nodePort.toNat : Int) := by
  have hlines : ∃ lines : List String, controllerService = String.join (lines.map (· ++ "\n")) ∧
      (Manifest.objectsOfChars? (lines.flatMap (·.toList ++ ['\n']))).any
        (fun objects => !objects.isEmpty && decide (objects.map (fun o =>
          (o.types, pinnedPortOf? o)) =
            [(some ⟨"v1", "Service"⟩, some (nodePort.toNat : Int))])) = true :=
    ⟨_, rfl, by decide +kernel⟩
  obtain ⟨lines, hlines, hread⟩ := hlines
  obtain ⟨objects, hparse, hobjects⟩ := Manifest.parse_of_lines hread
  obtain ⟨service, rfl, hservice⟩ := List.map_eq_singleton_iff.1 (of_decide_eq_true hobjects)
  obtain ⟨htypes, hpinned⟩ := Prod.mk.inj hservice
  rw [hlines, pinnedPort?, hparse]
  dsimp only
  rw [if_pos htypes, hpinned]

end Ingress

/-! ## What a setup with ingress comes to -/

namespace Setup

/-- The port of this machine on which the ingress is wanted. -/
def wantedIngressPort (s : Setup) (env : Environment) : UInt16 :=
  s.wanted env "INGRESS_PORT" Overrides.readPort s.ingressPort

/-- The wanted port is mapped behind all other ports, and the controller is installed before all
    other hooks. -/
theorem resolve_of_ingress {s : Setup} (h : s.ingress = true) (env : Environment) :
    (s.resolve env).options = { s.options with
      nodePorts := s.options.nodePorts ++ [⟨Ingress.nodePort, s.wantedIngressPort env⟩] } ∧
    (s.resolve env).hooks = .ingress Ingress.manifestUrls :: s.hooks ∧
    (s.resolve env).ingressAddress = s.ingressAddress ∧
    (s.resolve env).ingressPort = s.wantedIngressPort env := by
  have hparts : ∀ t : Setup, t.ingress = true → t.withIngressParts.options = { t.options with
      nodePorts := t.options.nodePorts ++ [⟨Ingress.nodePort, t.ingressPort⟩] } ∧
      t.withIngressParts.hooks = .ingress Ingress.manifestUrls :: t.hooks ∧
      t.withIngressParts.ingressAddress = t.ingressAddress ∧
      t.withIngressParts.ingressPort = t.ingressPort := by
    intro t ht
    rw [withIngressParts, if_pos ht]
    exact ⟨rfl, rfl, rfl, rfl⟩
  rw [resolve, inEnvironment, wantedIngressPort, wanted]
  by_cases hheeds : s.heedsEnvironment = true
  · rw [if_pos hheeds, if_pos hheeds]
    exact hparts (s.override (.ofEnvironment env)) h
  · rw [if_neg hheeds, if_neg hheeds]
    exact hparts s h

/-- The wanted port is one of those that are mapped. -/
theorem mapped_of_ingress {s : Setup} (h : s.ingress = true) (env : Environment) :
    ⟨Ingress.nodePort, s.wantedIngressPort env⟩ ∈ (s.resolve env).options.nodePorts := by
  rw [(resolve_of_ingress h env).1]
  exact List.mem_append_right _ (List.mem_singleton_self _)

end Setup

/-! ## Steps that are all passed -/

section Steps

variable {c : Cluster} {steps steps' : List Step} {events : List (Event World.calls)}

/-- Where no step fails, each part of the steps is passed by a part of the run. -/
theorem Cut.split (h : Cut c (steps ++ steps') events none) :
    ∃ before after, events = before ++ after ∧ Cut c steps before none ∧
      Cut c steps' after none := by
  induction steps generalizing events with
  | nil => exact ⟨[], events, rfl, .done, h⟩
  | cons step steps ih =>
      cases h with
      | passed hstep hrest =>
          obtain ⟨before, after, rfl, hbefore, hafter⟩ := ih hrest
          exact ⟨_, after, (List.append_assoc ..).symm, .passed hstep hbefore, hafter⟩

/-- Whether a step is a hook. -/
def Step.isHook : Step → Bool
  | .hook _ => true
  | _ => false

/-- Only hooks ask what hooks ask. -/
theorem Cut.not_isOfHook (h : Cut c steps events none)
    (hsteps : steps.all (!·.isHook) = true) : ∀ e ∈ events, ¬ World.IsOfHook e.call := by
  generalize hnone : (none : Option Error) = outcome at h
  induction h with
  | done => exact nofun
  | failed _ => exact nomatch hnone
  | passed hstep _ ih =>
      obtain ⟨hfirst, hrest⟩ := Bool.and_eq_true_iff.1 (List.all_cons ▸ hsteps)
      intro e he
      rcases List.mem_append.1 he with he | he
      · cases hstep with
        | hook _ => exact nomatch hfirst
        | _ =>
            obtain rfl := List.mem_singleton.1 he
            exact nofun
      · exact ih hrest hnone e he

theorem all_imageSteps (images : List String) (present : List Bool) :
    (imageSteps images present).all (!·.isHook) = true := by
  induction images generalizing present with
  | nil => rfl
  | cons image images ih =>
      rw [imageSteps, List.all_append, ih, Bool.and_true, ensureSteps]
      cases present.headD false <;> rfl

theorem all_preloadSteps (cluster : String) (images : List String) (a : Answers) :
    (preloadSteps cluster images a).all (!·.isHook) = true := by
  rw [preloadSteps]
  split
  · rfl
  · show (imageSteps images a.present ++ loadSteps cluster images a.nodes a.archive).all _ = true
    rw [List.all_append, all_imageSteps, Bool.true_and]
    show (a.nodes.map _).all _ = true
    rw [List.all_map, List.all_eq_true]
    exact fun _ _ => rfl

/-- A start reuses a listed cluster, or else makes one after steps that neither make one nor run
    a hook. -/
theorem startSteps_cases (tempDir : String) (config : ClusterConfig) (reuse : Bool)
    (hooks : List Hook) (a : Answers) :
    startSteps tempDir config reuse hooks a = [.provider .list a.listed,
        .provider (.exportKubeconfig config.name (config.kubeconfigPath tempDir)) ()] ∨
      ∃ lead : List Step, lead.all (!·.isHook) = true ∧
        startSteps tempDir config reuse hooks a =
          lead ++ (createSteps tempDir config a ++ hooks.map .hook) := by
  by_cases hlisted : config.name ∈ a.listed
  · cases reuse with
    | true => exact Or.inl (startSteps_reused hlisted)
    | false => exact Or.inr ⟨[_, _, _], rfl, startSteps_recreated hlisted⟩
  · exact Or.inr ⟨[_], rfl, startSteps_unlisted hlisted⟩

end Steps

/-! ## What a start publishes -/

/-- **THE INGRESS IS PUBLISHED** by a start that made a cluster: the lease names the port;
    before the cluster was made the port was found to be free; the document that was handed
    to the provider maps the port that the controller's service pins to it, behind the
    mappings of the setup; and the first that any hook asked was what the ingress hook asked,
    which succeeded, with that service applied in the end, before the hooks of the setup
    ran. -/
inductive IngressPublished (s : Setup) (port : UInt16) (lease : Lease) :
    List (Event World.calls) → Prop where
  | intro {before equipped fetched applied later : List (Event World.calls)}
      {request : CreateRequest} {bound : UInt16} {pinned : Int} {client : ClientConfig}
      {m : Mappings} {stored : List Object × Mappings}
      (named : lease.ingressUrl = "http://" ++ s.ingressAddress ++ ":" ++ Text.decimal port.toNat)
      (free : ⟨.host (.bind Cluster.hostAddress port), Except.ok bound⟩ ∈ before)
      (pins : Ingress.pinnedPort? Ingress.controllerService = some pinned)
      (published : ClusterConfig.publishedPorts? request.config =
        some (s.options.nodePorts.map NodePort.numbers ++ [(pinned, (port.toNat : Int))]))
      (unhooked : ∀ e ∈ before ++ equipped, ¬ World.IsOfHook e.call)
      (installed : ((Hook.ingress Ingress.manifestUrls).run lease.cluster).run.Walk
        (fetched ++ applied) (.ok ()))
      (pinning : (client.applyManifest m Ingress.controllerService).run.Walk applied (.ok stored))
      (hooked : Cut lease.cluster (s.hooks.map .hook) later none) :
      IngressPublished s port lease (before ++ told (.create request) (.ok ()) ::
        (equipped ++ ((fetched ++ applied) ++ later)))

/-- The last that the installation asks is what it takes to apply the service. -/
theorem Ingress.walk_install_ok {kubeconfig : String} {urls : List String}
    {events : List (Event World.calls)} (h : (install kubeconfig urls).run.Walk events (.ok ())) :
    ∃ (client : ClientConfig) (m : Mappings) (stored : List Object × Mappings)
      (fetched applied : List (Event World.calls)), events = fetched ++ applied ∧
      (client.applyManifest m controllerService).run.Walk applied (.ok stored) := by
  obtain ⟨read, client, rest, rfl, -, h⟩ := Attempt.walk_bind_ok.1 h
  obtain ⟨fetched, m, rest, rfl, -, h⟩ := Attempt.walk_bind_ok.1 h
  obtain ⟨applied, stored, rest, rfl, happlied, h⟩ := Attempt.walk_bind_ok.1 h
  obtain ⟨rfl, -⟩ := Attempt.walk_pure.1 h
  refine ⟨client, m, stored, read ++ fetched, applied, ?_, happlied⟩
  rw [List.append_nil, List.append_assoc]

/-- Where no step fails, a cluster is made and hooks run on it in this order. -/
theorem Cut.made {c : Cluster} {lead equip : List Step} {hook : Hook} {hooks : List Hook}
    {request : CreateRequest} {events : List (Event World.calls)}
    (h : Cut c (lead ++ (.provider (.create request) () ::
      (equip ++ (.hook hook :: hooks.map .hook)))) events none) :
    ∃ before equipped installed later,
      events = before ++ told (.create request) (.ok ()) :: (equipped ++ (installed ++ later)) ∧
      Cut c lead before none ∧ Cut c equip equipped none ∧
      (hook.run c).run.Walk installed (.ok ()) ∧ Cut c (hooks.map .hook) later none := by
  obtain ⟨before, making, rfl, hbefore, hmaking⟩ := h.split
  cases hmaking with
  | passed hcreate hrest =>
      cases hcreate
      obtain ⟨equipped, hooked, rfl, hequipped, hhooked⟩ := hrest.split
      cases hhooked with
      | passed hhook hlater =>
          cases hhook with
          | hook hrun =>
              exact ⟨before, equipped, _, _, rfl, hbefore, hequipped, hrun, hlater⟩

/-- A start that lists clusters and reuses one makes none. -/
theorem Cut.not_broughtUp {c : Cluster} {names : List String} {name path : String}
    {events : List (Event World.calls)} (h : Cut c [.provider .list names,
      .provider (.exportKubeconfig name path) ()] events none) : ¬ BroughtUp events := by
  cases h with
  | passed hlist hrest =>
      cases hlist
      cases hrest with
      | passed hexport hdone =>
          cases hexport
          cases hdone
          exact ((quiet_nil.cons rfl).cons rfl).not_broughtUp

/-- What a start gives that brought a cluster up is a lease of that cluster. -/
theorem Started.made_of_broughtUp {tempDir : String} {s : Setup}
    {events : List (Event World.calls)} {lease : Lease} (h : Started tempDir s events (.ok lease))
    (hup : BroughtUp events) :
    ∃ config, ClusterConfig.ofOptions s.name s.options = .ok config ∧
      lease = .ofSetup s ⟨config.name, config.kubeconfigPath tempDir⟩ s.cleanup := by
  cases h with
  | reused _ _ _ => exact absurd hup ((quiet_nil.cons rfl).cons rfl).not_broughtUp
  | made hconfig hmade =>
      cases hmade with
      | kept _ _ _ _ => exact ⟨_, hconfig, rfl⟩

namespace Lease

variable {tempDir : String} {env : Environment} {setup : Setup}
  {events : List (Event World.calls)}

/-- A setup whose ingress is wanted on port zero is no good. -/
theorem isUnusable_of_noPort (hingress : setup.ingress = true)
    (hport : setup.wantedIngressPort env = 0) : (setup.resolve env).IsUnusable :=
  Or.inr ⟨_, Setup.mapped_of_ingress hingress env, Or.inr hport⟩

/-- What is handed to the provider publishes the ports of the setup, and then the wanted one. -/
theorem publishedPorts?_request (tempDir : String) {config : ClusterConfig}
    (hingress : setup.ingress = true) (hdocument : setup.options.rawConfig = none)
    (hconfig : config.options = (setup.resolve env).options) :
    ClusterConfig.publishedPorts? (Cluster.request tempDir config).config =
      some (setup.options.nodePorts.map NodePort.numbers ++
        [((Ingress.nodePort.toNat : Int), ((setup.wantedIngressPort env).toNat : Int))]) := by
  obtain ⟨hoptions, -, -, -⟩ := Setup.resolve_of_ingress hingress env
  rw [hoptions] at hconfig
  have hrender : (Cluster.request tempDir config).config =
      ClusterConfig.composed config.options := by
    show config.render = _
    rw [ClusterConfig.render, hconfig]
    simp only [hdocument]
  rw [hrender, ClusterConfig.publishedPorts?_composed, hconfig, List.map_append]
  rfl

/-- A start that brought a cluster up found its host ports to be free before, and ran the hooks
    afterwards, the first one first. -/
theorem hooked_of_walk {s : Setup} {hook : Hook} {hooks : List Hook} {lease : Lease}
    (hhooks : s.hooks = hook :: hooks) (h : (startResolved tempDir s).run.Walk events (.ok lease))
    (hup : BroughtUp events) :
    ∃ (config : ClusterConfig) (before equipped installed later : List (Event World.calls)),
      config.options = s.options ∧
      lease = ofSetup s ⟨config.name, config.kubeconfigPath tempDir⟩ s.cleanup ∧
      stageCalls events = before ++ told (.create (Cluster.request tempDir config)) (.ok ()) ::
        (equipped ++ (installed ++ later)) ∧
      (∀ port ∈ s.options.nodePorts, ∃ bound : UInt16,
        ⟨.host (.bind Cluster.hostAddress port.host), Except.ok bound⟩ ∈ before) ∧
      (∀ e ∈ before ++ equipped, ¬ World.IsOfHook e.call) ∧
      (hook.run lease.cluster).run.Walk installed (.ok ()) ∧
      Cut lease.cluster (hooks.map .hook) later none := by
  obtain ⟨config, hconfig, rfl⟩ := (started_startResolved h).made_of_broughtUp hup
  obtain ⟨a, hevents, hcut, hundoing⟩ := cut_startSteps hconfig h
  obtain ⟨-, -, hoptions⟩ := Setup.usable_of_ok hconfig
  -- nothing failed, so nothing was undone
  cases hundoing
  rw [List.append_nil] at hevents
  rw [← hevents] at hcut
  rcases startSteps_cases tempDir config s.reuse s.hooks a with hreused | ⟨lead, hlead, hmaking⟩
  · rw [hreused] at hcut
    obtain ⟨request, hmem⟩ := hup
    exact absurd ⟨request, List.mem_filter.2 ⟨hmem, rfl⟩⟩ hcut.not_broughtUp
  · -- the steps up to the one that makes the cluster, and those from there to the hooks
    have hsteps : lead ++ (createSteps tempDir config a ++ s.hooks.map .hook) =
        (lead ++ (s.options.nodePorts.map .probe ++ config.image?.toList.map .nodeImage)) ++
          (.provider (.create (Cluster.request tempDir config)) () ::
            ((.provider (.exportKubeconfig config.name (config.kubeconfigPath tempDir)) () ::
              preloadSteps config.name config.options.images a) ++
            (.hook hook :: hooks.map .hook))) := by
      rw [hhooks, createSteps, hoptions]
      simp
    rw [hmaking, hsteps] at hcut
    obtain ⟨before, equipped, installed, later, hparts, hbefore, hequipped, hrun, hlater⟩ :=
      hcut.made
    refine ⟨config, before, equipped, installed, later, hoptions, rfl, hparts, ?_, ?_, hrun, hlater⟩
    · intro port hport
      have hstep : .probe port ∈
          lead ++ (s.options.nodePorts.map .probe ++ config.image?.toList.map .nodeImage) :=
        List.mem_append_right _ (List.mem_append_left _ (List.mem_map_of_mem hport))
      obtain ⟨asked, hasked, hsubset⟩ := hbefore.passes_of_mem hstep
      cases hasked
      exact ⟨_, hsubset (List.mem_singleton_self _)⟩
    · intro e he
      rcases List.mem_append.1 he with he | he
      · refine hbefore.not_isOfHook ?_ e he
        rw [List.all_append, List.all_append, hlead, List.all_map, List.all_map]
        simp [Step.isHook]
      · exact hequipped.not_isOfHook (all_preloadSteps _ _ a) e he

/-- A start that brought a cluster up has published the ingress. -/
theorem ingressPublished_of_walk {lease : Lease} (hingress : setup.ingress = true)
    (hdocument : setup.options.rawConfig = none)
    (h : (start tempDir env setup).run.Walk events (.ok lease)) (hup : BroughtUp events) :
    IngressPublished setup (setup.wantedIngressPort env) lease (stageCalls events) := by
  obtain ⟨-, hhooks, haddress, hport⟩ := Setup.resolve_of_ingress hingress env
  obtain ⟨config, before, equipped, installed, later, hconfig, hlease, hevents, hfree, hunhooked,
    hinstalled, hlater⟩ := hooked_of_walk hhooks h hup
  obtain ⟨client, m, stored, fetched, applied, rfl, happlied⟩ := Ingress.walk_install_ok hinstalled
  have hpublished := publishedPorts?_request tempDir hingress hdocument hconfig
  have hnamed : lease.ingressUrl = "http://" ++ setup.ingressAddress ++ ":" ++
      Text.decimal (setup.wantedIngressPort env).toNat := by
    rw [hlease, ingressUrl, ofSetup, haddress, hport]
  obtain ⟨bound, hbound⟩ := hfree _ (Setup.mapped_of_ingress hingress env)
  rw [hevents]
  exact .intro hnamed hbound Ingress.pinnedPort?_controllerService hpublished hunhooked hinstalled
    happlied hlater

/-- **THE PUBLISHED INGRESS.**  Under every handler, a setup with ingress and without a document
    of its own: if the wanted port is zero, the start is rejected and nothing is asked; and if
    the start brings a cluster up and gives a lease, the ingress is published. -/
theorem ingress_published {σ : Type} (handle : Handler World.calls σ) (s : σ) (tempDir : String)
    (env : Environment) (setup : Setup) (hingress : setup.ingress = true)
    (hdocument : setup.options.rawConfig = none) :
    (setup.wantedIngressPort env = 0 →
      (start tempDir env setup).run.trace handle s = [] ∧
      ∃ fault, ((start tempDir env setup).run.run handle s).1 = .error (.invalidConfig fault)) ∧
    ∀ lease, ((start tempDir env setup).run.run handle s).1 = .ok lease →
      BroughtUp ((start tempDir env setup).run.trace handle s) →
      IngressPublished setup (setup.wantedIngressPort env) lease
        (stageCalls ((start tempDir env setup).run.trace handle s)) := by
  have hwalk := Program.walk_run handle (start tempDir env setup).run s
  constructor
  · intro hport
    generalize (start tempDir env setup).run.trace handle s = events at hwalk ⊢
    generalize ((start tempDir env setup).run.run handle s).1 = r at hwalk ⊢
    cases startsInOrder_of_walk hwalk with
    | rejected _ => exact ⟨rfl, _, rfl⟩
    | taken husable _ _ _ => exact absurd (isUnusable_of_noPort hingress hport) husable
  · intro lease hlease hup
    rw [hlease] at hwalk
    exact ingressPublished_of_walk hingress hdocument hwalk hup

end Lease

/-! ## A world in which the ingress can be installed -/

/-- A kubeconfig that leads to a server. -/
def oneContext : String :=
  "contexts: [\x7bname: a, context: \x7bcluster: a, user: a\x7d\x7d]\n" ++
  "clusters: [\x7bname: a, cluster: \x7bserver: a\x7d\x7d]\n" ++
  "users: [\x7bname: a, user: \x7b\x7d\x7d]\ncurrent-context: a\n"

/-- A server that lists services, and replies alike whatever it is sent. -/
def servicesReply : Api.Request → Api.Reply
  | .get _ => ⟨200, ("\x7b\"groupVersion\":\"v1\",\"resources\":" ++
      "[\x7b\"kind\":\"Service\",\"name\":\"services\"\x7d]\x7d").toUTF8.toList⟩
  | .patch .. => ⟨200, "\x7b\"metadata\":\x7b\x7d\x7d".toUTF8.toList⟩

/-- A world in which nothing fails, not even the installation of the controller. -/
def installing : Handler World.calls Unit := fun call s =>
  match call with
  | .provider (.exportKubeconfig ..) => (Except.ok (), s)
  | .host (.readFile _) => (Except.ok oneContext.toUTF8.toList, s)
  | .host (.fetch _) => (Except.ok "kind: Service\napiVersion: v1\nmetadata:\n  name: a\n", s)
  | .host (.exchange _ request) => (Except.ok (servicesReply request), s)
  | call => unexportable call s

section Installing

variable {α β : Type} {x : Attempt World.calls α} {f : α → Attempt World.calls β} {a : α}

/-- What comes after an attempt that succeeds goes on from its result. -/
theorem run_bind_installing (h : (x.run.run installing ()).1 = .ok a) :
    (x >>= f).run.run installing () = (f a).run.run installing () :=
  Attempt.run_bind_ok f (Prod.ext h rfl)

theorem run_orDelete_installing {c : Cluster} (h : (x.run.run installing ()).1 = .ok a) :
    ((c.orDelete x).run.run installing ()).1 = .ok a := by
  show ((Program.bind x.run _).run installing ()).1 = _
  rw [Program.run_bind, h]
  rfl

theorem run_ofFile_installing (path : String) :
    ((ClientConfig.ofFile path).run.run installing ()).1 = .ok ⟨"a", "default"⟩ := by
  have hread : ((Kubeconfig.ofBytes? oneContext.toUTF8.toList).bind Kubeconfig.client?) =
    some ⟨"a", "default"⟩ := by
    rw [Kubeconfig.ofBytes?, Text.decode?_toUTF8]
    decide +kernel
  rw [ClientConfig.ofFile, run_bind_installing (a := .ok oneContext.toUTF8.toList) rfl]
  dsimp only
  rw [hread]
  rfl

/-- What a client remembers after the first manifest. -/
def services : Mappings := ⟨[(⟨"v1", "Service"⟩, ⟨⟨"", "v1", "v1", "Service", "services"⟩, false⟩)]⟩

deriving instance DecidableEq for Mappings

theorem run_applyFetched_installing :
    ((Ingress.applyFetched ⟨"a", "default"⟩ {} Ingress.manifestUrls).run.run installing ()).1 =
      .ok services :=
  ok_of_toOption (by decide +kernel)

theorem run_applyManifest_installing {c : ClientConfig} {m : Mappings} {manifest : String}
    {objects : List Object} (hparse : Manifest.parse manifest = .ok objects)
    (h : ((withServer c.server (applyObjects m 0 objects)).run installing ()).1.1.toOption.isSome =
      true) : ∃ stored, ((c.applyManifest m manifest).run.run installing ()).1 = .ok stored := by
  have happly : apply m manifest = applyObjects m 0 objects := by
    rw [apply, hparse]
  have hlift : ((ExceptT.lift (withServer c.server (applyObjects m 0 objects)) :
      Attempt World.calls _).run.run installing ()).1 =
        .ok ((withServer c.server (applyObjects m 0 objects)).run installing ()).1 := by
    show ((Program.bind (withServer c.server (applyObjects m 0 objects)) _).run installing ()).1 = _
    rw [Program.run_bind]
    rfl
  rw [ClientConfig.applyManifest, happly, run_bind_installing hlift]
  generalize ((withServer c.server (applyObjects m 0 objects)).run installing ()).1 = r at h ⊢
  obtain ⟨(e | stored), m'⟩ := r
  · exact nomatch h
  · exact ⟨_, rfl⟩

theorem run_controllerService_installing :
    ∃ stored, ((ClientConfig.applyManifest ⟨"a", "default"⟩ services
      Ingress.controllerService).run.run installing ()).1 = .ok stored := by
  have hlines : ∃ lines : List String,
      Ingress.controllerService = String.join (lines.map (· ++ "\n")) ∧
      (Manifest.objectsOfChars? (lines.flatMap (·.toList ++ ['\n']))).any
        (fun objects => !objects.isEmpty && ((withServer "a"
          (applyObjects services 0 objects)).run installing ()).1.1.toOption.isSome) = true :=
    ⟨_, rfl, by decide +kernel⟩
  obtain ⟨lines, hlines, hread⟩ := hlines
  obtain ⟨objects, hparse, happlied⟩ := Manifest.parse_of_lines hread
  rw [hlines]
  exact run_applyManifest_installing hparse happlied

/-- The ingress hook succeeds. -/
theorem run_ingress_installing (c : Cluster) :
    (((Hook.ingress Ingress.manifestUrls).run c).run.run installing ()).1 = .ok () := by
  obtain ⟨stored, hstored⟩ := run_controllerService_installing
  rw [Hook.run, Ingress.install, run_bind_installing (run_ofFile_installing c.kubeconfig),
    run_bind_installing run_applyFetched_installing, run_bind_installing hstored]
  rfl

theorem run_hook_installing {c : Cluster} {hook : Hook}
    (h : ((hook.run c).run.run installing ()).1 = .ok ()) :
    ((hook.apply c).run.run installing ()).1 = .ok () := by
  show ((Program.bind (hook.run c).run _).run installing ()).1 = _
  rw [Program.run_bind, h]
  rfl

/-- Where a cluster can be brought up, and its hooks succeed, a start gives a lease of it. -/
theorem run_startResolved_installing {tempDir : String} {s : Setup} {config : ClusterConfig}
    {c : Cluster} (hconfig : ClusterConfig.ofOptions s.name s.options = .ok config)
    (hcreated : ((Cluster.create tempDir config).run.run installing ()).1 = .ok c)
    (hhooks : ((s.hooks.forM (Hook.apply c)).run.run installing ()).1 = .ok ()) :
    ((Lease.startResolved tempDir s).run.run installing ()).1 =
      .ok (.ofSetup s c s.cleanup) := by
  have hfound : ((Cluster.find? tempDir config.name
      (some (config.kubeconfigPath tempDir))).run.run installing ()).1 = .ok none := rfl
  have hsettled : ((Lease.settle s.options.waitSeconds).run.run installing ()).1 = .ok () := by
    cases s.options.waitSeconds <;> rfl
  rw [Lease.startResolved, hconfig]
  dsimp only
  rw [run_bind_installing hfound, Lease.createFor, run_bind_installing hcreated,
    run_bind_installing (run_orDelete_installing hhooks), run_bind_installing hsettled]
  rfl

end Installing

/-- A setup with a port and a hook of its own, whose ingress port the environment overrides. -/
def overriddenSetup : Setup where
  options := { nodePorts := [⟨30443, 8443⟩] }
  ingress := true
  hooks := [.custom "seed"]
  heedsEnvironment := true

/-- The environment that does so. -/
def portVariable : Environment :=
  Environment.empty.update (Overrides.variableName "INGRESS_PORT") (some " 9090 ")

/-- The configuration that is carried out. -/
def overriddenConfig : ClusterConfig where
  name := "e2e-cluster"
  options := { nodePorts := [⟨30443, 8443⟩, ⟨30080, 9090⟩] }
  name_ne_empty := by decide
  nodePorts_valid := by decide

theorem run_start_installing :
    ((Lease.start "/tmp" portVariable overriddenSetup).run.run installing ()).1 =
      .ok ⟨⟨"e2e-cluster", "/tmp/e2e-cluster-kubeconfig"⟩, true, "localhost", 9090⟩ := by
  have hresolve : overriddenSetup.resolve portVariable = { overriddenSetup with
      options := overriddenConfig.options
      hooks := [.ingress Ingress.manifestUrls, .custom "seed"]
      ingressPort := 9090 } := by
    decide +kernel
  rw [Lease.start, hresolve]
  have hconfig : ClusterConfig.ofOptions "e2e-cluster" overriddenConfig.options =
      .ok overriddenConfig := by rfl
  refine run_startResolved_installing hconfig (by rfl) ?_
  exact congrArg Prod.fst (run_bind_installing (run_hook_installing (run_ingress_installing _)))

theorem ingress_published_overridden :
    overriddenSetup.ingress = true ∧ overriddenSetup.options.rawConfig = none ∧
    ∃ lease : Lease, lease.ingressUrl = "http://localhost:9090" ∧
      ((Lease.start "/tmp" portVariable overriddenSetup).run.run installing ()).1 = .ok lease ∧
      IngressPublished overriddenSetup 9090 lease
        (stageCalls
          ((Lease.start "/tmp" portVariable overriddenSetup).run.trace installing ())) := by
  have hwalk := Program.walk_run installing
    (Lease.start "/tmp" portVariable overriddenSetup).run ()
  rw [run_start_installing] at hwalk
  have hup := ((Lease.started_startResolved hwalk).cleansUp_iff.1 rfl).1
  have hport : overriddenSetup.wantedIngressPort portVariable = 9090 := by decide +kernel
  refine ⟨rfl, rfl, _, by decide +kernel, run_start_installing, ?_⟩
  rw [← hport]
  exact (Lease.ingress_published installing () "/tmp" portVariable overriddenSetup rfl rfl).2 _
    run_start_installing hup

end TestCluster
