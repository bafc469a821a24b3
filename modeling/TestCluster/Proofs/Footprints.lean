import TestCluster.Lease
import TestCluster.Proofs.Walk

/-!
# Footprints — what each stage may ask, said once

    Every stage in the life of a cluster asks calls of a few shapes, whatever it is answered.
    Its footprint lists them, and one lemma says that the stage keeps to it.  What holds of
    every call of the footprint then holds of every call on every walk (`Asks.mono`), so that
    a property of calls is checked against the footprint and not against the stage.
-/

namespace TestCluster

/-! ## Single calls -/

namespace World

variable {α : Type}

theorem asks_withTemporary {P : Call → Prop} {nameStart nameEnd : String}
    {work : String → Attempt calls α} (hmake : P (.host (.makeTemporary nameStart nameEnd)))
    (hremove : ∀ path, P (.host (.remove path))) (h : ∀ path, (work path).run.Asks P) :
    (withTemporary nameStart nameEnd work).run.Asks P := by
  intro events r hw e he
  rcases walk_withTemporary.1 hw with ⟨fault, rfl, -⟩ | ⟨path, inner, rfl, hi⟩
  · obtain rfl := List.mem_singleton.1 he
    exact hmake
  · rcases List.mem_cons.1 he with rfl | he
    · exact hmake
    · rcases List.mem_append.1 he with he | he
      · exact h path inner r hi e he
      · obtain rfl := List.mem_singleton.1 he
        exact hremove path

theorem asks_host {P : Call → Prop} {c : Host.Call} (h : P (.host c)) : (host c).Asks P :=
  Program.asks_call (I := calls) h

theorem asks_tryProvider {P : Call → Prop} {c : Provider.Call} (f : CommandError → Error)
    (h : P (.provider c)) : (tryProvider c f).run.Asks P :=
  (Program.asks_call (I := calls) h).map _

theorem asks_tryImages {P : Call → Prop} {c : ImageTool.Call} (f : CommandError → Error)
    (h : P (.images c)) : (tryImages c f).run.Asks P :=
  (Program.asks_call (I := calls) h).map _

end World

/-! ## What hooks ask -/

/-- Whether a call is one that a hook may ask: to read a kubeconfig, to fetch a manifest, to talk
    to the API server, or to run a hook of which nothing but its name is known. -/
def World.Call.isOfHook : World.Call → Bool
  | .hook .. => true
  | .host (.readFile _) => true
  | .host (.exchange ..) => true
  | .host (.fetch _) => true
  | _ => false

/-- A call that a hook may ask. -/
abbrev World.IsOfHook (call : World.Call) : Prop := call.isOfHook = true

namespace ClientConfig

open World

theorem asks_ofFile (path : String) : (ofFile path).run.Asks IsOfHook := by
  refine Attempt.asks_bind (Attempt.asks_lift (asks_host rfl)) ?_
  intro answer
  cases answer with
  | error fault => exact Attempt.asks_throw _ _
  | ok bytes =>
      dsimp only
      split
      · exact Attempt.asks_pure _ _
      · exact Attempt.asks_throw _ _

theorem asks_applyManifest (c : ClientConfig) (m : Mappings) (manifest : String) :
    (c.applyManifest m manifest).run.Asks IsOfHook := by
  refine Attempt.asks_bind (Attempt.asks_lift ?_) fun answer => ?_
  · exact Program.asks_expand (fun request => asks_host (P := IsOfHook) rfl) _
  · obtain ⟨stored | e, m⟩ := answer
    · exact Attempt.asks_throw _ _
    · exact Attempt.asks_pure _ _

end ClientConfig

namespace Ingress

open World

theorem asks_fetch (url : String) : (fetch url).run.Asks IsOfHook := by
  refine Attempt.asks_bind (Attempt.asks_lift (asks_host rfl)) ?_
  intro answer
  cases answer with
  | error fault => exact Attempt.asks_throw _ _
  | ok text => exact Attempt.asks_pure _ _

theorem asks_applyFetched (c : ClientConfig) (m : Mappings) (urls : List String) :
    (applyFetched c m urls).run.Asks IsOfHook := by
  induction urls generalizing m with
  | nil => exact Attempt.asks_pure _ m
  | cons url urls ih =>
      refine Attempt.asks_bind (asks_fetch url) ?_
      intro manifest
      exact Attempt.asks_bind (c.asks_applyManifest m manifest) fun stored => ih stored.2

theorem asks_install (kubeconfig : String) (urls : List String) :
    (install kubeconfig urls).run.Asks IsOfHook := by
  refine Attempt.asks_bind (ClientConfig.asks_ofFile kubeconfig) ?_
  intro c
  refine Attempt.asks_bind (asks_applyFetched c {} urls) ?_
  intro m
  exact Attempt.asks_bind (c.asks_applyManifest m _) fun _ => Attempt.asks_pure _ ()

end Ingress

theorem Hook.asks_run (c : Cluster) (hook : Hook) : (hook.run c).run.Asks World.IsOfHook := by
  cases hook with
  | custom name => exact Program.asks_call (I := World.calls) rfl
  | manifest name text =>
      refine Attempt.asks_bind (ClientConfig.asks_ofFile c.kubeconfig) ?_
      intro config
      exact Attempt.asks_bind (config.asks_applyManifest {} text) fun _ =>
        Attempt.asks_pure _ ()
  | ingress urls => exact Ingress.asks_install c.kubeconfig urls

/-! ## What the stages ask -/

namespace Cluster

open World

/-- What finding out whether host ports are free may ask. -/
inductive Probes : World.Call → Prop where
  | bind (port : UInt16) : Probes (.host (.bind hostAddress port))
  | release (port : UInt16) : Probes (.host (.release hostAddress port))

/-- What getting images onto this machine may ask. -/
inductive Fetches : World.Call → Prop where
  | check (image : String) : Fetches (.images (.exists_ image))
  | pull (image : String) : Fetches (.images (.pull image))

/-- What putting images into the nodes of a cluster may ask. -/
inductive Preloads (cluster : String) : World.Call → Prop where
  | fetch {call : World.Call} : Fetches call → Preloads cluster call
  | archive : Preloads cluster (.host (.makeTemporary "e2e-images-" ".tar"))
  | save (images : List String) (archive : String) :
      Preloads cluster (.images (.save images archive))
  | load (node archive : String) : Preloads cluster (.provider (.load cluster node archive))
  | remove (archive : String) : Preloads cluster (.host (.remove archive))

/-- What equipping a cluster that is up may ask. -/
inductive Equips (c : Cluster) : World.Call → Prop where
  | exportKubeconfig : Equips c (.provider (.exportKubeconfig c.name c.kubeconfig))
  | nodes : Equips c (.provider (.nodes c.name))
  | preload {call : World.Call} : Preloads c.name call → Equips c call

/-- What bringing a cluster up may ask. -/
inductive Creates (tempDir : String) (config : ClusterConfig) : World.Call → Prop where
  | probe {call : World.Call} : Probes call → Creates tempDir config call
  | fetch {call : World.Call} : Fetches call → Creates tempDir config call
  | create : Creates tempDir config (.provider (.create (request tempDir config)))
  | equip {call : World.Call} :
      Equips ⟨config.name, config.kubeconfigPath tempDir⟩ call → Creates tempDir config call
  | delete :
      Creates tempDir config (.provider (.delete config.name (config.kubeconfigPath tempDir)))

theorem asks_checkHostPort (port : NodePort) : (checkHostPort port).run.Asks Probes := by
  refine Attempt.asks_bind (Attempt.asks_lift (asks_host (.bind port.host))) ?_
  intro answer
  cases answer with
  | error cause => exact Attempt.asks_throw _ _
  | ok bound => exact Attempt.asks_lift (asks_host (.release bound))

theorem asks_pullNodeImage (image : Option String) : (pullNodeImage image).run.Asks Fetches := by
  cases image with
  | none => exact Attempt.asks_pure _ ()
  | some image => exact asks_tryImages _ (.pull image)

theorem asks_ensureImage (image : String) : (ensureImage image).run.Asks Fetches := by
  refine Attempt.asks_bind (asks_tryImages _ (.check image)) ?_
  intro present
  cases present with
  | true => exact Attempt.asks_pure _ ()
  | false => exact asks_tryImages _ (.pull image)

theorem asks_preload (cluster : String) (nodes images : List String) :
    (preload cluster nodes images).run.Asks (Preloads cluster) := by
  rw [preload]
  split
  · exact Attempt.asks_pure _ ()
  · have hfetch : ∀ image ∈ images, (ensureImage image).run.Asks (Preloads cluster) :=
      fun image _ => (asks_ensureImage image).mono fun _ => .fetch
    refine Attempt.asks_bind (Attempt.asks_forM hfetch) fun _ => ?_
    refine asks_withTemporary .archive .remove ?_
    intro archive
    refine Attempt.asks_bind (asks_tryImages _ (.save images archive)) fun _ => ?_
    exact Attempt.asks_forM fun node _ => asks_tryProvider _ (.load node archive)

theorem asks_equip (c : Cluster) (images : List String) :
    (c.equip images).run.Asks (Equips c) := by
  refine Attempt.asks_bind (asks_tryProvider _ .exportKubeconfig) fun _ => ?_
  split
  · exact Attempt.asks_pure _ ()
  · refine Attempt.asks_bind (asks_tryProvider _ .nodes) ?_
    intro nodes
    exact (asks_preload c.name nodes images).mono fun _ => .preload

theorem asks_orDelete {α : Type} {P : World.Call → Prop} {c : Cluster}
    {work : Attempt World.calls α} (hwork : work.run.Asks P)
    (hdelete : P (.provider (.delete c.name c.kubeconfig))) : (c.orDelete work).run.Asks P := by
  refine Program.Asks.bind hwork ?_
  intro result
  cases result with
  | ok a => exact Program.asks_done (I := calls) P _
  | error cause =>
      exact Program.Asks.bind (asks_tryProvider _ hdelete) fun _ =>
        Program.asks_done (I := calls) P _

theorem asks_create (tempDir : String) (config : ClusterConfig) :
    (create tempDir config).run.Asks (Creates tempDir config) := by
  have hprobe : ∀ port ∈ config.options.nodePorts,
      (checkHostPort port).run.Asks (Creates tempDir config) :=
    fun port _ => (asks_checkHostPort port).mono fun _ => .probe
  refine Attempt.asks_bind (Attempt.asks_forM hprobe) fun _ => ?_
  refine Attempt.asks_bind ((asks_pullNodeImage _).mono fun _ => .fetch) fun _ => ?_
  refine Attempt.asks_bind (asks_tryProvider _ .create) fun _ => ?_
  refine Attempt.asks_bind (asks_orDelete ((asks_equip _ _).mono fun _ => .equip) .delete) ?_
  exact fun _ => Attempt.asks_pure _ _

/-- A cluster that was brought up is the one of the configuration. -/
theorem eq_of_create {tempDir : String} {config : ClusterConfig} {c : Cluster}
    {events : List (Event World.calls)}
    (h : (create tempDir config).run.Walk events (.ok c)) :
    c = ⟨config.name, config.kubeconfigPath tempDir⟩ := by
  obtain ⟨_, _, _, -, -, h⟩ := Attempt.walk_bind_ok.1 h
  obtain ⟨_, _, _, -, -, h⟩ := Attempt.walk_bind_ok.1 h
  obtain ⟨_, _, _, -, -, h⟩ := Attempt.walk_bind_ok.1 h
  obtain ⟨_, _, _, -, -, h⟩ := Attempt.walk_bind_ok.1 h
  exact Except.ok.inj (Attempt.walk_pure.1 h).2

/-- A cluster that was found has the name and the kubeconfig that it was looked up with. -/
theorem eq_of_find? {tempDir name path : String} {c : Cluster} {events : List (Event World.calls)}
    (h : (find? tempDir name (some path)).run.Walk events (.ok (some c))) : c = ⟨name, path⟩ := by
  obtain ⟨_, listed, _, -, -, h⟩ := Attempt.walk_bind_ok.1 h
  cases listed with
  | true =>
      obtain ⟨_, _, _, -, -, h⟩ := Attempt.walk_bind_ok.1 h
      exact Option.some.inj (Except.ok.inj (Attempt.walk_pure.1 h).2)
  | false => exact nomatch (Attempt.walk_pure.1 h).2

end Cluster

namespace Lease

open World

/-- What finding or making the cluster of a configuration may ask, and tearing it down in the
    end. -/
inductive Uses (tempDir : String) (config : ClusterConfig) : World.Call → Prop where
  | list : Uses tempDir config (.provider .list)
  | create {call : World.Call} :
      Cluster.Creates tempDir config call → Uses tempDir config call
  | hook {call : World.Call} : IsOfHook call → Uses tempDir config call
  | pause (seconds : UInt64) : Uses tempDir config (.host (.pause seconds))

theorem asks_find? {P : World.Call → Prop} {tempDir name path : String}
    (hlist : P (.provider .list)) (hexport : P (.provider (.exportKubeconfig name path))) :
    (Cluster.find? tempDir name (some path)).run.Asks P := by
  have hlisted : (Cluster.isListed name).run.Asks P :=
    Attempt.asks_bind (asks_tryProvider _ hlist) fun _ => Attempt.asks_pure _ _
  refine Attempt.asks_bind hlisted ?_
  intro listed
  cases listed with
  | true => exact Attempt.asks_bind (asks_tryProvider _ hexport) fun _ => Attempt.asks_pure _ _
  | false => exact Attempt.asks_pure _ _

/-- What is done for a cluster that was brought up asks what hooks ask, and to wait; and to tear
    the cluster down, if a hook fails. -/
theorem asks_furnish {P : World.Call → Prop} {c : Cluster} (s : Setup)
    (hhook : ∀ call, IsOfHook call → P call) (hpause : ∀ n, P (.host (.pause n)))
    (hdelete : P (.provider (.delete c.name c.kubeconfig))) :
    (do
      c.orDelete (s.hooks.forM (Hook.apply c))
      settle s.options.waitSeconds
      pure (ofSetup s c s.cleanup) : Attempt World.calls Lease).run.Asks P := by
  have hhooks : (s.hooks.forM (Hook.apply c)).run.Asks P :=
    Attempt.asks_forM fun hook _ => ((hook.asks_run c).mono hhook).map _
  refine Attempt.asks_bind (Cluster.asks_orDelete hhooks hdelete) fun _ => ?_
  refine Attempt.asks_bind ?_ fun _ => Attempt.asks_pure _ _
  cases s.options.waitSeconds with
  | none => exact Attempt.asks_pure _ ()
  | some seconds => exact Attempt.asks_lift (asks_host (hpause seconds))

theorem asks_createFor (tempDir : String) (s : Setup) (config : ClusterConfig) :
    (createFor tempDir s config).run.Asks (Uses tempDir config) := by
  have hcreate := (Cluster.asks_create tempDir config).mono fun _ => Uses.create
  refine Attempt.asks_bind_of hcreate ?_
  intro made cluster hok
  obtain rfl := Cluster.eq_of_create hok
  exact asks_furnish s (fun _ => .hook) .pause (.create .delete)

/-- A start keeps to the footprint of the configuration that it carries out. -/
theorem asks_startResolved {tempDir : String} {s : Setup} {config : ClusterConfig}
    (hconfig : ClusterConfig.ofOptions s.name s.options = .ok config) :
    (startResolved tempDir s).run.Asks (Uses tempDir config) := by
  rw [startResolved, hconfig]
  have hfind : (Cluster.find? tempDir config.name
      (some (config.kubeconfigPath tempDir))).run.Asks (Uses tempDir config) :=
    asks_find? .list (.create (.equip .exportKubeconfig))
  refine Attempt.asks_bind_of hfind ?_
  intro looked found hok
  cases found with
  | none => exact asks_createFor tempDir s config
  | some cluster =>
      obtain rfl := Cluster.eq_of_find? hok
      dsimp only
      split
      · exact Attempt.asks_pure _ _
      · refine Attempt.asks_bind (asks_tryProvider _ (.create .delete)) fun _ => ?_
        exact asks_createFor tempDir s config

end Lease

end TestCluster
