import TestCluster.Proofs.Ownership

/-!
# One aim — the name, the kubeconfig and the node image of a whole run

    What a run is about is settled before it asks anything: the name of the cluster, where its
    kubeconfig goes, and the image of its nodes.  They are worked out in one place each, from
    the setup and the environment, and every call of the run keeps to them, whether a cluster
    is reused, made anew, made for the first time, torn down after a failure or at the end.

    That calls keep to them is checked against the footprint of a start (`Uses.concerns`).
    What comes before or after what is carried from stage to stage: that the node image was
    pulled before a cluster is asked for (`PulledBefore`), and that the kubeconfig is exported
    last where a lease is given (`LastExport`).
-/

namespace TestCluster

open World

/-- What a run is about: a cluster with its kubeconfig, and the image of its nodes. -/
structure Aim where
  cluster : Cluster
  nodeImage : Option String
  deriving DecidableEq, Repr

/-- The image of the nodes of the version that is chosen, unless it is blank. -/
def Options.wantedImage (o : Options) : Option String :=
  (o.kubernetesVersion.filter fun version => Text.trim version ≠ "").map nodeImage

/-- What a run of a setup is about: the cluster of the wanted name, with the kubeconfig at the
    chosen place or else at the default one for this name, and the image of the version. -/
def Setup.aim (tempDir : String) (env : Environment) (s : Setup) : Aim where
  cluster.name := s.wantedName env
  cluster.kubeconfig :=
    s.options.kubeconfig.getD (defaultKubeconfigPath tempDir (s.wantedName env))
  nodeImage := s.options.wantedImage

/-- Whether a call to the provider is about the aim, in all that it says of a cluster. -/
def World.Call.Concerns (aim : Aim) : World.Call → Prop
  | .provider (.create request) =>
    request.name = aim.cluster.name ∧ request.kubeconfig = aim.cluster.kubeconfig ∧
      request.nodeImage = aim.nodeImage
  | .provider (.delete name path) => name = aim.cluster.name ∧ path = aim.cluster.kubeconfig
  | .provider (.exportKubeconfig name path) =>
    name = aim.cluster.name ∧ path = aim.cluster.kubeconfig
  | .provider (.nodes name) => name = aim.cluster.name
  | .provider (.load name _ _) => name = aim.cluster.name
  | _ => True

/-! ## The aim of a configuration -/

/-- What bringing up a configuration's cluster is about. -/
def ClusterConfig.aim (tempDir : String) (config : ClusterConfig) : Aim :=
  ⟨⟨config.name, config.kubeconfigPath tempDir⟩, config.image?⟩

theorem ClusterConfig.image?_eq (config : ClusterConfig) :
    config.image? = config.options.wantedImage := by
  rw [image?, Options.wantedImage]
  cases config.options.kubernetesVersion with
  | none => rfl
  | some version =>
      rw [Option.filter_some]
      by_cases hblank : Text.trim version = ""
      · simp [hblank]
      · simp [hblank]

/-- The ingress brings no other kubeconfig and no other version. -/
theorem Setup.resolve_options (s : Setup) (env : Environment) :
    (s.resolve env).options.kubeconfig = s.options.kubeconfig ∧
      (s.resolve env).options.kubernetesVersion = s.options.kubernetesVersion := by
  have hsame : (s.inEnvironment env).options = s.options := by
    rw [inEnvironment]
    split
    · rfl
    · rfl
  rw [resolve, withIngressParts, ← hsame]
  split
  · exact ⟨rfl, rfl⟩
  · exact ⟨rfl, rfl⟩

/-- The configuration that is carried out has the setup's aim. -/
theorem ClusterConfig.aim_eq {s : Setup} {env : Environment} {config : ClusterConfig}
    (h : ofOptions (s.resolve env).name (s.resolve env).options = .ok config)
    (tempDir : String) : config.aim tempDir = s.aim tempDir env := by
  obtain ⟨-, hname, hoptions⟩ := Setup.usable_of_ok h
  obtain ⟨-, -, hwanted⟩ := s.resolve_wants env
  obtain ⟨hkubeconfig, hversion⟩ := s.resolve_options env
  rw [ClusterConfig.aim, image?_eq, kubeconfigPath, hname, hoptions, hwanted, hkubeconfig,
    Options.wantedImage, hversion]
  rfl

/-- Every call of a start, and of a deletion at its end, is about the aim. -/
theorem Lease.Uses.concerns {tempDir : String} {config : ClusterConfig} {call : World.Call}
    (h : Lease.Uses tempDir config call) : call.Concerns (config.aim tempDir) := by
  cases h with
  | list => trivial
  | pause seconds => trivial
  | hook h =>
      cases call with
      | provider call => exact nomatch h
      | _ => trivial
  | create h =>
      cases h with
      | probe h => cases h <;> trivial
      | fetch h => cases h <;> trivial
      | create => exact ⟨rfl, rfl, rfl⟩
      | delete => exact ⟨rfl, rfl⟩
      | equip h =>
          cases h with
          | exportKubeconfig => exact ⟨rfl, rfl⟩
          | nodes => rfl
          | preload h =>
              cases h with
              | fetch h => cases h <;> trivial
              | load => rfl
              | _ => trivial

/-! ## Before a cluster is asked for -/

section Runs

variable {α β : Type} {image : Option String} {c : Cluster}
  {events lead rest : List (Event World.calls)}

/-- Wherever the provider is asked for a cluster, its node image has been pulled before, if it
    has one. -/
def PulledBefore (image : Option String) (events : List (Event World.calls)) : Prop :=
  ∀ before request answer after, events = before ++ told (.create request) answer :: after →
    ∀ i, image = some i → ⟨.images (.pull i), Except.ok ()⟩ ∈ before

/-- What asks for no cluster needs no image. -/
theorem pulledBefore_of_nothing (h : ∀ e ∈ events, World.CreatesNothing e.call) :
    PulledBefore image events := by
  rintro before request answer after rfl
  exact nomatch h _ (List.mem_append_right _ (List.mem_cons_self ..))

/-- Once the image is pulled, clusters may be asked for. -/
theorem PulledBefore.after_pull (hlead : PulledBefore image lead)
    (hpull : ∀ i, image = some i → ⟨.images (.pull i), Except.ok ()⟩ ∈ lead) :
    PulledBefore image (lead ++ rest) := by
  intro before request answer after heq i hi
  rcases split_append heq with ⟨more, rfl, -⟩ | ⟨more, rfl, -⟩
  · exact hlead before request answer more rfl i hi
  · exact List.mem_append_left _ (hpull i hi)

theorem PulledBefore.append (hlead : PulledBefore image lead) (hrest : PulledBefore image rest) :
    PulledBefore image (lead ++ rest) := by
  intro before request answer after heq i hi
  rcases split_append heq with ⟨more, rfl, -⟩ | ⟨more, rfl, hmore⟩
  · exact hlead before request answer more rfl i hi
  · exact List.mem_append_right _ (hrest more request answer after hmore i hi)

/-- On every walk the node image is pulled before a cluster is asked for. -/
def PullsBefore (image : Option String) (x : Attempt World.calls α) : Prop :=
  ∀ events r, x.run.Walk events r → PulledBefore image events

theorem pullsBefore_of_asks {x : Attempt World.calls α} (h : x.run.Asks World.CreatesNothing) :
    PullsBefore image x :=
  fun _ _ hwalk => pulledBefore_of_nothing (h _ _ hwalk)

theorem PullsBefore.bind {x : Attempt World.calls α} {f : α → Attempt World.calls β}
    (hx : PullsBefore image x) (hf : ∀ a, PullsBefore image (f a)) :
    PullsBefore image (x >>= f) := by
  intro events r h
  rcases Attempt.walk_bind.1 h with ⟨e, hfail, -⟩ | ⟨before, a, after, rfl, hok, hrest⟩
  · exact hx _ _ hfail
  · exact (hx _ _ hok).append (hf a _ _ hrest)

/-- A cluster is asked for only after its node image is pulled. -/
theorem pullsBefore_create (tempDir : String) (config : ClusterConfig) :
    PullsBefore config.image? (Cluster.create tempDir config) := by
  have hprobe : ∀ port ∈ config.options.nodePorts,
      (Cluster.checkHostPort port).run.Asks World.CreatesNothing := fun port _ =>
    (Cluster.quiet_checkHostPort port).mono fun _ => World.IsQuiet.createsNothing
  refine (pullsBefore_of_asks (Attempt.asks_forM hprobe)).bind fun _ => ?_
  intro events r h
  have hfetch := (Cluster.quiet_pullNodeImage config.image?).mono fun _ =>
    World.IsQuiet.createsNothing
  rcases Attempt.walk_bind.1 h with ⟨e, hfail, -⟩ | ⟨pulled, _, rest, rfl, hok, -⟩
  · exact pulledBefore_of_nothing (hfetch _ _ hfail)
  · refine (pulledBefore_of_nothing (hfetch _ _ hok)).after_pull ?_
    intro i hi
    rw [hi] at hok
    obtain ⟨(cause | _), rfl, ⟨⟩⟩ := walk_tryImages.1 hok
    exact List.mem_singleton_self _

theorem World.IsOfHook.createsNothing (call : World.Call) (h : World.IsOfHook call) :
    World.CreatesNothing call := by
  cases call with
  | provider call => exact nomatch h
  | _ => rfl

/-- Making a cluster for a setup asks for it only after its node image is pulled. -/
theorem pullsBefore_createFor (tempDir : String) (s : Setup) (config : ClusterConfig) :
    PullsBefore config.image? (Lease.createFor tempDir s config) := by
  refine (pullsBefore_create tempDir config).bind fun cluster => pullsBefore_of_asks ?_
  exact Lease.asks_furnish s World.IsOfHook.createsNothing (fun _ => rfl) rfl

theorem pullsBefore_startResolved {tempDir : String} {s : Setup} {config : ClusterConfig}
    (hconfig : ClusterConfig.ofOptions s.name s.options = .ok config) :
    PullsBefore config.image? (Lease.startResolved tempDir s) := by
  rw [Lease.startResolved, hconfig]
  refine (pullsBefore_of_asks (Lease.asks_find? rfl rfl)).bind ?_
  intro found
  cases found with
  | none => exact pullsBefore_createFor tempDir s config
  | some cluster =>
      dsimp only
      split
      · exact pullsBefore_of_asks (Attempt.asks_pure _ _)
      · exact (pullsBefore_of_asks (asks_tryProvider _ rfl)).bind fun _ =>
          pullsBefore_createFor tempDir s config

/-! ## The last export -/

/-- Whether a call exports a kubeconfig. -/
def World.Call.exports : World.Call → Bool
  | .provider (.exportKubeconfig ..) => true
  | _ => false

/-- A call that exports no kubeconfig. -/
abbrev World.ExportsNothing (call : World.Call) : Prop := call.exports = false

/-- The last export of a kubeconfig is that of the cluster to its own place, and it succeeds. -/
def LastExport (c : Cluster) (events : List (Event World.calls)) : Prop :=
  ∃ before after,
    events = before ++ told (.exportKubeconfig c.name c.kubeconfig) (.ok ()) :: after ∧
      ∀ e ∈ after, World.ExportsNothing e.call

theorem LastExport.after (lead : List (Event World.calls)) (h : LastExport c events) :
    LastExport c (lead ++ events) := by
  obtain ⟨before, after, rfl, hafter⟩ := h
  exact ⟨lead ++ before, after, (List.append_assoc ..).symm, hafter⟩

theorem LastExport.followed (h : LastExport c events)
    (hrest : ∀ e ∈ rest, World.ExportsNothing e.call) : LastExport c (events ++ rest) := by
  obtain ⟨before, after, rfl, hafter⟩ := h
  refine ⟨before, after ++ rest, List.append_assoc .., ?_⟩
  intro e he
  rcases List.mem_append.1 he with he | he
  · exact hafter e he
  · exact hrest e he

/-- Every walk that succeeds exports the cluster's kubeconfig last. -/
def ExportsLast (c : Cluster) (x : Attempt World.calls α) : Prop :=
  ∀ events a, x.run.Walk events (.ok a) → LastExport c events

theorem ExportsLast.after {f : α → Attempt World.calls β} (x : Attempt World.calls α)
    (hf : ∀ a, ExportsLast c (f a)) : ExportsLast c (x >>= f) := by
  intro events b h
  obtain ⟨lead, a, rest, rfl, -, hrest⟩ := Attempt.walk_bind_ok.1 h
  exact (hf a _ _ hrest).after lead

theorem ExportsLast.followed {x : Attempt World.calls α} {f : α → Attempt World.calls β}
    (hx : ExportsLast c x) (hf : ∀ a, (f a).run.Asks World.ExportsNothing) :
    ExportsLast c (x >>= f) := by
  intro events b h
  obtain ⟨lead, a, rest, rfl, hok, hrest⟩ := Attempt.walk_bind_ok.1 h
  exact (hx _ _ hok).followed (hf a _ _ hrest)

theorem exportsLast_exportKubeconfig (c : Cluster) : ExportsLast c c.exportKubeconfig := by
  intro events a h
  obtain ⟨(cause | _), rfl, ⟨⟩⟩ := walk_tryProvider.1 h
  exact ⟨[], [], rfl, nofun⟩

theorem exportsLast_equip (c : Cluster) (images : List String) :
    ExportsLast c (c.equip images) := by
  refine (exportsLast_exportKubeconfig c).followed fun _ => ?_
  split
  · exact Attempt.asks_pure _ _
  · refine Attempt.asks_bind (asks_tryProvider _ rfl) ?_
    intro nodes
    refine (Cluster.asks_preload _ nodes images).mono ?_
    rintro _ ⟨⟨⟩ | _⟩ <;> rfl

theorem ExportsLast.orDelete {work : Attempt World.calls α} {made : Cluster}
    (hwork : ExportsLast c work) : ExportsLast c (made.orDelete work) := by
  intro events a h
  rcases Cluster.walk_orDelete h with ⟨_, hok, -⟩ | ⟨_, _, _, -, -, ⟨⟩⟩
  exact hwork _ _ hok

theorem exportsLast_createFor (tempDir : String) (s : Setup) (config : ClusterConfig) :
    ExportsLast ⟨config.name, config.kubeconfigPath tempDir⟩
      (Lease.createFor tempDir s config) := by
  have hcreate : ExportsLast ⟨config.name, config.kubeconfigPath tempDir⟩
      (Cluster.create tempDir config) := by
    refine .after _ fun _ => .after _ fun _ => .after _ fun _ => ?_
    exact (exportsLast_equip _ _).orDelete.followed fun _ => Attempt.asks_pure _ _
  refine hcreate.followed ?_
  intro cluster
  refine Lease.asks_furnish s ?_ (fun _ => rfl) rfl
  intro call hcall
  cases call with
  | provider call => exact nomatch hcall
  | _ => rfl

/-- A start that gives a lease has exported the kubeconfig of its cluster last. -/
theorem exportsLast_startResolved {tempDir : String} {s : Setup} {config : ClusterConfig}
    (hconfig : ClusterConfig.ofOptions s.name s.options = .ok config) :
    ExportsLast ⟨config.name, config.kubeconfigPath tempDir⟩ (Lease.startResolved tempDir s) := by
  rw [Lease.startResolved, hconfig]
  intro events lease h
  obtain ⟨looked, found, rest, rfl, hfind, hrest⟩ := Attempt.walk_bind_ok.1 h
  cases found with
  | none => exact (exportsLast_createFor tempDir s config _ _ hrest).after looked
  | some cluster =>
      rcases Cluster.walk_find? hfind with
        ⟨_, _, ⟨⟩⟩ | ⟨names, ⟨-, -, ⟨⟩⟩ | ⟨-, (cause | _), rfl, ⟨⟩⟩⟩
      cases hreuse : s.reuse with
      -- the kubeconfig of the cluster that was found is the last one
      | true =>
          simp only [hreuse, if_true] at hrest
          obtain ⟨rfl, -⟩ := Attempt.walk_pure.1 hrest
          exact ⟨[told .list (.ok names)], [], rfl, by rintro _ ⟨⟩⟩
      | false =>
          simp only [hreuse] at hrest
          refine LastExport.after _ (ExportsLast.after _ (fun _ => ?_) _ _ hrest)
          exact exportsLast_createFor tempDir s config

end Runs

/-! ## Whole runs -/

namespace Lease

/-- What is done with a lease in the end. -/
inductive Ending
  | keep
  | cleanUp
  | delete
  deriving DecidableEq, Repr

/-- Ends a run that was given a lease. -/
def finish (l : Lease) : Ending → Attempt World.calls Unit
  | .keep => pure ()
  | .cleanUp => l.cleanUp
  | .delete => l.delete

/-- A whole run: a start, and what is done in the end with the lease that it gives. -/
def startAndFinish (tempDir : String) (env : Environment) (s : Setup) (ending : Ending) :
    Attempt World.calls Unit := do
  let lease ← start tempDir env s
  lease.finish ending

/-- What a start gives is a lease of the cluster of the configuration. -/
theorem cluster_eq {tempDir : String} {s : Setup} {config : ClusterConfig} {lease : Lease}
    {events : List (Event World.calls)}
    (hconfig : ClusterConfig.ofOptions s.name s.options = .ok config)
    (h : (startResolved tempDir s).run.Walk events (.ok lease)) :
    lease.cluster = ⟨config.name, config.kubeconfigPath tempDir⟩ := by
  cases started_startResolved h with
  | reused hconfig' _ _ =>
      obtain rfl := Except.ok.inj (hconfig.symm.trans hconfig')
      rfl
  | made hconfig' hmade =>
      obtain rfl := Except.ok.inj (hconfig.symm.trans hconfig')
      cases hmade
      rfl

/-- In the end nothing is asked but to tear the cluster down. -/
theorem asks_finish {P : World.Call → Prop} {l : Lease} (ending : Ending)
    (h : P (.provider (.delete l.cluster.name l.cluster.kubeconfig))) :
    (l.finish ending).run.Asks P := by
  have hdelete : l.delete.run.Asks P := asks_tryProvider _ h
  cases ending with
  | keep => exact Attempt.asks_pure _ ()
  | delete => exact hdelete
  | cleanUp =>
      show (cleanUp l).run.Asks P
      rw [cleanUp]
      split
      · exact hdelete
      · exact Attempt.asks_pure _ ()

/-- A whole run asks what the start asks, and then, if that gave a lease, what ending it asks. -/
theorem exists_trace_startAndFinish {σ : Type} (handle : Handler World.calls σ) (s : σ)
    (tempDir : String) (env : Environment) (setup : Setup) (ending : Ending) :
    ∃ last, (startAndFinish tempDir env setup ending).run.trace handle s =
        (start tempDir env setup).run.trace handle s ++ last ∧
      match ((start tempDir env setup).run.run handle s).1 with
      | .error _ => last = []
      | .ok lease => ∃ r, (lease.finish ending).run.Walk last r := by
  refine ⟨_, Program.trace_bind handle (start tempDir env setup).run _ s, ?_⟩
  obtain ⟨(e | lease), s'⟩ := (start tempDir env setup).run.run handle s
  · rfl
  · exact ⟨_, Program.walk_run handle (lease.finish ending).run s'⟩

end Lease

/-- A run that keeps to an aim, given what its start gives: every call to the provider is about
    it, its image is pulled before a cluster is asked for, and a lease is one of its cluster,
    whose kubeconfig was exported last. -/
structure Aim.Kept (aim : Aim) (events : List (Event World.calls)) (given : Except Error Lease) :
    Prop where
  concerns : ∀ e ∈ events, World.Call.Concerns aim e.call
  pulled : PulledBefore aim.nodeImage events
  exported : ∀ lease, given = .ok lease →
    lease.cluster = aim.cluster ∧ LastExport aim.cluster events

/-- **ONE AIM.**  Under every handler a whole run keeps to the aim of its setup, however it ends:
    to the wanted name, to the chosen kubeconfig or the default one for this name, and to the
    image of the chosen version. -/
theorem keeps_one_aim {σ : Type} (handle : Handler World.calls σ) (s : σ) (tempDir : String)
    (env : Environment) (setup : Setup) (ending : Lease.Ending) :
    (setup.aim tempDir env).Kept
      ((Lease.startAndFinish tempDir env setup ending).run.trace handle s)
      ((Lease.start tempDir env setup).run.run handle s).1 := by
  obtain ⟨last, htrace, hlast⟩ :=
    Lease.exists_trace_startAndFinish handle s tempDir env setup ending
  have hwalk := Program.walk_run handle (Lease.start tempDir env setup).run s
  rw [htrace]
  generalize (Lease.start tempDir env setup).run.trace handle s = events at hwalk
  generalize ((Lease.start tempDir env setup).run.run handle s).1 = given at hwalk hlast
  cases hconfig : ClusterConfig.ofOptions (setup.resolve env).name (setup.resolve env).options with
  -- a setup that is rejected asks nothing
  | error fault =>
      rw [Lease.start, Lease.startResolved, hconfig] at hwalk
      obtain ⟨rfl, rfl⟩ := Attempt.walk_throw.1 hwalk
      obtain rfl := hlast
      exact ⟨List.forall_mem_nil _, pulledBefore_of_nothing (List.forall_mem_nil _), by rintro _ ⟨⟩⟩
  | ok config =>
      rw [← ClusterConfig.aim_eq hconfig tempDir]
      have hcalls := Lease.asks_startResolved hconfig _ _ hwalk
      have hpulled := pullsBefore_startResolved hconfig _ _ hwalk
      cases given with
      | error e =>
          obtain rfl := hlast
          rw [List.append_nil]
          exact ⟨fun e he => (hcalls e he).concerns, hpulled, by rintro _ ⟨⟩⟩
      | ok lease =>
          obtain ⟨r, hfinish⟩ := hlast
          have hcluster : lease.cluster = ⟨config.name, config.kubeconfigPath tempDir⟩ :=
            Lease.cluster_eq hconfig hwalk
          have hexported := exportsLast_startResolved hconfig _ _ hwalk
          have hdelete : World.Call.Concerns (config.aim tempDir)
              (.provider (.delete lease.cluster.name lease.cluster.kubeconfig)) := by
            rw [hcluster]
            exact ⟨rfl, rfl⟩
          refine ⟨?_, ?_, ?_⟩
          · intro e he
            rcases List.mem_append.1 he with he | he
            · exact (hcalls e he).concerns
            · exact Lease.asks_finish ending hdelete _ _ hfinish e he
          · exact hpulled.append
              (pulledBefore_of_nothing
                (Lease.asks_finish (P := World.CreatesNothing) ending rfl _ _ hfinish))
          · rintro _ ⟨⟩
            exact ⟨hcluster, hexported.followed
              (Lease.asks_finish (P := World.ExportsNothing) ending rfl _ _ hfinish)⟩

end TestCluster
