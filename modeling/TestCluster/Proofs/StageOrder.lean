import TestCluster.Proofs.Rollback

/-!
# The order of the stages — a start as one sequence of steps, cut where a call fails

    What a start does is decided by the answers that it gets: which clusters are listed, which
    images are present, on which nodes the new cluster runs, where the archive is.  Given
    these (`Answers`), its steps form one sequence (`startSteps`).  A run takes the steps from
    the front and stops right after the first call that fails (`Cut`).  If the provider has
    brought the cluster up by then, one deletion follows, and nothing else (`Undoing`).

    A step is a call with its answer, or a hook with all that it asks.  To let go of a port
    that was probed, to remove a temporary file and to wait are no steps: `stageCalls` leaves
    them out.
-/

namespace TestCluster

open World

/-! ## Steps -/

/-- Whether a call is part of a stage, and does not only tidy up after one or wait. -/
def World.Call.isStage : World.Call → Bool
  | .host (.release ..) => false
  | .host (.remove _) => false
  | .host (.pause _) => false
  | _ => true

/-- The calls that are part of the stages of a run. -/
def stageCalls (events : List (Event World.calls)) : List (Event World.calls) :=
  events.filter fun e => World.Call.isStage e.call

@[simp] theorem stageCalls_nil : stageCalls [] = [] := rfl

theorem stageCalls_append (before after : List (Event World.calls)) :
    stageCalls (before ++ after) = stageCalls before ++ stageCalls after :=
  List.filter_append ..

theorem World.Call.isStage_of_isOfHook {call : World.Call} (h : call.isOfHook = true) :
    call.isStage = true := by
  cases call with
  | provider call => rfl
  | images call => rfl
  | host call => cases call <;> first | rfl | exact nomatch h
  | hook name cluster => rfl

/-- Hooks tidy up after nothing. -/
theorem stageCalls_hook {c : Cluster} {hook : Hook} {events : List (Event World.calls)}
    {r : Except Error Unit} (h : (hook.run c).run.Walk events r) : stageCalls events = events := by
  refine List.filter_eq_self.2 ?_
  intro e he
  exact World.Call.isStage_of_isOfHook (hook.asks_run c events r h e he)

/-- One step of a start, with the answer from which the start goes on. -/
inductive Step
  | provider (call : Provider.Call) (result : Provider.Result call)
  /-- Pulls the image of the nodes. -/
  | nodeImage (image : String)
  | images (call : ImageTool.Call) (result : ImageTool.Result call)
  /-- Finds out whether a host port is free. -/
  | probe (port : NodePort)
  /-- Makes the archive for the images. -/
  | archive (path : String)
  | hook (hook : Hook)

/-- What a step asks when it succeeds. -/
inductive Step.Passes (c : Cluster) : Step → List (Event World.calls) → Prop where
  | provider {call : Provider.Call} {result : Provider.Result call} :
      Passes c (.provider call result) [told call (.ok result)]
  | nodeImage {image : String} :
      Passes c (.nodeImage image) [⟨.images (.pull image), Except.ok ()⟩]
  | images {call : ImageTool.Call} {result : ImageTool.Result call} :
      Passes c (.images call result) [⟨.images call, Except.ok result⟩]
  | probe {port : NodePort} {bound : UInt16} :
      Passes c (.probe port) [⟨.host (.bind Cluster.hostAddress port.host), Except.ok bound⟩]
  | archive {path : String} :
      Passes c (.archive path) [⟨.host (.makeTemporary "e2e-images-" ".tar"), Except.ok path⟩]
  | hook {hook : Hook} {events : List (Event World.calls)} :
      (hook.run c).run.Walk events (.ok ()) → Passes c (.hook hook) events

/-- What a step asks when it fails, and the error that this is. -/
inductive Step.Fails (c : Cluster) : Step → List (Event World.calls) → Error → Prop where
  | provider {call : Provider.Call} {result : Provider.Result call} {cause : CommandError} :
      Fails c (.provider call result) [told call (.error cause)] (providerError c.name call cause)
  | nodeImage {image : String} {cause : CommandError} :
      Fails c (.nodeImage image) [⟨.images (.pull image), Except.error cause⟩]
        (.nodeImage image cause)
  | images {call : ImageTool.Call} {result : ImageTool.Result call} {cause : CommandError} :
      Fails c (.images call result) [⟨.images call, Except.error cause⟩]
        (imageError true call cause)
  | probe {port : NodePort} {cause : OsError} :
      Fails c (.probe port) [⟨.host (.bind Cluster.hostAddress port.host), Except.error cause⟩]
        (.portUnavailable port.host cause)
  | archive {path : String} {fault : FileFault} :
      Fails c (.archive path)
        [⟨.host (.makeTemporary "e2e-images-" ".tar"), Except.error fault⟩] (.file fault)
  | hook {hook : Hook} {events : List (Event World.calls)} {e : Error} :
      (hook.run c).run.Walk events (.error e) → Fails c (.hook hook) events (.hook hook.name e)

/-- A sequence of steps cut right after the first one that fails: what is asked, and the error
    if a step failed. -/
inductive Cut (c : Cluster) : List Step → List (Event World.calls) → Option Error → Prop where
  | done : Cut c [] [] none
  | failed {step : Step} {steps : List Step} {events : List (Event World.calls)} {e : Error} :
      step.Fails c events e → Cut c (step :: steps) events (some e)
  | passed {step : Step} {steps : List Step} {events more : List (Event World.calls)}
      {failure : Option Error} :
      step.Passes c events → Cut c steps more failure →
      Cut c (step :: steps) (events ++ more) failure

variable {c : Cluster} {steps steps' : List Step} {events more : List (Event World.calls)}

/-- Steps that all succeed are followed by more steps. -/
theorem Cut.append {failure : Option Error} (h : Cut c steps events none)
    (h' : Cut c steps' more failure) : Cut c (steps ++ steps') (events ++ more) failure := by
  generalize hnone : (none : Option Error) = outcome at h
  induction h with
  | done => exact h'
  | failed _ => exact nomatch hnone
  | passed hstep _ ih =>
      rw [List.append_assoc]
      exact .passed hstep (ih hnone)

/-- After a step that fails no further one is taken. -/
theorem Cut.stop {e : Error} (h : Cut c steps events (some e)) (steps' : List Step) :
    Cut c (steps ++ steps') events (some e) := by
  generalize hsome : some e = outcome at h
  induction h with
  | done => exact nomatch hsome
  | failed hstep => exact .failed hstep
  | passed hstep _ ih => exact .passed hstep (ih hsome)

theorem Cut.single {step : Step} (h : step.Passes c events) : Cut c [step] events none := by
  have hcut := Cut.passed h .done
  rwa [List.append_nil] at hcut

/-! ## Computations that take steps -/

variable {α β : Type}

/-- On every walk a computation takes the steps, up to the first that fails. -/
def Takes (c : Cluster) (steps : List Step) (x : Attempt World.calls α) : Prop :=
  ∀ events r, x.run.Walk events r → Cut c steps (stageCalls events) (errorOf? r)

theorem takes_pure (a : α) : Takes c [] (pure a : Attempt World.calls α) := by
  intro events r h
  obtain ⟨rfl, rfl⟩ := Attempt.walk_pure.1 h
  exact .done

theorem Takes.bind {x : Attempt World.calls α} {f : α → Attempt World.calls β}
    (hx : Takes c steps x) (hf : ∀ a, Takes c steps' (f a)) :
    Takes c (steps ++ steps') (x >>= f) := by
  intro events r h
  rcases Attempt.walk_bind.1 h with ⟨e, hfail, rfl⟩ | ⟨before, a, after, rfl, hok, hrest⟩
  · exact Cut.stop (hx _ _ hfail) steps'
  · rw [stageCalls_append]
    exact (hx _ _ hok).append (hf a _ _ hrest)

theorem takes_forM {step : β → Step} {f : β → Attempt World.calls Unit}
    (h : ∀ b, Takes c [step b] (f b)) (items : List β) :
    Takes c (items.map step) (items.forM f) := by
  induction items with
  | nil => exact takes_pure ()
  | cons b items ih => exact (h b).bind fun _ => ih

/-- Asking the provider is a step, whose answer is the one that was given. -/
theorem cut_tryProvider {call : Provider.Call} {r : Except Error (Provider.Result call)}
    (h : (tryProvider call (providerError c.name call)).run.Walk events r)
    (result : Provider.Result call) (hresult : ∀ b, r = .ok b → b = result) :
    Cut c [.provider call result] (stageCalls events) (errorOf? r) := by
  obtain ⟨answer, rfl, rfl⟩ := walk_tryProvider.1 h
  cases answer with
  | error cause => exact .failed .provider
  | ok b =>
      obtain rfl := hresult b rfl
      exact .single .provider

/-- Asking the image tool is a step, whose answer is the one that was given. -/
theorem cut_tryImages {call : ImageTool.Call} {r : Except Error (ImageTool.Result call)}
    (h : (tryImages call (imageError true call)).run.Walk events r)
    (result : ImageTool.Result call) (hresult : ∀ b, r = .ok b → b = result) :
    Cut c [.images call result] (stageCalls events) (errorOf? r) := by
  obtain ⟨answer, rfl, rfl⟩ := walk_tryImages.1 h
  cases answer with
  | error cause => exact .failed .images
  | ok b =>
      obtain rfl := hresult b rfl
      exact .single .images

theorem takes_checkHostPort (port : NodePort) :
    Takes c [.probe port] (Cluster.checkHostPort port) := by
  intro events r h
  obtain ⟨answer, after, rfl, hrest⟩ := walk_host_bind.1 h
  cases answer with
  | error cause =>
      obtain ⟨rfl, rfl⟩ := Attempt.walk_throw.1 hrest
      exact .failed .probe
  | ok bound =>
      obtain ⟨_, hrelease, rfl⟩ := Attempt.walk_lift.1 hrest
      obtain rfl := walk_host.1 hrelease
      exact .single .probe

theorem takes_pullNodeImage (image : Option String) :
    Takes c (image.toList.map .nodeImage) (Cluster.pullNodeImage image) := by
  cases image with
  | none => exact takes_pure ()
  | some image =>
      intro events r h
      obtain ⟨(cause | _), rfl, rfl⟩ := walk_tryImages.1 h
      · exact .failed .nodeImage
      · exact .single .nodeImage

theorem takes_hook (hook : Hook) : Takes c [.hook hook] (hook.apply c) := by
  intro events r h
  obtain ⟨(e | _), hrun, rfl⟩ := Program.walk_map.1 h
  · rw [stageCalls_hook hrun]
    exact .failed (.hook hrun)
  · rw [stageCalls_hook hrun]
    exact .single (.hook hrun)

/-! ## The steps that the answers call for -/

/-- The answers on which the further steps of a start depend. -/
structure Answers where
  /-- The clusters that the provider lists. -/
  listed : List String
  /-- Whether each of the images is present, in their order. -/
  present : List Bool
  /-- The nodes of the new cluster. -/
  nodes : List String
  /-- The path of the archive with the images. -/
  archive : String
  deriving Inhabited

/-- The steps that make an image present: it is asked for, and pulled exactly if it is absent. -/
def ensureSteps (image : String) (present : Bool) : List Step :=
  .images (.exists_ image) present :: if present then [] else [.images (.pull image) ()]

/-- The steps that make images present, one after another. -/
def imageSteps : List String → List Bool → List Step
  | [], _ => []
  | image :: images, present =>
    ensureSteps image (present.headD false) ++ imageSteps images present.tail

/-- The steps that load images, once they are present, into nodes of a cluster. -/
def loadSteps (cluster : String) (images nodes : List String) (archive : String) : List Step :=
  .archive archive :: .images (.save images archive) () ::
    nodes.map fun node => .provider (.load cluster node archive) ()

/-- The steps that put images into the nodes of a cluster, if there are any images. -/
def preloadSteps (cluster : String) (images : List String) (a : Answers) : List Step :=
  if images.isEmpty then []
  else
    .provider (.nodes cluster) a.nodes ::
      (imageSteps images a.present ++ loadSteps cluster images a.nodes a.archive)

/-- The steps that bring a cluster up. -/
def createSteps (tempDir : String) (config : ClusterConfig) (a : Answers) : List Step :=
  config.options.nodePorts.map .probe ++ config.image?.toList.map .nodeImage ++
    (.provider (.create (Cluster.request tempDir config)) () ::
      .provider (.exportKubeconfig config.name (config.kubeconfigPath tempDir)) () ::
      preloadSteps config.name config.options.images a)

/-- **THE STEPS OF A START**: the clusters are listed, and a listed one gets its kubeconfig
    written and is then reused or deleted; without one to reuse, a cluster is brought up and
    the hooks run on it in their order. -/
def startSteps (tempDir : String) (config : ClusterConfig) (reuse : Bool) (hooks : List Hook)
    (a : Answers) : List Step :=
  let making := createSteps tempDir config a ++ hooks.map .hook
  .provider .list a.listed ::
    if config.name ∈ a.listed then
      .provider (.exportKubeconfig config.name (config.kubeconfigPath tempDir)) () ::
        if reuse then []
        else .provider (.delete config.name (config.kubeconfigPath tempDir)) () :: making
    else making

/-! ## From the images to the whole start -/

/-- An image that is made present takes its steps. -/
theorem cut_ensureImage {image : String} {r : Except Error Unit}
    (h : (Cluster.ensureImage image).run.Walk events r) :
    ∃ present, Cut c (ensureSteps image present) (stageCalls events) (errorOf? r) := by
  rcases Attempt.walk_bind.1 h with
    ⟨e, hfail, rfl⟩ | ⟨asked, (present : Bool), pulled, rfl, hok, hpull⟩
  · exact ⟨false, (cut_tryImages hfail false nofun).stop _⟩
  · refine ⟨present, ?_⟩
    have hasked := cut_tryImages (c := c) hok present fun _ => Except.ok.inj ∘ Eq.symm
    rw [stageCalls_append]
    -- a present image is not pulled
    cases present with
    | true =>
        obtain ⟨rfl, rfl⟩ := Attempt.walk_pure.1 hpull
        exact hasked.append .done
    | false => exact hasked.append (cut_tryImages hpull () fun _ _ => rfl)

/-- Images that are made present one after another take their steps. -/
theorem cut_ensureImages {images : List String} {r : Except Error Unit}
    (h : (images.forM Cluster.ensureImage).run.Walk events r) :
    ∃ present, Cut c (imageSteps images present) (stageCalls events) (errorOf? r) := by
  induction images generalizing events with
  | nil =>
      obtain ⟨rfl, rfl⟩ := Attempt.walk_pure.1 h
      exact ⟨[], .done⟩
  | cons image images ih =>
      rcases Attempt.walk_bind.1 h with ⟨e, hfail, rfl⟩ | ⟨before, _, after, rfl, hok, hrest⟩
      · obtain ⟨present, hcut⟩ := cut_ensureImage (c := c) hfail
        exact ⟨[present], hcut.stop _⟩
      · obtain ⟨present, hcut⟩ := cut_ensureImage (c := c) hok
        obtain ⟨others, hothers⟩ := ih hrest
        refine ⟨present :: others, ?_⟩
        rw [stageCalls_append]
        exact hcut.append hothers

theorem takes_loadArchives (archive : String) (nodes : List String) :
    Takes c (nodes.map fun node => .provider (.load c.name node archive) ())
      (nodes.forM (Cluster.loadArchive c.name archive)) := by
  have hload : ∀ node, Takes c [.provider (.load c.name node archive) ()]
      (Cluster.loadArchive c.name archive node) := by
    intro node events r h
    exact cut_tryProvider h () fun _ _ => rfl
  exact takes_forM hload nodes

/-- Work with the archive takes the step that makes the archive first, and none that removes
    it. -/
theorem cut_archive {work : String → Attempt World.calls Unit} {steps : String → List Step}
    {r : Except Error Unit} (hwork : ∀ archive, Takes c (steps archive) (work archive))
    (h : (withTemporary "e2e-images-" ".tar" work).run.Walk events r) :
    ∃ archive, Cut c (.archive archive :: steps archive) (stageCalls events) (errorOf? r) := by
  rcases walk_withTemporary.1 h with ⟨fault, rfl, rfl⟩ | ⟨path, inner, rfl, hinner⟩
  · exact ⟨"", .failed .archive⟩
  · refine ⟨path, ?_⟩
    have hcut := hwork path _ _ hinner
    have hcalls : stageCalls (⟨.host (.makeTemporary "e2e-images-" ".tar"), Except.ok path⟩ ::
        (inner ++ [⟨.host (.remove path), ()⟩]))
        = ⟨.host (.makeTemporary "e2e-images-" ".tar"), Except.ok path⟩ :: stageCalls inner := by
      show _ :: stageCalls (inner ++ [⟨.host (.remove path), ()⟩]) = _
      rw [stageCalls_append]
      exact congrArg (_ :: ·) (List.append_nil _)
    rw [hcalls]
    exact .passed .archive hcut

/-- Loading images into the nodes of a cluster takes its steps. -/
theorem cut_preload {nodes images : List String} {r : Except Error Unit}
    (hsome : images.isEmpty = false)
    (h : (Cluster.preload c.name nodes images).run.Walk events r) :
    ∃ present archive, Cut c (imageSteps images present ++
      loadSteps c.name images nodes archive) (stageCalls events) (errorOf? r) := by
  rw [Cluster.preload, hsome] at h
  rcases Attempt.walk_bind.1 h with ⟨e, hfail, rfl⟩ | ⟨ensured, _, archived, rfl, hok, hrest⟩
  · obtain ⟨present, hpresent⟩ := cut_ensureImages (c := c) hfail
    exact ⟨present, "", hpresent.stop _⟩
  · obtain ⟨present, hpresent⟩ := cut_ensureImages (c := c) hok
    have hwork : ∀ archive, Takes c (.images (.save images archive) () ::
        nodes.map fun node => .provider (.load c.name node archive) ())
        (tryImages (.save images archive) .imageSave >>= fun _ =>
          nodes.forM (Cluster.loadArchive c.name archive)) := by
      intro archive
      have hsave : Takes c [.images (.save images archive) ()]
          (tryImages (.save images archive) .imageSave) := by
        intro events r h
        exact cut_tryImages h () fun _ _ => rfl
      exact hsave.bind fun _ => takes_loadArchives archive nodes
    obtain ⟨archive, harchived⟩ := cut_archive hwork hrest
    rw [stageCalls_append]
    exact ⟨present, archive, hpresent.append harchived⟩

/-- Equipping a cluster takes the steps that its nodes and the images call for. -/
theorem cut_equip {images : List String} {r : Except Error Unit}
    (h : (c.equip images).run.Walk events r) :
    ∃ a, Cut c (.provider (.exportKubeconfig c.name c.kubeconfig) () ::
      preloadSteps c.name images a) (stageCalls events) (errorOf? r) := by
  rcases Attempt.walk_bind.1 h with ⟨e, hfail, rfl⟩ | ⟨exported, _, rest, rfl, hok, hrest⟩
  · exact ⟨default, (cut_tryProvider hfail () fun _ _ => rfl).stop _⟩
  have hexport := cut_tryProvider (c := c) hok () fun _ _ => rfl
  rw [stageCalls_append]
  suffices hpreload : ∃ a, Cut c (preloadSteps c.name images a) (stageCalls rest) (errorOf? r) by
    obtain ⟨a, hcut⟩ := hpreload
    exact ⟨a, hexport.append hcut⟩
  simp only [preloadSteps]
  cases hnone : images.isEmpty with
  | true =>
      simp only [hnone, if_true] at hrest
      obtain ⟨rfl, rfl⟩ := Attempt.walk_pure.1 hrest
      exact ⟨default, .done⟩
  | false =>
      simp only [hnone] at hrest
      rcases Attempt.walk_bind.1 hrest with
        ⟨e, hfail, rfl⟩ | ⟨listed, (nodes : List String), loaded, rfl, hlisted, hloaded⟩
      · exact ⟨default, (cut_tryProvider hfail [] nofun).stop _⟩
      · have hnodes := cut_tryProvider (c := c) hlisted nodes fun _ => Except.ok.inj ∘ Eq.symm
        obtain ⟨present, archive, hcut⟩ := cut_preload hnone hloaded
        rw [stageCalls_append]
        exact ⟨⟨[], present, nodes, archive⟩, hnodes.append hcut⟩

/-! ## Undoing -/

/-- The provider has brought a cluster up. -/
def BroughtUp (events : List (Event World.calls)) : Prop :=
  ∃ request, told (.create request) (.ok ()) ∈ events

/-- What follows the step that failed: one deletion if a cluster was brought up before it, and
    nothing otherwise. -/
inductive Undoing (c : Cluster) (forward : List (Event World.calls)) :
    Option Error → List (Event World.calls) → Prop where
  | unneeded : Undoing c forward none []
  | nothing {e : Error} : ¬ BroughtUp forward → Undoing c forward (some e) []
  | deletion {e : Error} {answer : Except CommandError Unit} :
      BroughtUp forward →
      Undoing c forward (some e) [told (.delete c.name c.kubeconfig) answer]

/-- A run that takes steps, cut where one fails, and then undoes what it did. -/
inductive CutAndUndone (c : Cluster) (steps : List Step) (events : List (Event World.calls))
    (failure : Option Error) : Prop where
  | intro {forward undoing : List (Event World.calls)} :
      stageCalls events = forward ++ undoing → Cut c steps forward failure →
      Undoing c forward failure undoing → CutAndUndone c steps events failure

/-- On every walk a computation takes the steps that its answers call for, and undoes what it
    did where one fails. -/
def Makes (c : Cluster) (steps : Answers → List Step) (x : Attempt World.calls α) : Prop :=
  ∀ events r, x.run.Walk events r → ∃ a, CutAndUndone c (steps a) events (errorOf? r)

/-- Whether a call brings a cluster up. -/
def World.Call.creates : World.Call → Bool
  | .provider (.create _) => true
  | _ => false

/-- A call that brings no cluster up. -/
abbrev World.CreatesNothing (call : World.Call) : Prop := call.creates = false

theorem World.IsQuiet.createsNothing {call : World.Call} (h : World.IsQuiet call) :
    World.CreatesNothing call := by
  cases call with
  | provider call => cases call <;> first | rfl | exact nomatch h
  | images call => rfl
  | host call => rfl
  | hook name cluster => rfl

theorem not_broughtUp {lead : List (Event World.calls)}
    (h : ∀ e ∈ lead, World.CreatesNothing e.call) : ¬ BroughtUp (stageCalls lead) := by
  rintro ⟨request, hmem⟩
  exact nomatch h _ (List.mem_filter.1 hmem).1

theorem BroughtUp.of_append {lead rest : List (Event World.calls)} (hlead : ¬ BroughtUp lead)
    (h : BroughtUp (lead ++ rest)) : BroughtUp rest := by
  obtain ⟨request, hmem⟩ := h
  rcases List.mem_append.1 hmem with hmem | hmem
  · exact absurd ⟨request, hmem⟩ hlead
  · exact ⟨request, hmem⟩

/-- Steps that bring no cluster up may come before. -/
theorem CutAndUndone.after {lead : List (Event World.calls)} {failure : Option Error}
    (hlead : Cut c steps' (stageCalls lead) none) (hnothing : ¬ BroughtUp (stageCalls lead))
    (h : CutAndUndone c steps events failure) :
    CutAndUndone c (steps' ++ steps) (lead ++ events) failure := by
  obtain @⟨forward, undoing, hevents, hcut, hundoing⟩ := h
  have hcalls : stageCalls (lead ++ events) = (stageCalls lead ++ forward) ++ undoing := by
    rw [stageCalls_append, hevents, List.append_assoc]
  refine .intro hcalls (hlead.append hcut) ?_
  cases hundoing with
  | unneeded => exact .unneeded
  | nothing hnone => exact .nothing fun hup => hnone (.of_append hnothing hup)
  | deletion hup =>
      obtain ⟨request, hmem⟩ := hup
      exact .deletion ⟨request, List.mem_append_right _ hmem⟩

/-- A step that fails before any cluster is brought up ends the run. -/
theorem CutAndUndone.stopped {e : Error} (hcut : Cut c steps (stageCalls events) (some e))
    (hnothing : ¬ BroughtUp (stageCalls events)) (steps' : List Step) :
    CutAndUndone c (steps ++ steps') events (some e) :=
  .intro (List.append_nil _).symm (hcut.stop steps') (.nothing hnothing)

theorem Takes.makes {x : Attempt World.calls α} {f : α → Attempt World.calls β}
    {lead : List Step} {steps : Answers → List Step} (hx : Takes c lead x)
    (hnothing : x.run.Asks World.CreatesNothing) (hf : ∀ a, Makes c steps (f a)) :
    Makes c (fun a => lead ++ steps a) (x >>= f) := by
  intro events r h
  rcases Attempt.walk_bind.1 h with ⟨e, hfail, rfl⟩ | ⟨before, a, rest, rfl, hok, hrest⟩
  · exact ⟨default, .stopped (hx _ _ hfail) (not_broughtUp (hnothing _ _ hfail)) _⟩
  · obtain ⟨answers, hmade⟩ := hf a _ _ hrest
    exact ⟨answers, .after (hx _ _ hok) (not_broughtUp (hnothing _ _ hok)) hmade⟩

/-- Work on a cluster that was brought up is undone by one deletion if it fails. -/
theorem cut_orDelete {work : Attempt World.calls α} {r : Except Error α}
    {lead : List (Event World.calls)} {workSteps : Answers → List Step}
    (hlead : Cut c steps (stageCalls lead) none) (hup : BroughtUp (stageCalls lead))
    (hwork : ∀ events r, work.run.Walk events r →
      ∃ a, Cut c (workSteps a) (stageCalls events) (errorOf? r))
    (h : (c.orDelete work).run.Walk events r) :
    ∃ a, CutAndUndone c (steps ++ workSteps a) (lead ++ events) (errorOf? r) := by
  rcases Cluster.walk_orDelete h with ⟨_, hok, rfl⟩ | ⟨before, e, answer, rfl, hfail, rfl⟩
  · obtain ⟨a, hcut⟩ := hwork _ _ hok
    refine ⟨a, .intro (List.append_nil _).symm ?_ .unneeded⟩
    rw [stageCalls_append]
    exact hlead.append hcut
  · obtain ⟨a, hcut⟩ := hwork _ _ hfail
    have hcalls : stageCalls (lead ++ (before ++ [told (.delete c.name c.kubeconfig) answer])) =
        (stageCalls lead ++ stageCalls before) ++
          [told (.delete c.name c.kubeconfig) answer] := by
      rw [stageCalls_append, stageCalls_append, List.append_assoc]
      rfl
    obtain ⟨request, hmem⟩ := hup
    exact ⟨a, .intro hcalls (hlead.append hcut)
      (.deletion ⟨request, List.mem_append_left _ hmem⟩)⟩

/-- Bringing a cluster up takes its steps. -/
theorem makes_create (tempDir : String) (config : ClusterConfig) :
    Makes ⟨config.name, config.kubeconfigPath tempDir⟩ (createSteps tempDir config)
      (Cluster.create tempDir config) := by
  have hports := takes_forM (c := ⟨config.name, config.kubeconfigPath tempDir⟩)
    takes_checkHostPort config.options.nodePorts
  have hquiet : (config.options.nodePorts.forM Cluster.checkHostPort).run.Asks
      World.CreatesNothing :=
    Attempt.asks_forM fun port _ =>
      (Cluster.quiet_checkHostPort port).mono fun _ => World.IsQuiet.createsNothing
  have hsteps : createSteps tempDir config = fun a =>
      config.options.nodePorts.map .probe ++ (config.image?.toList.map .nodeImage ++
        ([.provider (.create (Cluster.request tempDir config)) ()] ++
          (.provider (.exportKubeconfig config.name (config.kubeconfigPath tempDir)) () ::
            preloadSteps config.name config.options.images a))) := by
    funext a
    exact List.append_assoc ..
  rw [hsteps]
  refine hports.makes hquiet fun _ => ?_
  refine (takes_pullNodeImage _).makes ((Cluster.quiet_pullNodeImage _).mono fun _ =>
    World.IsQuiet.createsNothing) fun _ => ?_
  intro events r h
  rcases Attempt.walk_bind.1 h with ⟨e, hfail, rfl⟩ | ⟨created, _, rest, rfl, hok, hrest⟩
  · refine ⟨default, .stopped (cut_tryProvider hfail () fun _ _ => rfl) ?_ _⟩
    obtain ⟨(cause | _), rfl, ⟨⟩⟩ := walk_tryProvider.1 hfail
    rintro ⟨request, hmem⟩
    obtain ⟨⟩ := List.mem_singleton.1 hmem
  -- from here on the cluster is up
  · have hcreated := cut_tryProvider (c := ⟨config.name, config.kubeconfigPath tempDir⟩) hok ()
      fun _ _ => rfl
    obtain ⟨(cause | _), rfl, ⟨⟩⟩ := walk_tryProvider.1 hok
    have hup : BroughtUp (stageCalls [told (.create (Cluster.request tempDir config)) (.ok ())]) :=
      ⟨_, List.mem_singleton_self _⟩
    rcases Attempt.walk_bind.1 hrest with ⟨e, hfail, rfl⟩ | ⟨equipped, _, last, rfl, hequip, hlast⟩
    · have hmade := cut_orDelete hcreated hup (fun _ _ => cut_equip) hfail
      exact hmade
    · obtain ⟨rfl, rfl⟩ := Attempt.walk_pure.1 hlast
      have hmade := cut_orDelete hcreated hup (fun _ _ => cut_equip) hequip
      rw [List.append_nil]
      exact hmade

/-- A step that was passed has been asked, with all its calls. -/
theorem Cut.passes_of_mem {step : Step} (h : Cut c steps events none) (hmem : step ∈ steps) :
    ∃ asked, step.Passes c asked ∧ asked ⊆ events := by
  generalize hnone : (none : Option Error) = outcome at h
  induction h with
  | done => exact nomatch hmem
  | failed _ => exact nomatch hnone
  | passed hstep _ ih =>
      rcases List.mem_cons.1 hmem with rfl | hmem
      · exact ⟨_, hstep, List.subset_append_left _ _⟩
      · obtain ⟨asked, hasked, hsubset⟩ := ih hmem hnone
        exact ⟨asked, hasked, List.subset_append_of_subset_right _ hsubset⟩

/-- A call to the provider that was passed has been asked. -/
theorem Cut.mem {call : Provider.Call} {result : Provider.Result call}
    (h : Cut c steps events none) (hmem : .provider call result ∈ steps) :
    told call (.ok result) ∈ events := by
  obtain ⟨asked, hasked, hsubset⟩ := h.passes_of_mem hmem
  cases hasked
  exact hsubset (List.mem_singleton_self _)

/-- Making a cluster for a setup takes the steps that bring it up, and then those of the
    hooks. -/
theorem makes_createFor (tempDir : String) (s : Setup) (config : ClusterConfig) :
    Makes ⟨config.name, config.kubeconfigPath tempDir⟩
      (fun a => createSteps tempDir config a ++ s.hooks.map .hook)
      (Lease.createFor tempDir s config) := by
  intro events r h
  rcases Attempt.walk_bind.1 h with ⟨e, hfail, rfl⟩ | ⟨made, cluster, rest, rfl, hok, hrest⟩
  · obtain ⟨a, hevents, hcut, hundoing⟩ := makes_create tempDir config _ _ hfail
    exact ⟨a, .intro hevents (hcut.stop _) hundoing⟩
  obtain ⟨a, hmade, hcut, hundoing⟩ := makes_create tempDir config _ _ hok
  obtain rfl : cluster = ⟨config.name, config.kubeconfigPath tempDir⟩ := by
    cases Cluster.rollsBack_create hok
    rfl
  -- nothing failed, so nothing is undone yet
  cases hundoing
  rw [List.append_nil] at hmade
  rw [← hmade] at hcut
  have hup : BroughtUp (stageCalls made) := by
    refine ⟨Cluster.request tempDir config, ?_⟩
    exact hcut.mem (List.mem_append_right _ (List.mem_cons_self ..))
  have hhooks : ∀ events r, (s.hooks.forM
      (Hook.apply ⟨config.name, config.kubeconfigPath tempDir⟩)).run.Walk events r →
      ∃ _ : Answers, Cut ⟨config.name, config.kubeconfigPath tempDir⟩ (s.hooks.map .hook)
        (stageCalls events) (errorOf? r) :=
    fun _ _ hran => ⟨default, takes_forM takes_hook s.hooks _ _ hran⟩
  rcases Attempt.walk_bind.1 hrest with ⟨e, hfail, rfl⟩ | ⟨hooked, _, last, rfl, hran, hlast⟩
  · obtain ⟨-, hdone⟩ := cut_orDelete hcut hup hhooks hfail
    exact ⟨a, hdone⟩
  · obtain ⟨-, hdone⟩ := cut_orDelete hcut hup hhooks hran
    rcases Attempt.walk_bind.1 hlast with ⟨e, hwait, -⟩ | ⟨waited, _, given, rfl, hwait, hgiven⟩
    · obtain ⟨-, ⟨⟩⟩ := Lease.walk_settle hwait
    obtain ⟨rfl, -⟩ := Lease.walk_settle hwait
    obtain ⟨rfl, rfl⟩ := Attempt.walk_pure.1 hgiven
    obtain ⟨hevents, hcut, hundoing⟩ := hdone
    refine ⟨a, .intro (Eq.trans ?_ hevents) hcut hundoing⟩
    -- waiting is no step
    have hwaited : stageCalls (s.options.waitSeconds.toList.map fun n => ⟨.host (.pause n), ()⟩)
        = [] := by
      cases s.options.waitSeconds with
      | none => rfl
      | some seconds => rfl
    rw [List.append_nil, stageCalls_append, stageCalls_append, hwaited, List.append_nil,
      stageCalls_append]

/-- The setup has no name, or a node port one member of which is zero. -/
def Setup.IsUnusable (s : Setup) : Prop :=
  s.name = "" ∨ ∃ p ∈ s.options.nodePorts, p.node = 0 ∨ p.host = 0

theorem Setup.isUnusable_of_error {s : Setup} {fault : ClusterConfig.Fault}
    (h : ClusterConfig.ofOptions s.name s.options = .error fault) : s.IsUnusable := by
  rw [ClusterConfig.ofOptions] at h
  by_cases hname : s.name = ""
  · exact Or.inl hname
  · rw [dif_neg hname] at h
    split at h
    · rename_i port hport
      have hfound := List.find?_some hport
      have hinvalid : ¬ port.IsValid := of_decide_eq_true hfound
      refine Or.inr ⟨port, List.mem_of_find?_eq_some hport, ?_⟩
      by_cases hnode : port.node = 0
      · exact Or.inl hnode
      · by_cases hhost : port.host = 0
        · exact Or.inr hhost
        · exact absurd ⟨hnode, hhost⟩ hinvalid
    · exact nomatch h

theorem Setup.usable_of_ok {s : Setup} {config : ClusterConfig}
    (h : ClusterConfig.ofOptions s.name s.options = .ok config) :
    ¬ s.IsUnusable ∧ config.name = s.name ∧ config.options = s.options := by
  have hparts : config.name = s.name ∧ config.options = s.options := by
    rw [ClusterConfig.ofOptions] at h
    by_cases hname : s.name = ""
    · rw [dif_pos hname] at h
      exact nomatch h
    · rw [dif_neg hname] at h
      split at h
      · exact nomatch h
      · obtain rfl := Except.ok.inj h
        exact ⟨rfl, rfl⟩
  refine ⟨?_, hparts⟩
  rw [IsUnusable, ← hparts.1, ← hparts.2]
  -- a configuration carries the proofs that it passed the checks
  rintro (hname | ⟨port, hport, hnode | hhost⟩)
  · exact config.name_ne_empty hname
  · exact (config.nodePorts_valid port hport).1 hnode
  · exact (config.nodePorts_valid port hport).2 hhost

/-- **A START IN ORDER**: a setup without a name, or with a node port that is no port, is
    rejected, and nothing is asked.  Otherwise the calls are those of the steps that the
    answers call for, cut where one fails, and what undoes them. -/
inductive StartsInOrder (tempDir : String) (s : Setup) :
    List (Event World.calls) → Except Error Lease → Prop where
  | rejected {fault : ClusterConfig.Fault} :
      s.IsUnusable → StartsInOrder tempDir s [] (.error (.invalidConfig fault))
  | taken {config : ClusterConfig} {a : Answers} {events : List (Event World.calls)}
      {r : Except Error Lease} :
      ¬ s.IsUnusable → config.name = s.name → config.options = s.options →
      CutAndUndone ⟨config.name, config.kubeconfigPath tempDir⟩
        (startSteps tempDir config s.reuse s.hooks a) events (errorOf? r) →
      StartsInOrder tempDir s events r

theorem CutAndUndone.done : CutAndUndone c [] [] none :=
  .intro (List.append_nil []).symm .done .unneeded

/-- A call to the provider that brings no cluster up may come first. -/
theorem CutAndUndone.told {call : Provider.Call} {result : Provider.Result call}
    {failure : Option Error} (hcall : World.CreatesNothing (.provider call))
    (h : CutAndUndone c steps events failure) :
    CutAndUndone c (.provider call result :: steps) (told call (.ok result) :: events) failure := by
  have hlead : Cut c [.provider call result] (stageCalls [TestCluster.told call (.ok result)])
      none := .single .provider
  refine h.after hlead (not_broughtUp ?_)
  intro e he
  obtain rfl := List.mem_singleton.1 he
  exact hcall

/-- A call to the provider that brings no cluster up and fails is the last. -/
theorem CutAndUndone.refused {call : Provider.Call} {result : Provider.Result call}
    {cause : CommandError} (hcall : World.CreatesNothing (.provider call)) (steps : List Step) :
    CutAndUndone c (.provider call result :: steps) [TestCluster.told call (.error cause)]
      (some (providerError c.name call cause)) := by
  have hcut : Cut c [.provider call result] (stageCalls [TestCluster.told call (.error cause)])
      (some (providerError c.name call cause)) := .failed .provider
  refine .stopped hcut (not_broughtUp ?_) steps
  intro e he
  obtain rfl := List.mem_singleton.1 he
  exact hcall

section Start

variable {tempDir : String} {config : ClusterConfig} {hooks : List Hook} {a : Answers}

theorem startSteps_unlisted {reuse : Bool} (h : config.name ∉ a.listed) :
    startSteps tempDir config reuse hooks a =
      .provider .list a.listed :: (createSteps tempDir config a ++ hooks.map .hook) := by
  simp only [startSteps, if_neg h]

theorem startSteps_reused (h : config.name ∈ a.listed) :
    startSteps tempDir config true hooks a =
      [.provider .list a.listed,
        .provider (.exportKubeconfig config.name (config.kubeconfigPath tempDir)) ()] := by
  simp only [startSteps, if_pos h, if_true]

theorem startSteps_recreated (h : config.name ∈ a.listed) :
    startSteps tempDir config false hooks a =
      .provider .list a.listed ::
        .provider (.exportKubeconfig config.name (config.kubeconfigPath tempDir)) () ::
        .provider (.delete config.name (config.kubeconfigPath tempDir)) () ::
        (createSteps tempDir config a ++ hooks.map .hook) := by
  simp only [startSteps, if_pos h, Bool.false_eq_true, if_false]

end Start

/-- Finding or making a cluster takes the steps of a start. -/
theorem cut_startSteps {tempDir : String} {s : Setup} {config : ClusterConfig}
    {events : List (Event World.calls)} {r : Except Error Lease}
    (hconfig : ClusterConfig.ofOptions s.name s.options = .ok config)
    (h : (Lease.startResolved tempDir s).run.Walk events r) :
    ∃ a, CutAndUndone ⟨config.name, config.kubeconfigPath tempDir⟩
      (startSteps tempDir config s.reuse s.hooks a) events (errorOf? r) := by
  rw [Lease.startResolved, hconfig] at h
  rcases Attempt.walk_bind.1 h with ⟨e, hfail, rfl⟩ | ⟨found, existing, rest, rfl, hok, hrest⟩
  · rcases Cluster.walk_find? hfail with
      ⟨cause, rfl, hr⟩ | ⟨names, ⟨-, -, ⟨⟩⟩ | ⟨hlisted, (cause | _), rfl, hr⟩⟩
    · obtain rfl := Except.error.inj hr
      exact ⟨default, .refused rfl _⟩
    · obtain rfl := Except.error.inj hr
      refine ⟨{ (default : Answers) with listed := names }, ?_⟩
      rw [startSteps, if_pos hlisted]
      exact .told rfl (.refused rfl _)
    · cases hr
  rcases Cluster.walk_find? hok with
    ⟨_, _, ⟨⟩⟩ | ⟨names, ⟨hunlisted, rfl, hr⟩ | ⟨hlisted, (cause | _), rfl, hr⟩⟩
  · obtain rfl := Except.ok.inj hr
    obtain ⟨a, hmade⟩ := makes_createFor tempDir s config _ _ hrest
    refine ⟨{ a with listed := names }, ?_⟩
    rw [startSteps_unlisted hunlisted]
    exact .told rfl hmade
  · cases hr
  obtain rfl := Except.ok.inj hr
  cases hreuse : s.reuse with
  | true =>
      simp only [hreuse, if_true] at hrest
      obtain ⟨rfl, rfl⟩ := Attempt.walk_pure.1 hrest
      refine ⟨{ (default : Answers) with listed := names }, ?_⟩
      rw [startSteps_reused hlisted]
      exact .told rfl (.told rfl .done)
  | false =>
      simp only [hreuse] at hrest
      rcases Attempt.walk_bind.1 hrest with ⟨e, hd, rfl⟩ | ⟨deleted, _, last, rfl, hd, hlast⟩
      · obtain ⟨(cause | _), rfl, ⟨⟩⟩ := walk_tryProvider.1 hd
        refine ⟨{ (default : Answers) with listed := names }, ?_⟩
        rw [startSteps_recreated hlisted]
        exact .told rfl (.told rfl (.refused rfl _))
      -- the old cluster is gone, and the new one is made as if there had been none
      · obtain ⟨(cause | _), rfl, ⟨⟩⟩ := walk_tryProvider.1 hd
        obtain ⟨a, hmade⟩ := makes_createFor tempDir s config _ _ hlast
        refine ⟨{ a with listed := names }, ?_⟩
        rw [startSteps_recreated hlisted]
        exact .told rfl (.told rfl (.told rfl hmade))

theorem startsInOrder_of_walk {tempDir : String} {s : Setup} {events : List (Event World.calls)}
    {r : Except Error Lease} (h : (Lease.startResolved tempDir s).run.Walk events r) :
    StartsInOrder tempDir s events r := by
  cases hconfig : ClusterConfig.ofOptions s.name s.options with
  | error fault =>
      rw [Lease.startResolved, hconfig] at h
      obtain ⟨rfl, rfl⟩ := Attempt.walk_throw.1 h
      exact .rejected (Setup.isUnusable_of_error hconfig)
  | ok config =>
      obtain ⟨husable, hname, hoptions⟩ := Setup.usable_of_ok hconfig
      obtain ⟨a, hcut⟩ := cut_startSteps hconfig h
      exact .taken husable hname hoptions hcut

/-- **STAGE ORDER.**  Under every handler the calls of a start are those of one sequence of
    steps, that of its answers, cut where a call fails; with ingress there is one more node
    port, behind all others, and one more hook, in front of all others. -/
theorem start_in_order {σ : Type} (handle : Handler World.calls σ) (s : σ) (tempDir : String)
    (env : Environment) (setup : Setup) :
    StartsInOrder tempDir (setup.resolve env)
        ((Lease.start tempDir env setup).run.trace handle s)
        ((Lease.start tempDir env setup).run.run handle s).1 ∧
      (setup.resolve env).options.nodePorts = setup.options.nodePorts ++
        (if setup.ingress then [⟨Ingress.nodePort, (setup.inEnvironment env).ingressPort⟩]
          else []) ∧
      (setup.resolve env).hooks =
        (if setup.ingress then [.ingress Ingress.manifestUrls] else []) ++ setup.hooks := by
  refine ⟨startsInOrder_of_walk (Program.walk_run handle _ s), ?_⟩
  have hsame : (setup.inEnvironment env).ingress = setup.ingress ∧
      (setup.inEnvironment env).options = setup.options ∧
      (setup.inEnvironment env).hooks = setup.hooks := by
    rw [Setup.inEnvironment]
    split
    · exact ⟨rfl, rfl, rfl⟩
    · exact ⟨rfl, rfl, rfl⟩
  obtain ⟨hingress, hoptions, hhooks⟩ := hsame
  rw [Setup.resolve, Setup.withIngressParts, hingress]
  cases setup.ingress with
  | true => exact ⟨congrArg (·.nodePorts ++ _) hoptions, congrArg (_ :: ·) hhooks⟩
  | false =>
      refine ⟨?_, hhooks⟩
      show (setup.inEnvironment env).options.nodePorts = setup.options.nodePorts ++ []
      rw [hoptions, List.append_nil]

/-! ## The deletion is no step -/

/-- What a hook asks is never the provider. -/
theorem told_notMem_hook {hook : Hook} {r : Except Error Unit} {call : Provider.Call}
    {answer : Except CommandError (Provider.Result call)}
    (h : (hook.run c).run.Walk events r) : told call answer ∉ events := by
  intro hmem
  exact nomatch hook.asks_run c _ _ h _ hmem

/-- No call to the provider fails in a step that is passed. -/
theorem Step.Passes.told_notMem {step : Step} {call : Provider.Call} {cause : CommandError}
    (h : step.Passes c events) : told call (.error cause) ∉ events := by
  intro hmem
  cases h with
  | hook hrun => exact told_notMem_hook hrun hmem
  | _ => exact nomatch List.mem_singleton.1 hmem

/-- Nothing follows a call to the provider that fails. -/
theorem Cut.last {call : Provider.Call} {cause : CommandError}
    {before rest : List (Event World.calls)} {failure : Option Error}
    (h : Cut c steps (before ++ told call (.error cause) :: rest) failure) : rest = [] := by
  generalize hevents : before ++ told call (.error cause) :: rest = events at h
  induction h generalizing before with
  | done => exact absurd hevents (by simp)
  | failed hstep =>
      cases hstep with
      | hook hrun =>
          have hmem : told call (.error cause) ∈ before ++ told call (.error cause) :: rest := by
            simp
          rw [hevents] at hmem
          exact absurd hmem (told_notMem_hook hrun)
      | _ =>
          have hlength := congrArg List.length hevents
          simp at hlength
          exact List.eq_nil_of_length_eq_zero (by omega)
  | passed hstep _ ih =>
      -- the call is not one of the step that was passed, but comes after it
      rcases List.append_eq_append_iff.1 hevents with ⟨left, rfl, hmore⟩ | ⟨left, rfl, hmore⟩
      · cases left with
        | nil => exact @ih [] hmore
        | cons e left =>
            obtain ⟨rfl, -⟩ := List.cons.inj hmore
            exact absurd (List.mem_append_right _ (List.mem_cons_self ..)) hstep.told_notMem
      · exact ih hmore.symm

/-- A world in which nothing fails but the writing of a kubeconfig. -/
def unexportable : Handler World.calls Unit := fun call _ =>
  match call with
  | .provider (.create _) => (Except.ok (), ())
  | .provider (.delete ..) => (Except.ok (), ())
  | .provider .list => (Except.ok ([] : List String), ())
  | .provider (.exportKubeconfig name _) =>
    (Except.error ⟨"fake export " ++ name, "boom"⟩, ())
  | .provider (.nodes _) => (Except.ok ([] : List String), ())
  | .provider (.load ..) => (Except.ok (), ())
  | .images (.exists_ _) => (Except.ok true, ())
  | .images (.pull _) => (Except.ok (), ())
  | .images (.save ..) => (Except.ok (), ())
  | .host (.bind _ port) => (Except.ok port, ())
  | .host (.release ..) => ((), ())
  | .host (.makeTemporary nameStart nameEnd) => (Except.ok (nameStart ++ nameEnd), ())
  | .host (.remove _) => ((), ())
  | .host (.readFile _) => (Except.ok ([] : List UInt8), ())
  | .host (.writeFile ..) => (Except.ok (), ())
  | .host (.exchange ..) => (Except.error OsError.networkUnreachable, ())
  | .host (.upgrade ..) => (Except.error (ApiFault.unreachable .networkUnreachable), ())
  | .host (.fetch _) => (Except.error FetchFault.unreachable, ())
  | .host (.pause _) => ((), ())
  | .hook .. => (Except.ok (), ())

/-- The calls of a start whose kubeconfig cannot be written are no sequence of steps cut at the
    call that fails: the deletion follows. -/
theorem start_unexportable_not_cut :
    ¬ ∃ (c : Cluster) (steps : List Step) (failure : Option Error), Cut c steps
      (stageCalls ((Lease.start "/tmp" .empty {}).run.trace unexportable ())) failure := by
  rintro ⟨c, steps, failure, h⟩
  -- the list of clusters, the new cluster, its kubeconfig, and then one call more
  have hcut : ∃ first second more, Cut c steps ([first, second] ++
      told (.exportKubeconfig "e2e-cluster" "/tmp/e2e-cluster-kubeconfig")
        (.error ⟨"fake export e2e-cluster", "boom"⟩) :: [more]) failure := ⟨_, _, _, h⟩
  obtain ⟨first, second, more, hcut⟩ := hcut
  exact nomatch hcut.last

end TestCluster
