import TestCluster.Proofs.DescribedClusters
import TestCluster.Proofs.ListedClusters
import TestCluster.Proofs.PortProbes

/-!
# Dry runs — the document of a real run, without the run

    The creation of a cluster and its dry run start with the same work, which finds out what
    cluster the command line describes and asks for no more than the options file.  After that a
    dry run is over, while every walk of a real run goes on to a call to the provider, to the
    image tool or to a port (`asksSome_create`).  So a failure before the first such call is a
    failure of the common start, and one that the dry run reports as well (`shows_what_is_used`).

    A real run gives the tool its document by the only command of its kind that is in its
    footprint, and the document there is that of the configuration (`input_of_create`).
-/

namespace TestCluster

open World Program

/-! ## Programs one after another -/

namespace Program

variable {I J : Interface} {α β γ : Type}

theorem bind_assoc (p : Program I α) (f : α → Program I β) (g : β → Program I γ) :
    (p.bind f).bind g = p.bind fun a => (f a).bind g := by
  induction p with
  | done a => rfl
  | ask call next ih => exact congrArg (Program.ask call) (funext ih)

/-- Two computations in a row are answered by others one after the other. -/
theorem expand_bind (answer : (call : I.Call) → Program J (I.Answer call)) (p : Program I α)
    (f : α → Program I β) :
    (p.bind f).expand answer = (p.expand answer).bind fun a => (f a).expand answer := by
  induction p with
  | done a => rfl
  | ask call next ih =>
      show (answer call).bind (fun b => ((next b).bind f).expand answer) =
        ((answer call).bind fun b => (next b).expand answer).bind _
      rw [bind_assoc]
      exact congrArg _ (funext ih)

/-- On every walk there is a call that satisfies a condition. -/
def AsksSome (P : I.Call → Prop) (p : Program I α) : Prop :=
  ∀ events a, p.Walk events a → ∃ e ∈ events, P e.call

theorem asksSome_call {P : I.Call → Prop} {c : I.Call} (h : P c) : (call c).AsksSome P := by
  intro events answer hwalk
  obtain rfl := walk_call.1 hwalk
  exact ⟨_, List.mem_singleton_self _, h⟩

/-- What is asked first is asked, whatever comes next. -/
theorem AsksSome.bind {P : I.Call → Prop} {p : Program I α} (h : p.AsksSome P)
    (f : α → Program I β) : (p.bind f).AsksSome P := by
  intro events b hwalk
  obtain ⟨before, a, after, rfl, hp, -⟩ := walk_bind.1 hwalk
  obtain ⟨e, he, hcall⟩ := h before a hp
  exact ⟨e, List.mem_append_left after he, hcall⟩

end Program

/-! ## Calls that reach outside -/

/-- Whether a call reaches an external tool, or binds a port. -/
def World.Call.isExternal : World.Call → Bool
  | .provider _ | .images _ | .host (.bind ..) => true
  | _ => false

/-- A call that reaches an external tool, or binds a port. -/
abbrev World.IsExternal (call : World.Call) : Prop := call.isExternal = true

/-- Whether a call runs an external tool, or binds a port. -/
def Shell.Call.isExternal : Shell.Call → Bool
  | .command _ | .host (.bind ..) => true
  | _ => false

/-- A call that runs an external tool, or binds a port. -/
abbrev Shell.IsExternal (call : Shell.Call) : Prop := call.isExternal = true

/-- Whether a command is `kind create cluster`, with whatever arguments. -/
def Command.CreatesCluster (c : Command) : Prop :=
  c.program = Kind.defaultBinary ∧ ["create", "cluster"] <+: c.args

namespace Shell

variable {tools : Tools} {asked : List (Event World.calls)} {events : List (Event Shell.calls)}

/-- Two computations in a row are done with the usual tools one after the other. -/
theorem run_bind {α β : Type} (p : Program World.calls α) (f : α → Program World.calls β) :
    run (p.bind f) = (run p).bind fun a => run (f a) :=
  expand_bind (I := World.calls) (J := Shell.calls) (Shell.answer {}) p f

/-- A call to the world, and the call that is made instead where there are tools. -/
inductive Becomes (tools : Tools) : World.Call → Shell.Call → Prop where
  | provider (c : Provider.Call) :
      Becomes tools (.provider c) (.command (Kind.command tools.kind c))
  | images (c : ImageTool.Call) :
      Becomes tools (.images c) (.command (Docker.command tools.docker c))
  | host (c : Host.Call) : Becomes tools (.host c) (.host c)

theorem Becomes.isExternal_eq {w : World.Call} {c : Shell.Call} (h : Becomes tools w c) :
    c.isExternal = w.isExternal := by
  cases h with
  | provider c => rfl
  | images c => rfl
  | host c => cases c <;> rfl

/-- Only for the creation of a cluster is there a command that creates one, and it is given the
    document that was to be used. -/
theorem Becomes.of_createsCluster {w : World.Call} {c : Command}
    (h : Becomes {} w (.command c)) (hc : c.CreatesCluster) :
    ∃ request, w = .provider (.create request) ∧ c.input = some request.config := by
  obtain ⟨hprogram, hargs⟩ := hc
  cases h with
  | images c =>
      have hdocker : (Docker.command Docker.defaultBinary c).program = Docker.defaultBinary := by
        cases c <;> rfl
      exact absurd (hdocker.symm.trans hprogram) (by decide)
  | provider c =>
      cases c with
      | create request => exact ⟨request, rfl, rfl⟩
      | delete cluster kubeconfig => simp [Kind.command] at hargs
      | list => simp [Kind.command] at hargs
      | exportKubeconfig cluster path => simp [Kind.command] at hargs
      | nodes cluster => simp [Kind.command] at hargs
      | load cluster node archive => simp [Kind.command] at hargs

/-- Every call that is made stands for one that was asked. -/
theorem Carries.exists_asked (h : Carries tools asked events) {e : Event Shell.calls}
    (he : e ∈ events) : ∃ e' ∈ asked, Becomes tools e'.call e.call := by
  induction h with
  | done => cases he
  | provider outcome _ ih | images outcome _ ih | host answer _ ih =>
      rcases List.mem_cons.1 he with rfl | he
      · exact ⟨_, List.mem_cons_self .., by constructor⟩
      · obtain ⟨e', he', hbecomes⟩ := ih he
        exact ⟨e', List.mem_cons_of_mem _ he', hbecomes⟩
  | hook _ ih =>
      obtain ⟨e', he', hbecomes⟩ := ih he
      exact ⟨e', List.mem_cons_of_mem _ he', hbecomes⟩

/-- Every call that was asked and reaches outside is made. -/
theorem Carries.exists_made (h : Carries tools asked events) {e : Event World.calls}
    (he : e ∈ asked) (hexternal : World.IsExternal e.call) :
    ∃ e' ∈ events, Becomes tools e.call e'.call := by
  induction h with
  | done => cases he
  | provider outcome _ ih | images outcome _ ih | host answer _ ih =>
      rcases List.mem_cons.1 he with rfl | he
      · exact ⟨_, List.mem_cons_self .., by constructor⟩
      · obtain ⟨e', he', hbecomes⟩ := ih he
        exact ⟨e', List.mem_cons_of_mem _ he', hbecomes⟩
  | hook _ ih =>
      rcases List.mem_cons.1 he with rfl | he
      · cases hexternal
      · exact ih he

/-- What reaches outside does so with tools. -/
theorem asksSome_runWith {α : Type} {p : Program World.calls α}
    (h : p.AsksSome World.IsExternal) : (runWith tools p).AsksSome Shell.IsExternal := by
  intro events a hwalk
  obtain ⟨asked, hasked, hcarries⟩ := carries_of_walk hwalk
  obtain ⟨e, he, hexternal⟩ := h asked a hasked
  obtain ⟨e', he', hbecomes⟩ := hcarries.exists_made he hexternal
  exact ⟨e', he', hbecomes.isExternal_eq.trans hexternal⟩

end Shell

/-! ## What a creation asks -/

namespace Cluster

variable {tempDir : String} {config : ClusterConfig}

/-- A creation reaches outside: it probes its first port, or if there is none pulls its image, or
    if that is not chosen has the provider create the cluster. -/
theorem asksSome_create (tempDir : String) (config : ClusterConfig) :
    (create tempDir config).run.AsksSome World.IsExternal := by
  rw [create_eq, checkPorts]
  cases config.options.nodePorts with
  | cons p ports =>
      have hbind : (host (.bind hostAddress p.host)).AsksSome World.IsExternal :=
        asksSome_call (I := World.calls) rfl
      exact (((hbind.bind _).bind _).bind _).bind _
  | nil =>
      show (bringUp tempDir config).run.AsksSome _
      rw [bringUp]
      cases config.image? with
      | some image =>
          have hpull : (images (.pull image)).AsksSome World.IsExternal :=
            asksSome_call (I := World.calls) rfl
          exact (hpull.bind _).bind _
      | none =>
          have hcreate : (provider (.create (request tempDir config))).AsksSome
              World.IsExternal := asksSome_call (I := World.calls) rfl
          exact (hcreate.bind _).bind _

theorem Creates.request_eq {request : CreateRequest}
    (h : Creates tempDir config (.provider (.create request))) :
    request = Cluster.request tempDir config := by
  cases h with
  | create => rfl
  | probe h => cases h
  | fetch h => cases h
  | equip h =>
      cases h with
      | preload h =>
          cases h with
          | fetch h => cases h

/-- A creation that succeeds has had the provider create the cluster. -/
theorem mem_of_create {events : List (Event World.calls)} {c : Cluster}
    (h : (create tempDir config).run.Walk events (.ok c)) :
    ∃ e ∈ events, e.call = .provider (.create (request tempDir config)) := by
  obtain ⟨checked, _, _, rfl, -, h⟩ := Attempt.walk_bind_ok.1 h
  obtain ⟨pulled, _, _, rfl, -, h⟩ := Attempt.walk_bind_ok.1 h
  obtain ⟨asked, _, further, rfl, hcreate, -⟩ := Attempt.walk_bind_ok.1 h
  obtain ⟨answer, rfl, -⟩ := walk_tryProvider.1 hcreate
  refine ⟨⟨.provider (.create (request tempDir config)), answer⟩, ?_, rfl⟩
  exact List.mem_append_right _ (List.mem_append_right _ (List.mem_cons_self ..))

/-- A creation that succeeds with the usual tools has run the command for it. -/
theorem createsCluster_of_create {σ : Type} {handle : Handler Shell.calls σ} {s : σ} {c : Cluster}
    (h : ((Shell.run (create tempDir config).run).run handle s).1 = .ok c) :
    ∃ e ∈ (Shell.run (create tempDir config).run).trace handle s,
      ∃ command, e.call = .command command ∧ command.CreatesCluster := by
  have hwalk := walk_run handle (Shell.run (create tempDir config).run) s
  rw [h] at hwalk
  obtain ⟨asked, hasked, hcarries⟩ := Shell.carries_of_walk hwalk
  obtain ⟨e, he, hcreate⟩ := mem_of_create hasked
  have hexternal : World.IsExternal e.call := by
    rw [hcreate]
    rfl
  obtain ⟨e', he', hbecomes⟩ := hcarries.exists_made he hexternal
  rw [hcreate] at hbecomes
  generalize hcall : e'.call = call at hbecomes
  cases hbecomes with
  | provider => exact ⟨e', he', _, hcall, rfl, _, rfl⟩

/-- A command of a creation that creates a cluster is given the document of the configuration. -/
theorem input_of_create {σ : Type} {handle : Handler Shell.calls σ} {s : σ}
    {e : Event Shell.calls} {c : Command}
    (he : e ∈ (Shell.run (create tempDir config).run).trace handle s)
    (hcall : e.call = .command c) (hc : c.CreatesCluster) : c.input = some config.render := by
  obtain ⟨asked, hasked, hcarries⟩ := Shell.carries_of_walk (walk_run handle _ s)
  obtain ⟨e', he', hbecomes⟩ := hcarries.exists_asked he
  rw [hcall] at hbecomes
  obtain ⟨request, hcreate, hinput⟩ := hbecomes.of_createsCluster hc
  have hasks := asks_create tempDir config asked _ hasked e' he'
  rw [hcreate] at hasks
  rw [hinput, hasks.request_eq]
  rfl

end Cluster

/-! ## Creating and showing -/

namespace CommandLine

/-- The command that creates a cluster, dry run or not, carried out with the usual tools. -/
def creation (around : Surroundings) (a : ClusterArguments) (dryRun : Bool) :
    Program Shell.calls (Except Failure String) :=
  Shell.run ((Task.create a dryRun).run around).run

/-- What the command says of the cluster that was made. -/
def report (made : Except Error Cluster) : Except Failure String :=
  (made.mapError .library).map fun cluster => line cluster.kubeconfig

/-- What is left to do once it is known which cluster is described. -/
def creationOf (around : Surroundings) (dryRun : Bool) :
    Except Failure ClusterConfig → Program Shell.calls (Except Failure String)
  | .error failure => .done (.error failure)
  | .ok config =>
    if dryRun then .done (.ok config.render)
    else (Shell.run (Cluster.create around.tempDir config).run).bind fun made => .done (report made)

/-- What is left to do of a real run. -/
def making (around : Surroundings) (config : ClusterConfig) : Work String := do
  let cluster ← attempt (Cluster.create around.tempDir config)
  pure (line cluster.kubeconfig)

theorem making_run (around : Surroundings) (config : ClusterConfig) :
    (making around config).run =
      (Cluster.create around.tempDir config).run.bind fun made => .done (report made) := by
  refine (bind_assoc _ _ _).trans (congrArg _ (funext ?_))
  intro made
  cases made with
  | error cause => rfl
  | ok cluster => rfl

/-- The dry run and the real run start with the same work. -/
theorem creation_eq (around : Surroundings) (a : ClusterArguments) (dryRun : Bool) :
    creation around a dryRun =
      (Shell.run (describedCluster a).run).bind (creationOf around dryRun) := by
  refine (Shell.run_bind _ _).trans (congrArg _ (funext ?_))
  intro found
  cases found with
  | error failure => rfl
  | ok config =>
      cases dryRun with
      | true => rfl
      | false =>
          show Shell.run (making around config).run = _
          rw [making_run, Shell.run_bind]
          rfl

section Runs

variable {σ : Type} {handle : Handler Shell.calls σ} {s : σ} {around : Surroundings}
  {a : ClusterArguments} {config : ClusterConfig} {failure : Failure}

/-- A dry run does no more than to find out which cluster is described, and shows its document. -/
theorem dryRun_eq (handle : Handler Shell.calls σ) (s : σ) (around : Surroundings)
    (a : ClusterArguments) :
    ((creation around a true).run handle s).1 =
        (described (filesAt handle s) a).map ClusterConfig.render ∧
      (creation around a true).trace handle s =
        (Shell.run (describedCluster a).run).trace handle s := by
  rw [creation_eq, Program.run_bind, trace_bind, (run_describedCluster handle s a).1]
  cases described (filesAt handle s) a with
  | error failure => exact ⟨rfl, List.append_nil _⟩
  | ok config => exact ⟨rfl, List.append_nil _⟩

/-- If no cluster is described, a real run does what a dry run does. -/
theorem realRun_refused (h : described (filesAt handle s) a = .error failure) :
    ((creation around a false).run handle s).1 = .error failure ∧
      (creation around a false).trace handle s = (creation around a true).trace handle s := by
  rw [(dryRun_eq handle s around a).2, creation_eq, Program.run_bind, trace_bind,
    (run_describedCluster handle s a).1, h]
  exact ⟨rfl, List.append_nil _⟩

/-- If one is described, a real run creates it, from where a dry run ends. -/
theorem realRun_made (h : described (filesAt handle s) a = .ok config) :
    ((creation around a false).run handle s).1 =
        report ((Shell.run (Cluster.create around.tempDir config).run).run handle
          ((creation around a true).run handle s).2).1 ∧
      (creation around a false).trace handle s =
        (creation around a true).trace handle s ++
          (Shell.run (Cluster.create around.tempDir config).run).trace handle
            ((creation around a true).run handle s).2 := by
  rw [(dryRun_eq handle s around a).2, creation_eq, creation_eq, Program.run_bind,
    Program.run_bind, trace_bind, (run_describedCluster handle s a).1, h]
  show (((Shell.run _).bind _).run handle _).1 = _ ∧ _ ++ ((Shell.run _).bind _).trace handle _ = _
  rw [Program.run_bind, trace_bind]
  exact ⟨rfl, congrArg _ (List.append_nil _)⟩

/-- What a dry run of the command has to do with a real run of it on the same machine. -/
structure ShowsWhatIsUsed (handle : Handler Shell.calls σ) (s : σ) (around : Surroundings)
    (a : ClusterArguments) : Prop where
  /-- A dry run asks for the options file, if one is named, and for nothing else. -/
  reads : ((creation around a true).trace handle s).map Event.call =
    a.config.toList.map fun path => .host (.readFile path)
  silent : ∀ e ∈ (creation around a true).trace handle s, ¬ Shell.IsExternal e.call
  /-- It fails exactly if the file, the name or a node port is refused. -/
  refuses_iff : ∀ failure, ((creation around a true).run handle s).1 = .error failure ↔
    Refuses (filesAt handle s) a failure
  /-- It fails exactly as a real run fails that has not reached outside. -/
  fails_iff : ∀ failure, ((creation around a true).run handle s).1 = .error failure ↔
    ((creation around a false).run handle s).1 = .error failure ∧
      ∀ e ∈ (creation around a false).trace handle s, ¬ Shell.IsExternal e.call
  /-- Otherwise it gives the document of the configuration that is described. -/
  shows_iff : ∀ document, ((creation around a true).run handle s).1 = .ok document ↔
    ∃ config, Describes (filesAt handle s) a config ∧ config.render = document
  /-- It is this configuration that a real run creates, after what the dry run did. -/
  uses : ∀ config, Describes (filesAt handle s) a config →
    ((creation around a false).run handle s).1 =
        report ((Shell.run (Cluster.create around.tempDir config).run).run handle
          ((creation around a true).run handle s).2).1 ∧
      (creation around a false).trace handle s =
        (creation around a true).trace handle s ++
          (Shell.run (Cluster.create around.tempDir config).run).trace handle
            ((creation around a true).run handle s).2
  /-- The document is what a real run gives to each command that creates a cluster. -/
  given : ∀ document, ((creation around a true).run handle s).1 = .ok document →
    ∀ e ∈ (creation around a false).trace handle s, ∀ c : Command, e.call = .command c →
      c.CreatesCluster → c.input = some document
  /-- There is such a command in every real run that succeeds. -/
  reached : ∀ output, ((creation around a false).run handle s).1 = .ok output →
    ∃ e ∈ (creation around a false).trace handle s, ∃ c, e.call = .command c ∧ c.CreatesCluster

/-- To read files is not to reach outside. -/
theorem not_isExternal_of_reads {events : List (Event Shell.calls)} {paths : List String}
    (h : events.map Event.call = paths.map fun path => .host (.readFile path)) :
    ∀ e ∈ events, ¬ Shell.IsExternal e.call := by
  intro e he
  have hcall : e.call ∈ events.map Event.call := List.mem_map_of_mem he
  rw [h] at hcall
  obtain ⟨path, -, hpath⟩ := List.mem_map.1 hcall
  rw [← hpath]
  exact Bool.false_ne_true

/-- **A DRY RUN SHOWS WHAT IS USED.**  On every machine a dry run reaches nothing outside, and
    fails exactly as a real run fails before it has reached anything there: over its options
    file, its name or a node port.  Otherwise it prints the document of the configuration that a
    real run goes on with, which is what that gives to `kind create cluster`; and the options of
    this configuration are those of the file as the command line changes them. -/
theorem shows_what_is_used (handle : Handler Shell.calls σ) (s : σ) (around : Surroundings)
    (a : ClusterArguments) : ShowsWhatIsUsed handle s around a := by
  obtain ⟨hdry, htrace⟩ := dryRun_eq handle s around a
  have hreads : ((creation around a true).trace handle s).map Event.call =
      a.config.toList.map fun path => .host (.readFile path) := by
    rw [htrace]
    exact (run_describedCluster handle s a).2
  have hsilent := not_isExternal_of_reads hreads
  have hrefuses : ∀ failure, ((creation around a true).run handle s).1 = .error failure ↔
      described (filesAt handle s) a = .error failure := by
    intro failure
    rw [hdry, map_eq_error_iff]
  constructor
  · exact hreads
  · exact hsilent
  · intro failure
    exact (hrefuses failure).trans described_eq_error_iff
  · intro failure
    rw [hrefuses]
    constructor
    · intro h
      obtain ⟨hreal, hsame⟩ := realRun_refused h
      rw [hsame]
      exact ⟨hreal, hsilent⟩
    · rintro ⟨hreal, hnothing⟩
      cases h : described (filesAt handle s) a with
      | error failure' =>
          obtain ⟨hrefused, -⟩ := realRun_refused h
          rw [Except.error.inj (hrefused.symm.trans hreal)]
      | ok config =>
          -- a cluster that is described is created, and that reaches outside
          obtain ⟨-, hmade⟩ := realRun_made h
          obtain ⟨e, he, hexternal⟩ := Shell.asksSome_runWith
            (Cluster.asksSome_create around.tempDir config) _ _ (walk_run handle _ _)
          refine absurd hexternal (hnothing e ?_)
          rw [hmade]
          exact List.mem_append_right _ he
  · intro document
    rw [hdry, map_eq_ok_iff]
    simp only [described_eq_ok_iff]
  · intro config hconfig
    exact realRun_made (described_eq_ok_iff.2 hconfig)
  · intro document hdocument e he c hcall hc
    rw [hdry] at hdocument
    obtain ⟨config, hconfig, rfl⟩ := map_eq_ok_iff.1 hdocument
    rw [(realRun_made hconfig).2] at he
    rcases List.mem_append.1 he with hbefore | hafter
    · refine absurd ?_ (hsilent e hbefore)
      rw [hcall]
      rfl
    · exact Cluster.input_of_create hafter hcall hc
  · intro output houtput
    cases h : described (filesAt handle s) a with
    | error failure =>
        obtain ⟨hrefused, -⟩ := realRun_refused h
        cases hrefused.symm.trans houtput
    | ok config =>
        obtain ⟨hreport, hmade⟩ := realRun_made h
        obtain ⟨cluster, hcluster, -⟩ := map_eq_ok_iff.1 (hreport.symm.trans houtput)
        obtain ⟨e, he, hcommand⟩ :=
          Cluster.createsCluster_of_create (mapError_eq_ok_iff.1 hcluster)
        refine ⟨e, ?_, hcommand⟩
        rw [hmade]
        exact List.mem_append_right _ he

end Runs

end CommandLine

end TestCluster
