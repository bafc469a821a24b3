import TestCluster.CommandLine.Run
import TestCluster.Proofs.SequentialPools

/-!
# Described clusters — an options file, and what the command line says besides

    The cluster that a command line describes is found out by reading at most one file.  What
    comes of it is said by two relations on what that file holds: one for the configuration
    (`Describes`), whose options are the file's as the command line changes them, and one for
    the failure (`Refuses`), with the file looked at before the name and the name before the
    node ports.  Exactly one of them applies (`described_eq_ok_iff`, `described_eq_error_iff`),
    and what the program does is what they say (`run_describedCluster`).
-/

namespace TestCluster

/-! ## Results one after another, and failures told otherwise -/

section Results

variable {ε ε' α β : Type} {x : Except ε α} {f : α → Except ε β} {tell : ε → ε'} {a : α} {b : β}
  {e : ε} {e' : ε'}

theorem bind_eq_ok_iff : (x >>= f) = .ok b ↔ ∃ a, x = .ok a ∧ f a = .ok b := by
  cases x with
  | error e =>
      constructor
      · rintro ⟨⟩
      · rintro ⟨a, ⟨⟩, -⟩
  | ok a =>
      constructor
      · intro h
        exact ⟨a, rfl, h⟩
      · rintro ⟨a, ⟨⟩, h⟩
        exact h

theorem bind_eq_error_iff :
    (x >>= f) = .error e ↔ x = .error e ∨ ∃ a, x = .ok a ∧ f a = .error e := by
  cases x with
  | error e =>
      constructor
      · rintro ⟨⟩
        exact Or.inl rfl
      · rintro (⟨⟨⟩⟩ | ⟨a, ⟨⟩, -⟩)
        rfl
  | ok a =>
      constructor
      · intro h
        exact Or.inr ⟨a, rfl, h⟩
      · rintro (⟨⟨⟩⟩ | ⟨a, ⟨⟩, h⟩)
        exact h

theorem mapError_eq_ok_iff : x.mapError tell = .ok a ↔ x = .ok a := by
  cases x with
  | error e =>
      constructor
      · rintro ⟨⟩
      · rintro ⟨⟩
  | ok a =>
      constructor
      · rintro ⟨⟩
        rfl
      · rintro ⟨⟩
        rfl

theorem mapError_eq_error_iff : x.mapError tell = .error e' ↔ ∃ e, x = .error e ∧ e' = tell e := by
  cases x with
  | error e =>
      constructor
      · rintro ⟨⟩
        exact ⟨e, rfl, rfl⟩
      · rintro ⟨e, ⟨⟩, rfl⟩
        rfl
  | ok a =>
      constructor
      · rintro ⟨⟩
      · rintro ⟨e, ⟨⟩, -⟩

theorem map_eq_ok_iff {g : α → β} : x.map g = .ok b ↔ ∃ a, x = .ok a ∧ g a = b := by
  cases x with
  | error e =>
      constructor
      · rintro ⟨⟩
      · rintro ⟨a, ⟨⟩, -⟩
  | ok a =>
      constructor
      · rintro ⟨⟩
        exact ⟨a, rfl, rfl⟩
      · rintro ⟨a, ⟨⟩, rfl⟩
        rfl

theorem map_eq_error_iff {g : α → β} : x.map g = .error e ↔ x = .error e := by
  cases x with
  | error e =>
      constructor
      · rintro ⟨⟩
        rfl
      · rintro ⟨⟩
        rfl
  | ok a =>
      constructor
      · rintro ⟨⟩
      · rintro ⟨⟩

end Results

/-! ## Names and options that make no configuration -/

namespace ClusterConfig

variable {name : String} {options : Options} {fault : Fault} {config : ClusterConfig}

/-- A name and node ports that are rejected, each with what is reported of them: the name if it
    is empty, and otherwise the first port that is not valid. -/
inductive IsRejected (name : String) : List NodePort → Fault → Prop where
  | emptyName {ports : List NodePort} : name = "" → IsRejected name ports .emptyName
  | invalidPort {before after : List NodePort} {p : NodePort} : name ≠ "" →
      (∀ q ∈ before, q.IsValid) → ¬ p.IsValid →
      IsRejected name (before ++ p :: after) (.invalidPort p)

theorem find?_invalid_iff {ports : List NodePort} {p : NodePort} :
    (ports.find? fun q => decide (¬ q.IsValid)) = some p ↔
      ¬ p.IsValid ∧ ∃ before after, ports = before ++ p :: after ∧ ∀ q ∈ before, q.IsValid := by
  rw [List.find?_eq_some_iff_append]
  simp

theorem ofOptions_eq_error_iff :
    ofOptions name options = .error fault ↔ IsRejected name options.nodePorts fault := by
  constructor
  · intro h
    rw [ofOptions] at h
    by_cases hname : name = ""
    · rw [dif_pos hname] at h
      obtain rfl := Except.error.inj h
      exact .emptyName hname
    · rw [dif_neg hname] at h
      split at h
      · rename_i p hp
        obtain ⟨hinvalid, before, after, hports, hbefore⟩ := find?_invalid_iff.1 hp
        obtain rfl := Except.error.inj h
        rw [hports]
        exact .invalidPort hname hbefore hinvalid
      · cases h
  · intro h
    generalize hports : options.nodePorts = ports at h
    cases h with
    | emptyName hname => rw [ofOptions, dif_pos hname]
    | invalidPort hname hbefore hinvalid =>
        have hfirst := find?_invalid_iff.2 ⟨hinvalid, _, _, hports, hbefore⟩
        rw [ofOptions, dif_neg hname]
        split
        · rename_i q hq
          obtain rfl := Option.some.inj (hfirst.symm.trans hq)
          rfl
        · rename_i hnone
          cases hfirst.symm.trans hnone

theorem ofOptions_eq_ok_iff :
    ofOptions name options = .ok config ↔ config.name = name ∧ config.options = options := by
  constructor
  · intro h
    rw [ofOptions] at h
    by_cases hname : name = ""
    · rw [dif_pos hname] at h
      cases h
    · rw [dif_neg hname] at h
      split at h
      · cases h
      · obtain rfl := Except.ok.inj h
        exact ⟨rfl, rfl⟩
  · rintro ⟨rfl, rfl⟩
    exact ofOptions_of_valid config.name_ne_empty config.nodePorts_valid

end ClusterConfig

namespace CommandLine

open ClusterConfig

/-! ## Options as the command line changes them -/

/-- A value that is given takes the place of the one that is there. -/
inductive Replaces {α : Type} : Option α → α → α → Prop where
  | given (value there : α) : Replaces (some value) there value
  | kept (there : α) : Replaces none there there

/-- The options of a file, and what they become by what the command line says: it replaces four of
    them, turns the RAM disk on but not off, and adds node ports and images at the end. -/
structure Merges (a : ClusterArguments) (file merged : Options) : Prop where
  kubernetesVersion : Replaces (a.kubernetesVersion.map some) file.kubernetesVersion
    merged.kubernetesVersion
  workers : Replaces a.workers file.workers merged.workers
  waitSeconds : Replaces (a.wait.map some) file.waitSeconds merged.waitSeconds
  kubeconfig : Replaces (a.kubeconfig.map some) file.kubeconfig merged.kubeconfig
  etcdRamDisk : merged.etcdRamDisk = true ↔ a.etcdRamDisk = true ∨ file.etcdRamDisk = true
  nodePorts : merged.nodePorts = file.nodePorts ++ a.nodePorts
  images : merged.images = file.images ++ a.images
  rawConfig : merged.rawConfig = file.rawConfig

section Merging

variable {α : Type} {a : ClusterArguments} {file merged : Options}

theorem replaces_getD (given : Option α) (there : α) : Replaces given there (given.getD there) := by
  cases given with
  | none => exact .kept there
  | some value => exact .given value there

theorem replaces_orElse (given there : Option α) :
    Replaces (given.map some) there (given <|> there) := by
  cases given with
  | none => exact .kept there
  | some value => exact .given (some value) there

theorem Replaces.unique {given : Option α} {there merged merged' : α}
    (h : Replaces given there merged) (h' : Replaces given there merged') : merged = merged' := by
  cases h with
  | given value => cases h' with | given => rfl
  | kept => cases h' with | kept => rfl

/-- The options are merged in one way only, and that is what the command line does to them. -/
theorem merges_iff : Merges a file merged ↔ merged = a.change file := by
  constructor
  · intro h
    have hdisk : merged.etcdRamDisk = (a.etcdRamDisk || file.etcdRamDisk) := by
      rw [Bool.eq_iff_iff, Bool.or_eq_true]
      exact h.etcdRamDisk
    refine (Options.mk.injEq ..).mpr ⟨h.rawConfig, h.images, ?_, h.nodePorts, ?_, ?_, ?_, hdisk⟩
    · exact h.waitSeconds.unique (replaces_orElse ..)
    · exact h.workers.unique (replaces_getD ..)
    · exact h.kubernetesVersion.unique (replaces_orElse ..)
    · exact h.kubeconfig.unique (replaces_orElse ..)
  · rintro rfl
    constructor
    · exact replaces_orElse ..
    · exact replaces_getD ..
    · exact replaces_orElse ..
    · exact replaces_orElse ..
    · exact Bool.or_eq_true_iff
    · rfl
    · rfl
    · rfl

end Merging

/-! ## What a command line describes -/

/-- What comes of reading the file at a path. -/
abbrev Files := String → Except FileFault (List UInt8)

/-- The options before the command line changes them: those in the file it names, or the default
    ones if it names none. -/
inductive StartsFrom (files : Files) : Option String → Options → Prop where
  | default : StartsFrom files none {}
  | file {path : String} {bytes : List UInt8} {options : Options} : files path = .ok bytes →
      Options.ofBytes path bytes = .ok options → StartsFrom files (some path) options

/-- The configuration of the cluster that a command line describes. -/
structure Describes (files : Files) (a : ClusterArguments) (config : ClusterConfig) : Prop where
  name : config.name = a.name.getD defaultClusterName
  options : ∃ file, StartsFrom files a.config file ∧ Merges a file config.options

/-- The failure of a command line that describes no cluster. -/
inductive Refuses (files : Files) (a : ClusterArguments) : Failure → Prop where
  /-- The options file cannot be read. -/
  | unreadable {path : String} {fault : FileFault} : a.config = some path →
      files path = .error fault → Refuses files a (.optionsFile path (.file fault))
  /-- There are no options in the options file. -/
  | undecodable {path : String} {bytes : List UInt8} {cause : Error} : a.config = some path →
      files path = .ok bytes → Options.ofBytes path bytes = .error cause →
      Refuses files a (.optionsFile path cause)
  /-- The name is empty, or a node port of the file or of the command line is 0. -/
  | rejected {file : Options} {fault : Fault} : StartsFrom files a.config file →
      IsRejected (a.name.getD defaultClusterName) (file.nodePorts ++ a.nodePorts) fault →
      Refuses files a (.library (.invalidConfig fault))

variable {files files' : Files} {a : ClusterArguments} {config : ClusterConfig}
  {failure : Failure}

/-- The options in the file that is named, or the default ones. -/
def startingOptions (files : Files) : Option String → Except Failure Options
  | none => .ok {}
  | some path =>
    ((files path).mapError .file >>= Options.ofBytes path).mapError (.optionsFile path)

/-- The configuration with the options of the file as the command line changes them. -/
def configOf (a : ClusterArguments) (file : Options) : Except Failure ClusterConfig :=
  (ofOptions (a.name.getD defaultClusterName) (a.change file)).mapError
    fun fault => .library (.invalidConfig fault)

/-- The configuration that a command line describes, or the failure. -/
def described (files : Files) (a : ClusterArguments) : Except Failure ClusterConfig :=
  startingOptions files a.config >>= configOf a

theorem startingOptions_eq_ok_iff {path? : Option String} {file : Options} :
    startingOptions files path? = .ok file ↔ StartsFrom files path? file := by
  cases path? with
  | none =>
      constructor
      · rintro ⟨⟩
        exact .default
      · rintro ⟨⟩
        rfl
  | some path =>
      rw [startingOptions, mapError_eq_ok_iff, bind_eq_ok_iff]
      constructor
      · rintro ⟨bytes, hread, hoptions⟩
        exact .file (mapError_eq_ok_iff.1 hread) hoptions
      · rintro (_ | ⟨hread, hoptions⟩)
        exact ⟨_, mapError_eq_ok_iff.2 hread, hoptions⟩

theorem startingOptions_eq_error_iff {path? : Option String} :
    startingOptions files path? = .error failure ↔ ∃ path cause, path? = some path ∧
      failure = .optionsFile path cause ∧
      ((∃ fault, files path = .error fault ∧ cause = .file fault) ∨
        ∃ bytes, files path = .ok bytes ∧ Options.ofBytes path bytes = .error cause) := by
  cases path? with
  | none =>
      constructor
      · rintro ⟨⟩
      · rintro ⟨path, cause, ⟨⟩, -⟩
  | some path =>
      rw [startingOptions, mapError_eq_error_iff]
      simp only [bind_eq_error_iff, mapError_eq_error_iff, mapError_eq_ok_iff]
      constructor
      · rintro ⟨cause, hcause, rfl⟩
        exact ⟨path, cause, rfl, rfl, hcause⟩
      · rintro ⟨path, cause, ⟨⟩, rfl, hcause⟩
        exact ⟨cause, hcause, rfl⟩

theorem described_eq_ok_iff : described files a = .ok config ↔ Describes files a config := by
  rw [described, bind_eq_ok_iff]
  simp only [configOf, mapError_eq_ok_iff, startingOptions_eq_ok_iff, ofOptions_eq_ok_iff,
    ← merges_iff]
  constructor
  · rintro ⟨file, hfile, hname, hoptions⟩
    exact ⟨hname, file, hfile, hoptions⟩
  · rintro ⟨hname, file, hfile, hoptions⟩
    exact ⟨file, hfile, hname, hoptions⟩

theorem described_eq_error_iff : described files a = .error failure ↔ Refuses files a failure := by
  rw [described, bind_eq_error_iff, startingOptions_eq_error_iff]
  simp only [configOf, mapError_eq_error_iff, startingOptions_eq_ok_iff, ofOptions_eq_error_iff]
  constructor
  · rintro (⟨path, cause, hpath, rfl, ⟨fault, hread, rfl⟩ | ⟨bytes, hread, hoptions⟩⟩ |
      ⟨file, hfile, fault, hrejected, rfl⟩)
    · exact .unreadable hpath hread
    · exact .undecodable hpath hread hoptions
    · exact .rejected hfile hrejected
  · intro h
    cases h with
    | unreadable hpath hread => exact Or.inl ⟨_, _, hpath, rfl, Or.inl ⟨_, hread, rfl⟩⟩
    | undecodable hpath hread hoptions =>
        exact Or.inl ⟨_, _, hpath, rfl, Or.inr ⟨_, hread, hoptions⟩⟩
    | rejected hfile hrejected => exact Or.inr ⟨_, hfile, _, hrejected, rfl⟩

/-! ## Finding it out -/

theorem load_run (path : String) : (Options.load path).run =
    .ask (.host (.readFile path)) fun answer : Except FileFault (List UInt8) =>
      .done (answer.mapError .file >>= Options.ofBytes path) := by
  refine congrArg (Program.ask (I := World.calls) _) (funext ?_)
  intro answer
  cases answer with
  | error fault => rfl
  | ok bytes => rfl

/-- What is done with the options of the file, whatever they are. -/
def describeFrom (a : ClusterArguments) (file : Options) : Work ClusterConfig :=
  match ofOptions (a.name.getD defaultClusterName) (a.change file) with
  | .error fault => throw (.library (.invalidConfig fault))
  | .ok config => pure config

theorem describeFrom_run (a : ClusterArguments) (file : Options) :
    (describeFrom a file).run = .done (configOf a file) := by
  rw [describeFrom, configOf]
  cases ofOptions (a.name.getD defaultClusterName) (a.change file) with
  | error fault => rfl
  | ok config => rfl

/-- Without an options file nothing is asked. -/
theorem describedCluster_of_none (h : a.config = none) (files : Files) :
    (describedCluster a).run = .done (described files a) := by
  rw [describedCluster, ClusterArguments.options, described, h]
  exact describeFrom_run a {}

/-- With one, it is read, and what was read decides. -/
theorem describedCluster_of_some {path : String} (h : a.config = some path) :
    (describedCluster a).run =
      .ask (.host (.readFile path)) fun answer : Except FileFault (List UInt8) =>
        .done (described (fun _ => answer) a) := by
  rw [describedCluster, ClusterArguments.options, h, fileOptions, load_run]
  refine congrArg (Program.ask (I := World.calls) _) (funext ?_)
  intro (answer : Except FileFault (List UInt8))
  show _ = Program.done (described (fun _ => answer) a)
  rw [described, h, startingOptions]
  beta_reduce
  cases (answer.mapError Error.file >>= Options.ofBytes path) with
  | error cause => rfl
  | ok file => exact describeFrom_run a file

/-- Only the file that is named matters. -/
theorem described_congr (h : ∀ path, a.config = some path → files path = files' path) :
    described files a = described files' a := by
  have hoptions : startingOptions files a.config = startingOptions files' a.config := by
    cases hpath : a.config with
    | none => rfl
    | some path => rw [startingOptions, startingOptions, h path hpath]
  rw [described, described, hoptions]

section Runs

variable {σ : Type}

/-- What reading a file gives in a state of the machine. -/
def filesAt (handle : Handler Shell.calls σ) (s : σ) : Files :=
  fun path => (handle (.host (.readFile path)) s).1

/-- What a command line describes is found out by reading the options file, if it names one. -/
theorem run_describedCluster (handle : Handler Shell.calls σ) (s : σ) (a : ClusterArguments) :
    ((Shell.run (describedCluster a).run).run handle s).1 = described (filesAt handle s) a ∧
      ((Shell.run (describedCluster a).run).trace handle s).map Event.call =
        a.config.toList.map fun path => .host (.readFile path) := by
  cases hconfig : a.config with
  | none =>
      rw [describedCluster_of_none hconfig (filesAt handle s)]
      exact ⟨rfl, rfl⟩
  | some path =>
      have hsame : described (fun _ => filesAt handle s path) a =
          described (filesAt handle s) a := by
        refine described_congr ?_
        intro path' hpath'
        rw [Option.some.inj (hconfig.symm.trans hpath')]
      rw [describedCluster_of_some hconfig, ← hsame]
      exact ⟨rfl, rfl⟩

end Runs

end CommandLine

end TestCluster
