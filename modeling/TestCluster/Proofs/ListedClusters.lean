import TestCluster.Proofs.PrintedNames
import TestCluster.Proofs.Rollback
import TestCluster.Scripted.Tools

/-!
# Listed clusters — operations that go by what the tool has printed

    Where provider and image tool are external programs, every call to them is one command, and
    what the call gives is what the command has printed (`Carries`).  A lookup and a deletion
    by name ask for the list first.  So what they do next is decided by the names that were
    printed, and by nothing else that the text holds: a name that is part of another one, or
    has another one in it, is not that one (`goes_by_list`).
-/

namespace TestCluster

open World Program

/-! ## Calls that are commands -/

namespace Shell

variable {tools : Tools} {α : Type} {asked : List (Event World.calls)}
  {events : List (Event Shell.calls)}

/-- The command for a call to the provider, and how it ended. -/
def ran (tools : Tools) (c : Provider.Call) (outcome : Command.Outcome) : Event Shell.calls :=
  ⟨.command (Kind.command tools.kind c), outcome⟩

/-- The calls of a run, and what the tools do instead.  Every call to the provider or to the
    image tool is one command, and every call to the machine is that call. -/
inductive Carries (tools : Tools) :
    List (Event World.calls) → List (Event Shell.calls) → Prop where
  | done : Carries tools [] []
  | provider {c : Provider.Call} {asked : List (Event World.calls)}
      {events : List (Event Shell.calls)} (outcome : Command.Outcome) :
      Carries tools asked events →
      Carries tools (told c (Kind.answered tools.kind c outcome) :: asked)
        (ran tools c outcome :: events)
  | images {c : ImageTool.Call} {asked : List (Event World.calls)}
      {events : List (Event Shell.calls)} (outcome : Command.Outcome) :
      Carries tools asked events →
      Carries tools
        (⟨.images c, ((Docker.command tools.docker c).result outcome).map (Docker.result · c)⟩ ::
          asked)
        (⟨.command (Docker.command tools.docker c), outcome⟩ :: events)
  | host {c : Host.Call} {asked : List (Event World.calls)} {events : List (Event Shell.calls)}
      (answer : Host.Answer c) : Carries tools asked events →
      Carries tools (⟨.host c, answer⟩ :: asked) (⟨.host c, answer⟩ :: events)
  | hook {name cluster : String} {asked : List (Event World.calls)}
      {events : List (Event Shell.calls)} : Carries tools asked events →
      Carries tools (⟨.hook name cluster, Except.ok ()⟩ :: asked) events

/-- One call is carried out. -/
theorem carries_answer {call : World.Call} {answer : World.Answer call}
    {before after : List (Event Shell.calls)} (h : (Shell.answer tools call).Walk before answer)
    (hrest : Carries tools asked after) :
    Carries tools (⟨call, answer⟩ :: asked) (before ++ after) := by
  cases call with
  | provider c =>
      cases h with
      | ask hdone =>
          obtain ⟨rfl, rfl⟩ := walk_done.1 hdone
          exact .provider _ hrest
  | images c =>
      cases h with
      | ask hdone =>
          obtain ⟨rfl, rfl⟩ := walk_done.1 hdone
          exact .images _ hrest
  | host c =>
      obtain rfl := walk_call.1 h
      exact .host answer hrest
  | hook name cluster =>
      obtain ⟨rfl, rfl⟩ := walk_done.1 h
      exact .hook hrest

/-- A run with tools carries out a run over the world. -/
theorem carries_of_walk {p : Program World.calls α} {a : α}
    (h : (runWith tools p).Walk events a) : ∃ asked, p.Walk asked a ∧ Carries tools asked events := by
  induction p generalizing events with
  | done b =>
      obtain ⟨rfl, rfl⟩ := walk_done.1 h
      exact ⟨[], .done _, .done⟩
  | ask call next ih =>
      obtain ⟨before, answer, after, rfl, hcall, hnext⟩ := walk_bind.1 h
      obtain ⟨asked, hasked, hrest⟩ := ih answer hnext
      exact ⟨⟨call, answer⟩ :: asked, .ask hasked, carries_answer hcall hrest⟩

theorem Carries.of_nil (h : Carries tools [] events) : events = [] := by
  cases h with
  | done => rfl

theorem Carries.of_told {c : Provider.Call} {answer : Except CommandError (Provider.Result c)}
    (h : Carries tools (told c answer :: asked) events) :
    ∃ outcome rest, answer = Kind.answered tools.kind c outcome ∧
      events = ran tools c outcome :: rest ∧ Carries tools asked rest := by
  cases h with
  | provider outcome hrest => exact ⟨outcome, _, rfl, rfl, hrest⟩

theorem Carries.of_host {c : Host.Call} {answer : Host.Answer c}
    (h : Carries tools (⟨.host c, answer⟩ :: asked) events) :
    ∃ rest, events = ⟨.host c, answer⟩ :: rest ∧ Carries tools asked rest := by
  cases h with
  | host _ hrest => exact ⟨_, rfl, hrest⟩

end Shell

/-! ## Operations that ask for the list first -/

namespace Cluster

open Shell

variable {tools : Tools} {tempDir n : String} {kubeconfig : Option String} {quiet : Bool}
  {names : List String} {asked : List (Event World.calls)} {further : List (Event Shell.calls)}
  {outcome : Command.Outcome} {α σ : Type}

theorem walk_isListed {r : Except Error Bool} (h : (isListed n).run.Walk asked r) :
    ∃ answer : Except CommandError (List String), asked = [told .list answer] ∧
      r = (answer.mapError (.backend .list n)).map (·.contains n) := by
  rcases Attempt.walk_bind.1 h with ⟨e, hlist, rfl⟩ | ⟨before, listed, after, rfl, hlist, hdone⟩
  · obtain ⟨(cause | _), rfl, ⟨⟩⟩ := walk_tryProvider.1 hlist
    exact ⟨.error cause, rfl, rfl⟩
  · obtain ⟨(_ | _), rfl, ⟨⟩⟩ := walk_tryProvider.1 hlist
    obtain ⟨rfl, rfl⟩ := Attempt.walk_pure.1 hdone
    exact ⟨.ok listed, rfl, rfl⟩

/-- What goes by the list asks for it, and goes on from whether the name is one of those that
    were printed. -/
theorem goes_on_listed {handle : Handler Shell.calls σ} {s s' : σ}
    (hlist : handle (.command (Kind.command tools.kind .list)) s = (outcome, s'))
    (hnames : Kind.answered tools.kind .list outcome = .ok names)
    (work : Bool → Attempt World.calls α) :
    ∃ asked further,
      (runWith tools (isListed n >>= work).run).trace handle s =
        ran tools .list outcome :: further ∧
      (work (names.contains n)).run.Walk asked
        ((runWith tools (isListed n >>= work).run).run handle s).1 ∧
      Carries tools asked further := by
  obtain ⟨asked, hwalk, hcarries⟩ :=
    carries_of_walk (walk_run handle (runWith tools (isListed n >>= work).run) s)
  have hpasses := passes_run handle (runWith tools (isListed n >>= work).run) s
  -- the first answer is the one that the tool gives in the first state
  have hfirst : ∀ answer rest, asked = told .list answer :: rest → answer = .ok names ∧
      ∃ further, (runWith tools (isListed n >>= work).run).trace handle s =
        ran tools .list outcome :: further ∧ Carries tools rest further := by
    rintro answer rest rfl
    obtain ⟨outcome', further, rfl, htrace, hrest⟩ := hcarries.of_told
    rw [htrace] at hpasses
    obtain ⟨s₁, hcall, -⟩ := passes_cons.1 hpasses
    have hsame : outcome = outcome' := congrArg Prod.fst (hlist.symm.trans hcall)
    subst hsame
    exact ⟨hnames, further, htrace, hrest⟩
  rcases Attempt.walk_bind.1 hwalk with ⟨e, hfail, -⟩ | ⟨before, listed, after, rfl, hok, hwork⟩
  · obtain ⟨answer, rfl, hr⟩ := walk_isListed hfail
    obtain ⟨rfl, -⟩ := hfirst answer [] rfl
    cases hr
  · obtain ⟨answer, rfl, hr⟩ := walk_isListed hok
    obtain ⟨rfl, further, htrace, hrest⟩ := hfirst answer after rfl
    obtain rfl := Except.ok.inj hr
    exact ⟨after, further, htrace, hwork, hrest⟩

/-! ## A lookup -/

/-- The cluster of a name, with its kubeconfig at a given path or else at the default one. -/
def ofName (tempDir n : String) (kubeconfig : Option String) : Cluster :=
  ⟨n, kubeconfig.getD (defaultKubeconfigPath tempDir n)⟩

/-- A lookup, once it is known whether the name is listed. -/
def lookUpListed (tempDir n : String) (kubeconfig : Option String) (listed : Bool) :
    Attempt World.calls (Option Cluster) :=
  if listed then do
    (ofName tempDir n kubeconfig).exportKubeconfig
    pure (some (ofName tempDir n kubeconfig))
  else pure none

theorem find?_eq (tempDir n : String) (kubeconfig : Option String) :
    find? tempDir n kubeconfig = isListed n >>= lookUpListed tempDir n kubeconfig := rfl

/-- The export of a cluster's kubeconfig, as a call to the provider. -/
def exporting (c : Cluster) : Provider.Call := .exportKubeconfig c.name c.kubeconfig

/-- What a lookup does once the names are known: nothing but one export, and that only if the
    name is one of them. -/
inductive LooksUp (tools : Tools) (names : List String) (c : Cluster) :
    List (Event Shell.calls) → Except Error (Option Cluster) → Prop where
  | missing : c.name ∉ names → LooksUp tools names c [] (.ok none)
  | exported {outcome : Command.Outcome} : c.name ∈ names →
      Kind.answered tools.kind c.exporting outcome = Except.ok () →
      LooksUp tools names c [ran tools c.exporting outcome] (.ok (some c))
  | unexported {outcome : Command.Outcome} {cause : CommandError} : c.name ∈ names →
      Kind.answered tools.kind c.exporting outcome = Except.error cause →
      LooksUp tools names c [ran tools c.exporting outcome]
        (.error (.backend .exportKubeconfig c.name cause))

theorem looksUp_of_walk {r : Except Error (Option Cluster)}
    (h : (lookUpListed tempDir n kubeconfig (names.contains n)).run.Walk asked r)
    (hcarries : Carries tools asked further) :
    LooksUp tools names (ofName tempDir n kubeconfig) further r := by
  cases hlisted : names.contains n with
  | false =>
      rw [hlisted] at h
      obtain ⟨rfl, rfl⟩ := Attempt.walk_pure.1 h
      obtain rfl := hcarries.of_nil
      have hn : n ∉ names := by simpa using hlisted
      exact .missing hn
  | true =>
      rw [hlisted] at h
      have hn : n ∈ names := by simpa using hlisted
      rcases Attempt.walk_bind.1 h with ⟨e, hexport, rfl⟩ | ⟨before, _, after, rfl, hexport, hdone⟩
      · obtain ⟨(cause | _), rfl, ⟨⟩⟩ := walk_tryProvider.1 hexport
        obtain ⟨outcome, rest, hanswer, rfl, hnothing⟩ := hcarries.of_told
        obtain rfl := hnothing.of_nil
        exact .unexported hn hanswer.symm
      · obtain ⟨(_ | _), rfl, ⟨⟩⟩ := walk_tryProvider.1 hexport
        obtain ⟨rfl, rfl⟩ := Attempt.walk_pure.1 hdone
        obtain ⟨outcome, rest, hanswer, rfl, hnothing⟩ := hcarries.of_told
        obtain rfl := hnothing.of_nil
        exact .exported hn hanswer.symm

/-- Nothing is found exactly if the name is not listed. -/
theorem LooksUp.none_iff {c : Cluster} {r : Except Error (Option Cluster)}
    (h : LooksUp tools names c further r) : r = .ok none ↔ c.name ∉ names := by
  cases h with
  | missing hn =>
      constructor
      · intro _
        exact hn
      · intro _
        rfl
  | exported hn _ =>
      constructor
      · intro hr
        cases hr
      · intro hnot
        exact absurd hn hnot
  | unexported hn _ =>
      constructor
      · intro hr
        cases hr
      · intro hnot
        exact absurd hn hnot

/-! ## A deletion by name -/

/-- A deletion by name, once it is known whether the name is listed. -/
def deleteListed (n : String) (quiet listed : Bool) : Attempt World.calls Unit :=
  if listed then
    withTemporary (n ++ "-kubeconfig-") "" fun kubeconfig => delete ⟨n, kubeconfig⟩
  else if quiet then pure ()
  else throw (.clusterNotFound n)

theorem deleteNamed_eq (n : String) (quiet : Bool) :
    deleteNamed n quiet = isListed n >>= deleteListed n quiet := rfl

/-- What a deletion by name does once the names are known: nothing but one deletion with a
    scratch kubeconfig, if that can be made, and only for one of them. -/
inductive DeletesNamed (tools : Tools) (n : String) (quiet : Bool) (names : List String) :
    List (Event Shell.calls) → Except Error Unit → Prop where
  | missing : n ∉ names → DeletesNamed tools n quiet names []
      (if quiet then .ok () else .error (.clusterNotFound n))
  | unmade (fault : FileFault) : n ∈ names → DeletesNamed tools n quiet names
      [⟨.host (.makeTemporary (n ++ "-kubeconfig-") ""), Except.error fault⟩]
      (.error (.file fault))
  | deleted (path : String) (outcome : Command.Outcome) : n ∈ names →
      DeletesNamed tools n quiet names
        [⟨.host (.makeTemporary (n ++ "-kubeconfig-") ""), Except.ok path⟩,
          ran tools (.delete n path) outcome, ⟨.host (.remove path), ()⟩]
        ((Kind.answered tools.kind (.delete n path) outcome).mapError (.backend .delete n))

theorem deletesNamed_of_walk {r : Except Error Unit}
    (h : (deleteListed n quiet (names.contains n)).run.Walk asked r)
    (hcarries : Carries tools asked further) : DeletesNamed tools n quiet names further r := by
  cases hlisted : names.contains n with
  | false =>
      rw [hlisted] at h
      have hn : n ∉ names := by simpa using hlisted
      cases quiet with
      | true =>
          obtain ⟨rfl, rfl⟩ := Attempt.walk_pure.1 h
          obtain rfl := hcarries.of_nil
          exact .missing hn
      | false =>
          obtain ⟨rfl, rfl⟩ := Attempt.walk_throw.1 h
          obtain rfl := hcarries.of_nil
          exact .missing hn
  | true =>
      rw [hlisted] at h
      have hn : n ∈ names := by simpa using hlisted
      rcases walk_withTemporary.1 h with ⟨fault, rfl, rfl⟩ | ⟨path, inner, rfl, hdelete⟩
      · obtain ⟨rest, rfl, hdone⟩ := hcarries.of_host
        obtain rfl := hdone.of_nil
        exact .unmade fault hn
      · obtain ⟨answer, rfl, rfl⟩ := walk_tryProvider.1 hdelete
        obtain ⟨afterMade, rfl, hmade⟩ := hcarries.of_host
        obtain ⟨outcome, afterDeleted, rfl, rfl, hdeleted⟩ := Carries.of_told hmade
        obtain ⟨afterRemoved, rfl, hremoved⟩ := hdeleted.of_host
        obtain rfl := hremoved.of_nil
        exact .deleted path outcome hn

/-! ## What was printed decides -/

/-- What the operations on a name do on a machine on which the tool has printed names. -/
structure GoesByList (tools : Tools) (names : List String) (outcome : Command.Outcome)
    (handle : Handler Shell.calls σ) (s : σ) (tempDir n : String) : Prop where
  /-- A lookup asks for the list first. -/
  lookup : ∀ kubeconfig, ∃ further,
    (runWith tools (find? tempDir n kubeconfig).run).trace handle s =
        ran tools .list outcome :: further ∧
      LooksUp tools names (ofName tempDir n kubeconfig) further
        ((runWith tools (find? tempDir n kubeconfig).run).run handle s).1
  lookup_none_iff : ∀ kubeconfig,
    ((runWith tools (find? tempDir n kubeconfig).run).run handle s).1 = .ok none ↔ n ∉ names
  /-- A deletion by name asks for the list first. -/
  deletion : ∀ quiet, ∃ further,
    (runWith tools (deleteNamed n quiet).run).trace handle s =
        ran tools .list outcome :: further ∧
      DeletesNamed tools n quiet names further
        ((runWith tools (deleteNamed n quiet).run).run handle s).1

theorem goesByList {handle : Handler Shell.calls σ} {s s' : σ}
    (hlist : handle (.command (Kind.command tools.kind .list)) s = (outcome, s'))
    (hnames : Kind.answered tools.kind .list outcome = .ok names) (tempDir n : String) :
    GoesByList tools names outcome handle s tempDir n := by
  have hlookup : ∀ kubeconfig, ∃ further,
      (runWith tools (find? tempDir n kubeconfig).run).trace handle s =
          ran tools .list outcome :: further ∧
        LooksUp tools names (ofName tempDir n kubeconfig) further
          ((runWith tools (find? tempDir n kubeconfig).run).run handle s).1 := by
    intro kubeconfig
    rw [find?_eq]
    obtain ⟨asked, further, htrace, hwalk, hcarries⟩ :=
      goes_on_listed hlist hnames (lookUpListed tempDir n kubeconfig)
    exact ⟨further, htrace, looksUp_of_walk hwalk hcarries⟩
  constructor
  · exact hlookup
  · intro kubeconfig
    obtain ⟨further, -, hlooksUp⟩ := hlookup kubeconfig
    exact hlooksUp.none_iff
  · intro quiet
    rw [deleteNamed_eq]
    obtain ⟨asked, further, htrace, hwalk, hcarries⟩ :=
      goes_on_listed hlist hnames (deleteListed n quiet)
    exact ⟨further, htrace, deletesNamed_of_walk hwalk hcarries⟩

/-- **WHAT WAS PRINTED DECIDES.**  However the tool prints names one to a line, they are listed
    in their order, under whatever name the tool is called.  A lookup on such a machine exports
    a kubeconfig exactly if the name is one of them, and finds nothing otherwise; a deletion by
    name deletes once if it is one of them, and otherwise nothing. -/
theorem goes_by_printed_names {names : List String} {text : String}
    (hnames : ∀ name ∈ names, Text.IsName name) (hprints : Text.Prints names text.toList)
    (errors : List UInt8) :
    (∀ {τ : Type} (binary : String) (handle : Handler Command.execution τ) (t t' : τ),
      handle (Kind.command binary .list) t = (.ended true text.toUTF8.toList errors, t') →
      (Kind.answer binary .list).run handle t = (Except.ok names, t')) ∧
    ∀ {σ : Type} (tools : Tools) (handle : Handler Shell.calls σ) (s s' : σ),
      handle (.command (Kind.command tools.kind .list)) s =
        (Command.Outcome.ended true text.toUTF8.toList errors, s') →
      ∀ tempDir n, GoesByList tools names (.ended true text.toUTF8.toList errors) handle s
        tempDir n := by
  constructor
  · intro τ binary handle t t' hlist
    have hanswered : Kind.answered binary .list (.ended true text.toUTF8.toList errors) =
        .ok names := Kind.answered_list hnames hprints
    show (Kind.answered binary .list (handle (Kind.command binary .list) t).1,
      (handle (Kind.command binary .list) t).2) = _
    rw [hlist, hanswered]
    rfl
  · intro σ tools handle s s' hlist tempDir n
    exact goesByList hlist (Kind.answered_list hnames hprints) tempDir n

/-- Two names, one the start of the other: with empty lines and lines of blanks between them,
    blanks around them, both kinds of line end, and none after the last line. -/
def printed : String := "\r\n  dev \r\n\t\ndev-2"

/-- A machine on which the tool prints them. -/
def printing : Scripted.Workshop where
  machine := { tempDir := "/tmp" }
  rules := [{ args := ["get", "clusters"], output := printed.toUTF8.toList }]

theorem goes_by_printed_names_startsAlike :
    (∀ kubeconfig, ((runWith {} (find? "/tmp" "de" kubeconfig).run).run
      Scripted.Workshop.handle printing).1 = .ok none) ∧
    ∀ kubeconfig, ((runWith {} (find? "/tmp" "dev" kubeconfig).run).run
      Scripted.Workshop.handle printing).1 ≠ .ok none := by
  have hprints : Text.Prints ["dev", "dev-2"] printed.toList := by
    have hchars : printed.toList = [] ++ ['\r', '\n'] ++ ("  dev ".toList ++ ['\r', '\n'] ++
        (['\t'] ++ ['\n'] ++ "dev-2".toList)) := by decide
    rw [hchars]
    have hfirst : Text.Padded "dev".toList ([' ', ' '] ++ "dev".toList ++ [' ']) :=
      .intro (by decide) (by decide)
    have hsecond : Text.Padded "dev-2".toList ([] ++ "dev-2".toList ++ []) :=
      .intro (by decide) (by decide)
    exact .line (.blank (by decide) (by decide)) (.inr rfl)
      (.line (.name hfirst (by decide)) (.inr rfl)
        (.line (.blank (by decide) (by decide)) (.inl rfl) (.last (.name hsecond (by decide)))))
  obtain ⟨-, hgoes⟩ := goes_by_printed_names (by decide) hprints []
  have hlist := hgoes {} Scripted.Workshop.handle printing _ (Prod.ext rfl rfl) "/tmp"
  constructor
  · intro kubeconfig
    exact ((hlist "de").lookup_none_iff kubeconfig).2 (by decide)
  · intro kubeconfig hnone
    exact ((hlist "dev").lookup_none_iff kubeconfig).1 hnone (by decide)

end Cluster

end TestCluster
