import TestCluster.Proofs.FirstFailure
import TestCluster.Proofs.Footprints

/-!
# Rollback — a cluster that was brought up is torn down when a later stage fails

    A run that brings a cluster up goes through stages, and the first stage that fails
    decides its error.  Before the provider has brought the cluster up a failure just ends
    the run.  Afterwards a failure is followed by one deletion, the last call of the run,
    and the deletion's own outcome is not reported.

    `RollsBack` lists the four ways in which such a run may go.  All stages but the hooks
    fail with a call, so that `firstFailure` tells their error; a hook may also fail on its
    own account, by a manifest that cannot be read, and is taken as it is (`HooksRan`).
-/

namespace TestCluster

/-! ## Calls that leave clusters alone -/

/-- Whether a call brings a cluster up or tears one down. -/
def World.Call.changesClusters : World.Call → Bool
  | .provider (.create _) => true
  | .provider (.delete ..) => true
  | _ => false

/-- No cluster is brought up or torn down. -/
def Quiet (events : List (Event World.calls)) : Prop :=
  ∀ e ∈ events, World.Call.changesClusters e.call = false

/-- A call that leaves clusters alone. -/
abbrev World.IsQuiet (call : World.Call) : Prop := call.changesClusters = false

theorem quiet_nil : Quiet [] := nofun

theorem Quiet.cons {e : Event World.calls} {rest : List (Event World.calls)}
    (h : World.Call.changesClusters e.call = false) (h' : Quiet rest) : Quiet (e :: rest) :=
  List.forall_mem_cons.2 ⟨h, h'⟩

theorem Quiet.append {before after : List (Event World.calls)} (h : Quiet before)
    (h' : Quiet after) : Quiet (before ++ after) := by
  intro e he
  rcases List.mem_append.1 he with he | he
  · exact h e he
  · exact h' e he

namespace Cluster

open World

theorem Fetches.isQuiet {call : World.Call} (h : Fetches call) : IsQuiet call := by
  cases h <;> rfl

theorem Equips.isQuiet {c : Cluster} {call : World.Call} (h : Equips c call) : IsQuiet call := by
  cases h with
  | exportKubeconfig => rfl
  | nodes => rfl
  | preload h =>
      cases h with
      | fetch h => exact h.isQuiet
      | _ => rfl

theorem quiet_checkHostPort (port : NodePort) : (checkHostPort port).run.Asks IsQuiet := by
  refine (asks_checkHostPort port).mono ?_
  rintro _ ⟨⟩
  · rfl
  · rfl

theorem quiet_pullNodeImage (image : Option String) :
    (pullNodeImage image).run.Asks IsQuiet :=
  (asks_pullNodeImage image).mono fun _ => Fetches.isQuiet

theorem quiet_equip (c : Cluster) (images : List String) : (c.equip images).run.Asks IsQuiet :=
  (asks_equip c images).mono fun _ => Equips.isQuiet

end Cluster

/-- A hook brings no cluster up and tears none down. -/
theorem Hook.quiet_run (c : Cluster) (hook : Hook) : (hook.run c).run.Asks World.IsQuiet := by
  refine (hook.asks_run c).mono ?_
  intro call hcall
  cases call with
  | provider call => exact nomatch hcall
  | images call => rfl
  | host call => rfl
  | hook name cluster => rfl

/-! ## How a run may go -/

section RollsBack

open World

/-- A call to the provider, with its answer. -/
def told (c : Provider.Call) (answer : Except CommandError (Provider.Result c)) :
    Event World.calls :=
  ⟨.provider c, answer⟩

/-- Hooks that ran one after another on a cluster, up to the first that failed: their events,
    and the error that names the failed one. -/
inductive HooksRan (c : Cluster) :
    List Hook → List (Event World.calls) → Option Error → Prop where
  | done : HooksRan c [] [] none
  | failed {hook : Hook} {hooks : List Hook} {events : List (Event World.calls)} {e : Error} :
      (hook.run c).run.Walk events (.error e) →
      HooksRan c (hook :: hooks) events (some (.hook hook.name e))
  | passed {hook : Hook} {hooks : List Hook} {events more : List (Event World.calls)}
      {failure : Option Error} :
      (hook.run c).run.Walk events (.ok ()) → HooksRan c hooks more failure →
      HooksRan c (hook :: hooks) (events ++ more) failure

/-- The stages after a cluster is up, first those that equip it and then the hooks, up to the
    first stage that failed: their events, and the error of that stage. -/
inductive Furnished (c : Cluster) (hooks : List Hook) :
    List (Event World.calls) → Option Error → Prop where
  | failed {events : List (Event World.calls)} {e : Error} :
      firstFailure c.name true events = some e → Furnished c hooks events (some e)
  | equipped {events more : List (Event World.calls)} {failure : Option Error} :
      firstFailure c.name true events = none → HooksRan c hooks more failure →
      Furnished c hooks (events ++ more) failure

/-- What comes before the call that brings a cluster up: nothing that changes clusters or,
    where the names that the provider lists call for it, the one deletion by which a cluster
    of this name is made anew. -/
inductive Before (c : Cluster) (recreates : List String → Prop) :
    List (Event World.calls) → Prop where
  | quiet {events : List (Event World.calls)} : Quiet events → Before c recreates events
  | deleted {names : List String} {answer : Except CommandError Unit}
      {rest : List (Event World.calls)} :
      recreates names → Quiet rest →
      Before c recreates
        (told .list (.ok names) :: told (.exportKubeconfig c.name c.kubeconfig) (.ok ()) ::
          told (.delete c.name c.kubeconfig) answer :: rest)

/-- **THE FOUR WAYS** in which a run may go that is to bring a cluster up, run hooks on it,
    wait and give something.  The error is always that of the stage that failed first. -/
inductive RollsBack {α : Type} (c : Cluster) (hooks : List Hook)
    (recreates : List String → Prop) (wait : Option UInt64) (given : α) :
    List (Event World.calls) → Except Error α → Prop where
  /-- A stage fails before the provider is asked to bring the cluster up. -/
  | stopped {before : List (Event World.calls)} {e : Error} :
      Before c recreates before → firstFailure c.name false before = some e →
      RollsBack c hooks recreates wait given before (.error e)
  /-- The provider fails to bring the cluster up: that is the last call. -/
  | refused {before : List (Event World.calls)} {request : CreateRequest}
      {cause : CommandError} :
      Before c recreates before → firstFailure c.name false before = none →
      RollsBack c hooks recreates wait given (before ++ [told (.create request) (.error cause)])
        (.error (.backend .create c.name cause))
  /-- The cluster is up and a later stage fails: the last call is the one that tears the
      cluster down again, and its answer does not matter. -/
  | undone {before later : List (Event World.calls)} {request : CreateRequest} {e : Error}
      {answer : Except CommandError Unit} :
      Before c recreates before → firstFailure c.name false before = none →
      Quiet later → Furnished c hooks later (some e) →
      RollsBack c hooks recreates wait given
        (before ++ told (.create request) (.ok ()) ::
          (later ++ [told (.delete c.name c.kubeconfig) answer]))
        (.error e)
  /-- The cluster is up and no stage fails: it stays. -/
  | kept {before later : List (Event World.calls)} {request : CreateRequest} :
      Before c recreates before → firstFailure c.name false before = none →
      Quiet later → Furnished c hooks later none →
      RollsBack c hooks recreates wait given
        (before ++ told (.create request) (.ok ()) ::
          (later ++ wait.toList.map fun n => ⟨.host (.pause n), ()⟩))
        (.ok given)

/-- The ways in which a run may go that finds or makes the cluster of a setup: the setup is no
    good, so that nothing is asked; a listed cluster is reused as it is; or a cluster is
    brought up, and in its place an old one of that name was torn down only if it was listed
    and was not to be reused. -/
inductive Started (tempDir : String) (s : Setup) :
    List (Event World.calls) → Except Error Lease → Prop where
  | rejected {fault : ClusterConfig.Fault} :
      ClusterConfig.ofOptions s.name s.options = .error fault →
      Started tempDir s [] (.error (.invalidConfig fault))
  | reused {config : ClusterConfig} {names : List String} :
      ClusterConfig.ofOptions s.name s.options = .ok config →
      config.name ∈ names → s.reuse = true →
      Started tempDir s
        [told .list (.ok names),
          told (.exportKubeconfig config.name (config.kubeconfigPath tempDir)) (.ok ())]
        (.ok (Lease.ofSetup s ⟨config.name, config.kubeconfigPath tempDir⟩ false))
  | made {config : ClusterConfig} {events : List (Event World.calls)}
      {r : Except Error Lease} :
      ClusterConfig.ofOptions s.name s.options = .ok config →
      RollsBack ⟨config.name, config.kubeconfigPath tempDir⟩ s.hooks
        (fun names => config.name ∈ names ∧ s.reuse = false) s.options.waitSeconds
        (Lease.ofSetup s ⟨config.name, config.kubeconfigPath tempDir⟩ s.cleanup) events r →
      Started tempDir s events r

variable {α : Type} {events : List (Event World.calls)}

theorem firstFailure_of_ok {name : String} {isUp : Bool} {x : Attempt World.calls α} {a : α}
    (hx : Reports name isUp x) (h : x.run.Walk events (.ok a)) :
    firstFailure name isUp events = none :=
  hx _ _ h

theorem firstFailure_of_error {name : String} {isUp : Bool} {x : Attempt World.calls α}
    {e : Error} (hx : Reports name isUp x) (h : x.run.Walk events (.error e)) :
    firstFailure name isUp events = some e :=
  hx _ _ h

/-- Work that is undone by a deletion if it fails. -/
theorem Cluster.walk_orDelete {c : Cluster} {work : Attempt World.calls α} {r : Except Error α}
    (h : (c.orDelete work).run.Walk events r) :
    (∃ a, work.run.Walk events (.ok a) ∧ r = .ok a) ∨
      ∃ before e answer, events = before ++ [told (.delete c.name c.kubeconfig) answer] ∧
        work.run.Walk before (.error e) ∧ r = .error e := by
  obtain ⟨before, (e | a), after, rfl, hwork, hrest⟩ := Program.walk_bind.1 h
  -- the deletion's answer is not looked at: the error is that of the work
  · obtain ⟨deleted, _, last, rfl, hdelete, hlast⟩ := Program.walk_bind.1 hrest
    obtain ⟨answer, rfl, rfl⟩ := walk_tryProvider.1 hdelete
    obtain ⟨rfl, rfl⟩ := Program.walk_done.1 hlast
    exact Or.inr ⟨before, e, answer, rfl, hwork, rfl⟩
  · obtain ⟨rfl, rfl⟩ := Program.walk_done.1 hrest
    refine Or.inl ⟨a, ?_, rfl⟩
    rw [List.append_nil]
    exact hwork

/-- Hooks that run on a cluster run one after another, up to the first that fails. -/
theorem hooksRan_of_walk {c : Cluster} {hooks : List Hook} {r : Except Error Unit}
    (h : (hooks.forM (Hook.apply c)).run.Walk events r) :
    HooksRan c hooks events (errorOf? r) := by
  induction hooks generalizing events with
  | nil =>
      obtain ⟨rfl, rfl⟩ := Attempt.walk_pure.1 h
      exact .done
  | cons hook hooks ih =>
      rcases Attempt.walk_bind.1 h with ⟨e, hrun, rfl⟩ | ⟨before, a, after, rfl, hrun, hrest⟩
      · obtain ⟨(cause | _), hcause, ⟨⟩⟩ := Program.walk_map.1 hrun
        exact .failed hcause
      · obtain ⟨(cause | _), hok, ⟨⟩⟩ := Program.walk_map.1 hrun
        exact .passed hok (ih hrest)

/-- Hooks bring no cluster up and tear none down. -/
theorem HooksRan.quiet {c : Cluster} {hooks : List Hook} {failure : Option Error}
    (h : HooksRan c hooks events failure) : Quiet events := by
  induction h with
  | done =>
      intro e he
      exact nomatch he
  | failed hrun => exact Hook.quiet_run c _ _ _ hrun
  | passed hrun _ ih => exact Quiet.append (Hook.quiet_run c _ _ _ hrun) ih

/-- Bringing a cluster up goes in one of the four ways, without hooks and without a deletion
    before. -/
theorem Cluster.rollsBack_create {tempDir : String} {config : ClusterConfig}
    {r : Except Error Cluster} (h : (Cluster.create tempDir config).run.Walk events r) :
    RollsBack ⟨config.name, config.kubeconfigPath tempDir⟩ [] (fun _ => False) none
      ⟨config.name, config.kubeconfigPath tempDir⟩ events r := by
  have hports : Reports config.name false (config.options.nodePorts.forM checkHostPort) :=
    reports_forM reports_checkHostPort _
  have qports : (config.options.nodePorts.forM checkHostPort).run.Asks IsQuiet :=
    Attempt.asks_forM fun port _ => quiet_checkHostPort port
  rcases Attempt.walk_bind.1 h with ⟨e, hp, rfl⟩ | ⟨checked, _, rest₁, rfl, hp, h₁⟩
  · exact .stopped (.quiet (qports _ _ hp)) (firstFailure_of_error hports hp)
  rcases Attempt.walk_bind.1 h₁ with ⟨e, hi, rfl⟩ | ⟨pulled, _, rest₂, rfl, hi, h₂⟩
  -- nothing is up yet, so a failure ends the run where it is
  · refine .stopped (.quiet (Quiet.append (qports _ _ hp) (quiet_pullNodeImage _ _ _ hi))) ?_
    rw [firstFailure_append, firstFailure_of_ok hports hp,
      firstFailure_of_error (reports_pullNodeImage _) hi]
    rfl
  have hbefore : Before ⟨config.name, config.kubeconfigPath tempDir⟩ (fun _ => False)
      (checked ++ pulled) :=
    .quiet (Quiet.append (qports _ _ hp) (quiet_pullNodeImage _ _ _ hi))
  have hnone : firstFailure config.name false (checked ++ pulled) = none := by
    rw [firstFailure_append, firstFailure_of_ok hports hp,
      firstFailure_of_ok (reports_pullNodeImage _) hi]
    rfl
  rw [← List.append_assoc]
  rcases Attempt.walk_bind.1 h₂ with ⟨e, hc, rfl⟩ | ⟨created, _, rest₃, rfl, hc, h₃⟩
  · obtain ⟨(cause | _), rfl, ⟨⟩⟩ := walk_tryProvider.1 hc
    exact .refused hbefore hnone
  obtain ⟨(cause | _), rfl, ⟨⟩⟩ := walk_tryProvider.1 hc
  -- from here on the cluster is up, and what fails is undone
  rcases Attempt.walk_bind.1 h₃ with ⟨e, ho, rfl⟩ | ⟨equipped, _, rest₄, rfl, ho, h₄⟩
  · rcases Cluster.walk_orDelete ho with ⟨_, _, ⟨⟩⟩ | ⟨later, e, answer, rfl, he, ⟨⟩⟩
    exact .undone hbefore hnone (quiet_equip _ _ _ _ he)
      (.failed (firstFailure_of_error (reports_equip _ _) he))
  · obtain ⟨rfl, rfl⟩ := Attempt.walk_pure.1 h₄
    rcases Cluster.walk_orDelete ho with ⟨_, he, -⟩ | ⟨_, _, _, _, _, ⟨⟩⟩
    have hfurnished : Furnished ⟨config.name, config.kubeconfigPath tempDir⟩ []
        (equipped ++ []) none :=
      .equipped (firstFailure_of_ok (reports_equip _ _) he) .done
    rw [List.append_nil] at hfurnished
    exact .kept hbefore hnone (quiet_equip _ _ _ _ he) hfurnished

theorem furnished_nil {c : Cluster} {failure : Option Error}
    (h : Furnished c [] events failure) : firstFailure c.name true events = failure := by
  cases h with
  | failed h => exact h
  | equipped h hran =>
      cases hran
      rw [List.append_nil]
      exact h

theorem Lease.walk_settle {wait : Option UInt64} {r : Except Error Unit}
    (h : (Lease.settle wait).run.Walk events r) :
    events = wait.toList.map (fun n => ⟨.host (.pause n), ()⟩) ∧ r = .ok () := by
  cases wait with
  | none => exact Attempt.walk_pure.1 h
  | some seconds =>
      obtain ⟨_, hp, rfl⟩ := Attempt.walk_lift.1 h
      obtain rfl := walk_host.1 hp
      exact ⟨rfl, rfl⟩

/-- Making a cluster for a setup goes in one of the four ways, with its hooks. -/
theorem Lease.rollsBack_createFor {tempDir : String} {s : Setup} {config : ClusterConfig}
    {r : Except Error Lease} (h : (Lease.createFor tempDir s config).run.Walk events r) :
    RollsBack ⟨config.name, config.kubeconfigPath tempDir⟩ s.hooks (fun _ => False)
      s.options.waitSeconds
      (Lease.ofSetup s ⟨config.name, config.kubeconfigPath tempDir⟩ s.cleanup) events r := by
  rcases Attempt.walk_bind.1 h with ⟨e, hc, rfl⟩ | ⟨made, cluster, rest₁, rfl, hc, h₁⟩
  -- bringing the cluster up failed, or it was torn down again
  · cases Cluster.rollsBack_create hc with
    | stopped hb hf => exact .stopped hb hf
    | refused hb hn => exact .refused hb hn
    | undone hb hn hq hf => exact .undone hb hn hq (.failed (furnished_nil hf))
  cases Cluster.rollsBack_create hc with
  | @kept before later request hb hn hq hf =>
      have hlater := furnished_nil hf
      rw [show before ++ told (.create request) (.ok ()) ::
          (later ++ (none : Option UInt64).toList.map fun n => ⟨.host (.pause n), ()⟩) ++ rest₁
        = before ++ told (.create request) (.ok ()) :: (later ++ rest₁) by simp]
      rcases Attempt.walk_bind.1 h₁ with ⟨e, ho, rfl⟩ | ⟨hooked, _, rest₂, rfl, ho, h₂⟩
      -- a hook failed: what it asked still comes before the deletion
      · rcases Cluster.walk_orDelete ho with ⟨_, _, ⟨⟩⟩ | ⟨ran, e, answer, rfl, he, ⟨⟩⟩
        have hran := hooksRan_of_walk he
        rw [← List.append_assoc]
        exact .undone hb hn (hq.append hran.quiet) (.equipped hlater hran)
      · rcases Cluster.walk_orDelete ho with ⟨_, he, -⟩ | ⟨_, _, _, _, _, ⟨⟩⟩
        have hran := hooksRan_of_walk he
        rcases Attempt.walk_bind.1 h₂ with ⟨e, hs, -⟩ | ⟨waited, _, rest₃, rfl, hs, h₃⟩
        · obtain ⟨-, ⟨⟩⟩ := Lease.walk_settle hs
        · obtain ⟨rfl, -⟩ := Lease.walk_settle hs
          obtain ⟨rfl, rfl⟩ := Attempt.walk_pure.1 h₃
          rw [List.append_nil, ← List.append_assoc]
          exact .kept hb hn (hq.append hran.quiet) (.equipped hlater hran)

/-- A lookup asks for the list, and then for the kubeconfig if the name is listed. -/
theorem Cluster.walk_find? {tempDir name path : String} {r : Except Error (Option Cluster)}
    (h : (Cluster.find? tempDir name (some path)).run.Walk events r) :
    (∃ cause, events = [told .list (.error cause)] ∧ r = .error (.backend .list name cause)) ∨
      ∃ names : List String, (name ∉ names ∧ events = [told .list (.ok names)] ∧ r = .ok none) ∨
        (name ∈ names ∧ ∃ answer,
          events = [told .list (.ok names), told (.exportKubeconfig name path) answer] ∧
          r = (answer.mapError (.backend .exportKubeconfig name)).map
            fun _ => some ⟨name, path⟩) := by
  rcases Attempt.walk_bind.1 h with ⟨e, hl, rfl⟩ | ⟨listed, isListed, rest₁, rfl, hl, h₁⟩
  · rcases Attempt.walk_bind.1 hl with ⟨e, ha, ⟨⟩⟩ | ⟨_, _, _, _, _, hp⟩
    · obtain ⟨(cause | _), rfl, ⟨⟩⟩ := walk_tryProvider.1 ha
      exact Or.inl ⟨cause, rfl, rfl⟩
    · obtain ⟨_, ⟨⟩⟩ := Attempt.walk_pure.1 hp
  rcases Attempt.walk_bind.1 hl with
    ⟨e, ha, ⟨⟩⟩ | ⟨asked, (names : List String), rest₂, rfl, ha, hp⟩
  obtain ⟨rfl, hlisted⟩ := Attempt.walk_pure.1 hp
  obtain ⟨(cause | _), rfl, ⟨⟩⟩ := walk_tryProvider.1 ha
  obtain rfl := Except.ok.inj hlisted
  refine Or.inr ⟨names, ?_⟩
  cases hc : names.contains name with
  | false =>
      rw [hc] at h₁
      obtain ⟨rfl, rfl⟩ := Attempt.walk_pure.1 h₁
      exact Or.inl ⟨by simpa using hc, rfl, rfl⟩
  -- a listed cluster is given with its kubeconfig, if that can be written
  | true =>
      rw [hc] at h₁
      refine Or.inr ⟨by simpa using hc, ?_⟩
      rcases Attempt.walk_bind.1 h₁ with ⟨e, he, rfl⟩ | ⟨exported, _, rest₃, rfl, he, h₂⟩
      · obtain ⟨answer, rfl, hr⟩ := walk_tryProvider.1 he
        cases answer with
        | error cause => exact ⟨.error cause, rfl, by rw [Except.error.inj hr]; rfl⟩
        | ok _ => exact nomatch hr
      · obtain ⟨answer, rfl, hr⟩ := walk_tryProvider.1 he
        obtain ⟨rfl, rfl⟩ := Attempt.walk_pure.1 h₂
        cases answer with
        | error cause => exact nomatch hr
        | ok _ => exact ⟨.ok (), rfl, rfl⟩

/-- What goes in one of the four ways still does so after events without a failure. -/
theorem RollsBack.after {α : Type} {c : Cluster} {hooks : List Hook}
    {recreates : List String → Prop} {wait : Option UInt64} {given : α} {r : Except Error α}
    (lead : List (Event World.calls)) (hlead : firstFailure c.name false lead = none)
    (hbefore : ∀ rest, Quiet rest → Before c recreates (lead ++ rest))
    (h : RollsBack c hooks (fun _ => False) wait given events r) :
    RollsBack c hooks recreates wait given (lead ++ events) r := by
  have hb : ∀ {before}, Before c (fun _ => False) before → Before c recreates (lead ++ before) := by
    intro before h
    cases h with
    | quiet hq => exact hbefore _ hq
    | deleted hfalse => exact hfalse.elim
  -- no call of the lead failed, so the first failure is still that of the run
  have hf : ∀ before, firstFailure c.name false (lead ++ before)
      = firstFailure c.name false before := by
    intro before
    rw [firstFailure_append, hlead]
    rfl
  cases h with
  | stopped h₁ h₂ => exact .stopped (hb h₁) ((hf _).trans h₂)
  | refused h₁ h₂ =>
      rw [← List.append_assoc]
      exact .refused (hb h₁) ((hf _).trans h₂)
  | undone h₁ h₂ hq hfurnished =>
      rw [← List.append_assoc]
      exact .undone (hb h₁) ((hf _).trans h₂) hq hfurnished
  | kept h₁ h₂ hq hfurnished =>
      rw [← List.append_assoc]
      exact .kept (hb h₁) ((hf _).trans h₂) hq hfurnished

theorem Lease.started_startResolved {tempDir : String} {s : Setup} {r : Except Error Lease}
    (h : (Lease.startResolved tempDir s).run.Walk events r) : Started tempDir s events r := by
  rw [Lease.startResolved] at h
  cases hconfig : ClusterConfig.ofOptions s.name s.options with
  | error fault =>
      rw [hconfig] at h
      obtain ⟨rfl, rfl⟩ := Attempt.walk_throw.1 h
      exact .rejected hconfig
  | ok config =>
      rw [hconfig] at h
      rcases Attempt.walk_bind.1 h with ⟨e, hf, rfl⟩ | ⟨found, existing, rest₁, rfl, hf, h₁⟩
      · rcases Cluster.walk_find? hf with
          ⟨cause, rfl, hr⟩ | ⟨names, ⟨-, -, ⟨⟩⟩ | ⟨-, answer, rfl, hr⟩⟩
        · obtain rfl := Except.error.inj hr
          exact .made hconfig (.stopped (.quiet (quiet_nil.cons rfl)) rfl)
        · cases answer with
          | ok _ => cases hr
          | error cause =>
              obtain rfl := Except.error.inj hr
              exact .made hconfig (.stopped (.quiet ((quiet_nil.cons rfl).cons rfl)) rfl)
      rcases Cluster.walk_find? hf with
        ⟨_, _, ⟨⟩⟩ | ⟨names, ⟨-, rfl, hr⟩ | ⟨hlisted, answer, rfl, hr⟩⟩
      · obtain rfl := Except.ok.inj hr
        have hmade := Lease.rollsBack_createFor h₁
        exact .made hconfig
          (hmade.after [told .list (.ok names)] rfl fun rest hrest => .quiet (hrest.cons rfl))
      cases answer with
      | error cause => cases hr
      | ok _ =>
          obtain rfl := Except.ok.inj hr
          cases hreuse : s.reuse with
          | true =>
              simp only [hreuse, if_true] at h₁
              obtain ⟨rfl, rfl⟩ := Attempt.walk_pure.1 h₁
              exact .reused hconfig hlisted hreuse
          | false =>
              simp only [hreuse] at h₁
              rcases Attempt.walk_bind.1 h₁ with ⟨e, hd, rfl⟩ | ⟨deleted, _, rest₂, rfl, hd, h₂⟩
              -- an old cluster is deleted first, and then the run goes as if there was none
              · obtain ⟨(cause | _), rfl, ⟨⟩⟩ := walk_tryProvider.1 hd
                exact .made hconfig (.stopped (.deleted ⟨hlisted, hreuse⟩ quiet_nil) rfl)
              · obtain ⟨(cause | _), rfl, ⟨⟩⟩ := walk_tryProvider.1 hd
                have hmade := Lease.rollsBack_createFor h₂
                exact .made hconfig (hmade.after
                  [told .list (.ok names),
                    told (.exportKubeconfig config.name (config.kubeconfigPath tempDir)) (.ok ()),
                    told (.delete config.name (config.kubeconfigPath tempDir)) (.ok ())]
                  rfl fun rest hrest => .deleted ⟨hlisted, hreuse⟩ hrest)

/-- **ROLLBACK EXACTNESS.**  Under every handler, bringing a cluster up goes in one of the
    four ways of `RollsBack`, and starting a run in one of those of `Started`: a cluster that
    was brought up is torn down once, by the last call, if a later stage failed, and is not
    torn down otherwise; the error is that of the stage that failed first. -/
theorem rolls_back_exactly {σ : Type} (handle : Handler World.calls σ) (s : σ)
    (tempDir : String) :
    (∀ config : ClusterConfig,
      RollsBack ⟨config.name, config.kubeconfigPath tempDir⟩ [] (fun _ => False) none
        ⟨config.name, config.kubeconfigPath tempDir⟩
        ((Cluster.create tempDir config).run.trace handle s)
        ((Cluster.create tempDir config).run.run handle s).1) ∧
    ∀ (env : Environment) (setup : Setup),
      Started tempDir (setup.resolve env)
        ((Lease.start tempDir env setup).run.trace handle s)
        ((Lease.start tempDir env setup).run.run handle s).1 := by
  constructor
  · intro config
    exact Cluster.rollsBack_create (Program.walk_run handle _ s)
  · intro env setup
    exact Lease.started_startResolved (Program.walk_run handle _ s)

end RollsBack

end TestCluster
