import TestCluster.Proofs.StageOrder

/-!
# Ownership — a cluster is cleaned up by the run that made it, if that is wanted

    A start either makes a cluster or reuses one that is listed.  What it gives remembers
    which of the two it was: cleaning up deletes the cluster exactly if the start brought it
    up and cleaning up is wanted, and otherwise asks nothing.  So a run that may reuse a
    listed cluster neither makes nor deletes one, whatever else it does.

    What is wanted is said by the setup, and by the environment before it where the setup
    heeds that.
-/

namespace TestCluster

open World

/-! ## What is wanted -/

namespace Setup

/-- What a variable of the environment says where the setup heeds it, and what the setup says
    otherwise. -/
def wanted {α : Type} (s : Setup) (env : Environment) (suffix : String) (read : String → Option α)
    (own : α) : α :=
  if s.heedsEnvironment then ((env (Overrides.variableName suffix)).bind read).getD own else own

/-- Whether the cluster is to be cleaned up in the end, if the run makes it. -/
def wantsCleanup (s : Setup) (env : Environment) : Bool :=
  s.wanted env "CLEANUP" Overrides.readSwitch s.cleanup

/-- Whether a listed cluster is to be reused. -/
def wantsReuse (s : Setup) (env : Environment) : Bool :=
  s.wanted env "REUSE" Overrides.readSwitch s.reuse

/-- The name of the cluster that is wanted. -/
def wantedName (s : Setup) (env : Environment) : String :=
  s.wanted env "NAME" Overrides.readName s.name

theorem resolve_wants (s : Setup) (env : Environment) :
    (s.resolve env).cleanup = s.wantsCleanup env ∧ (s.resolve env).reuse = s.wantsReuse env ∧
      (s.resolve env).name = s.wantedName env := by
  have hparts : ∀ t : Setup, t.withIngressParts.cleanup = t.cleanup ∧
      t.withIngressParts.reuse = t.reuse ∧ t.withIngressParts.name = t.name := by
    intro t
    rw [withIngressParts]
    split
    · exact ⟨rfl, rfl, rfl⟩
    · exact ⟨rfl, rfl, rfl⟩
  obtain ⟨hcleanup, hreuse, hname⟩ := hparts (s.inEnvironment env)
  rw [resolve, hcleanup, hreuse, hname, wantsCleanup, wantsReuse, wantedName, inEnvironment]
  simp only [wanted]
  cases s.heedsEnvironment with
  | true => exact ⟨rfl, rfl, rfl⟩
  | false => exact ⟨rfl, rfl, rfl⟩

end Setup

/-! ## What a start gives -/

section Start

variable {tempDir : String} {s : Setup} {events : List (Event World.calls)}

theorem Quiet.not_broughtUp (h : Quiet events) : ¬ BroughtUp events := by
  rintro ⟨request, hmem⟩
  exact nomatch h _ hmem

/-- What a start gives is cleaned up exactly if the start brought the cluster up, and cleaning up
    is wanted. -/
theorem Started.cleansUp_iff {lease : Lease} (h : Started tempDir s events (.ok lease)) :
    lease.cleansUp = true ↔ BroughtUp events ∧ s.cleanup = true := by
  cases h with
  | reused _ _ _ =>
      constructor
      · exact nofun
      · rintro ⟨hup, -⟩
        exact absurd hup ((quiet_nil.cons rfl).cons rfl).not_broughtUp
  | made _ hmade =>
      cases hmade with
      | @kept before later request _ _ _ _ =>
          have hup : BroughtUp (before ++ told (.create request) (.ok ()) ::
              (later ++ s.options.waitSeconds.toList.map fun n => ⟨.host (.pause n), ()⟩)) :=
            ⟨request, List.mem_append_right _ (List.mem_cons_self ..)⟩
          constructor
          · intro hcleanup
            exact ⟨hup, hcleanup⟩
          · exact And.right

theorem Started.name_eq {lease : Lease} (h : Started tempDir s events (.ok lease)) :
    lease.cluster.name = s.name := by
  cases h with
  | reused hconfig _ _ => exact (Setup.usable_of_ok hconfig).2.1
  | made hconfig hmade =>
      cases hmade with
      | kept _ _ _ _ => exact (Setup.usable_of_ok hconfig).2.1

/-- What only tidies up or waits leaves clusters alone. -/
theorem quiet_of_stageCalls (h : Quiet (stageCalls events)) : Quiet events := by
  intro e he
  cases hstage : World.Call.isStage e.call with
  | true => exact h e (List.mem_filter.2 ⟨he, hstage⟩)
  | false =>
      obtain ⟨call, answer⟩ := e
      cases call with
      | host call => rfl
      | _ => exact nomatch hstage

/-- A start leaves clusters alone where every list that it gets has the name, and a listed
    cluster is to be reused. -/
theorem StartsInOrder.quiet {r : Except Error Lease} (h : StartsInOrder tempDir s events r)
    (hreuse : s.reuse = true)
    (hlisted : ∀ names : List String, told .list (.ok names) ∈ events → s.name ∈ names) :
    Quiet events := by
  cases h with
  | rejected _ => exact quiet_nil
  | @taken config a _ _ _ hname _ hcut =>
      obtain @⟨forward, undoing, hevents, hcut, hundoing⟩ := hcut
      generalize errorOf? r = failure at hcut hundoing
      -- all that comes forward is the list and the kubeconfig
      have hquiet : Quiet forward := by
        rw [startSteps] at hcut
        cases hcut with
        | failed hlist =>
            cases hlist
            exact quiet_nil.cons rfl
        | passed hlist hrest =>
            cases hlist
            have hmem : told .list (.ok a.listed) ∈ stageCalls events := by
              rw [hevents]
              exact List.mem_append_left _ (List.mem_cons_self ..)
            have hname : config.name ∈ a.listed := by
              rw [hname]
              exact hlisted _ (List.mem_filter.1 hmem).1
            rw [if_pos hname, hreuse] at hrest
            cases hrest with
            | failed hexport =>
                cases hexport
                exact (quiet_nil.cons rfl).cons rfl
            | passed hexport hdone =>
                cases hexport
                cases hdone
                exact (quiet_nil.cons rfl).cons rfl
      refine quiet_of_stageCalls ?_
      rw [hevents]
      cases hundoing with
      | unneeded => exact hquiet.append quiet_nil
      | nothing _ => exact hquiet.append quiet_nil
      | deletion hup => exact absurd hup hquiet.not_broughtUp

end Start

/-! ## Cleaning up -/

namespace Lease

variable {events : List (Event World.calls)} {r : Except Error Unit}

theorem walk_delete {l : Lease} (h : l.delete.run.Walk events r) :
    ∃ answer, events = [told (.delete l.cluster.name l.cluster.kubeconfig) answer] := by
  obtain ⟨answer, rfl, -⟩ := walk_tryProvider.1 h
  exact ⟨answer, rfl⟩

theorem walk_cleanUp {l : Lease} (h : l.cleanUp.run.Walk events r) :
    if l.cleansUp then
      ∃ answer, events = [told (.delete l.cluster.name l.cluster.kubeconfig) answer]
    else events = [] ∧ r = .ok () := by
  rw [cleanUp] at h
  cases hcleans : l.cleansUp with
  | true =>
      rw [hcleans] at h
      exact walk_delete h
  | false =>
      rw [hcleans] at h
      exact Attempt.walk_pure.1 h

/-- A whole run: a start, and cleaning up what it gives. -/
def startAndCleanUp (tempDir : String) (env : Environment) (s : Setup) :
    Attempt World.calls Unit := do
  let lease ← start tempDir env s
  lease.cleanUp

theorem quiet_startAndCleanUp {tempDir : String} {env : Environment} {s : Setup}
    (h : (startAndCleanUp tempDir env s).run.Walk events r)
    (hreuse : (s.resolve env).reuse = true)
    (hlisted : ∀ names : List String, told .list (.ok names) ∈ events →
      (s.resolve env).name ∈ names) : Quiet events := by
  rcases Attempt.walk_bind.1 h with ⟨e, hfail, rfl⟩ | ⟨before, lease, after, rfl, hok, hclean⟩
  · exact (startsInOrder_of_walk hfail).quiet hreuse hlisted
  · have hquiet : Quiet before :=
      (startsInOrder_of_walk hok).quiet hreuse fun names hmem =>
        hlisted names (List.mem_append_left _ hmem)
    -- no cluster was brought up, so none is cleaned up
    have hnot : lease.cleansUp ≠ true := by
      intro hcleans
      exact hquiet.not_broughtUp ((started_startResolved hok).cleansUp_iff.1 hcleans).1
    have hcleaned := walk_cleanUp hclean
    rw [if_neg hnot] at hcleaned
    obtain ⟨rfl, -⟩ := hcleaned
    exact hquiet.append quiet_nil

/-- Cleaning up deletes the cluster exactly if it is owned, and asks nothing otherwise. -/
structure CleansUpExactly (l : Lease) (owned : Prop) : Prop where
  deletes : ∀ {σ : Type} (handle : Handler World.calls σ) (s : σ), owned →
    ∃ answer, l.cleanUp.run.trace handle s =
      [told (.delete l.cluster.name l.cluster.kubeconfig) answer]
  keeps : ∀ {σ : Type} (handle : Handler World.calls σ) (s : σ), ¬ owned →
    l.cleanUp.run.trace handle s = [] ∧ (l.cleanUp.run.run handle s).1 = .ok ()

theorem cleansUpExactly {l : Lease} {owned : Prop} (h : l.cleansUp = true ↔ owned) :
    l.CleansUpExactly owned := by
  constructor
  · intro σ handle s howned
    have hwalk := walk_cleanUp (Program.walk_run handle l.cleanUp.run s)
    rwa [if_pos (h.2 howned)] at hwalk
  · intro σ handle s hnot
    have hwalk := walk_cleanUp (Program.walk_run handle l.cleanUp.run s)
    rwa [if_neg fun hcleans => hnot (h.1 hcleans)] at hwalk

/-- **OWNERSHIP.**  Under every handler: what a start gives has the wanted name, and cleaning it
    up deletes it exactly if the start brought it up and cleaning up is wanted; where every list
    has the wanted name and reuse is wanted, a whole run leaves all clusters alone; and a lease
    that is deleted asks for one deletion, whoever made the cluster. -/
theorem cleanup_by_ownership {σ : Type} (handle : Handler World.calls σ) (s : σ)
    (tempDir : String) (env : Environment) (setup : Setup) :
    (match ((start tempDir env setup).run.run handle s).1 with
      | .error _ => True
      | .ok lease => lease.cluster.name = setup.wantedName env ∧
        lease.CleansUpExactly (BroughtUp ((start tempDir env setup).run.trace handle s) ∧
          setup.wantsCleanup env = true)) ∧
    (setup.wantsReuse env = true →
      (∀ names : List String,
        told .list (.ok names) ∈ (startAndCleanUp tempDir env setup).run.trace handle s →
        setup.wantedName env ∈ names) →
      Quiet ((startAndCleanUp tempDir env setup).run.trace handle s)) ∧
    ∀ lease : Lease, ∃ answer, lease.delete.run.trace handle s =
      [told (.delete lease.cluster.name lease.cluster.kubeconfig) answer] := by
  obtain ⟨hcleanup, hreuse, hname⟩ := setup.resolve_wants env
  rw [← hcleanup, ← hreuse, ← hname]
  refine ⟨?_, ?_, fun lease => walk_delete (Program.walk_run handle _ s)⟩
  · have hwalk := Program.walk_run handle (start tempDir env setup).run s
    cases hresult : ((start tempDir env setup).run.run handle s).1 with
    | error e => trivial
    | ok lease =>
        rw [hresult] at hwalk
        have hstarted := Lease.started_startResolved hwalk
        exact ⟨hstarted.name_eq, cleansUpExactly hstarted.cleansUp_iff⟩
  · intro hreuse hlisted
    have hwalk := Program.walk_run handle (startAndCleanUp tempDir env setup).run s
    exact quiet_startAndCleanUp hwalk hreuse hlisted

end Lease

end TestCluster
