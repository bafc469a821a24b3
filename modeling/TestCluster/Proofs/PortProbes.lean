import TestCluster.Proofs.BoundPorts
import TestCluster.Proofs.Footprints

/-!
# Probed ports — a check that leaves nothing bound

    Whether a host port is free is found out by binding it, and it is let go of again before
    the next one is probed.  So a probe leaves the bound ports as they were, every probe of a
    row finds what the first one would have found, and a port that stands in a row several
    times is not in its own way (`checked_of_walk`).  The row is gone through from the front:
    the check fails at the first mapping whose host port is taken, and at no other
    (`FindsTaken`).

    Which addresses of a machine stand in the way of a port that is to be bound on all of them
    is left to the machine (`GrantsFreePorts`).
-/

namespace TestCluster

open World Program

/-- Whether a port is bound on an address that stands in the way. -/
def IsTaken (inWay : IpAddress → Prop) (listeners : Multiset Listener) (port : UInt16) : Prop :=
  ∃ address, inWay address ∧ (address, port) ∈ listeners

/-- A machine that keeps account of the bound ports, and binds a port for the host exactly if it
    is not taken.  Port 0 stands for any port, and is none that could be taken. -/
structure GrantsFreePorts {σ : Type} (inWay : IpAddress → Prop) (ports : σ → Multiset Listener)
    (handle : Handler World.calls σ) : Prop extends KeepsPorts ports handle where
  grants : ∀ {port : UInt16} {s s' : σ} {answer : Except OsError UInt16},
    port ≠ 0 → handle (.host (.bind Cluster.hostAddress port)) s = (answer, s') →
    (answer.isOk = true ↔ ¬ IsTaken inWay (ports s) port)

namespace Cluster

variable {taken : UInt16 → Prop} {p : NodePort} {mappings : List NodePort}
  {r : Except Error Unit} {events : List (Event World.calls)} {σ : Type}
  {inWay : IpAddress → Prop} {ports : σ → Multiset Listener} {handle : Handler World.calls σ}
  {s s' : σ}

/-! ## A row of probes -/

/-- What is found out about the host ports of a row of mappings: that all are free, or which is
    the first that is taken. -/
inductive FindsTaken (taken : UInt16 → Prop) : List NodePort → Except Error Unit → Prop where
  | allFree {mappings : List NodePort} :
      (∀ p ∈ mappings, ¬ taken p.host) → FindsTaken taken mappings (.ok ())
  | first {before after : List NodePort} {p : NodePort} (cause : OsError) :
      (∀ q ∈ before, ¬ taken q.host) → taken p.host →
      FindsTaken taken (before ++ p :: after) (.error (.portUnavailable p.host cause))

theorem FindsTaken.cons (hfree : ¬ taken p.host) (h : FindsTaken taken mappings r) :
    FindsTaken taken (p :: mappings) r := by
  cases h with
  | allFree hrest => exact .allFree (List.forall_mem_cons.2 ⟨hfree, hrest⟩)
  | @first before after q cause hbefore hq =>
      have hfound : FindsTaken taken ((p :: before) ++ q :: after)
          (.error (.portUnavailable q.host cause)) :=
        .first cause (List.forall_mem_cons.2 ⟨hfree, hbefore⟩) hq
      exact hfound

/-- The row passes exactly if none of its host ports is taken. -/
theorem FindsTaken.ok_iff (h : FindsTaken taken mappings r) :
    r = .ok () ↔ ∀ p ∈ mappings, ¬ taken p.host := by
  cases h with
  | allFree hfree =>
      constructor
      · intro _
        exact hfree
      · intro _
        rfl
  | @first before after p cause _ hp =>
      constructor
      · intro hok
        cases hok
      · intro hfree
        exact absurd hp (hfree p (by simp))

/-- Otherwise the first mapping whose host port is taken is reported. -/
theorem FindsTaken.exists_first (h : FindsTaken taken mappings r) (hr : r ≠ .ok ()) :
    ∃ before p after cause, mappings = before ++ p :: after ∧ (∀ q ∈ before, ¬ taken q.host) ∧
      taken p.host ∧ r = .error (.portUnavailable p.host cause) := by
  cases h with
  | allFree _ => exact absurd rfl hr
  | @first before after p cause hbefore hp => exact ⟨before, p, after, cause, rfl, hbefore, hp, rfl⟩

/-! ## What a probe leaves behind -/

/-- One probe finds out whether the port is taken, and leaves the bound ports as they were. -/
theorem probed_of_walk (hports : GrantsFreePorts inWay ports handle) (hp : p.host ≠ 0)
    (h : (checkHostPort p).run.Walk events r) (hpasses : Passes handle s events s') :
    ports s' = ports s ∧
      ((r = .ok () ∧ ¬ IsTaken inWay (ports s) p.host) ∨
        ∃ cause, r = .error (.portUnavailable p.host cause) ∧
          IsTaken inWay (ports s) p.host) := by
  obtain ⟨answer, after, rfl, hrest⟩ := walk_host_bind.1 h
  obtain ⟨s₁, hbind, hafter⟩ := passes_cons.1 hpasses
  have hgrants : answer.isOk = true ↔ ¬ IsTaken inWay (ports s) p.host :=
    hports.grants hp hbind
  cases answer with
  | error cause =>
      obtain ⟨rfl, rfl⟩ := Attempt.walk_throw.1 hrest
      obtain rfl := passes_nil.1 hafter
      have htaken : IsTaken inWay (ports s) p.host := by
        by_contra hfree
        cases hgrants.2 hfree
      exact ⟨hports.refuses hbind, Or.inr ⟨cause, rfl, htaken⟩⟩
  | ok bound =>
      obtain ⟨_, hrelease, rfl⟩ := Attempt.walk_lift.1 hrest
      obtain rfl := walk_host.1 hrelease
      obtain ⟨s₂, hreleased, hdone⟩ := passes_cons.1 hafter
      obtain rfl := passes_nil.1 hdone
      obtain ⟨-, -, hbound⟩ := hports.binds hbind
      refine ⟨?_, Or.inl ⟨rfl, hgrants.1 rfl⟩⟩
      rw [hports.releases hreleased, hbound, Multiset.erase_cons_head]

/-- A row of probes finds the first taken port, and leaves the bound ports as they were.  The
    induction is on the row: as nothing is bound after the first probe, what is taken is the
    same for the others. -/
theorem checked_of_walk (hports : GrantsFreePorts inWay ports handle)
    (hmappings : ∀ p ∈ mappings, p.host ≠ 0)
    (h : (mappings.forM checkHostPort).run.Walk events r) (hpasses : Passes handle s events s') :
    ports s' = ports s ∧ FindsTaken (IsTaken inWay (ports s)) mappings r := by
  induction mappings generalizing events s with
  | nil =>
      obtain ⟨rfl, rfl⟩ := Attempt.walk_pure.1 h
      obtain rfl := passes_nil.1 hpasses
      exact ⟨rfl, .allFree (by simp)⟩
  | cons p mappings ih =>
      obtain ⟨hp, hrest⟩ := List.forall_mem_cons.1 hmappings
      rcases Attempt.walk_bind.1 h with ⟨e, hfail, rfl⟩ | ⟨before, _, after, rfl, hone, hmore⟩
      · obtain ⟨hkept, ⟨hok, -⟩ | ⟨cause, herror, htaken⟩⟩ :=
          probed_of_walk hports hp hfail hpasses
        · cases hok
        · obtain rfl := Except.error.inj herror
          have hfound : FindsTaken (IsTaken inWay (ports s)) ([] ++ p :: mappings)
              (.error (.portUnavailable p.host cause)) := .first cause (by simp) htaken
          exact ⟨hkept, hfound⟩
      · obtain ⟨s₁, hfirst, hpasses⟩ := passes_append.1 hpasses
        obtain ⟨hkept, ⟨-, hfree⟩ | ⟨cause, herror, -⟩⟩ := probed_of_walk hports hp hone hfirst
        · obtain ⟨hothers, hfound⟩ := ih hrest hmore hpasses
          rw [hkept] at hothers hfound
          exact ⟨hothers, hfound.cons hfree⟩
        · cases herror

/-! ## The check of a new cluster -/

/-- The check of the host ports, with which the creation of a cluster starts. -/
def checkPorts (config : ClusterConfig) : Attempt World.calls Unit :=
  config.options.nodePorts.forM checkHostPort

/-- The stages of the creation after the check. -/
def bringUp (tempDir : String) (config : ClusterConfig) : Attempt World.calls Cluster := do
  pullNodeImage config.image?
  tryProvider (.create (request tempDir config)) (.backend .create config.name)
  let cluster : Cluster := ⟨config.name, config.kubeconfigPath tempDir⟩
  cluster.orDelete (cluster.equip config.options.images)
  pure cluster

theorem create_eq (tempDir : String) (config : ClusterConfig) :
    create tempDir config = checkPorts config >>= fun _ => bringUp tempDir config := rfl

/-- How a creation that starts in a state checks its host ports. -/
structure ChecksPorts (inWay : IpAddress → Prop) (ports : σ → Multiset Listener)
    (handle : Handler World.calls σ) (tempDir : String) (config : ClusterConfig) (s : σ) :
    Prop where
  /-- The check is passed exactly if no host port of a mapping is taken. -/
  passed_iff : ((checkPorts config).run.run handle s).1 = .ok () ↔
    ∀ p ∈ config.options.nodePorts, ¬ IsTaken inWay (ports s) p.host
  /-- Passed or not, it leaves the bound ports as they were. -/
  kept : ports ((checkPorts config).run.run handle s).2 = ports s
  /-- It asks for nothing but to bind ports and to release them. -/
  probes : ∀ e ∈ (checkPorts config).run.trace handle s, Probes e.call
  /-- If it is passed, the other stages follow. -/
  goesOn : ((checkPorts config).run.run handle s).1 = .ok () →
    (create tempDir config).run.run handle s =
        (bringUp tempDir config).run.run handle ((checkPorts config).run.run handle s).2 ∧
      (create tempDir config).run.trace handle s =
        (checkPorts config).run.trace handle s ++
          (bringUp tempDir config).run.trace handle ((checkPorts config).run.run handle s).2
  /-- If it is not, the creation fails with the first host port that is taken, and the check is
      all that was done. -/
  stops : ((checkPorts config).run.run handle s).1 ≠ .ok () →
    ∃ before p after cause, config.options.nodePorts = before ++ p :: after ∧
      (∀ q ∈ before, ¬ IsTaken inWay (ports s) q.host) ∧ IsTaken inWay (ports s) p.host ∧
      (create tempDir config).run.run handle s =
        (.error (.portUnavailable p.host cause), ((checkPorts config).run.run handle s).2) ∧
      (create tempDir config).run.trace handle s = (checkPorts config).run.trace handle s

/-- **THE CHECK PROBES AND RELEASES.**  A creation passes its check exactly if none of its host
    ports is taken, however its mappings are ordered and however often a port stands among them;
    otherwise it fails with the first that is taken, and has asked neither the provider nor the
    image tool.  The bound ports are afterwards what they were before. -/
theorem probes_and_releases (hports : GrantsFreePorts inWay ports handle) (tempDir : String)
    (config : ClusterConfig) (s : σ) : ChecksPorts inWay ports handle tempDir config s := by
  have hvalid : ∀ p ∈ config.options.nodePorts, p.host ≠ 0 := by
    intro p hp
    exact (config.nodePorts_valid p hp).2
  obtain ⟨hkept, hfound⟩ := checked_of_walk hports hvalid
    (walk_run handle (checkPorts config).run s) (passes_run handle (checkPorts config).run s)
  constructor
  · exact hfound.ok_iff
  · exact hkept
  · exact Attempt.asks_forM (fun p _ => asks_checkHostPort p) _ _
      (walk_run handle (checkPorts config).run s)
  · intro hok
    rw [create_eq]
    exact ⟨Attempt.run_bind_ok _ (Prod.ext hok rfl), Attempt.trace_bind_ok _ (Prod.ext hok rfl)⟩
  · intro hfailed
    -- whichever port is found, the creation ends with what the check ended with
    have hcreate : ∀ e, ((checkPorts config).run.run handle s).1 = .error e →
        (create tempDir config).run.run handle s =
            (.error e, ((checkPorts config).run.run handle s).2) ∧
          (create tempDir config).run.trace handle s =
            (checkPorts config).run.trace handle s := by
      intro e he
      rw [create_eq]
      exact ⟨Attempt.run_bind_error _ (Prod.ext he rfl),
        Attempt.trace_bind_error _ (Prod.ext he rfl)⟩
    obtain ⟨before, p, after, cause, hsplit, hbefore, hp, herror⟩ := hfound.exists_first hfailed
    obtain ⟨hrun, htrace⟩ := hcreate _ herror
    exact ⟨before, p, after, cause, hsplit, hbefore, hp, hrun, htrace⟩

/-! ## A scripted machine -/

section Scripted

open Scripted

/-- Whether a port of an address stands in the way of one that is bound on every address. -/
def meetsHost (address : IpAddress) : Prop := Machine.collide address hostAddress = true

theorem isFree_iff (m : Machine) (port : UInt16) :
    m.isFree hostAddress port = true ↔ ¬ IsTaken meetsHost (m.bound : Multiset Listener) port := by
  rw [Machine.isFree, List.all_eq_true]
  constructor
  · rintro hfree ⟨address, hmeets, hmem⟩
    have hapart := hfree (address, port) hmem
    have hcollide : Machine.collide address hostAddress = true := hmeets
    simp [hcollide] at hapart
  · rintro hfree ⟨address, port'⟩ hmem
    by_cases hport : port' = port
    · subst hport
      have hapart : Machine.collide address hostAddress ≠ true := by
        intro hmeets
        exact hfree ⟨address, hmeets, hmem⟩
      simp [hapart]
    · simp [hport]

theorem bind_isOk (m : Machine) {port : UInt16} (hport : port ≠ 0) :
    (m.bind hostAddress port).1.isOk = m.isFree hostAddress port := by
  rw [Machine.bind, if_neg hport]
  by_cases hfree : m.isFree hostAddress port = true
  · simp [hfree, Except.isOk, Except.toBool]
  · simp [hfree, Except.isOk, Except.toBool]

theorem grantsFreePorts_scene :
    GrantsFreePorts meetsHost (fun scene => (scene.machine.bound : Multiset Listener))
      Scene.handle where
  toKeepsPorts := by
    refine Machine.keepsPorts_of_machine Scene.machine ?_ ?_
    · intro call scene _
      exact ⟨rfl, rfl⟩
    · intro call scene hmanages
      exact Machine.handle_bound hmanages scene.machine
  grants := by
    intro port scene scene' answer hport h
    obtain ⟨rfl, -⟩ := Prod.mk.inj h
    show (scene.machine.bind hostAddress port).1.isOk = true ↔ _
    rw [bind_isOk scene.machine hport]
    exact isFree_iff scene.machine port

/-- A cluster that is reached on one host port from two of its ports, and on one more. -/
def twiceMapped : ClusterConfig where
  name := "web"
  options := { nodePorts := [⟨30080, 8080⟩, ⟨30081, 8080⟩, ⟨30443, 8443⟩] }
  name_ne_empty := by decide
  nodePorts_valid := by decide

/-- A machine on which a port of one address is bound. -/
def machineWith (port : UInt16) : Scene :=
  { machine := { tempDir := "/tmp", bound := [(.localhost, port)] } }

theorem probes_and_releases_twiceMapped :
    ((checkPorts twiceMapped).run.run Scene.handle (machineWith 9000)).1 = .ok () ∧
    ∃ cause, ((create "/tmp" twiceMapped).run.run Scene.handle (machineWith 8443)).1 =
      .error (.portUnavailable 8443 cause) := by
  have hpassed := probes_and_releases grantsFreePorts_scene "/tmp" twiceMapped (machineWith 9000)
  have hstopped := probes_and_releases grantsFreePorts_scene "/tmp" twiceMapped (machineWith 8443)
  constructor
  · refine hpassed.passed_iff.2 ?_
    have hfree : ∀ p ∈ twiceMapped.options.nodePorts,
        (machineWith 9000).machine.isFree hostAddress p.host = true := by decide
    intro p hp
    exact (isFree_iff (machineWith 9000).machine p.host).1 (hfree p hp)
  · have htaken : IsTaken meetsHost ((machineWith 8443).machine.bound : Multiset Listener) 8443 :=
      ⟨.localhost, rfl, by decide⟩
    obtain ⟨before, p, after, cause, hsplit, -, hp, hrun, -⟩ := hstopped.stops <| by
      intro hok
      exact hstopped.passed_iff.1 hok ⟨30443, 8443⟩ (by decide) htaken
    have hport : ∀ p ∈ twiceMapped.options.nodePorts,
        (machineWith 8443).machine.isFree hostAddress p.host = false → p.host = 8443 := by decide
    have hmem : p ∈ twiceMapped.options.nodePorts := by simp [hsplit]
    have hbusy : (machineWith 8443).machine.isFree hostAddress p.host = false := by
      by_contra hfree
      exact (isFree_iff (machineWith 8443).machine p.host).1 (by simpa using hfree) hp
    rw [hrun, hport p hmem hbusy]
    exact ⟨cause, rfl⟩

end Scripted

end Cluster

end TestCluster
