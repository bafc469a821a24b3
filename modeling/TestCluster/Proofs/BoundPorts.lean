import Mathlib.Data.Multiset.AddSub
import TestCluster.Proofs.Connections

/-!
# Bound ports — what the set-up of a tunnel leaves behind

    A machine binds ports and frees them, and nothing else that is asked of it changes which
    ports are bound (`KeepsPorts`).  On such a machine a tunnel that is not set up leaves no port
    bound, whatever failed and in whichever order, and one that is set up leaves its own.
-/

namespace TestCluster

/-- A port of a local address. -/
abbrev Listener := IpAddress × UInt16

namespace Host

/-- Whether a call binds a port or frees one. -/
def Call.managesPorts : Call → Bool
  | .bind .. => true
  | .release .. => true
  | _ => false

end Host

/-- A machine that keeps account of the bound ports.  A port that was bound was free, and it is
    the one that was asked for unless any was. -/
structure KeepsPorts {σ : Type} (ports : σ → Multiset Listener) (handle : Handler World.calls σ) :
    Prop where
  binds : ∀ {address : IpAddress} {port given : UInt16} {s s' : σ},
    handle (.host (.bind address port)) s = (Except.ok given, s') →
    (port ≠ 0 → given = port) ∧ (address, given) ∉ ports s ∧
      ports s' = (address, given) ::ₘ ports s
  refuses : ∀ {address : IpAddress} {port : UInt16} {cause : OsError} {s s' : σ},
    handle (.host (.bind address port)) s = (Except.error cause, s') → ports s' = ports s
  releases : ∀ {address : IpAddress} {port : UInt16} {s s' : σ},
    handle (.host (.release address port)) s = ((), s') →
    ports s' = (ports s).erase (address, port)
  keeps : ∀ {call : Host.Call} {answer : Host.Answer call} {s s' : σ},
    call.managesPorts = false → handle (.host call) s = (answer, s') → ports s' = ports s

/-! ## A scripted machine -/

namespace Scripted.Machine

variable {m m' : Machine} {address : IpAddress} {port given : UInt16} {cause : OsError}

theorem notMem_of_isFree (h : m.isFree address port = true) : (address, port) ∉ m.bound := by
  intro hmem
  have hclash := List.all_eq_true.1 h _ hmem
  simp [collide] at hclash

theorem bind_ok (h : m.bind address port = (.ok given, m')) :
    (port ≠ 0 → given = port) ∧ (address, given) ∉ m.bound ∧
      m'.bound = (address, given) :: m.bound := by
  rw [bind] at h
  split at h
  · exact nomatch (Prod.mk.inj h).1
  · rename_i p hp
    split at h
    · rename_i hfree
      obtain ⟨hgiven, rfl⟩ := Prod.mk.inj h
      obtain rfl := Except.ok.inj hgiven
      refine ⟨?_, notMem_of_isFree hfree, rfl⟩
      intro hport
      rw [if_neg hport] at hp
      exact (Option.some.inj hp).symm
    · exact nomatch (Prod.mk.inj h).1

theorem bind_error (h : m.bind address port = (.error cause, m')) : m' = m := by
  rw [bind] at h
  split at h
  · exact (Prod.mk.inj h).2.symm
  · split at h
    · exact nomatch (Prod.mk.inj h).1
    · exact (Prod.mk.inj h).2.symm

theorem release_bound (m : Machine) (address : IpAddress) (port : UInt16) :
    ((m.release address port).bound : Multiset Listener) =
      (m.bound : Multiset Listener).erase (address, port) := by
  rw [Multiset.coe_erase, release]
  -- the two compare ports in different ways, which agree
  exact congrArg (fun compare : BEq Listener => (m.bound.erase (address, port) : Multiset Listener))
    (lawful_beq_subsingleton _ _)

theorem handle_bound {call : Host.Call} (h : call.managesPorts = false) (m : Machine) :
    (handle call m).2.bound = m.bound := by
  cases call with
  | bind | release => exact nomatch h
  | makeTemporary nameStart nameEnd =>
      show (m.makeTemporary nameStart nameEnd).2.bound = m.bound
      unfold makeTemporary
      dsimp only
      split <;> rfl
  | writeFile path content =>
      unfold handle
      dsimp only
      split <;> rfl
  | _ => rfl

/-- A handler that answers for a machine keeps account of its ports, if it leaves binding and
    releasing to the machine. -/
theorem keepsPorts_of_machine {σ : Type} {handle : Handler World.calls σ} (machine : σ → Machine)
    (hmanages : ∀ call s, call.managesPorts = true →
      (handle (.host call) s).1 = (Machine.handle call (machine s)).1 ∧
      machine (handle (.host call) s).2 = (Machine.handle call (machine s)).2)
    (hkeeps : ∀ call s, call.managesPorts = false →
      (machine (handle (.host call) s).2).bound = (machine s).bound) :
    KeepsPorts (fun s => ((machine s).bound : Multiset Listener)) handle where
  binds := by
    intro address port given s s' h
    obtain ⟨hanswer, hmachine⟩ := hmanages (.bind address port) s rfl
    rw [h] at hanswer hmachine
    obtain ⟨hgiven, hnew, hbound⟩ := bind_ok (Prod.ext hanswer.symm hmachine.symm)
    exact ⟨hgiven, hnew, congrArg _ hbound⟩
  refuses := by
    intro address port cause s s' h
    obtain ⟨hanswer, hmachine⟩ := hmanages (.bind address port) s rfl
    rw [h] at hanswer hmachine
    exact congrArg (fun m : Machine => (m.bound : Multiset Listener))
      (bind_error (Prod.ext hanswer.symm hmachine.symm))
  releases := by
    intro address port s s' h
    obtain ⟨-, hmachine⟩ := hmanages (.release address port) s rfl
    rw [h] at hmachine
    show ((machine s').bound : Multiset Listener) = _
    rw [hmachine]
    exact release_bound (machine s) address port
  keeps := by
    intro call answer s s' hcall h
    have hkept := hkeeps call s hcall
    rw [h] at hkept
    exact congrArg Multiset.ofList hkept

end Scripted.Machine

namespace Tunnel

open Program

variable {server : String} {exit : PodPort} {entry : TunnelEntry} {calledOff : Bool}
  {events : List (Event World.calls)} {r : Except Error Tunnel} {σ : Type}
  {ports : σ → Multiset Listener} {handle : Handler World.calls σ} {s s' : σ}

/-- The local port of a tunnel. -/
def listener (t : Tunnel) : Listener := (t.entry.address, t.entry.port)

/-- The only new port that is bound afterwards is that of the tunnel, which is the one asked for
    unless any was. -/
structure Opens (entry : TunnelEntry) (t : Tunnel) (before after : Multiset Listener) : Prop where
  address : t.entry.address = entry.address
  port : entry.port ≠ 0 → t.entry.port = entry.port
  isNew : t.listener ∉ before
  after : after = t.listener ::ₘ before

/-- A failure leaves the ports as they were, also where one was bound before it. -/
theorem SetsUp.ports_of_error {e : Error} (hports : KeepsPorts ports handle)
    (h : SetsUp server exit entry calledOff events (.error e))
    (hpasses : Passes handle s events s') : ports s' = ports s := by
  cases h with
  | cancelled =>
      obtain rfl := passes_nil.1 hpasses
      rfl
  | unbound cause =>
      obtain ⟨s₁, hbind, hpasses⟩ := passes_cons.1 hpasses
      obtain rfl := passes_nil.1 hpasses
      exact hports.refuses hbind
  | unaddressed port =>
      obtain ⟨s₁, hbind, hpasses⟩ := passes_cons.1 hpasses
      obtain ⟨s₂, hrelease, hpasses⟩ := passes_cons.1 hpasses
      obtain rfl := passes_nil.1 hpasses
      obtain ⟨-, -, hbound⟩ := hports.binds hbind
      rw [hports.releases hrelease, hbound, Multiset.erase_cons_head]
  | refused port fault =>
      obtain ⟨s₁, hbind, hpasses⟩ := passes_cons.1 hpasses
      obtain ⟨s₂, hupgrade, hpasses⟩ := passes_cons.1 hpasses
      obtain ⟨s₃, hrelease, hpasses⟩ := passes_cons.1 hpasses
      obtain rfl := passes_nil.1 hpasses
      obtain ⟨-, -, hbound⟩ := hports.binds hbind
      rw [hports.releases hrelease, hports.keeps rfl hupgrade, hbound, Multiset.erase_cons_head]

theorem SetsUp.ports_of_ok {t : Tunnel} (hports : KeepsPorts ports handle)
    (h : SetsUp server exit entry calledOff events (.ok t))
    (hpasses : Passes handle s events s') : Opens entry t (ports s) (ports s') := by
  cases h with
  | ready port first =>
      obtain ⟨s₁, hbind, hpasses⟩ := passes_cons.1 hpasses
      obtain ⟨s₂, hupgrade, hpasses⟩ := passes_cons.1 hpasses
      obtain rfl := passes_nil.1 hpasses
      obtain ⟨hgiven, hnew, hbound⟩ := hports.binds hbind
      exact ⟨rfl, hgiven, hnew, (hports.keeps rfl hupgrade).trans hbound⟩

/-- **A TUNNEL IS SET UP CLEANLY.**  If it was called off before, nothing is asked; otherwise
    nothing but the local port if that cannot be bound; otherwise one connection to the pod is
    asked for, unless there is no address for the request, and a failure names the pod and its
    port.  Every failure leaves the bound ports as they were, and a tunnel that is set up adds
    its own, which is the one asked for unless any was. -/
theorem sets_up_cleanly (hports : KeepsPorts ports handle) (s : σ) (calledOff : Bool)
    (server : String) (exit : PodPort) (entry : TunnelEntry) :
    let attempt := (setUp calledOff server exit entry).run
    let result := (attempt.run handle s).1
    let s' := (attempt.run handle s).2
    SetsUp server exit entry calledOff (attempt.trace handle s) result ∧
    (∀ e, result = .error e → ports s' = ports s) ∧
    ∀ t, result = .ok t → Opens entry t (ports s) (ports s') := by
  intro attempt result s'
  have hset : SetsUp server exit entry calledOff (attempt.trace handle s) result :=
    setsUp_of_walk (walk_run handle attempt s)
  have hpasses : Passes handle s (attempt.trace handle s) s' := passes_run handle attempt s
  refine ⟨hset, ?_, ?_⟩
  · intro e he
    rw [he] at hset
    exact hset.ports_of_error hports hpasses
  · intro t ht
    rw [ht] at hset
    exact hset.ports_of_ok hports hpasses

open Scripted in
theorem keepsPorts_upgrading :
    KeepsPorts (fun s => (s.1.machine.bound : Multiset Listener)) upgrading := by
  refine Machine.keepsPorts_of_machine (fun s : Scene × List Upgrade => s.1.machine) ?_ ?_
  · rintro call ⟨scene, answers⟩ hmanages
    cases call with
    | bind | release => exact ⟨rfl, rfl⟩
    | _ => cases hmanages
  · rintro call ⟨scene, answers⟩ hmanages
    have hkept := Machine.handle_bound hmanages scene.machine
    cases call with
    | upgrade => cases answers <;> rfl
    | _ => exact hkept

/-- A server that refuses the only connection, and a machine on which another port is bound. -/
def refusing : Scripted.Scene × List Upgrade :=
  (⟨{ tempDir := "/tmp", bound := [(.localhost, 9000)] }, {}, [], [], [], []⟩,
    [.error (.unreachable .networkUnreachable)])

theorem sets_up_cleanly_refused :
    (toWeb.run.run upgrading refusing).1.toOption.isNone = true ∧
    (toWeb.run.run upgrading refusing).2.1.machine.bound = [(.localhost, 9000)] ∧
    SetsUp "server" ⟨"dev", "web", 80⟩ ⟨.localhost, 8080⟩ false
      (toWeb.run.trace upgrading refusing) (toWeb.run.run upgrading refusing).1 := by
  obtain ⟨hset, -, -⟩ := sets_up_cleanly keepsPorts_upgrading refusing false "server"
    ⟨"dev", "web", 80⟩ ⟨.localhost, 8080⟩
  exact ⟨by decide +kernel, by decide +kernel, hset⟩

end Tunnel

end TestCluster
