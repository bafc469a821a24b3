import TestCluster.Lease

/-!
# Merged settings — heeding the environment is merging it in first

    A setup that heeds the environment is carried out as one that does not, into which what
    the environment overrides was merged before.  Once the overrides are in their place
    nothing asks whether the environment is heeded (`startResolved_heeding`), and nothing
    reads it any more.  So two environments with the same overrides give the same run, and a
    variable whose value cannot be read may as well be unset (`ofEnvironment_unset`).
-/

namespace TestCluster

/-- Two computations that do the same under every handler: they ask the same calls in the same
    order, and end with the same result and in the same state. -/
def Program.SameRuns {I : Interface} {α : Type} (p q : Program I α) : Prop :=
  ∀ {σ : Type} (handle : Handler I σ) (s : σ),
    p.trace handle s = q.trace handle s ∧ p.run handle s = q.run handle s

theorem Program.SameRuns.of_eq {I : Interface} {α : Type} {p q : Program I α} (h : p = q) :
    p.SameRuns q := by
  intro σ handle s
  rw [h]
  exact ⟨rfl, rfl⟩

/-! ## Variables that say nothing -/

namespace Overrides

/-- A variable, by the part of its name that is its own, and a value of it that says nothing:
    one that cannot be read, or a name that is empty. -/
inductive IsIdle : String → String → Prop where
  | cleanup {value : String} : readSwitch value = none → IsIdle "CLEANUP" value
  | reuse {value : String} : readSwitch value = none → IsIdle "REUSE" value
  | name : IsIdle "NAME" ""
  | ingressPort {value : String} : readPort value = none → IsIdle "INGRESS_PORT" value

variable {env : Environment}

theorem update_bind_self {α : Type} {read : String → Option α} {name value : String}
    (h : env name = some value) (hread : read value = none) :
    (env.update name none name).bind read = (env name).bind read := by
  rw [Environment.update, if_pos rfl, h]
  exact hread.symm

theorem update_bind_other {α : Type} {read : String → Option α} {name other : String}
    {value? : Option String} (hne : other ≠ name) :
    (env.update name value? other).bind read = (env other).bind read := by
  rw [Environment.update, if_neg hne]

/-- A variable whose value says nothing overrides as little as one that is unset. -/
theorem ofEnvironment_unset {suffix value : String} (h : env (variableName suffix) = some value)
    (hidle : IsIdle suffix value) :
    ofEnvironment (env.update (variableName suffix) none) = ofEnvironment env := by
  -- each of the four variables is the one that says nothing, or has another name
  refine (Overrides.mk.injEq ..).mpr ?_
  cases hidle with
  | cleanup hread =>
      exact ⟨update_bind_self h hread, update_bind_other (by decide),
        update_bind_other (by decide), update_bind_other (by decide)⟩
  | reuse hread =>
      exact ⟨update_bind_other (by decide), update_bind_self h hread,
        update_bind_other (by decide), update_bind_other (by decide)⟩
  | name =>
      exact ⟨update_bind_other (by decide), update_bind_other (by decide),
        update_bind_self h rfl, update_bind_other (by decide)⟩
  | ingressPort hread =>
      exact ⟨update_bind_other (by decide), update_bind_other (by decide),
        update_bind_other (by decide), update_bind_self h hread⟩

end Overrides

/-! ## Merging first -/

namespace Setup

/-- The setup, heeding the environment or not. -/
def heeding (s : Setup) (heeds : Bool) : Setup := { s with heedsEnvironment := heeds }

/-- Whether the environment is heeded says nothing about what the ingress needs. -/
theorem withIngressParts_heeding (s : Setup) (heeds : Bool) :
    (s.heeding heeds).withIngressParts = s.withIngressParts.heeding heeds := by
  rw [withIngressParts, withIngressParts]
  show (if s.ingress then _ else _) = _
  split
  · rfl
  · rfl

/-- A setup that heeds the environment is resolved like one with the overrides merged in. -/
theorem resolve_heeding (s : Setup) (env env' : Environment) :
    (s.heeding true).resolve env =
      (((s.override (.ofEnvironment env)).heeding false).resolve env').heeding true := by
  show ((s.override (.ofEnvironment env)).heeding true).withIngressParts =
    (((s.override (.ofEnvironment env)).heeding false).withIngressParts).heeding true
  rw [withIngressParts_heeding, withIngressParts_heeding]
  rfl

end Setup

namespace Lease

/-- What is carried out does not depend on whether the environment is heeded. -/
theorem startResolved_heeding (tempDir : String) (s : Setup) (heeds : Bool) :
    startResolved tempDir (s.heeding heeds) = startResolved tempDir s := rfl

/-- A start that heeds the environment is a start with the overrides merged in. -/
theorem start_heeding (tempDir : String) (s : Setup) (env env' : Environment) :
    start tempDir env (s.heeding true) =
      start tempDir env' ((s.override (.ofEnvironment env)).heeding false) := by
  rw [start, s.resolve_heeding env env', startResolved_heeding]
  rfl

/-- A start depends on the environment by nothing but its overrides. -/
theorem start_congr {env env' : Environment}
    (h : Overrides.ofEnvironment env = Overrides.ofEnvironment env') (tempDir : String)
    (s : Setup) : start tempDir env s = start tempDir env' s := by
  rw [start, start, Setup.resolve, Setup.resolve, Setup.inEnvironment, Setup.inEnvironment, h]

/-- **MERGED SETTINGS.**  A start that heeds the environment runs, under every handler, like one
    that heeds none, in any environment, of the setup with the overrides merged in; a start that
    heeds none runs the same in any environment; and a start that heeds the environment runs the
    same without a variable whose value cannot be read, or is an empty name. -/
theorem start_merged (tempDir : String) (setup : Setup) (env : Environment) :
    (∀ env' : Environment, (start tempDir env (setup.heeding true)).run.SameRuns
      (start tempDir env' ((setup.override (.ofEnvironment env)).heeding false)).run) ∧
    (∀ env' : Environment, (start tempDir env (setup.heeding false)).run.SameRuns
      (start tempDir env' (setup.heeding false)).run) ∧
    ∀ suffix value : String, env (Overrides.variableName suffix) = some value →
      Overrides.IsIdle suffix value →
      (start tempDir (env.update (Overrides.variableName suffix) none)
        (setup.heeding true)).run.SameRuns (start tempDir env (setup.heeding true)).run := by
  refine ⟨?_, ?_, ?_⟩
  · intro env'
    exact Program.SameRuns.of_eq (congrArg ExceptT.run (start_heeding tempDir setup env env'))
  · intro env'
    exact Program.SameRuns.of_eq rfl
  · intro suffix value hset hidle
    exact Program.SameRuns.of_eq (congrArg ExceptT.run
      (start_congr (Overrides.ofEnvironment_unset hset hidle) tempDir _))

end Lease

end TestCluster
