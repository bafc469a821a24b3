import TestCluster.Overrides

/-!
# Scoped settings — an environment is put back as it was

    A run sets variables, for good or in a scope, and leaves the scopes that are live, in any
    order.  A scope does not change while it is live (`Live.act`), and leaving it gives every
    variable that it names what that variable was before the scope was entered, whatever has
    become of it since (`leave_eq`).

    If scopes are only entered, and only the newest live one is left, what the environment
    would be after leaving all live scopes, newest first, stays the same (`unwound_nested`):
    entering a scope and leaving it at once changes nothing (`leave_enter`).
-/

namespace TestCluster.Environment

variable {env e : Environment} {settings : List Setting} {scope : Scope}

/-! ## One scope -/

/-- The names that settings give a value to, as often as they do. -/
def named (settings : List Setting) : List String := settings.map (·.name)

/-- Settings are applied if the system takes all of them. -/
theorem apply_of_accepted (h : ∀ s ∈ settings, s.IsAccepted) :
    env.apply settings = some (settings.foldl (fun e s => e.update s.name (some s.value)) env) := by
  induction settings generalizing env with
  | nil => rfl
  | cons s settings ih =>
      obtain ⟨hs, hothers⟩ := List.forall_mem_cons.1 h
      rw [apply, List.foldlM_cons, if_pos hs]
      exact ih hothers

/-- Settings change no variable that they do not name. -/
theorem apply_other (h : env.apply settings = some e) {name : String}
    (hname : name ∉ named settings) : e name = env name := by
  induction settings generalizing env with
  | nil =>
      obtain rfl := Option.some.inj h
      rfl
  | cons s settings ih =>
      rw [named, List.map_cons, List.mem_cons, not_or] at hname
      rw [apply, List.foldlM_cons] at h
      split at h
      · rw [ih h hname.2]
        exact if_neg hname.1
      · exact nomatch h

/-- Leaving a scope gives a variable what the scope remembers of it, where it is first named. -/
theorem leave_apply (env : Environment) (scope : Scope) (name : String) :
    env.leave scope name = (scope.previous.lookup name).getD (env name) := by
  rw [leave]
  induction scope.previous with
  | nil => rfl
  | cons entry previous ih =>
      obtain ⟨first, value⟩ := entry
      show (if name = first then value else _) = _
      by_cases h : name = first
      · subst h
        rw [if_pos rfl, List.lookup_cons_self]
        rfl
      · rw [if_neg h, List.lookup_cons, beq_false_of_ne h]
        exact ih

theorem lookup_previous (env : Environment) (settings : List Setting) (name : String) :
    (settings.map fun s => (s.name, env s.name)).lookup name =
      if name ∈ named settings then some (env name) else none := by
  induction settings with
  | nil => rfl
  | cons s settings ih =>
      rw [List.map_cons, named, List.map_cons]
      by_cases h : name = s.name
      · subst h
        rw [List.lookup_cons_self, if_pos List.mem_cons_self]
      · rw [List.lookup_cons, beq_false_of_ne h]
        simp only [List.mem_cons, h, false_or]
        exact ih

theorem enter_eq_some (h : env.enter settings = some (e, scope)) :
    env.apply settings = some e ∧ scope = ⟨settings.map fun s => (s.name, env s.name)⟩ := by
  obtain ⟨e', happly, heq⟩ := Option.map_eq_some_iff.1 h
  obtain ⟨rfl, rfl⟩ := Prod.mk.inj heq
  exact ⟨happly, rfl⟩

/-- A scope gives the variables that it names what they were when it was entered, and changes
    no other. -/
theorem leave_eq (h : env.enter settings = some (e, scope)) (later : Environment)
    (name : String) :
    later.leave scope name = if name ∈ named settings then env name else later name := by
  obtain ⟨-, rfl⟩ := enter_eq_some h
  rw [leave_apply, lookup_previous]
  split <;> rfl

/-- A scope that is left at once leaves the environment as it was. -/
theorem leave_enter (h : env.enter settings = some (e, scope)) : e.leave scope = env := by
  funext name
  rw [leave_eq h]
  split
  · rfl
  · exact apply_other (enter_eq_some h).1 ‹_›

/-! ## Runs -/

/-- One thing that is done with an environment; scopes are numbered as they are entered. -/
inductive Act
  | apply (settings : List Setting)
  | enter (settings : List Setting)
  | leave (number : Nat)
  deriving DecidableEq

/-- The settings that an act makes. -/
def Act.made : Act → List Setting
  | .apply settings | .enter settings => settings
  | .leave _ => []

/-- An environment, its live scopes with their numbers, newest first, and how many scopes
    were entered so far. -/
structure Session where
  env : Environment
  live : List (Nat × Scope) := []
  entered : Nat := 0

namespace Session

variable {s s' : Session} {acts : List Act} {number : Nat}

/-- Acts on a session, unless the system refuses a setting or the scope to leave is not live. -/
def act (s : Session) : Act → Option Session
  | .apply settings => (s.env.apply settings).map fun env => { s with env }
  | .enter settings => (s.env.enter settings).map fun (env, scope) =>
    ⟨env, (s.entered, scope) :: s.live, s.entered + 1⟩
  | .leave number => (s.live.lookup number).map fun scope =>
    { s with env := s.env.leave scope, live := s.live.eraseP (·.1 == number) }

/-- Acts one after another. -/
def run (s : Session) (acts : List Act) : Option Session := acts.foldlM act s

/-- A scope is live under a number, which no later scope gets. -/
def Live (number : Nat) (scope : Scope) (s : Session) : Prop :=
  s.live.lookup number = some scope ∧ number < s.entered

theorem lookup_eraseP {k number : Nat} (h : number ≠ k) (live : List (Nat × Scope)) :
    (live.eraseP (·.1 == k)).lookup number = live.lookup number := by
  induction live with
  | nil => rfl
  | cons entry live ih =>
      obtain ⟨first, scope⟩ := entry
      by_cases hk : first = k
      · subst hk
        rw [List.eraseP_cons, beq_self_eq_true, List.lookup_cons, beq_false_of_ne h]
        rfl
      · rw [List.eraseP_cons, beq_false_of_ne hk]
        show ((first, scope) :: live.eraseP (·.1 == k)).lookup number = _
        rw [List.lookup_cons, List.lookup_cons, ih]

/-- A scope stays live, and the same, until it is left. -/
theorem Live.act (hlive : Live number scope s) {a : Act} (ha : a ≠ .leave number)
    (h : s.act a = some s') : Live number scope s' := by
  obtain ⟨hlookup, hlt⟩ := hlive
  cases a with
  | apply settings =>
      obtain ⟨env, -, rfl⟩ := Option.map_eq_some_iff.1 h
      exact ⟨hlookup, hlt⟩
  | enter settings =>
      obtain ⟨⟨env, entered⟩, -, rfl⟩ := Option.map_eq_some_iff.1 h
      refine ⟨?_, Nat.lt_succ_of_lt hlt⟩
      rw [List.lookup_cons, beq_false_of_ne (Nat.ne_of_lt hlt)]
      exact hlookup
  | leave k =>
      obtain ⟨left, -, rfl⟩ := Option.map_eq_some_iff.1 h
      have hne : number ≠ k := fun heq => ha (heq ▸ rfl)
      exact ⟨(lookup_eraseP hne s.live).trans hlookup, hlt⟩

theorem Live.run (hlive : Live number scope s) (hacts : .leave number ∉ acts)
    (h : s.run acts = some s') : Live number scope s' := by
  induction acts generalizing s with
  | nil =>
      obtain rfl := Option.some.inj h
      exact hlive
  | cons a acts ih =>
      rw [List.mem_cons, not_or] at hacts
      obtain ⟨between, ha, hrest⟩ := Option.bind_eq_some_iff.1 h
      exact ih (hlive.act (Ne.symm hacts.1) ha) hacts.2 hrest

/-- Entering a scope makes it live under the next number. -/
theorem act_enter (h : s.act (.enter settings) = some s') :
    ∃ scope, s.env.enter settings = some (s'.env, scope) ∧
      s'.live = (s.entered, scope) :: s.live ∧ s'.entered = s.entered + 1 := by
  obtain ⟨⟨env, scope⟩, henter, rfl⟩ := Option.map_eq_some_iff.1 h
  exact ⟨scope, henter, rfl, rfl⟩

/-- A scope that is live can be left. -/
theorem act_leave (h : s.live.lookup number = some scope) :
    ∃ s', s.act (.leave number) = some s' ∧ s'.env = s.env.leave scope := by
  rw [act, h]
  exact ⟨_, rfl, rfl⟩

/-! ## Nested runs -/

/-- Whether scopes are only entered and left, the newest live one each time, until none is
    live: the numbers of the live ones come first, then that of the next to be entered. -/
def nests : List Nat → Nat → List Act → Bool
  | live, _, [] => live.isEmpty
  | _, _, .apply _ :: _ => false
  | live, next, .enter _ :: acts => nests (next :: live) (next + 1) acts
  | [], _, .leave _ :: _ => false
  | newest :: live, next, .leave number :: acts => number == newest && nests live next acts

/-- The environment after leaving all live scopes, newest first. -/
def unwound (s : Session) : Environment := s.live.foldl (fun e entry => e.leave entry.2) s.env

theorem unwound_enter (h : s.act (.enter settings) = some s') : s'.unwound = s.unwound := by
  obtain ⟨scope, henter, hlive, -⟩ := act_enter h
  rw [unwound, hlive, List.foldl_cons, leave_enter henter]
  rfl

theorem unwound_leave {newest : Nat × Scope} {others : List (Nat × Scope)}
    (hlive : s.live = newest :: others) (h : s.act (.leave newest.1) = some s') :
    s'.live = others ∧ s'.entered = s.entered ∧ s'.unwound = s.unwound := by
  obtain ⟨scope, hlookup, rfl⟩ := Option.map_eq_some_iff.1 h
  rw [hlive, List.lookup_cons_self] at hlookup
  obtain rfl := Option.some.inj hlookup
  have hothers : s.live.eraseP (·.1 == newest.1) = others := by
    rw [hlive, List.eraseP_cons, beq_self_eq_true]
    rfl
  refine ⟨hothers, rfl, ?_⟩
  rw [unwound, hothers, unwound, hlive]
  rfl

/-- The scope that a nested run leaves first is the newest live one. -/
theorem newest_of_nests
    (hnests : nests (s.live.map (·.1)) s.entered (.leave number :: acts) = true) :
    ∃ newest others, s.live = newest :: others ∧ number = newest.1 ∧
      nests (others.map (·.1)) s.entered acts = true := by
  cases hs : s.live with
  | nil =>
      rw [hs, List.map_nil, nests] at hnests
      exact nomatch hnests
  | cons newest others =>
      rw [hs, List.map_cons, nests] at hnests
      obtain ⟨hnumber, hothers⟩ := Bool.and_eq_true_iff.1 hnests
      exact ⟨newest, others, rfl, beq_iff_eq.1 hnumber, hothers⟩

/-- An act of a nested run leaves the rest of it nested, and what is left to be put back. -/
theorem nests_act {a : Act} (hnests : nests (s.live.map (·.1)) s.entered (a :: acts) = true)
    (h : s.act a = some s') :
    nests (s'.live.map (·.1)) s'.entered acts = true ∧ s'.unwound = s.unwound := by
  cases a with
  | apply settings =>
      rw [nests] at hnests
      exact nomatch hnests
  | enter settings =>
      obtain ⟨scope, -, hlive, hentered⟩ := act_enter h
      refine ⟨?_, unwound_enter h⟩
      rw [hlive, hentered, List.map_cons]
      rwa [nests] at hnests
  | leave number =>
      obtain ⟨newest, others, hs, rfl, hothers⟩ := newest_of_nests hnests
      obtain ⟨hlive, hentered, hunwound⟩ := unwound_leave hs h
      rw [hlive, hentered]
      exact ⟨hothers, hunwound⟩

/-- An act of a nested run is done if the system takes its settings. -/
theorem exists_act_of_nests {a : Act}
    (hnests : nests (s.live.map (·.1)) s.entered (a :: acts) = true)
    (haccepted : ∀ x ∈ a.made, x.IsAccepted) : ∃ s', s.act a = some s' := by
  cases a with
  | apply settings =>
      rw [nests] at hnests
      exact nomatch hnests
  | enter settings =>
      have happly : s.env.apply settings = some _ := apply_of_accepted haccepted
      rw [act, Environment.enter, happly]
      exact ⟨_, rfl⟩
  | leave number =>
      obtain ⟨newest, others, hs, rfl, -⟩ := newest_of_nests hnests
      have hlookup : s.live.lookup newest.1 = some newest.2 := by rw [hs, List.lookup_cons_self]
      obtain ⟨s', hleft, -⟩ := act_leave hlookup
      exact ⟨s', hleft⟩

/-- A nested run does all that leaving the live scopes does, and no more. -/
theorem env_eq_unwound (hnests : nests (s.live.map (·.1)) s.entered acts = true)
    (h : s.run acts = some s') : s'.env = s.unwound := by
  induction acts generalizing s with
  | nil =>
      obtain rfl := Option.some.inj h
      have hlive : s.live = [] := List.map_eq_nil_iff.1 (List.isEmpty_iff.1 hnests)
      rw [unwound, hlive]
      rfl
  | cons a acts ih =>
      obtain ⟨between, ha, hrest⟩ := Option.bind_eq_some_iff.1 h
      obtain ⟨hothers, hunwound⟩ := nests_act hnests ha
      rw [← hunwound]
      exact ih hothers hrest

theorem exists_run_of_nests (hnests : nests (s.live.map (·.1)) s.entered acts = true)
    (haccepted : ∀ a ∈ acts, ∀ x ∈ a.made, x.IsAccepted) : ∃ s', s.run acts = some s' := by
  induction acts generalizing s with
  | nil => exact ⟨s, rfl⟩
  | cons a acts ih =>
      obtain ⟨ha, hrest⟩ := List.forall_mem_cons.1 haccepted
      obtain ⟨between, hact⟩ := exists_act_of_nests hnests ha
      obtain ⟨s', hrun⟩ := ih (nests_act hnests hact).1 hrest
      exact ⟨s', Option.bind_eq_some_iff.2 ⟨between, hact, hrun⟩⟩

/-- **SCOPED SETTINGS ARE UNDONE EXACTLY.**  A scope that was entered can be left after any acts
    that do not leave it; that gives each variable that it names what it was just before the
    scope was entered, and changes no other.  And a nested run, which is done if the system takes
    all its settings, ends with the environment that it started with, and the overrides found
    there. -/
theorem scopes_undone :
    (∀ {s s₁ s₂ : Session} {settings : List Setting} {between : List Act},
      s.act (.enter settings) = some s₁ → .leave s.entered ∉ between →
      s₁.run between = some s₂ →
        ∃ s₃, s₂.act (.leave s.entered) = some s₃ ∧ ∀ name,
          s₃.env name = if name ∈ named settings then s.env name else s₂.env name) ∧
    ∀ {env : Environment} {acts : List Act}, nests [] 0 acts = true →
      ((∀ a ∈ acts, ∀ x ∈ a.made, x.IsAccepted) →
        ∃ s, Session.run ⟨env, [], 0⟩ acts = some s) ∧
      ∀ s, Session.run ⟨env, [], 0⟩ acts = some s →
        s.env = env ∧ Overrides.ofEnvironment s.env = Overrides.ofEnvironment env := by
  constructor
  · intro s s₁ s₂ settings between henter hbetween hrun
    obtain ⟨scope, hscope, hlive, hentered⟩ := act_enter henter
    have hentering : Live s.entered scope s₁ := by
      rw [Live, hlive, hentered]
      exact ⟨List.lookup_cons_self, Nat.lt_succ_self s.entered⟩
    obtain ⟨hlookup, -⟩ := hentering.run hbetween hrun
    obtain ⟨s₃, hleft, henv⟩ := act_leave hlookup
    exact ⟨s₃, hleft, henv ▸ leave_eq hscope s₂.env⟩
  · intro env acts hnests
    refine ⟨exists_run_of_nests (s := ⟨env, [], 0⟩) hnests, fun s hrun => ?_⟩
    have henv : s.env = env := env_eq_unwound (s := ⟨env, [], 0⟩) hnests hrun
    exact ⟨henv, congrArg Overrides.ofEnvironment henv⟩

/-- A name is set, and no other variable. -/
def namedCi : Environment := empty.update "E2E_CLUSTER_NAME" (some "ci")

/-- Settings that give the name twice, and a switch. -/
def twiceNamed : List Setting :=
  [.name "a", .reuse true, .name "b"].map Overrides.Entry.setting

/-- The name is scoped again, and then set for good with another switch. -/
def renamed : List Act :=
  [.enter [⟨"E2E_CLUSTER_NAME", "c"⟩],
    .apply [⟨"E2E_CLUSTER_NAME", "d"⟩, ⟨"E2E_CLUSTER_CLEANUP", "no"⟩]]

/-- A scope within a scope of the same settings. -/
def twiceScoped : List Act := [.enter twiceNamed, .enter twiceNamed, .leave 1, .leave 0]

theorem scopes_undone_twiceNamed :
    (∃ s₁ s₂ s₃, act ⟨namedCi, [], 0⟩ (.enter twiceNamed) = some s₁ ∧ .leave 0 ∉ renamed ∧
      s₁.run renamed = some s₂ ∧ s₂.act (.leave 0) = some s₃ ∧ ∀ name,
        s₃.env name = if name ∈ named twiceNamed then namedCi name else s₂.env name) ∧
    nests [] 0 twiceScoped = true ∧
    (∀ a ∈ twiceScoped, ∀ x ∈ a.made, x.IsAccepted) ∧
    ∃ s, run ⟨namedCi, [], 0⟩ twiceScoped = some s ∧ s.env = namedCi := by
  constructor
  · have hdone : ((act ⟨namedCi, [], 0⟩ (.enter twiceNamed)).bind (·.run renamed)).isSome := by
      decide +kernel
    obtain ⟨s₂, hruns⟩ := Option.isSome_iff_exists.1 hdone
    obtain ⟨s₁, henter, hrun⟩ := Option.bind_eq_some_iff.1 hruns
    have hnot : Act.leave 0 ∉ renamed := by decide
    obtain ⟨s₃, hleft, henv⟩ := scopes_undone.1 henter hnot hrun
    exact ⟨s₁, s₂, s₃, henter, hnot, hrun, hleft, henv⟩
  · have hnests : nests [] 0 twiceScoped = true := rfl
    have haccepted : ∀ a ∈ twiceScoped, ∀ x ∈ a.made, x.IsAccepted := by decide +kernel
    obtain ⟨s, hrun⟩ : ∃ s, run ⟨namedCi, [], 0⟩ twiceScoped = some s :=
      (scopes_undone.2 hnests).1 haccepted
    exact ⟨hnests, haccepted, s, hrun, ((scopes_undone.2 hnests).2 s hrun).1⟩

end Session

end TestCluster.Environment
