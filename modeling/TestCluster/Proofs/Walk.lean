import TestCluster.World.Temporary

/-!
# Walks — the runs of a computation, without what answers it

    A run of a computation goes down its tree: at each call one answer is picked, and the
    run goes on from there.  A handler picks one such walk for every state it starts from;
    so what holds of every walk holds under every handler, whatever it remembers and
    however its answers come about.  Walks need no state, and a walk of two computations in
    a row is a walk of the one followed by a walk of the other.
-/

namespace TestCluster

namespace Program

variable {I J : Interface} {α β σ : Type}

/-- A walk down a computation: the calls with the answers picked, and the result at the end. -/
inductive Walk : Program I α → List (Event I) → α → Prop where
  | done (a : α) : Walk (.done a) [] a
  | ask {call : I.Call} {next : I.Answer call → Program I α} {answer : I.Answer call}
      {events : List (Event I)} {a : α} :
      Walk (next answer) events a → Walk (.ask call next) (⟨call, answer⟩ :: events) a

/-- Every run against a handler is a walk. -/
theorem walk_run (handle : Handler I σ) (p : Program I α) (s : σ) :
    p.Walk (p.trace handle s) (p.run handle s).1 := by
  induction p generalizing s with
  | done a => exact .done a
  | ask call next ih => exact .ask (ih _ _)

/-- Every answer on a run is the handler's, in the state that the run has come to. -/
theorem answer_of_mem_trace {handle : Handler I σ} {p : Program I α} {s : σ} {e : Event I}
    (h : e ∈ p.trace handle s) : ∃ s', e.answer = (handle e.call s').1 := by
  induction p generalizing s with
  | done a => exact nomatch h
  | ask call next ih =>
      rcases List.mem_cons.1 h with rfl | h
      · exact ⟨s, rfl⟩
      · exact ih _ h

theorem walk_done {a b : α} {events : List (Event I)} :
    (Program.done a : Program I α).Walk events b ↔ events = [] ∧ b = a := by
  constructor
  · rintro ⟨⟩
    exact ⟨rfl, rfl⟩
  · rintro ⟨rfl, rfl⟩
    exact .done b

theorem walk_call {c : I.Call} {events : List (Event I)} {answer : I.Answer c} :
    (call c).Walk events answer ↔ events = [⟨c, answer⟩] := by
  constructor
  · rintro (_ | ⟨⟨⟩⟩)
    rfl
  · rintro rfl
    exact .ask (.done answer)

/-- A walk of two computations in a row is one of the first, and then one of the second. -/
theorem walk_bind {p : Program I α} {f : α → Program I β} {events : List (Event I)} {b : β} :
    (p.bind f).Walk events b ↔
      ∃ before a after, events = before ++ after ∧ p.Walk before a ∧ (f a).Walk after b := by
  induction p generalizing events with
  | done a =>
      constructor
      · intro h
        exact ⟨[], a, events, rfl, .done a, h⟩
      · rintro ⟨before, a', after, rfl, h, h'⟩
        obtain ⟨rfl, rfl⟩ := walk_done.1 h
        exact h'
  | ask c next ih =>
      constructor
      · intro h
        cases h with
        | ask h =>
            obtain ⟨before, a, after, rfl, h, h'⟩ := (ih _).1 h
            exact ⟨_, a, after, rfl, .ask h, h'⟩
      · rintro ⟨before, a, after, rfl, h, h'⟩
        cases h with
        | ask h => exact .ask ((ih _).2 ⟨_, a, after, rfl, h, h'⟩)

theorem walk_map {p : Program I α} {f : α → β} {events : List (Event I)} {b : β} :
    (f <$> p).Walk events b ↔ ∃ a, p.Walk events a ∧ b = f a := by
  show (p.bind fun a => .done (f a)).Walk events b ↔ _
  constructor
  · intro h
    obtain ⟨before, a, after, rfl, hp, hd⟩ := walk_bind.1 h
    obtain ⟨rfl, rfl⟩ := walk_done.1 hd
    exact ⟨a, by simpa using hp, rfl⟩
  · rintro ⟨a, h, rfl⟩
    exact walk_bind.2 ⟨events, a, [], by simp, h, .done _⟩

/-! ## What a computation may ask -/

/-- Every call on every walk satisfies a condition. -/
def Asks (P : I.Call → Prop) (p : Program I α) : Prop :=
  ∀ events a, p.Walk events a → ∀ e ∈ events, P e.call

theorem asks_done (P : I.Call → Prop) (a : α) : (Program.done a : Program I α).Asks P := by
  intro events b h
  obtain ⟨rfl, -⟩ := walk_done.1 h
  simp

theorem asks_call {P : I.Call → Prop} {c : I.Call} (h : P c) : (call c).Asks P := by
  intro events answer hw
  obtain rfl := walk_call.1 hw
  simpa using h

theorem Asks.mono {P Q : I.Call → Prop} {p : Program I α} (h : p.Asks P)
    (hPQ : ∀ call, P call → Q call) : p.Asks Q := by
  intro events a hw e he
  exact hPQ _ (h events a hw e he)

theorem Asks.bind {P : I.Call → Prop} {p : Program I α} {f : α → Program I β}
    (hp : p.Asks P) (hf : ∀ a, (f a).Asks P) : (p.bind f).Asks P := by
  intro events b h
  obtain ⟨before, a, after, rfl, h, h'⟩ := walk_bind.1 h
  intro e he
  rcases List.mem_append.1 he with he | he
  · exact hp _ _ h e he
  · exact hf a _ _ h' e he

theorem Asks.map {P : I.Call → Prop} {p : Program I α} (hp : p.Asks P) (f : α → β) :
    (f <$> p).Asks P :=
  hp.bind fun a => asks_done P (f a)

/-- A computation whose calls are answered by others asks what those ask. -/
theorem asks_expand {P : J.Call → Prop} {answer : (call : I.Call) → Program J (I.Answer call)}
    (h : ∀ call, (answer call).Asks P) (p : Program I α) : (p.expand answer).Asks P := by
  induction p with
  | done a => exact asks_done P a
  | ask call next ih => exact (h call).bind ih

/-! ## The states that a run passes through -/

section Passes

variable {handle : Handler I σ} {s s' : σ} {events before after : List (Event I)}

/-- The events take a handler from one state to another. -/
inductive Passes (handle : Handler I σ) : σ → List (Event I) → σ → Prop where
  | done (s : σ) : Passes handle s [] s
  | next {call : I.Call} {answer : I.Answer call} {s s' s'' : σ} {events : List (Event I)} :
      handle call s = (answer, s') → Passes handle s' events s'' →
      Passes handle s (⟨call, answer⟩ :: events) s''

/-- A run passes through its trace. -/
theorem passes_run (handle : Handler I σ) (p : Program I α) (s : σ) :
    Passes handle s (p.trace handle s) (p.run handle s).2 := by
  induction p generalizing s with
  | done a => exact .done s
  | ask call next ih => exact .next rfl (ih _ _)

theorem passes_nil : Passes handle s [] s' ↔ s' = s := by
  constructor
  · rintro ⟨⟩
    rfl
  · rintro rfl
    exact .done s'

theorem passes_cons {e : Event I} :
    Passes handle s (e :: events) s' ↔
      ∃ s₁, handle e.call s = (e.answer, s₁) ∧ Passes handle s₁ events s' := by
  constructor
  · rintro (_ | ⟨hcall, hrest⟩)
    exact ⟨_, hcall, hrest⟩
  · rintro ⟨s₁, hcall, hrest⟩
    exact .next hcall hrest

theorem passes_append :
    Passes handle s (before ++ after) s' ↔
      ∃ s₁, Passes handle s before s₁ ∧ Passes handle s₁ after s' := by
  induction before generalizing s with
  | nil =>
      constructor
      · intro h
        exact ⟨s, .done s, h⟩
      · rintro ⟨s₁, hnil, h⟩
        obtain rfl := passes_nil.1 hnil
        exact h
  | cons e before ih =>
      simp only [List.cons_append, passes_cons, ih]
      constructor
      · rintro ⟨s₁, hcall, s₂, hbefore, hafter⟩
        exact ⟨s₂, ⟨s₁, hcall, hbefore⟩, hafter⟩
      · rintro ⟨s₂, ⟨s₁, hcall, hbefore⟩, hafter⟩
        exact ⟨s₁, hcall, s₂, hbefore, hafter⟩

end Passes

end Program

/-! ## Computations that may fail -/

theorem ok_of_toOption {ε α : Type} {x : Except ε α} {a : α} (h : x.toOption = some a) :
    x = .ok a := by
  cases x with
  | error e => exact nomatch h
  | ok b => exact congrArg Except.ok (Option.some.inj h)

theorem ok_of_any {ε α : Type} {x : Except ε α} {p : α → Bool} (h : x.toOption.any p = true) :
    ∃ a, x = .ok a ∧ p a = true := by
  cases x with
  | error e => exact nomatch h
  | ok a => exact ⟨a, rfl, h⟩

namespace Attempt

variable {I : Interface} {α β : Type} {events : List (Event I)}

/-- A walk of an attempt followed by another ends with the failure of the first, or goes on
    from its result. -/
theorem walk_bind {x : Attempt I α} {f : α → Attempt I β} {r : Except Error β} :
    (x >>= f).run.Walk events r ↔
      (∃ e, x.run.Walk events (.error e) ∧ r = .error e) ∨
        ∃ before a after, events = before ++ after ∧ x.run.Walk before (.ok a) ∧
          (f a).run.Walk after r := by
  refine Program.walk_bind.trans ?_
  constructor
  · rintro ⟨before, (e | a), after, rfl, h, h'⟩
    · obtain ⟨rfl, rfl⟩ := Program.walk_done.1 h'
      exact Or.inl ⟨e, by rw [List.append_nil]; exact h, rfl⟩
    · exact Or.inr ⟨before, a, after, rfl, h, h'⟩
  · rintro (⟨e, h, rfl⟩ | ⟨before, a, after, rfl, h, h'⟩)
    · exact ⟨events, .error e, [], by simp, h, .done _⟩
    · exact ⟨before, .ok a, after, rfl, h, h'⟩

/-- A walk of an attempt followed by another that ends with a result goes through a result of
    the first. -/
theorem walk_bind_ok {x : Attempt I α} {f : α → Attempt I β} {b : β} :
    (x >>= f).run.Walk events (.ok b) ↔
      ∃ before a after, events = before ++ after ∧ x.run.Walk before (.ok a) ∧
        (f a).run.Walk after (.ok b) := by
  constructor
  · intro h
    rcases walk_bind.1 h with ⟨e, -, ⟨⟩⟩ | hrest
    exact hrest
  · intro h
    exact walk_bind.2 (Or.inr h)

theorem walk_pure {a : α} {r : Except Error α} :
    (pure a : Attempt I α).run.Walk events r ↔ events = [] ∧ r = .ok a :=
  Program.walk_done

theorem walk_throw {e : Error} {r : Except Error α} :
    (throw e : Attempt I α).run.Walk events r ↔ events = [] ∧ r = .error e :=
  Program.walk_done

theorem walk_lift {p : Program I α} {r : Except Error α} :
    (liftM p : Attempt I α).run.Walk events r ↔ ∃ a, p.Walk events a ∧ r = .ok a :=
  Program.walk_map

/-- A computation that cannot fail, followed by an attempt. -/
theorem walk_lift_bind {p : Program I α} {f : α → Attempt I β} {r : Except Error β} :
    (liftM p >>= f : Attempt I β).run.Walk events r ↔
      ∃ before a after, events = before ++ after ∧ p.Walk before a ∧ (f a).run.Walk after r := by
  rw [walk_bind]
  constructor
  · rintro (⟨e, hfail, -⟩ | ⟨before, a, after, rfl, hp, hrest⟩)
    · obtain ⟨_, -, ⟨⟩⟩ := walk_lift.1 hfail
    · obtain ⟨_, hp, ⟨⟩⟩ := walk_lift.1 hp
      exact ⟨before, _, after, rfl, hp, hrest⟩
  · rintro ⟨before, a, after, rfl, hp, hrest⟩
    exact Or.inr ⟨before, a, after, rfl, walk_lift.2 ⟨a, hp, rfl⟩, hrest⟩

theorem asks_pure (P : I.Call → Prop) (a : α) : (pure a : Attempt I α).run.Asks P :=
  Program.asks_done P _

theorem asks_throw (P : I.Call → Prop) (e : Error) : (throw e : Attempt I α).run.Asks P :=
  Program.asks_done P _

theorem asks_lift {P : I.Call → Prop} {p : Program I α} (h : p.Asks P) :
    (liftM p : Attempt I α).run.Asks P :=
  h.map _

/-- An attempt followed by another one, of which no more is known than the result of the first. -/
theorem asks_bind_of {P : I.Call → Prop} {x : Attempt I α} {f : α → Attempt I β}
    (hx : x.run.Asks P)
    (hf : ∀ before a, x.run.Walk before (.ok a) → (f a).run.Asks P) : (x >>= f).run.Asks P := by
  intro events r h
  rcases walk_bind.1 h with ⟨e, h, -⟩ | ⟨before, a, after, rfl, h, h'⟩
  · exact hx _ _ h
  · intro e he
    rcases List.mem_append.1 he with he | he
    · exact hx _ _ h e he
    · exact hf before a h _ _ h' e he

theorem asks_bind {P : I.Call → Prop} {x : Attempt I α} {f : α → Attempt I β}
    (hx : x.run.Asks P) (hf : ∀ a, (f a).run.Asks P) : (x >>= f).run.Asks P :=
  asks_bind_of hx fun _ a _ => hf a

theorem asks_forM {P : I.Call → Prop} {f : β → Attempt I Unit} {items : List β}
    (h : ∀ b ∈ items, (f b).run.Asks P) : (items.forM f).run.Asks P := by
  induction items with
  | nil => exact asks_pure P ()
  | cons b items ih =>
      refine asks_bind (h b (List.mem_cons_self ..)) fun _ => ih ?_
      intro b' hb'
      exact h b' (List.mem_cons_of_mem b hb')

/-! ### Runs -/

section Runs

variable {σ : Type} {handle : Handler I σ} {x : Attempt I α} {s s' : σ} {a : α} {e : Error}

/-- A run goes on from the result of the first attempt. -/
theorem run_bind_ok (f : α → Attempt I β) (h : x.run.run handle s = (.ok a, s')) :
    (x >>= f).run.run handle s = (f a).run.run handle s' := by
  show (Program.bind x.run _).run handle s = _
  rw [Program.run_bind, h]
  rfl

theorem trace_bind_ok (f : α → Attempt I β) (h : x.run.run handle s = (.ok a, s')) :
    (x >>= f).run.trace handle s = x.run.trace handle s ++ (f a).run.trace handle s' := by
  show (Program.bind x.run _).trace handle s = _
  rw [Program.trace_bind, h]
  rfl

/-- After a failure of the first attempt nothing is asked any more. -/
theorem run_bind_error (f : α → Attempt I β) (h : x.run.run handle s = (.error e, s')) :
    (x >>= f).run.run handle s = (.error e, s') := by
  show (Program.bind x.run _).run handle s = _
  rw [Program.run_bind, h]
  rfl

theorem trace_bind_error (f : α → Attempt I β) (h : x.run.run handle s = (.error e, s')) :
    (x >>= f).run.trace handle s = x.run.trace handle s := by
  show (Program.bind x.run _).trace handle s = _
  rw [Program.trace_bind, h]
  exact List.append_nil _

end Runs

end Attempt

/-- What stands in two lists put together stands in the first or in the second. -/
theorem split_append {α : Type} {left right before after : List α} {a : α}
    (h : left ++ right = before ++ a :: after) :
    (∃ more, left = before ++ a :: more ∧ after = more ++ right) ∨
      ∃ more, before = left ++ more ∧ right = more ++ a :: after := by
  rcases List.append_eq_append_iff.1 h with ⟨more, rfl, hright⟩ | ⟨more, rfl, hmore⟩
  · exact Or.inr ⟨more, rfl, hright⟩
  · cases more with
    | nil => exact Or.inr ⟨[], by simp, hmore.symm⟩
    | cons b more =>
        obtain ⟨rfl, rfl⟩ := List.cons.inj hmore
        exact Or.inl ⟨more, rfl, rfl⟩

/-! ## The world's calls -/

namespace World

variable {α : Type} {events : List (Event calls)}

theorem walk_provider {c : Provider.Call} {answer : Except CommandError (Provider.Result c)} :
    (provider c).Walk events answer ↔ events = [⟨.provider c, answer⟩] :=
  Program.walk_call (I := calls) (c := .provider c)

theorem walk_images {c : ImageTool.Call} {answer : Except CommandError (ImageTool.Result c)} :
    (images c).Walk events answer ↔ events = [⟨.images c, answer⟩] :=
  Program.walk_call (I := calls) (c := .images c)

theorem walk_host {c : Host.Call} {answer : Host.Answer c} :
    (host c).Walk events answer ↔ events = [⟨.host c, answer⟩] :=
  Program.walk_call (I := calls) (c := .host c)

/-- An attempt that starts with a call to the machine goes on from the answer. -/
theorem walk_host_bind {c : Host.Call} {f : Host.Answer c → Attempt calls α}
    {r : Except Error α} :
    (liftM (host c) >>= f : Attempt calls α).run.Walk events r ↔
      ∃ answer after, events = ⟨.host c, answer⟩ :: after ∧ (f answer).run.Walk after r := by
  rw [Attempt.walk_lift_bind]
  constructor
  · rintro ⟨before, answer, after, rfl, hasked, hrest⟩
    obtain rfl := walk_host.1 hasked
    exact ⟨answer, after, rfl, hrest⟩
  · rintro ⟨answer, after, rfl, hrest⟩
    exact ⟨[⟨.host c, answer⟩], answer, after, rfl, walk_host.2 rfl, hrest⟩

theorem walk_tryProvider {c : Provider.Call} {onFailure : CommandError → Error}
    {r : Except Error (Provider.Result c)} :
    (tryProvider c onFailure).run.Walk events r ↔
      ∃ answer : Except CommandError (Provider.Result c),
        events = [⟨.provider c, answer⟩] ∧ r = answer.mapError onFailure := by
  refine Program.walk_map.trans ?_
  simp only [walk_provider]

theorem walk_tryImages {c : ImageTool.Call} {onFailure : CommandError → Error}
    {r : Except Error (ImageTool.Result c)} :
    (tryImages c onFailure).run.Walk events r ↔
      ∃ answer : Except CommandError (ImageTool.Result c),
        events = [⟨.images c, answer⟩] ∧ r = answer.mapError onFailure := by
  refine Program.walk_map.trans ?_
  simp only [walk_images]

/-- A walk through the work with a temporary file: either the file cannot be made, or it is
    removed after the work, whatever came of that. -/
theorem walk_withTemporary {nameStart nameEnd : String} {work : String → Attempt calls α}
    {r : Except Error α} :
    (withTemporary nameStart nameEnd work).run.Walk events r ↔
      (∃ fault, events = [⟨.host (.makeTemporary nameStart nameEnd), Except.error fault⟩] ∧
        r = .error (.file fault)) ∨
      ∃ path inner, events = ⟨.host (.makeTemporary nameStart nameEnd), Except.ok path⟩ ::
          (inner ++ [⟨.host (.remove path), ()⟩]) ∧
        (work path).run.Walk inner r := by
  constructor
  · intro h
    obtain ⟨answer, after, rfl, hmade⟩ := walk_host_bind.1 h
    cases answer with
    | error fault =>
        obtain ⟨rfl, rfl⟩ := Attempt.walk_throw.1 hmade
        exact Or.inl ⟨fault, rfl, rfl⟩
    | ok path =>
        -- the removal comes after the work and gives what the work gave
        obtain ⟨inner, result, rest, rfl, hwork, hrest⟩ := Program.walk_bind.1 hmade
        obtain ⟨removed, _, last, rfl, hremove, hlast⟩ := Program.walk_bind.1 hrest
        obtain rfl := walk_host.1 hremove
        obtain ⟨rfl, rfl⟩ := Program.walk_done.1 hlast
        exact Or.inr ⟨path, inner, rfl, hwork⟩
  · rintro (⟨fault, rfl, rfl⟩ | ⟨path, inner, rfl, h⟩)
    · exact .ask (.done _)
    · refine .ask ?_
      show (((work path).run).bind fun result =>
        (host (.remove path)).bind fun _ => .done result).Walk _ r
      exact Program.walk_bind.2 ⟨inner, r, _, rfl, h, .ask (.done _)⟩

end World

end TestCluster
