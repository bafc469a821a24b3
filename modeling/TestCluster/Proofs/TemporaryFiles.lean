import TestCluster.Proofs.StageOrder

/-!
# Temporary files — there while they are used, and gone with every run

    A run that needs a temporary file makes it, hands its path to tools, and removes it, in
    whatever way the tools answer.  So the events of a run have one of three shapes
    (`Shape`): no file is made; a file cannot be made; or one file is made, nothing but calls
    that use it follow, it is removed, and nothing more is done about files.

    What the files are is left to a `FileSystem`, a view of the states that a handler goes
    through, of which no more is supposed than that it keeps files as file systems do
    (`FileSystem.Keeps`): a new file has a name that was free, a removed one is gone, and any
    other call changes those files only that its tool writes.  From the shape of the events
    it then follows what has become of the files (`Shape.tidy`).
-/

namespace TestCluster

open World Program

/-! ## Files -/

/-- How the files of a machine show in the states of a handler. -/
structure FileSystem (σ F : Type) where
  /-- What is in a file, if there is one. -/
  content : σ → F → Option (List UInt8)
  /-- The file that a path leads to; several paths may lead to one. -/
  file : String → F
  /-- The files that a tool writes itself when it is called. -/
  written : World.Call → F → Prop

/-- Whether a call makes, removes or writes a file. -/
def World.Call.managesFiles : World.Call → Bool
  | .host (.makeTemporary ..) => true
  | .host (.remove _) => true
  | .host (.writeFile ..) => true
  | _ => false

/-- The archive that a call saves to or loads from. -/
def World.Call.archive? : World.Call → Option String
  | .images (.save _ archive) => some archive
  | .provider (.load _ _ archive) => some archive
  | _ => none

/-- The kubeconfig with which a call deletes a cluster. -/
def World.Call.deletionKubeconfig? : World.Call → Option String
  | .provider (.delete _ kubeconfig) => some kubeconfig
  | _ => none

/-- Whether an answer is no failure. -/
def World.succeeds : (call : World.Call) → World.Answer call → Bool
  | .provider _, answer => (errorOf? answer).isNone
  | .images _, answer => (errorOf? answer).isNone
  | .host c, answer => (hostError? c answer).isNone
  | .hook .., answer => (errorOf? answer).isNone

/-- The path of the temporary file that a call has made. -/
def World.made? : (call : World.Call) → World.Answer call → Option String
  | .host (.makeTemporary ..), answer => Except.toOption answer
  | _, _ => none

/-- The paths of the temporary files that were made. -/
def temporaries (events : List (Event World.calls)) : List String :=
  events.filterMap fun e => World.made? e.call e.answer

namespace FileSystem

variable {σ F : Type}

/-- Whether a call may change a file although it only asks for something else: a tool may, the
    machine does not. -/
def Writes (fs : FileSystem σ F) : World.Call → F → Prop
  | .host _, _ => False
  | call, f => fs.written call f

/-- A handler that keeps files as file systems do. -/
structure Keeps (fs : FileSystem σ F) (handle : Handler World.calls σ) : Prop where
  /-- A temporary file gets a name that is free, and it is the only one that is new. -/
  makes : ∀ {nameStart nameEnd path : String} {s s' : σ},
    handle (.host (.makeTemporary nameStart nameEnd)) s = (Except.ok path, s') →
    fs.content s (fs.file path) = none ∧ (fs.content s' (fs.file path)).isSome ∧
      ∀ f, f ≠ fs.file path → fs.content s' f = fs.content s f
  /-- Where no file could be made nothing has changed. -/
  makesNone : ∀ {nameStart nameEnd : String} {fault : FileFault} {s s' : σ},
    handle (.host (.makeTemporary nameStart nameEnd)) s = (Except.error fault, s') →
    ∀ f, fs.content s' f = fs.content s f
  /-- A file that is removed is gone, and no other one. -/
  removes : ∀ {path : String} {s s' : σ}, handle (.host (.remove path)) s = ((), s') →
    fs.content s' (fs.file path) = none ∧
      ∀ f, f ≠ fs.file path → fs.content s' f = fs.content s f
  /-- Other calls change nothing but what their tools write. -/
  spares : ∀ {call : World.Call} {answer : World.Answer call} {s s' : σ} {f : F},
    handle call s = (answer, s') → call.managesFiles = false → ¬ fs.Writes call f →
    fs.content s' f = fs.content s f
  /-- Where an archive was saved or loaded it is there afterwards, if it was there before. -/
  leaves : ∀ {call : World.Call} {answer : World.Answer call} {s s' : σ} {path : String},
    handle call s = (answer, s') → call.archive? = some path →
    World.succeeds call answer = true →
    (fs.content s (fs.file path)).isSome → (fs.content s' (fs.file path)).isSome

/-- No tool writes a file, but one that was told its path for this. -/
def LeftAlone (fs : FileSystem σ F) (uses : World.Call → Option String)
    (events : List (Event World.calls)) (f : F) : Prop :=
  ∀ e ∈ events, fs.Writes e.call f → ∃ path, uses e.call = some path ∧ fs.file path = f

/-- A run that is tidy about its files.  `uses` says which path a call uses as that of the
    temporary file. -/
structure Tidy (fs : FileSystem σ F) (handle : Handler World.calls σ)
    (uses : World.Call → Option String) (s : σ) (events : List (Event World.calls)) (s' : σ) :
    Prop where
  /-- There is no more than one temporary file. -/
  one : (temporaries events).length ≤ 1
  /-- Wherever the path of a temporary file is used, it is the one that was made before, and the
      file is there. -/
  used : ∀ {before after : List (Event World.calls)} {e : Event World.calls} {s₁ : σ}
    {path : String}, events = before ++ e :: after → Passes handle s before s₁ →
    uses e.call = some path →
    path ∈ temporaries before ∧ (fs.content s₁ (fs.file path)).isSome
  /-- A temporary file is gone. -/
  gone : ∀ path ∈ temporaries events, fs.LeftAlone uses events (fs.file path) →
    fs.content s' (fs.file path) = none
  /-- Every file that no tool writes is as it was, or still is not there. -/
  kept : ∀ f, fs.LeftAlone uses events f → fs.content s' f = fs.content s f

end FileSystem

/-! ## The shape of a run -/

/-- A call that does nothing about files, and to which the path of a temporary one is not told. -/
def World.IsCalm (uses : World.Call → Option String) (call : World.Call) : Prop :=
  call.managesFiles = false ∧ uses call = none

section Shapes

variable {uses : World.Call → Option String} {path : String} {last : Bool}
  {events lead rest : List (Event World.calls)}

/-- Nothing is done about files. -/
def Calm (uses : World.Call → Option String) (events : List (Event World.calls)) : Prop :=
  ∀ e ∈ events, World.IsCalm uses e.call

/-- A temporary file is used: every call is told its path, and as long as another one follows,
    an archive was saved or loaded. -/
inductive InUse (uses : World.Call → Option String) (path : String) :
    List (Event World.calls) → Prop where
  | done : InUse uses path []
  | last {e : Event World.calls} :
      e.call.managesFiles = false → uses e.call = some path → InUse uses path [e]
  | next {e : Event World.calls} {events : List (Event World.calls)} :
      e.call.managesFiles = false → uses e.call = some path →
      e.call.archive? = some path → World.succeeds e.call e.answer = true →
      InUse uses path events → InUse uses path (e :: events)

/-- The three ways in which a run goes about a temporary file.  `last` says that the removal ends
    the run. -/
inductive Shape (uses : World.Call → Option String) (last : Bool) :
    List (Event World.calls) → Prop where
  | calm {events : List (Event World.calls)} : Calm uses events → Shape uses last events
  | unmade {before after : List (Event World.calls)} {nameStart nameEnd : String}
      {fault : FileFault} :
      Calm uses before → Calm uses after →
      Shape uses last
        (before ++ ⟨.host (.makeTemporary nameStart nameEnd), Except.error fault⟩ :: after)
  | made {before inner after : List (Event World.calls)} {nameStart nameEnd path : String} :
      Calm uses before → InUse uses path inner → Calm uses after → (last = true → after = []) →
      Shape uses last (before ++ ⟨.host (.makeTemporary nameStart nameEnd), Except.ok path⟩ ::
        (inner ++ ⟨.host (.remove path), ()⟩ :: after))

theorem calm_nil : Calm uses [] := nofun

theorem Calm.append (hlead : Calm uses lead) (hrest : Calm uses rest) :
    Calm uses (lead ++ rest) := by
  intro e he
  rcases List.mem_append.1 he with he | he
  · exact hlead e he
  · exact hrest e he

theorem InUse.told (h : InUse uses path events) {e : Event World.calls} (he : e ∈ events) :
    e.call.managesFiles = false ∧ uses e.call = some path := by
  induction h with
  | done => exact nomatch he
  | last hmanages huses =>
      obtain rfl := List.mem_singleton.1 he
      exact ⟨hmanages, huses⟩
  | next hmanages huses _ _ _ ih =>
      rcases List.mem_cons.1 he with rfl | he
      · exact ⟨hmanages, huses⟩
      · exact ih he

/-- A run keeps its shape with calm events in front. -/
theorem Shape.after (hlead : Calm uses lead) (h : Shape uses last events) :
    Shape uses last (lead ++ events) := by
  cases h with
  | calm hcalm => exact .calm (hlead.append hcalm)
  | unmade hbefore hafter =>
      rw [← List.append_assoc]
      exact .unmade (hlead.append hbefore) hafter
  | made hbefore hinner hafter hlast =>
      rw [← List.append_assoc]
      exact .made (hlead.append hbefore) hinner hafter hlast

/-- A run keeps its shape with calm events behind, but the removal no longer ends it. -/
theorem Shape.followed (h : Shape uses last events) (hrest : Calm uses rest) :
    Shape uses false (events ++ rest) := by
  cases h with
  | calm hcalm => exact .calm (hcalm.append hrest)
  | unmade hbefore hafter =>
      rw [List.append_assoc, List.cons_append]
      exact .unmade hbefore (hafter.append hrest)
  | made hbefore hinner hafter _ =>
      rw [List.append_assoc, List.cons_append, List.append_assoc, List.cons_append]
      exact .made hbefore hinner (hafter.append hrest) nofun

/-! ## Computations of this shape -/

variable {α β : Type}

/-- Every walk has one of the three shapes. -/
def Tidies (uses : World.Call → Option String) (last : Bool) (x : Attempt World.calls α) :
    Prop :=
  ∀ events r, x.run.Walk events r → Shape uses last events

theorem tidies_of_calm {x : Attempt World.calls α} (h : x.run.Asks (World.IsCalm uses)) :
    Tidies uses last x :=
  fun _ _ hwalk => .calm (h _ _ hwalk)

theorem Tidies.after {x : Attempt World.calls α} {f : α → Attempt World.calls β}
    (hx : x.run.Asks (World.IsCalm uses)) (hf : ∀ a, Tidies uses last (f a)) :
    Tidies uses last (x >>= f) := by
  intro events r h
  rcases Attempt.walk_bind.1 h with ⟨e, hfail, -⟩ | ⟨lead, a, rest, rfl, hok, hrest⟩
  · exact .calm (hx _ _ hfail)
  · exact (hf a _ _ hrest).after (hx _ _ hok)

theorem Tidies.followed {x : Attempt World.calls α} {f : α → Attempt World.calls β}
    (hx : Tidies uses last x) (hf : ∀ a, (f a).run.Asks (World.IsCalm uses)) :
    Tidies uses false (x >>= f) := by
  intro events r h
  rcases Attempt.walk_bind.1 h with ⟨e, hfail, -⟩ | ⟨lead, a, rest, rfl, hok, hrest⟩
  · rw [← List.append_nil events]
    exact (hx _ _ hfail).followed calm_nil
  · exact (hx _ _ hok).followed (hf a _ _ hrest)

/-- Work that a deletion undoes keeps its shape, if the deletion is not told the path. -/
theorem Tidies.orDelete {c : Cluster} {work : Attempt World.calls α} (hwork : Tidies uses last work)
    (hdelete : uses (.provider (.delete c.name c.kubeconfig)) = none) :
    Tidies uses false (c.orDelete work) := by
  intro events r h
  rcases Cluster.walk_orDelete h with ⟨a, hok, -⟩ | ⟨lead, e, answer, rfl, hfail, -⟩
  · rw [← List.append_nil events]
    exact (hwork _ _ hok).followed calm_nil
  · refine (hwork _ _ hfail).followed ?_
    intro e he
    obtain rfl := List.mem_singleton.1 he
    exact ⟨rfl, hdelete⟩

/-- Work with a temporary file has the shape, if it does nothing but use the file. -/
theorem tidies_withTemporary {nameStart nameEnd : String}
    {work : String → Attempt World.calls α}
    (h : ∀ path inner r, (work path).run.Walk inner r → InUse uses path inner) :
    Tidies uses last (withTemporary nameStart nameEnd work) := by
  intro events r hwalk
  rcases walk_withTemporary.1 hwalk with ⟨fault, rfl, -⟩ | ⟨path, inner, rfl, hwork⟩
  · exact .unmade calm_nil calm_nil
  · exact .made calm_nil (h path inner r hwork) calm_nil fun _ => rfl

end Shapes

namespace Cluster

/-- An archive is loaded into one node after another, until that fails. -/
theorem inUse_loads {cluster archive : String} {nodes : List String}
    {events : List (Event World.calls)} {r : Except Error Unit}
    (h : (nodes.forM (loadArchive cluster archive)).run.Walk events r) :
    InUse World.Call.archive? archive events := by
  induction nodes generalizing events with
  | nil =>
      obtain ⟨rfl, -⟩ := Attempt.walk_pure.1 h
      exact .done
  | cons node nodes ih =>
      rcases Attempt.walk_bind.1 h with ⟨e, hfail, -⟩ | ⟨lead, _, rest, rfl, hok, hrest⟩
      · obtain ⟨answer, rfl, -⟩ := walk_tryProvider.1 hfail
        exact .last rfl rfl
      · obtain ⟨(cause | _), rfl, ⟨⟩⟩ := walk_tryProvider.1 hok
        exact .next rfl rfl rfl rfl (ih hrest)

theorem Fetches.isCalm {call : World.Call} (h : Fetches call) :
    World.IsCalm World.Call.archive? call := by
  cases h <;> exact ⟨rfl, rfl⟩

theorem tidies_preload {last : Bool} (cluster : String) (nodes images : List String) :
    Tidies World.Call.archive? last (preload cluster nodes images) := by
  rw [preload]
  split
  · exact tidies_of_calm (Attempt.asks_pure _ _)
  · have hfetch : ∀ image ∈ images,
        (ensureImage image).run.Asks (World.IsCalm World.Call.archive?) :=
      fun image _ => (asks_ensureImage image).mono fun _ => Fetches.isCalm
    refine .after (Attempt.asks_forM hfetch) fun _ => tidies_withTemporary ?_
    intro archive inner r h
    rcases Attempt.walk_bind.1 h with ⟨e, hfail, -⟩ | ⟨lead, _, rest, rfl, hok, hrest⟩
    · obtain ⟨answer, rfl, -⟩ := walk_tryImages.1 hfail
      exact .last rfl rfl
    · obtain ⟨(cause | _), rfl, ⟨⟩⟩ := walk_tryImages.1 hok
      exact .next rfl rfl rfl rfl (inUse_loads hrest)

theorem tidies_deleteNamed {last : Bool} (name : String) (quiet : Bool) :
    Tidies World.Call.deletionKubeconfig? last (deleteNamed name quiet) := by
  have hlist : (isListed name).run.Asks (World.IsCalm World.Call.deletionKubeconfig?) :=
    Attempt.asks_bind (asks_tryProvider _ ⟨rfl, rfl⟩) fun _ => Attempt.asks_pure _ _
  refine .after hlist ?_
  intro listed
  cases listed with
  | true =>
      refine tidies_withTemporary ?_
      intro kubeconfig inner r h
      obtain ⟨answer, rfl, -⟩ := walk_tryProvider.1 h
      exact .last rfl rfl
  | false =>
      cases quiet with
      | true => exact tidies_of_calm (Attempt.asks_pure _ _)
      | false => exact tidies_of_calm (Attempt.asks_throw _ _)

theorem tidies_equip (c : Cluster) (images : List String) :
    Tidies World.Call.archive? false (c.equip images) := by
  refine .after (asks_tryProvider _ ⟨rfl, rfl⟩) fun _ => ?_
  split
  · exact tidies_of_calm (Attempt.asks_pure _ _)
  · refine .after (asks_tryProvider _ ⟨rfl, rfl⟩) ?_
    intro nodes
    exact tidies_preload c.name nodes images

theorem tidies_create (tempDir : String) (config : ClusterConfig) :
    Tidies World.Call.archive? false (create tempDir config) := by
  have hprobe : ∀ port ∈ config.options.nodePorts,
      (checkHostPort port).run.Asks (World.IsCalm World.Call.archive?) := by
    intro port _
    refine (asks_checkHostPort port).mono ?_
    rintro _ (_ | _) <;> exact ⟨rfl, rfl⟩
  refine .after (Attempt.asks_forM hprobe) fun _ => ?_
  refine .after ((asks_pullNodeImage _).mono fun _ => Fetches.isCalm) fun _ => ?_
  refine .after (asks_tryProvider _ ⟨rfl, rfl⟩) fun _ => ?_
  exact ((tidies_equip _ _).orDelete rfl).followed fun _ => Attempt.asks_pure _ _

end Cluster

namespace Lease

theorem tidies_createFor (tempDir : String) (s : Setup) (config : ClusterConfig) :
    Tidies World.Call.archive? false (createFor tempDir s config) := by
  refine (Cluster.tidies_create tempDir config).followed fun cluster => ?_
  refine asks_furnish s ?_ (fun _ => ⟨rfl, rfl⟩) ⟨rfl, rfl⟩
  -- a hook may read a file, but makes none
  intro call hcall
  cases call with
  | provider call => exact nomatch hcall
  | images call => exact nomatch hcall
  | hook name cluster => exact ⟨rfl, rfl⟩
  | host call => cases call <;> first | exact ⟨rfl, rfl⟩ | exact nomatch hcall

theorem tidies_startResolved (tempDir : String) (s : Setup) :
    Tidies World.Call.archive? false (startResolved tempDir s) := by
  rw [startResolved]
  cases ClusterConfig.ofOptions s.name s.options with
  | error fault => exact tidies_of_calm (Attempt.asks_throw _ _)
  | ok config =>
      refine .after (asks_find? ⟨rfl, rfl⟩ ⟨rfl, rfl⟩) ?_
      intro found
      cases found with
      | none => exact tidies_createFor tempDir s config
      | some cluster =>
          dsimp only
          split
          · exact tidies_of_calm (Attempt.asks_pure _ _)
          · exact .after (asks_tryProvider _ ⟨rfl, rfl⟩) fun _ =>
              tidies_createFor tempDir s config

end Lease

/-! ## What becomes of the files -/

section Frame

variable {σ F : Type} {fs : FileSystem σ F} {handle : Handler World.calls σ}
  {uses : World.Call → Option String} {path : String} {last : Bool} {f : F} {s s' : σ}
  {events inner : List (Event World.calls)}

theorem FileSystem.LeftAlone.mono (h : fs.LeftAlone uses events f)
    (hsub : ∀ e ∈ inner, e ∈ events) : fs.LeftAlone uses inner f :=
  fun e he => h e (hsub e he)

/-- A file that no call manages and no tool writes stays as it is. -/
theorem FileSystem.Keeps.frame (hfs : fs.Keeps handle)
    (hcalls : ∀ e ∈ events, e.call.managesFiles = false ∧ ¬ fs.Writes e.call f)
    (h : Passes handle s events s') : fs.content s' f = fs.content s f := by
  induction h with
  | done s => rfl
  | next hcall _ ih =>
      obtain ⟨hmanages, hwrites⟩ := hcalls _ (List.mem_cons_self ..)
      rw [ih fun e he => hcalls e (List.mem_cons_of_mem _ he)]
      exact hfs.spares hcall hmanages hwrites

/-- Calm events change no file that is left alone. -/
theorem FileSystem.Keeps.calm (hfs : fs.Keeps handle) (hcalm : Calm uses events)
    (halone : fs.LeftAlone uses events f) (h : Passes handle s events s') :
    fs.content s' f = fs.content s f := by
  refine hfs.frame ?_ h
  intro e he
  obtain ⟨hmanages, hnone⟩ := hcalm e he
  refine ⟨hmanages, ?_⟩
  intro hwrites
  obtain ⟨path, hpath, -⟩ := halone e he hwrites
  exact nomatch hnone.symm.trans hpath

/-- Using the temporary file changes no other one that is left alone. -/
theorem FileSystem.Keeps.inUse (hfs : fs.Keeps handle) (huse : InUse uses path inner)
    (halone : fs.LeftAlone uses inner f) (hother : f ≠ fs.file path)
    (h : Passes handle s inner s') : fs.content s' f = fs.content s f := by
  refine hfs.frame ?_ h
  intro e he
  obtain ⟨hmanages, htold⟩ := huse.told he
  refine ⟨hmanages, ?_⟩
  intro hwrites
  obtain ⟨path', hpath', rfl⟩ := halone e he hwrites
  obtain rfl := Option.some.inj (htold.symm.trans hpath')
  exact hother rfl

/-- The temporary file is there whenever it is used. -/
theorem FileSystem.Keeps.there (hfs : fs.Keeps handle) (huse : InUse uses path inner)
    (hmade : (fs.content s (fs.file path)).isSome) {before after : List (Event World.calls)}
    {e : Event World.calls} {s₁ : σ} (hinner : inner = before ++ e :: after)
    (h : Passes handle s before s₁) : (fs.content s₁ (fs.file path)).isSome := by
  induction huse generalizing before s with
  | done => exact absurd hinner (by simp)
  | last hmanages htold =>
      cases before with
      | nil =>
          obtain rfl := Program.passes_nil.1 h
          exact hmade
      | cons e' before => exact absurd (congrArg List.length hinner) (by simp)
  | next hmanages htold harchive hok hrest ih =>
      cases before with
      | nil =>
          obtain rfl := Program.passes_nil.1 h
          exact hmade
      | cons e' before =>
          -- the call in front has left the file where it was
          obtain ⟨rfl, hrest'⟩ := List.cons.inj hinner
          obtain ⟨s₂, hcall, hbefore⟩ := Program.passes_cons.1 h
          exact ih (hfs.leaves hcall harchive hok hmade) hrest' hbefore

theorem temporaries_append (before after : List (Event World.calls)) :
    temporaries (before ++ after) = temporaries before ++ temporaries after :=
  List.filterMap_append

/-- Where no file is made there is no temporary one. -/
theorem temporaries_eq_nil (h : ∀ e ∈ events, e.call.managesFiles = false) :
    temporaries events = [] := by
  refine List.filterMap_eq_nil_iff.2 ?_
  rintro ⟨call, answer⟩ he
  cases call with
  | host call => cases call <;> first | rfl | exact nomatch h _ he
  | _ => rfl

theorem Calm.temporaries_eq_nil (h : Calm uses events) : temporaries events = [] :=
  TestCluster.temporaries_eq_nil fun e he => (h e he).1

/-- Calm events use no path. -/
theorem Calm.unused (h : Calm uses events) {e : Event World.calls} (he : e ∈ events) :
    uses e.call ≠ some path := by
  rw [(h e he).2]
  exact nofun

variable {before after : List (Event World.calls)} {nameStart nameEnd : String}

/-- A run through a temporary file makes this one. -/
theorem temporaries_made (nameStart nameEnd : String) (hbefore : Calm uses before)
    (hinner : InUse uses path inner) (hafter : Calm uses after) :
    temporaries (before ++ ⟨.host (.makeTemporary nameStart nameEnd), Except.ok path⟩ ::
      (inner ++ ⟨.host (.remove path), ()⟩ :: after)) = [path] := by
  have hnone : temporaries (inner ++ ⟨.host (.remove path), ()⟩ :: after) = [] := by
    rw [temporaries_append, temporaries_eq_nil fun e he => (hinner.told he).1]
    exact hafter.temporaries_eq_nil
  rw [temporaries_append, hbefore.temporaries_eq_nil]
  exact congrArg (path :: ·) hnone

/-- In a run through a temporary file the path that is used is the one of this file, which is
    there. -/
theorem FileSystem.Keeps.used_made (hfs : fs.Keeps handle)
    (hhost : ∀ c, uses (.host c) = none) (hbefore : Calm uses before)
    (hinner : InUse uses path inner) (hafter : Calm uses after)
    {lead rest : List (Event World.calls)} {e : Event World.calls} {s₁ : σ} {path' : String}
    (heq : before ++ ⟨.host (.makeTemporary nameStart nameEnd), Except.ok path⟩ ::
      (inner ++ ⟨.host (.remove path), ()⟩ :: after) = lead ++ e :: rest)
    (h : Passes handle s lead s₁) (huse : uses e.call = some path') :
    path' ∈ temporaries lead ∧ (fs.content s₁ (fs.file path')).isSome := by
  rcases split_append heq with ⟨more, rfl, -⟩ | ⟨more, rfl, hmore⟩
  · exact absurd huse (hbefore.unused (List.mem_append_right _ (List.mem_cons_self ..)))
  cases more with
  | nil =>
      obtain ⟨rfl, -⟩ := List.cons.inj hmore
      exact nomatch (hhost _).symm.trans huse
  | cons made more =>
      obtain ⟨rfl, hrest⟩ := List.cons.inj hmore
      rcases split_append hrest with ⟨left, rfl, -⟩ | ⟨left, rfl, hleft⟩
      -- the call is one of those between making the file and removing it
      · have htold := (hinner.told (List.mem_append_right _ (List.mem_cons_self ..))).2
        obtain rfl := Option.some.inj (htold.symm.trans huse)
        obtain ⟨s₂, -, hlead⟩ := Program.passes_append.1 h
        obtain ⟨s₃, hmake, hmore⟩ := Program.passes_cons.1 hlead
        constructor
        · rw [temporaries_append]
          exact List.mem_append_right _ (List.mem_cons_self ..)
        · exact hfs.there hinner (hfs.makes hmake).2.1 rfl hmore
      · cases left with
        | nil =>
            obtain ⟨rfl, -⟩ := List.cons.inj hleft
            exact nomatch (hhost _).symm.trans huse
        | cons removed left =>
            obtain ⟨-, rfl⟩ := List.cons.inj hleft
            exact absurd huse
              (hafter.unused (List.mem_append_right _ (List.mem_cons_self ..)))

/-- A run through a temporary file is tidy. -/
theorem FileSystem.Keeps.tidy_made (hfs : fs.Keeps handle)
    (hhost : ∀ c, uses (.host c) = none) (hbefore : Calm uses before)
    (hinner : InUse uses path inner) (hafter : Calm uses after)
    (h : Passes handle s
      (before ++ ⟨.host (.makeTemporary nameStart nameEnd), Except.ok path⟩ ::
        (inner ++ ⟨.host (.remove path), ()⟩ :: after)) s') :
    fs.Tidy handle uses s
      (before ++ ⟨.host (.makeTemporary nameStart nameEnd), Except.ok path⟩ ::
        (inner ++ ⟨.host (.remove path), ()⟩ :: after)) s' := by
  have hone := temporaries_made nameStart nameEnd hbefore hinner hafter
  generalize hevents : before ++ ⟨.host (.makeTemporary nameStart nameEnd), Except.ok path⟩ ::
    (inner ++ ⟨.host (.remove path), ()⟩ :: after) = events at hone h ⊢
  have hin : ∀ e ∈ before ++ (inner ++ after), e ∈ events := by
    intro e he
    rw [← hevents]
    simp only [List.mem_append] at he
    rcases he with he | he | he <;> simp [he]
  rw [← hevents] at h
  obtain ⟨s₁, h₁, hrest⟩ := Program.passes_append.1 h
  obtain ⟨s₂, hmake, hrest⟩ := Program.passes_cons.1 hrest
  obtain ⟨s₃, h₃, hrest⟩ := Program.passes_append.1 hrest
  obtain ⟨s₄, hremove, h₅⟩ := Program.passes_cons.1 hrest
  obtain ⟨hfree, -, hothers⟩ := hfs.makes hmake
  obtain ⟨hgone, hspared⟩ := hfs.removes hremove
  have hend : ∀ {f : F}, fs.LeftAlone uses events f → fs.content s' f = fs.content s₄ f := by
    intro f halone
    refine hfs.calm hafter (halone.mono ?_) h₅
    intro e he
    exact hin e (List.mem_append_right _ (List.mem_append_right _ he))
  have hstart : ∀ {f : F}, fs.LeftAlone uses events f → fs.content s₁ f = fs.content s f := by
    intro f halone
    refine hfs.calm hbefore (halone.mono ?_) h₁
    intro e he
    exact hin e (List.mem_append_left _ he)
  refine ⟨by rw [hone]; simp, ?_, ?_, ?_⟩
  · intro lead rest e t path' heq hlead huse
    exact hfs.used_made hhost hbefore hinner hafter (hevents.trans heq) hlead huse
  · intro path' hpath' halone
    rw [hone] at hpath'
    obtain rfl := List.mem_singleton.1 hpath'
    rw [hend halone]
    exact hgone
  · intro f halone
    by_cases hf : f = fs.file path
    -- the name was free before the file was made
    · obtain rfl := hf
      rw [hend halone, hgone, ← hstart halone, hfree]
    · have halone₃ : fs.LeftAlone uses inner f := halone.mono fun e he =>
        hin e (List.mem_append_right _ (List.mem_append_left _ he))
      calc fs.content s' f = fs.content s₄ f := hend halone
        _ = fs.content s₃ f := hspared f hf
        _ = fs.content s₂ f := hfs.inUse hinner halone₃ hf h₃
        _ = fs.content s₁ f := hothers f hf
        _ = fs.content s f := hstart halone

/-- A run in which no file is made, and no path used, is tidy if it changes no file that is left
    alone. -/
theorem FileSystem.tidy_of_unmade (hnone : temporaries events = [])
    (hunused : ∀ e ∈ events, uses e.call = none)
    (hkept : ∀ f, fs.LeftAlone uses events f → fs.content s' f = fs.content s f) :
    fs.Tidy handle uses s events s' := by
  refine ⟨by simp [hnone], ?_, by simp [hnone], hkept⟩
  rintro before after e s₁ path rfl - huse
  exact nomatch (hunused e (by simp)).symm.trans huse

/-- Every run of one of the three shapes is tidy. -/
theorem Shape.tidy (hfs : fs.Keeps handle) (hhost : ∀ c, uses (.host c) = none)
    (hshape : Shape uses last events) (h : Passes handle s events s') :
    fs.Tidy handle uses s events s' := by
  cases hshape with
  | calm hcalm =>
      refine fs.tidy_of_unmade hcalm.temporaries_eq_nil (fun e he => (hcalm e he).2) ?_
      intro f halone
      exact hfs.calm hcalm halone h
  | @unmade before after nameStart nameEnd fault hbefore hafter =>
      obtain ⟨s₁, h₁, hrest⟩ := Program.passes_append.1 h
      obtain ⟨s₂, hmake, h₂⟩ := Program.passes_cons.1 hrest
      refine fs.tidy_of_unmade ?_ ?_ ?_
      · rw [temporaries_append, hbefore.temporaries_eq_nil]
        exact hafter.temporaries_eq_nil
      · intro e he
        rcases List.mem_append.1 he with he | he
        · exact (hbefore e he).2
        · rcases List.mem_cons.1 he with rfl | he
          · exact hhost _
          · exact (hafter e he).2
      · intro f halone
        have hbefore' := hfs.calm hbefore
          (halone.mono fun e he => List.mem_append_left _ he) h₁
        have hafter' := hfs.calm hafter
          (halone.mono fun e he => List.mem_append_right _ (List.mem_cons_of_mem _ he)) h₂
        rw [hafter', hfs.makesNone hmake f, hbefore']
  | made hbefore hinner hafter _ => exact hfs.tidy_made hhost hbefore hinner hafter h

/-- Where the removal ends the run, the temporary file is gone, whatever else the tools write. -/
theorem Shape.gone (hfs : fs.Keeps handle) (hshape : Shape uses true events)
    (h : Passes handle s events s') (hpath : path ∈ temporaries events) :
    fs.content s' (fs.file path) = none := by
  cases hshape with
  | calm hcalm =>
      rw [hcalm.temporaries_eq_nil] at hpath
      exact nomatch hpath
  | unmade hbefore hafter =>
      rw [temporaries_append, hbefore.temporaries_eq_nil] at hpath
      exact nomatch hafter.temporaries_eq_nil ▸ hpath
  | @made before inner after nameStart nameEnd path' hbefore hinner hafter hlast =>
      rw [temporaries_made _ _ hbefore hinner hafter] at hpath
      obtain rfl := List.mem_singleton.1 hpath
      obtain rfl := hlast rfl
      obtain ⟨s₁, -, hrest⟩ := Program.passes_append.1 h
      obtain ⟨s₂, -, hrest⟩ := Program.passes_cons.1 hrest
      obtain ⟨s₃, -, hrest⟩ := Program.passes_append.1 hrest
      obtain ⟨s₄, hremove, hend⟩ := Program.passes_cons.1 hrest
      obtain rfl := Program.passes_nil.1 hend
      exact (hfs.removes hremove).1

end Frame

/-! ## Runs -/

namespace FileSystem

variable {σ F α : Type}

/-- A run from a state that is tidy about its files. -/
def RunsTidily (fs : FileSystem σ F) (handle : Handler World.calls σ)
    (uses : World.Call → Option String) (x : Attempt World.calls α) (s : σ) : Prop :=
  fs.Tidy handle uses s (x.run.trace handle s) (x.run.run handle s).2

/-- After a run from a state no temporary file is there that the run made. -/
def LeavesNone (fs : FileSystem σ F) (handle : Handler World.calls σ)
    (x : Attempt World.calls α) (s : σ) : Prop :=
  ∀ path ∈ temporaries (x.run.trace handle s),
    fs.content (x.run.run handle s).2 (fs.file path) = none

variable {fs : FileSystem σ F} {handle : Handler World.calls σ}
  {uses : World.Call → Option String} {last : Bool} {x : Attempt World.calls α}

theorem runsTidily (hfs : fs.Keeps handle) (hhost : ∀ c, uses (.host c) = none)
    (hx : Tidies uses last x) (s : σ) : fs.RunsTidily handle uses x s :=
  (hx _ _ (Program.walk_run handle x.run s)).tidy hfs hhost (Program.passes_run handle x.run s)

theorem leavesNone (hfs : fs.Keeps handle) (hx : Tidies uses true x) (s : σ) :
    fs.LeavesNone handle x s := by
  intro path hpath
  have hshape := hx _ _ (Program.walk_run handle x.run s)
  exact hshape.gone hfs (Program.passes_run handle x.run s) hpath

end FileSystem

/-- **TEMPORARY FILES ARE REMOVED.**  However the tools answer, putting images into nodes and
    tearing down a cluster by its name leave no temporary file behind and touch no other file;
    the calls to save, load and tear down are told the path of the one temporary file, which is
    there.  Bringing a cluster up and a whole start are as tidy about their archive. -/
theorem temporaries_removed {σ F : Type} {fs : FileSystem σ F} {handle : Handler World.calls σ}
    (hfs : fs.Keeps handle) (s : σ) :
    (∀ cluster nodes images,
      fs.RunsTidily handle World.Call.archive? (Cluster.preload cluster nodes images) s ∧
        fs.LeavesNone handle (Cluster.preload cluster nodes images) s) ∧
    (∀ name quiet,
      fs.RunsTidily handle World.Call.deletionKubeconfig? (Cluster.deleteNamed name quiet) s ∧
        fs.LeavesNone handle (Cluster.deleteNamed name quiet) s) ∧
    (∀ tempDir config,
      fs.RunsTidily handle World.Call.archive? (Cluster.create tempDir config) s) ∧
    ∀ tempDir env setup,
      fs.RunsTidily handle World.Call.archive? (Lease.start tempDir env setup) s := by
  have harchive : ∀ c, World.Call.archive? (.host c) = none := fun _ => rfl
  have hkubeconfig : ∀ c, World.Call.deletionKubeconfig? (.host c) = none := fun _ => rfl
  refine ⟨?_, ?_, ?_, ?_⟩
  · intro cluster nodes images
    have htidies : Tidies World.Call.archive? true (Cluster.preload cluster nodes images) :=
      Cluster.tidies_preload cluster nodes images
    exact ⟨FileSystem.runsTidily hfs harchive htidies s, FileSystem.leavesNone hfs htidies s⟩
  · intro name quiet
    have htidies : Tidies World.Call.deletionKubeconfig? true
        (Cluster.deleteNamed name quiet) :=
      Cluster.tidies_deleteNamed name quiet
    exact ⟨FileSystem.runsTidily hfs hkubeconfig htidies s, FileSystem.leavesNone hfs htidies s⟩
  · intro tempDir config
    exact FileSystem.runsTidily hfs harchive (Cluster.tidies_create tempDir config) s
  · intro tempDir env setup
    exact FileSystem.runsTidily hfs harchive (Lease.tidies_startResolved tempDir _) s

/-- The files by their paths, with a new content for one of them. -/
def withContent (files : String → Option (List UInt8)) (path : String)
    (content : Option (List UInt8)) : String → Option (List UInt8) :=
  fun p => if p = path then content else files p

theorem withContent_self {files : String → Option (List UInt8)} {path : String}
    {content : Option (List UInt8)} : withContent files path content path = content :=
  if_pos rfl

theorem withContent_of_ne {files : String → Option (List UInt8)} {path p : String}
    {content : Option (List UInt8)} (h : p ≠ path) : withContent files path content p = files p :=
  if_neg h

/-- A machine that keeps files by their paths.  Its tools succeed, but no archive can be loaded
    into the node `b`. -/
def filing : Handler World.calls (String → Option (List UInt8)) := fun call files =>
  match call with
  | .host (.makeTemporary nameStart nameEnd) =>
    match files (nameStart ++ nameEnd) with
    | none => (Except.ok (nameStart ++ nameEnd), withContent files (nameStart ++ nameEnd) (some []))
    | some _ => (Except.error (.temporary .accessDenied (nameStart ++ nameEnd)), files)
  | .host (.remove path) => ((), withContent files path none)
  | .images (.save _ archive) => (Except.ok (), withContent files archive (some [80, 75]))
  | .provider (.exportKubeconfig _ path) => (Except.ok (), withContent files path (some [123]))
  | .provider (.load _ node _) =>
    (if node = "b" then Except.error ⟨"fake load b", "boom"⟩ else Except.ok (), files)
  | .provider (.nodes _) => (Except.ok ["a", "b"], files)
  | call => ((unexportable call ()).1, files)

/-- The files of this machine, with what its tools write. -/
def filed : FileSystem (String → Option (List UInt8)) String where
  content files := files
  file := id
  written
    | .images (.save _ archive), path => path = archive
    | .provider (.exportKubeconfig _ kubeconfig), path => path = kubeconfig
    | _, _ => False

theorem keeps_filing : filed.Keeps filing where
  makes := by
    intro nameStart nameEnd path s s' h
    cases hfiles : s (nameStart ++ nameEnd) with
    | some content =>
        simp only [filing, hfiles] at h
        exact nomatch (Prod.mk.inj h).1
    | none =>
        simp only [filing, hfiles] at h
        obtain ⟨hpath, rfl⟩ := Prod.mk.inj h
        obtain rfl := Except.ok.inj hpath
        exact ⟨hfiles, by simp [filed, withContent], fun f hf => withContent_of_ne hf⟩
  makesNone := by
    intro nameStart nameEnd fault s s' h
    cases hfiles : s (nameStart ++ nameEnd) with
    | none =>
        simp only [filing, hfiles] at h
        exact nomatch (Prod.mk.inj h).1
    | some content =>
        simp only [filing, hfiles] at h
        obtain ⟨-, rfl⟩ := Prod.mk.inj h
        exact fun f => rfl
  removes := by
    intro path s s' h
    obtain ⟨-, rfl⟩ := Prod.mk.inj h
    exact ⟨withContent_self, fun f hf => withContent_of_ne hf⟩
  spares := by
    intro call answer s s' f h hmanages hwrites
    cases call with
    | provider call =>
        cases call with
        | exportKubeconfig =>
            obtain ⟨-, rfl⟩ := Prod.mk.inj h
            exact withContent_of_ne hwrites
        | _ =>
            obtain ⟨-, rfl⟩ := Prod.mk.inj h
            rfl
    | images call =>
        cases call with
        | save =>
            obtain ⟨-, rfl⟩ := Prod.mk.inj h
            exact withContent_of_ne hwrites
        | _ =>
            obtain ⟨-, rfl⟩ := Prod.mk.inj h
            rfl
    | host call =>
        cases call with
        | makeTemporary | remove | writeFile => exact nomatch hmanages
        | _ =>
            obtain ⟨-, rfl⟩ := Prod.mk.inj h
            rfl
    | hook =>
        obtain ⟨-, rfl⟩ := Prod.mk.inj h
        rfl
  leaves := by
    intro call answer s s' path h harchive hok hthere
    cases call with
    | provider call =>
        cases call with
        | load =>
            obtain ⟨-, rfl⟩ := Prod.mk.inj h
            exact hthere
        | _ => exact nomatch harchive
    | images call =>
        cases call with
        | save images archive =>
            obtain ⟨-, rfl⟩ := Prod.mk.inj h
            obtain rfl := Option.some.inj harchive
            exact congrArg Option.isSome withContent_self
        | _ => exact nomatch harchive
    | _ => exact nomatch harchive

/-- Images of which the second node takes none: the archive is gone, and the rest as it was. -/
theorem temporaries_removed_failedLoad :
    temporaries ((Cluster.preload "e2e" ["a", "b"] ["app"]).run.trace filing fun _ => none) =
        ["e2e-images-.tar"] ∧
      ((Cluster.preload "e2e" ["a", "b"] ["app"]).run.run filing fun _ => none).1 =
        .error (.imageLoad "b" ⟨"fake load b", "boom"⟩) ∧
      filed.LeavesNone filing (Cluster.preload "e2e" ["a", "b"] ["app"]) (fun _ => none) ∧
      filed.RunsTidily filing World.Call.archive?
        (Lease.start "/tmp" .empty { options := { images := ["app"] } }) fun _ => none := by
  obtain ⟨hpreload, -, -, hstart⟩ := temporaries_removed keeps_filing fun _ => none
  exact ⟨by decide +kernel, by rfl, (hpreload _ _ _).2, hstart _ _ _⟩

end TestCluster
