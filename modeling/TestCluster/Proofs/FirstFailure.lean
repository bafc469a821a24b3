import TestCluster.Cluster
import TestCluster.Proofs.Walk

/-!
# The first failure — which error a run reports, read off its trace

    In the life of a cluster every failed call stands for one error (`failure?`), and the
    stages of a run stop at the first call that fails.  A computation `Reports` if on every
    walk its error is that of the first failed call (`firstFailure`), and if without a
    failed call it has none.  This is kept by running one computation after another, so
    that each stage of `Cluster.create` needs one short lemma.
-/

namespace TestCluster

namespace World

variable {α β : Type}

/-- The error of a result, if it is one. -/
def errorOf? {ε α : Type} : Except ε α → Option ε
  | .error e => some e
  | .ok _ => none

/-- The error that a failure of the provider stands for.  `name` is the cluster on whose
    account clusters are listed. -/
def providerError (name : String) : Provider.Call → CommandError → Error
  | .create request => .backend .create request.name
  | .delete cluster _ => .backend .delete cluster
  | .list => .backend .list name
  | .exportKubeconfig cluster _ => .backend .exportKubeconfig cluster
  | .nodes cluster => .backend .listNodes cluster
  | .load _ node _ => .imageLoad node

/-- The error that a failure of the image tool stands for.  Before the cluster is up an image
    is pulled for its nodes, afterwards for what is to run on them. -/
def imageError (isUp : Bool) : ImageTool.Call → CommandError → Error
  | .exists_ image => .imagePull image
  | .pull image => if isUp then .imagePull image else .nodeImage image
  | .save .. => .imageSave

/-- The error that an answer of the machine stands for, where the life of a cluster takes it
    for a failure. -/
def hostError? : (call : Host.Call) → Host.Answer call → Option Error
  | .bind _ port, answer => (errorOf? answer).map (.portUnavailable port)
  | .makeTemporary .., answer => (errorOf? answer).map .file
  | _, _ => none

/-- The error that a call with its answer stands for, if it failed. -/
def failure? (name : String) (isUp : Bool) : (call : Call) → Answer call → Option Error
  | .provider c, answer => (errorOf? answer).map (providerError name c)
  | .images c, answer => (errorOf? answer).map (imageError isUp c)
  | .host c, answer => hostError? c answer
  | .hook hook _, answer => (errorOf? answer).map (.hook hook)

/-- The error of the first call that failed. -/
def firstFailure (name : String) (isUp : Bool) (events : List (Event calls)) : Option Error :=
  events.findSome? fun e => failure? name isUp e.call e.answer

theorem firstFailure_append (name : String) (isUp : Bool) (before after : List (Event calls)) :
    firstFailure name isUp (before ++ after)
      = (firstFailure name isUp before).or (firstFailure name isUp after) :=
  List.findSome?_append

/-! ## Computations that fail only with their first failed call -/

/-- On every walk the error is that of the first failed call, and without one there is none. -/
def Reports (name : String) (isUp : Bool) (x : Attempt calls α) : Prop :=
  ∀ events r, x.run.Walk events r → firstFailure name isUp events = errorOf? r

variable {name : String} {isUp : Bool}

theorem reports_pure (a : α) : Reports name isUp (pure a) := by
  intro events r h
  obtain ⟨rfl, rfl⟩ := Attempt.walk_pure.1 h
  rfl

theorem Reports.bind {x : Attempt calls α} {f : α → Attempt calls β}
    (hx : Reports name isUp x) (hf : ∀ a, Reports name isUp (f a)) :
    Reports name isUp (x >>= f) := by
  intro events r hw
  rcases Attempt.walk_bind.1 hw with ⟨e, h, rfl⟩ | ⟨before, a, after, rfl, h, h'⟩
  · exact hx _ _ h
  · rw [firstFailure_append, hx _ _ h, hf a _ _ h']
    rfl

theorem reports_forM {f : β → Attempt calls Unit} (h : ∀ b, Reports name isUp (f b))
    (items : List β) : Reports name isUp (items.forM f) := by
  induction items with
  | nil => exact reports_pure ()
  | cons b items ih => exact (h b).bind fun _ => ih

theorem errorOf?_mapError {ε ε' α : Type} (f : ε → ε') (r : Except ε α) :
    errorOf? (r.mapError f) = (errorOf? r).map f := by
  cases r with
  | error e => rfl
  | ok a => rfl

theorem reports_tryProvider (c : Provider.Call) :
    Reports name isUp (tryProvider c (providerError name c)) := by
  intro events r h
  obtain ⟨answer, rfl, rfl⟩ := walk_tryProvider.1 h
  rw [errorOf?_mapError]
  cases answer with
  | error cause => rfl
  | ok a => rfl

theorem reports_tryImages (c : ImageTool.Call) :
    Reports name isUp (tryImages c (imageError isUp c)) := by
  intro events r h
  obtain ⟨answer, rfl, rfl⟩ := walk_tryImages.1 h
  rw [errorOf?_mapError]
  cases answer with
  | error cause => rfl
  | ok a => rfl

theorem reports_withTemporary {work : String → Attempt calls α} (nameStart nameEnd : String)
    (h : ∀ path, Reports name isUp (work path)) :
    Reports name isUp (withTemporary nameStart nameEnd work) := by
  intro events r hw
  rcases walk_withTemporary.1 hw with ⟨fault, rfl, rfl⟩ | ⟨path, inner, rfl, hi⟩
  · rfl
  · have hr := h path inner r hi
    -- neither making nor removing the file failed, so the error is that of the work
    rw [← List.singleton_append, firstFailure_append, firstFailure_append, hr]
    show Option.or none ((errorOf? r).or none) = errorOf? r
    simp

end World

namespace Cluster

open World

variable {name : String}

theorem reports_checkHostPort (port : NodePort) : Reports name false (checkHostPort port) := by
  intro events r hw
  obtain ⟨answer, after, rfl, hbound⟩ := walk_host_bind.1 hw
  cases answer with
  | error cause =>
      obtain ⟨rfl, rfl⟩ := Attempt.walk_throw.1 hbound
      rfl
  | ok bound =>
      obtain ⟨_, hr, rfl⟩ := Attempt.walk_lift.1 hbound
      obtain rfl := walk_host.1 hr
      rfl

theorem reports_pullNodeImage (image : Option String) :
    Reports name false (pullNodeImage image) := by
  cases image with
  | none => exact reports_pure ()
  | some image => exact reports_tryImages (.pull image)

theorem reports_ensureImage (image : String) : Reports name true (ensureImage image) := by
  refine (reports_tryImages (.exists_ image)).bind ?_
  intro present
  cases present with
  | true => exact reports_pure ()
  | false => exact reports_tryImages (.pull image)

theorem reports_preload (cluster : String) (nodes images : List String) :
    Reports name true (preload cluster nodes images) := by
  rw [preload]
  split
  · exact reports_pure ()
  · refine (reports_forM reports_ensureImage images).bind fun _ => ?_
    refine reports_withTemporary _ _ ?_
    intro archive
    refine (reports_tryImages (.save images archive)).bind fun _ => ?_
    exact reports_forM (fun node => reports_tryProvider (.load cluster node archive)) nodes

theorem reports_equip (c : Cluster) (images : List String) :
    Reports c.name true (c.equip images) := by
  refine (reports_tryProvider (.exportKubeconfig c.name c.kubeconfig)).bind fun _ => ?_
  split
  · exact reports_pure ()
  · exact (reports_tryProvider (.nodes c.name)).bind fun nodes => reports_preload _ nodes images

end Cluster

end TestCluster
