import TestCluster.Proofs.TemporaryFiles

/-!
# Preloading — no image pulled without need, and no node forgotten

    A run that puts images into nodes goes through the images first.  Each is looked for, and
    pulled where it is missing (`Ensures`), up to the first of which that fails (`EnsuresAll`).
    Then an archive is made, saved and loaded into one node after another (`Archives`,
    `LoadsAll`), up to the first call that fails.

    Whether a pull was needed does not show in these events alone: an image that is listed
    twice is looked for twice, and it is for the tool to find it the second time.  So of what
    answers it is supposed that it keeps images (`KeepsImages`): it tells which are there, a
    pull brings one, and none goes away.
-/

namespace TestCluster

open World Program

/-! ## Images that are kept -/

/-- A handler that keeps images.  `present` says which are there in its states. -/
structure KeepsImages {σ : Type} (present : σ → String → Prop) (handle : Handler World.calls σ) :
    Prop where
  /-- A check that succeeds tells whether the image is there. -/
  tells : ∀ {image : String} {found : Bool} {s s' : σ},
    handle (.images (.exists_ image)) s = (Except.ok found, s') →
    (found = true ↔ present s' image)
  /-- A pull that succeeds brings the image. -/
  brings : ∀ {image : String} {s s' : σ},
    handle (.images (.pull image)) s = (Except.ok (), s') → present s' image
  /-- An image that is there stays. -/
  stays : ∀ {call : World.Call} {answer : World.Answer call} {s s' : σ} {image : String},
    handle call s = (answer, s') → present s image → present s' image

/-! ## What calls are about -/

/-- The image that a call pulls. -/
def World.Call.pulled? : World.Call → Option String
  | .images (.pull image) => some image
  | _ => none

/-- The images that a call saves. -/
def World.Call.saved? : World.Call → Option (List String)
  | .images (.save listed _) => some listed
  | _ => none

/-- The node into which a call loads an archive. -/
def World.Call.loaded? : World.Call → Option String
  | .provider (.load _ node _) => some node
  | _ => none

/-- What was tried, call after call.  `about` picks the calls and says what they are about. -/
def tried {α : Type} (about : World.Call → Option α) (events : List (Event World.calls)) :
    List α :=
  events.filterMap fun e => about e.call

/-- What was tried and succeeded. -/
def achieved {α : Type} (about : World.Call → Option α) (events : List (Event World.calls)) :
    List α :=
  tried about (events.filter fun e => World.succeeds e.call e.answer)

section Views

variable {α : Type} {about : World.Call → Option α} {events lead rest : List (Event World.calls)}

theorem tried_append : tried about (lead ++ rest) = tried about lead ++ tried about rest :=
  List.filterMap_append

theorem achieved_append :
    achieved about (lead ++ rest) = achieved about lead ++ achieved about rest := by
  rw [achieved, List.filter_append]
  exact tried_append

theorem tried_eq_nil_iff : tried about events = [] ↔ ∀ e ∈ events, about e.call = none :=
  List.filterMap_eq_nil_iff

theorem achieved_eq_nil (h : tried about events = []) : achieved about events = [] := by
  refine tried_eq_nil_iff.2 ?_
  intro e he
  exact tried_eq_nil_iff.1 h e (List.mem_filter.1 he).1

theorem mem_tried {a : α} : a ∈ tried about events ↔ ∃ e ∈ events, about e.call = some a :=
  List.mem_filterMap

end Views

/-- A call to the image tool, with its answer. -/
def handled (c : ImageTool.Call) (answer : Except CommandError (ImageTool.Result c)) :
    Event World.calls :=
  ⟨.images c, answer⟩

namespace Cluster

/-! ## The shape of a run -/

/-- A call that is made for the presence of an image. -/
inductive Seeks (image : String) : World.Call → Prop where
  | check : Seeks image (.images (.exists_ image))
  | pull : Seeks image (.images (.pull image))

/-- An image is made present: it is found, or else pulled; or one of the two fails. -/
inductive Ensures (image : String) : List (Event World.calls) → Except Error Unit → Prop where
  | found : Ensures image [handled (.exists_ image) (.ok true)] (.ok ())
  | pulled :
      Ensures image [handled (.exists_ image) (.ok false), handled (.pull image) (.ok ())] (.ok ())
  | unchecked {cause : CommandError} :
      Ensures image [handled (.exists_ image) (.error cause)] (.error (.imagePull image cause))
  | unpulled {cause : CommandError} :
      Ensures image [handled (.exists_ image) (.ok false), handled (.pull image) (.error cause)]
        (.error (.imagePull image cause))

/-- Images are made present one after another, up to the first of which that fails. -/
inductive EnsuresAll : List String → List (Event World.calls) → Except Error Unit → Prop where
  | done : EnsuresAll [] [] (.ok ())
  | failed {image : String} {images : List String} {events : List (Event World.calls)}
      {e : Error} :
      Ensures image events (.error e) → EnsuresAll (image :: images) events (.error e)
  | next {image : String} {images : List String} {events rest : List (Event World.calls)}
      {r : Except Error Unit} :
      Ensures image events (.ok ()) → EnsuresAll images rest r →
      EnsuresAll (image :: images) (events ++ rest) r

/-- An archive is loaded into one node after another, up to the first of which that fails. -/
inductive LoadsAll (cluster archive : String) :
    List String → List (Event World.calls) → Except Error Unit → Prop where
  | done : LoadsAll cluster archive [] [] (.ok ())
  | failed {node : String} {nodes : List String} {cause : CommandError} :
      LoadsAll cluster archive (node :: nodes) [told (.load cluster node archive) (.error cause)]
        (.error (.imageLoad node cause))
  | next {node : String} {nodes : List String} {events : List (Event World.calls)}
      {r : Except Error Unit} :
      LoadsAll cluster archive nodes events r →
      LoadsAll cluster archive (node :: nodes)
        (told (.load cluster node archive) (.ok ()) :: events) r

/-- An archive is made, images are saved into it, it is used, and it is removed. -/
def archived (images : List String) (archive : String) (uses : List (Event World.calls)) :
    List (Event World.calls) :=
  ⟨.host (.makeTemporary "e2e-images-" ".tar"), Except.ok archive⟩ ::
    handled (.save images archive) (.ok ()) :: (uses ++ [⟨.host (.remove archive), ()⟩])

/-- Images are saved into an archive, which is loaded into the nodes; or it cannot be made or
    saved. -/
inductive Archives (cluster : String) (nodes images : List String) :
    List (Event World.calls) → Except Error Unit → Prop where
  | unmade {fault : FileFault} :
      Archives cluster nodes images
        [⟨.host (.makeTemporary "e2e-images-" ".tar"), Except.error fault⟩] (.error (.file fault))
  | unsaved {archive : String} {cause : CommandError} :
      Archives cluster nodes images
        [⟨.host (.makeTemporary "e2e-images-" ".tar"), Except.ok archive⟩,
          handled (.save images archive) (.error cause), ⟨.host (.remove archive), ()⟩]
        (.error (.imageSave cause))
  | saved {archive : String} {events : List (Event World.calls)} {r : Except Error Unit} :
      LoadsAll cluster archive nodes events r →
      Archives cluster nodes images (archived images archive events) r

/-- The images are made present; and if that succeeds, they are put into the nodes. -/
inductive PutsImages (cluster : String) (nodes images : List String) :
    List (Event World.calls) → Except Error Unit → Prop where
  | missing {events : List (Event World.calls)} {e : Error} :
      EnsuresAll images events (.error e) → PutsImages cluster nodes images events (.error e)
  | ready {lead rest : List (Event World.calls)} {r : Except Error Unit} :
      EnsuresAll images lead (.ok ()) → Archives cluster nodes images rest r →
      PutsImages cluster nodes images (lead ++ rest) r

section Shapes

variable {cluster archive image : String} {nodes images : List String}
  {events : List (Event World.calls)} {r : Except Error Unit} {e : Error}

theorem ensures_of_walk (h : (ensureImage image).run.Walk events r) : Ensures image events r := by
  rcases Attempt.walk_bind.1 h with ⟨e, hfail, rfl⟩ | ⟨lead, found, rest, rfl, hok, hrest⟩
  · obtain ⟨(cause | _), rfl, ⟨⟩⟩ := walk_tryImages.1 hfail
    exact .unchecked
  · obtain ⟨(cause | _), rfl, ⟨⟩⟩ := walk_tryImages.1 hok
    cases found with
    | true =>
        obtain ⟨rfl, rfl⟩ := Attempt.walk_pure.1 hrest
        exact .found
    | false =>
        obtain ⟨(cause | _), rfl, rfl⟩ := walk_tryImages.1 hrest
        · exact .unpulled
        · exact .pulled

theorem ensuresAll_of_walk (h : (images.forM ensureImage).run.Walk events r) :
    EnsuresAll images events r := by
  induction images generalizing events with
  | nil =>
      obtain ⟨rfl, rfl⟩ := Attempt.walk_pure.1 h
      exact .done
  | cons image images ih =>
      rcases Attempt.walk_bind.1 h with ⟨e, hfail, rfl⟩ | ⟨lead, _, rest, rfl, hok, hrest⟩
      · exact .failed (ensures_of_walk hfail)
      · exact .next (ensures_of_walk hok) (ih hrest)

theorem loadsAll_of_walk (h : (nodes.forM (loadArchive cluster archive)).run.Walk events r) :
    LoadsAll cluster archive nodes events r := by
  induction nodes generalizing events with
  | nil =>
      obtain ⟨rfl, rfl⟩ := Attempt.walk_pure.1 h
      exact .done
  | cons node nodes ih =>
      rcases Attempt.walk_bind.1 h with ⟨e, hfail, rfl⟩ | ⟨lead, _, rest, rfl, hok, hrest⟩
      · obtain ⟨(cause | _), rfl, ⟨⟩⟩ := walk_tryProvider.1 hfail
        exact .failed
      · obtain ⟨(cause | _), rfl, ⟨⟩⟩ := walk_tryProvider.1 hok
        exact .next (ih hrest)

/-- Preloading goes as `PutsImages` says, unless there is no image. -/
theorem putsImages_of_walk (himages : images ≠ [])
    (h : (preload cluster nodes images).run.Walk events r) :
    PutsImages cluster nodes images events r := by
  rw [preload, if_neg (by simpa using himages)] at h
  rcases Attempt.walk_bind.1 h with ⟨e, hfail, rfl⟩ | ⟨lead, _, rest, rfl, hok, hrest⟩
  · exact .missing (ensuresAll_of_walk hfail)
  · refine .ready (ensuresAll_of_walk hok) ?_
    rcases walk_withTemporary.1 hrest with ⟨fault, rfl, rfl⟩ | ⟨archive, inner, rfl, hwork⟩
    · exact .unmade
    · rcases Attempt.walk_bind.1 hwork with
        ⟨e, hfail, rfl⟩ | ⟨first, _, loads, rfl, hsave, hloads⟩
      · obtain ⟨(cause | _), rfl, ⟨⟩⟩ := walk_tryImages.1 hfail
        exact .unsaved
      · obtain ⟨(cause | _), rfl, ⟨⟩⟩ := walk_tryImages.1 hsave
        exact .saved (loadsAll_of_walk hloads)

/-! ## What the phases try -/

theorem Ensures.seeks (h : Ensures image events r) : ∀ e ∈ events, Seeks image e.call := by
  cases h with
  | found => exact List.forall_mem_singleton.2 .check
  | pulled => exact List.forall_mem_cons.2 ⟨.check, List.forall_mem_singleton.2 .pull⟩
  | unchecked => exact List.forall_mem_singleton.2 .check
  | unpulled => exact List.forall_mem_cons.2 ⟨.check, List.forall_mem_singleton.2 .pull⟩

theorem EnsuresAll.seeks (h : EnsuresAll images events r) :
    ∀ e ∈ events, ∃ image ∈ images, Seeks image e.call := by
  induction h with
  | done => simp
  | @failed image images events e hfailed =>
      intro e he
      exact ⟨image, List.mem_cons_self, hfailed.seeks e he⟩
  | @next image images events rest r hfirst _ ih =>
      intro e he
      rcases List.mem_append.1 he with he | he
      · exact ⟨image, List.mem_cons_self, hfirst.seeks e he⟩
      · obtain ⟨other, hother, hcall⟩ := ih e he
        exact ⟨other, List.mem_cons_of_mem _ hother, hcall⟩

/-- What is pulled for the presence of an image is this image. -/
theorem Ensures.eq_of_pulled (h : Ensures image events r) {other : String}
    (hother : other ∈ tried World.Call.pulled? events) : other = image := by
  obtain ⟨e, he, hpulled⟩ := mem_tried.1 hother
  have hseeks := h.seeks e he
  generalize e.call = call at hseeks hpulled
  cases hseeks with
  | check => cases hpulled
  | pull => exact (Option.some.inj hpulled).symm

theorem EnsuresAll.pulled_listed (h : EnsuresAll images events r) :
    ∀ image ∈ tried World.Call.pulled? events, image ∈ images := by
  intro image himage
  obtain ⟨e, he, hpulled⟩ := mem_tried.1 himage
  obtain ⟨other, hother, hseeks⟩ := h.seeks e he
  generalize e.call = call at hseeks hpulled
  cases hseeks with
  | check => cases hpulled
  | pull =>
      obtain rfl := Option.some.inj hpulled
      exact hother

theorem Ensures.nodup_pulled (h : Ensures image events r) :
    (tried World.Call.pulled? events).Nodup := by
  cases h with
  | found => exact List.nodup_nil
  | pulled => exact List.pairwise_singleton _ image
  | unchecked => exact List.nodup_nil
  | unpulled => exact List.pairwise_singleton _ image

/-- While images are made present, nothing is tried but checks and pulls. -/
theorem EnsuresAll.tried_eq_nil {α : Type} {about : World.Call → Option α}
    (hcheck : ∀ image, about (.images (.exists_ image)) = none)
    (hpull : ∀ image, about (.images (.pull image)) = none)
    (h : EnsuresAll images events r) : tried about events = [] := by
  refine tried_eq_nil_iff.2 ?_
  intro e he
  obtain ⟨image, -, hseeks⟩ := h.seeks e he
  generalize e.call = call at hseeks
  cases hseeks with
  | check => exact hcheck image
  | pull => exact hpull image

/-- The image that could not be made present is the first such: all before it were. -/
theorem EnsuresAll.first_failed (h : EnsuresAll images events (.error e)) :
    ∃ done image rest lead last cause, images = done ++ image :: rest ∧ events = lead ++ last ∧
      EnsuresAll done lead (.ok ()) ∧ Ensures image last (.error (.imagePull image cause)) ∧
      e = .imagePull image cause := by
  generalize hr : Except.error e = r at h
  induction h with
  | done => cases hr
  | @failed image images events e' hfailed =>
      obtain rfl := Except.error.inj hr
      cases hfailed with
      | unchecked => exact ⟨[], image, images, [], _, _, rfl, rfl, .done, .unchecked, rfl⟩
      | unpulled => exact ⟨[], image, images, [], _, _, rfl, rfl, .done, .unpulled, rfl⟩
  | @next first images events rest r hfirst _ ih =>
      obtain ⟨done, image, others, lead, last, cause, rfl, rfl, hdone, hlast, he⟩ := ih hr
      refine ⟨first :: done, image, others, events ++ lead, last, cause, rfl, ?_,
        .next hfirst hdone, hlast, he⟩
      rw [List.append_assoc]

/-- The nodes that are tried are all of them, or those up to the first of which loading fails. -/
theorem LoadsAll.nodes_tried (h : LoadsAll cluster archive nodes events r) :
    (r = .ok () ∧ tried World.Call.loaded? events = nodes ∧
        achieved World.Call.loaded? events = nodes) ∨
      ∃ done node rest cause, r = .error (.imageLoad node cause) ∧ nodes = done ++ node :: rest ∧
        tried World.Call.loaded? events = done ++ [node] ∧
        achieved World.Call.loaded? events = done ∧
        told (.load cluster node archive) (.error cause) ∈ events := by
  induction h with
  | done => exact Or.inl ⟨rfl, rfl, rfl⟩
  | @failed node nodes cause =>
      exact Or.inr ⟨[], node, nodes, cause, rfl, rfl, rfl, rfl, List.mem_cons_self⟩
  | @next first nodes events r _ ih =>
      rcases ih with
        ⟨rfl, htried, hloaded⟩ | ⟨done, node, rest, cause, rfl, rfl, htried, hloaded, hmem⟩
      · exact Or.inl ⟨rfl, congrArg (first :: ·) htried, congrArg (first :: ·) hloaded⟩
      · exact Or.inr ⟨first :: done, node, rest, cause, rfl, rfl, congrArg (first :: ·) htried,
          congrArg (first :: ·) hloaded, List.mem_cons_of_mem _ hmem⟩

theorem LoadsAll.calls (h : LoadsAll cluster archive nodes events r) :
    ∀ e ∈ events, ∃ node, e.call = .provider (.load cluster node archive) := by
  induction h with
  | done => simp
  | @failed node nodes cause =>
      intro e he
      obtain rfl := List.mem_singleton.1 he
      exact ⟨node, rfl⟩
  | @next node nodes events r _ ih =>
      intro e he
      rcases List.mem_cons.1 he with rfl | he
      · exact ⟨node, rfl⟩
      · exact ih e he

/-- While an archive is loaded, nothing is tried but loads. -/
theorem LoadsAll.tried_eq_nil {α : Type} {about : World.Call → Option α}
    (hload : ∀ node, about (.provider (.load cluster node archive)) = none)
    (h : LoadsAll cluster archive nodes events r) : tried about events = [] := by
  refine tried_eq_nil_iff.2 ?_
  intro e he
  obtain ⟨node, hcall⟩ := h.calls e he
  rw [hcall]
  exact hload node

theorem tried_loaded_archived :
    tried World.Call.loaded? (archived images archive events) =
      tried World.Call.loaded? events := by
  show tried World.Call.loaded? (events ++ [⟨.host (.remove archive), ()⟩]) = _
  rw [tried_append]
  exact List.append_nil _

theorem achieved_loaded_archived :
    achieved World.Call.loaded? (archived images archive events) =
      achieved World.Call.loaded? events := by
  show achieved World.Call.loaded? (events ++ [⟨.host (.remove archive), ()⟩]) = _
  rw [achieved_append]
  exact List.append_nil _

theorem mem_archived_save :
    handled (.save images archive) (.ok ()) ∈ archived images archive events :=
  List.mem_cons_of_mem _ List.mem_cons_self

theorem mem_archived {e : Event World.calls} (he : e ∈ events) :
    e ∈ archived images archive events :=
  List.mem_cons_of_mem _ (List.mem_cons_of_mem _ (List.mem_append_left _ he))

theorem Archives.pulled_eq_nil (h : Archives cluster nodes images events r) :
    tried World.Call.pulled? events = [] := by
  cases h with
  | unmade => rfl
  | unsaved => rfl
  | @saved archive loads r hloads =>
      show tried World.Call.pulled? (loads ++ [⟨.host (.remove archive), ()⟩]) = []
      rw [tried_append, hloads.tried_eq_nil fun _ => rfl]
      rfl

/-- The images are saved at most once, and as they are listed. -/
theorem Archives.saved_once (h : Archives cluster nodes images events r) :
    tried World.Call.saved? events = [] ∨ tried World.Call.saved? events = [images] := by
  cases h with
  | unmade => exact Or.inl rfl
  | unsaved => exact Or.inr rfl
  | @saved archive loads r hloads =>
      refine Or.inr ?_
      show images :: tried World.Call.saved? (loads ++ [⟨.host (.remove archive), ()⟩]) = [images]
      rw [tried_append, hloads.tried_eq_nil fun _ => rfl]
      rfl

/-- Before an archive is loaded the images were saved into it. -/
theorem Archives.load_after_save (h : Archives cluster nodes images events r)
    {before after : List (Event World.calls)} {c node path : String}
    {answer : Except CommandError (Provider.Result (.load c node path))}
    (heq : events = before ++ told (.load c node path) answer :: after) :
    c = cluster ∧ handled (.save images path) (.ok ()) ∈ before := by
  have hnode : node ∈ tried World.Call.loaded? events := by
    rw [heq]
    exact mem_tried.2 ⟨_, List.mem_append_right _ List.mem_cons_self, rfl⟩
  cases h with
  | unmade => exact absurd hnode List.not_mem_nil
  | unsaved => exact absurd hnode List.not_mem_nil
  | @saved archive loads r hloads =>
      rcases List.cons_eq_append_iff.1 heq with ⟨-, ⟨⟩⟩ | ⟨made, rfl, hmade⟩
      rcases List.cons_eq_append_iff.1 hmade with ⟨-, ⟨⟩⟩ | ⟨saved, rfl, hsaved⟩
      -- the file was made and the images saved: what is left is one of the loads
      rcases split_append hsaved with ⟨last, hlead, -⟩ | ⟨last, -, hlast⟩
      · obtain ⟨other, hcall⟩ := hloads.calls (told (.load c node path) answer) (by simp [hlead])
        cases hcall
        exact ⟨rfl, List.mem_cons_of_mem _ List.mem_cons_self⟩
      · rcases List.cons_eq_append_iff.1 hlast with ⟨-, ⟨⟩⟩ | ⟨_, -, hnil⟩
        exact absurd hnil (by simp)

/-- The nodes that are tried are the first ones of all. -/
theorem Archives.tried_prefix (h : Archives cluster nodes images events r) :
    tried World.Call.loaded? events <+: nodes := by
  cases h with
  | unmade => exact List.nil_prefix
  | unsaved => exact List.nil_prefix
  | @saved archive loads r hloads =>
      rw [tried_loaded_archived]
      rcases hloads.nodes_tried with ⟨-, htried, -⟩ | ⟨done, node, rest, _, -, rfl, htried, -, -⟩
      · exact ⟨[], by rw [List.append_nil, htried]⟩
      · exact ⟨rest, by rw [htried, List.append_assoc, List.singleton_append]⟩

/-- The run succeeds if the images were saved and all nodes loaded, and only then. -/
theorem Archives.ok_iff (h : Archives cluster nodes images events r) :
    r = .ok () ↔ (∃ archive, handled (.save images archive) (.ok ()) ∈ events) ∧
      achieved World.Call.loaded? events = nodes := by
  cases h with
  | unmade =>
      constructor
      · rintro ⟨⟩
      · rintro ⟨⟨archive, hsave⟩, -⟩
        cases List.mem_singleton.1 hsave
  | unsaved =>
      constructor
      · rintro ⟨⟩
      · rintro ⟨⟨archive, hsave⟩, -⟩
        simp only [List.mem_cons, List.not_mem_nil, or_false] at hsave
        rcases hsave with hmade | hfailed | hremoved
        · cases hmade
        · cases hfailed
        · cases hremoved
  | @saved archive loads r hloads =>
      rw [achieved_loaded_archived]
      rcases hloads.nodes_tried with
        ⟨rfl, -, hloaded⟩ | ⟨done, node, rest, _, rfl, rfl, -, hloaded, -⟩
      · exact ⟨fun _ => ⟨⟨archive, mem_archived_save⟩, hloaded⟩, fun _ => rfl⟩
      -- where a load failed, its node was not loaded
      · rw [hloaded]
        constructor
        · rintro ⟨⟩
        · rintro ⟨-, hall⟩
          exact absurd (congrArg List.length hall) (by simp)

end Shapes

/-! ## What is there in the states of a run -/

section States

variable {σ : Type} {present : σ → String → Prop} {handle : Handler World.calls σ} {s s' : σ}
  {image : String} {images : List String} {events lead rest : List (Event World.calls)}
  {r : Except Error Unit}

/-- Whenever an image is pulled it is absent. -/
def PullsAbsent (present : σ → String → Prop) (handle : Handler World.calls σ) (s : σ)
    (events : List (Event World.calls)) : Prop :=
  ∀ before after image (answer : Except CommandError (ImageTool.Result (.pull image))) s₁,
    events = before ++ handled (.pull image) answer :: after → Passes handle s before s₁ →
    ¬ present s₁ image

theorem pullsAbsent_of_tried (h : tried World.Call.pulled? events = []) :
    PullsAbsent present handle s events := by
  rintro before after image answer s₁ rfl _
  cases tried_eq_nil_iff.1 h (handled (.pull image) answer) (by simp)

theorem pullsAbsent_pull {answer : Except CommandError (ImageTool.Result (.pull image))}
    (h : ¬ present s image) : PullsAbsent present handle s [handled (.pull image) answer] := by
  intro before after other answer' s₁ heq hpasses
  rcases List.cons_eq_append_iff.1 heq with ⟨rfl, hpull⟩ | ⟨more, -, hnil⟩
  · cases hpull
    obtain rfl := passes_nil.1 hpasses
    exact h
  · exact absurd hnil (by simp)

theorem PullsAbsent.append (hlead : PullsAbsent present handle s lead)
    (hrest : ∀ s₁, Passes handle s lead s₁ → PullsAbsent present handle s₁ rest) :
    PullsAbsent present handle s (lead ++ rest) := by
  intro before after image answer s₁ heq hpasses
  rcases split_append heq with ⟨more, hbefore, -⟩ | ⟨more, rfl, hmore⟩
  · exact hlead before more image answer s₁ hbefore hpasses
  · obtain ⟨s₂, hpasses₂, hpasses₁⟩ := passes_append.1 hpasses
    exact hrest s₂ hpasses₂ more after image answer s₁ hmore hpasses₁

end States

end Cluster

namespace KeepsImages

open Cluster

variable {σ : Type} {present : σ → String → Prop} {handle : Handler World.calls σ} {s s' : σ}
  {image : String} {images : List String} {events : List (Event World.calls)}
  {r : Except Error Unit}

/-- An image that is there stays, however many calls are made. -/
theorem stays_all (h : KeepsImages present handle) (hpasses : Passes handle s events s')
    (hpresent : present s image) : present s' image := by
  induction hpasses with
  | done => exact hpresent
  | next hcall _ ih => exact ih (h.stays hcall hpresent)

/-- An image that is pulled at some time was absent before. -/
theorem absent_of_tried (h : KeepsImages present handle)
    (hpulls : PullsAbsent present handle s events) (hpasses : Passes handle s events s')
    (himage : image ∈ tried World.Call.pulled? events) : ¬ present s image := by
  obtain ⟨⟨call, answer⟩, he, hcall⟩ := mem_tried.1 himage
  obtain ⟨before, after, rfl⟩ := List.append_of_mem he
  obtain ⟨s₁, hbefore, -⟩ := passes_append.1 hpasses
  cases call with
  | images c =>
      cases c with
      | pull other =>
          obtain rfl := Option.some.inj hcall
          intro hpresent
          exact hpulls before after _ answer s₁ rfl hbefore (h.stays_all hbefore hpresent)
      | _ => cases hcall
  | _ => cases hcall

/-- What is made present is there afterwards. -/
theorem ensured (h : KeepsImages present handle) (hensures : Ensures image events (.ok ()))
    (hpasses : Passes handle s events s') : present s' image := by
  cases hensures with
  | found =>
      obtain ⟨s₁, hcheck, hrest⟩ := passes_cons.1 hpasses
      obtain rfl := passes_nil.1 hrest
      exact (h.tells hcheck).1 rfl
  | pulled =>
      obtain ⟨s₁, -, hrest⟩ := passes_cons.1 hpasses
      obtain ⟨s₂, hpull, hrest⟩ := passes_cons.1 hrest
      obtain rfl := passes_nil.1 hrest
      exact h.brings hpull

/-- All that is made present is there when the last of it is. -/
theorem ensuredAll (h : KeepsImages present handle) (hensures : EnsuresAll images events (.ok ()))
    (hpasses : Passes handle s events s') : ∀ image ∈ images, present s' image := by
  generalize hr : Except.ok () = r at hensures
  induction hensures generalizing s with
  | done => simp
  | failed => cases hr
  | next hfirst _ ih =>
      obtain ⟨s₁, hlead, hrest⟩ := passes_append.1 hpasses
      have hpresent := h.stays_all hrest (h.ensured hfirst hlead)
      exact List.forall_mem_cons.2 ⟨hpresent, ih hrest hr⟩

theorem pullsAbsent_ensures (h : KeepsImages present handle) (hensures : Ensures image events r) :
    PullsAbsent present handle s events := by
  have hpull : ∀ answer, PullsAbsent present handle s
      ([handled (.exists_ image) (.ok false)] ++ [handled (.pull image) answer]) := by
    intro answer
    refine PullsAbsent.append (pullsAbsent_of_tried rfl) ?_
    intro s₁ hpasses
    refine pullsAbsent_pull ?_
    intro hpresent
    obtain ⟨s₂, hcall, hrest⟩ := passes_cons.1 hpasses
    obtain rfl := passes_nil.1 hrest
    cases (h.tells hcall).2 hpresent
  cases hensures with
  | found => exact pullsAbsent_of_tried rfl
  | pulled => exact hpull _
  | unchecked => exact pullsAbsent_of_tried rfl
  | unpulled => exact hpull _

theorem pullsAbsent_ensuresAll (h : KeepsImages present handle)
    (hensures : EnsuresAll images events r) : PullsAbsent present handle s events := by
  induction hensures generalizing s with
  | done => exact pullsAbsent_of_tried rfl
  | failed hfailed => exact h.pullsAbsent_ensures hfailed
  | next hfirst _ ih => exact (h.pullsAbsent_ensures hfirst).append fun _ _ => ih

/-- No image is pulled twice: after the first time it is there. -/
theorem nodup_pulled (h : KeepsImages present handle) (hensures : EnsuresAll images events r)
    (hpasses : Passes handle s events s') : (tried World.Call.pulled? events).Nodup := by
  induction hensures generalizing s with
  | done => exact List.nodup_nil
  | failed hfailed => exact hfailed.nodup_pulled
  | @next image images events rest r hfirst hothers ih =>
      obtain ⟨s₁, hlead, hrest⟩ := passes_append.1 hpasses
      rw [tried_append]
      refine List.nodup_append.2 ⟨hfirst.nodup_pulled, ih hrest, ?_⟩
      rintro other hother _ hagain rfl
      obtain rfl := hfirst.eq_of_pulled hother
      have hpresent := h.ensured hfirst hlead
      exact h.absent_of_tried (h.pullsAbsent_ensuresAll hothers) hrest hagain hpresent

end KeepsImages

namespace Cluster

/-! ## Preloading -/

/-- What a run has done that fails with an error.  An image could not be made present, before
    which all were; or the archive could not be made or saved; or it could not be loaded into a
    node, before which it was into all. -/
inductive PreloadFailed (cluster : String) (nodes images : List String)
    (events : List (Event World.calls)) : Error → Prop where
  | image {done rest : List String} {image : String} {lead last : List (Event World.calls)}
      {cause : CommandError} :
      images = done ++ image :: rest → events = lead ++ last → EnsuresAll done lead (.ok ()) →
      Ensures image last (.error (.imagePull image cause)) →
      tried World.Call.saved? events = [] → tried World.Call.loaded? events = [] →
      PreloadFailed cluster nodes images events (.imagePull image cause)
  | file {lead : List (Event World.calls)} {fault : FileFault} :
      EnsuresAll images lead (.ok ()) →
      events = lead ++ [⟨.host (.makeTemporary "e2e-images-" ".tar"), Except.error fault⟩] →
      tried World.Call.saved? events = [] → tried World.Call.loaded? events = [] →
      PreloadFailed cluster nodes images events (.file fault)
  | save {archive : String} {cause : CommandError} :
      handled (.save images archive) (.error cause) ∈ events →
      tried World.Call.loaded? events = [] →
      PreloadFailed cluster nodes images events (.imageSave cause)
  | load {done rest : List String} {node archive : String} {cause : CommandError} :
      nodes = done ++ node :: rest → tried World.Call.loaded? events = done ++ [node] →
      achieved World.Call.loaded? events = done →
      told (.load cluster node archive) (.error cause) ∈ events →
      PreloadFailed cluster nodes images events (.imageLoad node cause)

/-- A run from a state that puts images into nodes, and does no more for it than it must. -/
structure Preloaded {σ : Type} (present : σ → String → Prop) (handle : Handler World.calls σ)
    (cluster : String) (nodes images : List String) (s : σ) (events : List (Event World.calls))
    (r : Except Error Unit) : Prop where
  /-- No image is pulled twice. -/
  pulledOnce : (tried World.Call.pulled? events).Nodup
  /-- An image is pulled only if it is listed, and absent at that time. -/
  pulledListed : ∀ image ∈ tried World.Call.pulled? events, image ∈ images
  pulledAbsent : PullsAbsent present handle s events
  /-- The images are saved once or not at all, all of them as they are listed. -/
  savedOnce : tried World.Call.saved? events = [] ∨ tried World.Call.saved? events = [images]
  /-- When they are saved they are all there. -/
  savedPresent : ∀ before after listed archive
    (answer : Except CommandError (ImageTool.Result (.save listed archive))) s₁,
    events = before ++ handled (.save listed archive) answer :: after →
    Passes handle s before s₁ → ∀ image ∈ images, present s₁ image
  /-- What is loaded was saved before. -/
  loadedSaved : ∀ before after c node archive
    (answer : Except CommandError (Provider.Result (.load c node archive))),
    events = before ++ told (.load c node archive) answer :: after →
    c = cluster ∧ handled (.save images archive) (.ok ()) ∈ before
  /-- The nodes are gone through in their order, each place of the list once. -/
  loadedInOrder : tried World.Call.loaded? events <+: nodes
  /-- The run succeeds when every node is loaded with what was saved, and only then; where there
      is no node, when it comes to the loading at all. -/
  ok : r = .ok () ↔ (∃ archive, handled (.save images archive) (.ok ()) ∈ events) ∧
    achieved World.Call.loaded? events = nodes
  /-- The error is that of what failed first, and nothing was tried after it. -/
  error : ∀ e, r = .error e → PreloadFailed cluster nodes images events e

section Runs

variable {σ : Type} {present : σ → String → Prop} {handle : Handler World.calls σ} {s s' : σ}
  {cluster : String} {nodes images : List String} {events lead rest : List (Event World.calls)}
  {r : Except Error Unit} {e : Error}

theorem EnsuresAll.saved_eq_nil (h : EnsuresAll images events r) :
    tried World.Call.saved? events = [] :=
  h.tried_eq_nil (fun _ => rfl) fun _ => rfl

theorem EnsuresAll.loaded_eq_nil (h : EnsuresAll images events r) :
    tried World.Call.loaded? events = [] :=
  h.tried_eq_nil (fun _ => rfl) fun _ => rfl

/-- The images are there when they are saved, since they were made present before. -/
theorem PutsImages.saved_present (h : KeepsImages present handle)
    (hputs : PutsImages cluster nodes images events r) {before after : List (Event World.calls)}
    {listed : List String} {archive : String}
    {answer : Except CommandError (ImageTool.Result (.save listed archive))}
    (heq : events = before ++ handled (.save listed archive) answer :: after)
    (hpasses : Passes handle s before s') : ∀ image ∈ images, present s' image := by
  cases hputs with
  | missing hensures =>
      cases tried_eq_nil_iff.1 hensures.saved_eq_nil (handled (.save listed archive) answer)
        (by simp [heq])
  | ready hensures _ =>
      rcases split_append heq with ⟨more, rfl, -⟩ | ⟨more, rfl, -⟩
      · cases tried_eq_nil_iff.1 hensures.saved_eq_nil (handled (.save listed archive) answer)
          (by simp)
      · obtain ⟨s₁, hlead, hmore⟩ := passes_append.1 hpasses
        intro image himage
        exact h.stays_all hmore (h.ensuredAll hensures hlead image himage)

theorem PutsImages.load_after_save (hputs : PutsImages cluster nodes images events r)
    {before after : List (Event World.calls)} {c node path : String}
    {answer : Except CommandError (Provider.Result (.load c node path))}
    (heq : events = before ++ told (.load c node path) answer :: after) :
    c = cluster ∧ handled (.save images path) (.ok ()) ∈ before := by
  cases hputs with
  | missing hensures =>
      cases tried_eq_nil_iff.1 hensures.loaded_eq_nil (told (.load c node path) answer)
        (by simp [heq])
  | ready hensures harchives =>
      rcases split_append heq with ⟨more, rfl, -⟩ | ⟨more, rfl, hmore⟩
      · cases tried_eq_nil_iff.1 hensures.loaded_eq_nil (told (.load c node path) answer)
          (by simp)
      · obtain ⟨hc, hsaved⟩ := harchives.load_after_save hmore
        exact ⟨hc, List.mem_append_right _ hsaved⟩

theorem PutsImages.ok_iff (hputs : PutsImages cluster nodes images events r) :
    r = .ok () ↔ (∃ archive, handled (.save images archive) (.ok ()) ∈ events) ∧
      achieved World.Call.loaded? events = nodes := by
  cases hputs with
  | missing hensures =>
      constructor
      · rintro ⟨⟩
      · rintro ⟨⟨archive, hsave⟩, -⟩
        cases tried_eq_nil_iff.1 hensures.saved_eq_nil _ hsave
  | @ready lead rest r hensures harchives =>
      have hsave : ∀ archive, handled (.save images archive) (.ok ()) ∈ lead ++ rest ↔
          handled (.save images archive) (.ok ()) ∈ rest := by
        intro archive
        rw [List.mem_append, or_iff_right]
        intro hlead
        cases tried_eq_nil_iff.1 hensures.saved_eq_nil _ hlead
      rw [achieved_append, achieved_eq_nil hensures.loaded_eq_nil, List.nil_append,
        harchives.ok_iff]
      simp only [hsave]

theorem PutsImages.failed (hputs : PutsImages cluster nodes images events (.error e)) :
    PreloadFailed cluster nodes images events e := by
  generalize hr : Except.error e = r at hputs
  cases hputs with
  | missing hensures =>
      obtain rfl := Except.error.inj hr
      obtain ⟨done, image, rest, lead, last, cause, himages, hevents, hdone, hlast, rfl⟩ :=
        hensures.first_failed
      exact .image himages hevents hdone hlast hensures.saved_eq_nil hensures.loaded_eq_nil
  | @ready lead rest r hensures harchives =>
      have hloaded : tried World.Call.loaded? (lead ++ rest) = tried World.Call.loaded? rest := by
        rw [tried_append, hensures.loaded_eq_nil, List.nil_append]
      cases harchives with
      | unmade =>
          obtain rfl := Except.error.inj hr
          refine .file hensures rfl ?_ hloaded
          rw [tried_append, hensures.saved_eq_nil]
          rfl
      | @unsaved archive cause =>
          obtain rfl := Except.error.inj hr
          refine @PreloadFailed.save _ _ _ _ archive cause ?_ hloaded
          exact List.mem_append_right _ (List.mem_cons_of_mem _ List.mem_cons_self)
      | @saved archive loads r hloads =>
          rcases hloads.nodes_tried with ⟨rfl, -, -⟩ |
            ⟨done, node, others, cause, rfl, hnodes, htried, hdone, hmem⟩
          · cases hr
          · obtain rfl := Except.error.inj hr
            refine .load hnodes ?_ ?_ (List.mem_append_right _ (mem_archived hmem))
            · rw [hloaded, tried_loaded_archived, htried]
            · rw [achieved_append, achieved_eq_nil hensures.loaded_eq_nil, List.nil_append,
                achieved_loaded_archived, hdone]

/-- A run of this shape is as a preloading should be. -/
theorem PutsImages.preloaded (h : KeepsImages present handle)
    (hputs : PutsImages cluster nodes images events r) (hpasses : Passes handle s events s') :
    Preloaded present handle cluster nodes images s events r where
  pulledOnce := by
    cases hputs with
    | missing hensures => exact h.nodup_pulled hensures hpasses
    | ready hensures harchives =>
        obtain ⟨s₁, hlead, -⟩ := passes_append.1 hpasses
        rw [tried_append, harchives.pulled_eq_nil, List.append_nil]
        exact h.nodup_pulled hensures hlead
  pulledListed := by
    cases hputs with
    | missing hensures => exact hensures.pulled_listed
    | ready hensures harchives =>
        rw [tried_append, harchives.pulled_eq_nil, List.append_nil]
        exact hensures.pulled_listed
  pulledAbsent := by
    cases hputs with
    | missing hensures => exact h.pullsAbsent_ensuresAll hensures
    | ready hensures harchives =>
        exact (h.pullsAbsent_ensuresAll hensures).append fun _ _ =>
          pullsAbsent_of_tried harchives.pulled_eq_nil
  savedOnce := by
    cases hputs with
    | missing hensures => exact Or.inl hensures.saved_eq_nil
    | ready hensures harchives =>
        rw [tried_append, hensures.saved_eq_nil, List.nil_append]
        exact harchives.saved_once
  savedPresent := by
    intro before after listed archive answer s₁ heq hbefore
    exact hputs.saved_present h heq hbefore
  loadedSaved := by
    intro before after c node archive answer heq
    exact hputs.load_after_save heq
  loadedInOrder := by
    cases hputs with
    | missing hensures =>
        rw [hensures.loaded_eq_nil]
        exact List.nil_prefix
    | ready hensures harchives =>
        rw [tried_append, hensures.loaded_eq_nil, List.nil_append]
        exact harchives.tried_prefix
  ok := hputs.ok_iff
  error := by
    rintro e rfl
    exact hputs.failed

end Runs

/-- **PRELOADING IS COMPLETE AND MINIMAL.**  Of a tool that keeps images no image is asked that is
    there, and none twice; all of them are saved once, when all are there; and what was saved is
    loaded into one node after another.  The run succeeds exactly when it has loaded all nodes,
    and its error is that of what failed first.  Without images nothing is called. -/
theorem preload_complete {σ : Type} {present : σ → String → Prop}
    {handle : Handler World.calls σ} (h : KeepsImages present handle) (cluster : String)
    (nodes images : List String) (s : σ) :
    (images = [] → (preload cluster nodes images).run.trace handle s = [] ∧
      ((preload cluster nodes images).run.run handle s).1 = .ok ()) ∧
    (images ≠ [] → Preloaded present handle cluster nodes images s
      ((preload cluster nodes images).run.trace handle s)
      ((preload cluster nodes images).run.run handle s).1) := by
  constructor
  · rintro rfl
    exact ⟨rfl, rfl⟩
  · intro himages
    have hputs : PutsImages cluster nodes images _ _ :=
      putsImages_of_walk himages (Program.walk_run handle (preload cluster nodes images).run s)
    exact hputs.preloaded h (Program.passes_run handle _ s)

/-- A machine with a stock of images, to which a pull adds.  No archive can be loaded into its
    node `b`; what it does not stock is as in a world in which nothing else fails. -/
def stocking : Handler World.calls (List String) := fun call stock =>
  match call with
  | .images (.exists_ image) => (Except.ok (stock.contains image), stock)
  | .images (.pull image) => (Except.ok (), image :: stock)
  | .provider (.load _ node _) =>
    (if node = "b" then Except.error ⟨"fake load b", "boom"⟩ else Except.ok (), stock)
  | call => ((unexportable call ()).1, stock)

theorem keepsImages_stocking : KeepsImages (fun stock image => image ∈ stock) stocking where
  tells := by
    intro image found stock stock' hcall
    obtain ⟨hfound, rfl⟩ := Prod.mk.inj hcall
    obtain rfl := Except.ok.inj hfound
    exact List.contains_iff_mem
  brings := by
    intro image stock stock' hcall
    obtain ⟨-, rfl⟩ := Prod.mk.inj hcall
    exact List.mem_cons_self
  stays := by
    intro call answer stock stock' image hcall himage
    cases call with
    | images c =>
        cases c with
        | pull other =>
            obtain ⟨-, rfl⟩ := Prod.mk.inj hcall
            exact List.mem_cons_of_mem _ himage
        | _ =>
            obtain ⟨-, rfl⟩ := Prod.mk.inj hcall
            exact himage
    | provider c =>
        cases c with
        | _ =>
            obtain ⟨-, rfl⟩ := Prod.mk.inj hcall
            exact himage
    | _ =>
        obtain ⟨-, rfl⟩ := Prod.mk.inj hcall
        exact himage

/-- An image that is listed twice is pulled once, and the second of three nodes takes none. -/
theorem preload_complete_listedTwice :
    Preloaded (fun stock image => image ∈ stock) stocking "e2e" ["a", "b", "c"]
        ["app", "app", "db"] ["db"]
        ((preload "e2e" ["a", "b", "c"] ["app", "app", "db"]).run.trace stocking ["db"])
        ((preload "e2e" ["a", "b", "c"] ["app", "app", "db"]).run.run stocking ["db"]).1 ∧
      tried World.Call.pulled?
          ((preload "e2e" ["a", "b", "c"] ["app", "app", "db"]).run.trace stocking ["db"]) =
        ["app"] ∧
      tried World.Call.loaded?
          ((preload "e2e" ["a", "b", "c"] ["app", "app", "db"]).run.trace stocking ["db"]) =
        ["a", "b"] := by
  obtain ⟨-, hrun⟩ := preload_complete keepsImages_stocking "e2e" ["a", "b", "c"]
    ["app", "app", "db"] ["db"]
  exact ⟨hrun (by decide), by decide +kernel, by decide +kernel⟩

end Cluster

end TestCluster
