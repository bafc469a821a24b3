import TestCluster.Proofs.EchoedApply
import TestCluster.Proofs.PublishedIngress

/-!
# Namespaces — where each object of an apply is put

    Whether the objects of a kind are divided by namespaces is told by the kind's mapping, and
    which namespace an object is in by the object.  Every patch of an apply is that of one
    object, sent with the mapping that was looked up for it at that moment (`Dispatched`).  The
    path and the body of the patch then agree on the namespace (`PutInto`), or the object stays
    outside of all (`PutOutside`).

    An object that names no namespace is put into `default`.  But the empty text is taken for a
    namespace that is named, and an object of this namespace is put nowhere: its path has an
    empty segment.
-/

namespace TestCluster

/-! ## Where a patch goes -/

namespace Object

/-- The namespace that an object names; the empty text names none. -/
def ownNamespace? (o : Object) : Option String := o.metadata.namespace_.filter (· ≠ "")

/-- The object with its namespace set. -/
def within (o : Object) (ns : String) : Object :=
  { o with metadata := { o.metadata with namespace_ := some ns } }

end Object

/-- The namespace that the body of a patch names. -/
def Value.namespace? (body : Value) : Option Value :=
  (body.member? "metadata").bind (·.member? "namespace")

/-- A path in which nothing ends the path of an address. -/
def IsPlainPath (path : String) : Prop := '?' ∉ path.toList ∧ '#' ∉ path.toList

/-- A patch that puts an object into a namespace: its path leads there, and its body is the object
    and names the namespace. -/
structure PutInto (ns : String) (o : Object) (r : Resource) (target : Api.Target)
    (document : String) : Prop where
  path : IsPlainPath (apiRoot r.group r.apiVersion ++ "/namespaces/" ++ ns ++ "/" ++ r.plural ++
      "/" ++ o.name) →
    target.path = apiRoot r.group r.apiVersion ++ "/namespaces/" ++ ns ++ "/" ++ r.plural ++ "/" ++
      o.name
  body : document = Json.compact (o.within ns).toValue
  named : (o.within ns).toValue.namespace? = some (.string ns)

/-- A patch that puts an object into no namespace: its path names none, and its body is the object
    as it is. -/
structure PutOutside (o : Object) (r : Resource) (target : Api.Target) (document : String) :
    Prop where
  path : IsPlainPath (apiRoot r.group r.apiVersion ++ "/" ++ r.plural ++ "/" ++ o.name) →
    target.path = apiRoot r.group r.apiVersion ++ "/" ++ r.plural ++ "/" ++ o.name
  body : document = Json.compact o.toValue
  named : o.toValue.namespace? = o.metadata.namespace_.map .string

/-- The path of a group and version. -/
theorem apiRoot_text (group version : String) :
    apiRoot group (GroupVersion.text ⟨group, version⟩) =
      if group = "" then "/api/" ++ version else "/apis/" ++ group ++ "/" ++ version := by
  rw [apiRoot, GroupVersion.text]
  by_cases hgroup : group = ""
  · rw [if_pos hgroup, if_pos hgroup, if_pos hgroup]
  · rw [if_neg hgroup, if_neg hgroup, if_neg hgroup]
    simp only [String.append_assoc]

theorem Api.Target.path_ofText {address : String} {target : Api.Target}
    (h : Api.Target.ofText address = .ok target) :
    target.path =
      String.ofList ((address.toList.takeWhile (· != '#')).takeWhile (· != '?')) := by
  rw [ofText] at h
  split at h
  · cases h
  · cases hchars : ofChars? address.toList with
    | none =>
        rw [hchars] at h
        cases h
    | some found =>
        rw [hchars] at h
        obtain rfl := Except.ok.inj h
        rw [ofChars?] at hchars
        split at hchars
        · exact (congrArg Target.path (Option.some.inj hchars)).symm
        · cases hchars

/-- The address of an object has the path of the object, if this is plain. -/
theorem path_of_plain {path : String} {target : Api.Target} (hplain : IsPlainPath path)
    (h : Api.Target.ofText (path ++ "?&force=true&fieldManager=" ++ fieldManager) = .ok target) :
    target.path = path := by
  obtain ⟨hquestion, hnumber⟩ := hplain
  have hchars : (path ++ "?&force=true&fieldManager=" ++ fieldManager).toList =
      path.toList ++ "?&force=true&fieldManager=e2e-cluster".toList := by
    rw [String.toList_append, String.toList_append, List.append_assoc]
    rfl
  have hneither : ∀ c ∈ path.toList, (c != '#') = true ∧ (c != '?') = true := by
    intro c hc
    exact ⟨bne_iff_ne.2 (ne_of_mem_of_not_mem hc hnumber),
      bne_iff_ne.2 (ne_of_mem_of_not_mem hc hquestion)⟩
  rw [Api.Target.path_ofText h, hchars,
    List.takeWhile_append_of_pos fun c hc => (hneither c hc).1,
    List.takeWhile_append_of_pos fun c hc => (hneither c hc).2]
  exact (congrArg String.ofList (List.append_nil _)).trans String.ofList_toList

/-! ## The namespace of a body -/

section Lookups

variable {key other : String} {v : Option Value} {fields : List (String × Option Value)}

theorem lookup_presentMembers_of_ne (h : key ≠ other) :
    (presentMembers ((other, v) :: fields)).lookup key = (presentMembers fields).lookup key := by
  cases v with
  | none => rfl
  | some v =>
      show List.lookup key ((other, v) :: presentMembers fields) = _
      rw [List.lookup_cons, beq_false_of_ne h]

theorem lookup_presentMembers_self :
    (presentMembers ((key, v) :: fields)).lookup key =
      v.or ((presentMembers fields).lookup key) := by
  cases v with
  | none => rfl
  | some v =>
      show List.lookup key ((key, v) :: presentMembers fields) = _
      rw [List.lookup_cons, beq_self_eq_true]
      rfl

end Lookups

theorem Metadata.lookup_namespace (d : Metadata) :
    (presentMembers d.members).lookup "namespace" = d.namespace_.map .string := by
  simp (disch := decide) only [Metadata.members, lookup_presentMembers_of_ne,
    lookup_presentMembers_self]
  exact Option.or_none

/-- What is written of an object names the namespace of the object. -/
theorem namespace?_toValue (o : Object) :
    o.toValue.namespace? = o.metadata.namespace_.map .string := by
  have hmetadata : o.toValue.member? "metadata" = some o.metadata.toValue := by
    obtain ⟨types, metadata, content⟩ := o
    cases types <;> rfl
  rw [Value.namespace?, hmetadata]
  exact o.metadata.lookup_namespace

/-! ## The patch of an object -/

/-- The patch of an object, with the mapping that was looked up for it. -/
inductive Dispatched (m : Mappings) (o : Object) (asked : List (Event Api.exchange))
    (mapping : Mapping) (target : Api.Target) (document : String) : Prop where
  | intro {types : Types} {m' : Mappings} :
      o.types = some types → LookedUp m types.groupVersionKind asked (.ok mapping) m' →
      patchTarget o mapping = .ok target → document = Json.compact (o.placed mapping).toValue →
      Dispatched m o asked mapping target document

section Runs

variable {m m' : Mappings} {o stored : Object} {mapping : Mapping} {target : Api.Target}
  {document : String} {answer : Except OsError Api.Reply}
  {events asked before after : List (Event Api.exchange)}

/-- A look-up sends no patch. -/
theorem LookedUp.gets {kind : GroupVersionKind} {found : Except ApiFault Mapping}
    (h : LookedUp m kind events found m') : ∀ e ∈ events, ∃ target, e.call = .get target := by
  cases h with
  | remembered => simp
  | unaddressed => simp
  | @refused target => exact List.forall_mem_singleton.2 ⟨target, rfl⟩
  | @found target => exact List.forall_mem_singleton.2 ⟨target, rfl⟩

theorem LookedUp.not_patched {kind : GroupVersionKind} {found : Except ApiFault Mapping}
    (h : LookedUp m kind events found m') :
    (⟨.patch target document, answer⟩ : Event Api.exchange) ∉ events := by
  intro hmem
  obtain ⟨_, hcall⟩ := h.gets _ hmem
  cases hcall

/-- The only patch of a turn comes last, after all that was asked about the kind. -/
theorem LookedUp.patched_last {kind : GroupVersionKind} {found : Except ApiFault Mapping}
    {target' : Api.Target} {document' : String} {answer' : Except OsError Api.Reply}
    (h : LookedUp m kind asked found m')
    (heq : asked ++ [⟨.patch target' document', answer'⟩] =
      before ++ ⟨.patch target document, answer⟩ :: after) :
    before = asked ∧ target' = target ∧ document' = document := by
  rcases split_append heq with ⟨more, rfl, -⟩ | ⟨more, rfl, hlast⟩
  · exact absurd (List.mem_append_right _ List.mem_cons_self) h.not_patched
  · rcases List.cons_eq_append_iff.1 hlast with ⟨rfl, hpatch⟩ | ⟨_, -, hnil⟩
    · cases hpatch
      exact ⟨List.append_nil _, rfl, rfl⟩
    · exact absurd hnil (by simp)

theorem Patched.sent (h : Patched m o events stored m')
    (heq : events = before ++ ⟨.patch target document, answer⟩ :: after) :
    ∃ mapping, Dispatched m o before mapping target document := by
  cases h with
  | intro htypes hfound htarget _ =>
      obtain ⟨rfl, rfl, rfl⟩ := hfound.patched_last heq
      exact ⟨_, .intro htypes hfound htarget rfl⟩

theorem Failed.sent {index : Nat} {e : Error} (h : Failed m index o events e m')
    (heq : events = before ++ ⟨.patch target document, answer⟩ :: after) :
    ∃ mapping, Dispatched m o before mapping target document := by
  have hmem : (⟨.patch target document, answer⟩ : Event Api.exchange) ∈ events := by simp [heq]
  cases h with
  | untyped => cases hmem
  | unknown _ hfound => exact absurd hmem hfound.not_patched
  | unaddressed _ hfound _ => exact absurd hmem hfound.not_patched
  | refused htypes hfound htarget _ =>
      obtain ⟨rfl, rfl, rfl⟩ := hfound.patched_last heq
      exact ⟨_, .intro htypes hfound htarget rfl⟩

/-- A patch among the turns of objects is that of one of them, after the turns before. -/
theorem Turns.sent {turns : List Turn} (h : Turns m turns m')
    (heq : turns.flatMap (·.events) = before ++ ⟨.patch target document, answer⟩ :: after) :
    ∃ done turn rest m₁ asked mapping, turns = done ++ turn :: rest ∧ Turns m done m₁ ∧
      before = done.flatMap (·.events) ++ asked ∧
      Dispatched m₁ turn.object asked mapping target document := by
  induction h generalizing before with
  | nil => exact absurd heq (by simp)
  | @cons m m₁ m₂ turn turns hpatched _ ih =>
      rcases split_append heq with ⟨more, hmore, -⟩ | ⟨more, rfl, hmore⟩
      · obtain ⟨mapping, hsent⟩ := hpatched.sent hmore
        exact ⟨[], turn, turns, m, before, mapping, rfl, .nil, rfl, hsent⟩
      · obtain ⟨done, last, rest, m₃, asked, mapping, rfl, hdone, rfl, hsent⟩ := ih hmore
        refine ⟨turn :: done, last, rest, m₃, asked, mapping, rfl, .cons hpatched hdone, ?_, hsent⟩
        rw [List.flatMap_cons, List.append_assoc]

/-- A patch of a run is that of one of the objects, after the turns of those before it. -/
theorem InOrder.sent {first : Nat} {objects : List Object}
    {r : Except Error (List Object) × Mappings} (h : InOrder m first objects events r)
    (heq : events = before ++ ⟨.patch target document, answer⟩ :: after) :
    ∃ done o rest m₁ asked mapping, objects = done.map (·.object) ++ o :: rest ∧
      Turns m done m₁ ∧ before = done.flatMap (·.events) ++ asked ∧
      Dispatched m₁ o asked mapping target document := by
  cases h with
  | all turns hobjects hturns =>
      obtain ⟨done, turn, rest, m₁, asked, mapping, rfl, hdone, hbefore, hsent⟩ := hturns.sent heq
      refine ⟨done, turn.object, rest.map (·.object), m₁, asked, mapping, ?_, hdone, hbefore, hsent⟩
      rw [hobjects, List.map_append, List.map_cons]
  | @stopped turns o rest last e m₁ m₂ hobjects hturns hfailed =>
      rcases split_append heq with ⟨more, hmore, -⟩ | ⟨more, rfl, hmore⟩
      · obtain ⟨done, turn, others, m₃, asked, mapping, rfl, hdone, hbefore, hsent⟩ :=
          hturns.sent hmore
        refine ⟨done, turn.object, others.map (·.object) ++ o :: rest, m₃, asked, mapping, ?_,
          hdone, hbefore, hsent⟩
        rw [hobjects, List.map_append, List.map_cons, List.append_assoc, List.cons_append]
      · obtain ⟨mapping, hsent⟩ := hfailed.sent hmore
        exact ⟨turns, o, rest, m₁, more, mapping, hobjects, hturns, rfl, hsent⟩

theorem Object.address_within (ns : String) (hdivided : mapping.namespaced = true) :
    (o.within ns).address mapping =
      apiRoot mapping.resource.group mapping.resource.apiVersion ++ "/namespaces/" ++ ns ++ "/" ++
        mapping.resource.plural ++ "/" ++ o.name ++ "?&force=true&fieldManager=" ++
        fieldManager := by
  have hsegment : "/namespaces/" = "/" ++ "namespaces/" := by decide
  rw [address, if_pos hdivided, hsegment]
  show apiRoot _ _ ++ "/" ++ ("namespaces/" ++ ns ++ "/") ++ _ ++ "/" ++ o.name ++ _ ++ _ = _
  simp only [String.append_assoc]

theorem Object.address_undivided (hundivided : mapping.namespaced = false) :
    o.address mapping =
      apiRoot mapping.resource.group mapping.resource.apiVersion ++ "/" ++
        mapping.resource.plural ++ "/" ++ o.name ++ "?&force=true&fieldManager=" ++
        fieldManager := by
  rw [address, hundivided]
  show apiRoot _ _ ++ "/" ++ "" ++ mapping.resource.plural ++ "/" ++ o.name ++ _ ++ _ = _
  rw [String.append_empty]

/-- An object of a kind that is divided is put into the namespace that it names, or else into
    `default`. -/
theorem Dispatched.putInto (h : Dispatched m o asked mapping target document)
    (hdivided : mapping.namespaced = true) :
    PutInto (o.metadata.namespace_.getD "default") o mapping.resource target document := by
  obtain ⟨-, -, htarget, rfl⟩ := h
  have hplaced : o.placed mapping = o.within (o.metadata.namespace_.getD "default") := by
    rw [Object.placed, if_pos hdivided]
    rfl
  refine ⟨?_, ?_, namespace?_toValue _⟩
  · intro hplain
    refine path_of_plain hplain ?_
    rw [patchTarget, hplaced, o.address_within _ hdivided] at htarget
    exact htarget
  · rw [hplaced]

theorem Dispatched.putOutside (h : Dispatched m o asked mapping target document)
    (hundivided : mapping.namespaced = false) :
    PutOutside o mapping.resource target document := by
  obtain ⟨-, -, htarget, rfl⟩ := h
  have hplaced : o.placed mapping = o := by
    rw [Object.placed, hundivided]
    rfl
  refine ⟨?_, ?_, namespace?_toValue _⟩
  · intro hplain
    refine path_of_plain hplain ?_
    rw [patchTarget, hplaced, o.address_undivided hundivided] at htarget
    exact htarget
  · rw [hplaced]

/-- A patch that is right for an object and its mapping. -/
structure Housed (o : Object) (mapping : Mapping) (target : Api.Target) (document : String) :
    Prop where
  /-- Where the kind is divided the object is put into the namespace that it names, or into
      `default`. -/
  divided : mapping.namespaced = true → o.metadata.namespace_ ≠ some "" →
    o.ownNamespace?.getD "default" ≠ "" ∧
      PutInto (o.ownNamespace?.getD "default") o mapping.resource target document
  /-- The empty text is taken for a namespace. -/
  emptyNamed : mapping.namespaced = true → o.metadata.namespace_ = some "" →
    PutInto "" o mapping.resource target document
  undivided : mapping.namespaced = false → PutOutside o mapping.resource target document
  /-- The path begins with group and version, where the resource is of these. -/
  root : mapping.resource.apiVersion =
      GroupVersion.text ⟨mapping.resource.group, mapping.resource.version⟩ →
    apiRoot mapping.resource.group mapping.resource.apiVersion =
      if mapping.resource.group = "" then "/api/" ++ mapping.resource.version
      else "/apis/" ++ mapping.resource.group ++ "/" ++ mapping.resource.version

theorem Dispatched.housed (h : Dispatched m o asked mapping target document) :
    Housed o mapping target document where
  divided := by
    intro hdivided hnamed
    have hput := h.putInto hdivided
    have hown : o.ownNamespace? = o.metadata.namespace_ := by
      rw [Object.ownNamespace?]
      cases hnamespace : o.metadata.namespace_ with
      | none => rfl
      | some ns =>
          rw [hnamespace] at hnamed
          exact Option.filter_eq_some_iff.2 ⟨rfl, by simpa using hnamed⟩
    rw [hown]
    refine ⟨?_, hput⟩
    cases hnamespace : o.metadata.namespace_ with
    | none => decide
    | some ns =>
        rw [hnamespace] at hnamed
        simpa using hnamed
  emptyNamed := by
    intro hdivided hnamed
    have hput := h.putInto hdivided
    rw [hnamed] at hput
    exact hput
  undivided := h.putOutside
  root := by
    intro htext
    rw [htext]
    exact apiRoot_text _ _

end Runs

/-! ## Applying -/

/-- **EVERY OBJECT IN ITS NAMESPACE.**  Whatever is remembered and whatever the server answers:
    each patch of an apply is that of one object, after the turns of those before it and with
    the mapping that was found for its kind; and it puts the object where this mapping and the
    object say. -/
theorem apply_houses {σ : Type} (handle : Handler Api.exchange σ) (s : σ) (m : Mappings)
    {manifest : String} {before after : List (Event Api.exchange)} {target : Api.Target}
    {document : String} {answer : Except OsError Api.Reply}
    (h : (apply m manifest).trace handle s =
      before ++ ⟨.patch target document, answer⟩ :: after) :
    ∃ objects done o rest m₁ asked mapping, Manifest.parse manifest = .ok objects ∧
      objects = done.map (·.object) ++ o :: rest ∧ Turns m done m₁ ∧
      before = done.flatMap (·.events) ++ asked ∧
      Dispatched m₁ o asked mapping target document ∧ Housed o mapping target document := by
  cases hparse : Manifest.parse manifest with
  | error e =>
      rw [apply, hparse] at h
      exact absurd h (by simp)
  | ok objects =>
      obtain ⟨done, o, rest, m₁, asked, mapping, hobjects, hdone, hbefore, hsent⟩ :=
        (inOrder_of_parse hparse s).sent h
      exact ⟨objects, done, o, rest, m₁, asked, mapping, rfl, hobjects, hdone, hbefore, hsent,
        hsent.housed⟩

/-- The patches among events: where each goes, and what it sends. -/
def patches (events : List (Event Api.exchange)) : List (Api.Target × String) :=
  events.filterMap fun e =>
    match e.call with
    | .patch target document => some (target, document)
    | .get _ => none

theorem mem_patches {events : List (Event Api.exchange)} {target : Api.Target} {document : String}
    (h : (target, document) ∈ patches events) :
    ∃ before answer after, events = before ++ ⟨.patch target document, answer⟩ :: after := by
  obtain ⟨⟨call, answer⟩, he, hcall⟩ := List.mem_filterMap.1 h
  cases call with
  | get => cases hcall
  | patch target' document' =>
      cases hcall
      obtain ⟨before, after, hevents⟩ := List.append_of_mem he
      exact ⟨before, answer, after, hevents⟩

/-- What is known of two kinds, of which one is divided by namespaces. -/
def bothScopes : Mappings := ⟨[(⟨"v1", "ConfigMap"⟩, configMapMapping),
  (⟨"v1", "Namespace"⟩, ⟨⟨"", "v1", "v1", "Namespace", "namespaces"⟩, false⟩)]⟩

/-- A server that takes what it is sent, and says nothing of it. -/
def silent : Handler Api.exchange Unit := fun _ s =>
  (.ok ⟨200, "\x7b\"metadata\":\x7b\x7d\x7d".toUTF8.toList⟩, s)

/-- A map that names no namespace, and a namespace. -/
def mixedScopes : String :=
  "apiVersion: v1\nkind: ConfigMap\nmetadata:\n  name: a\n  namespace: null\n" ++
  "---\napiVersion: v1\nkind: Namespace\nmetadata:\n  name: dev\n"

theorem apply_houses_mixedScopes :
    (patches ((apply bothScopes mixedScopes).trace silent ())).map (·.1.path) =
        ["/api/v1/namespaces/default/configmaps/a", "/api/v1/namespaces/dev"] ∧
      ∀ patch ∈ patches ((apply bothScopes mixedScopes).trace silent ()),
        ∃ o mapping, Housed o mapping patch.1 patch.2 := by
  constructor
  · obtain ⟨objects, hparse, hpaths⟩ := Manifest.parse_of_any (s := mixedScopes)
      (p := fun objects => (patches ((applyObjects bothScopes 0 objects).trace silent ())).map
        (·.1.path) = ["/api/v1/namespaces/default/configmaps/a", "/api/v1/namespaces/dev"])
      String.toList_append (by decide +kernel)
    rw [apply, hparse]
    exact of_decide_eq_true hpaths
  · rintro ⟨target, document⟩ hpatch
    obtain ⟨before, answer, after, htrace⟩ := mem_patches hpatch
    obtain ⟨_, _, o, _, _, _, mapping, -, -, -, -, -, hhoused⟩ :=
      apply_houses silent () bothScopes htrace
    exact ⟨o, mapping, hhoused⟩

/-- A map whose namespace is the empty text. -/
def emptyNamespace : String :=
  "apiVersion: v1\nkind: ConfigMap\nmetadata:\n  name: a\n  namespace: \"\"\n"

/-- An object whose namespace is the empty text is put into no namespace, though its kind is
    divided. -/
theorem not_putInto_emptyNamespace : ∃ o target document,
    Manifest.parse emptyNamespace = .ok [o] ∧ o.ownNamespace? = none ∧
      Dispatched bothScopes o [] configMapMapping target document ∧
      patches ((apply bothScopes emptyNamespace).trace silent ()) = [(target, document)] ∧
      target.path = "/api/v1/namespaces//configmaps/a" ∧
      ¬ PutInto "default" o configMapMapping.resource target document := by
  have hchecked : (Manifest.parse emptyNamespace).toOption.any (fun objects =>
      objects.length = 1 && objects.all fun o => o.types = some ⟨"v1", "ConfigMap"⟩ &&
        o.metadata.namespace_ = some "" && o.name = "a" &&
        (patchTarget o configMapMapping).toOption.any fun target =>
          target.path = "/api/v1/namespaces//configmaps/a" &&
          patches ((apply bothScopes emptyNamespace).trace silent ()) =
            [(target, Json.compact (o.placed configMapMapping).toValue)]) = true := by
    decide +kernel
  obtain ⟨objects, hparse, hobjects⟩ := ok_of_any hchecked
  obtain ⟨hlength, hall⟩ := Bool.and_eq_true_iff.1 hobjects
  obtain ⟨o, rfl⟩ := List.length_eq_one_iff.1 (of_decide_eq_true hlength)
  have ho := List.all_eq_true.1 hall o List.mem_cons_self
  simp only [Bool.and_eq_true, decide_eq_true_eq] at ho
  obtain ⟨⟨⟨htypes, hnamespace⟩, hname⟩, hsent⟩ := ho
  obtain ⟨target, htarget, hpatch⟩ := ok_of_any hsent
  simp only [Bool.and_eq_true, decide_eq_true_eq] at hpatch
  obtain ⟨hpath, hpatches⟩ := hpatch
  refine ⟨o, target, _, hparse, ?_, .intro htypes (.remembered rfl) htarget rfl, hpatches, hpath,
    ?_⟩
  · rw [Object.ownNamespace?, hnamespace]
    rfl
  · intro hput
    have hdefault := hput.path (by rw [hname]; exact ⟨by decide +kernel, by decide +kernel⟩)
    rw [hpath, hname] at hdefault
    revert hdefault
    decide +kernel

end TestCluster
