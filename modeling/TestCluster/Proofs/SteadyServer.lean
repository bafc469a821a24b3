import TestCluster.Proofs.EncodedText
import TestCluster.Proofs.FamilyHistory
import TestCluster.Proofs.JsonValue
import TestCluster.Scripted.Server

/-!
# Steady servers — when what is remembered is what would be found

    A server is steady if its answers do not change.  Whatever clients remember of such a
    server was found for a kind that one of them looked up (`Known`), so a look-up from memory
    gives what discovery gives for that other kind.

    A mapping is remembered under the `apiVersion` and the name of its kind.  These leave open
    whether the group is empty: a core version with a slash in it is spelled like a group and
    its version, though the server is asked about the two at different places.  Kinds that are
    so confused `Clash`; all others with one key are found alike (`located_congr`), and a
    client that looked up no kind that clashes with a given one finds that kind as a client
    does that remembers nothing.
-/

namespace TestCluster

/-- A server whose answers do not change: each request has its answer, whenever it is sent. -/
def Api.steady (answer : Api.Request → Except OsError Api.Reply) : Handler Api.exchange Unit :=
  fun request s => (answer request, s)

/-- What a look-up of a kind gives, from a memory or else from a steady server. -/
def finds (answer : Api.Request → Except OsError Api.Reply) (m : Mappings)
    (kind : GroupVersionKind) : Except Error Mapping :=
  ((lookUp m kind).run (Api.steady answer) ()).1.1

/-- The clients after steps one after another, all of them with one steady server. -/
def Clients.after (answer : Api.Request → Except OsError Api.Reply) (c : Clients)
    (steps : List (Nat × ClientStep)) : Clients :=
  steps.foldl (fun c s => ((c.step s.1 s.2).run (Api.steady answer) ()).1.2) c

/-- Whether a step makes a mapping remembered about which no server was asked. -/
def ClientStep.isSeed : ClientStep → Bool
  | .register .. => true
  | _ => false

/-- The kinds that a step looks up: those of a manifest's objects, or a single one. -/
def ClientStep.kinds : ClientStep → List GroupVersionKind
  | .apply manifest =>
    match Manifest.parse manifest with
    | .ok objects => objects.filterMap fun o => o.types.map (·.groupVersionKind)
    | .error _ => []
  | .lookUp kind => [kind]
  | _ => []

namespace GroupVersionKind

/-- Two kinds with one key, of which only one is of the empty group. -/
def Clash (k k' : GroupVersionKind) : Prop :=
  k.mappingKey = k'.mappingKey ∧ ¬ (k.group = "" ↔ k'.group = "")

instance (k k' : GroupVersionKind) : Decidable (k.Clash k') := inferInstanceAs (Decidable (_ ∧ _))

end GroupVersionKind

/-! ## What discovery says -/

variable {answer : Api.Request → Except OsError Api.Reply}

/-- Where a steady server says that a kind is stored. -/
def located (answer : Api.Request → Except OsError Api.Reply) (kind : GroupVersionKind) :
    Except ApiFault Mapping :=
  match discoveryTarget kind with
  | .error fault => .error (.address fault)
  | .ok target => discovered kind (answer (.get target))

theorem toOption_listedMapping {k k' : GroupVersionKind} (h : k.kind = k'.kind) (s : String) :
    (listedMapping k s).toOption = (listedMapping k' s).toOption := by
  rw [listedMapping, listedMapping, h]
  cases ResourceList.ofJson? s with
  | none => rfl
  | some list =>
      dsimp only
      cases list.mapping? k'.kind <;> rfl

theorem toOption_discovered {k k' : GroupVersionKind} (h : k.kind = k'.kind)
    (reply : Except OsError Api.Reply) :
    (discovered k reply).toOption = (discovered k' reply).toOption := by
  rw [discovered, discovered]
  cases answerText reply with
  | error fault => rfl
  | ok s => exact toOption_listedMapping h s

/-- Kinds with one key that do not clash are found alike. -/
theorem located_congr {k k' : GroupVersionKind} (hkey : k.mappingKey = k'.mappingKey)
    (hclash : ¬ k.Clash k') : (located answer k).toOption = (located answer k').toOption := by
  have hgroup : k.group = "" ↔ k'.group = "" := by
    by_contra h
    exact hclash ⟨hkey, h⟩
  have hversion : k.apiVersion = k'.apiVersion := congrArg MappingKey.apiVersion hkey
  have htarget : discoveryTarget k = discoveryTarget k' := by
    rw [discoveryTarget, discoveryTarget, apiRoot, apiRoot, hversion]
    by_cases h : k.group = ""
    · rw [if_pos h, if_pos (hgroup.1 h)]
    · rw [if_neg h, if_neg (mt hgroup.2 h)]
  rw [located, located, htarget]
  cases discoveryTarget k' with
  | error fault => rfl
  | ok target => exact toOption_discovered (congrArg MappingKey.kind hkey) _

/-! ## What is remembered -/

/-- The answers of events are those of a steady server. -/
def AnsweredSteadily (answer : Api.Request → Except OsError Api.Reply)
    (events : List (Event Api.exchange)) : Prop :=
  ∀ e ∈ events, e.answer = answer e.call

theorem answeredSteadily_trace {α : Type} (p : Program Api.exchange α) :
    AnsweredSteadily answer (p.trace (Api.steady answer) ()) := by
  intro e he
  obtain ⟨_, hanswer⟩ := Program.answer_of_mem_trace he
  exact hanswer

/-- All that is remembered was found for kinds of a list. -/
def Known (answer : Api.Request → Except OsError Api.Reply) (kinds : List GroupVersionKind)
    (m : Mappings) : Prop :=
  ∀ key mapping, m.get? key = some mapping →
    ∃ kind ∈ kinds, kind.mappingKey = key ∧ located answer kind = .ok mapping

variable {kinds : List GroupVersionKind} {m m' : Mappings} {kind : GroupVersionKind}
  {events : List (Event Api.exchange)}

theorem known_empty : Known answer kinds {} := fun _ _ h => nomatch h

/-- A look-up gives what is remembered, or else what the server says. -/
theorem found_of_lookedUp {found : Except ApiFault Mapping}
    (hanswered : AnsweredSteadily answer events) (h : LookedUp m kind events found m') :
    found = (match m.get? kind.mappingKey with
      | some mapping => .ok mapping
      | none => located answer kind) := by
  cases h with
  | remembered hm => rw [hm]
  | unaddressed hm ht => rw [hm, located, ht]
  | @refused target reply fault hm ht hd =>
      obtain rfl : reply = answer (.get target) := hanswered _ List.mem_cons_self
      rw [hm, located, ht]
      exact hd.symm
  | @found target reply mapping hm ht hd =>
      obtain rfl : reply = answer (.get target) := hanswered _ List.mem_cons_self
      rw [hm, located, ht]
      exact hd.symm

theorem Known.lookedUp (hm : Known answer kinds m) (hkind : kind ∈ kinds)
    (hanswered : AnsweredSteadily answer events) {found : Except ApiFault Mapping}
    (h : LookedUp m kind events found m') : Known answer kinds m' := by
  have hfound := found_of_lookedUp hanswered h
  cases h with
  | remembered | unaddressed | refused => exact hm
  | @found target reply mapping hnone ht hd =>
      rw [hnone] at hfound
      intro key mapping' hget
      rw [Mappings.get?_insert] at hget
      split at hget
      · obtain rfl := Option.some.inj hget
        exact ⟨kind, hkind, ‹_›, hfound.symm⟩
      · exact hm key mapping' hget

/-! ## What steps leave remembered -/

/-- The kind of an object that names it is among the kinds. -/
def Listed (kinds : List GroupVersionKind) (o : Object) : Prop :=
  ∀ types ∈ o.types, types.groupVersionKind ∈ kinds

theorem Known.patched {o stored : Object} (hm : Known answer kinds m) (ho : Listed kinds o)
    (hanswered : AnsweredSteadily answer events) (h : Patched m o events stored m') :
    Known answer kinds m' := by
  cases h with
  | intro htypes hl =>
      exact hm.lookedUp (ho _ htypes) (List.forall_mem_append.1 hanswered).1 hl

theorem Known.failed {index : Nat} {o : Object} {e : Error} (hm : Known answer kinds m)
    (ho : Listed kinds o) (hanswered : AnsweredSteadily answer events)
    (h : Failed m index o events e m') : Known answer kinds m' := by
  cases h with
  | untyped => exact hm
  | unknown htypes hl => exact hm.lookedUp (ho _ htypes) hanswered hl
  | unaddressed htypes hl => exact hm.lookedUp (ho _ htypes) hanswered hl
  | refused htypes hl =>
      exact hm.lookedUp (ho _ htypes) (List.forall_mem_append.1 hanswered).1 hl

theorem Known.turns {turns : List Turn} (hm : Known answer kinds m)
    (hlisted : ∀ turn ∈ turns, Listed kinds turn.object)
    (hanswered : AnsweredSteadily answer (turns.flatMap (·.events))) (h : Turns m turns m') :
    Known answer kinds m' := by
  induction h with
  | nil => exact hm
  | cons hturn _ ih =>
      obtain ⟨ho, hothers⟩ := List.forall_mem_cons.1 hlisted
      obtain ⟨hfirst, hrest⟩ := List.forall_mem_append.1 hanswered
      exact ih (hm.patched ho hfirst hturn) hothers hrest

theorem Known.inOrder {first : Nat} {objects : List Object}
    {r : Except Error (List Object) × Mappings} (hm : Known answer kinds m)
    (hlisted : ∀ o ∈ objects, Listed kinds o) (hanswered : AnsweredSteadily answer events)
    (h : InOrder m first objects events r) : Known answer kinds r.2 := by
  cases h with
  | all turns hobjects hturns =>
      subst hobjects
      exact hm.turns (List.forall_mem_map.1 hlisted) hanswered hturns
  | stopped turns hobjects hturns hfailed =>
      subst hobjects
      obtain ⟨hbefore, hlast⟩ := List.forall_mem_append.1 hlisted
      obtain ⟨hasked, hended⟩ := List.forall_mem_append.1 hanswered
      have hturned := hm.turns (List.forall_mem_map.1 hbefore) hasked hturns
      exact hturned.failed (hlast _ List.mem_cons_self) hended hfailed

theorem Known.apply {manifest : String} (hm : Known answer kinds m)
    (hkinds : ∀ kind ∈ (ClientStep.apply manifest).kinds, kind ∈ kinds) :
    Known answer kinds ((TestCluster.apply m manifest).run (Api.steady answer) ()).1.2 := by
  have horder := apply_in_order (Api.steady answer) () m manifest
  have hanswered : AnsweredSteadily answer _ :=
    answeredSteadily_trace (TestCluster.apply m manifest)
  rw [ClientStep.kinds] at hkinds
  cases hparse : Manifest.parse manifest with
  | error e =>
      rw [hparse] at horder
      rw [horder.2]
      exact hm
  | ok objects =>
      rw [hparse] at horder hkinds
      refine hm.inOrder (fun o ho types htypes => hkinds _ ?_) hanswered horder
      exact List.mem_filterMap.2 ⟨o, ho, by rw [Option.mem_def.1 htypes]; rfl⟩

theorem Known.lookUp (hm : Known answer kinds m) (hkind : kind ∈ kinds) :
    Known answer kinds ((TestCluster.lookUp m kind).run (Api.steady answer) ()).1.2 := by
  obtain ⟨_, hl, -⟩ := lookedUp_of_walk (Program.walk_run (Api.steady answer) _ ())
  exact hm.lookedUp hkind (answeredSteadily_trace _) hl

namespace Clients

variable {c : Clients} {steps : List (Nat × ClientStep)}

/-- Every memory of the clients was found for kinds of a list. -/
def AllKnown (answer : Api.Request → Except OsError Api.Reply) (kinds : List GroupVersionKind)
    (c : Clients) : Prop :=
  ∀ m ∈ c.memories, Known answer kinds m

theorem AllKnown.memory (hc : c.AllKnown answer kinds) (client : Nat) :
    Known answer kinds (c.memory client) := by
  rw [Clients.memory, List.getD_eq_getElem?_getD]
  cases hget : c.memories[c.family client]? with
  | none => exact known_empty
  | some m => exact hc m (List.mem_of_getElem? hget)

theorem AllKnown.remember (hc : c.AllKnown answer kinds) (hm : Known answer kinds m)
    (client : Nat) : (c.remember client m).AllKnown answer kinds := by
  intro m' hm'
  rcases List.mem_or_eq_of_mem_set hm' with hm' | rfl
  · exact hc m' hm'
  · exact hm

/-- What a computation leaves known is known once it is remembered. -/
theorem AllKnown.ran {α : Type} {p : Program Api.exchange (α × Mappings)}
    (hc : c.AllKnown answer kinds) (f : α → ClientResult)
    (hm : Known answer kinds (p.run (Api.steady answer) ()).1.2) (client : Nat) :
    ((p.bind fun r => .done (f r.1, c.remember client r.2)).run
      (Api.steady answer) ()).1.2.AllKnown answer kinds := by
  rw [Program.run_bind]
  exact hc.remember hm client

/-- A step that registers nothing leaves known what was, or was asked about. -/
theorem AllKnown.step (hc : c.AllKnown answer kinds) {client : Nat} {step : ClientStep}
    (hseed : step.isSeed = false) (hkinds : ∀ kind ∈ step.kinds, kind ∈ kinds) :
    ((c.step client step).run (Api.steady answer) ()).1.2.AllKnown answer kinds := by
  cases step with
  | apply manifest =>
      exact hc.ran ClientResult.objects ((hc.memory client).apply hkinds) client
  | lookUp kind =>
      have hknown := (hc.memory client).lookUp (hkinds kind List.mem_cons_self)
      exact hc.ran ClientResult.mapping hknown client
  | register => exact nomatch hseed
  | forget => exact hc.remember known_empty client
  | copy => exact hc
  | fresh => exact List.forall_mem_append.2 ⟨hc, List.forall_mem_singleton.2 known_empty⟩

theorem AllKnown.after (hc : c.AllKnown answer kinds)
    (hseed : ∀ s ∈ steps, s.2.isSeed = false)
    (hkinds : ∀ kind ∈ steps.flatMap (·.2.kinds), kind ∈ kinds) :
    (c.after answer steps).AllKnown answer kinds := by
  induction steps generalizing c with
  | nil => exact hc
  | cons s steps ih =>
      obtain ⟨hfirst, hothers⟩ := List.forall_mem_cons.1 hseed
      obtain ⟨hkind, hmore⟩ := List.forall_mem_append.1 hkinds
      exact ih (hc.step hfirst hkind) hothers hmore

end Clients

/-! ## Looking up from memory -/

theorem toOption_finds (m : Mappings) (kind : GroupVersionKind) :
    (finds answer m kind).toOption =
      (m.get? kind.mappingKey).orElse fun _ => (located answer kind).toOption := by
  obtain ⟨found, hl, hfinds⟩ := lookedUp_of_walk (Program.walk_run (Api.steady answer) _ ())
  have hfound := found_of_lookedUp (answeredSteadily_trace _) hl
  rw [finds, hfinds, hfound]
  cases m.get? kind.mappingKey with
  | some mapping => rfl
  | none => cases located answer kind <;> rfl

/-- A kind that was found is remembered. -/
theorem get?_lookUp {m : Mappings} {kind : GroupVersionKind} {mapping : Mapping}
    (hm : m.get? kind.mappingKey = none) (h : located answer kind = .ok mapping) :
    ((lookUp m kind).run (Api.steady answer) ()).1.2.get? kind.mappingKey = some mapping := by
  obtain ⟨found, hl, -⟩ := lookedUp_of_walk (Program.walk_run (Api.steady answer) _ ())
  have hfound := found_of_lookedUp (answeredSteadily_trace _) hl
  rw [hm] at hfound
  obtain rfl := hfound.trans h
  generalize ((lookUp m kind).run (Api.steady answer) ()).1.2 = m' at hl ⊢
  generalize (lookUp m kind).trace (Api.steady answer) () = events at hl
  cases hl with
  | remembered hget => cases hm.symm.trans hget
  | found _ _ _ => rw [Mappings.get?_insert, if_pos rfl]

/-- A single look-up leaves remembered what it has left in the memory. -/
theorem Clients.memory_after_lookUp (kind : GroupVersionKind) :
    (Clients.single.after answer [(0, .lookUp kind)]).memory 0 =
      ((lookUp {} kind).run (Api.steady answer) ()).1.2 := by
  show (((lookUp {} kind).bind fun r => .done (ClientResult.mapping r.1,
    Clients.single.remember 0 r.2)).run (Api.steady answer) ()).1.2.memory 0 = _
  rw [Program.run_bind]
  rfl

/-- **THE MEMORY AGREES WITH A STEADY SERVER, CLASHES APART.**  After any steps of any clients
    that register nothing, a client finds a kind exactly if a client does that remembers
    nothing, and then the same mapping, provided that no kind was looked up that clashes with
    it.  Two kinds that are found differently have one key only if they clash. -/
theorem finds_as_fresh (answer : Api.Request → Except OsError Api.Reply)
    {steps : List (Nat × ClientStep)} (hseed : ∀ s ∈ steps, s.2.isSeed = false)
    {kind : GroupVersionKind} (hclash : ∀ k ∈ steps.flatMap (·.2.kinds), ¬ k.Clash kind)
    (client : Nat) :
    (finds answer ((Clients.single.after answer steps).memory client) kind).toOption =
        (finds answer {} kind).toOption ∧
      ∀ k k' : GroupVersionKind, (finds answer {} k).toOption ≠ (finds answer {} k').toOption →
        k.mappingKey = k'.mappingKey → k.Clash k' := by
  have hfresh : ∀ k, (finds answer {} k).toOption = (located answer k).toOption := fun k =>
    toOption_finds {} k
  constructor
  · rw [hfresh, toOption_finds]
    have hstart : Clients.single.AllKnown answer (steps.flatMap (·.2.kinds)) :=
      List.forall_mem_singleton.2 known_empty
    have hknown := hstart.after hseed fun _ hk => hk
    cases hget : ((Clients.single.after answer steps).memory client).get? kind.mappingKey with
    | none => rfl
    -- what is remembered was found for a kind of the steps, which does not clash
    | some mapping =>
        obtain ⟨k, hk, hkey, hlocated⟩ := hknown.memory client _ _ hget
        rw [← located_congr hkey (hclash k hk), hlocated]
        rfl
  · intro k k' hne hkey
    by_contra hapart
    rw [hfresh, hfresh] at hne
    exact hne (located_congr hkey hapart)

/-- A kind is found in a list that the server replies with, if the list is read and tells of it. -/
theorem discovered_document {kind : GroupVersionKind} {list : ResourceList} {mapping : Mapping}
    {v : Value} (hfloat : v.hasFloat = false)
    (hlist : ResourceList.read (Json.Place.ofValue v 0) = some list)
    (hmapping : list.mapping? kind.kind = some mapping) :
    discovered kind (.ok (Scripted.Server.document 200 v)) = .ok mapping := by
  have htext : answerText (.ok (Scripted.Server.document 200 v)) = .ok (Json.compact v) := by
    rw [answerText, Scripted.Server.document, Api.Reply.text, Text.decode?_toUTF8]
    rfl
  have hread : ResourceList.ofJson? (Json.compact v) = some list := by
    rw [ResourceList.ofJson?, Json.read, Json.ofText?_compact hfloat]
    exact hlist
  show (answerText _).bind (listedMapping kind) = _
  rw [htext]
  show listedMapping kind _ = _
  rw [listedMapping, hread]
  dsimp only
  rw [hmapping]

/-- A list of one resource, as a scripted server writes it, is read as that resource. -/
theorem read_listing (version plural kind : String) (namespaced : Bool) :
    ResourceList.read (Json.Place.ofValue (Scripted.Server.listing version [[
      ("name", .string plural), ("kind", .string kind), ("namespaced", .bool namespaced)]]) 0) =
        some ⟨version, [⟨none, none, kind, plural, namespaced⟩]⟩ := rfl

/-- A scripted server is reached by each request, and replies to it alone. -/
def Scripted.Server.answered (server : Server) (request : Api.Request) :
    Except OsError Api.Reply :=
  .ok (server.reply request)

/-- A server that knows one kind, of the group `apps`. -/
def deployments : Scripted.Server where
  groups := [("apps/v1", [[
    ("name", .string "deployments"), ("kind", .string "Deployment"), ("namespaced", .bool true)]])]
  replies := [("GET /api/apps/v1", Scripted.Server.document 404 Scripted.Server.absence)]

/-- Where that server stores its kind. -/
def deploymentMapping : Mapping :=
  ⟨⟨"apps", "v1", "apps/v1", "Deployment", "deployments"⟩, true⟩

/-- An apply, look-ups of two clients of one family, and of one that came anew. -/
def lookUps : List (Nat × ClientStep) := [
  (0, .apply "apiVersion: apps/v1\nkind: Deployment\nmetadata:\n  name: web\n"), (0, .copy),
  (1, .lookUp ⟨"apps/v1", "beta", "Deployment"⟩), (0, .fresh),
  (2, .lookUp ⟨"", "v1", "ConfigMap"⟩)]

theorem finds_deployments : (∀ s ∈ lookUps, s.2.isSeed = false) ∧
    (∀ k ∈ lookUps.flatMap (·.2.kinds), ¬ k.Clash ⟨"apps", "v1", "Deployment"⟩) ∧
    (finds deployments.answered ((Clients.single.after deployments.answered lookUps).memory 1)
        ⟨"apps", "v1", "Deployment"⟩).toOption =
      (finds deployments.answered {} ⟨"apps", "v1", "Deployment"⟩).toOption := by
  have hseed : ∀ s ∈ lookUps, s.2.isSeed = false := by decide +kernel
  have hclash : ∀ k ∈ lookUps.flatMap (·.2.kinds), ¬ k.Clash ⟨"apps", "v1", "Deployment"⟩ := by
    decide +kernel
  exact ⟨hseed, hclash, (finds_as_fresh deployments.answered hseed hclash 1).1⟩

/-- A core version is answered from what was found for the group that it is spelled like; a
    client that remembers nothing does not find it. -/
theorem finds_clashing_ne :
    (finds deployments.answered ((Clients.single.after deployments.answered
        [(0, .lookUp ⟨"apps", "v1", "Deployment"⟩)]).memory 0)
        ⟨"", "apps/v1", "Deployment"⟩).toOption =
      (finds deployments.answered {} ⟨"apps", "v1", "Deployment"⟩).toOption ∧
    (finds deployments.answered {} ⟨"apps", "v1", "Deployment"⟩).toOption.isSome = true ∧
    (finds deployments.answered {} ⟨"", "apps/v1", "Deployment"⟩).toOption = none := by
  have htarget : discoveryTarget ⟨"apps", "v1", "Deployment"⟩ = .ok ⟨"/apis/apps/v1", ""⟩ :=
    ok_of_toOption (by decide +kernel)
  have hlocated : located deployments.answered ⟨"apps", "v1", "Deployment"⟩ =
      .ok deploymentMapping := by
    rw [located, htarget]
    have hlist := read_listing "apps/v1" "deployments" "Deployment" true
    exact discovered_document rfl hlist (by decide +kernel)
  have hfresh : (finds deployments.answered {} ⟨"apps", "v1", "Deployment"⟩).toOption =
      some deploymentMapping := by
    rw [toOption_finds, hlocated]
    rfl
  have hmemory : ((Clients.single.after deployments.answered
      [(0, .lookUp ⟨"apps", "v1", "Deployment"⟩)]).memory 0).get?
        (GroupVersionKind.mappingKey ⟨"", "apps/v1", "Deployment"⟩) = some deploymentMapping := by
    rw [Clients.memory_after_lookUp]
    exact get?_lookUp rfl hlocated
  refine ⟨?_, by rw [hfresh]; rfl, by decide +kernel⟩
  rw [hfresh, toOption_finds, hmemory]
  rfl

end TestCluster
