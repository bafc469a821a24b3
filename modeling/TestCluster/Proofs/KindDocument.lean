import TestCluster.Kind.Document
import TestCluster.Proofs.BlockNodes
import TestCluster.Proofs.YamlNodes

/-!
# The kind document as a value — what its text says

    The text that describes a cluster is put together from pieces, and only their indentation
    says what belongs to what: the port mappings to the first node, the patch to the cluster.
    Read as the YAML that it is, the text holds a value in which each part stands where it
    belongs (`documentValue`), for any number of ports and of workers.  The value in turn tells
    the options that it was made from, so no two of them share a text (`read_render`).
-/

namespace TestCluster.ClusterConfig

open Yaml Yaml.Spot

/-! ## The value -/

/-- A port mapping of the control plane node. -/
def mappingValue (p : NodePort) : Value :=
  .object [("containerPort", .int p.node.toNat), ("hostPort", .int p.host.toNat),
    ("listenAddress", .string "0.0.0.0"), ("protocol", .string "tcp")]

/-- The control plane node, which has port mappings if there are ports. -/
def controlPlaneValue (ports : List NodePort) : Value :=
  .object (("role", .string "control-plane") ::
    if ports.isEmpty then [] else [("extraPortMappings", .array (ports.map mappingValue))])

/-- A worker node. -/
def workerValue : Value := .object [("role", .string "worker")]

/-- The patch that moves etcd's data. -/
def etcdPatchText : String :=
  "kind: ClusterConfiguration\netcd:\n  local:\n    dataDir: /tmp/etcd\n"

/-- What the document of a cluster says. -/
def documentValue (options : Options) : Value :=
  .object ([("kind", .string "Cluster"), ("apiVersion", .string "kind.x-k8s.io/v1alpha4"),
    ("nodes", .array (controlPlaneValue options.nodePorts ::
      List.replicate options.workers.toNat workerValue))] ++
    if options.etcdRamDisk then
      [("kubeadmConfigPatches", .array [.string etcdPatchText])] else [])

/-! ## The tokens -/

/-- The tokens of a member of a mapping. -/
def memberTokens (key : String) (ts : List Token) : List Token :=
  .key :: .scalar .plain key.toList :: .value :: ts

/-- The tokens of a mapping. -/
def mappingTokens (members : List Token) : List Token :=
  .blockMappingStart :: (members ++ [.blockEnd])

/-- The token of a plain text. -/
def plainTokens (s : String) : List Token := [.scalar .plain s.toList]

/-- The tokens of a port mapping. -/
def portTokens (p : NodePort) : List Token :=
  mappingTokens (
    memberTokens "containerPort" (plainTokens (Text.decimal p.node.toNat)) ++
    memberTokens "hostPort" (plainTokens (Text.decimal p.host.toNat)) ++
    memberTokens "listenAddress" [.scalar .doubleQuoted "0.0.0.0".toList] ++
    memberTokens "protocol" (plainTokens "tcp"))

/-- The tokens of the entries for ports. -/
def portsTokens (ports : List NodePort) : List Token :=
  ports.flatMap fun p => .blockEntry :: portTokens p

/-- The tokens of the control plane node. -/
def controlPlaneTokens (ports : List NodePort) : List Token :=
  mappingTokens (memberTokens "role" (plainTokens "control-plane") ++
    if ports.isEmpty then [] else memberTokens "extraPortMappings" (portsTokens ports))

/-- The tokens of the entries for workers. -/
def workersTokens (n : Nat) : List Token :=
  (List.replicate n
    (.blockEntry :: mappingTokens (memberTokens "role" (plainTokens "worker")))).flatten

/-- The tokens of the patch. -/
def patchTokens (ramDisk : Bool) : List Token :=
  if ramDisk then
    memberTokens "kubeadmConfigPatches" [.blockEntry, .scalar .literal etcdPatchText.toList]
  else []

/-- The tokens of the document. -/
def documentTokens (options : Options) : List Token :=
  mappingTokens (memberTokens "kind" (plainTokens "Cluster") ++
    memberTokens "apiVersion" (plainTokens "kind.x-k8s.io/v1alpha4") ++
    memberTokens "nodes" (.blockEntry :: (controlPlaneTokens options.nodePorts ++
      workersTokens options.workers.toNat)) ++
    patchTokens options.etcdRamDisk)

/-! ## The lines -/

section Lines

variable {cs : List Char} {ts : List Token}

theorem decimal_toList (n : Nat) : (Text.decimal n).toList = Text.decimalChars n :=
  String.toList_ofList

theorem isWord_decimal (n : Nat) : isWord (Text.decimal n).toList = true := by
  have hdigit : ∀ {c : Char}, c ∈ Text.decimalChars n → c.isAlphanum = true := by
    intro c hc
    rw [Char.isAlphanum, Text.isDigit_of_mem_decimalChars hc, Bool.or_true]
  obtain ⟨d, ds, hds, -⟩ := Text.decimalChars_starts n
  rw [decimal_toList]
  rw [hds] at hdigit ⊢
  rw [isWord, hdigit List.mem_cons_self, Bool.true_and, List.all_eq_true]
  intro c hc
  exact isWordChar_of_isAlphanum (hdigit (List.mem_cons_of_mem _ hc))

theorem documentHeader_append (cs : List Char) : documentHeader.toList ++ cs =
    "kind".toList ++ ':' :: ' ' :: ("Cluster".toList ++ '\n' ::
      ("apiVersion".toList ++ ':' :: ' ' :: ("kind.x-k8s.io/v1alpha4".toList ++ '\n' ::
        ("nodes".toList ++ ':' :: '\n' :: indented 0 ('-' :: ' ' ::
          ("role".toList ++ ':' :: ' ' :: ("control-plane".toList ++ '\n' :: cs))))))) := by
  rfl

theorem follows_word {word rest : List Char} {n : Nat} (h : isWord word = true) :
    Follows n (word ++ rest) :=
  follows_visible (startsVisibly_word h)

/-- The first lines open the cluster, its nodes and the control plane node. -/
theorem leads_documentHeader (h : Follows 2 cs) :
    Leads (line (documentHeader.toList ++ cs) [] []) (line cs [2, 0]
      (.blockMappingStart :: (memberTokens "kind" (plainTokens "Cluster") ++
        memberTokens "apiVersion" (plainTokens "kind.x-k8s.io/v1alpha4") ++
        memberTokens "nodes" (.blockEntry :: .blockMappingStart ::
          memberTokens "role" (plainTokens "control-plane"))))) := by
  rw [documentHeader_append]
  refine (leads_member (n := 0) rfl (by decide) rfl rfl rfl (follows_word rfl)).trans ?_
  refine (leads_member (n := 0) rfl (by decide) rfl rfl rfl (follows_word rfl)).trans ?_
  refine (leads_heading (n := 0) rfl (by decide) rfl).trans ?_
  refine (leads_entry (n := 0) (startsVisibly_word rfl)).trans ?_
  exact leads_member (n := 2) rfl (by decide) rfl rfl rfl h

/-- The lines of a port mapping, with the digits of its ports, and what follows. -/
def mappingLines (node host cs : List Char) : List Char :=
  indented 2 ('-' :: ' ' :: ("containerPort".toList ++ ':' :: ' ' :: (node ++ '\n' ::
    indented 4 ("hostPort".toList ++ ':' :: ' ' :: (host ++ '\n' ::
      indented 4 ("listenAddress".toList ++ ':' :: ' ' :: '"' :: ("0.0.0.0".toList ++ '"' :: '\n' ::
        indented 4 ("protocol".toList ++ ':' :: ' ' :: ("tcp".toList ++ '\n' :: cs)))))))))

theorem toList_append_append (a b c d e : String) (cs : List Char) :
    (a ++ b ++ c ++ d ++ e).toList ++ cs =
      a.toList ++ (b.toList ++ (c.toList ++ (d.toList ++ (e.toList ++ cs)))) := by
  simp only [String.toList_append, List.append_assoc]

theorem portMapping_append (p : NodePort) (cs : List Char) : (portMapping p).toList ++ cs =
    mappingLines (Text.decimal p.node.toNat).toList (Text.decimal p.host.toNat).toList cs := by
  -- the fixed pieces become variables: the texts are long to compare
  have hpieces : ∀ {a b c : List Char} (node host : List Char),
      a = indented 2 ('-' :: ' ' :: ("containerPort".toList ++ [':', ' '])) →
      b = '\n' :: indented 4 ("hostPort".toList ++ [':', ' ']) →
      c = '\n' :: indented 4 ("listenAddress".toList ++ ':' :: ' ' :: '"' :: ("0.0.0.0".toList ++
        '"' :: '\n' :: indented 4 ("protocol".toList ++ ':' :: ' ' :: ("tcp".toList ++ ['\n'])))) →
      a ++ (node ++ (b ++ (host ++ (c ++ cs)))) = mappingLines node host cs := by
    rintro _ _ _ node host rfl rfl rfl
    simp only [mappingLines, indented, List.append_assoc, List.cons_append, List.nil_append]
  exact (toList_append_append ..).trans (hpieces _ _ (by rfl) (by rfl) (by rfl))

/-- The lines of a port mapping are one entry. -/
theorem leads_portMapping (p : NodePort) (h : Follows 2 cs) :
    Leads (line ((portMapping p).toList ++ cs) [2, 0] ts)
      (line cs [2, 0] (ts ++ .blockEntry :: portTokens p)) := by
  have hnode := isWord_decimal p.node.toNat
  have hhost := isWord_decimal p.host.toNat
  have hnext : ∀ {word rest : List Char}, isWord word = true →
      Follows 4 (indented 4 (word ++ rest)) :=
    fun h => follows_indented (Nat.le_refl 4) (startsVisibly_word h)
  rw [portMapping_append]
  refine (leads_entry (n := 2) (startsVisibly_word rfl)).trans ?_
  refine (leads_member (n := 4) rfl (by decide) hnode rfl rfl (hnext rfl)).trans ?_
  refine (leads_line (startsVisibly_word rfl)).trans ?_
  refine (leads_member (n := 4) rfl (by decide) hhost rfl rfl (hnext rfl)).trans ?_
  refine (leads_line (startsVisibly_word rfl)).trans ?_
  refine (leads_quotedMember (n := 4) rfl (by decide) rfl rfl rfl).trans ?_
  refine (leads_line (startsVisibly_word rfl)).trans ?_
  refine (leads_member (n := 4) rfl (by decide) rfl rfl rfl (h.mono (by decide))).trans ?_
  refine (leads_close (k := 2) (by decide) h).congr ?_
  simp [portTokens, mappingTokens, memberTokens, plainTokens, opening]

/-- The lines of port mappings are their entries, one after another. -/
theorem leads_mappings (ports : List NodePort) (h : Follows 2 cs) :
    Follows 2 ((String.join (ports.map portMapping)).toList ++ cs) ∧
      ∀ ts, Leads (line ((String.join (ports.map portMapping)).toList ++ cs) [2, 0] ts)
        (line cs [2, 0] (ts ++ portsTokens ports)) := by
  induction ports with
  | nil =>
      refine ⟨h, fun ts => ?_⟩
      exact (Leads.refl _).congr (List.append_nil ts).symm
  | cons p ports ih =>
      rw [List.map_cons, String.join_cons, String.toList_append, List.append_assoc]
      constructor
      · rw [portMapping_append]
        exact follows_indented (Nat.le_refl 2) (startsVisibly_cons rfl)
      · intro ts
        refine ((leads_portMapping p ih.1).trans (ih.2 _)).congr ?_
        rw [portsTokens, portsTokens, List.flatMap_cons, List.append_assoc]

/-- The lines for the ports, if there are any, belong to the control plane node, which ends
    with them. -/
theorem leads_portMappings (ports : List NodePort) (h : Follows 0 cs) :
    Follows 2 ((portMappings ports).toList ++ cs) ∧
      ∀ ts, Leads (line ((portMappings ports).toList ++ cs) [2, 0] ts)
        (line cs [0] (ts ++ ((if ports.isEmpty then []
          else memberTokens "extraPortMappings" (portsTokens ports)) ++ [.blockEnd]))) := by
  rw [portMappings]
  by_cases hports : ports.isEmpty = true
  · rw [if_pos hports, if_pos hports]
    exact ⟨h.mono (Nat.zero_le 2), fun ts => leads_close (by decide) h⟩
  · rw [if_neg hports, if_neg hports, String.toList_append, List.append_assoc]
    obtain ⟨-, hmappings⟩ := leads_mappings ports (h.mono (Nat.zero_le 2))
    have hheading : ∀ rest : List Char, "  extraPortMappings:\n".toList ++ rest =
        indented 2 ("extraPortMappings".toList ++ ':' :: '\n' :: rest) := fun _ => by rfl
    rw [hheading]
    constructor
    · exact follows_indented (Nat.le_refl 2) (startsVisibly_word rfl)
    · intro ts
      refine (leads_line (startsVisibly_word rfl)).trans ?_
      refine (leads_heading (n := 2) rfl (by decide) rfl).trans ?_
      refine (hmappings _).trans ?_
      refine (leads_close (k := 0) (by decide) h).congr ?_
      simp [memberTokens, opening]

/-- The line of a worker is one entry. -/
theorem leads_workerNode (h : Follows 0 cs) :
    Leads (line (workerNode.toList ++ cs) [0] ts) (line cs [0]
      (ts ++ .blockEntry :: mappingTokens (memberTokens "role" (plainTokens "worker")))) := by
  have hline : workerNode.toList ++ cs =
      indented 0 ('-' :: ' ' :: ("role".toList ++ ':' :: ' ' :: ("worker".toList ++ '\n' :: cs))) :=
    by rfl
  rw [hline]
  refine (leads_entry (n := 0) (startsVisibly_word rfl)).trans ?_
  refine (leads_member (n := 2) rfl (by decide) rfl rfl rfl
    (h.mono (Nat.zero_le 2))).trans ?_
  refine (leads_close (k := 0) (by decide) h).congr ?_
  simp [mappingTokens, memberTokens, plainTokens, opening]

/-- The lines of the workers are their entries. -/
theorem leads_workerNodes (n : Nat) (h : Follows 0 cs) :
    Follows 0 ((String.join (List.replicate n workerNode)).toList ++ cs) ∧
      ∀ ts, Leads (line ((String.join (List.replicate n workerNode)).toList ++ cs) [0] ts)
        (line cs [0] (ts ++ workersTokens n)) := by
  induction n with
  | zero =>
      refine ⟨h, fun ts => ?_⟩
      exact (Leads.refl _).congr (List.append_nil ts).symm
  | succ n ih =>
      rw [List.replicate_succ, String.join_cons, String.toList_append, List.append_assoc]
      constructor
      · exact follows_visible (startsVisibly_cons rfl)
      · intro ts
        refine ((leads_workerNode ih.1).trans (ih.2 _)).congr ?_
        rw [workersTokens, workersTokens, List.replicate_succ, List.flatten_cons, List.append_assoc]

/-- The lines of the patch, if there is one, end the text. -/
theorem leads_etcdPatch (ramDisk : Bool) :
    Follows 0 (if ramDisk then etcdPatch else "").toList ∧
      ∀ ts, Leads (line (if ramDisk then etcdPatch else "").toList [0] ts)
        (line [] [0] (ts ++ patchTokens ramDisk)) := by
  cases ramDisk with
  | false =>
      refine ⟨follows_visible nofun, fun ts => ?_⟩
      exact (Leads.refl _).congr (List.append_nil ts).symm
  | true =>
      have hlines : etcdPatch.toList = "kubeadmConfigPatches".toList ++ ':' :: '\n' ::
          indented 0 ('-' :: ' ' :: '|' :: ("\n  kind: ClusterConfiguration\n  etcd:\n" ++
            "    local:\n      dataDir: /tmp/etcd\n").toList) := by rfl
      rw [if_pos rfl, hlines]
      constructor
      · exact follows_word rfl
      · intro ts
        refine (leads_heading (n := 0) rfl (by decide) rfl).trans ?_
        refine (leads_entry (n := 0) (startsVisibly_cons rfl)).trans ?_
        refine (leads_literal etcdPatchText.toList rfl ?_).congr ?_
        · intro i l
          cbv
        · simp [patchTokens, memberTokens, opening]

/-- All the lines of the document. -/
theorem leads_composed (options : Options) :
    ∃ ts, documentTokens options = ts ++ [.blockEnd] ∧
      Leads (line (composed options).toList [] []) (line [] [0] ts) := by
  obtain ⟨hpatch, hpatchLines⟩ := leads_etcdPatch options.etcdRamDisk
  obtain ⟨hworkers, hworkerLines⟩ := leads_workerNodes options.workers.toNat hpatch
  obtain ⟨hports, hportLines⟩ := leads_portMappings options.nodePorts hworkers
  rw [composed, String.toList_append, String.toList_append, String.toList_append,
    List.append_assoc, List.append_assoc]
  refine ⟨_, ?_, ((leads_documentHeader hports).trans ((hportLines _).trans
    ((hworkerLines _).trans (hpatchLines _))))⟩
  simp [documentTokens, controlPlaneTokens, mappingTokens, memberTokens]

end Lines

/-! ## The characters -/

theorem isAllowed_decimal (n : Nat) : (Text.decimal n).toList.all isAllowed = true := by
  rw [decimal_toList, List.all_eq_true]
  intro c hc
  obtain ⟨hlow, hhigh⟩ := Bool.and_eq_true_iff.1 (Text.isDigit_of_mem_decimalChars hc)
  have hlow : 48 ≤ c.toNat := of_decide_eq_true hlow
  have hhigh : c.toNat ≤ 57 := of_decide_eq_true hhigh
  have hprinted : decide (32 ≤ c.toNat ∧ c.toNat ≤ 126) = true := decide_eq_true (by omega)
  simp [isAllowed, hprinted]

theorem isAllowed_append {s t : String} (hs : s.toList.all isAllowed = true)
    (ht : t.toList.all isAllowed = true) : (s ++ t).toList.all isAllowed = true := by
  rw [String.toList_append, List.all_append, hs, ht]
  rfl

theorem isAllowed_join {l : List String} (h : ∀ s ∈ l, s.toList.all isAllowed = true) :
    (String.join l).toList.all isAllowed = true := by
  rw [String.toList_join, List.all_flatMap, List.all_eq_true]
  exact h

theorem isAllowed_portMapping (p : NodePort) : (portMapping p).toList.all isAllowed = true := by
  have hnode : "  - containerPort: ".toList.all isAllowed = true := by rfl
  have hhost : "\n    hostPort: ".toList.all isAllowed = true := by rfl
  have hlast : "\n    listenAddress: \"0.0.0.0\"\n    protocol: tcp\n".toList.all isAllowed =
      true := by rfl
  exact isAllowed_append (isAllowed_append (isAllowed_append
    (isAllowed_append hnode (isAllowed_decimal _)) hhost) (isAllowed_decimal _)) hlast

theorem isAllowed_portMappings (ports : List NodePort) :
    (portMappings ports).toList.all isAllowed = true := by
  rw [portMappings]
  split
  · rfl
  · refine isAllowed_append rfl (isAllowed_join fun s hs => ?_)
    obtain ⟨p, -, rfl⟩ := List.mem_map.1 hs
    exact isAllowed_portMapping p

/-- The document has only characters that a YAML text may have. -/
theorem isAllowed_composed (options : Options) :
    (composed options).toList.all isAllowed = true := by
  rw [composed]
  refine isAllowed_append (isAllowed_append (isAllowed_append ?_ ?_) ?_) ?_
  · rfl
  · exact isAllowed_portMappings options.nodePorts
  · refine isAllowed_join fun s hs => ?_
    rw [List.eq_of_mem_replicate hs]
    rfl
  · cases options.etcdRamDisk <;> rfl

/-- The text of the document is the row of its tokens. -/
theorem ofChars?_composed (options : Options) :
    Token.ofChars? (composed options).toList = some (documentTokens options) := by
  obtain ⟨ts, hts, hleads⟩ := leads_composed options
  rw [Token.ofChars?, if_pos (isAllowed_composed options), tokens_of_leads hleads, hts]
  rfl

/-! ## The layout -/

section Layout

variable {place : Node.Place} {depth : Nat} {ts more : List Token} {v : Value}
  {members : List (String × Value)}

theorem lays_member {key : String}
    (hkey : Document.scalarValue {} .plain key.toList = some (.string key))
    (hvalue : Lays .member depth ts v) (hmore : LaysMembers depth more members) :
    LaysMembers depth (memberTokens key ts ++ more) ((key, v) :: members) := by
  have hkey' : Document.scalarValue {} .plain key.toList =
      some (.string (String.ofList key.toList)) := by
    rwa [String.ofList_toList]
  have hcons := LaysMembers.cons hkey' hvalue hmore
  rwa [String.ofList_toList] at hcons

theorem lays_lastMember {key : String}
    (hkey : Document.scalarValue {} .plain key.toList = some (.string key))
    (hvalue : Lays .member depth ts v) : LaysMembers depth (memberTokens key ts) [(key, v)] := by
  have hlast := lays_member hkey hvalue .nil
  rwa [List.append_nil] at hlast

theorem lays_port (port : UInt16) :
    Lays place depth (plainTokens (Text.decimal port.toNat)) (.int port.toNat) := by
  have hbound : port.toNat < twoTo 64 := Nat.lt_of_lt_of_le port.toNat_lt (by decide)
  refine .scalar ?_
  rw [decimal_toList]
  exact value?_decimalChars hbound

theorem lays_portMapping (p : NodePort) :
    Lays .block (depth + 1) (portTokens p) (mappingValue p) := by
  have hkeys : ["containerPort", "hostPort", "listenAddress", "protocol"].Nodup := by decide
  refine .object nofun ?_ hkeys
  simp only [List.append_assoc]
  refine lays_member (by rfl) (lays_port p.node) ?_
  refine lays_member (by rfl) (lays_port p.host) ?_
  refine lays_member (by rfl) (.scalar (by rfl)) ?_
  exact lays_lastMember (by rfl) (.scalar (by rfl))

theorem lays_ports (ports : List NodePort) :
    LaysItems (depth + 1) (portsTokens ports) (ports.map mappingValue) := by
  induction ports with
  | nil => exact .nil
  | cons p ports ih => exact .cons (lays_portMapping p) ih

theorem lays_controlPlane (ports : List NodePort) :
    Lays .block (depth + 3) (controlPlaneTokens ports) (controlPlaneValue ports) := by
  rw [controlPlaneTokens, controlPlaneValue]
  by_cases hports : ports.isEmpty = true
  · rw [if_pos hports, if_pos hports, List.append_nil]
    exact .object nofun (lays_lastMember (by rfl) (.scalar (by rfl))) (List.nodup_singleton _)
  · rw [if_neg hports, if_neg hports]
    have hkeys : ["role", "extraPortMappings"].Nodup := by decide
    have hitems : ports.map mappingValue ≠ [] := by
      simpa using hports
    refine .object nofun (lays_member (by rfl) (.scalar (by rfl)) ?_) hkeys
    exact lays_lastMember (by rfl) (.sequence hitems (lays_ports ports))

theorem lays_workers (n : Nat) :
    LaysItems (depth + 1) (workersTokens n) (List.replicate n workerValue) := by
  induction n with
  | zero => exact .nil
  | succ n ih =>
      refine .cons (.object nofun ?_ (List.nodup_singleton _)) ih
      exact lays_lastMember (by rfl) (.scalar (by rfl))

/-- The tokens of the document lay out its value. -/
theorem lays_document (options : Options) :
    Lays .block 5 (documentTokens options) (documentValue options) := by
  have hnodes : Lays .member 4 (.blockEntry :: (controlPlaneTokens options.nodePorts ++
      workersTokens options.workers.toNat)) (.array (controlPlaneValue options.nodePorts ::
        List.replicate options.workers.toNat workerValue)) :=
    .sequence (List.cons_ne_nil _ _) (.cons (lays_controlPlane _) (lays_workers _))
  rw [documentTokens, documentValue]
  cases options.etcdRamDisk with
  | false =>
      have hkeys : ["kind", "apiVersion", "nodes"].Nodup := by decide
      refine .object nofun ?_ hkeys
      simp only [List.append_assoc]
      refine lays_member (by rfl) (.scalar (by rfl)) ?_
      refine lays_member (by rfl) (.scalar (by rfl)) ?_
      exact lays_member (by rfl) hnodes .nil
  | true =>
      have hkeys : ["kind", "apiVersion", "nodes", "kubeadmConfigPatches"].Nodup := by decide
      refine .object nofun ?_ hkeys
      simp only [List.append_assoc]
      refine lays_member (by rfl) (.scalar (by rfl)) ?_
      refine lays_member (by rfl) (.scalar (by rfl)) ?_
      refine lays_member (by rfl) hnodes ?_
      refine lays_lastMember (by rfl) (.sequence (List.cons_ne_nil _ _) ?_)
      have hpatch : Lays .block 3 [.scalar .literal etcdPatchText.toList]
          (.string etcdPatchText) := .scalar (by rfl)
      exact .cons hpatch .nil

end Layout

/-- Read as YAML, the document of a cluster says what the cluster is to be. -/
theorem read_composed (options : Options) :
    (Document.single? (composed options)).bind (Document.read (·.value)) =
      some (documentValue options) :=
  read_of_lays (ofChars?_composed options) (lays_document options) (by decide)

/-! ## What the text tells of the options -/

theorem mappingValue_injective : Function.Injective mappingValue := by
  intro p q h
  simp only [mappingValue, Value.object.injEq, List.cons.injEq, Prod.mk.injEq, Value.int.injEq,
    Int.natCast_inj, UInt16.toNat_inj] at h
  obtain ⟨⟨-, hnode⟩, ⟨-, hhost⟩, -⟩ := h
  cases p
  cases q
  cases hnode
  cases hhost
  rfl

/-- The control plane node tells its ports, and that there are none. -/
theorem controlPlaneValue_injective : Function.Injective controlPlaneValue := by
  intro ports ports' h
  rw [controlPlaneValue, controlPlaneValue, Value.object.injEq, List.cons.injEq] at h
  obtain ⟨-, h⟩ := h
  by_cases hports : ports.isEmpty = true <;> by_cases hports' : ports'.isEmpty = true
  · rw [List.isEmpty_iff.1 hports, List.isEmpty_iff.1 hports']
  · rw [if_pos hports, if_neg hports'] at h
    cases h
  · rw [if_neg hports, if_pos hports'] at h
    cases h
  · rw [if_neg hports, if_neg hports'] at h
    simp only [List.cons.injEq, Prod.mk.injEq, Value.array.injEq] at h
    exact List.map_injective_iff.2 mappingValue_injective h.1.2

/-- What a document says tells the ports, the number of workers and where etcd keeps its data. -/
theorem documentValue_eq_iff {o o' : Options} : documentValue o = documentValue o' ↔
    o.nodePorts = o'.nodePorts ∧ o.workers = o'.workers ∧ o.etcdRamDisk = o'.etcdRamDisk := by
  constructor
  · intro h
    rw [documentValue, documentValue, Value.object.injEq] at h
    obtain ⟨hfixed, hpatch⟩ := List.append_inj h rfl
    simp only [List.cons.injEq, Prod.mk.injEq, Value.array.injEq] at hfixed
    obtain ⟨-, -, ⟨-, hplane, hworkers⟩, -⟩ := hfixed
    refine ⟨controlPlaneValue_injective hplane, ?_, ?_⟩
    · have hlength := congrArg List.length hworkers
      rw [List.length_replicate, List.length_replicate] at hlength
      exact UInt32.toNat_inj.1 hlength
    · cases hdisk : o.etcdRamDisk <;> cases hdisk' : o'.etcdRamDisk
      · rfl
      · rw [hdisk, hdisk'] at hpatch
        cases hpatch
      · rw [hdisk, hdisk'] at hpatch
        cases hpatch
      · rfl
  · rintro ⟨hports, hworkers, hdisk⟩
    rw [documentValue, documentValue, hports, hworkers, hdisk]

/-- Only these three options are in the text. -/
theorem composed_congr {o o' : Options} (hports : o.nodePorts = o'.nodePorts)
    (hworkers : o.workers = o'.workers) (hdisk : o.etcdRamDisk = o'.etcdRamDisk) :
    composed o = composed o' := by
  rw [composed, composed, hports, hworkers, hdisk]

theorem render_eq_composed {config : ClusterConfig} (h : config.options.rawConfig = none) :
    config.render = composed config.options := by
  rw [render, h]

/-- **THE KIND DOCUMENT SAYS WHAT THE OPTIONS SAY.**  Without a raw configuration the text that is
    handed to `kind`, read as the YAML document that it is, says `documentValue`: the control
    plane node with its ports in their order, the workers, and the patch.  Two configurations
    have one text exactly if these are the same. -/
theorem read_render (config : ClusterConfig) (h : config.options.rawConfig = none) :
    (Document.single? config.render).bind (Document.read (·.value)) =
        some (documentValue config.options) ∧
      ∀ other : ClusterConfig, other.options.rawConfig = none →
        (config.render = other.render ↔
          config.options.nodePorts = other.options.nodePorts ∧
          config.options.workers = other.options.workers ∧
          config.options.etcdRamDisk = other.options.etcdRamDisk) := by
  rw [render_eq_composed h]
  constructor
  · exact read_composed config.options
  · intro other hother
    rw [render_eq_composed hother]
    constructor
    -- one text has one value
    · intro htext
      have hvalue := read_composed config.options
      rw [htext, read_composed other.options, Option.some.injEq] at hvalue
      exact documentValue_eq_iff.1 hvalue.symm
    · rintro ⟨hports, hworkers, hdisk⟩
      exact composed_congr hports hworkers hdisk

/-- Two workers, and a port of the nodes on two ports of the host. -/
def twicePublished : ClusterConfig where
  name := "e2e"
  options := { nodePorts := [⟨30080, 8080⟩, ⟨30080, 9090⟩], workers := 2, etcdRamDisk := true }
  name_ne_empty := by decide
  nodePorts_valid := by decide

/-- The same ports in the other order, and options of which the document says nothing. -/
def twiceSwapped : ClusterConfig where
  name := "other"
  options := { nodePorts := [⟨30080, 9090⟩, ⟨30080, 8080⟩], workers := 2, etcdRamDisk := true,
               images := ["app"] }
  name_ne_empty := by decide
  nodePorts_valid := by decide

theorem read_render_twicePublished :
    twicePublished.options.rawConfig = none ∧ twiceSwapped.options.rawConfig = none ∧
    (Document.single? twicePublished.render).bind (Document.read (·.value)) =
      some (documentValue twicePublished.options) ∧
    twicePublished.render ≠ twiceSwapped.render := by
  obtain ⟨hread, htext⟩ := read_render twicePublished rfl
  refine ⟨rfl, rfl, hread, ?_⟩
  intro h
  exact absurd ((htext twiceSwapped rfl).1 h).1 (by decide)

end TestCluster.ClusterConfig
