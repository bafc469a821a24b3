import TestCluster.Options.Fields
import TestCluster.Proofs.WrittenMetadata

/-!
# Written options — read back in every format that says what it is told

    Options are read by the readers of a format, whatever the format is.  If those readers give
    what stands at a node, for the few kinds of value that options are made of (`Says`), then
    options are read back from the node of their value (`Options.read_toValue`): every field is
    there, and there once, and its reader undoes its writer.
-/

namespace TestCluster

variable {m : Type → Type} {N α : Type} {f : Format m N} {node : Nat → Value → N}
  {depth level : Nat}

namespace Options

/-- The seconds that creation waits, as they are written. -/
def waitValue : Option UInt64 → Value
  | some w => .int w.toNat
  | none => .null

/-- The fields of options, as they are written. -/
def members (o : Options) : List (String × Value) := [
  ("rawConfig", textValue o.rawConfig), ("images", .array (o.images.map .string)),
  ("waitSecs", waitValue o.waitSeconds), ("nodePorts", .array (o.nodePorts.map portValue)),
  ("workers", .int o.workers.toNat), ("kubernetesVersion", textValue o.kubernetesVersion),
  ("kubeconfig", textValue o.kubeconfig), ("etcdRamDisk", .bool o.etcdRamDisk)]

theorem toValue_eq (o : Options) : o.toValue = .object o.members := rfl

end Options

namespace Format

/-- Among members of distinct names the one with a name is read. -/
theorem once_eq {members : List (String × Value)} {key : String} {v : Value} {place : Value → N}
    {read : N → m α} {absent result : m α} (hkeys : (members.map (·.1)).Nodup)
    (hmem : (key, v) ∈ members) (hread : read (place v) = result) :
    f.once (members.map fun m => (m.1, place m.2)) key read absent = result := by
  have hfields : ((members.map fun m => (m.1, some m.2)).map (·.1)).Nodup := by
    rwa [List.map_map]
  have hfound := filterMap_field hfields (List.mem_map.2 ⟨_, hmem, rfl⟩) place
  rw [List.filterMap_map] at hfound
  have hkey : withKey key (members.map fun m => (m.1, place m.2)) = [place v] := by
    rw [withKey, List.filterMap_map]
    exact hfound
  rw [once, hkey]
  exact hread

variable [Monad m]

/-- The readers of a format give what stands at the nodes of values: `node level v` is the node
    of a value inside so many collections, of which up to `depth` may be nested. -/
structure Says (f : Format m N) (node : Nat → Value → N) (depth : Nat) : Prop where
  text (level : Nat) (s : String) : f.text (node level (.string s)) = pure s
  natBelow (level : Nat) {bound n : Nat} : n < bound → bound ≤ UInt64.size →
    f.natBelow bound (node level (.int n)) = pure n
  bool (level : Nat) (b : Bool) : f.bool (node level (.bool b)) = pure b
  null (level : Nat) : f.optional (node level .null) = pure none
  thereText (level : Nat) (s : String) :
    f.optional (node level (.string s)) = pure (some (node level (.string s)))
  thereNat (level n : Nat) : f.optional (node level (.int n)) = pure (some (node level (.int n)))
  items {level : Nat} (vs : List Value) : level < depth →
    f.items (node level (.array vs)) = pure (vs.map (node (level + 1)))
  fields {level : Nat} (members : List (String × Value)) : level < depth →
    f.fields (node level (.object members)) =
      pure (.inr (members.map fun m => (m.1, node (level + 1) m.2)))

namespace Says

variable [LawfulMonad m]

theorem nullableText (h : f.Says node depth) (level : Nat) (text : Option String) :
    f.nullable f.text (node level (Options.textValue text)) = pure text := by
  cases text with
  | none => rw [nullable, Options.textValue, h.null, pure_bind]
  | some s =>
      rw [nullable, Options.textValue, h.thereText, pure_bind]
      show some <$> f.text _ = _
      rw [h.text, map_pure]

theorem list (h : f.Says node depth) (hlevel : level < depth) {read : N → m α}
    {toValue : α → Value} (hread : ∀ a, read (node (level + 1) (toValue a)) = pure a)
    (items : List α) :
    f.list read (node level (.array (items.map toValue))) = pure items := by
  have hall : read ∘ (node (level + 1) ∘ toValue) = fun a => pure (id a) := funext hread
  rw [Format.list, h.items _ hlevel, pure_bind, List.map_map, List.mapM_map, hall, List.mapM_pure,
    List.map_id]

theorem port (h : f.Says node depth) (level : Nat) (p : UInt16) :
    f.port (node level (.int p.toNat)) = pure p := by
  rw [Format.port, h.natBelow level p.toNat_lt (by decide), map_pure, UInt16.ofNat_toNat]

theorem nodePort (h : f.Says node depth) (hlevel : level < depth) (p : NodePort) :
    NodePort.read f (node level (Options.portValue p)) = pure p := by
  have hkeys : ([("nodePort", Value.int p.node.toNat), ("hostPort", .int p.host.toNat)].map
      (·.1)).Nodup := by
    show ["nodePort", "hostPort"].Nodup
    decide
  have hnode : f.once _ "nodePort" f.port f.refuse = pure p.node :=
    once_eq hkeys List.mem_cons_self (h.port (level + 1) p.node)
  have hhost : f.once _ "hostPort" f.port f.refuse = pure p.host :=
    once_eq hkeys (List.mem_cons_of_mem _ List.mem_cons_self) (h.port (level + 1) p.host)
  rw [NodePort.read, Options.portValue, h.fields _ hlevel, pure_bind]
  show (do
    let node ← f.once _ "nodePort" f.port f.refuse
    let host ← f.once _ "hostPort" f.port f.refuse
    pure (⟨node, host⟩ : NodePort)) = _
  rw [hnode, pure_bind, hhost, pure_bind]

theorem nullableWait (h : f.Says node depth) (level : Nat) (wait : Option UInt64) :
    f.nullable (f.natBelow UInt64.size) (node level (Options.waitValue wait)) =
      pure (wait.map (·.toNat)) := by
  cases wait with
  | none => rw [nullable, Options.waitValue, h.null, pure_bind, Option.map_none]
  | some w =>
      rw [nullable, Options.waitValue, h.thereNat, pure_bind]
      show some <$> f.natBelow UInt64.size _ = _
      rw [h.natBelow level w.toNat_lt (Nat.le_refl _), map_pure, Option.map_some]

end Says

end Format

/-- **OPTIONS ARE READ BACK.**  In whatever format, options are read from the node of their value,
    if the format's readers give what stands there, at least three collections deep. -/
theorem Options.read_toValue [Monad m] [LawfulMonad m] (h : f.Says node depth) (hdepth : 3 ≤ depth)
    (o : Options) : read f (node 0 o.toValue) = pure o := by
  have hkeys : (o.members.map (·.1)).Nodup := by
    show fieldNames.Nodup
    decide
  have hone : 1 < depth := Nat.lt_of_lt_of_le (by decide) hdepth
  have hraw : f.once _ "rawConfig" (f.nullable f.text) (pure none) = pure o.rawConfig :=
    Format.once_eq hkeys (by simp [members]) (h.nullableText 1 o.rawConfig)
  have himages : f.once _ "images" (f.list f.text) (pure []) = pure o.images :=
    Format.once_eq hkeys (by simp [members]) (h.list hone (h.text 2) o.images)
  have hwait : f.once _ "waitSecs" (f.nullable (f.natBelow UInt64.size)) (pure none) =
      pure (o.waitSeconds.map (·.toNat)) :=
    Format.once_eq hkeys (by simp [members]) (h.nullableWait 1 o.waitSeconds)
  have hports : f.once _ "nodePorts" (f.list (NodePort.read f)) (pure []) = pure o.nodePorts :=
    Format.once_eq hkeys (by simp [members]) (h.list hone (h.nodePort hdepth) o.nodePorts)
  have hworkers : f.once _ "workers" (f.natBelow UInt32.size) (pure 0) = pure o.workers.toNat :=
    Format.once_eq hkeys (by simp [members]) (h.natBelow 1 o.workers.toNat_lt (by decide))
  have hversion : f.once _ "kubernetesVersion" (f.nullable f.text) (pure none) =
      pure o.kubernetesVersion :=
    Format.once_eq hkeys (by simp [members]) (h.nullableText 1 o.kubernetesVersion)
  have hkubeconfig : f.once _ "kubeconfig" (f.nullable f.text) (pure none) = pure o.kubeconfig :=
    Format.once_eq hkeys (by simp [members]) (h.nullableText 1 o.kubeconfig)
  have hramDisk : f.once _ "etcdRamDisk" f.bool (pure false) = pure o.etcdRamDisk :=
    Format.once_eq hkeys (by simp [members]) (h.bool 1 o.etcdRamDisk)
  have hsame : o.waitSeconds.map (fun w => UInt64.ofNat w.toNat) = o.waitSeconds := by
    cases o.waitSeconds with
    | none => rfl
    | some w => exact congrArg some UInt64.ofNat_toNat
  rw [read, toValue_eq, h.fields _ (Nat.lt_of_lt_of_le (by decide) hdepth), pure_bind]
  show readMembers f _ = _
  rw [readMembers, hraw, pure_bind, himages, pure_bind, hwait, pure_bind, hports, pure_bind,
    hworkers, pure_bind, hversion, pure_bind, hkubeconfig, pure_bind, hramDisk, pure_bind,
    Option.map_map, UInt32.ofNat_toNat]
  exact congrArg pure (congrArg (fun w => { o with waitSeconds := w }) hsame)

end TestCluster
