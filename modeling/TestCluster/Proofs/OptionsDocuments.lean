import TestCluster.Proofs.JsonGrammar
import TestCluster.Proofs.OptionsFiles

/-!
# Options documents — which JSON objects say what options

    `Describes` says what options a JSON object says, in the terms of its members alone: each of
    the eight keys comes once at most, and what stands under it says the value of its field
    (`Key.Says`), which otherwise has its default.  The readers of options take exactly what is
    so described (`Takes`), and nothing of it depends on the order of the members or on members
    under other keys, also in the objects that say port mappings (`Alike`).
-/

namespace TestCluster

theorem mapM_eq_some_iff {α β : Type} {f : α → Option β} {xs : List α} {ys : List β} :
    xs.mapM f = some ys ↔ List.Forall₂ (fun x y => f x = some y) xs ys := by
  induction xs generalizing ys with
  | nil =>
      rw [List.mapM_nil]
      constructor
      · rintro ⟨⟩
        exact .nil
      · rintro ⟨⟩
        rfl
  | cons x xs ih =>
      rw [List.mapM_cons]
      constructor
      · intro h
        obtain ⟨y, hy, h⟩ := Option.bind_eq_some_iff.1 h
        obtain ⟨ys', hys, h⟩ := Option.bind_eq_some_iff.1 h
        obtain rfl := Option.some.inj h
        exact .cons hy (ih.1 hys)
      · rintro (_ | ⟨hy, hys⟩)
        rw [hy, ih.2 hys]
        rfl

namespace Json

variable {α β : Type} {R : Tree → α → Prop} {read : Place → Option α}
  {members : List (String × Tree)} {key : String} {t : Tree}

/-! ## What a tree says -/

/-- The tree is a text. -/
def SaysText (t : Tree) (s : String) : Prop := t = .string (some s)

/-- The tree is a number below a bound, written without sign, fraction and exponent. -/
def SaysNat (bound : Nat) (t : Tree) (n : Nat) : Prop :=
  ∃ digits, t = .number ⟨false, digits, none, none⟩ ∧ digitsValue digits = n ∧ n < bound

/-- The tree is a switch. -/
def SaysBool (t : Tree) (b : Bool) : Prop := t = .bool b

/-- The tree is null, or else it says a value. -/
def SaysNullable (R : Tree → α → Prop) (t : Tree) (a : Option α) : Prop :=
  (t = .null ∧ a = none) ∨ (t ≠ .null ∧ ∃ b, R t b ∧ a = some b)

/-- The tree is an array, and its items say one value each. -/
def SaysList (R : Tree → α → Prop) (t : Tree) (l : List α) : Prop :=
  ∃ items, t = .array items ∧ List.Forall₂ R items l

/-- The members of an object all of whose keys are texts. -/
def named (members : List (String × Tree)) : List (Option String × Tree) :=
  members.map fun m => (some m.1, m.2)

theorem named_injective : Function.Injective named := by
  refine List.map_injective_iff.2 ?_
  rintro ⟨k, t⟩ ⟨k', t'⟩ h
  obtain ⟨hkey, rfl⟩ := Prod.mk.inj h
  obtain rfl := Option.some.inj hkey
  rfl

/-- What stands under a key. -/
def under (key : String) (members : List (String × Tree)) : List Tree :=
  (members.filter (·.1 = key)).map (·.2)

/-- Members under other keys do not stand under a key. -/
theorem under_filter {key : String} {keys : List String} (hkey : key ∈ keys)
    (members : List (String × Tree)) :
    under key (members.filter (·.1 ∈ keys)) = under key members := by
  rw [under, List.filter_filter, under]
  refine congrArg (List.map fun m : String × Tree => m.2) (List.filter_congr ?_)
  intro m _
  by_cases hm : m.1 = key
  · simp [hm, hkey]
  · simp [hm]

theorem under_cons (key k : String) (t : Tree) (members : List (String × Tree)) :
    under key ((k, t) :: members) = if k = key then t :: under key members else under key members := by
  rw [under, List.filter_cons]
  by_cases h : k = key
  · rw [if_pos (decide_eq_true h), if_pos h]
    rfl
  · rw [if_neg (by simpa using h), if_neg h]
    rfl

/-- The key comes once, and what stands under it says the value. -/
def Holds (members : List (String × Tree)) (key : String) (R : Tree → α → Prop) (a : α) : Prop :=
  ∃ t, under key members = [t] ∧ R t a

/-- The key does not come, and the value is the default one; or the key holds the value. -/
def HoldsOr (members : List (String × Tree)) (key : String) (R : Tree → α → Prop) (default a : α) :
    Prop :=
  (under key members = [] ∧ a = default) ∨ Holds members key R a

theorem HoldsOr.map {S : Tree → β → Prop} (f : α → β) (hf : ∀ t a, R t a → S t (f a))
    {default a : α} (h : HoldsOr members key R default a) :
    HoldsOr members key S (f default) (f a) := by
  rcases h with ⟨hnone, rfl⟩ | ⟨t, hone, ha⟩
  · exact Or.inl ⟨hnone, rfl⟩
  · exact Or.inr ⟨t, hone, hf t a ha⟩

theorem SaysNullable.map {S : Tree → β → Prop} (f : α → β) (hf : ∀ t a, R t a → S t (f a))
    {a : Option α} (h : SaysNullable R t a) : SaysNullable S t (a.map f) := by
  rcases h with ⟨rfl, rfl⟩ | ⟨hnull, b, hb, rfl⟩
  · exact Or.inl ⟨rfl, rfl⟩
  · exact Or.inr ⟨hnull, f b, hf t b hb, rfl⟩

/-! ## Readers and what they take -/

/-- A reader gives exactly what a tree says, wherever it stands. -/
def Takes (read : Place → Option α) (R : Tree → α → Prop) : Prop :=
  ∀ t level a, read ⟨t, level⟩ = some a ↔ R t a

theorem takes_text : Takes format.text SaysText := by
  intro t level s
  show Place.text? ⟨t, level⟩ = some s ↔ t = .string (some s)
  cases t with
  | string text => simp [Place.text?]
  | _ => simp [Place.text?]

theorem takes_bool : Takes format.bool SaysBool := by
  intro t level b
  show Place.bool? ⟨t, level⟩ = some b ↔ t = .bool b
  cases t with
  | bool switch => simp [Place.bool?]
  | _ => simp [Place.bool?]

theorem takes_nat (bound : Nat) : Takes (format.natBelow bound) (SaysNat bound) := by
  intro t level n
  show Place.natBelow? bound ⟨t, level⟩ = some n ↔ SaysNat bound t n
  cases t with
  | number number =>
      obtain ⟨negative, whole, fraction, exponent⟩ := number
      simp only [Place.natBelow?, Number.nat?, SaysNat, Tree.number.injEq, Number.mk.injEq]
      cases negative <;> cases fraction <;> cases exponent <;>
        simp [Option.filter_eq_some_iff]
  | _ => simp [Place.natBelow?, SaysNat]

theorem Takes.nullable (h : Takes read R) : Takes (format.nullable read) (SaysNullable R) := by
  intro t level a
  by_cases hnull : t = .null
  · subst hnull
    show (some none = some a) ↔ _
    simp [SaysNullable, eq_comm]
  · have hread : format.nullable read ⟨t, level⟩ = some <$> read ⟨t, level⟩ := by
      cases t with
      | null => exact absurd rfl hnull
      | _ => rfl
    rw [hread, Option.map_eq_map, Option.map_eq_some_iff]
    constructor
    · rintro ⟨b, hb, rfl⟩
      exact Or.inr ⟨hnull, b, (h t level b).1 hb, rfl⟩
    · rintro (⟨rfl, -⟩ | ⟨-, b, hb, rfl⟩)
      · exact absurd rfl hnull
      · exact ⟨b, (h t level b).2 hb, rfl⟩

theorem Takes.list (h : Takes read R) : Takes (format.list read) (SaysList R) := by
  intro t level l
  cases t with
  | array items =>
      show (items.map fun t => (⟨t, level + 1⟩ : Place)).mapM read = some l ↔ _
      rw [mapM_eq_some_iff, List.forall₂_map_left_iff]
      simp only [h _ (level + 1), SaysList, Tree.array.injEq]
      simp
  | _ =>
      show none = some l ↔ _
      simp [SaysList]

/-- The places of members inside an object. -/
def placed (level : Nat) (members : List (String × Tree)) : List (String × Place) :=
  members.map fun m => (m.1, ⟨m.2, level⟩)

theorem members?_named (members : List (String × Tree)) (level : Nat) :
    Place.members? ⟨.object (named members), level⟩ = some (placed (level + 1) members) := by
  rw [Place.members?, named, mapM_eq_some_iff, placed, List.forall₂_map_left_iff,
    List.forall₂_map_right_iff, List.forall₂_same]
  exact fun _ _ => rfl

/-- An object whose keys are not all texts has no members that can be read. -/
theorem exists_named_of_members? {members : List (Option String × Tree)} {level : Nat}
    {read : List (String × Place)}
    (h : Place.members? ⟨.object members, level⟩ = some read) :
    ∃ texts, members = named texts := by
  rw [Place.members?, mapM_eq_some_iff] at h
  induction h with
  | nil => exact ⟨[], rfl⟩
  | @cons member _ members _ hmember _ ih =>
      obtain ⟨texts, rfl⟩ := ih
      obtain ⟨(_ | k), t⟩ := member
      · exact nomatch hmember
      · exact ⟨(k, t) :: texts, rfl⟩

theorem withKey_cons {N : Type} (key k : String) (node : N) (rest : List (String × N)) :
    Format.withKey key ((k, node) :: rest) =
      if k = key then node :: Format.withKey key rest else Format.withKey key rest := by
  rw [Format.withKey, List.filterMap_cons]
  dsimp only
  by_cases h : k = key
  · rw [if_pos h, if_pos h]
    rfl
  · rw [if_neg h, if_neg h]
    rfl

theorem withKey_placed (key : String) (level : Nat) (members : List (String × Tree)) :
    Format.withKey key (placed level members) =
      (under key members).map fun t => (⟨t, level⟩ : Place) := by
  induction members with
  | nil => rfl
  | cons member members ih =>
      obtain ⟨k, t⟩ := member
      rw [under_cons]
      refine (withKey_cons key k _ (placed level members)).trans ?_
      by_cases h : k = key
      · rw [if_pos h, if_pos h, ih, List.map_cons]
      · rw [if_neg h, if_neg h, ih]

theorem Takes.once (h : Takes read R) (level : Nat) {absent : Option α} {a : α} :
    format.once (placed level members) key read absent = some a ↔
      (under key members = [] ∧ absent = some a) ∨ Holds members key R a := by
  rw [Format.once, withKey_placed, Holds]
  cases under key members with
  | nil => simp
  | cons t ts =>
      cases ts with
      | nil => simp [h t level]
      | cons t' ts => simp [format]

theorem Takes.required (h : Takes read R) (level : Nat) {a : α} :
    format.once (placed level members) key read none = some a ↔ Holds members key R a :=
  (h.once level).trans (or_iff_right fun habsent => nomatch habsent.2)

theorem Takes.field (h : Takes read R) (level : Nat) {default a : α} :
    format.once (placed level members) key read (some default) = some a ↔
      HoldsOr members key R default a := by
  rw [h.once level, HoldsOr, Option.some.injEq, eq_comm (a := default)]

/-! ## Port mappings -/

/-- The tree is a port number. -/
def SaysPort (t : Tree) (p : UInt16) : Prop := SaysNat UInt16.size t p.toNat

/-- A port mapping is a pair of port numbers, or an object in which two keys hold them. -/
inductive SaysNodePort : Tree → NodePort → Prop where
  | pair {node host : Tree} {p : NodePort} :
      SaysPort node p.node → SaysPort host p.host → SaysNodePort (.array [node, host]) p
  | members {members : List (String × Tree)} {p : NodePort} :
      Holds members "nodePort" SaysPort p.node → Holds members "hostPort" SaysPort p.host →
      SaysNodePort (.object (named members)) p

theorem saysNodePort_object {members : List (String × Tree)} {p : NodePort} :
    SaysNodePort (.object (named members)) p ↔
      Holds members "nodePort" SaysPort p.node ∧ Holds members "hostPort" SaysPort p.host := by
  constructor
  · intro h
    generalize htree : Tree.object (named members) = t at h
    cases h with
    | pair => exact nomatch htree
    | members hnode hhost =>
        obtain rfl := named_injective (Tree.object.inj htree)
        exact ⟨hnode, hhost⟩
  · rintro ⟨hnode, hhost⟩
    exact .members hnode hhost

theorem takes_port : Takes format.port SaysPort := by
  intro t level p
  show ((format.natBelow UInt16.size ⟨t, level⟩).map UInt16.ofNat = some p) ↔ _
  rw [Option.map_eq_some_iff]
  constructor
  · rintro ⟨n, hn, rfl⟩
    obtain ⟨digits, ht, hvalue, hbound⟩ := (takes_nat _ t level n).1 hn
    refine ⟨digits, ht, ?_, UInt16.toNat_lt _⟩
    rw [hvalue, UInt16.toNat_ofNat_of_lt' hbound]
  · intro hp
    exact ⟨p.toNat, (takes_nat _ t level _).2 hp, UInt16.ofNat_toNat⟩

theorem takes_nodePort : Takes (NodePort.read format) SaysNodePort := by
  intro t level p
  cases t with
  | array items =>
      rcases items with _ | ⟨node, _ | ⟨host, _ | ⟨_, _⟩⟩⟩
      · exact iff_of_false nofun nofun
      · exact iff_of_false nofun nofun
      · show ((format.port ⟨node, level + 1⟩).bind fun n =>
          (format.port ⟨host, level + 1⟩).bind fun h => some (⟨n, h⟩ : NodePort)) = some p ↔ _
        constructor
        · intro h
          obtain ⟨n, hnode, h⟩ := Option.bind_eq_some_iff.1 h
          obtain ⟨m, hhost, h⟩ := Option.bind_eq_some_iff.1 h
          obtain rfl := Option.some.inj h
          exact .pair ((takes_port _ _ _).1 hnode) ((takes_port _ _ _).1 hhost)
        · rintro ⟨hnode, hhost⟩
          rw [(takes_port _ _ _).2 hnode, Option.bind_some, (takes_port _ _ _).2 hhost]
          rfl
      · exact iff_of_false nofun nofun
  | object members =>
      cases hmembers : Place.members? ⟨.object members, level⟩ with
      | none =>
          have hread : NodePort.read format ⟨.object members, level⟩ = none := by
            show ((Place.members? ⟨.object members, level⟩).map Sum.inr).bind _ = none
            rw [hmembers]
            rfl
          rw [hread]
          refine iff_of_false nofun ?_
          rintro (_ | ⟨_, _⟩)
          rw [members?_named] at hmembers
          cases hmembers
      | some read =>
          obtain ⟨texts, rfl⟩ := exists_named_of_members? hmembers
          have hread : NodePort.read format ⟨.object (named texts), level⟩ =
              (format.once (placed (level + 1) texts) "nodePort" format.port none).bind fun n =>
                (format.once (placed (level + 1) texts) "hostPort" format.port none).bind fun h =>
                  some ⟨n, h⟩ := by
            show ((Place.members? ⟨.object (named texts), level⟩).map Sum.inr).bind _ = _
            rw [members?_named]
            rfl
          rw [hread, saysNodePort_object, ← takes_port.required (level + 1),
            ← takes_port.required (level + 1)]
          constructor
          · intro h
            obtain ⟨n, hnode, h⟩ := Option.bind_eq_some_iff.1 h
            obtain ⟨m, hhost, h⟩ := Option.bind_eq_some_iff.1 h
            obtain rfl := Option.some.inj h
            exact ⟨hnode, hhost⟩
          · rintro ⟨hnode, hhost⟩
            rw [hnode, Option.bind_some, hhost]
            rfl
  | _ => exact iff_of_false nofun nofun

/-! ## Documents that say the same -/

/-- What stands under a key in the one object stands under it in the other, in any order and
    with differences that are said to make none. -/
def SameUnder (key : String) (same : Tree → Tree → Prop) (members members' : List (String × Tree)) :
    Prop :=
  ∃ between, (under key members).Perm between ∧ List.Forall₂ same between (under key members')

section SameUnder

variable {members' : List (String × Tree)} {same : Tree → Tree → Prop}

theorem SameUnder.nil_iff (h : SameUnder key same members members') :
    under key members = [] ↔ under key members' = [] := by
  obtain ⟨between, hperm, hpairs⟩ := h
  rw [← List.length_eq_zero_iff, ← List.length_eq_zero_iff, hperm.length_eq, hpairs.length_eq]

theorem SameUnder.holds_iff (h : SameUnder key same members members')
    (hsame : ∀ t t', same t t' → ∀ a, R t a ↔ R t' a) {a : α} :
    Holds members key R a ↔ Holds members' key R a := by
  obtain ⟨between, hperm, hpairs⟩ := h
  constructor
  · rintro ⟨t, hone, ha⟩
    rw [hone] at hperm
    obtain rfl := List.singleton_perm.1 hperm
    obtain ⟨t', rest, htt', hrest, hunder⟩ := List.forall₂_cons_left_iff.1 hpairs
    rw [List.forall₂_nil_left_iff.1 hrest] at hunder
    exact ⟨t', hunder, (hsame t t' htt' a).1 ha⟩
  · rintro ⟨t', hone, ha⟩
    rw [hone] at hpairs
    obtain ⟨t, rest, htt', hrest, rfl⟩ := List.forall₂_cons_right_iff.1 hpairs
    rw [List.forall₂_nil_right_iff.1 hrest] at hperm
    exact ⟨t, List.perm_singleton.1 hperm, (hsame t t' htt' a).2 ha⟩

theorem SameUnder.holdsOr_iff (h : SameUnder key same members members')
    (hsame : ∀ t t', same t t' → ∀ a, R t a ↔ R t' a) {default a : α} :
    HoldsOr members key R default a ↔ HoldsOr members' key R default a :=
  or_congr (and_congr_left' h.nil_iff) (h.holds_iff hsame)

end SameUnder

/-- Trees that say the same port mapping: the members of an object may come in another order, and
    those under other keys do not matter. -/
inductive AlikePort : Tree → Tree → Prop where
  | same (t : Tree) : AlikePort t t
  | members {members members' : List (String × Tree)} :
      (∀ key ∈ ["nodePort", "hostPort"], SameUnder key Eq members members') →
      AlikePort (.object (named members)) (.object (named members'))

/-- Trees that say the same list of port mappings. -/
inductive AlikePorts : Tree → Tree → Prop where
  | same (t : Tree) : AlikePorts t t
  | list {items items' : List Tree} :
      List.Forall₂ AlikePort items items' → AlikePorts (.array items) (.array items')

theorem AlikePort.says_iff {t' : Tree} (h : AlikePort t t') (p : NodePort) :
    SaysNodePort t p ↔ SaysNodePort t' p := by
  cases h with
  | same => exact Iff.rfl
  | members hsame =>
      have hequal : ∀ t t', t = t' → ∀ a, SaysPort t a ↔ SaysPort t' a := by
        rintro t _ rfl a
        exact Iff.rfl
      rw [saysNodePort_object, saysNodePort_object,
        (hsame "nodePort" List.mem_cons_self).holds_iff hequal,
        (hsame "hostPort" (List.mem_cons_of_mem _ List.mem_cons_self)).holds_iff hequal]

theorem AlikePorts.says_iff {t' : Tree} (h : AlikePorts t t') (l : List NodePort) :
    SaysList SaysNodePort t l ↔ SaysList SaysNodePort t' l := by
  have hlist : ∀ items : List Tree, SaysList SaysNodePort (.array items) l ↔
      List.Forall₂ SaysNodePort items l := by
    intro items
    simp [SaysList]
  cases h with
  | same => exact Iff.rfl
  | list hitems =>
      rw [hlist, hlist]
      clear hlist
      induction hitems generalizing l with
      | nil => exact Iff.rfl
      | cons hitem _ ih =>
          rw [List.forall₂_cons_left_iff, List.forall₂_cons_left_iff]
          simp only [hitem.says_iff, ih]

end Json

namespace Options

open Json

variable {members members' : List (String × Tree)} {o : Options}

/-! ## The keys of options -/

/-- The fields that an options document may have. -/
inductive Key
  | rawConfig
  | images
  | waitSecs
  | nodePorts
  | workers
  | kubernetesVersion
  | kubeconfig
  | etcdRamDisk

namespace Key

/-- The key under which a field stands. -/
def text : Key → String
  | rawConfig => "rawConfig"
  | images => "images"
  | waitSecs => "waitSecs"
  | nodePorts => "nodePorts"
  | workers => "workers"
  | kubernetesVersion => "kubernetesVersion"
  | kubeconfig => "kubeconfig"
  | etcdRamDisk => "etcdRamDisk"

/-- What a field holds. -/
def Value : Key → Type
  | rawConfig | kubernetesVersion | kubeconfig => Option String
  | images => List String
  | waitSecs => Option UInt64
  | nodePorts => List NodePort
  | workers => UInt32
  | etcdRamDisk => Bool

/-- The value of a field. -/
def value (o : Options) : (key : Key) → key.Value
  | rawConfig => o.rawConfig
  | images => o.images
  | waitSecs => o.waitSeconds
  | nodePorts => o.nodePorts
  | workers => o.workers
  | kubernetesVersion => o.kubernetesVersion
  | kubeconfig => o.kubeconfig
  | etcdRamDisk => o.etcdRamDisk

/-- The options whose fields have these values. -/
def options (values : (key : Key) → key.Value) : Options where
  rawConfig := values rawConfig
  images := values images
  waitSeconds := values waitSecs
  nodePorts := values nodePorts
  workers := values workers
  kubernetesVersion := values kubernetesVersion
  kubeconfig := values kubeconfig
  etcdRamDisk := values etcdRamDisk

theorem value_options (values : (key : Key) → key.Value) (key : Key) :
    value (options values) key = values key := by
  cases key <;> rfl

/-- What a tree says of a field: the type and the range of its values, and where null may
    stand. -/
def Says : (key : Key) → Tree → key.Value → Prop
  | rawConfig | kubernetesVersion | kubeconfig => SaysNullable SaysText
  | images => SaysList SaysText
  | waitSecs => SaysNullable fun t (w : UInt64) => SaysNat UInt64.size t w.toNat
  | nodePorts => SaysList SaysNodePort
  | workers => fun t (n : UInt32) => SaysNat UInt32.size t n.toNat
  | etcdRamDisk => SaysBool

end Key

/-- **THE OPTIONS OF A DOCUMENT**: a field whose key comes once has the value that stands there,
    and a field whose key does not come has its default. -/
def Describes (members : List (String × Tree)) (o : Options) : Prop :=
  ∀ key : Key, HoldsOr members key.text key.Says (key.value {}) (key.value o)

/-- Each key comes once at most, and what stands under it is a value of its field. -/
def Acceptable (members : List (String × Tree)) : Prop :=
  ∀ key : Key, (under key.text members).length ≤ 1 ∧
    ∀ t ∈ under key.text members, ∃ a, key.Says t a

theorem exists_describes_iff : (∃ o, Describes members o) ↔ Acceptable members := by
  constructor
  · rintro ⟨o, hdescribes⟩ key
    rcases hdescribes key with ⟨hnone, -⟩ | ⟨t, hone, ha⟩
    · rw [hnone]
      exact ⟨Nat.zero_le 1, fun _ h => nomatch h⟩
    · rw [hone]
      refine ⟨Nat.le_refl 1, fun t' ht' => ?_⟩
      rw [List.mem_singleton.1 ht']
      exact ⟨_, ha⟩
  · intro hacceptable
    have hvalues : ∀ key : Key, ∃ a, HoldsOr members key.text key.Says (key.value {}) a := by
      intro key
      obtain ⟨hlength, hsays⟩ := hacceptable key
      cases hunder : under key.text members with
      | nil => exact ⟨_, Or.inl ⟨hunder, rfl⟩⟩
      | cons t ts =>
          rw [hunder] at hlength hsays
          obtain rfl : ts = [] := List.length_eq_zero_iff.1 (by simpa using hlength)
          obtain ⟨a, ha⟩ := hsays t List.mem_cons_self
          exact ⟨a, Or.inr ⟨t, hunder, ha⟩⟩
    choose values hvalues using hvalues
    refine ⟨Key.options values, fun key => ?_⟩
    rw [Key.value_options]
    exact hvalues key

/-! ## What the readers take -/

theorem describes_of_read {level : Nat}
    (h : readMembers format (placed level members) = some o) : Describes members o := by
  rw [readMembers] at h
  obtain ⟨rawConfig, hraw, h⟩ := Option.bind_eq_some_iff.1 h
  obtain ⟨images, himages, h⟩ := Option.bind_eq_some_iff.1 h
  obtain ⟨wait, hwait, h⟩ := Option.bind_eq_some_iff.1 h
  obtain ⟨nodePorts, hports, h⟩ := Option.bind_eq_some_iff.1 h
  obtain ⟨workers, hworkers, h⟩ := Option.bind_eq_some_iff.1 h
  obtain ⟨version, hversion, h⟩ := Option.bind_eq_some_iff.1 h
  obtain ⟨kubeconfig, hkubeconfig, h⟩ := Option.bind_eq_some_iff.1 h
  obtain ⟨ramDisk, hramDisk, h⟩ := Option.bind_eq_some_iff.1 h
  obtain rfl := Option.some.inj h
  intro key
  cases key with
  | rawConfig => exact (takes_text.nullable.field level).1 hraw
  | images => exact (takes_text.list.field level).1 himages
  | waitSecs =>
      refine (((takes_nat _).nullable.field level).1 hwait).map (Option.map UInt64.ofNat) ?_
      intro t a ha
      show SaysNullable (fun t (w : UInt64) => SaysNat UInt64.size t w.toNat) t _
      refine ha.map UInt64.ofNat ?_
      rintro t n ⟨digits, ht, hvalue, hbound⟩
      exact ⟨digits, ht, hvalue.trans (UInt64.toNat_ofNat_of_lt' hbound).symm, UInt64.toNat_lt _⟩
  | nodePorts => exact (takes_nodePort.list.field level).1 hports
  | workers =>
      refine (((takes_nat _).field level).1 hworkers).map UInt32.ofNat ?_
      rintro t n ⟨digits, ht, hvalue, hbound⟩
      exact ⟨digits, ht, hvalue.trans (UInt32.toNat_ofNat_of_lt' hbound).symm, UInt32.toNat_lt _⟩
  | kubernetesVersion => exact (takes_text.nullable.field level).1 hversion
  | kubeconfig => exact (takes_text.nullable.field level).1 hkubeconfig
  | etcdRamDisk => exact (takes_bool.field level).1 hramDisk

theorem read_of_describes {level : Nat} (h : Describes members o) :
    readMembers format (placed level members) = some o := by
  have hraw : format.once (placed level members) "rawConfig" (format.nullable format.text)
      (pure none) = some o.rawConfig := (takes_text.nullable.field level).2 (h .rawConfig)
  have himages : format.once (placed level members) "images" (format.list format.text)
      (pure []) = some o.images := (takes_text.list.field level).2 (h .images)
  have hwait : format.once (placed level members) "waitSecs"
      (format.nullable (format.natBelow UInt64.size)) (pure none) =
        some (o.waitSeconds.map UInt64.toNat) := by
    refine ((takes_nat _).nullable.field level).2 ((h .waitSecs).map (Option.map UInt64.toNat) ?_)
    intro t a ha
    exact SaysNullable.map UInt64.toNat (fun _ _ hw => hw) ha
  have hports : format.once (placed level members) "nodePorts"
      (format.list (NodePort.read format)) (pure []) = some o.nodePorts :=
    (takes_nodePort.list.field level).2 (h .nodePorts)
  have hworkers : format.once (placed level members) "workers" (format.natBelow UInt32.size)
      (pure 0) = some o.workers.toNat := by
    have hholds : HoldsOr members "workers" (SaysNat UInt32.size) (UInt32.toNat 0)
        o.workers.toNat := (h .workers).map UInt32.toNat fun _ _ hn => hn
    exact ((takes_nat _).field level).2 hholds
  have hversion : format.once (placed level members) "kubernetesVersion"
      (format.nullable format.text) (pure none) = some o.kubernetesVersion :=
    (takes_text.nullable.field level).2 (h .kubernetesVersion)
  have hkubeconfig : format.once (placed level members) "kubeconfig"
      (format.nullable format.text) (pure none) = some o.kubeconfig :=
    (takes_text.nullable.field level).2 (h .kubeconfig)
  have hramDisk : format.once (placed level members) "etcdRamDisk" format.bool (pure false) =
      some o.etcdRamDisk := (takes_bool.field level).2 (h .etcdRamDisk)
  have hsame : (o.waitSeconds.map UInt64.toNat).map UInt64.ofNat = o.waitSeconds := by
    cases o.waitSeconds with
    | none => rfl
    | some w => exact congrArg some UInt64.ofNat_toNat
  simp only [readMembers, hraw, himages, hwait, hports, hworkers, hversion, hkubeconfig, hramDisk,
    Option.bind_eq_bind, Option.bind_some, UInt32.ofNat_toNat]
  exact congrArg some (congrArg (fun w => { o with waitSeconds := w }) hsame)

/-- Options are read from an object exactly if the object describes them. -/
theorem read_eq_some_iff :
    read format ⟨.object (named members), 0⟩ = some o ↔ Describes members o := by
  have hread : read format ⟨.object (named members), 0⟩ =
      readMembers format (placed 1 members) := by
    show ((Place.members? ⟨.object (named members), 0⟩).map Sum.inr).bind _ = _
    rw [members?_named]
    rfl
  rw [hread]
  exact ⟨describes_of_read, read_of_describes⟩

/-! ## Documents and files -/

/-- Trees under a key that are the same for its field. -/
def Key.Same : Key → Tree → Tree → Prop
  | nodePorts => AlikePorts
  | _ => Eq

theorem Key.says_iff (key : Key) (t t' : Tree) (h : key.Same t t') (a : key.Value) :
    key.Says t a ↔ key.Says t' a := by
  cases key with
  | nodePorts => exact AlikePorts.says_iff h a
  | _ =>
      obtain rfl : t = t' := h
      exact Iff.rfl

/-- Documents that differ in the order of their members, in members under other keys, and in the
    same things inside the objects of port mappings. -/
def Alike (members members' : List (String × Tree)) : Prop :=
  ∀ key : Key, SameUnder key.text key.Same members members'

theorem Key.text_mem (key : Key) : key.text ∈ fieldNames := by
  cases key <;> decide

/-- Neither the order of the members nor members under other keys make a difference. -/
theorem alike_of_perm (h : (members.filter (·.1 ∈ fieldNames)).Perm
    (members'.filter (·.1 ∈ fieldNames))) : Alike members members' := by
  intro key
  have hperm : (under key.text members).Perm (under key.text members') := by
    rw [← under_filter key.text_mem members, ← under_filter key.text_mem members']
    exact (h.filter _).map _
  refine ⟨under key.text members', hperm, List.forall₂_same.2 ?_⟩
  intro t _
  cases key with
  | nodePorts => exact .same t
  | _ => exact (rfl : t = t)

theorem Alike.describes_iff (h : Alike members members') :
    Describes members o ↔ Describes members' o :=
  forall_congr' fun key => (h key).holdsOr_iff key.says_iff

theorem ofJson_eq_ok_iff {text : String} (htext : IsText text (.object (named members))) :
    ofJson text = .ok o ↔ Describes members o := by
  have hread : Json.read read text = read format ⟨.object (named members), 0⟩ := by
    rw [Json.read, ofText?_of_isText htext]
    rfl
  rw [ofJson, hread, ← read_eq_some_iff]
  cases read format ⟨.object (named members), 0⟩ with
  | none => constructor <;> rintro ⟨⟩
  | some options => rw [Except.ok.injEq, Option.some.injEq]

/-- What is no options document is reported as such. -/
theorem ofJson_cases (text : String) :
    (∃ options, ofJson text = .ok options) ∨ ofJson text = .error .json := by
  rw [ofJson]
  cases Json.read read text with
  | none => exact Or.inr rfl
  | some options => exact Or.inl ⟨options, rfl⟩

theorem ofJson_congr {text text' : String} (htext : IsText text (.object (named members)))
    (htext' : IsText text' (.object (named members'))) (h : Alike members members') :
    ofJson text' = ofJson text := by
  have hsame : ∀ options, ofJson text' = .ok options ↔ ofJson text = .ok options := by
    intro options
    rw [ofJson_eq_ok_iff htext, ofJson_eq_ok_iff htext', h.describes_iff]
  rcases ofJson_cases text with ⟨options, hok⟩ | herror
  · rw [hok]
    exact (hsame options).2 hok
  · rcases ofJson_cases text' with ⟨options, hok⟩ | herror'
    · rw [(hsame options).1 hok] at herror
      cases herror
    · rw [herror, herror']

theorem isYamlPath_eq_false {path : String} (hyaml : Path.extension? path ≠ some "yaml")
    (hyml : Path.extension? path ≠ some "yml") : isYamlPath path = false := by
  rw [isYamlPath]
  cases h : Path.extension? path with
  | none => rfl
  | some e =>
      rw [h] at hyaml hyml
      simpa using And.intro hyaml hyml

variable {σ : Type} {handle : Handler World.calls σ} {s : σ} {path text : String}

/-- What is loaded from a file that is not for YAML is what its text says in JSON. -/
theorem load_text (hpath : isYamlPath path = false)
    (hread : (handle (.host (.readFile path)) s).1 = Except.ok text.toUTF8.toList) :
    ((load path).run.run handle s).1 = ofJson text := by
  rw [load_of_read hread, ofBytes, Text.decode?_toUTF8]
  show (if isYamlPath path = true then ofYaml text else ofJson text) = _
  rw [hpath]
  rfl

/-- **OPTIONS ARE LOADED FROM THEIR DOCUMENTS**, and from no others.  A file that is not for YAML
    and holds a JSON object is loaded exactly if each of the keys of options comes once at most
    in the object, with a value of its field; the options are then those that the object
    describes; and no other object that is alike is loaded otherwise, as one is that has the
    members of those keys in another order, and whatever other members. -/
theorem loads_described (hyaml : Path.extension? path ≠ some "yaml")
    (hyml : Path.extension? path ≠ some "yml")
    (hread : (handle (.host (.readFile path)) s).1 = Except.ok text.toUTF8.toList)
    (htext : IsText text (.object (named members))) :
    let loaded := ((load path).run.run handle s).1
    ((∃ o, loaded = .ok o) ↔ Acceptable members) ∧
    (∀ o, loaded = .ok o ↔ Describes members o) ∧
    (∀ s' text' members', (handle (.host (.readFile path)) s').1 = Except.ok text'.toUTF8.toList →
      IsText text' (.object (named members')) → Alike members members' →
      ((load path).run.run handle s').1 = loaded) ∧
    ∀ members', (members.filter (·.1 ∈ fieldNames)).Perm (members'.filter (·.1 ∈ fieldNames)) →
      Alike members members' := by
  intro loaded
  have hpath := isYamlPath_eq_false hyaml hyml
  have hloaded : loaded = ofJson text := load_text hpath hread
  have hdescribes : ∀ o, loaded = .ok o ↔ Describes members o := by
    intro o
    rw [hloaded]
    exact ofJson_eq_ok_iff htext
  refine ⟨?_, hdescribes, ?_, fun _ => alike_of_perm⟩
  · rw [← exists_describes_iff]
    exact exists_congr hdescribes
  · intro s' text' members' hread' htext' halike
    rw [load_text hpath hread', hloaded]
    exact ofJson_congr htext htext' halike

/-- A document with an escape in a key, a key that is not known, and a port mapping by position. -/
def mixed : String := "\x7b\"w\\u006frkers\": 2, \"x\": [null], \"nodePorts\": [[80, 8080]]\x7d"

/-- Its members. -/
def mixedMembers : List (String × Tree) :=
  let number (digits : List Char) : Tree := .number ⟨false, digits, none, none⟩
  [("workers", number ['2']), ("x", .array [.null]),
    ("nodePorts", .array [.array [number ['8', '0'], number ['8', '0', '8', '0']]])]

theorem isText_mixed : IsText mixed (.object (named mixedMembers)) := by
  have hblank : AllSpace [' '] := by
    intro c hc
    rw [List.mem_singleton.1 hc]
    rfl
  have hkey : Denotes ('w' :: '\\' :: 'u' :: (['0', '0', '6', 'f'] ++ "rkers".toList))
      "workers".toList := by
    have hdigits : CodeDigits ['0', '0', '6', 'f'] 0x6f :=
      .intro (w := 0) (x := 0) (y := 6) (z := 15) (by decide) (by decide) (by decide) (by decide)
    exact .char (by decide) (by decide) (by decide)
      (.code hdigits (Or.inl (by decide)) (denotes_plain rfl))
  have hunknown : Denotes ['x'] "x".toList := denotes_plain rfl
  have hportsKey : Denotes "nodePorts".toList "nodePorts".toList := denotes_plain rfl
  have hport := WritesItems.cons allSpace_nil (writes_digits '8' ['0'] (by decide) rfl)
    allSpace_nil (.last hblank (writes_digits '8' ['0', '8', '0'] (by decide) rfl)
      allSpace_nil)
  have hports := WritesItems.last allSpace_nil (.array hport) allSpace_nil
  have hnull := WritesItems.last allSpace_nil .null allSpace_nil
  have hmembers := WritesMembers.cons allSpace_nil hkey allSpace_nil hblank
    (writes_digits '2' [] (by decide) rfl) allSpace_nil
    (.cons hblank hunknown allSpace_nil hblank (.array hnull) allSpace_nil
      (.last hblank hportsKey allSpace_nil hblank (.array hports) allSpace_nil))
  refine ⟨[], _, [], ?_, allSpace_nil, .object hmembers, allSpace_nil⟩
  decide +kernel

/-- A machine with the document in a file. -/
def library : Scripted.Scene where
  machine := { tempDir := "/tmp", disk := { files := [(["mixed.json"], mixed.toUTF8.toList)] } }

theorem loads_described_mixed :
    ((load "/mixed.json").run.run Scripted.Scene.handle library).1 =
        .ok { workers := 2, nodePorts := [⟨80, 8080⟩] } ∧
      Acceptable mixedMembers ∧
      Describes mixedMembers { workers := 2, nodePorts := [⟨80, 8080⟩] } := by
  have hread : (Scripted.Scene.handle (.host (.readFile "/mixed.json")) library).1 =
      Except.ok mixed.toUTF8.toList := by
    show library.machine.disk.read "/mixed.json" = .ok mixed.toUTF8.toList
    decide +kernel
  have hloaded : ((load "/mixed.json").run.run Scripted.Scene.handle library).1 =
      .ok { workers := 2, nodePorts := [⟨80, 8080⟩] } := by
    decide +kernel
  obtain ⟨haccepts, hdescribes, -⟩ :=
    loads_described (by decide +kernel) (by decide +kernel) hread isText_mixed
  exact ⟨hloaded, haccepts.1 ⟨_, hloaded⟩, (hdescribes _).1 hloaded⟩

end Options

end TestCluster
