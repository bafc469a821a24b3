import TestCluster.Proofs.BlockLines
import TestCluster.Proofs.DistinctKeys
import TestCluster.Yaml.Format

/-!
# Nodes of a block — the value that a row of tokens lays out

    The tokens of a block without anchors, tags and brackets lay out a value (`Lays`): a scalar
    is one token, a mapping stands between its start and its end, and a sequence stands at the
    column of the mapping it is in, one dash for each item.  Such tokens are read as one node,
    no aliases have to be settled in it, and its value is the one that was laid out.
-/

namespace TestCluster.Yaml

/-! ## Layouts -/

mutual

/-- The tokens lay out a value at a place, with collections nested no deeper than said. -/
inductive Lays : Node.Place → Nat → List Token → Value → Prop where
  | scalar {place : Node.Place} {depth : Nat} {style : ScalarStyle} {text : List Char}
      {v : Value} :
      Document.scalarValue {} style text = some v →
      Lays place depth [.scalar style text] v
  | mapping {place : Node.Place} {depth : Nat} {ts : List Token}
      {members : List (String × Value)} :
      place ≠ .flow → LaysMembers depth ts members →
      Lays place (depth + 1) (.blockMappingStart :: (ts ++ [.blockEnd]))
        (.object (Members.ofList members))
  | sequence {depth : Nat} {ts : List Token} {items : List Value} :
      items ≠ [] → LaysItems depth ts items → Lays .member (depth + 1) ts (.array items)

/-- The tokens lay out the items of a sequence. -/
inductive LaysItems : Nat → List Token → List Value → Prop where
  | nil {depth : Nat} : LaysItems depth [] []
  | cons {depth : Nat} {ts more : List Token} {v : Value} {vs : List Value} :
      Lays .block depth ts v → LaysItems depth more vs →
      LaysItems depth (.blockEntry :: (ts ++ more)) (v :: vs)

/-- The tokens lay out the members of a mapping, whose keys are plain texts. -/
inductive LaysMembers : Nat → List Token → List (String × Value) → Prop where
  | nil {depth : Nat} : LaysMembers depth [] []
  | cons {depth : Nat} {key : List Char} {ts more : List Token} {v : Value}
      {members : List (String × Value)} :
      Document.scalarValue {} .plain key = some (.string (String.ofList key)) →
      Lays .member depth ts v → LaysMembers depth more members →
      LaysMembers depth (.key :: .scalar .plain key :: .value :: (ts ++ more))
        ((String.ofList key, v) :: members)

end

/-- A mapping whose keys are distinct lays out its members as they stand. -/
theorem Lays.object {place : Node.Place} {depth : Nat} {ts : List Token}
    {members : List (String × Value)} (hplace : place ≠ .flow) (h : LaysMembers depth ts members)
    (hkeys : (members.map (·.1)).Nodup) :
    Lays place (depth + 1) (.blockMappingStart :: (ts ++ [.blockEnd])) (.object members) := by
  have hmapping := Lays.mapping hplace h
  rwa [Members.ofList_of_nodup hkeys] at hmapping

/-! ## Tokens that are read as a node -/

namespace Node

/-- The tokens are read as a node, whatever follows them; but after a sequence at the column of
    its mapping no further entry may follow. -/
structure StandsFor (place : Place) (ts : List Token) (node : Named) : Prop where
  starts : ∀ rest, leavesEmpty (decide (place = .block)) true (ts ++ rest) = false
  reads : ∀ handles rest fuel, 4 * ts.length + 2 ≤ fuel →
    (place = .member → rest.head? ≠ some .blockEntry) →
    read handles fuel place (ts ++ rest) = some (node, rest)

/-- The tokens are read as the items of a sequence. -/
def StandForItems (ts : List Token) (items : List Named) : Prop :=
  ∀ handles rest fuel, 4 * ts.length + 1 ≤ fuel → rest.head? ≠ some .blockEntry →
    flatItems handles fuel (ts ++ rest) = some (items, rest)

/-- The tokens are read as the members of a mapping that ends after them. -/
def StandForMembers (ts : List Token) (members : List (Named × Named)) : Prop :=
  ∀ handles rest fuel, 4 * ts.length + 2 ≤ fuel →
    blockMembers handles fuel (ts ++ .blockEnd :: rest) = some (members, rest)

variable {place : Place} {ts more : List Token} {node : Named} {items : List Named}
  {members : List (Named × Named)}

theorem standsFor_scalar (place : Place) (style : ScalarStyle) (text : List Char) :
    StandsFor place [.scalar style text] (.scalar {} style text) where
  starts rest := rfl
  reads := by
    intro handles rest fuel hfuel _
    obtain ⟨fuel, rfl⟩ : ∃ n, fuel = n + 1 := ⟨fuel - 1, by omega⟩
    rfl

theorem standsFor_mapping (hplace : place ≠ .flow) (h : StandForMembers ts members) :
    StandsFor place (.blockMappingStart :: (ts ++ [.blockEnd])) (.mapping {} members) where
  starts rest := rfl
  reads := by
    intro handles rest fuel hfuel _
    simp only [List.length_cons, List.length_append] at hfuel
    obtain ⟨fuel, rfl⟩ : ∃ n, fuel = n + 1 := ⟨fuel - 1, by omega⟩
    have hmembers := h handles rest fuel (by omega)
    show (if place = .flow then _
      else (blockMembers handles fuel (ts ++ [.blockEnd] ++ rest)).map _) = _
    rw [if_neg hplace, List.append_assoc]
    exact congrArg (Option.map _) hmembers

theorem standForItems_nil : StandForItems [] [] := by
  intro handles rest fuel hfuel hrest
  obtain ⟨fuel, rfl⟩ : ∃ n, fuel = n + 1 := ⟨fuel - 1, by omega⟩
  rw [List.nil_append, flatItems]
  rintro ts rfl
  exact hrest rfl

theorem readUnless_false {handles : Handles} {fuel : Nat} {place : Place} {ts : List Token} :
    readUnless handles (fuel + 1) false place ts = read handles fuel place ts := rfl

theorem standForItems_cons (hnode : StandsFor .block ts node) (hitems : StandForItems more items) :
    StandForItems (.blockEntry :: (ts ++ more)) (node :: items) := by
  intro handles rest fuel hfuel hrest
  simp only [List.length_cons, List.length_append] at hfuel
  obtain ⟨fuel, rfl⟩ : ∃ n, fuel = n + 3 := ⟨fuel - 3, by omega⟩
  have hread := hnode.reads handles (more ++ rest) (fuel + 1) (by omega) (by rintro ⟨⟩)
  have hmore := hitems handles rest (fuel + 2) (by omega) hrest
  have hstarts := hnode.starts (more ++ rest)
  show ((readUnless handles (fuel + 2) (leavesEmpty true true (ts ++ more ++ rest)) .block
      (ts ++ more ++ rest)).bind fun x =>
    (flatItems handles (fuel + 2) x.2).bind fun y => some (x.1 :: y.1, y.2)) = _
  rw [List.append_assoc, show leavesEmpty true true (ts ++ (more ++ rest)) = false from hstarts,
    readUnless_false, hread, Option.bind_some, hmore, Option.bind_some]

theorem standsFor_sequence (hnode : StandsFor .block ts node) (hitems : StandForItems more items) :
    StandsFor .member (.blockEntry :: (ts ++ more)) (.sequence {} (node :: items)) where
  starts rest := rfl
  reads := by
    intro handles rest fuel hfuel hrest
    obtain ⟨fuel, rfl⟩ : ∃ n, fuel = n + 1 := ⟨fuel - 1, by omega⟩
    have hread := standForItems_cons hnode hitems handles rest fuel (by omega) (hrest rfl)
    exact congrArg (Option.map _) hread

theorem standForMembers_nil : StandForMembers [] [] := by
  intro handles rest fuel hfuel
  obtain ⟨fuel, rfl⟩ : ∃ n, fuel = n + 1 := ⟨fuel - 1, by omega⟩
  rfl

theorem standForMembers_cons {key : List Char} (hnode : StandsFor .member ts node)
    (hmembers : StandForMembers more members)
    (hmore : ∀ rest, (more ++ Token.blockEnd :: rest).head? ≠ some .blockEntry) :
    StandForMembers (.key :: .scalar .plain key :: .value :: (ts ++ more))
      ((.scalar {} .plain key, node) :: members) := by
  intro handles rest fuel hfuel
  simp only [List.length_cons, List.length_append] at hfuel
  obtain ⟨fuel, rfl⟩ : ∃ n, fuel = n + 4 := ⟨fuel - 4, by omega⟩
  have hread := hnode.reads handles (more ++ Token.blockEnd :: rest) (fuel + 1) (by omega)
    fun _ => hmore rest
  have hrest := hmembers handles rest (fuel + 3) (by omega)
  have hstarts := hnode.starts (more ++ Token.blockEnd :: rest)
  show ((readUnless handles (fuel + 2)
      (leavesEmpty false true (ts ++ more ++ Token.blockEnd :: rest)) .member
      (ts ++ more ++ Token.blockEnd :: rest)).bind fun x =>
    (blockMembers handles (fuel + 3) x.2).bind fun y =>
      some ((Node.scalar {} .plain key, x.1) :: y.1, y.2)) = _
  rw [List.append_assoc,
    show leavesEmpty false true (ts ++ (more ++ Token.blockEnd :: rest)) = false from hstarts,
    readUnless_false, hread, Option.bind_some, hrest, Option.bind_some]

end Node

/-! ## Nodes without aliases -/

namespace Document

/-- There is nothing to settle in a node. -/
def Clear (node : Node.Named) (node' : Node.Numbered) : Prop :=
  ∀ a, settle a node = some (node', a)

/-- There is nothing to settle in the items of a sequence. -/
def ClearItems (items : List Node.Named) (items' : List Node.Numbered) : Prop :=
  ∀ a, settleItems a items = some (items', a)

/-- There is nothing to settle in the members of a mapping. -/
def ClearMembers (members : List (Node.Named × Node.Named))
    (members' : List (Node.Numbered × Node.Numbered)) : Prop :=
  ∀ a, settleMembers a members = some (members', a)

theorem clear_scalar (style : ScalarStyle) (text : List Char) :
    Clear (.scalar {} style text) (.scalar {} style text) := by
  intro a
  rw [settle]
  rfl

theorem clear_sequence {items : List Node.Named} {items' : List Node.Numbered}
    (h : ClearItems items items') : Clear (.sequence {} items) (.sequence {} items') := by
  intro a
  have hinner := h { a with nodes := [] }
  rw [settle]
  simp [Anchors.enter, hinner, Anchors.keep]

theorem clear_mapping {members : List (Node.Named × Node.Named)}
    {members' : List (Node.Numbered × Node.Numbered)} (h : ClearMembers members members') :
    Clear (.mapping {} members) (.mapping {} members') := by
  intro a
  have hinner := h { a with nodes := [] }
  rw [settle]
  simp [Anchors.enter, hinner, Anchors.keep]

theorem clearItems_cons {node : Node.Named} {node' : Node.Numbered} {items : List Node.Named}
    {items' : List Node.Numbered} (hnode : Clear node node') (hitems : ClearItems items items') :
    ClearItems (node :: items) (node' :: items') := by
  intro a
  rw [settleItems, hnode a]
  simp [hitems a]

theorem clearMembers_cons {key node : Node.Named} {key' node' : Node.Numbered}
    {members : List (Node.Named × Node.Named)}
    {members' : List (Node.Numbered × Node.Numbered)} (hkey : Clear key key')
    (hnode : Clear node node') (hmembers : ClearMembers members members') :
    ClearMembers ((key, node) :: members) ((key', node') :: members') := by
  intro a
  rw [settleMembers, hkey a]
  simp [hnode a, hmembers a]

theorem clearItems_nil : ClearItems [] [] := fun _ => rfl

theorem clearMembers_nil : ClearMembers [] [] := fun _ => rfl

/-! ## Values of nodes -/

/-- In every document the value of a node is the given one, where so many collections may be
    nested. -/
def Means (depth : Nat) (node : Node.Numbered) (v : Value) : Prop :=
  ∀ (d : Document) room, depth ≤ room → d.valueAt false room node = pure v

/-- The values of the items of a sequence. -/
def ItemsMean (depth : Nat) (items : List Node.Numbered) (vs : List Value) : Prop :=
  ∀ (d : Document) room, depth ≤ room → items.mapM (d.valueAt false room) = pure vs

/-- The texts and values of the members of a mapping. -/
def MembersMean (depth : Nat) (nodes : List (Node.Numbered × Node.Numbered))
    (members : List (String × Value)) : Prop :=
  ∀ (d : Document) room, depth ≤ room →
    (nodes.mapM fun (key, value) => do
      pure (← d.keyText false room (d.valueAt false room) key, ← d.valueAt false room value)) =
      (pure members : Reading (List (String × Value)))

variable {depth : Nat}

theorem means_scalar {style : ScalarStyle} {text : List Char} {v : Value}
    (h : scalarValue {} style text = some v) : Means depth (.scalar {} style text) v := by
  intro d room hroom
  cases room with
  | zero =>
      show scalar {} style text = _
      rw [scalar, h]
  | succ room =>
      show scalar {} style text = _
      rw [scalar, h]

theorem means_sequence {items : List Node.Numbered} {vs : List Value}
    (h : ItemsMean depth items vs) : Means (depth + 1) (.sequence {} items) (.array vs) := by
  intro d room hroom
  obtain ⟨room, rfl⟩ : ∃ n, room = n + 1 := ⟨room - 1, by omega⟩
  show Value.array <$> items.mapM (d.valueAt false room) = _
  rw [h d room (by omega)]
  rfl

theorem means_mapping {nodes : List (Node.Numbered × Node.Numbered)}
    {members : List (String × Value)} (h : MembersMean depth nodes members) :
    Means (depth + 1) (.mapping {} nodes) (.object (Members.ofList members)) := by
  intro d room hroom
  obtain ⟨room, rfl⟩ : ∃ n, room = n + 1 := ⟨room - 1, by omega⟩
  show (do
    let members ← nodes.mapM fun (key, value) => do
      pure (← d.keyText false room (d.valueAt false room) key, ← d.valueAt false room value)
    pure (Value.object (Members.ofList members)) : Reading Value) = _
  rw [h d room (by omega)]
  rfl

theorem itemsMean_nil : ItemsMean depth [] [] := fun _ _ _ => rfl

theorem itemsMean_cons {node : Node.Numbered} {items : List Node.Numbered} {v : Value}
    {vs : List Value} (hnode : Means depth node v) (hitems : ItemsMean depth items vs) :
    ItemsMean depth (node :: items) (v :: vs) := by
  intro d room hroom
  rw [List.mapM_cons, hnode d room hroom, hitems d room hroom]
  rfl

theorem membersMean_nil : MembersMean depth [] [] := fun _ _ _ => rfl

theorem membersMean_cons {key : List Char} {node : Node.Numbered}
    {nodes : List (Node.Numbered × Node.Numbered)} {v : Value} {members : List (String × Value)}
    (hkey : scalarValue {} .plain key = some (.string (String.ofList key)))
    (hnode : Means depth node v) (hnodes : MembersMean depth nodes members) :
    MembersMean depth ((.scalar {} .plain key, node) :: nodes)
      ((String.ofList key, v) :: members) := by
  intro d room hroom
  have hkeyText : d.keyText false room (d.valueAt false room) (.scalar {} .plain key) =
      pure (String.ofList key) := by
    rw [keyText, if_neg Bool.false_ne_true, means_scalar hkey d room (Nat.le_refl _)]
    rfl
  rw [List.mapM_cons, hnodes d room hroom]
  dsimp only
  rw [hkeyText, hnode d room hroom]
  rfl

end Document

/-! ## Reading a layout -/

open Node Document

mutual

/-- Tokens that lay out a value are read as a node that means it. -/
theorem Lays.reads {place : Node.Place} {depth : Nat} {ts : List Token} {v : Value} :
    Lays place depth ts v → ∃ named numbered, StandsFor place ts named ∧
      Clear named numbered ∧ Means depth numbered v
  | .scalar h => ⟨_, _, standsFor_scalar _ _ _, clear_scalar _ _, means_scalar h⟩
  | .mapping hplace h => by
      obtain ⟨nameds, numbereds, hstand, hclear, hmean, -⟩ := h.reads
      exact ⟨_, _, standsFor_mapping hplace hstand, clear_mapping hclear, means_mapping hmean⟩
  | .sequence hne .nil => absurd rfl hne
  | .sequence _ (.cons hitem hitems) => by
      obtain ⟨named, numbered, hstands, hclear, hmeans⟩ := hitem.reads
      obtain ⟨nameds, numbereds, hstand, hclears, hmean⟩ := hitems.reads
      exact ⟨_, _, standsFor_sequence hstands hstand,
        clear_sequence (clearItems_cons hclear hclears),
        means_sequence (itemsMean_cons hmeans hmean)⟩

theorem LaysItems.reads {depth : Nat} {ts : List Token} {vs : List Value} :
    LaysItems depth ts vs → ∃ nameds numbereds, StandForItems ts nameds ∧
      ClearItems nameds numbereds ∧ ItemsMean depth numbereds vs
  | .nil => ⟨_, _, standForItems_nil, clearItems_nil, itemsMean_nil⟩
  | .cons hitem hitems => by
      obtain ⟨named, numbered, hstands, hclear, hmeans⟩ := hitem.reads
      obtain ⟨nameds, numbereds, hstand, hclears, hmean⟩ := hitems.reads
      exact ⟨_, _, standForItems_cons hstands hstand, clearItems_cons hclear hclears,
        itemsMean_cons hmeans hmean⟩

theorem LaysMembers.reads {depth : Nat} {ts : List Token} {members : List (String × Value)} :
    LaysMembers depth ts members → ∃ nameds numbereds, StandForMembers ts nameds ∧
      ClearMembers nameds numbereds ∧ MembersMean depth numbereds members ∧
      ∀ rest, (ts ++ Token.blockEnd :: rest).head? ≠ some .blockEntry
  | .nil => ⟨_, _, standForMembers_nil, clearMembers_nil, membersMean_nil, fun _ => nofun⟩
  | .cons hkey hvalue hmore => by
      obtain ⟨named, numbered, hstands, hclear, hmeans⟩ := hvalue.reads
      obtain ⟨nameds, numbereds, hstand, hclears, hmean, hhead⟩ := hmore.reads
      exact ⟨_, _, standForMembers_cons hstands hstand hhead,
        clearMembers_cons (clear_scalar _ _) hclear hclears, membersMean_cons hkey hmeans hmean,
        fun _ => nofun⟩

end

/-- A text whose tokens lay out a mapping is a document that holds it. -/
theorem read_of_lays {s : String} {ts : List Token} {depth : Nat} {v : Value}
    (htokens : Token.ofChars? s.toList = some (.blockMappingStart :: ts))
    (h : Lays .block depth (.blockMappingStart :: ts) v) (hdepth : depth ≤ depthLimit) :
    (Document.single? s).bind (Document.read (·.value)) = some v := by
  obtain ⟨named, numbered, hstands, hclear, hmeans⟩ := h.reads
  have hread := hstands.reads Handles.standard [] (4 * (ts.length + 1) + 4)
    (by simp only [List.length_cons]; omega) (by rintro ⟨⟩)
  rw [List.append_nil] at hread
  have hcontent : content (.blockMappingStart :: ts) = some (named, []) := hread
  have hnodes : nodes (ts.length + 1) true (.blockMappingStart :: ts) = some [named] := by
    rw [nodes]
    · simp [hcontent, nodes]
    · rintro ⟨⟩
  have hall : all? s = some [⟨some numbered, [], named.size⟩] := by
    rw [all?, htokens]
    show (do
      let nodes ← nodes (ts.length + 1) true (.blockMappingStart :: ts)
      if nodes.isEmpty then some [void] else nodes.mapM ofNode) = _
    rw [hnodes]
    show [named].mapM ofNode = _
    simp [ofNode, hclear {}]
  rw [single?, hall]
  show ((Document.value _ false ⟨some numbered, depthLimit⟩) _).map (·.1) = _
  rw [Document.value]
  dsimp only
  rw [hmeans _ _ hdepth]
  rfl

end TestCluster.Yaml
