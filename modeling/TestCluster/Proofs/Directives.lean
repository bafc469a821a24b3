import Mathlib.Data.List.Chain
import TestCluster.Yaml.Document

/-!
# Directives — what may follow one

    A directive says something about a document that is announced after it. In a row of tokens
    that is read as documents, every directive is followed by another one or by the start of
    the document. No node takes a directive, and what is read before a document's start is
    nothing but directives.
-/

namespace TestCluster.Yaml

namespace Token

/-- Whether the token is a directive. -/
def isDirective : Token → Bool
  | versionDirective .. | tagDirective .. => true
  | _ => false

/-- Whether the token is a directive or the start of a document. -/
def announces : Token → Bool
  | versionDirective .. | tagDirective .. | documentStart => true
  | _ => false

end Token

/-- Every directive is followed by another one or by the start of a document. -/
def Announced (ts : List Token) : Prop :=
  ts.IsChain fun t u => t.isDirective = true → u.announces = true

/-- No directive among the tokens before the rest lacks its document. -/
def Settles (ts rest : List Token) : Prop := Announced rest → Announced ts

namespace Settles

variable {t : Token} {ts us vs : List Token}

@[refl] theorem refl (ts : List Token) : Settles ts ts := id

theorem trans (h : Settles ts us) (h' : Settles us vs) : Settles ts vs := h ∘ h'

/-- A token that is no directive asks for nothing. -/
theorem cons (ht : t.isDirective = false) (h : Settles ts us) : Settles (t :: ts) us :=
  fun hus => (h hus).cons fun _ _ hd => absurd hd (ht ▸ Bool.false_ne_true)

end Settles

/-- Whatever is read, no directive before what is left lacks its document. -/
def Leaves {α : Type} (ts : List Token) (o : Option (α × List Token)) : Prop :=
  ∀ x ∈ o, Settles ts x.2

section Leaves

variable {α β : Type} {t : Token} {ts us : List Token} {o : Option (α × List Token)}

theorem leaves_none : Leaves ts (none : Option (α × List Token)) := nofun

theorem leaves_some {a : α} (h : Settles ts us) : Leaves ts (some (a, us)) := by
  rintro _ ⟨⟩
  exact h

theorem Leaves.cons (ht : t.isDirective = false) (h : Leaves ts o) : Leaves (t :: ts) o :=
  fun x hx => (h x hx).cons ht

theorem Leaves.of_settles (h : Settles ts us) (ho : Leaves us o) : Leaves ts o :=
  fun x hx => h.trans (ho x hx)

theorem Leaves.map {f : α × List Token → β × List Token} (h : Leaves ts o)
    (hf : ∀ x, (f x).2 = x.2) : Leaves ts (o.map f) := by
  intro y hy
  obtain ⟨x, hx, rfl⟩ := Option.map_eq_some_iff.1 hy
  rw [hf]
  exact h x hx

theorem Leaves.bind {f : α × List Token → Option (β × List Token)} (h : Leaves ts o)
    (hf : ∀ x, Leaves x.2 (f x)) : Leaves ts (o.bind f) := by
  intro y hy
  obtain ⟨x, hx, hy⟩ := Option.bind_eq_some_iff.1 hy
  exact (h x hx).trans (hf x y hy)

end Leaves

namespace Node

variable {handles : Handles} {fuel : Nat}

theorem leaves_label (ts : List Token) : Leaves ts (label handles ts) := by
  have tagged {us : List Token} {o : Option (List Char)} (f : List Char → Label)
      (h : Settles ts us) : Leaves ts (o.map fun tag => (f tag, us)) := by
    cases o with
    | none => exact leaves_none
    | some tag => exact leaves_some h
  simp only [label]
  split
  · exact tagged _ (.cons rfl (.cons rfl (.refl _)))
  · exact tagged _ (.cons rfl (.cons rfl (.refl _)))
  · exact leaves_some (.cons rfl (.refl _))
  · exact tagged _ (.cons rfl (.refl _))
  · exact leaves_some (.refl _)

theorem leaves_bare (label : Label) (ts : List Token) : Leaves ts (bare label ts) := by
  rw [bare]
  split
  · exact leaves_none
  · exact leaves_some (.refl ts)

/-- What ends an empty key is no directive. -/
theorem settles_emptyKey {closing : Token} {ts : List Token} (hc : closing.isDirective = false)
    (h : ts.head? = some .value || endsFlowEntry closing ts) : Settles ts (ts.drop 1) := by
  cases ts with
  | nil => exact .refl _
  | cons t ts =>
      refine .cons ?_ (.refl ts)
      simp only [List.head?_cons, Option.some.injEq, endsFlowEntry, Bool.or_eq_true,
        decide_eq_true_eq, beq_iff_eq] at h
      rcases h with rfl | rfl | rfl
      · rfl
      · rfl
      · exact hc

/-- None of the readers of the grammar takes a directive. -/
structure Settled (handles : Handles) (fuel : Nat) : Prop where
  read : ∀ place ts, Leaves ts (Node.read handles fuel place ts)
  readUnless : ∀ isEmpty place ts, Leaves ts (Node.readUnless handles fuel isEmpty place ts)
  blockItems : ∀ ts, Leaves ts (Node.blockItems handles fuel ts)
  flatItems : ∀ ts, Leaves ts (Node.flatItems handles fuel ts)
  blockMembers : ∀ ts, Leaves ts (Node.blockMembers handles fuel ts)
  blockValue : ∀ ts, Leaves ts (Node.blockValue handles fuel ts)
  flowItems : ∀ first ts, Leaves ts (Node.flowItems handles fuel first ts)
  flowPair : ∀ ts, Leaves ts (Node.flowPair handles fuel ts)
  flowValue : ∀ closing ts, Leaves ts (Node.flowValue handles fuel closing ts)
  flowMembers : ∀ first ts, Leaves ts (Node.flowMembers handles fuel first ts)

theorem settled_zero : Settled handles 0 := by
  constructor <;> intros <;> exact leaves_none

namespace Settled

variable (h : Settled handles fuel)

include h

theorem read_succ (place : Place) (ts : List Token) :
    Leaves ts (Node.read handles (fuel + 1) place ts) := by
  rw [Node.read.eq_def]
  dsimp only
  split
  · exact leaves_some (.cons rfl (.refl _))
  -- a label, and then the node that it belongs to
  · have hlabel : Leaves ts (label handles ts) := leaves_label ts
    split
    · exact leaves_none
    · rename_i label us hus
      refine .of_settles (hlabel _ hus) ?_
      split
      · exact leaves_some (.cons rfl (.refl _))
      · exact .cons rfl (.map (h.flowItems _ _) fun _ => rfl)
      · exact .cons rfl (.map (h.flowMembers _ _) fun _ => rfl)
      · split
        · exact leaves_bare _ _
        · exact .cons rfl (.map (h.blockItems _) fun _ => rfl)
      · split
        · exact leaves_bare _ _
        · exact .cons rfl (.map (h.blockMembers _) fun _ => rfl)
      · split
        · exact .map (h.flatItems _) fun _ => rfl
        · exact leaves_bare _ _
      · exact leaves_bare _ _

theorem readUnless_succ (isEmpty : Bool) (place : Place) (ts : List Token) :
    Leaves ts (Node.readUnless handles (fuel + 1) isEmpty place ts) := by
  rw [Node.readUnless]
  split
  · exact leaves_some (.refl ts)
  · exact h.read place ts

theorem blockItems_succ (ts : List Token) :
    Leaves ts (Node.blockItems handles (fuel + 1) ts) := by
  rw [Node.blockItems.eq_def]
  dsimp only
  split
  · exact leaves_some (.cons rfl (.refl _))
  · refine (Leaves.bind (h.readUnless _ _ _) fun x => ?_).cons rfl
    exact (h.blockItems x.2).bind fun y => leaves_some (.refl _)
  · exact leaves_none

theorem flatItems_succ (ts : List Token) :
    Leaves ts (Node.flatItems handles (fuel + 1) ts) := by
  rw [Node.flatItems.eq_def]
  dsimp only
  split
  · refine (Leaves.bind (h.readUnless _ _ _) fun x => ?_).cons rfl
    exact (h.flatItems x.2).bind fun y => leaves_some (.refl _)
  · exact leaves_some (.refl _)

theorem blockMembers_succ (ts : List Token) :
    Leaves ts (Node.blockMembers handles (fuel + 1) ts) := by
  rw [Node.blockMembers.eq_def]
  dsimp only
  split
  · exact leaves_some (.cons rfl (.refl _))
  · refine (Leaves.bind (h.readUnless _ _ _) fun x => ?_).cons rfl
    refine (h.blockValue x.2).bind ?_
    intro y
    exact (h.blockMembers y.2).bind fun z => leaves_some (.refl _)
  · exact leaves_none

theorem blockValue_succ (ts : List Token) :
    Leaves ts (Node.blockValue handles (fuel + 1) ts) := by
  rw [Node.blockValue.eq_def]
  dsimp only
  split
  · exact (h.readUnless _ _ _).cons rfl
  · exact leaves_some (.refl _)

/-- An entry of a flow sequence, wherever it starts, and the entries after it. -/
theorem flowEntries (ts : List Token) : Leaves ts (match ts with
    | .flowSequenceEnd :: ts => some ([], ts)
    | .key :: ts => (Node.flowPair handles fuel ts).bind fun x =>
        (Node.flowItems handles fuel false x.2).bind fun y => some (.mapping {} [x.1] :: y.1, y.2)
    | ts => (Node.read handles fuel .flow ts).bind fun x =>
        (Node.flowItems handles fuel false x.2).bind fun y => some (x.1 :: y.1, y.2)) := by
  split
  · exact leaves_some (.cons rfl (.refl _))
  · refine .cons rfl ((h.flowPair _).bind ?_)
    intro x
    exact (h.flowItems _ x.2).bind fun y => leaves_some (.refl _)
  · refine (h.read _ _).bind ?_
    intro x
    exact (h.flowItems _ x.2).bind fun y => leaves_some (.refl _)

theorem flowItems_succ (first : Bool) (ts : List Token) :
    Leaves ts (Node.flowItems handles (fuel + 1) first ts) := by
  rw [Node.flowItems.eq_def]
  dsimp only
  split
  · exact leaves_some (.cons rfl (.refl _))
  · split
    · exact h.flowEntries ts
    · split
      · exact .cons rfl (h.flowEntries _)
      · exact leaves_none

theorem flowPair_succ (ts : List Token) :
    Leaves ts (Node.flowPair handles (fuel + 1) ts) := by
  rw [Node.flowPair.eq_def]
  dsimp only
  split
  · refine .of_settles (settles_emptyKey rfl ‹_›) ?_
    exact (h.flowValue _ _).bind fun y => leaves_some (.refl _)
  · refine (h.read _ ts).bind ?_
    intro x
    exact (h.flowValue _ x.2).bind fun y => leaves_some (.refl _)

theorem flowValue_succ (closing : Token) (ts : List Token) :
    Leaves ts (Node.flowValue handles (fuel + 1) closing ts) := by
  rw [Node.flowValue.eq_def]
  dsimp only
  split
  · exact (h.readUnless _ _ _).cons rfl
  · exact leaves_some (.refl _)

/-- A member of a flow mapping, wherever it starts, and the members after it. -/
theorem flowPairs (ts : List Token) : Leaves ts (match ts with
    | .flowMappingEnd :: ts => some ([], ts)
    | .key :: ts =>
        (Node.readUnless handles fuel
          (ts.head? = some .value || endsFlowEntry .flowMappingEnd ts) .flow ts).bind fun x =>
        (Node.flowValue handles fuel .flowMappingEnd x.2).bind fun y =>
        (Node.flowMembers handles fuel false y.2).bind fun z => some ((x.1, y.1) :: z.1, z.2)
    | ts => (Node.read handles fuel .flow ts).bind fun x =>
        (Node.flowMembers handles fuel false x.2).bind fun y =>
          some ((x.1, .empty) :: y.1, y.2)) := by
  split
  · exact leaves_some (.cons rfl (.refl _))
  · refine .cons rfl ((h.readUnless _ _ _).bind ?_)
    intro x
    refine (h.flowValue _ x.2).bind ?_
    intro y
    exact (h.flowMembers _ y.2).bind fun z => leaves_some (.refl _)
  · refine (h.read _ _).bind ?_
    intro x
    exact (h.flowMembers _ x.2).bind fun y => leaves_some (.refl _)

theorem flowMembers_succ (first : Bool) (ts : List Token) :
    Leaves ts (Node.flowMembers handles (fuel + 1) first ts) := by
  rw [Node.flowMembers.eq_def]
  dsimp only
  split
  · exact leaves_some (.cons rfl (.refl _))
  · split
    · exact h.flowPairs ts
    · split
      · exact .cons rfl (h.flowPairs _)
      · exact leaves_none

/-- What is read with one more step is read like what is read with one less. -/
theorem succ : Settled handles (fuel + 1) :=
  ⟨h.read_succ, h.readUnless_succ, h.blockItems_succ, h.flatItems_succ, h.blockMembers_succ,
    h.blockValue_succ, h.flowItems_succ, h.flowPair_succ, h.flowValue_succ, h.flowMembers_succ⟩

end Settled

theorem settled (handles : Handles) (fuel : Nat) : Settled handles fuel := by
  induction fuel with
  | zero => exact settled_zero
  | succ fuel ih => exact ih.succ

end Node

namespace Document

/-- The directives before a document's start are followed by it. -/
theorem announced_directives {hasVersion : Bool} {handles handles' : Handles}
    {ts us : List Token}
    (h : directives hasVersion handles ts = some (handles', .documentStart :: us))
    (hus : Announced us) : Announced ts ∧ ts.head?.all Token.announces = true := by
  have follow {t : Token} {ts : List Token} (ht : t.announces = true)
      (h : Announced ts ∧ ts.head?.all Token.announces = true) :
      Announced (t :: ts) ∧ (t :: ts).head?.all Token.announces = true := by
    refine ⟨h.1.cons fun u hu _ => ?_, ht⟩
    have hhead := h.2
    rw [Option.mem_def.1 hu] at hhead
    exact hhead
  fun_induction directives hasVersion handles ts with
  | case1 _ _ _ _ _ _ ih => exact follow rfl (ih h)
  | case2 | case3 => cases h
  | case4 _ _ _ _ _ _ ih => exact follow rfl (ih h)
  | case5 =>
      obtain ⟨-, rfl⟩ := Prod.mk.inj (Option.some.inj h)
      exact ⟨Settles.cons rfl (.refl us) hus, rfl⟩

theorem leaves_content (ts : List Token) : Leaves ts (content ts) := by
  rw [content]
  dsimp only
  split
  · intro x hx
    obtain ⟨⟨handles, us⟩, hus, hx⟩ := Option.bind_eq_some_iff.1 hx
    dsimp only at hx
    split at hx
    · rename_i us
      have hrest : Leaves us (if isBlankContent us then some (.empty, us)
          else Node.read handles (4 * ts.length + 4) .block us) := by
        split
        · exact leaves_some (.refl us)
        · exact (Node.settled handles _).read .block us
      exact fun hleft => (announced_directives hus (hrest x hx hleft)).1
    · cases hx
  · exact (Node.settled _ _).read .block ts

theorem settles_dropWhile (ts : List Token) : Settles ts (ts.dropWhile (· == .documentEnd)) := by
  induction ts with
  | nil => exact .refl _
  | cons t ts ih =>
      rw [List.dropWhile_cons]
      split
      · rename_i ht
        exact .cons (beq_iff_eq.1 ht ▸ rfl) ih
      · exact .refl _

/-- In tokens that are read as documents, every directive has its document. -/
theorem announced_nodes {fuel : Nat} {first : Bool} {ts : List Token}
    {nodes : List Node.Named} (h : Document.nodes fuel first ts = some nodes) : Announced ts := by
  induction fuel generalizing first ts nodes with
  | zero =>
      cases ts with
      | nil => exact .nil
      | cons t ts => cases h
  | succ fuel ih =>
      cases ts with
      | nil => exact .nil
      | cons t ts =>
          rw [Document.nodes] at h
          split at h
          · obtain ⟨x, hx, h⟩ := Option.bind_eq_some_iff.1 h
            -- by induction the later documents have theirs, and the first one takes no directive
            obtain ⟨others, hothers, -⟩ := Option.bind_eq_some_iff.1 h
            exact leaves_content _ x hx (settles_dropWhile x.2 (ih hothers))
          · cases h
          · exact nofun

end Document

end TestCluster.Yaml
