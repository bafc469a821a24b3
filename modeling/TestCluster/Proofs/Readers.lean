import Mathlib.Data.List.Forall2
import TestCluster.Proofs.TakenWords

/-!
# Readers — what the reader keeps does not depend on where the lines stand

    Two readers that keep the same, at places of the same column, keep the same after the same
    word. Of a node that may turn out to be a key they keep its place; that place counts only
    as far as the line goes, so it may differ as long as the way from it is as far.
-/

namespace TestCluster.Yaml

namespace TokenReader

/-- Two nodes that may be keys, as seen from the places `p` and `q`. -/
structure SameKey (p q : Position) (k k' : PossibleKey) : Prop where
  number : k.number = k'.number
  required : k.required = k'.required
  column : k.position.column = k'.position.column
  far : AsFar k.position p k'.position q

/-- Two readers that have the same open and the same tokens, as seen from `p` and `q`. -/
structure SameOpen (p q : Position) (r r' : TokenReader) : Prop where
  columns : r.columns = r'.columns
  reversed : r.reversed = r'.reversed
  possibleKey : Option.Rel (SameKey p q) r.possibleKey r'.possibleKey
  outerKeys : List.Forall₂ (Option.Rel (SameKey p q)) r.outerKeys r'.outerKeys

/-- Two readers that keep the same, as seen from `p` and `q`. -/
structure SameState (p q : Position) (r r' : TokenReader) : Prop extends SameOpen p q r r' where
  keyAllowed : r.keyAllowed = r'.keyAllowed

variable {p q p' q' : Position} {r r' : TokenReader}

theorem SameKey.far_on {k k' : PossibleKey} (h : SameKey p q k k') (hfar : AsFar p p' q q') :
    SameKey p' q' k k' := ⟨h.number, h.required, h.column, h.far.trans hfar⟩

theorem SameKey.reaches {k k' : PossibleKey} (h : SameKey p q k k') :
    PossibleKey.reaches k p = PossibleKey.reaches k' q := by
  have hfar := h.far
  rw [AsFar] at hfar
  rw [Bool.eq_iff_iff]
  simp only [PossibleKey.reaches, Bool.and_eq_true, beq_iff_eq, decide_eq_true_eq]
  omega

namespace SameOpen

theorem far_on (h : SameOpen p q r r') (hfar : AsFar p p' q q') : SameOpen p' q' r r' where
  columns := h.columns
  reversed := h.reversed
  possibleKey := rel_mono h.possibleKey fun _ _ h => h.far_on hfar
  outerKeys := h.outerKeys.imp fun _ _ h => rel_mono h fun _ _ h => h.far_on hfar

theorem after {α : Type} (h : SameOpen p q r r') (a a' : Piece α) :
    SameOpen p q (r.after a) (r'.after a') :=
  ⟨h.columns, h.reversed, h.possibleKey, h.outerKeys⟩

theorem inFlow (h : SameOpen p q r r') : r.inFlow = r'.inFlow := by
  have houter := h.outerKeys
  simp only [TokenReader.inFlow]
  generalize r.outerKeys = keys, r'.outerKeys = keys' at houter ⊢
  cases houter <;> rfl

theorem required (h : SameOpen p q r r') :
    r.possibleKey.any (·.required) = r'.possibleKey.any (·.required) := by
  have hkey := h.possibleKey
  generalize r.possibleKey = key, r'.possibleKey = key' at hkey ⊢
  cases hkey with
  | none => rfl
  | some hkey => exact hkey.required

theorem closeTo (h : SameOpen p q r r') (column : Option Nat) :
    SameOpen p q (r.closeTo column) (r'.closeTo column) := by
  simp only [TokenReader.closeTo]
  rw [h.inFlow]
  split
  · exact h
  · refine ⟨?_, ?_, h.possibleKey, h.outerKeys⟩ <;> simp only [h.columns, h.reversed]

theorem insertAt (h : SameOpen p q r r') (number : Nat) (token : Token) :
    SameOpen p q (r.insertAt number token) (r'.insertAt number token) := by
  refine ⟨h.columns, ?_, h.possibleKey, h.outerKeys⟩
  simp only [TokenReader.insertAt, h.reversed]

theorem openAt (h : SameOpen p q r r') (column : Nat) (opening : Token) (number : Nat) :
    SameOpen p q (r.openAt column opening number) (r'.openAt column opening number) := by
  rw [openAt_eq, openAt_eq, opensAt, opensAt, h.inFlow, h.columns]
  split
  · have hopened : SameOpen p q { r with columns := column :: r'.columns }
        { r' with columns := column :: r'.columns } :=
      ⟨rfl, h.reversed, h.possibleKey, h.outerKeys⟩
    exact hopened.insertAt ..
  · exact h

theorem indicator (h : SameOpen p q r r') (token : Token) (n : Nat) (keyAllowed : Bool) :
    SameState p q (r.indicator token n keyAllowed) (r'.indicator token n keyAllowed) :=
  ⟨⟨h.columns, congrArg (token :: ·) h.reversed, h.possibleKey, h.outerKeys⟩, rfl⟩

theorem forgetKey (h : SameOpen p q r r') :
    Option.Rel (SameOpen p q) r.forgetKey r'.forgetKey := by
  rw [TokenReader.forgetKey]
  rw [h.required]
  exact rel_ite Iff.rfl .none (.some ⟨h.columns, h.reversed, .none, h.outerKeys⟩)

theorem documentLevel (h : SameOpen p q r r') :
    Option.Rel (SameState p q) r.documentLevel r'.documentLevel :=
  rel_bind (h.closeTo none).forgetKey fun _ _ h => .some
    ⟨⟨h.columns, h.reversed, h.possibleKey, h.outerKeys⟩, rfl⟩

/-- What a directive or marker changes does not depend on whether a key may start. -/
theorem put_level (h : SameOpen p q r r') (token : Token) :
    Option.Rel (SameState p q) (r.put (.level token)) (r'.put (.level token)) :=
  rel_map h.documentLevel fun _ _ h =>
    ⟨⟨h.columns, congrArg (token :: ·) h.reversed, h.possibleKey, h.outerKeys⟩, h.keyAllowed⟩

end SameOpen

theorem rememberKey_eq (r : TokenReader) : r.rememberKey =
    if r.keyAllowed then
      r.forgetKey.map fun _ =>
        { r with
          possibleKey := some ⟨r.reversed.length, r.position,
            !r.inFlow && r.columns.head? == some r.position.column⟩ }
    else some r := by
  rw [rememberKey]
  refine if_congr Iff.rfl ?_ rfl
  cases h : r.forgetKey with
  | none => rfl
  | some r' =>
      rw [forgetKey_eq_some h]
      rfl

namespace SameState

variable (h : SameState r.position r'.position r r')
  (hcolumn : r.position.column = r'.position.column)

include h hcolumn

theorem rememberKey :
    Option.Rel (SameState r.position r'.position) r.rememberKey r'.rememberKey := by
  rw [rememberKey_eq, rememberKey_eq, h.keyAllowed, h.reversed, h.inFlow, h.columns, hcolumn]
  refine rel_ite Iff.rfl (rel_map h.forgetKey fun _ _ _ => ?_) (.some h)
  exact ⟨⟨rfl, rfl, .some ⟨rfl, rfl, hcolumn, .refl _ _⟩, h.outerKeys⟩, rfl⟩

theorem openBracket (token : Token) : Option.Rel (SameState r.position r'.position)
    (r.openBracket token) (r'.openBracket token) := by
  refine rel_bind (h.rememberKey hcolumn) fun a b hab => .some ?_
  have hopened : SameOpen r.position r'.position
      { a with possibleKey := none, outerKeys := a.possibleKey :: a.outerKeys }
      { b with possibleKey := none, outerKeys := b.possibleKey :: b.outerKeys } :=
    ⟨hab.columns, hab.reversed, .none, .cons hab.possibleKey hab.outerKeys⟩
  exact hopened.indicator token 1 true

theorem blockEntry :
    Option.Rel (SameState r.position r'.position) r.blockEntry r'.blockEntry := by
  rw [TokenReader.blockEntry]
  rw [h.inFlow, h.keyAllowed, hcolumn, h.reversed]
  exact rel_ite Iff.rfl
    (rel_bind (h.openAt _ _ _).forgetKey fun _ _ hab => .some (hab.indicator ..)) .none

theorem explicitKey :
    Option.Rel (SameState r.position r'.position) r.explicitKey r'.explicitKey := by
  rw [TokenReader.explicitKey]
  rw [h.inFlow, h.keyAllowed, hcolumn, h.reversed]
  refine rel_ite Iff.rfl (rel_bind (h.openAt _ _ _).forgetKey fun _ _ hab => .some ?_) .none
  rw [hab.inFlow]
  exact hab.indicator ..

omit hcolumn in
theorem closeBracket (token : Token) : Option.Rel (SameState r.position r'.position)
    (r.closeBracket token) (r'.closeBracket token) := by
  refine rel_bind h.forgetKey fun a b hab => .some (SameOpen.indicator ?_ token 1 false)
  have houter := hab.outerKeys
  revert houter
  cases a.outerKeys <;> cases b.outerKeys <;> intro houter
  · exact hab
  · cases houter
  · cases houter
  · cases houter with
    | cons hkey hkeys => exact ⟨hab.columns, hab.reversed, hkey, hkeys⟩

theorem value : Option.Rel (SameState r.position r'.position) r.value r'.value := by
  simp only [TokenReader.value]
  have hkey : Option.Rel (SameKey r.position r'.position)
      (r.possibleKey.filter (PossibleKey.reaches · r.position))
      (r'.possibleKey.filter (PossibleKey.reaches · r'.position)) :=
    rel_filter h.possibleKey fun _ _ hk => hk.reaches
  generalize r.possibleKey.filter _ = key, r'.possibleKey.filter _ = key' at hkey ⊢
  cases hkey with
  | none =>
      rw [h.required, h.inFlow, h.keyAllowed, hcolumn, h.reversed]
      exact rel_ite Iff.rfl .none <| rel_ite Iff.rfl (.some (h.indicator ..)) <|
        rel_ite Iff.rfl (.some ((h.openAt _ _ _).indicator ..)) .none
  | some hk =>
      dsimp only
      rw [hk.column, hk.number]
      -- the key is announced where its node starts, which is the same token in both
      have hforgotten : SameOpen r.position r'.position { r with possibleKey := none }
          { r' with possibleKey := none } :=
        ⟨h.columns, h.reversed, .none, h.outerKeys⟩
      exact .some (((hforgotten.insertAt ..).openAt ..).indicator ..)

/-- What a word changes depends on what the reader keeps alone. -/
theorem put (w : Word) :
    Option.Rel (SameState r.position r'.position) (r.put w) (r'.put w) := by
  cases w with
  | level token => exact h.put_level token
  | opening token => exact h.openBracket hcolumn token
  | closing token => exact h.closeBracket token
  | comma => exact rel_map h.forgetKey fun _ _ hab => hab.indicator ..
  | dash => exact h.blockEntry hcolumn
  | question => exact h.explicitKey hcolumn
  | colon => exact h.value hcolumn
  | node token keyAllowed =>
      refine rel_map (h.rememberKey hcolumn) fun _ _ hab => ?_
      exact ⟨⟨hab.columns, congrArg (token :: ·) hab.reversed, hab.possibleKey, hab.outerKeys⟩, rfl⟩
  | block token =>
      refine rel_map h.forgetKey fun _ _ hab => ?_
      exact ⟨⟨hab.columns, congrArg (token :: ·) hab.reversed, hab.possibleKey, hab.outerKeys⟩, rfl⟩

/-- That a key may start after a word is all that may differ after words that say the same. -/
theorem put_agrees {w w' : Word} (hw : w.Agrees w') :
    Option.Rel (SameOpen r.position r'.position) (r.put w) (r'.put w') := by
  rcases hw with rfl | ⟨token, keyAllowed, keyAllowed', rfl, rfl⟩
  · exact rel_mono (h.put hcolumn w) fun _ _ hab => hab.toSameOpen
  · refine rel_map (h.rememberKey hcolumn) fun _ _ hab => ?_
    exact ⟨hab.columns, congrArg (token :: ·) hab.reversed, hab.possibleKey, hab.outerKeys⟩

end SameState

end TokenReader

end TestCluster.Yaml
