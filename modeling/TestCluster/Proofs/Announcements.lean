import TestCluster.Proofs.Directives
import TestCluster.Proofs.Readers

/-!
# Announcements — what the reader of tokens puts after a directive

    The reader puts tokens on at the end, and those that start a collection or announce a key
    further in front. It never takes one away. So if a directive lacks its document once,
    it lacks it in the end; and a word after a directive that is neither a directive nor a
    marker leaves the directive without its document.
-/

namespace TestCluster.Yaml

/-- The reversed row of tokens, with tokens put in that announce nothing. -/
inductive Grows (ts : List Token) : List Token → Prop
  | refl : Grows ts ts
  | insert {us : List Token} (h : Grows ts us) (n : Nat) {t : Token} (ht : t.announces = false) :
      Grows ts (us.insertIdx n t)

section Grows

variable {t : Token} {ts us vs : List Token}

theorem Grows.trans (h : Grows ts us) (h' : Grows us vs) : Grows ts vs := by
  induction h' with
  | refl => exact h
  | insert _ n ht ih => exact ih.insert n ht

theorem Grows.push (h : Grows ts us) (ht : t.announces = false) : Grows ts (t :: us) :=
  h.insert 0 ht

/-- Of a reversed row, that every directive has its document. -/
theorem announced_reverse : Announced ts.reverse ↔
    ts.IsChain fun u t => t.isDirective = true → u.announces = true :=
  List.isChain_reverse

theorem Announced.of_push (h : Announced (t :: ts).reverse) : Announced ts.reverse := by
  rw [announced_reverse] at h ⊢
  exact h.tail

theorem Announced.of_insert {n : Nat} (ht : t.announces = false)
    (h : Announced (ts.insertIdx n t).reverse) : Announced ts.reverse := by
  rw [announced_reverse] at h ⊢
  induction ts generalizing n with
  | nil => exact .nil
  | cons u ts ih =>
      cases n with
      | zero => exact h.tail
      | succ n =>
          rw [List.insertIdx_succ_cons] at h
          refine (ih h.tail).cons ?_
          intro v hv hd
          -- between a directive and its document nothing else may be put
          cases n with
          | zero =>
              have hvt := (List.isChain_cons.1 h.tail).1 v hv hd
              rw [ht] at hvt
              cases hvt
          | succ n =>
              obtain ⟨ts, rfl⟩ := List.head?_eq_some_iff.1 hv
              exact h.rel_head? (List.insertIdx_succ_cons ▸ rfl) hd

theorem Grows.announced (h : Grows ts us) (hus : Announced us.reverse) :
    Announced ts.reverse := by
  induction h with
  | refl => exact hus
  | insert _ n ht ih => exact ih (hus.of_insert ht)

/-- Whether a directive was put on last. -/
def EndsWithDirective (ts : List Token) : Prop := ∃ t, ts.head? = some t ∧ t.isDirective = true

/-- Nothing but an announcement goes after a directive that has its document. -/
theorem Grows.endsWithDirective (h : Grows ts us) (hts : EndsWithDirective ts)
    (hus : Announced us.reverse) : EndsWithDirective us := by
  induction h with
  | refl => exact hts
  | @insert us h n t ht ih =>
      obtain ⟨u, hu, hd⟩ := ih (hus.of_insert ht)
      obtain ⟨us, rfl⟩ := List.head?_eq_some_iff.1 hu
      cases n with
      -- put on last, the token would take the place of the document
      | zero =>
          rw [List.insertIdx_zero, announced_reverse] at hus
          have htu := hus.rel_head? rfl hd
          rw [ht] at htu
          cases htu
      | succ n => exact ⟨u, List.insertIdx_succ_cons ▸ rfl, hd⟩

end Grows

namespace TokenReader

variable {r r' : TokenReader}

theorem grows_closeTo (column : Option Nat) (r : TokenReader) :
    Grows r.reversed (r.closeTo column).reversed := by
  have ends (columns : List Nat) :
      Grows r.reversed (columns.map (fun _ => Token.blockEnd) ++ r.reversed) := by
    induction columns with
    | nil => exact .refl
    | cons c columns ih => exact ih.push rfl
  rw [closeTo]
  split
  · exact .refl
  · exact ends _

theorem grows_openAt (column number : Nat) {opening : Token} (h : opening.announces = false) :
    Grows r.reversed (r.openAt column opening number).reversed := by
  rw [openAt_eq]
  split
  · exact .insert .refl _ h
  · exact .refl

/-- A word puts its token on last, after tokens that announce nothing. -/
theorem grows_put {w : Word} (h : r.put w = some r') :
    ∃ us, Grows r.reversed us ∧ r'.reversed = w.token :: us := by
  cases w with
  | level token =>
      obtain ⟨q, hq, rfl⟩ := Option.map_eq_some_iff.1 h
      obtain ⟨s, hs, hq⟩ := Option.bind_eq_some_iff.1 hq
      rw [forgetKey_eq_some hs] at hq
      rw [← Option.some.inj hq]
      exact ⟨_, grows_closeTo none r, rfl⟩
  | opening token =>
      obtain ⟨q, hq, h⟩ := Option.bind_eq_some_iff.1 h
      obtain ⟨key, rfl⟩ := rememberKey_eq_some hq
      rw [← Option.some.inj h]
      exact ⟨_, .refl, rfl⟩
  | closing token =>
      obtain ⟨q, hq, h⟩ := Option.bind_eq_some_iff.1 h
      rw [forgetKey_eq_some hq] at h
      rw [← Option.some.inj h]
      cases r.outerKeys <;> exact ⟨_, .refl, rfl⟩
  | comma =>
      obtain ⟨q, hq, rfl⟩ := Option.map_eq_some_iff.1 h
      rw [forgetKey_eq_some hq]
      exact ⟨_, .refl, rfl⟩
  | dash =>
      simp only [put, blockEntry] at h
      split at h
      · obtain ⟨q, hq, h⟩ := Option.bind_eq_some_iff.1 h
        rw [forgetKey_eq_some hq] at h
        rw [← Option.some.inj h]
        exact ⟨_, grows_openAt _ _ rfl, rfl⟩
      · cases h
  | question =>
      simp only [put, explicitKey] at h
      split at h
      · obtain ⟨q, hq, h⟩ := Option.bind_eq_some_iff.1 h
        rw [forgetKey_eq_some hq] at h
        rw [← Option.some.inj h]
        exact ⟨_, grows_openAt _ _ rfl, rfl⟩
      · cases h
  | colon =>
      simp only [put, value] at h
      split at h
      -- a key is announced where its node starts, and may open a mapping there
      · rename_i key _
        have hkey : Grows r.reversed
            ({ r with possibleKey := none }.insertAt key.number .key).reversed :=
          .insert .refl _ rfl
        rw [← Option.some.inj h]
        exact ⟨_, hkey.trans (grows_openAt _ _ rfl), rfl⟩
      · split_ifs at h
        · rw [← Option.some.inj h]
          exact ⟨_, .refl, rfl⟩
        · rw [← Option.some.inj h]
          exact ⟨_, grows_openAt _ _ rfl, rfl⟩
  | node token keyAllowed =>
      obtain ⟨q, hq, rfl⟩ := Option.map_eq_some_iff.1 h
      obtain ⟨key, rfl⟩ := rememberKey_eq_some hq
      exact ⟨_, .refl, rfl⟩
  | block token =>
      obtain ⟨q, hq, rfl⟩ := Option.map_eq_some_iff.1 h
      rw [forgetKey_eq_some hq]
      exact ⟨_, .refl, rfl⟩

/-- A word after a directive that has its document is an announcement. -/
theorem announces_of_put {w : Word} (h : r.put w = some r')
    (hr : EndsWithDirective r.reversed) (hr' : Announced r'.reversed.reverse) :
    w.token.announces = true := by
  obtain ⟨us, hgrows, hus⟩ := grows_put h
  rw [hus] at hr'
  obtain ⟨t, ht, hd⟩ := hgrows.endsWithDirective hr hr'.of_push
  rw [announced_reverse] at hr'
  exact hr'.rel_head? ht hd

theorem announced_of_word {c : Char} {cs : List Char} (hr : r.rest = c :: cs)
    (h : r.word? = some r') (hr' : Announced r'.reversed.reverse) :
    Announced r.reversed.reverse := by
  obtain ⟨a, s, -, hs, rfl⟩ := word?_eq_some hr h
  obtain ⟨us, hus, hsus⟩ := grows_put hs
  rw [show (s.after a).reversed = _ from hsus] at hr'
  exact hus.announced hr'.of_push

theorem announced_of_end {fuel : Nat} {ts : List Token} (hr : r.toNextToken.rest = [])
    (h : tokens fuel r = some ts) (hts : Announced ts) : Announced r.reversed.reverse := by
  rw [tokens_of_nil hr] at h
  obtain ⟨q, hq, rfl⟩ := Option.map_eq_some_iff.1 h
  rw [forgetKey_eq_some hq] at hts
  exact (grows_closeTo none r.toNextToken).announced hts

/-- If every directive has its document in the end, it has it all along. -/
theorem announced_of_tokens {fuel : Nat} {ts : List Token} (h : tokens fuel r = some ts)
    (hts : Announced ts) : Announced r.reversed.reverse := by
  induction fuel generalizing r with
  | zero =>
      by_cases hr : r.toNextToken.rest = []
      · exact announced_of_end hr h hts
      · rw [tokens_zero_of_ne_nil hr] at h
        cases h
  | succ fuel ih =>
      by_cases hr : r.toNextToken.rest = []
      · exact announced_of_end hr h hts
      · obtain ⟨c, cs, hcs⟩ := List.exists_cons_of_ne_nil hr
        rw [tokens_of_ne_nil hr] at h
        obtain ⟨q, hq, h⟩ := Option.bind_eq_some_iff.1 h
        exact (grows_closeTo _ r.toNextToken).announced
          (announced_of_word ((atWord_rest r).trans hcs) hq (ih h))

end TokenReader

section Words

variable {p : Position} {c : Char} {cs : List Char}

/-- If the word announces a document, it is a directive or marker. -/
def Word.AnnouncesByLevel (w : Word) : Prop :=
  w.token.announces = true → ∃ token, w = .level token

/-- No word but a directive or marker is an announcement. -/
theorem level_of_announces {flow : Bool} {columns : List Nat} :
    OnEach (fun a : Piece Word => a.value.AnnouncesByLevel) (wordAt flow columns p c cs) := by
  have other {α : Type} {x : Option (Piece α)} (f : α → Word)
      (hf : ∀ a, (f a).token.announces = false) :
      OnEach (fun a : Piece Word => a.value.AnnouncesByLevel) (x.map (·.map f)) := by
    intro b hb
    obtain ⟨a, -, rfl⟩ := Option.map_eq_some_iff.1 hb
    rw [Piece.map_value, Word.AnnouncesByLevel, hf]
    exact nofun
  have sign {w : Word} {p : Position} {cs : List Char} (hw : w.token.announces = false) :
      OnEach (fun a : Piece Word => a.value.AnnouncesByLevel) (some ⟨w, cs, p⟩) :=
    onEach_some fun h => absurd h (hw ▸ Bool.false_ne_true)
  have level {token : Token} {p : Position} {cs : List Char} :
      OnEach (fun a : Piece Word => a.value.AnnouncesByLevel) (some ⟨.level token, cs, p⟩) :=
    onEach_some fun _ => ⟨token, rfl⟩
  rw [wordAt]
  refine onEach_ite (fun _ => ?directive) fun _ => onEach_ite (fun _ => level) fun _ =>
    onEach_ite (fun _ => level) fun _ => onEach_ite (fun _ => sign rfl) fun _ =>
    onEach_ite (fun _ => sign rfl) fun _ => onEach_ite (fun _ => sign rfl) fun _ =>
    onEach_ite (fun _ => sign rfl) fun _ => onEach_ite (fun _ => sign rfl) fun _ =>
    onEach_ite (fun _ => sign rfl) fun _ => onEach_ite (fun _ => sign rfl) fun _ =>
    onEach_ite (fun _ => sign rfl) fun _ => onEach_ite (fun _ => other _ fun _ => rfl) fun _ =>
    onEach_ite (fun _ => other _ fun _ => rfl) fun _ =>
    onEach_ite (fun _ => other _ fun _ => rfl) fun _ =>
    onEach_ite (fun _ => other _ fun _ => rfl) fun _ =>
    onEach_ite (fun _ => other _ fun _ => rfl) fun _ =>
    onEach_ite (fun _ => other _ fun _ => rfl) fun _ =>
    onEach_ite (fun _ => other _ fun _ => rfl) fun _ =>
    onEach_ite (fun _ => other _ fun _ => rfl) fun _ => onEach_none
  intro b hb _
  obtain ⟨a, -, rfl⟩ := Option.map_eq_some_iff.1 hb
  exact ⟨a.value, rfl⟩

end Words

end TestCluster.Yaml
