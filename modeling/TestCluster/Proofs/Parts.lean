import TestCluster.Manifest
import TestCluster.Proofs.SideBySide

/-!
# Parts — what is left of the lines of a manifest

    The documents of a manifest are made of the lines that are kept, each ended by a line feed.
    So a text and what is left of it run side by side: `parts` cuts the text where something is
    left out or put in, and `Spared` says of every such place that it lies between two words.
-/

namespace TestCluster.Yaml

/-- Whether a text is nothing but blanks, comments and line ends. -/
def isGap (cs : List Char) : Bool :=
  (TokenReader.skipGap true true false Position.start.newLine cs).1.isEmpty

/-- Whether a place in a text lies between two words: every word that starts before it says the
    same if the text ends there. -/
def isBetween (before after : List Char) : Bool :=
  let cs := before ++ after
  ((TokenReader.start cs).words cs.length).all (·.isWhole after)

/-- Every word of a text that starts before `z` says the same if the text ends there. -/
def Whole (cs z : List Char) : Prop :=
  ∀ r ∈ (TokenReader.start cs).words cs.length, r.isWhole z = true

theorem isBetween_iff {before after : List Char} :
    isBetween before after = true ↔ Whole (before ++ after) after := List.all_eq_true

theorem gap_of_isGap {d : List Char} (h : isGap d = true) : (skipAll false .start d).1 = [] := by
  have hmark : Unmarked Position.start.newLine d := unmarked_newLine _ _
  rw [isGap, skipGap_eq hmark (.inl rfl), List.isEmpty_iff] at h
  rwa [skipAll_rest false .start Position.start.newLine]

end TestCluster.Yaml

namespace TestCluster.Manifest

/-- A part of a text, and what is left of it. -/
structure Part where
  text : List Char
  left : List Char

/-- Whether all of the part is left out, or is put in. -/
def Part.isAltered (part : Part) : Bool := part.text.isEmpty || part.left.isEmpty

/-- The text of which these are the parts. -/
def textOf (parts : List Part) : List Char := parts.flatMap (·.text)

/-- What is left of the text of which these are the parts. -/
def leftOf (parts : List Part) : List Char := parts.flatMap (·.left)

/-- The parts of a line that is kept, with what ends it. The first carriage return belongs to the
    line end, and further ones end lines of their own. -/
def keptParts (content : List Char) : (ending : List Char) → List Part
  | [] => [⟨content, content⟩, ⟨[], ['\n']⟩]
  | '\r' :: '\r' :: cs => [⟨content ++ ['\r'], content ++ ['\n']⟩, ⟨'\r' :: cs, []⟩]
  | cs => [⟨content ++ cs, content ++ ['\n']⟩]

/-- The parts of a line and the line feed after it, if there is one. -/
def lineParts (line feed : List Char) : List Part :=
  let content := Text.dropReturns line
  if isSkipped content then [⟨line ++ feed, []⟩]
  else keptParts content (line.drop content.length ++ feed)

/-- The parts of a text. `current` holds the line that is being read, last character first. -/
def partsFrom (current : List Char) : List Char → List Part
  | [] => if current.isEmpty then [] else lineParts current.reverse []
  | c :: cs =>
    if c = '\n' then lineParts current.reverse ['\n'] ++ partsFrom [] cs
    else partsFrom (c :: current) cs

/-- The parts of a text. -/
def parts (cs : List Char) : List Part := partsFrom [] cs

/-- Whether every part after those before that is left out or put in says nothing and lies
    between two words: of the text, where a scalar may count a blank line, and of what is left
    of it, where a scalar may go on over a comment that no longer ends it. -/
def sparesFrom (before : List Part) : List Part → Bool
  | [] => true
  | part :: after =>
    (!part.isAltered || Yaml.isGap part.text &&
      Yaml.isBetween (textOf before) (part.text ++ textOf after) &&
      Yaml.isBetween (leftOf before) (part.left ++ leftOf after)) &&
    sparesFrom (before ++ [part]) after

/-- Whether no word is touched where lines of the text are left out: every such place lies
    between two words, and no byte order mark comes to stand at the start. -/
def sparesWords (cs : List Char) : Bool :=
  sparesFrom [] (parts cs) &&
    ((leftOf (parts cs)).head? != some '\uFEFF' || cs.head? == some '\uFEFF')

@[simp] theorem textOf_append (ps qs : List Part) : textOf (ps ++ qs) = textOf ps ++ textOf qs :=
  List.flatMap_append

@[simp] theorem leftOf_append (ps qs : List Part) : leftOf (ps ++ qs) = leftOf ps ++ leftOf qs :=
  List.flatMap_append

/-- Without its carriage returns a line lacks nothing but them. -/
theorem exists_returns (line : List Char) : ∃ n,
    line.drop (Text.dropReturns line).length = List.replicate n '\r' ∧
      Text.dropReturns line ++ List.replicate n '\r' = line := by
  have hreturns : line.reverse.takeWhile (· == '\r') =
      List.replicate (line.reverse.takeWhile (· == '\r')).length '\r' :=
    List.eq_replicate_of_mem fun c hc =>
      beq_iff_eq.1 (List.all_eq_true.1 List.all_takeWhile c hc)
  have hline := congrArg List.reverse
    (List.takeWhile_append_dropWhile (p := (· == '\r')) (l := line.reverse))
  rw [List.reverse_append, List.reverse_reverse, hreturns, List.reverse_replicate] at hline
  have hdrop := congrArg (List.drop (Text.dropReturns line).length) hline
  exact ⟨_, hdrop.symm.trans List.drop_left, hline⟩

theorem getLast?_dropReturns (line : List Char) :
    (Text.dropReturns line).getLast? ≠ some '\r' := by
  rw [Text.dropReturns, Text.dropEndWhile, List.getLast?_reverse]
  intro h
  have hhead := List.head?_dropWhile_not (· == '\r') line.reverse
  rw [h] at hhead
  cases hhead

theorem textOf_keptParts (content ending : List Char) :
    textOf (keptParts content ending) = content ++ ending := by
  simp only [keptParts]
  split <;> simp [textOf]

theorem leftOf_keptParts (content ending : List Char) :
    leftOf (keptParts content ending) = content ++ ['\n'] := by
  simp only [keptParts]
  split <;> simp [leftOf]

theorem textOf_lineParts (line feed : List Char) : textOf (lineParts line feed) = line ++ feed := by
  unfold lineParts
  dsimp only
  split
  · simp [textOf]
  · obtain ⟨n, hdrop, hline⟩ := exists_returns line
    rw [textOf_keptParts, hdrop, ← List.append_assoc, hline]

theorem leftOf_lineParts (line feed : List Char) : leftOf (lineParts line feed) =
    if isSkipped (Text.dropReturns line) then [] else Text.dropReturns line ++ ['\n'] := by
  unfold lineParts
  dsimp only
  split
  · rfl
  · exact leftOf_keptParts _ _

theorem textOf_partsFrom (current cs : List Char) :
    textOf (partsFrom current cs) = current.reverse ++ cs := by
  fun_induction partsFrom current cs with
  | case1 current h => rw [List.isEmpty_iff.1 h]; rfl
  | case2 current h => exact textOf_lineParts _ _
  | case3 current cs ih =>
      rw [textOf_append, textOf_lineParts, ih, List.reverse_nil, List.nil_append,
        List.append_assoc, List.singleton_append]
  | case4 current c cs h ih => rw [ih, List.reverse_cons, List.append_assoc, List.singleton_append]

/-- What is left of some lines: those that are kept, each with its line end. -/
def keptText (lines : List (List Char)) : List Char :=
  (lines.filter (!isSkipped ·)).flatMap (· ++ ['\n'])

theorem keptText_cons (line : List Char) (lines : List (List Char)) : keptText (line :: lines) =
    (if isSkipped line then [] else line ++ ['\n']) ++ keptText lines := by
  rw [keptText]
  rw [List.filter_cons]
  cases isSkipped line <;> rfl

theorem leftOf_partsFrom (current cs : List Char) : leftOf (partsFrom current cs) =
    keptText ((Text.feedPiecesFrom current cs).map Text.dropReturns) := by
  fun_induction partsFrom current cs with
  | case1 current h =>
      rw [Text.feedPiecesFrom, if_pos h]
      rfl
  | case2 current h =>
      rw [leftOf_lineParts, Text.feedPiecesFrom, if_neg h, List.map_cons, keptText_cons]
      exact (List.append_nil _).symm
  | case3 current cs ih =>
      rw [leftOf_append, leftOf_lineParts, ih, Text.feedPiecesFrom, if_pos rfl, List.map_cons,
        keptText_cons]
  | case4 current c cs h ih => rw [ih, Text.feedPiecesFrom, if_neg h]

/-- What `T` and `K` tell of every place where something is left out or put in. -/
def Spared (T K : List Char → Prop) : List Part → Prop
  | [] => True
  | part :: after =>
    (part.isAltered = true → Yaml.isGap part.text = true ∧ T (part.text ++ textOf after) ∧
      K (part.left ++ leftOf after)) ∧ Spared T K after

theorem Spared.of_append {T K : List Char → Prop} {before after : List Part}
    (h : Spared T K (before ++ after)) : Spared T K after := by
  induction before with
  | nil => exact h
  | cons part before ih => exact ih h.2

theorem spared_of_sparesFrom {before after : List Part} (h : sparesFrom before after = true) :
    Spared (Yaml.Whole (textOf (before ++ after))) (Yaml.Whole (leftOf (before ++ after)))
      after := by
  induction after generalizing before with
  | nil => trivial
  | cons part after ih =>
      rw [sparesFrom, Bool.and_eq_true] at h
      obtain ⟨hpart, hafter⟩ := h
      refine ⟨fun haltered => ?_, ?_⟩
      · rw [haltered, Bool.not_true, Bool.false_or, Bool.and_eq_true, Bool.and_eq_true] at hpart
        obtain ⟨⟨hgap, htext⟩, hleft⟩ := hpart
        rw [textOf_append, leftOf_append]
        exact ⟨hgap, Yaml.isBetween_iff.1 htext, Yaml.isBetween_iff.1 hleft⟩
      · have hspared := ih hafter
        rwa [List.append_assoc] at hspared

section Alignment

open Yaml

variable {T K : List Char → Prop}

theorem endsBroken_returns {feed : List Char} {ps : List Part}
    (hfeed : feed = ['\n'] ∨ feed = [] ∧ ps = []) (n : Nat) :
    EndsBroken ('\r' :: (List.replicate n '\r' ++ feed)) := by
  rw [← List.cons_append, ← List.replicate_succ]
  rcases hfeed with rfl | ⟨rfl, -⟩
  · exact endsBroken_concat rfl _
  · rw [List.append_nil, List.replicate_succ']
    exact endsBroken_concat rfl _

theorem cutAt_returns {feed : List Char} {ps : List Part}
    (hfeed : feed = ['\n'] ∨ feed = [] ∧ ps = []) (n : Nat) :
    CutAt ('\r' :: (List.replicate n '\r' ++ feed)) (textOf ps) := by
  rw [← List.cons_append, ← List.replicate_succ]
  rcases hfeed with rfl | ⟨rfl, rfl⟩
  · exact cutAt_feed _ _
  · rw [List.append_nil, List.replicate_succ']
    exact cutAt_return (z := []) nofun _

/-- A line that is kept runs beside what is left of it. -/
theorem aligned_keptParts {content feed : List Char} {n : Nat} {ps : List Part}
    (hcontent : '\n' ∉ content) (hreturn : content.getLast? ≠ some '\r')
    (hfeed : feed = ['\n'] ∨ feed = [] ∧ ps = [])
    (h : Spared T K (keptParts content (List.replicate n '\r' ++ feed) ++ ps))
    (hps : Aligned T K (textOf ps) (leftOf ps)) :
    Aligned T K (content ++ (List.replicate n '\r' ++ feed) ++ textOf ps)
      (content ++ ['\n'] ++ leftOf ps) := by
  rcases n with _ | _ | n
  -- no carriage return: the line feed is there or is put in
  · rcases hfeed with rfl | ⟨rfl, rfl⟩
    · exact hps.line (.inl rfl) hcontent hreturn
    · have hlast : K ['\n'] := (h.2.1 rfl).2.2
      simpa [textOf, leftOf] using aligned_last (T := T) hlast hcontent hreturn
  -- one carriage return: it belongs to the line end or is respelled
  · rcases hfeed with rfl | ⟨rfl, rfl⟩
    · exact hps.line (.inr rfl) hcontent hreturn
    · exact Apart.done.line nofun hcontent hreturn
  -- further carriage returns end lines of their own, which are left out
  · obtain ⟨hgap, htext, hleft⟩ := h.2.1 rfl
    have hapart : Apart T K ('\r' :: (List.replicate n '\r' ++ feed) ++ textOf ps) (leftOf ps) := by
      refine hps.apart htext hleft (gap_of_isGap hgap) (.inl ⟨?_, nofun, ?_⟩)
      · exact endsBroken_returns hfeed n
      · exact cutAt_returns hfeed n
    have hline := hapart.line nofun hcontent hreturn
    simpa [List.replicate_succ] using hline

theorem aligned_lineParts {line feed : List Char} {ps : List Part} (hline : '\n' ∉ line)
    (hfeed : feed = ['\n'] ∨ feed = [] ∧ ps = [])
    (h : Spared T K (lineParts line feed ++ ps)) (hps : Aligned T K (textOf ps) (leftOf ps)) :
    Aligned T K (textOf (lineParts line feed ++ ps)) (leftOf (lineParts line feed ++ ps)) := by
  rw [textOf_append, leftOf_append, textOf_lineParts, leftOf_lineParts]
  unfold lineParts at h
  dsimp only at h
  split at h
  · rename_i hskipped
    obtain ⟨hgap, htext, hleft⟩ := h.1 (Bool.or_true _)
    rw [if_pos hskipped]
    refine (hps.apart htext hleft (gap_of_isGap hgap) ?_).aligned
    rcases hfeed with rfl | ⟨rfl, rfl⟩
    · exact .inl ⟨endsBroken_concat rfl line, List.concat_ne_nil _ _, cutAt_feed line _⟩
    · exact .inr ⟨rfl, rfl⟩
  · rename_i hkept
    rw [if_neg hkept]
    obtain ⟨n, hdrop, hreturns⟩ := exists_returns line
    rw [hdrop] at h
    have hcontent : '\n' ∉ Text.dropReturns line := fun hmem =>
      hline (hreturns ▸ List.mem_append_left _ hmem)
    have haligned := aligned_keptParts hcontent (getLast?_dropReturns line) hfeed h hps
    rwa [← List.append_assoc, hreturns] at haligned

/-- A text runs beside what is left of it. -/
theorem aligned_partsFrom {current cs : List Char} (hcurrent : '\n' ∉ current)
    (h : Spared T K (partsFrom current cs)) :
    Aligned T K (textOf (partsFrom current cs)) (leftOf (partsFrom current cs)) := by
  fun_induction partsFrom current cs with
  | case1 => exact Apart.done.aligned
  | case2 current hne =>
      rw [← List.append_nil (lineParts current.reverse [])] at h ⊢
      refine aligned_lineParts ?_ (.inr ⟨rfl, rfl⟩) h Apart.done.aligned
      rwa [List.mem_reverse]
  | case3 current cs ih =>
      refine aligned_lineParts ?_ (.inl rfl) h (ih List.not_mem_nil ?_)
      · rwa [List.mem_reverse]
      · exact h.of_append
  | case4 current c cs hc ih =>
      refine ih ?_ h
      rw [List.mem_cons, not_or]
      exact ⟨Ne.symm hc, hcurrent⟩

end Alignment

end TestCluster.Manifest
