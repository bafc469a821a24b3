import TestCluster.Manifest

/-!
# Manifests as characters — parsed without the texts in between

    A manifest is split into documents, each of which is a text again.  Its objects can as well
    be read from the characters of its lines (`Manifest.objectsOfChars?`), which are never
    encoded on the way; what is read so is what the manifest is parsed to (`parse_of_chars`).
-/

namespace TestCluster

open Yaml

/-- The documents of a text, read from its characters. -/
def Yaml.Document.ofChars? (cs : List Char) : Option (List Document) := do
  let ts ← Token.ofChars? cs
  let nodes ← Document.nodes ts.length true ts
  if nodes.isEmpty then some [Document.void] else nodes.mapM Document.ofNode

/-- The object of a text that holds one document, read from its characters. -/
def Object.ofChars? (cs : List Char) : Option Object :=
  let document := match Document.ofChars? cs with
    | some [document] => some document
    | _ => none
  document.bind (Document.read Object.read)

theorem Object.ofYaml?_ofList (cs : List Char) : ofYaml? (String.ofList cs) = ofChars? cs := by
  have hall : Document.all? (String.ofList cs) = Document.ofChars? cs := by
    rw [Document.all?, String.toList_ofList]
    rfl
  rw [ofYaml?, Document.single?, hall]
  rfl

namespace Manifest

/-- The object of a document that is given by its lines.  It has to name its kind and itself. -/
def objectOfLines? (lines : List (List Char)) : Option Object :=
  (Object.ofChars? (lines.flatMap (· ++ ['\n']))).filter fun o => o.types.isSome && o.name != ""

/-- The objects of a manifest, read from its characters. -/
def objectsOfChars? (cs : List Char) : Option (List Object) :=
  (groups [] ((Text.feedPieces cs).map Text.dropReturns)).mapM objectOfLines?

theorem decode_of_lines {lines : List (List Char)} {o : Object}
    (h : objectOfLines? lines = some o) : decode (joinLines lines) = .ok o := by
  obtain ⟨hobject, hchecked⟩ := Option.filter_eq_some_iff.1 h
  obtain ⟨htypes, hname⟩ := Bool.and_eq_true_iff.1 hchecked
  have hnone : o.types.isNone = false := by
    rw [← Option.not_isSome, htypes]
    rfl
  rw [decode, joinLines, Object.ofYaml?_ofList, hobject]
  dsimp only
  rw [hnone, if_neg Bool.false_ne_true, if_neg (bne_iff_ne.1 hname)]

theorem decodeAll_of_lines {documents : List (List (List Char))} {objects : List Object}
    (h : documents.mapM objectOfLines? = some objects) (index : Nat) :
    decodeAll index (documents.map joinLines) = .ok objects := by
  induction documents generalizing index objects with
  | nil =>
      obtain rfl := Option.some.inj h
      rfl
  | cons lines documents ih =>
      rw [List.mapM_cons] at h
      obtain ⟨o, ho, h⟩ := Option.bind_eq_some_iff.1 h
      obtain ⟨others, hothers, h⟩ := Option.bind_eq_some_iff.1 h
      obtain rfl := Option.some.inj h
      rw [List.map_cons, decodeAll, decode_of_lines ho]
      dsimp only
      rw [ih hothers]
      rfl

/-- What is read from the characters of a manifest is what it is parsed to. -/
theorem parse_of_chars {s : String} {objects : List Object}
    (h : objectsOfChars? s.toList = some objects) (hne : objects ≠ []) :
    parse s = .ok objects := by
  have hall := decodeAll_of_lines h 0
  rw [parse, split]
  split
  · rename_i hnone
    rw [hnone] at hall
    exact absurd (Except.ok.inj hall).symm hne
  · exact hall

/-- What holds of the objects that are read from the characters holds of those that the manifest
    is parsed to. -/
theorem parse_of_any {s : String} {cs : List Char} {p : List Object → Bool} (hchars : s.toList = cs)
    (h : (objectsOfChars? cs).any (fun objects => !objects.isEmpty && p objects) = true) :
    ∃ objects, parse s = .ok objects ∧ p objects = true := by
  subst hchars
  cases hobjects : objectsOfChars? s.toList with
  | none =>
      rw [hobjects] at h
      exact nomatch h
  | some objects =>
      rw [hobjects] at h
      obtain ⟨hne, hp⟩ := Bool.and_eq_true_iff.1 h
      exact ⟨objects, parse_of_chars hobjects (by simpa using hne), hp⟩

/-- A manifest that is given by its lines is parsed to what is read from their characters. -/
theorem parse_of_lines {lines : List String} {p : List Object → Bool}
    (h : (objectsOfChars? (lines.flatMap (·.toList ++ ['\n']))).any
      (fun objects => !objects.isEmpty && p objects) = true) :
    ∃ objects, parse (String.join (lines.map (· ++ "\n"))) = .ok objects ∧ p objects = true := by
  have hchars : (String.join (lines.map (· ++ "\n"))).toList =
      lines.flatMap (·.toList ++ ['\n']) := by
    rw [String.toList_join, List.flatMap_map]
    exact congrArg (List.flatMap · lines) (funext fun line => String.toList_append)
  exact parse_of_any hchars h

end Manifest

end TestCluster
