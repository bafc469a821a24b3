import TestCluster.Proofs.Sections
import TestCluster.Proofs.TrimmedText

/-!
# Numbered documents — which document an error is about

    The separators cut a manifest into stretches.  A stretch of which no line is kept is no
    document and has no number; the others are numbered from zero in their order (`numbered`).
    A document that gives no object is reported by its number, and of several such documents
    the first (`FirstRejected`).  A manifest without documents is reported as such, and this
    is so exactly if none of its lines is kept, each being blank, a comment or a separator
    (`IsIdle`).
-/

namespace TestCluster

/-- What is cut after it was put into another form is the same pieces, each in that form. -/
theorem splitOnP_map {α β : Type} (f : α → β) (p : β → Bool) (l : List α) :
    (l.map f).splitOnP p = (l.splitOnP fun a => p (f a)).map (·.map f) := by
  induction l with
  | nil => rfl
  | cons a l ih =>
      rw [List.map_cons, List.splitOnP_cons_eq_if_modifyHead, List.splitOnP_cons_eq_if_modifyHead,
        ih]
      by_cases ha : p (f a) = true
      · rw [if_pos ha, if_pos ha]
        rfl
      · obtain ⟨first, rest, hsplit⟩ := splitOnP_eq_cons (fun a => p (f a)) l
        rw [if_neg ha, if_neg ha, hsplit]
        rfl

namespace Manifest

variable {line : List Char} {s document : String} {documents : List String} {object : Object}
  {objects : List Object} {index : Nat} {fault : DocumentFault}

/-! ## Lines that belong to no document -/

/-- A line that belongs to no document. -/
inductive IsIdle : List Char → Prop where
  | blank {line : List Char} : (∀ c ∈ line, Text.isBlank c = true) → IsIdle line
  | comment {rest : List Char} : IsIdle ('#' :: rest)
  | separator : IsIdle ['-', '-', '-']

/-- The lines that are not kept are those that belong to no document. -/
theorem isKept_eq_false_iff : isKept line = false ↔ IsIdle line := by
  have hkept : isKept line = false ↔
      line = ['-', '-', '-'] ∨ Text.trimChars line = [] ∨ line.head? = some '#' := by
    rw [isKept, Bool.and_eq_false_iff, Bool.not_eq_false', Bool.not_eq_false', isSeparator,
      isSkipped, Bool.or_eq_true, beq_iff_eq, beq_iff_eq, List.isEmpty_iff]
  rw [hkept, Text.trimChars_eq_nil_iff]
  constructor
  · rintro (rfl | hblank | hhead)
    · exact .separator
    · exact .blank hblank
    · obtain ⟨rest, rfl⟩ := List.head?_eq_some_iff.1 hhead
      exact .comment
  · rintro (hblank | _ | _)
    · exact Or.inr (Or.inl hblank)
    · exact Or.inr (Or.inr rfl)
    · exact Or.inl rfl

/-! ## The numbers of documents -/

/-- What is kept of the stretches between the separators. -/
def stretches (s : String) : List (List (List Char)) :=
  ((textLines s).splitOnP isSeparator).map (·.filter isKept)

/-- The documents, each in the place of its number: an empty stretch has none. -/
def numbered (s : String) : List String :=
  ((stretches s).filter (!·.isEmpty)).map joinLines

theorem split_eq_numbered (s : String) : split s = numbered s := by
  have hlines : textLines s = (textLines s).zipIdx.map (·.1) := (List.zipIdx_map_fst ..).symm
  have hstretches : stretches s = (((textLines s).zipIdx.splitOnP (isSeparator ·.1)).map
      (·.filter (isKept ·.1))).map (·.map (·.1)) := by
    rw [stretches, hlines, splitOnP_map, ← hlines, List.map_map, List.map_map]
    refine List.map_congr_left ?_
    intro stretch _
    exact List.filter_map
  have hfilled : ∀ numberedLines : List (List (List Char × Nat)),
      (numberedLines.map (·.map (·.1))).filter (!·.isEmpty) =
        (numberedLines.filter (!·.isEmpty)).map (·.map (·.1)) := by
    intro numberedLines
    rw [List.filter_map]
    simp only [Function.comp_def, List.isEmpty_map]
  rw [numbered, hstretches, hfilled, split, ← textLines, groups_eq_sections, sections]

example : numbered "---\n# note\n---\na: 1\n\r\n---\nb: 2" = ["a: 1\n", "b: 2\n"] := by
  decide +kernel

/-- A manifest has no documents exactly if none of its lines belongs to one. -/
theorem numbered_eq_nil_iff : numbered s = [] ↔ ∀ line ∈ textLines s, IsIdle line := by
  rw [← split_eq_numbered, split, ← textLines, List.map_eq_nil_iff]
  have hnone : groups [] (textLines s) = [] ↔ (groups [] (textLines s)).flatten = [] := by
    constructor
    · intro hnil
      rw [hnil]
      rfl
    · intro hnil
      refine List.eq_nil_iff_forall_not_mem.2 ?_
      intro document hdocument
      exact ne_nil_of_mem_groups hdocument (List.flatten_eq_nil_iff.1 hnil document hdocument)
  rw [hnone, flatten_groups, List.filter_eq_nil_iff]
  refine forall₂_congr ?_
  intro line _
  rw [Bool.not_eq_true, isKept_eq_false_iff]

/-! ## Which documents give objects -/

/-- The document of this number gives no object, and all those before it do. -/
inductive FirstRejected : List String → Nat → DocumentFault → Prop where
  | intro (before : List String) {document : String} (after : List String)
      {fault : DocumentFault} :
      (∀ earlier ∈ before, ∃ object, decode earlier = .ok object) →
      decode document = .error fault →
      FirstRejected (before ++ document :: after) before.length fault

theorem FirstRejected.cons (hobject : decode document = .ok object)
    (h : FirstRejected documents index fault) :
    FirstRejected (document :: documents) (index + 1) fault := by
  obtain ⟨before, after, hbefore, hfault⟩ := h
  refine .intro (document :: before) after ?_ hfault
  exact List.forall_mem_cons.2 ⟨⟨object, hobject⟩, hbefore⟩

/-- Either all documents give objects or one is the first that does not. -/
theorem accepted_or_firstRejected (documents : List String) :
    (∃ objects, List.Forall₂ (decode · = .ok ·) documents objects) ∨
      ∃ index fault, FirstRejected documents index fault := by
  induction documents with
  | nil => exact Or.inl ⟨[], .nil⟩
  | cons document documents ih =>
      cases hdecode : decode document with
      | error fault =>
          exact Or.inr ⟨0, fault, .intro [] documents (fun _ h => nomatch h) hdecode⟩
      | ok object =>
          rcases ih with ⟨objects, hobjects⟩ | ⟨index, fault, hrejected⟩
          · exact Or.inl ⟨object :: objects, .cons hdecode hobjects⟩
          · exact Or.inr ⟨index + 1, fault, hrejected.cons hdecode⟩

theorem accepts_of_accepted (h : List.Forall₂ (decode · = .ok ·) documents objects) :
    ∀ document ∈ documents, ∃ object, decode document = .ok object := by
  induction h with
  | nil => exact fun _ h => nomatch h
  | cons hobject _ ih => exact List.forall_mem_cons.2 ⟨⟨_, hobject⟩, ih⟩

theorem FirstRejected.not_accepts (h : FirstRejected documents index fault) :
    ¬ ∀ document ∈ documents, ∃ object, decode document = .ok object := by
  obtain ⟨before, after, -, hfault⟩ := h
  intro haccepts
  obtain ⟨object, hobject⟩ := haccepts _ (List.mem_append_right _ List.mem_cons_self)
  rw [hobject] at hfault
  cases hfault

theorem decodeAll_accepted (first : Nat)
    (h : List.Forall₂ (decode · = .ok ·) documents objects) :
    decodeAll first documents = .ok objects := by
  induction h generalizing first with
  | nil => rfl
  | cons hobject _ ih =>
      rw [decodeAll, hobject]
      dsimp only
      rw [ih]
      rfl

theorem decodeAll_rejected (first : Nat) (h : FirstRejected documents index fault) :
    decodeAll first documents = .error (.decode (first + index) fault) := by
  obtain ⟨before, after, hbefore, hfault⟩ := h
  induction before generalizing first with
  | nil =>
      rw [List.nil_append, decodeAll, hfault]
      rfl
  | cons earlier before ih =>
      obtain ⟨⟨object, hobject⟩, hbefore⟩ := List.forall_mem_cons.1 hbefore
      rw [List.cons_append, decodeAll, hobject]
      dsimp only
      rw [ih (first + 1) hbefore, List.length_cons, show first + 1 + before.length =
        first + (before.length + 1) by omega]
      rfl

/-- An object that names its kind and itself. -/
def IsNamed (object : Object) : Prop :=
  (∃ apiVersion kind, object.types = some ⟨apiVersion, kind⟩) ∧
    ∃ name, object.metadata.name = some name ∧ name ≠ ""

theorem isNamed_of_decode (h : decode document = .ok object) : IsNamed object := by
  rw [decode] at h
  split at h
  · cases h
  · split at h
    · cases h
    · split at h
      · cases h
      · rename_i read _ htypes hname
        obtain rfl : read = object := Except.ok.inj h
        constructor
        · cases hread : read.types with
          | none =>
              rw [hread] at htypes
              exact absurd rfl htypes
          | some types => exact ⟨types.apiVersion, types.kind, rfl⟩
        · rw [Object.name] at hname
          cases hread : read.metadata.name with
          | none =>
              rw [hread] at hname
              exact absurd rfl hname
          | some name =>
              rw [hread] at hname
              exact ⟨name, rfl, hname⟩

theorem isNamed_of_accepted (h : List.Forall₂ (decode · = .ok ·) documents objects) :
    ∀ object ∈ objects, IsNamed object := by
  induction h with
  | nil => exact fun _ h => nomatch h
  | cons hobject _ ih => exact List.forall_mem_cons.2 ⟨isNamed_of_decode hobject, ih⟩

/-! ## What a manifest is read as -/

/-- A manifest without documents is empty; any other gives an object for each document, or the
    number of the first that gives none. -/
theorem parse_cases (s : String) :
    (numbered s = [] ∧ parse s = .error .emptyManifest) ∨
    (numbered s ≠ [] ∧ ∃ objects, List.Forall₂ (decode · = .ok ·) (numbered s) objects ∧
      parse s = .ok objects) ∨
    (numbered s ≠ [] ∧ ∃ index fault, FirstRejected (numbered s) index fault ∧
      parse s = .error (.decode index fault)) := by
  rw [parse, split_eq_numbered]
  cases hdocuments : numbered s with
  | nil => exact Or.inl ⟨rfl, rfl⟩
  | cons document documents =>
      refine Or.inr ?_
      rcases accepted_or_firstRejected (document :: documents) with
        ⟨objects, hobjects⟩ | ⟨index, fault, hfirst⟩
      · exact Or.inl ⟨List.cons_ne_nil _ _, objects, hobjects, decodeAll_accepted 0 hobjects⟩
      · have herror := decodeAll_rejected 0 hfirst
        rw [Nat.zero_add] at herror
        exact Or.inr ⟨List.cons_ne_nil _ _, index, fault, hfirst, herror⟩

theorem parse_eq_emptyManifest_iff : parse s = .error .emptyManifest ↔ numbered s = [] := by
  rcases parse_cases s with ⟨hnil, hparse⟩ | ⟨hne, objects, -, hparse⟩ | ⟨hne, _, _, -, hparse⟩
  · exact iff_of_true hparse hnil
  · rw [hparse]
    exact iff_of_false nofun hne
  · rw [hparse]
    exact iff_of_false nofun hne

theorem parse_eq_ok_iff : parse s = .ok objects ↔
    numbered s ≠ [] ∧ List.Forall₂ (decode · = .ok ·) (numbered s) objects := by
  rcases parse_cases s with
    ⟨hnil, hparse⟩ | ⟨hne, given, hgiven, hparse⟩ | ⟨-, _, _, hfirst, hparse⟩
  · rw [hparse]
    exact iff_of_false nofun fun h => h.1 hnil
  · rw [hparse]
    constructor
    · intro heq
      exact ⟨hne, Except.ok.inj heq ▸ hgiven⟩
    · rintro ⟨-, hobjects⟩
      exact (decodeAll_accepted 0 hgiven).symm.trans (decodeAll_accepted 0 hobjects)
  · rw [hparse]
    exact iff_of_false nofun fun h => hfirst.not_accepts (accepts_of_accepted h.2)

/-- **THE RIGHT DOCUMENT IS REPORTED.**  A manifest is reported to be empty exactly if each of its
    lines is blank, a comment or a separator.  Any other gives one object for each of its
    documents, in their order, exactly if every one of them gives an object; and if one does
    not, the error has the number of the first such document.  The objects that are given all
    name their kind and themselves. -/
theorem parse_reports (s : String) :
    (parse s = .error .emptyManifest ↔ ∀ line ∈ textLines s, IsIdle line) ∧
    (¬ (∀ line ∈ textLines s, IsIdle line) →
      (∀ objects, parse s = .ok objects ↔
        List.Forall₂ (decode · = .ok ·) (numbered s) objects) ∧
      ((∃ objects, parse s = .ok objects) ↔
        ∀ document ∈ numbered s, ∃ object, decode document = .ok object) ∧
      (¬ (∀ document ∈ numbered s, ∃ object, decode document = .ok object) →
        ∃ index fault, FirstRejected (numbered s) index fault ∧
          parse s = .error (.decode index fault))) ∧
    ∀ objects, parse s = .ok objects → ∀ object ∈ objects, IsNamed object := by
  rw [← numbered_eq_nil_iff]
  refine ⟨parse_eq_emptyManifest_iff, ?_, ?_⟩
  · intro hne
    refine ⟨fun objects => parse_eq_ok_iff.trans (and_iff_right hne), ?_⟩
    rcases parse_cases s with
      ⟨hnil, -⟩ | ⟨-, objects, hobjects, hparse⟩ | ⟨-, index, fault, hfirst, hparse⟩
    · exact absurd hnil hne
    · have haccepts := accepts_of_accepted hobjects
      exact ⟨iff_of_true ⟨objects, hparse⟩ haccepts, fun hnot => absurd haccepts hnot⟩
    · refine ⟨iff_of_false ?_ hfirst.not_accepts, fun _ => ⟨index, fault, hfirst, hparse⟩⟩
      rintro ⟨objects, hobjects⟩
      exact hfirst.not_accepts (accepts_of_accepted (parse_eq_ok_iff.1 hobjects).2)
  · intro objects hobjects
    exact isNamed_of_accepted (parse_eq_ok_iff.1 hobjects).2

end Manifest

end TestCluster
