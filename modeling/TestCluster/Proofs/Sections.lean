import Mathlib.Data.List.DropRight
import TestCluster.Proofs.Splitting

/-!
# Sections — what lies between the separators of a manifest

    The documents of a manifest are what is kept of the sections between its separators, as far
    as anything is.  With every line goes its number, so that of two lines it can be told
    whether they come into one document (`Divides`), although other lines may read the same.

    A text put together from two texts and a separator has the documents of both
    (`groups_separator`), and documents put together with separators are split into themselves
    again (`split_intercalate`).
-/

namespace TestCluster

/-! ## Lists that are split -/

section SplitLists

variable {α : Type} {p : α → Bool} {l front block back : List α}

theorem splitOnP_eq_cons (p : α → Bool) (l : List α) :
    ∃ first rest, l.splitOnP p = first :: rest :=
  List.exists_cons_of_ne_nil (List.splitOnP_ne_nil p l)

/-- Nothing but the separators is lost. -/
theorem flatten_splitOnP (p : α → Bool) (l : List α) :
    (l.splitOnP p).flatten = l.filter (!p ·) := by
  induction l with
  | nil => rfl
  | cons a l ih =>
      rw [List.splitOnP_cons_eq_if_modifyHead]
      by_cases ha : p a = true
      · rw [if_pos ha, List.filter_cons_of_neg (by simp [ha]), List.flatten_cons, ih]
        rfl
      · obtain ⟨first, rest, hsplit⟩ := splitOnP_eq_cons p l
        rw [if_neg ha, List.filter_cons_of_pos (by simp [ha]), ← ih, hsplit]
        rfl

theorem mem_of_mem_splitOnP {s : List α} (hs : s ∈ l.splitOnP p) {a : α} (ha : a ∈ s) : a ∈ l := by
  have hflat : a ∈ (l.splitOnP p).flatten := List.mem_flatten.2 ⟨s, hs, ha⟩
  rw [flatten_splitOnP] at hflat
  exact List.mem_of_mem_filter hflat

/-- What holds no separator lies within one section. -/
theorem exists_section (hblock : ∀ a ∈ block, p a = false) :
    ∃ s ∈ (front ++ (block ++ back)).splitOnP p, block ⊆ s := by
  induction front with
  | nil =>
      obtain ⟨first, rest, hsplit⟩ := splitOnP_eq_cons p back
      refine ⟨block ++ first, ?_, List.subset_append_left _ _⟩
      have hhead : (block ++ back).splitOnP p = (block ++ first) :: rest := by
        induction block with
        | nil => exact hsplit
        | cons a block ih =>
            obtain ⟨ha, hblock⟩ := List.forall_mem_cons.1 hblock
            rw [List.cons_append, List.splitOnP_cons_eq_if_modifyHead, ha, ih hblock]
            rfl
      rw [List.nil_append, hhead]
      exact List.mem_cons_self
  | cons a front ih =>
      obtain ⟨s, hs, hsub⟩ := ih
      rw [List.cons_append, List.splitOnP_cons_eq_if_modifyHead]
      by_cases ha : p a = true
      · rw [if_pos ha]
        exact ⟨s, List.mem_cons_of_mem _ hs, hsub⟩
      · obtain ⟨first, rest, hsplit⟩ := splitOnP_eq_cons p (front ++ (block ++ back))
        rw [hsplit] at hs
        rw [if_neg ha, hsplit]
        rcases List.mem_cons.1 hs with rfl | hs
        · exact ⟨a :: s, List.mem_cons_self, fun b hb => List.mem_cons_of_mem a (hsub hb)⟩
        · exact ⟨s, List.mem_cons_of_mem _ hs, hsub⟩

/-- Of what is numbered in its order, two come into one section exactly if no separator lies
    between them. -/
theorem together_iff {p : α × Nat → Bool} {l : List (α × Nat)} (hl : l.Pairwise (·.2 < ·.2))
    {x y : α × Nat} (hx : x ∈ l) (hy : y ∈ l) (hpx : p x = false) (hpy : p y = false)
    (hxy : x.2 < y.2) :
    (∃ s ∈ l.splitOnP p, x ∈ s ∧ y ∈ s) ↔ ∀ z ∈ l, x.2 < z.2 → z.2 < y.2 → p z = false := by
  constructor
  · rintro ⟨s, hs, hxs, hys⟩ z hz hxz hzy
    by_contra hpz
    rw [Bool.not_eq_false] at hpz
    obtain ⟨before, after, rfl⟩ := List.append_of_mem hz
    obtain ⟨-, hafter, hbefore⟩ := List.pairwise_append.1 hl
    -- the section lies on one side of the separator, and the two on both
    rw [List.splitOnP_append_cons before after hpz] at hs
    rcases List.mem_append.1 hs with hs | hs
    · have hlt := hbefore y (mem_of_mem_splitOnP hs hys) z List.mem_cons_self
      exact absurd hlt (Nat.not_lt.2 (Nat.le_of_lt hzy))
    · have hlt := (List.pairwise_cons.1 hafter).1 x (mem_of_mem_splitOnP hs hxs)
      exact absurd hlt (Nat.not_lt.2 (Nat.le_of_lt hxz))
  · intro hbetween
    obtain ⟨before, after, rfl⟩ := List.append_of_mem hx
    obtain ⟨-, hafter, hbefore⟩ := List.pairwise_append.1 hl
    have hy : y ∈ after := by
      rcases List.mem_append.1 hy with hy | hy
      · exact absurd (hbefore y hy x List.mem_cons_self) (Nat.not_lt.2 (Nat.le_of_lt hxy))
      · rcases List.mem_cons.1 hy with rfl | hy
        · exact absurd hxy (Nat.lt_irrefl _)
        · exact hy
    obtain ⟨between, last, rfl⟩ := List.append_of_mem hy
    obtain ⟨hfirst, hafter⟩ := List.pairwise_cons.1 hafter
    have hblock : ∀ z ∈ x :: (between ++ [y]), p z = false := by
      intro z hz
      rcases List.mem_cons.1 hz with rfl | hz
      · exact hpx
      rcases List.mem_append.1 hz with hz | hz
      · refine hbetween z (by simp [hz]) (hfirst z (List.mem_append_left _ hz)) ?_
        exact (List.pairwise_append.1 hafter).2.2 z hz y List.mem_cons_self
      · rw [List.mem_singleton.1 hz]
        exact hpy
    have hsection : ∃ s ∈ (before ++ (x :: (between ++ [y]) ++ last)).splitOnP p,
        x :: (between ++ [y]) ⊆ s := exists_section hblock
    obtain ⟨s, hs, hsub⟩ := hsection
    refine ⟨s, ?_, hsub List.mem_cons_self, hsub (by simp)⟩
    simpa using hs

end SplitLists

namespace Manifest

/-! ## The documents of numbered lines -/

/-- The lines of a text, without the carriage returns at their ends. -/
def textLines (s : String) : List (List Char) := (Text.feedPieces s.toList).map Text.dropReturns

/-- Whether a line comes into a document. -/
def isKept (line : List Char) : Bool := !isSeparator line && !isSkipped line

/-- **HOW LINES ARE DIVIDED INTO DOCUMENTS**, each line with its number among all of them. -/
structure Divides (lines : List (List Char)) (documents : List (List (List Char × Nat))) :
    Prop where
  /-- No document is empty. -/
  nonempty : ∀ document ∈ documents, document ≠ []
  /-- The documents hold the kept lines, in their order, each once. -/
  lossless : documents.flatten = lines.zipIdx.filter (isKept ·.1)
  /-- Two kept lines come into one document exactly if no separator lies between them. -/
  together : ∀ x ∈ documents.flatten, ∀ y ∈ documents.flatten, x.2 < y.2 →
    ((∃ document ∈ documents, x ∈ document ∧ y ∈ document) ↔
      ∀ z ∈ lines.zipIdx, x.2 < z.2 → z.2 < y.2 → isSeparator z.1 = false)

/-- The kept lines of the sections that have any. -/
def sections (lines : List (List Char)) : List (List (List Char × Nat)) :=
  ((lines.zipIdx.splitOnP (isSeparator ·.1)).map (·.filter (isKept ·.1))).filter (!·.isEmpty)

variable {lines document : List (List Char)} {documents : List (List (List Char))}

theorem isSeparator_of_isKept {line : List Char} (h : isKept line = true) :
    isSeparator line = false := by
  rw [isKept, Bool.and_eq_true, Bool.not_eq_true'] at h
  exact h.1

/-- The documents are what is kept between the separators.  `read` holds the lines of the
    section that is being read, the last one first. -/
theorem groups_numbered (items read : List (List Char × Nat)) :
    groups ((read.filter (isKept ·.1)).map (·.1)) (items.map (·.1)) =
      (((items.splitOnPPrepend (isSeparator ·.1) read).map (·.filter (isKept ·.1))).filter
        (!·.isEmpty)).map (·.map (·.1)) := by
  induction items generalizing read with
  | nil =>
      rw [List.splitOnPPrepend_nil, List.map_singleton, List.filter_reverse]
      generalize read.filter (isKept ·.1) = kept
      cases kept <;> simp [groups]
  | cons item items ih =>
      rw [List.map_cons]
      by_cases hseparator : isSeparator item.1 = true
      -- the section ends, and is left out if nothing of it was kept
      · have hrest := ih []
        rw [List.filter_nil, List.map_nil, List.splitOnPPrepend_nil_right] at hrest
        rw [groups, if_pos hseparator, List.splitOnPPrepend_cons_eq_if, if_pos hseparator,
          List.map_cons, List.filter_reverse, hrest]
        generalize read.filter (isKept ·.1) = kept
        cases kept <;> simp
      · rw [groups, if_neg hseparator, List.splitOnPPrepend_cons_eq_if, if_neg hseparator, ← ih]
        by_cases hskipped : isSkipped item.1 = true
        · rw [if_pos hskipped, List.filter_cons_of_neg (by simp [isKept, hskipped])]
        · rw [if_neg hskipped, List.filter_cons_of_pos (by simp [isKept, hseparator, hskipped])]
          rfl

theorem groups_eq_sections (lines : List (List Char)) :
    groups [] lines = (sections lines).map (·.map (·.1)) := by
  have h := groups_numbered lines.zipIdx []
  rwa [List.zipIdx_map_fst] at h

theorem flatten_sections (lines : List (List Char)) :
    (sections lines).flatten = lines.zipIdx.filter (isKept ·.1) := by
  rw [sections, List.flatten_filter_not_isEmpty, ← List.filter_flatten, flatten_splitOnP,
    List.filter_filter]
  refine List.filter_congr ?_
  intro item _
  cases hkept : isKept item.1 with
  | false => rfl
  | true => simp [isSeparator_of_isKept hkept]

theorem divides_sections (lines : List (List Char)) : Divides lines (sections lines) where
  nonempty := by
    intro document hdocument
    have hne := (List.mem_filter.1 hdocument).2
    simpa using hne
  lossless := flatten_sections lines
  together := by
    intro x hx y hy hxy
    rw [flatten_sections] at hx hy
    obtain ⟨hx, hkeptx⟩ := List.mem_filter.1 hx
    obtain ⟨hy, hkepty⟩ := List.mem_filter.1 hy
    have hnumbered : lines.zipIdx.Pairwise (·.2 < ·.2) := by
      rw [← List.pairwise_map, List.zipIdx_map_snd]
      exact List.pairwise_lt_range'
    rw [← together_iff hnumbered hx hy (isSeparator_of_isKept hkeptx)
      (isSeparator_of_isKept hkepty) hxy]
    constructor
    · rintro ⟨document, hdocument, hxd, hyd⟩
      obtain ⟨s, hs, rfl⟩ := List.mem_map.1 (List.mem_filter.1 hdocument).1
      exact ⟨s, hs, List.mem_of_mem_filter hxd, List.mem_of_mem_filter hyd⟩
    · rintro ⟨s, hs, hxs, hys⟩
      have hxd : x ∈ s.filter (isKept ·.1) := List.mem_filter.2 ⟨hxs, hkeptx⟩
      have hyd : y ∈ s.filter (isKept ·.1) := List.mem_filter.2 ⟨hys, hkepty⟩
      refine ⟨_, List.mem_filter.2 ⟨List.mem_map_of_mem hs, ?_⟩, hxd, hyd⟩
      simpa using List.ne_nil_of_mem hxd

/-- The documents hold the kept lines, in their order. -/
theorem flatten_groups (lines : List (List Char)) :
    (groups [] lines).flatten = lines.filter isKept := by
  have hfirst := List.filter_map (p := isKept) (f := Prod.fst) (l := lines.zipIdx)
  rw [List.zipIdx_map_fst] at hfirst
  rw [groups_eq_sections, ← List.map_flatten, flatten_sections, hfirst]
  rfl

theorem ne_nil_of_mem_groups (h : document ∈ groups [] lines) : document ≠ [] := by
  rw [groups_eq_sections] at h
  obtain ⟨numbered, hnumbered, rfl⟩ := List.mem_map.1 h
  simpa using (divides_sections lines).nonempty numbered hnumbered

/-! ## Separators put in -/

/-- A separator ends a document, if one has begun. -/
theorem groups_separator {separator : List Char} (h : isSeparator separator = true)
    (current before after : List (List Char)) :
    groups current (before ++ separator :: after) = groups current before ++ groups [] after := by
  fun_induction groups current before with
  | case1 current hcurrent => rw [List.nil_append, groups, if_pos h, if_pos hcurrent]; rfl
  | case2 current hcurrent => rw [List.nil_append, groups, if_pos h, if_neg hcurrent]; rfl
  | case3 current line before hline hcurrent ih =>
      rw [List.cons_append, groups, if_pos hline, if_pos hcurrent, ih]
  | case4 current line before hline hcurrent ih =>
      rw [List.cons_append, groups, if_pos hline, if_neg hcurrent, ih]
      rfl
  | case5 current line before hline hskipped ih =>
      rw [List.cons_append, groups, if_neg hline, if_pos hskipped, ih]
  | case6 current line before hline hskipped ih =>
      rw [List.cons_append, groups, if_neg hline, if_neg hskipped, ih]

/-- An empty line at the end makes no difference. -/
theorem groups_emptyLine (current lines : List (List Char)) :
    groups current (lines ++ [[]]) = groups current lines := by
  fun_induction groups current lines with
  | case1 current hcurrent => exact if_pos hcurrent
  | case2 current hcurrent => exact if_neg hcurrent
  | case3 current line lines hline hcurrent ih =>
      rw [List.cons_append, groups, if_pos hline, if_pos hcurrent, ih]
  | case4 current line lines hline hcurrent ih =>
      rw [List.cons_append, groups, if_pos hline, if_neg hcurrent, ih]
  | case5 current line lines hline hskipped ih =>
      rw [List.cons_append, groups, if_neg hline, if_pos hskipped, ih]
  | case6 current line lines hline hskipped ih =>
      rw [List.cons_append, groups, if_neg hline, if_neg hskipped, ih]

/-- A line feed ends a line, or makes an empty one. -/
theorem feedPiecesFrom_feed (current cs : List Char) : ∃ empty : List (List Char),
    (empty = [] ∨ empty = [[]]) ∧ ∀ ds, Text.feedPiecesFrom current (cs ++ '\n' :: ds) =
      Text.feedPiecesFrom current cs ++ empty ++ Text.feedPieces ds := by
  fun_induction Text.feedPiecesFrom current cs with
  | case1 current hcurrent =>
      refine ⟨[[]], .inr rfl, ?_⟩
      intro ds
      rw [List.isEmpty_iff.1 hcurrent]
      rfl
  | case2 current hcurrent => exact ⟨[], .inl rfl, fun ds => rfl⟩
  | case3 current cs ih =>
      obtain ⟨empty, hempty, ih⟩ := ih
      refine ⟨empty, hempty, ?_⟩
      intro ds
      rw [List.cons_append, Text.feedPiecesFrom, if_pos rfl, ih]
      rfl
  | case4 current c cs hc ih =>
      obtain ⟨empty, hempty, ih⟩ := ih
      refine ⟨empty, hempty, ?_⟩
      intro ds
      rw [List.cons_append, Text.feedPiecesFrom, if_neg hc, ih]

/-- Two texts with a separator between them have the documents of both. -/
theorem split_append_separator (a b : String) :
    split (a ++ "\n---\n" ++ b) = split a ++ split b := by
  obtain ⟨empty, hempty, hfeed⟩ := feedPiecesFrom_feed [] a.toList
  have htext : (a ++ "\n---\n" ++ b).toList =
      a.toList ++ '\n' :: ('-' :: '-' :: '-' :: '\n' :: b.toList) := by
    rw [String.toList_append, String.toList_append, List.append_assoc]
    rfl
  have hlines : (Text.feedPieces (a ++ "\n---\n" ++ b).toList).map Text.dropReturns =
      (textLines a ++ empty) ++ ['-', '-', '-'] :: textLines b := by
    rw [htext, Text.feedPieces, hfeed, List.map_append, List.map_append]
    rcases hempty with rfl | rfl <;> rfl
  rw [split, hlines, groups_separator rfl, List.map_append]
  rcases hempty with rfl | rfl
  · rw [List.append_nil]
    rfl
  · rw [groups_emptyLine]
    rfl

/-! ## Documents put together again -/

theorem feedPiecesFrom_line {line : List Char} (h : '\n' ∉ line) (current cs : List Char) :
    Text.feedPiecesFrom current (line ++ '\n' :: cs) =
      (current.reverse ++ line) :: Text.feedPieces cs := by
  induction line generalizing current with
  | nil =>
      rw [List.append_nil]
      rfl
  | cons c line ih =>
      obtain ⟨hc, hline⟩ := not_or.1 (mt List.mem_cons.2 h)
      rw [List.cons_append, Text.feedPiecesFrom, if_neg (Ne.symm hc), ih hline, List.reverse_cons,
        List.append_assoc]
      rfl

/-- Lines that are put together in front of a text are its first lines. -/
theorem feedPieces_joined (h : ∀ line ∈ lines, '\n' ∉ line) (cs : List Char) :
    Text.feedPieces (lines.flatMap (· ++ ['\n']) ++ cs) = lines ++ Text.feedPieces cs := by
  induction lines with
  | nil => rfl
  | cons line lines ih =>
      obtain ⟨hline, hlines⟩ := List.forall_mem_cons.1 h
      rw [List.flatMap_cons, List.append_assoc, List.append_assoc, List.singleton_append,
        Text.feedPieces, feedPiecesFrom_line hline, ih hlines]
      rfl

theorem feedPieces_joinLines (h : ∀ line ∈ lines, '\n' ∉ line) :
    Text.feedPieces (joinLines lines).toList = lines := by
  have hjoined := feedPieces_joined h []
  rw [List.append_nil] at hjoined
  rw [joinLines, String.toList_ofList, hjoined]
  exact List.append_nil lines

theorem notMem_feedPiecesFrom {current cs line : List Char} (hcurrent : '\n' ∉ current)
    (h : line ∈ Text.feedPiecesFrom current cs) : '\n' ∉ line := by
  fun_induction Text.feedPiecesFrom current cs with
  | case1 => cases h
  | case2 current _ =>
      rw [List.mem_singleton.1 h, List.mem_reverse]
      exact hcurrent
  | case3 current cs ih =>
      rcases List.mem_cons.1 h with rfl | h
      · rwa [List.mem_reverse]
      · exact ih List.not_mem_nil h
  | case4 current c cs hc ih =>
      refine ih ?_ h
      rw [List.mem_cons, not_or]
      exact ⟨Ne.symm hc, hcurrent⟩

/-- A line of a document stands as it does in the document's text. -/
def IsSettled (line : List Char) : Prop :=
  isKept line = true ∧ '\n' ∉ line ∧ Text.dropReturns line = line

theorem dropReturns_dropReturns (line : List Char) :
    Text.dropReturns (Text.dropReturns line) = Text.dropReturns line := by
  rw [Text.dropReturns, Text.dropEndWhile, Text.dropReturns, Text.dropEndWhile,
    List.reverse_reverse, List.dropWhile_idempotent]

/-- The lines of a text have no line feed, and no carriage return at their ends. -/
theorem isSettled_of_mem_groups {s : String} {line : List Char}
    (hdocument : document ∈ groups [] (textLines s)) (hline : line ∈ document) :
    IsSettled line := by
  have hflat : line ∈ (groups [] (textLines s)).flatten :=
    List.mem_flatten.2 ⟨document, hdocument, hline⟩
  rw [flatten_groups] at hflat
  obtain ⟨hmem, hkept⟩ := List.mem_filter.1 hflat
  obtain ⟨piece, hpiece, rfl⟩ := List.mem_map.1 hmem
  refine ⟨hkept, ?_, dropReturns_dropReturns piece⟩
  intro hfeed
  obtain ⟨n, -, hreturns⟩ := exists_returns piece
  refine notMem_feedPiecesFrom List.not_mem_nil hpiece ?_
  rw [← hreturns]
  exact List.mem_append_left _ hfeed

/-- Lines that are all kept are one document. -/
theorem groups_document (hne : document ≠ []) (h : ∀ line ∈ document, IsSettled line) :
    groups [] document = [document] := by
  have hkept : document.filter (!isSkipped ·) = document := by
    refine List.filter_eq_self.2 ?_
    intro line hline
    exact (Bool.and_eq_true_iff.1 (h line hline).1).2
  have hseparator : ∀ line ∈ document, isSeparator line = false := by
    intro line hline
    exact isSeparator_of_isKept (h line hline).1
  have hgroups : groups [] document = [[].reverse ++ document.filter (!isSkipped ·)] :=
    groups_of_forall hseparator (by rwa [hkept])
  rw [hkept] at hgroups
  exact hgroups

theorem map_dropReturns (h : ∀ line ∈ document, IsSettled line) :
    document.map Text.dropReturns = document := by
  have hmap : document.map Text.dropReturns = document.map id :=
    List.map_congr_left fun line hline => (h line hline).2.2
  rwa [List.map_id] at hmap

/-- Documents that are put together with separators are split into themselves. -/
theorem split_intercalate
    (h : ∀ document ∈ documents, document ≠ [] ∧ ∀ line ∈ document, IsSettled line) :
    split (String.intercalate "---\n" (documents.map joinLines)) = documents.map joinLines := by
  induction documents with
  | nil => rfl
  | cons document documents ih =>
      obtain ⟨⟨hne, hdocument⟩, hdocuments⟩ := List.forall_mem_cons.1 h
      have hfeeds : ∀ line ∈ document, '\n' ∉ line := fun line hline => (hdocument line hline).2.1
      cases documents with
      | nil =>
          rw [List.map_singleton, String.intercalate_singleton, split,
            feedPieces_joinLines hfeeds, map_dropReturns hdocument, groups_document hne hdocument]
          rfl
      | cons next documents =>
          have hrest := ih hdocuments
          rw [List.map_cons, List.map_cons, String.intercalate_cons_cons]
          rw [List.map_cons] at hrest
          generalize String.intercalate "---\n" (joinLines next :: documents.map joinLines) = rest
            at hrest ⊢
          have hlines : (Text.feedPieces (joinLines document ++ "---\n" ++ rest).toList).map
              Text.dropReturns = document ++ ['-', '-', '-'] :: textLines rest := by
            rw [String.toList_append, String.toList_append, joinLines, String.toList_ofList,
              List.append_assoc, feedPieces_joined hfeeds, List.map_append,
              map_dropReturns hdocument]
            rfl
          rw [split, hlines, groups_separator rfl, groups_document hne hdocument, List.map_append]
          exact congrArg (joinLines document :: ·) hrest

theorem exists_lineFeed (h : lines ≠ []) : ∃ front, joinLines lines = front ++ "\n" := by
  obtain ⟨before, line, rfl⟩ := (List.eq_nil_or_concat' lines).resolve_left h
  refine ⟨String.ofList (before.flatMap (· ++ ['\n']) ++ line), ?_⟩
  rw [joinLines, List.flatMap_append, List.flatMap_singleton, ← List.append_assoc,
    String.ofList_append]

/-- **SPLITTING IS A HOMOMORPHISM WITH A NORMAL FORM.**  A separator between two texts stands
    between their documents.  The documents of a text are not empty, end with a line feed, hold
    its kept lines in their order, are divided by its separators, and are again what they are
    when they are put together with separators. -/
theorem split_homomorphic :
    (∀ a b, split (a ++ "\n---\n" ++ b) = split a ++ split b) ∧
    ∀ s, (∀ document ∈ split s, document ≠ "" ∧ ∃ front, document = front ++ "\n") ∧
      (split s).flatMap (Text.feedPieces ·.toList) = (textLines s).filter isKept ∧
      (∃ documents, Divides (textLines s) documents ∧
        split s = documents.map fun document => joinLines (document.map (·.1))) ∧
      split (String.intercalate "---\n" (split s)) = split s := by
  constructor
  · exact split_append_separator
  · intro s
    refine ⟨?_, ?_, ?_, ?_⟩
    · intro document hdocument
      obtain ⟨lines, hlines, rfl⟩ := List.mem_map.1 hdocument
      obtain ⟨front, hfront⟩ := exists_lineFeed (ne_nil_of_mem_groups hlines)
      refine ⟨?_, front, hfront⟩
      intro hempty
      rw [hempty] at hfront
      simpa using congrArg String.toList hfront
    · have hlines : ∀ document ∈ groups [] (textLines s),
          Text.feedPieces (joinLines document).toList = document := by
        intro document hdocument
        refine feedPieces_joinLines ?_
        intro line hline
        exact (isSettled_of_mem_groups hdocument hline).2.1
      rw [← flatten_groups, split, List.flatMap_map, List.flatMap_def]
      exact congrArg List.flatten ((List.map_congr_left hlines).trans (List.map_id _))
    · refine ⟨sections (textLines s), divides_sections _, ?_⟩
      rw [split, ← textLines, groups_eq_sections, List.map_map]
      rfl
    · refine split_intercalate ?_
      intro document hdocument
      refine ⟨ne_nil_of_mem_groups hdocument, ?_⟩
      intro line hline
      exact isSettled_of_mem_groups hdocument hline

end Manifest

end TestCluster
