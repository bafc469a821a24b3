import TestCluster.Kind.Tool
import TestCluster.Proofs.EncodedText
import TestCluster.Proofs.Sections
import TestCluster.Proofs.TrimmedText

/-!
# Printed names — one to a line, whatever else stands between them

    A tool prints names one to a line, and there are many ways to do that: with empty lines
    between the names, with blanks around them, with either kind of line end, and with none
    after the last line (`Prints`).  Reading undoes all of them: what is left are the names, in
    their order (`filledLines_printed`).

    A line is taken as it stands between two line feeds, so that a carriage return before the
    line feed is one more blank at its end.
-/

namespace TestCluster

namespace Text

variable {name : String} {names : List String} {name? : Option String} {line cs : List Char}

/-- A name that may stand on a line. -/
structure IsName (name : String) : Prop where
  nonempty : name ≠ ""
  oneLine : '\n' ∉ name.toList
  trimmed : IsTrimmed name.toList

theorem isName_iff :
    IsName name ↔ name ≠ "" ∧ '\n' ∉ name.toList ∧ IsTrimmed name.toList := by
  constructor
  · intro h
    exact ⟨h.nonempty, h.oneLine, h.trimmed⟩
  · rintro ⟨hnonempty, honeLine, htrimmed⟩
    exact ⟨hnonempty, honeLine, htrimmed⟩

instance (name : String) : Decidable (IsName name) := decidable_of_iff _ isName_iff.symm

/-- A line with a name on it and blanks around it, or with nothing but blanks. -/
inductive PrintsLine : Option String → List Char → Prop where
  | blank {line : List Char} : AllBlank line → '\n' ∉ line → PrintsLine none line
  | name {name : String} {line : List Char} :
      Padded name.toList line → '\n' ∉ line → PrintsLine (some name) line

/-- The two ways to end a line. -/
def IsLineEnd (cs : List Char) : Prop := cs = ['\n'] ∨ cs = ['\r', '\n']

/-- A text that prints names one to a line, in their order.  The last line may go without an
    end, and it may be empty: then the text ends with the end of the line before it. -/
inductive Prints : List String → List Char → Prop where
  | last {name? : Option String} {line : List Char} :
      PrintsLine name? line → Prints name?.toList line
  | line {name? : Option String} {line lineEnd rest : List Char} {names : List String} :
      PrintsLine name? line → IsLineEnd lineEnd → Prints names rest →
      Prints (name?.toList ++ names) (line ++ lineEnd ++ rest)

/-! ## One line -/

/-- What is read from a line: what stands between its blanks, if anything does. -/
def filled? (line : List Char) : Option String :=
  if (trimChars line).isEmpty then none else some (String.ofList (trimChars line))

theorem filledLines_eq (cs : List Char) :
    filledLines (String.ofList cs) = (feedPieces cs).filterMap filled? := by
  rw [filledLines, String.toList_ofList, List.filterMap_map]
  rfl

/-- A carriage return at the end of a line is one blank more. -/
theorem PrintsLine.append_return (h : PrintsLine name? line) : PrintsLine name? (line ++ ['\r']) := by
  have hreturn : isBlank '\r' = true := by decide
  cases h with
  | blank hblank hfeed =>
      refine .blank ?_ (by simpa using hfeed)
      intro c hc
      rcases List.mem_append.1 hc with hc | hc
      · exact hblank c hc
      · rw [List.mem_singleton.1 hc]
        exact hreturn
  | name hpadded hfeed =>
      cases hpadded with
      | @intro before after hbefore hafter =>
          refine .name ?_ (by simpa using hfeed)
          rw [List.append_assoc]
          refine .intro hbefore ?_
          intro c hc
          rcases List.mem_append.1 hc with hc | hc
          · exact hafter c hc
          · rw [List.mem_singleton.1 hc]
            exact hreturn

theorem PrintsLine.notMem (h : PrintsLine name? line) : '\n' ∉ line := by
  cases h with
  | blank _ hfeed => exact hfeed
  | name _ hfeed => exact hfeed

/-- The name on a line is what is read from it. -/
theorem PrintsLine.filled?_eq (h : PrintsLine name? line) (hname : ∀ name ∈ name?, IsName name) :
    filled? line = name? := by
  cases h with
  | blank hblank _ =>
      rw [filled?, trimChars_eq_nil_iff.2 hblank]
      rfl
  | @name name _ hpadded _ =>
      have hisName := hname name rfl
      have hne : name.toList ≠ [] := by
        intro hnil
        exact hisName.nonempty (String.toList_eq_nil_iff.1 hnil)
      rw [filled?, hpadded.trimChars_eq hisName.trimmed, if_neg (by simpa using hne),
        String.ofList_toList]

/-! ## All lines -/

/-- What is left without a line feed in it is one line, or none. -/
theorem filterMap_unended (h : '\n' ∉ cs) (current : List Char) :
    (feedPiecesFrom current cs).filterMap filled? = (filled? (current.reverse ++ cs)).toList := by
  induction cs generalizing current with
  | nil =>
      rw [feedPiecesFrom, List.append_nil]
      cases current with
      | nil => rfl
      | cons c current =>
          rw [if_neg (by simp), List.filterMap_cons]
          cases filled? (c :: current).reverse <;> rfl
  | cons c cs ih =>
      obtain ⟨hc, hcs⟩ := not_or.1 (mt List.mem_cons.2 h)
      rw [feedPiecesFrom, if_neg (Ne.symm hc), ih hcs, List.reverse_cons, List.append_assoc]
      rfl

theorem filterMap_feedPieces_line (h : '\n' ∉ line) (rest : List Char) :
    (feedPieces (line ++ '\n' :: rest)).filterMap filled? =
      (filled? line).toList ++ (feedPieces rest).filterMap filled? := by
  rw [feedPieces, Manifest.feedPiecesFrom_line h, List.reverse_nil, List.nil_append,
    List.filterMap_cons]
  cases filled? line <;> rfl

/-- **THE NAMES ARE READ BACK**, however they are printed.  The induction is on the lines. -/
theorem filledLines_printed (hnames : ∀ name ∈ names, IsName name) (h : Prints names cs) :
    filledLines (String.ofList cs) = names := by
  rw [filledLines_eq]
  induction h with
  | @last name? line hline =>
      have hname : ∀ name ∈ name?, IsName name := by
        intro name hname
        exact hnames name (Option.mem_toList.2 hname)
      rw [feedPieces, filterMap_unended hline.notMem, List.reverse_nil, List.nil_append,
        hline.filled?_eq hname]
  | @line name? line lineEnd rest names hline hend _ ih =>
      have hname : ∀ name ∈ name?, IsName name := by
        intro name hname
        exact hnames name (List.mem_append_left _ (Option.mem_toList.2 hname))
      have hrest : (feedPieces rest).filterMap filled? = names := by
        refine ih ?_
        intro name hmem
        exact hnames name (List.mem_append_right _ hmem)
      rcases hend with rfl | rfl
      · rw [List.append_assoc, List.singleton_append, filterMap_feedPieces_line hline.notMem,
          hline.filled?_eq hname, hrest]
      · -- the carriage return is taken as part of the line
        have hreturn := hline.append_return
        have hcut : line ++ ['\r', '\n'] ++ rest = (line ++ ['\r']) ++ '\n' :: rest := by simp
        rw [hcut, filterMap_feedPieces_line hreturn.notMem, hreturn.filled?_eq hname, hrest]

end Text

/-! ## What the tool says -/

namespace Kind

variable {binary : String} {names : List String} {text : String} {errors : List UInt8}

/-- What a call to the provider gives, by how its command ends. -/
def answered (binary : String) (c : Provider.Call) (outcome : Command.Outcome) :
    Except CommandError (Provider.Result c) :=
  ((command binary c).result outcome).map (result · c)

/-- The names that the tool has printed are the clusters that there are. -/
theorem answered_list (hnames : ∀ name ∈ names, Text.IsName name)
    (h : Text.Prints names text.toList) :
    answered binary .list (.ended true text.toUTF8.toList errors) = .ok names := by
  have hlines := Text.filledLines_printed hnames h
  rw [String.ofList_toList] at hlines
  show Except.ok (Text.filledLines (Text.decodeLossy text.toUTF8.toList)) = .ok names
  rw [Text.decodeLossy_toUTF8, hlines]

end Kind

end TestCluster
