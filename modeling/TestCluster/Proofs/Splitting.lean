import TestCluster.Json.Printer
import TestCluster.Proofs.Parts

/-!
# Splitting — when a manifest of one document is that document

    Blank lines and lines that start with a number sign are dropped from a manifest before its
    documents are read. They mean something inside a scalar of several lines, which the splitter
    does not know of. Where they lie between two words, the document says what the text says.
-/

namespace TestCluster.Yaml

variable {T K : List Char → Prop} {cs ds u u' z z' : List Char}

namespace TokenReader

/-- The readers of two texts that run side by side from `p` on meet before the first word. -/
theorem meet_from {p : Position} (hstretch : Stretch u u' z z') (hapart : Apart T K z z')
    (hnil : u = [] → p.column = 0 ∨ z = [] ∧ z' = ['\n']) (hmark : Unmarked p (u ++ z))
    (hmark' : Unmarked p (u' ++ z'))
    (htab : { start (u ++ z) with position := p }.toNextToken.rest.head? ≠ some '\t') :
    Meet T K { start (u ++ z) with position := p }.toNextToken
      { start (u' ++ z') with position := p }.toNextToken := by
  obtain ⟨hahead, hplace⟩ := lands_stretch (p := p) (q := p) True false
    hstretch hapart rfl (fun hu => (hnil hu).imp_left fun hp => ⟨trivial, hp, rfl⟩)
    fun p q hp hq => lands_apart hapart hp hq
  refine meet_toNextToken hmark hmark' htab ?_ hahead ⟨p, p, ?_⟩ fun hne => ⟨?_, ?_, ?_⟩
  · exact hstretch.isTabFree (fun _ => ⟨rfl, rfl⟩) hapart.isTabFree
  · exact ⟨rfl, rfl, .none, .nil⟩
  · exact (hplace hne).1
  · exact ⟨rfl, rfl, .none, .nil⟩
  · exact .inl ⟨rfl, .inl rfl⟩

/-- A byte order mark at the start of a text is skipped. -/
theorem toNextToken_mark (cs : List Char) : (start ('\uFEFF' :: cs)).toNextToken =
    { start cs with position := Position.start.next }.toNextToken := rfl

end TokenReader

/-- A gap does not start with a byte order mark. -/
theorem Apart.ne_mark (h : Apart T K z z') : z.head? ≠ some '\uFEFF' := by
  cases h with
  | done | feed => nofun
  | @drop d u u' z z' t k gap line stretch next =>
      intro hmark
      rcases line with ⟨-, hne, -⟩ | ⟨hnil, -⟩
      · obtain ⟨c, d, rfl⟩ := List.exists_cons_of_ne_nil hne
        obtain rfl := Option.some.inj hmark
        cases gap
      · rw [hnil, List.append_nil] at hmark
        obtain ⟨d, rfl⟩ := List.head?_eq_some_iff.1 hmark
        cases gap

/-- The readers of a text and of what is left of it meet before the first word. -/
theorem Aligned.meet (h : Aligned T K cs ds)
    (hmark : ds.head? = some '\uFEFF' → cs.head? = some '\uFEFF')
    (htab : (TokenReader.start cs).toNextToken.rest.head? ≠ some '\t') :
    (TokenReader.start cs).toNextToken.Meet T K (TokenReader.start ds).toNextToken := by
  obtain ⟨u, u', z, z', rfl, rfl, hstretch, hapart⟩ := h
  by_cases hcs : (u ++ z).head? = some '\uFEFF'
  -- a byte order mark is in the first line, which is kept, so both readers skip it
  · cases u with
    | nil => exact absurd hcs hapart.ne_mark
    | cons c u =>
        obtain rfl := Option.some.inj hcs
        obtain ⟨u', rfl, hrest⟩ := hstretch.respelled.of_cons (by decide)
        rw [List.cons_append, TokenReader.toNextToken_mark] at htab
        rw [List.cons_append, List.cons_append, TokenReader.toNextToken_mark,
          TokenReader.toNextToken_mark]
        refine TokenReader.meet_from (p := Position.start.next)
          (hstretch.of_suffix (List.suffix_cons _ _) (List.suffix_cons _ _) hrest) hapart ?_
          (unmarked_next _ _) (unmarked_next _ _) htab
        rintro rfl
        refine .inr (hstretch.ends.resolve_left ?_)
        intro hends
        exact absurd (hends _ rfl) (by decide)
  · exact TokenReader.meet_from (p := .start) hstretch hapart (fun _ => .inl rfl) (fun _ => hcs)
      (fun _ => mt hmark hcs) htab

/-- What is left of a text has the tokens of the text, if every word that starts before a place
    where the two differ says the same when its text is cut there. -/
theorem Aligned.tokens {ts : List Token} (h : Aligned (Whole cs) (Whole ds) cs ds)
    (hmark : ds.head? = some '\uFEFF' → cs.head? = some '\uFEFF')
    (hchars : ∀ c ∈ ds, c ∈ cs ∨ c = '\n') (hts : Announced ts)
    (ht : Token.ofChars? cs = some ts) : Token.ofChars? ds = some ts := by
  rw [Token.ofChars?] at ht ⊢
  split at ht
  · rename_i hallowed
    have hallowed' : ds.all isAllowed = true := by
      refine List.all_eq_true.2 ?_
      intro c hc
      rcases hchars c hc with hc | rfl
      · exact List.all_eq_true.1 hallowed c hc
      · rfl
    rw [if_pos hallowed']
    exact TokenReader.tokens_of_meet (h.meet hmark (TokenReader.head?_of_tokens ht))
      (TokenReader.suffix_skipGap ..).length_le hts ht
  · cases ht

namespace Document

/-- The documents of a text are read of its tokens. -/
theorem all?_congr {s s' : String} (h : Token.ofChars? s.toList = Token.ofChars? s'.toList) :
    all? s = all? s' := by
  rw [all?, all?, h]

/-- In a text that is read as a document, every directive has its document. -/
theorem announced_of_single? {s : String} {document : Document}
    (h : single? s = some document) :
    ∃ ts, Token.ofChars? s.toList = some ts ∧ Announced ts := by
  rw [single?] at h
  split at h
  · rename_i hall
    obtain ⟨ts, hts, hall⟩ := Option.bind_eq_some_iff.1 hall
    obtain ⟨nodes, hnodes, -⟩ := Option.bind_eq_some_iff.1 hall
    exact ⟨ts, hts, announced_nodes hnodes⟩
  · cases h

end Document

end TestCluster.Yaml

namespace TestCluster.Manifest

variable {s s' : String} {object : Object}

/-- Whether a line of the text stands between two documents. -/
def hasSeparator (s : String) : Bool :=
  ((Text.feedPieces s.toList).map Text.dropReturns).any isSeparator

/-- What is left of a text without separators, as one document. -/
def keptDocument (s : String) : String := String.ofList (leftOf (parts s.toList))

theorem mem_leftOf_lineParts {c : Char} {line feed : List Char}
    (h : c ∈ leftOf (lineParts line feed)) : c ∈ line ∨ c = '\n' := by
  rw [leftOf_lineParts] at h
  split at h
  · cases h
  · obtain ⟨n, -, hline⟩ := exists_returns line
    rcases List.mem_append.1 h with h | h
    · exact .inl (hline ▸ List.mem_append_left _ h)
    · exact .inr (List.mem_singleton.1 h)

/-- Nothing is put in but line feeds. -/
theorem mem_leftOf_partsFrom {c : Char} {current cs : List Char}
    (h : c ∈ leftOf (partsFrom current cs)) : c ∈ textOf (partsFrom current cs) ∨ c = '\n' := by
  rw [textOf_partsFrom]
  fun_induction partsFrom current cs with
  | case1 => cases h
  | case2 current hne =>
      rw [List.append_nil]
      exact mem_leftOf_lineParts h
  | case3 current cs ih =>
      rw [leftOf_append] at h
      rcases List.mem_append.1 h with h | h
      · exact (mem_leftOf_lineParts h).imp_left (List.mem_append_left _)
      · exact (ih h).imp_left fun h => List.mem_append_right _ (List.mem_cons_of_mem _ h)
  | case4 current d cs hd ih =>
      rw [List.append_cons, ← List.reverse_cons]
      exact ih h

/-- Without separators the lines that are kept are one document. -/
theorem groups_of_forall {current lines : List (List Char)}
    (h : ∀ line ∈ lines, isSeparator line = false)
    (hne : current.reverse ++ lines.filter (!isSkipped ·) ≠ []) :
    groups current lines = [current.reverse ++ lines.filter (!isSkipped ·)] := by
  fun_induction groups current lines with
  | case1 current hcurrent =>
      rw [List.isEmpty_iff.1 hcurrent] at hne
      exact absurd rfl hne
  | case2 current hcurrent => rw [List.filter_nil, List.append_nil]
  | case3 current line lines hline =>
      rw [h line List.mem_cons_self] at hline
      cases hline
  | case4 current line lines hline =>
      rw [h line List.mem_cons_self] at hline
      cases hline
  | case5 current line lines hline hskipped ih =>
      rw [List.filter_cons_of_neg (by rw [hskipped]; decide)] at hne ⊢
      exact ih (fun line hmem => h line (List.mem_cons_of_mem _ hmem)) hne
  | case6 current line lines hline hkept ih =>
      rw [Bool.not_eq_true] at hkept
      rw [List.filter_cons_of_pos (by rw [hkept]; rfl), List.append_cons,
        ← List.reverse_cons] at hne ⊢
      exact ih (fun line hmem => h line (List.mem_cons_of_mem _ hmem)) hne

/-- A text without separators is split into one document, if anything is left of it. -/
theorem split_of_not_hasSeparator (hsep : hasSeparator s = false)
    (hne : leftOf (parts s.toList) ≠ []) : split s = [keptDocument s] := by
  have hlines := List.any_eq_false.1 hsep
  rw [keptDocument, parts]
  rw [parts] at hne
  rw [leftOf_partsFrom] at hne ⊢
  rw [split, groups_of_forall (fun line hmem => Bool.not_eq_true _ ▸ hlines line hmem)]
  · rfl
  · intro hnil
    refine hne ?_
    rw [keptText]
    exact congrArg (List.flatMap (· ++ ['\n'])) hnil

theorem decode_congr (h : Yaml.Document.all? s = Yaml.Document.all? s') :
    decode s = decode s' := by
  rw [decode, decode, Object.ofYaml?, Object.ofYaml?, Yaml.Document.single?,
    Yaml.Document.single?, h]

/-- In a text that decodes to an object, every directive has its document. -/
theorem announced_of_decode (h : decode s = .ok object) :
    ∃ ts, Yaml.Token.ofChars? s.toList = some ts ∧ Yaml.Announced ts := by
  rw [decode] at h
  split at h
  · cases h
  · rename_i hyaml
    obtain ⟨document, hdocument, -⟩ := Option.bind_eq_some_iff.1 hyaml
    exact Yaml.Document.announced_of_single? hdocument

theorem textOf_parts (cs : List Char) : textOf (parts cs) = cs := textOf_partsFrom [] cs

/-- What is left of a document decodes as the document does. -/
theorem decode_keptDocument (hwords : sparesWords s.toList = true)
    (h : decode s = .ok object) : decode (keptDocument s) = .ok object := by
  rw [← h]
  refine decode_congr (Yaml.Document.all?_congr ?_)
  obtain ⟨ts, hts, hannounced⟩ := announced_of_decode h
  rw [sparesWords, Bool.and_eq_true] at hwords
  have hspared := spared_of_sparesFrom hwords.1
  have haligned := aligned_partsFrom List.not_mem_nil hspared
  rw [List.nil_append, ← parts, textOf_parts] at haligned
  rw [keptDocument, String.toList_ofList, hts]
  -- the documents are read of the tokens, which are the same
  refine haligned.tokens (fun hmark => ?_) (fun c hc => ?_) hannounced hts
  · simpa [hmark] using hwords.2
  · have hmem := mem_leftOf_partsFrom hc
    rwa [← parts, textOf_parts] at hmem

/-- An empty text names no object. -/
theorem decode_empty (object : Object) : decode (String.ofList []) ≠ .ok object := by
  intro h
  have hnone : (decode (String.ofList [])).toOption.isNone = true := by decide +kernel
  rw [h] at hnone
  cases hnone

/-- **A MANIFEST OF ONE DOCUMENT IS THAT DOCUMENT.** A text without separators that decodes to an
    object is a manifest of that object alone, if the lines that are dropped lie between words. -/
theorem parse_of_decode (s : String) (object : Object) (hsep : hasSeparator s = false)
    (hwords : sparesWords s.toList = true) (h : decode s = .ok object) :
    parse s = .ok [object] := by
  have hdecode := decode_keptDocument hwords h
  have hne : leftOf (parts s.toList) ≠ [] := fun hnil => by
    rw [keptDocument, hnil] at hdecode
    exact absurd hdecode (decode_empty object)
  rw [parse, split_of_not_hasSeparator hsep hne]
  dsimp only
  rw [decodeAll, hdecode]
  rfl

/-- A document with comments and blank lines between its words. -/
def commented : String :=
  "# scripts\napiVersion: v1\nkind: ConfigMap\n\nmetadata:\n  name: scripts\n" ++
  "data:\n  run.sh: |\n    #!/bin/sh\n    echo hi\n\n# the end\n  stop.sh: exit\n"

theorem parse_commented : hasSeparator commented = false ∧ sparesWords commented.toList = true ∧
    ∃ object, decode commented = .ok object ∧ parse commented = .ok [object] := by
  have hsep : hasSeparator commented = false := by decide +kernel
  have hwords : sparesWords commented.toList = true := by decide +kernel
  have hok : (decode commented).isOk = true := by decide +kernel
  cases hdecode : decode commented with
  | error fault =>
      rw [hdecode] at hok
      cases hok
  | ok object =>
      exact ⟨hsep, hwords, object, rfl, parse_of_decode commented object hsep hwords hdecode⟩

/-- A document with a blank line inside a scalar. -/
def blankInside : String :=
  "apiVersion: v1\nkind: ConfigMap\nmetadata:\n  name: a\ndata:\n  k: |\n    a\n\n    b\n"

/-- The blank line is lost: in the manifest the scalar has two lines, in the document three. -/
theorem parse_blankInside_ne : hasSeparator blankInside = false ∧
    ∃ object, decode blankInside = .ok object ∧ parse blankInside ≠ .ok [object] := by
  have hsep : hasSeparator blankInside = false := by decide +kernel
  have hok : (decode blankInside).isOk = true := by decide +kernel
  have hdiffer : (parse blankInside).toOption.map (·.map (·.toValue |> Json.compact)) ≠
      (decode blankInside).toOption.map fun object => [Json.compact object.toValue] := by
    decide +kernel
  cases hdecode : decode blankInside with
  | error fault =>
      rw [hdecode] at hok
      cases hok
  | ok object =>
      refine ⟨hsep, object, rfl, fun h => hdiffer ?_⟩
      rw [h, hdecode]
      rfl

end TestCluster.Manifest
