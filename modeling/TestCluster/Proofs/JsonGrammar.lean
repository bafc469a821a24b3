import TestCluster.Proofs.JsonLayout

/-!
# The grammar of JSON — every text of a tree is read as the tree

    `IsText` says which texts are JSON and what tree each stands for, without a word about how
    they are read: which characters spell a string (`Denotes`) and a number (`NumberText`), and
    how arrays and objects are put together, with spaces between any two tokens (`Writes`).
    Strings are those that stand for Unicode text, so halves of a surrogate pair come together.
    The reader gives the tree for every such text (`ofText?_of_isText`).
-/

namespace TestCluster.Json

variable {cs rest : List Char} {t : Tree}

/-! ## Strings -/

/-- The letters that stand behind a backslash, each with its meaning. -/
def escapes : List (Char × Char) :=
  [('"', '"'), ('\\', '\\'), ('/', '/'), ('b', '\x08'), ('f', '\x0c'), ('n', '\n'), ('r', '\r'),
    ('t', '\t')]

theorem escape?_of_mem {e c : Char} (h : (e, c) ∈ escapes) : escape? e = some c := by
  have hall : ∀ p ∈ escapes, escape? p.1 = some p.2 := by decide
  exact hall (e, c) h

/-- The hexadecimal digits with their values. -/
def hexDigits : List (Char × Nat) :=
  ['0', '1', '2', '3', '4', '5', '6', '7', '8', '9', 'a', 'b', 'c', 'd', 'e', 'f'].zipIdx ++
    ['A', 'B', 'C', 'D', 'E', 'F'].zipIdx 10

theorem hexDigit?_of_mem {c : Char} {n : Nat} (h : (c, n) ∈ hexDigits) :
    Text.hexDigit? c = some n := by
  have hall : ∀ p ∈ hexDigits, Text.hexDigit? p.1 = some p.2 := by decide
  exact hall (c, n) h

/-- Four digits and the code unit that they spell. -/
inductive CodeDigits : List Char → Nat → Prop where
  | intro {a b c d : Char} {w x y z : Nat} :
      (a, w) ∈ hexDigits → (b, x) ∈ hexDigits → (c, y) ∈ hexDigits → (d, z) ∈ hexDigits →
      CodeDigits [a, b, c, d] (((w * 16 + x) * 16 + y) * 16 + z)

/-- What is written between the quotes of a string, and the text that it denotes. -/
inductive Denotes : List Char → List Char → Prop where
  | nil : Denotes [] []
  | char {c : Char} {cs text : List Char} :
      0x20 ≤ c.toNat → c ≠ '"' → c ≠ '\\' → Denotes cs text → Denotes (c :: cs) (c :: text)
  | letter {e c : Char} {cs text : List Char} :
      (e, c) ∈ escapes → Denotes cs text → Denotes ('\\' :: e :: cs) (c :: text)
  | code {digits cs text : List Char} {n : Nat} :
      CodeDigits digits n → n < 0xD800 ∨ 0xE000 ≤ n → Denotes cs text →
      Denotes ('\\' :: 'u' :: (digits ++ cs)) (Char.ofNat n :: text)
  /-- A character beyond the first 65536 is written as a pair of code units. -/
  | pair {digits digits' cs text : List Char} {high low : Nat} :
      CodeDigits digits (0xD800 + high) → high < 0x400 →
      CodeDigits digits' (0xDC00 + low) → low < 0x400 → Denotes cs text →
      Denotes ('\\' :: 'u' :: (digits ++ '\\' :: 'u' :: (digits' ++ cs)))
        (Char.ofNat (0x10000 + high * 0x400 + low) :: text)

/-- Whether a character may stand in a string as it is. -/
def isPlain (c : Char) : Bool := decide (0x20 ≤ c.toNat) && c != '"' && c != '\\'

/-- Plain characters denote themselves. -/
theorem denotes_plain {text : List Char} (h : text.all isPlain = true) : Denotes text text := by
  induction text with
  | nil => exact .nil
  | cons c text ih =>
      rw [List.all_cons, Bool.and_eq_true] at h
      obtain ⟨hplain, htext⟩ := h
      rw [isPlain, Bool.and_eq_true, Bool.and_eq_true] at hplain
      obtain ⟨⟨hcontrol, hquote⟩, hslash⟩ := hplain
      exact .char (of_decide_eq_true hcontrol) (bne_iff_ne.1 hquote) (bne_iff_ne.1 hslash)
        (ih htext)

theorem readUnits_codeDigits {digits : List Char} {n : Nat} (h : CodeDigits digits n) :
    readUnits ('\\' :: 'u' :: (digits ++ cs)) =
      (readUnits cs).map fun (us, rest) => (.code n :: us, rest) := by
  obtain ⟨ha, hb, hc, hd⟩ := h
  refine readUnits_hex ?_ cs
  rw [hex4?, hexDigit?_of_mem ha, hexDigit?_of_mem hb, hexDigit?_of_mem hc, hexDigit?_of_mem hd]
  rfl

theorem unitsText?_pair {high low : Nat} (hhigh : high < 0x400) (hlow : low < 0x400)
    (us : List CodeUnit) :
    unitsText? (.code (0xD800 + high) :: .code (0xDC00 + low) :: us) =
      (unitsText? us).map (Char.ofNat (0x10000 + high * 0x400 + low) :: ·) := by
  have hopens : isHigh (0xD800 + high) = true := decide_eq_true (by omega)
  have hcloses : isLow (0xDC00 + low) = true := decide_eq_true (by omega)
  rw [unitsText?, if_pos hopens, if_pos hcloses, Nat.add_sub_cancel_left, Nat.add_sub_cancel_left]

/-- The code units of a string are read up to its closing quote, and stand for what it denotes. -/
theorem Denotes.readUnits {text : List Char} (h : Denotes cs text) :
    ∃ us, unitsText? us = some text ∧
      ∀ rest, readUnits (cs ++ '"' :: rest) = some (us, rest) := by
  induction h with
  | nil => exact ⟨[], rfl, fun _ => rfl⟩
  | @char c cs text hcontrol hquote hslash _ ih =>
      obtain ⟨us, htext, hread⟩ := ih
      refine ⟨.char c :: us, ?_, fun rest => ?_⟩
      · rw [unitsText?, htext]
        rfl
      · rw [List.cons_append, readUnits_char hquote hslash hcontrol, hread]
        rfl
  | @letter e c cs text hescape _ ih =>
      obtain ⟨us, htext, hread⟩ := ih
      refine ⟨.char c :: us, ?_, fun rest => ?_⟩
      · rw [unitsText?, htext]
        rfl
      · rw [List.cons_append, List.cons_append, readUnits_letter (escape?_of_mem hescape), hread]
        rfl
  | @code digits cs text n hdigits hlone _ ih =>
      obtain ⟨us, htext, hread⟩ := ih
      refine ⟨.code n :: us, ?_, fun rest => ?_⟩
      · have hhigh : isHigh n = false := decide_eq_false (by omega)
        have hlow : isLow n = false := decide_eq_false (by omega)
        rw [unitsText?_code hhigh hlow, htext]
        rfl
      · rw [List.cons_append, List.cons_append, List.append_assoc, readUnits_codeDigits hdigits,
          hread]
        rfl
  | @pair digits digits' cs text high low hdigits hhigh hdigits' hlow _ ih =>
      obtain ⟨us, htext, hread⟩ := ih
      refine ⟨.code (0xD800 + high) :: .code (0xDC00 + low) :: us, ?_, fun rest => ?_⟩
      · rw [unitsText?_pair hhigh hlow, htext]
        rfl
      · rw [List.cons_append, List.cons_append, List.append_assoc, List.cons_append,
          List.cons_append, List.append_assoc, readUnits_codeDigits hdigits,
          readUnits_codeDigits hdigits', hread]
        rfl

theorem Denotes.spells {s : String} (h : Denotes cs s.toList) : Spells cs s := by
  intro rest
  obtain ⟨us, htext, hread⟩ := h.readUnits
  rw [readString, hread rest]
  show some ((unitsText? us).map String.ofList, rest) = _
  rw [htext, Option.map_some, String.ofList_toList]

/-! ## Numbers -/

/-- The digits before the point. -/
inductive WholeText : List Char → Prop where
  | zero : WholeText ['0']
  | digits {d : Char} {ds : List Char} :
      d ≠ '0' → (∀ c ∈ d :: ds, c.isDigit = true) → WholeText (d :: ds)

/-- The text of a fraction, if there is one. -/
inductive FractionText : Option (List Char) → List Char → Prop where
  | none : FractionText none []
  | point {ds : List Char} :
      ds ≠ [] → (∀ c ∈ ds, c.isDigit = true) → FractionText (some ds) ('.' :: ds)

/-- The text of an exponent, if there is one. -/
inductive ExponentText : Option (Bool × List Char) → List Char → Prop where
  | none : ExponentText none []
  | unsigned {e : Char} {ds : List Char} :
      e = 'e' ∨ e = 'E' → ds ≠ [] → (∀ c ∈ ds, c.isDigit = true) →
      ExponentText (some (false, ds)) (e :: ds)
  | plus {e : Char} {ds : List Char} :
      e = 'e' ∨ e = 'E' → ds ≠ [] → (∀ c ∈ ds, c.isDigit = true) →
      ExponentText (some (false, ds)) (e :: '+' :: ds)
  | minus {e : Char} {ds : List Char} :
      e = 'e' ∨ e = 'E' → ds ≠ [] → (∀ c ∈ ds, c.isDigit = true) →
      ExponentText (some (true, ds)) (e :: '-' :: ds)

/-- The text of a number. -/
inductive NumberText : Number → List Char → Prop where
  | positive {whole frac expo : List Char} {fraction : Option (List Char)}
      {exponent : Option (Bool × List Char)} :
      WholeText whole → FractionText fraction frac → ExponentText exponent expo →
      NumberText ⟨false, whole, fraction, exponent⟩ (whole ++ (frac ++ expo))
  | negative {whole frac expo : List Char} {fraction : Option (List Char)}
      {exponent : Option (Bool × List Char)} :
      WholeText whole → FractionText fraction frac → ExponentText exponent expo →
      NumberText ⟨true, whole, fraction, exponent⟩ ('-' :: (whole ++ (frac ++ expo)))

/-- What follows a fraction is neither a digit nor a point. -/
def EndsFraction : List Char → Prop
  | [] => True
  | c :: _ => isDigit c = false ∧ c ≠ '.'

theorem EndsFraction.endsDigits (h : EndsFraction rest) : EndsDigits rest := by
  cases rest with
  | nil => trivial
  | cons c rest => exact h.1

theorem isDigit_append_ne {d : Char} {ds : List Char} (hds : ∀ c ∈ ds, c.isDigit = true)
    (hne : ds ≠ []) (hd : d.isDigit = false) (rest tail : List Char) : ds ++ rest ≠ d :: tail := by
  cases ds with
  | nil => exact absurd rfl hne
  | cons c ds =>
      intro h
      have hc := hds c List.mem_cons_self
      rw [List.cons_append] at h
      rw [(List.cons.inj h).1, hd] at hc
      cases hc

theorem WholeText.read (h : WholeText cs) (hrest : EndsDigits rest) :
    readWhole (cs ++ rest) = some (cs, rest) := by
  cases h with
  | zero => rfl
  | digits hd hds => exact readWhole_append hd hds hrest

theorem FractionText.read {fraction : Option (List Char)} (h : FractionText fraction cs)
    (hrest : EndsFraction rest) : readFraction (cs ++ rest) = some (fraction, rest) := by
  cases h with
  | none =>
      cases rest with
      | nil => rfl
      | cons c rest =>
          rw [List.nil_append, readFraction]
          exact fun _ heq => hrest.2 (List.cons.inj heq).1
  | @point ds hne hds =>
      rw [List.cons_append, readFraction, takeDigits_append hds hrest.endsDigits]
      cases ds with
      | nil => exact absurd rfl hne
      | cons d ds => rfl

theorem FractionText.ends {fraction : Option (List Char)} (h : FractionText fraction cs)
    (hrest : EndsFraction rest) : EndsDigits (cs ++ rest) := by
  cases h with
  | none => exact hrest.endsDigits
  | point => rfl

theorem readExponentDigits_of_digits {negative : Bool} {ds : List Char} (hne : ds ≠ [])
    (hds : ∀ c ∈ ds, c.isDigit = true) (hrest : EndsValue rest) :
    (match takeDigits (ds ++ rest) with
      | ([], _) => none
      | (ds, rest) => some ((negative, ds), rest)) = some ((negative, ds), rest) := by
  rw [takeDigits_append hds hrest.endsDigits]
  cases ds with
  | nil => exact absurd rfl hne
  | cons d ds => rfl

theorem readExponent_e {e : Char} (he : e = 'e' ∨ e = 'E') :
    readExponent (e :: cs) = (readExponentDigits cs).map fun (x, r) => (some x, r) := by
  rcases he with rfl | rfl
  · rfl
  · rfl

theorem ExponentText.read {exponent : Option (Bool × List Char)} (h : ExponentText exponent cs)
    (hrest : EndsValue rest) : readExponent (cs ++ rest) = some (exponent, rest) := by
  cases h with
  | none => exact readExponent_endsValue hrest
  | @unsigned e ds he hne hds =>
      have hread : readExponentDigits (ds ++ rest) = some ((false, ds), rest) := by
        rw [readExponentDigits]
        · exact readExponentDigits_of_digits hne hds hrest
        · exact isDigit_append_ne hds hne rfl rest
        · exact isDigit_append_ne hds hne rfl rest
      rw [List.cons_append, readExponent_e he, hread]
      rfl
  | @plus e ds he hne hds =>
      have hread : readExponentDigits ('+' :: (ds ++ rest)) = some ((false, ds), rest) :=
        readExponentDigits_of_digits hne hds hrest
      rw [List.cons_append, List.cons_append, readExponent_e he, hread]
      rfl
  | @minus e ds he hne hds =>
      have hread : readExponentDigits ('-' :: (ds ++ rest)) = some ((true, ds), rest) :=
        readExponentDigits_of_digits hne hds hrest
      rw [List.cons_append, List.cons_append, readExponent_e he, hread]
      rfl

theorem ExponentText.ends {exponent : Option (Bool × List Char)} (h : ExponentText exponent cs)
    (hrest : EndsValue rest) : EndsFraction (cs ++ rest) := by
  have hletter : ∀ {e : Char}, e = 'e' ∨ e = 'E' → isDigit e = false ∧ e ≠ '.' := by
    rintro e (rfl | rfl)
    · decide
    · decide
  cases h with
  | none =>
      cases rest with
      | nil => trivial
      | cons c rest => exact ⟨hrest.head.1, hrest.head.2.1⟩
  | unsigned he => exact hletter he
  | plus he => exact hletter he
  | minus he => exact hletter he

/-- A number is read up to what ends its value. -/
theorem NumberText.read {n : Number} (h : NumberText n cs) (hrest : EndsValue rest) :
    readNumber (cs ++ rest) = some (n, rest) := by
  have hparts : ∀ {negative : Bool} {whole frac expo : List Char} {fraction : Option (List Char)}
      {exponent : Option (Bool × List Char)}, WholeText whole → FractionText fraction frac →
      ExponentText exponent expo →
      ((readWhole (whole ++ (frac ++ (expo ++ rest)))).bind fun w => (readFraction w.2).bind fun f =>
        (readExponent f.2).bind fun e =>
          some ((⟨negative, w.1, f.1, e.1⟩ : Number), e.2)) =
        some (⟨negative, whole, fraction, exponent⟩, rest) := by
    intro negative whole frac expo fraction exponent hwhole hfraction hexponent
    have hends := hexponent.ends hrest
    rw [hwhole.read (hfraction.ends hends), Option.bind_some, hfraction.read hends,
      Option.bind_some, hexponent.read hrest]
    rfl
  cases h with
  | @positive whole frac expo _ _ hwhole hfraction hexponent =>
      rw [List.append_assoc, List.append_assoc, readNumber]
      · exact hparts hwhole hfraction hexponent
      · intro tail heq
        cases hwhole with
        | zero => exact absurd (List.cons.inj heq).1 (by decide)
        | digits _ hds => exact isDigit_append_ne hds (List.cons_ne_nil _ _) rfl _ tail heq
  | negative hwhole hfraction hexponent =>
      rw [List.cons_append, List.append_assoc, List.append_assoc]
      exact hparts hwhole hfraction hexponent

theorem NumberText.starts {n : Number} (h : NumberText n cs) :
    ∃ c ds, cs = c :: ds ∧ StartsNumber c := by
  cases h with
  | positive hwhole =>
      cases hwhole with
      | zero => exact ⟨_, _, rfl, Or.inr rfl⟩
      | digits _ hds => exact ⟨_, _, rfl, Or.inr (hds _ List.mem_cons_self)⟩
  | negative => exact ⟨_, _, rfl, Or.inl rfl⟩

theorem NumberText.reads {n : Number} (h : NumberText n cs) : Reads cs (.number n) := by
  intro fuel rest hfuel hrest
  obtain ⟨fuel, rfl, -⟩ := exists_fuel hfuel
  have hread := h.read hrest
  obtain ⟨c, ds, rfl, hc⟩ := h.starts
  rw [List.cons_append] at hread ⊢
  rw [readTree_number hc, hread]
  rfl

/-! ## Trees -/

mutual

/-- The text of a tree, in which all strings are texts. -/
inductive Writes : Tree → List Char → Prop where
  | null : Writes .null ['n', 'u', 'l', 'l']
  | yes : Writes (.bool true) ['t', 'r', 'u', 'e']
  | no : Writes (.bool false) ['f', 'a', 'l', 's', 'e']
  | number {n : Number} {cs : List Char} : NumberText n cs → Writes (.number n) cs
  | string {s : String} {cs : List Char} :
      Denotes cs s.toList → Writes (.string (some s)) ('"' :: (cs ++ ['"']))
  | noItems {gap : List Char} : AllSpace gap → Writes (.array []) ('[' :: (gap ++ [']']))
  | array {items : List Tree} {cs : List Char} :
      WritesItems items cs → Writes (.array items) ('[' :: (cs ++ [']']))
  | noMembers {gap : List Char} : AllSpace gap → Writes (.object []) ('{' :: (gap ++ ['}']))
  | object {members : List (Option String × Tree)} {cs : List Char} :
      WritesMembers members cs → Writes (.object members) ('{' :: (cs ++ ['}']))

/-- The text of items, with a comma between any two. -/
inductive WritesItems : List Tree → List Char → Prop where
  | last {t : Tree} {before cs after : List Char} :
      AllSpace before → Writes t cs → AllSpace after → WritesItems [t] (before ++ (cs ++ after))
  | cons {t : Tree} {items : List Tree} {before cs after more : List Char} :
      AllSpace before → Writes t cs → AllSpace after → WritesItems items more →
      WritesItems (t :: items) (before ++ (cs ++ (after ++ ',' :: more)))

/-- The text of members, with a comma between any two. -/
inductive WritesMembers : List (Option String × Tree) → List Char → Prop where
  | last {k : String} {t : Tree} {gap key between before cs after : List Char} :
      AllSpace gap → Denotes key k.toList → AllSpace between → AllSpace before → Writes t cs →
      AllSpace after →
      WritesMembers [(some k, t)] (gap ++ (memberText key between (before ++ cs) ++ after))
  | cons {k : String} {t : Tree} {members : List (Option String × Tree)}
      {gap key between before cs after more : List Char} :
      AllSpace gap → Denotes key k.toList → AllSpace between → AllSpace before → Writes t cs →
      AllSpace after → WritesMembers members more →
      WritesMembers ((some k, t) :: members)
        (gap ++ (memberText key between (before ++ cs) ++ (after ++ ',' :: more)))

end

/-- Digits that start with no zero are the text of their number. -/
theorem writes_digits (d : Char) (ds : List Char) (hd : d ≠ '0')
    (hds : (d :: ds).all Char.isDigit = true) :
    Writes (.number ⟨false, d :: ds, none, none⟩) (d :: ds) := by
  have h := NumberText.positive (.digits hd (List.all_eq_true.1 hds)) .none .none
  rw [List.append_nil, List.append_nil] at h
  exact .number h

mutual

/-- The text of a tree is read as the tree. -/
theorem Writes.reads {t : Tree} {cs : List Char} : Writes t cs → Reads cs t
  | .null => reads_null
  | .yes => reads_true
  | .no => reads_false
  | .number h => h.reads
  | .string h => h.spells.reads
  | .noItems hgap => reads_noItems hgap
  | .array h => h.reads.array
  | .noMembers hgap => reads_noMembers hgap
  | .object h => h.reads.object

theorem WritesItems.reads {items : List Tree} {cs : List Char} :
    WritesItems items cs → ReadsItems (cs ++ [']']) items
  | .last hbefore h hafter => by
      rw [← List.append_assoc, List.append_assoc]
      exact ReadsItems.last (h.reads.append hbefore) hafter
  | .cons hbefore h hafter hmore => by
      rw [← List.append_assoc, List.append_assoc, List.append_assoc, List.append_assoc,
        List.cons_append, ← List.append_assoc]
      exact ReadsItems.cons (h.reads.append hbefore) hafter hmore.reads

theorem WritesMembers.reads {members : List (Option String × Tree)} {cs : List Char} :
    WritesMembers members cs → ReadsMembers (cs ++ ['}']) members
  | .last hgap hkey hbetween hbefore h hafter => by
      rw [List.append_assoc, List.append_assoc]
      exact ReadsMembers.last hgap hkey.spells hbetween (h.reads.append hbefore) hafter
  | .cons hgap hkey hbetween hbefore h hafter hmore => by
      rw [List.append_assoc, List.append_assoc, List.append_assoc, List.cons_append]
      exact ReadsMembers.cons hgap hkey.spells hbetween (h.reads.append hbefore) hafter hmore.reads

end

/-- A whole text that stands for a tree. -/
def IsText (s : String) (t : Tree) : Prop :=
  ∃ before cs after, s.toList = before ++ (cs ++ after) ∧ AllSpace before ∧ Writes t cs ∧
    AllSpace after

/-- **EVERY JSON TEXT IS READ**, as the tree that it stands for. -/
theorem ofText?_of_isText {s : String} (h : IsText s t) : ofText? s = some t := by
  obtain ⟨before, cs, after, hs, hbefore, hwrites, hafter⟩ := h
  rw [ofText?, hs]
  exact hwrites.reads.ofChars? hbefore hafter

end TestCluster.Json
