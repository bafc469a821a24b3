import TestCluster.Proofs.DecimalDigits
import TestCluster.Proofs.TrimmedText
import TestCluster.Timestamp

/-!
# Timestamps — written strictly, read back as they were

    What is read is a second of a day that there is (`Timestamp.IsValid`), whatever place's
    time was written.  Such a timestamp is written in universal time, with all its leading
    zeros, and each part is read up to the mark after it: a year of four digits up to the
    first dash, a longer one or one with a sign as far as its digits go.
-/

namespace TestCluster

/-! ## Padded numbers -/

namespace Timestamp

/-- Whether there is such a second. -/
structure IsValid (t : Timestamp) : Prop where
  date : t.date.isValid = true
  minute : t.minute < 1440
  second : t.second ≤ 60

end Timestamp

namespace Date

theorem daysInMonth_bounds (year : Int) (month : Nat) :
    1 ≤ daysInMonth year month ∧ daysInMonth year month ≤ 31 := by
  rw [daysInMonth]
  split
  · split <;> decide
  · split <;> decide

theorem isValid_iff {d : Date} : d.isValid = true ↔ isYear d.year = true ∧
    (1 ≤ d.month ∧ d.month ≤ 12) ∧ 1 ≤ d.day ∧ d.day ≤ daysInMonth d.year d.month := by
  rw [isValid, Bool.and_eq_true, Bool.and_eq_true, decide_eq_true_eq, decide_eq_true_eq, and_assoc]

end Date

namespace Timestamp

end Timestamp

namespace Date

theorem isValid_next {d : Date} (h : d.isValid = true) (hyear : isYear d.next.year = true) :
    d.next.isValid = true := by
  obtain ⟨_, hmonth, hday⟩ := isValid_iff.1 h
  refine isValid_iff.2 ⟨hyear, ?_⟩
  rw [next]
  split
  · exact ⟨hmonth, Nat.le_add_left 1 _, ‹_›⟩
  split
  · exact ⟨⟨Nat.le_add_left 1 _, ‹_›⟩, Nat.le_refl 1, (daysInMonth_bounds _ _).1⟩
  · exact ⟨⟨Nat.le_refl 1, Nat.le_add_left 1 11⟩, Nat.le_refl 1, (daysInMonth_bounds _ _).1⟩

theorem isValid_previous {d : Date} (h : d.isValid = true)
    (hyear : isYear d.previous.year = true) : d.previous.isValid = true := by
  obtain ⟨_, hmonth, hday⟩ := isValid_iff.1 h
  refine isValid_iff.2 ⟨hyear, ?_⟩
  rw [previous]
  split
  · refine ⟨hmonth, ?_, Nat.le_trans (Nat.sub_le d.day 1) hday.2⟩
    show 1 ≤ d.day - 1
    omega
  split
  · refine ⟨⟨?_, Nat.le_trans (Nat.sub_le d.month 1) hmonth.2⟩, (daysInMonth_bounds _ _).1,
      Nat.le_refl _⟩
    show 1 ≤ d.month - 1
    omega
  · exact ⟨⟨Nat.le_add_left 1 11, Nat.le_refl 12⟩, Nat.le_add_left 1 30, Nat.le_refl 31⟩

end Date

namespace Timestamp

theorem readNumber_bounds {least most n : Nat} {cs rest : List Char}
    (h : readNumber least most cs = some (n, rest)) : least ≤ n ∧ n ≤ most :=
  of_decide_eq_true (Option.filter_eq_some_iff.1 h).2

theorem isValid_of_readDate {cs rest : List Char} {d : Date} (h : readDate cs = some (d, rest)) :
    d.isValid = true := by
  simp only [readDate, Option.bind_eq_bind, Option.bind_eq_some_iff] at h
  obtain ⟨_, _, _, _, _, _, _, _, _, _, h⟩ := h
  split at h
  · obtain ⟨rfl, -⟩ := Prod.mk.inj (Option.some.inj h)
    assumption
  · exact nomatch h

theorem bounds_of_readClock {cs rest : List Char} {minute second : Nat}
    (h : readClock cs = some ((minute, second), rest)) : minute < 1440 ∧ second ≤ 60 := by
  simp only [readClock, Option.bind_eq_bind, Option.bind_eq_some_iff] at h
  obtain ⟨⟨hours, _⟩, hhours, _, _, ⟨minutes, _⟩, hminutes, _, _, ⟨seconds, _⟩, hseconds, _, _,
    h⟩ := h
  obtain ⟨hclock, -⟩ := Prod.mk.inj (Option.some.inj h)
  obtain ⟨rfl, rfl⟩ := Prod.mk.inj hclock
  have hhours := (readNumber_bounds hhours).2
  have hminutes := (readNumber_bounds hminutes).2
  refine ⟨?_, (readNumber_bounds hseconds).2⟩
  show hours * 60 + minutes < 1440
  omega

theorem readPair_lt {bound n : Nat} {cs rest : List Char} (h : readPair bound cs = some (n, rest)) :
    n < bound := by
  rw [readPair.eq_def] at h
  split at h
  · split at h
    · dsimp only at h
      split at h
      · obtain ⟨rfl, -⟩ := Prod.mk.inj (Option.some.inj h)
        assumption
      · exact nomatch h
    · exact nomatch h
  · exact nomatch h

theorem bounds_of_readDistance {cs rest : List Char} {n : Int}
    (h : readDistance cs = some (n, rest)) : 0 ≤ n ∧ n < 1440 := by
  simp only [readDistance, Option.bind_eq_bind, Option.bind_eq_some_iff] at h
  obtain ⟨⟨hours, _⟩, hhours, ⟨minutes, _⟩, hminutes, h⟩ := h
  obtain ⟨rfl, -⟩ := Prod.mk.inj (Option.some.inj h)
  have hhours := readPair_lt hhours
  have hminutes := readPair_lt hminutes
  dsimp only
  omega

theorem bounds_of_readOffset {cs rest : List Char} {offset : Int}
    (h : readOffset cs = some (offset, rest)) : -1440 < offset ∧ offset < 1440 := by
  have hbehind : ∀ cs : List Char, (readDistance cs).map (fun d => (-d.1, d.2)) =
      some (offset, rest) → -1440 < offset ∧ offset < 1440 := by
    intro cs h
    obtain ⟨⟨n, _⟩, hn, h⟩ := Option.map_eq_some_iff.1 h
    obtain ⟨rfl, -⟩ := Prod.mk.inj h
    have hn := bounds_of_readDistance hn
    omega
  rw [readOffset.eq_def] at h
  split at h
  · obtain ⟨rfl, -⟩ := Prod.mk.inj (Option.some.inj h)
    decide
  · obtain ⟨rfl, -⟩ := Prod.mk.inj (Option.some.inj h)
    decide
  · have hn := bounds_of_readDistance h
    omega
  · exact hbehind _ h
  · exact hbehind _ h
  · split at h
    · obtain ⟨rfl, -⟩ := Prod.mk.inj (Option.some.inj h)
      decide
    · cases h
  · cases h

theorem isValid_ofLocal {date : Date} {minute second : Nat} {offset : Int} {t : Timestamp}
    (hdate : date.isValid = true) (hminute : minute < 1440) (hsecond : second ≤ 60)
    (hoffset : -1440 < offset ∧ offset < 1440) (h : ofLocal date minute second offset = some t) :
    t.IsValid := by
  rw [ofLocal] at h
  by_cases hbefore : (minute : Int) - offset < 0
  · rw [if_pos hbefore] at h
    dsimp only at h
    split at h
    · obtain rfl := Option.some.inj h
      exact ⟨Date.isValid_previous hdate ‹_›, by dsimp only; omega, hsecond⟩
    · exact nomatch h
  by_cases hafter : 1440 ≤ (minute : Int) - offset
  · rw [if_neg hbefore, if_pos hafter] at h
    dsimp only at h
    split at h
    · obtain rfl := Option.some.inj h
      exact ⟨Date.isValid_next hdate ‹_›, by dsimp only; omega, hsecond⟩
    · exact nomatch h
  · rw [if_neg hbefore, if_neg hafter] at h
    dsimp only at h
    split at h
    · obtain rfl := Option.some.inj h
      exact ⟨hdate, by dsimp only; omega, hsecond⟩
    · exact nomatch h

/-- What is read of a text is a second that there is. -/
theorem isValid_of_ofText? {s : String} {t : Timestamp} (h : ofText? s = some t) : t.IsValid := by
  have hrest : ∀ (d : Date) (cs : List Char), d.isValid = true → ((readClock cs).bind fun r =>
      (readOffset r.2).bind fun o =>
        if (skipBlanks o.2).isEmpty = true then ofLocal d r.1.1 r.1.2 o.1 else none) = some t →
      t.IsValid := by
    intro d cs hd h
    simp only [Option.bind_eq_some_iff] at h
    obtain ⟨⟨⟨minute, second⟩, _⟩, hclock, ⟨offset, _⟩, hoffset, h⟩ := h
    obtain ⟨hminute, hsecond⟩ := bounds_of_readClock hclock
    split at h
    · exact isValid_ofLocal hd hminute hsecond (bounds_of_readOffset hoffset) h
    · exact nomatch h
  simp only [ofText?, Option.bind_eq_bind, Option.bind_eq_some_iff] at h
  obtain ⟨⟨date, cs⟩, hdate, h⟩ := h
  split at h
  · split at h
    · exact hrest date _ (isValid_of_readDate hdate) h
    · exact nomatch h
  · exact nomatch h

end Timestamp

end TestCluster
