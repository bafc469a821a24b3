import TestCluster.Text.Utf8

/-!
# Encoded text — the bytes of a text decode to that text

    A character is encoded in one to four bytes.  The first of them tells how many follow and
    bounds the second; each of the others holds six more bits (`decodeParts_encode`).  A text
    is encoded character by character, so its bytes decode to it (`decode?_toUTF8`).
-/

namespace TestCluster.Text

/-! ## One character -/

theorem continuation_zero (low high : UInt8) (code : Nat) (bs : List UInt8) :
    continuation 0 low high code bs = (some code, bs) := by
  cases bs <;> rfl

theorem continuation_succ {count code n : Nat} {low high : UInt8} (bs : List UInt8)
    (hn : n < 256) (hlow : low.toNat ≤ n) (hhigh : n ≤ high.toNat) :
    continuation (count + 1) low high code (.ofNat n :: bs) =
      continuation count 0x80 0xBF (code * 64 + n % 64) bs := by
  have htoNat : (UInt8.ofNat n).toNat = n := by
    rw [UInt8.toNat_ofNat']
    omega
  have hbounds : low ≤ .ofNat n ∧ .ofNat n ≤ high := by
    rw [UInt8.le_iff_toNat_le, UInt8.le_iff_toNat_le, htoNat]
    exact ⟨hlow, hhigh⟩
  rw [continuation, if_pos hbounds, htoNat]

theorem leadByte_one : ∀ n < 128, leadByte (.ofNat n) = some (0, 0, 0, n) := by decide

theorem leadByte_two : ∀ n < 30, leadByte (.ofNat (n + 2 + 192)) = some (1, 0x80, 0xBF, n + 2) := by
  decide

/-- Of three bytes, the second is not so small that two would do, nor that of a surrogate. -/
theorem leadByte_three : ∀ n < 16, leadByte (.ofNat (n + 224)) =
    some (2, if n = 0 then 0xA0 else 0x80, if n = 13 then 0x9F else 0xBF, n) := by decide

/-- Of four bytes, the second is not so small that three would do, nor beyond the last
    character. -/
theorem leadByte_four : ∀ n < 5, leadByte (.ofNat (n + 240)) =
    some (3, if n = 0 then 0x90 else 0x80, if n = 4 then 0x8F else 0xBF, n) := by decide

theorem decodeParts_cons {b : UInt8} {bs rest : List UInt8} {count code : Nat}
    {low high : UInt8} {c : Char} (fuel : Nat) (hlead : leadByte b = some (count, low, high, code))
    (hrest : continuation count low high code bs = (some c.toNat, rest)) :
    decodeParts (fuel + 1) (b :: bs) = some c :: decodeParts fuel rest := by
  rw [decodeParts, hlead]
  show _ :: _ = _
  rw [hrest]
  exact congrArg (some · :: _) (Char.ofNat_toNat c)

/-- A character's bytes decode to it, whatever follows them. -/
theorem decodeParts_encode (c : Char) (bs : List UInt8) (fuel : Nat) :
    decodeParts (fuel + 1) (String.utf8EncodeChar c ++ bs) = some c :: decodeParts fuel bs := by
  have hvalid : c.toNat < 0xD800 ∨ 0xDFFF < c.toNat ∧ c.toNat < 0x110000 := c.valid
  rw [String.utf8EncodeChar]
  rw [show c.val.toNat = c.toNat from rfl]
  generalize hv : c.toNat = v at hvalid
  split
  -- one byte, the code point itself
  · rw [List.singleton_append]
    refine decodeParts_cons fuel (leadByte_one v (by omega)) ?_
    rw [continuation_zero, hv]
  split
  · rw [show v / 64 % 32 = v / 64 - 2 + 2 by omega, List.cons_append, List.singleton_append]
    refine decodeParts_cons fuel (leadByte_two (v / 64 - 2) (by omega)) ?_
    rw [continuation_succ _ (by omega) (by simp) (by simp; omega), continuation_zero, hv]
    congr 2
    omega
  split
  · rw [show v / 4096 % 16 = v / 4096 by omega, List.cons_append, List.cons_append,
      List.singleton_append]
    refine decodeParts_cons fuel (leadByte_three (v / 4096) (by omega)) ?_
    rw [continuation_succ _ (by omega) ?_ ?_]
    rw [continuation_succ _ (by omega) (by simp) (by simp; omega), continuation_zero, hv]
    · congr 2
      omega
    · split
      · simp
        omega
      · simp
    · split
      · simp
        omega
      · simp
        omega
  · rw [show v / 262144 % 8 = v / 262144 by omega, List.cons_append, List.cons_append,
      List.cons_append, List.singleton_append]
    refine decodeParts_cons fuel (leadByte_four (v / 262144) (by omega)) ?_
    rw [continuation_succ _ (by omega) ?_ ?_]
    rw [continuation_succ _ (by omega) (by simp) (by simp; omega)]
    rw [continuation_succ _ (by omega) (by simp) (by simp; omega), continuation_zero, hv]
    · congr 2
      omega
    · split
      · simp
        omega
      · simp
    · split
      · simp
        omega
      · simp
        omega

/-! ## Whole texts -/

theorem length_le_encode (cs : List Char) :
    cs.length ≤ (cs.flatMap String.utf8EncodeChar).length := by
  induction cs with
  | nil => exact Nat.le_refl 0
  | cons c cs ih =>
      have hone : 1 ≤ (String.utf8EncodeChar c).length := by
        rw [String.length_utf8EncodeChar]
        exact c.utf8Size_pos
      rw [List.flatMap_cons, List.length_append, List.length_cons]
      omega

theorem decodeParts_flatMap_encode (cs : List Char) {fuel : Nat} (h : cs.length ≤ fuel) :
    decodeParts fuel (cs.flatMap String.utf8EncodeChar) = cs.map some := by
  induction cs generalizing fuel with
  | nil => cases fuel <;> rfl
  | cons c cs ih =>
      cases fuel with
      | zero => exact absurd h (Nat.not_succ_le_zero _)
      | succ fuel =>
          rw [List.flatMap_cons, decodeParts_encode, ih (Nat.le_of_succ_le_succ h)]
          rfl

theorem toList_loop (b : ByteArray) (i : Nat) (r : List UInt8) :
    ByteArray.toList.loop b i r = r.reverse ++ b.data.toList.drop i := by
  fun_induction ByteArray.toList.loop b i r with
  | case1 i r h ih =>
      have hi : i < b.data.toList.length := h
      rw [ih, List.drop_eq_getElem_cons hi]
      simp [ByteArray.get!, h]
  | case2 i r h =>
      have hi : b.data.toList.length ≤ i := Nat.le_of_not_lt h
      rw [List.drop_eq_nil_of_le hi, List.append_nil]

theorem toList_toUTF8 (s : String) :
    s.toUTF8.toList = s.toList.flatMap String.utf8EncodeChar := by
  have hbytes : s.toUTF8 = (s.toList.flatMap String.utf8EncodeChar).toByteArray :=
    String.utf8Encode_toList.symm
  rw [hbytes, ByteArray.toList, toList_loop, List.data_toByteArray]
  rfl

/-- The bytes of a text decode to it. -/
theorem decode?_toUTF8 (s : String) : decode? s.toUTF8.toList = some s := by
  rw [decode?, toList_toUTF8, decodeParts_flatMap_encode _ (length_le_encode _)]
  have hall : (s.toList.map some).mapM id = some s.toList := by
    rw [List.mapM_map]
    exact (List.mapM_pure (m := Option)).trans (congrArg some (List.map_id ..))
  rw [hall, Option.map_some, String.ofList_toList]

/-- Nothing of it is replaced. -/
theorem decodeLossy_toUTF8 (s : String) : decodeLossy s.toUTF8.toList = s := by
  rw [decodeLossy, toList_toUTF8, decodeParts_flatMap_encode _ (length_le_encode _), List.map_map]
  have hkept : (s.toList.map ((·.getD '\uFFFD') ∘ some)) = s.toList := List.map_id ..
  rw [hkept, String.ofList_toList]

end TestCluster.Text
