/-
Reading what was written in UTF-8.

The bytes of a text are the bytes of its characters, one after another, and the reader is
between two characters again after each of them.  So a text that was written is read as
the same characters, and none of them is damaged.
-/
import OrderDesk.Text.Utf8

namespace OrderDesk.Text.Utf8

/-! ### The bytes of a text -/

theorem toList_loop (bytes : ByteArray) (i : Nat) (read : List UInt8) :
    ByteArray.toList.loop bytes i read = read.reverse ++ bytes.data.toList.drop i := by
  fun_induction ByteArray.toList.loop bytes i read with
  | case1 i read hlt ih =>
      have hsize : i < bytes.data.toList.length := hlt
      have hget : bytes.get! i = bytes.data.toList[i] := by
        show bytes.data[i]! = _
        rw [getElem!_pos bytes.data i hlt]
        simp
      rw [ih, List.drop_eq_getElem_cons hsize, hget]
      simp
  | case2 i read hge =>
      have hsize : bytes.data.toList.length ≤ i := Nat.le_of_not_lt hge
      rw [List.drop_eq_nil_of_le hsize, List.append_nil]

theorem encode_eq (s : String) : encode s = s.toList.flatMap String.utf8EncodeChar := by
  have hbytes : s.toUTF8 = (s.toList.flatMap String.utf8EncodeChar).toByteArray := by
    rw [String.toUTF8_eq_toByteArray, ← String.utf8Encode_toList]
    rfl
  rw [encode, hbytes, ByteArray.toList, toList_loop, List.toList_data_toByteArray]
  rfl

/-! ### One character -/

/-- A code point is no surrogate. -/
theorem toNat_valid (c : Char) : c.toNat < 0xD800 ∨ (0xDFFF < c.toNat ∧ c.toNat < 0x110000) :=
  c.valid

/-- The first byte of a character that has more of them. -/
theorem step_first {pending : Option Pending} {b : UInt8} {n : Nat} (hb : b.toNat = n)
    (hstart : start n = (pending, [])) (done : List (Option Char)) :
    step (none, done) b = (pending, done) := by
  rw [step, hb, hstart]
  rfl

/-- The last byte of a character. -/
theorem step_last {bits low high : Nat} {b : UInt8} {n : Nat} (hb : b.toNat = n)
    (hlow : low ≤ n) (hhigh : n ≤ high) (done : List (Option Char)) :
    step (some ⟨1, bits, low, high⟩, done) b =
      (none, some (Char.ofNat (bits * 64 + (n - 0x80))) :: done) := by
  subst hb
  rw [step, if_pos ⟨hlow, hhigh⟩]
  rfl

/-- A byte of a character that is not the last. -/
theorem step_more {missing bits low high : Nat} {b : UInt8} {n : Nat} (hb : b.toNat = n)
    (hlow : low ≤ n) (hhigh : n ≤ high) (done : List (Option Char)) :
    step (some ⟨missing + 2, bits, low, high⟩, done) b =
      (some ⟨missing + 1, bits * 64 + (n - 0x80), 0x80, 0xBF⟩, done) := by
  subst hb
  rw [step, if_pos ⟨hlow, hhigh⟩]
  rfl

theorem start_two {v : Nat} (hlow : 0x7F < v) (hhigh : v ≤ 0x7FF) :
    start (v / 64 % 0x20 + 0xC0) = (some ⟨1, v / 64, 0x80, 0xBF⟩, []) := by
  have hbits : v / 64 % 0x20 + 0xC0 - 0xC0 = v / 64 := by omega
  rw [start, if_neg (by omega), if_neg (by omega), if_pos (by omega), hbits]

/-- The first of three bytes leaves room for the second. -/
theorem start_three {v : Nat} (hlow : 0x7FF < v) (hhigh : v ≤ 0xFFFF)
    (hvalid : v < 0xD800 ∨ 0xDFFF < v) :
    ∃ low high, start (v / 4096 % 0x10 + 0xE0) = (some ⟨2, v / 4096, low, high⟩, []) ∧
      low ≤ v / 64 % 0x40 + 0x80 ∧ v / 64 % 0x40 + 0x80 ≤ high := by
  rw [start, if_neg (by omega), if_neg (by omega), if_neg (by omega)]
  by_cases hfirst : v / 4096 = 0
  · rw [if_pos (by omega), hfirst]
    exact ⟨0xA0, 0xBF, rfl, by omega, by omega⟩
  rw [if_neg (by omega)]
  by_cases hsurrogates : v / 4096 = 0xD
  · rw [if_pos (by omega), hsurrogates]
    exact ⟨0x80, 0x9F, rfl, by omega, by omega⟩
  have hbits : v / 4096 % 0x10 + 0xE0 - 0xE0 = v / 4096 := by omega
  rw [if_neg (by omega), if_pos (by omega), hbits]
  exact ⟨0x80, 0xBF, rfl, by omega, by omega⟩

/-- The first of four bytes leaves room for the second. -/
theorem start_four {v : Nat} (hlow : 0xFFFF < v) (hhigh : v < 0x110000) :
    ∃ low high, start (v / 262144 % 0x08 + 0xF0) = (some ⟨3, v / 262144, low, high⟩, []) ∧
      low ≤ v / 4096 % 0x40 + 0x80 ∧ v / 4096 % 0x40 + 0x80 ≤ high := by
  rw [start, if_neg (by omega), if_neg (by omega), if_neg (by omega), if_neg (by omega),
    if_neg (by omega), if_neg (by omega)]
  by_cases hfirst : v / 262144 = 0
  · rw [if_pos (by omega), hfirst]
    exact ⟨0x90, 0xBF, rfl, by omega, by omega⟩
  rw [if_neg (by omega)]
  by_cases hlast : v / 262144 = 4
  · rw [if_neg (by omega), if_pos (by omega), hlast]
    exact ⟨0x80, 0x8F, rfl, by omega, by omega⟩
  have hbits : v / 262144 % 0x08 + 0xF0 - 0xF0 = v / 262144 := by omega
  rw [if_pos (by omega), hbits]
  exact ⟨0x80, 0xBF, rfl, by omega, by omega⟩

theorem toNat_byte {n : Nat} (h : n < 256) : (UInt8.ofNat n).toNat = n :=
  UInt8.toNat_ofNat_of_lt' h

/-- A character is read, and the reader is between characters again. -/
theorem foldl_char (c : Char) (done : List (Option Char)) :
    (String.utf8EncodeChar c).foldl step (none, done) = (none, some c :: done) := by
  have hvalid := toNat_valid c
  have hc : ∀ n, n = c.toNat → Char.ofNat n = c := by
    rintro n rfl
    exact Char.ofNat_toNat c
  have hval : c.val.toNat = c.toNat := rfl
  unfold String.utf8EncodeChar
  simp only [hval]
  split
  · next h1 =>
    have hfirst := toNat_byte (show c.toNat < 256 by omega)
    have hstart : start c.toNat = (none, [some c]) := by
      rw [start, if_pos (by omega), hc _ rfl]
    rw [List.foldl_cons, List.foldl_nil, step, hfirst, hstart]
    rfl
  split
  · next h1 h2 =>
    simp only [List.foldl_cons, List.foldl_nil]
    rw [step_first (toNat_byte (by omega)) (start_two (by omega) h2),
      step_last (toNat_byte (by omega)) (by omega) (by omega), hc _ (by omega)]
  split
  · next h1 h2 h3 =>
    obtain ⟨low, high, hstart, hlow, hhigh⟩ := start_three (by omega) h3 (by omega)
    simp only [List.foldl_cons, List.foldl_nil]
    rw [step_first (toNat_byte (by omega)) hstart, step_more (toNat_byte (by omega)) hlow hhigh,
      step_last (toNat_byte (by omega)) (by omega) (by omega), hc _ (by omega)]
  · next h1 h2 h3 =>
    obtain ⟨low, high, hstart, hlow, hhigh⟩ :=
      start_four (show 0xFFFF < c.toNat by omega) (by omega)
    simp only [List.foldl_cons, List.foldl_nil]
    rw [step_first (toNat_byte (by omega)) hstart, step_more (toNat_byte (by omega)) hlow hhigh,
      step_more (toNat_byte (by omega)) (by omega) (by omega),
      step_last (toNat_byte (by omega)) (by omega) (by omega), hc _ (by omega)]

/-! ### All characters -/

theorem foldl_chars (cs : List Char) (done : List (Option Char)) :
    (cs.flatMap String.utf8EncodeChar).foldl step (none, done) =
      (none, (cs.map some).reverse ++ done) := by
  induction cs generalizing done with
  | nil => rfl
  | cons c rest ih =>
      rw [List.flatMap_cons, List.foldl_append, foldl_char, ih]
      simp

/-- **What was written is read again.** -/
theorem decode_encode (s : String) : decode (encode s) = s.toList.map some := by
  rw [decode, encode_eq, foldl_chars]
  simp

end OrderDesk.Text.Utf8
