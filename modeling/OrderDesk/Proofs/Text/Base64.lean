/-
Base 64 has one written form.

Bytes that are written are read again, and what can be read is exactly what would be
written for the bytes it stands for.  The second half is what makes the reader strict:
no two texts stand for the same bytes.

Between bytes and characters stand the values of the characters, six bits each.
-/
import OrderDesk.Text.Base64

namespace OrderDesk.Text.Base64

/-! ### The alphabet -/

/-- Every value is read off its character. -/
def Alphabet.Readable (a : Alphabet) : Prop := ∀ n < 64, a.value? (a.char n) = some n

theorem urlSafe_readable : urlSafe.Readable := by
  unfold Alphabet.Readable
  decide

theorem Alphabet.char_of_value? {a : Alphabet} {c : Char} {n : Nat} (h : a.value? c = some n) :
    n < 64 ∧ a.char n = c := by
  have hchar : ∀ m, m < 0xD800 → c.toNat = m → Char.ofNat m = c := by
    rintro m _ rfl
    exact Char.ofNat_toNat c
  unfold Alphabet.value? at h
  split at h
  · next hc =>
    have hb := capital_bounds hc
    cases h
    refine ⟨by omega, ?_⟩
    rw [Alphabet.char, if_pos (by omega)]
    exact hchar _ (by omega) (by omega)
  split at h
  · next hc =>
    have hb : 97 ≤ c.toNat ∧ c.toNat ≤ 122 := ⟨hc.1, hc.2⟩
    cases h
    refine ⟨by omega, ?_⟩
    rw [Alphabet.char, if_neg (by omega), if_pos (by omega)]
    exact hchar _ (by omega) (by omega)
  split at h
  · next hc =>
    have hb : 48 ≤ c.toNat ∧ c.toNat ≤ 57 := ⟨hc.1, hc.2⟩
    cases h
    refine ⟨by omega, ?_⟩
    rw [Alphabet.char, if_neg (by omega), if_neg (by omega), if_pos (by omega)]
    exact hchar _ (by omega) (by omega)
  split at h
  · next hc =>
    cases h
    exact ⟨by decide, hc.symm⟩
  split at h
  · next hc =>
    cases h
    exact ⟨by decide, hc.symm⟩
  · cases h

/-! ### Values -/

/-- The values of the characters that the bytes are written with. -/
def sextets : List UInt8 → List Nat
  | [] => []
  | [x] => [x.toNat / 4, x.toNat % 4 * 16]
  | [x, y] => [x.toNat / 4, x.toNat % 4 * 16 + y.toNat / 16, y.toNat % 16 * 4]
  | x :: y :: z :: rest =>
    (x.toNat / 4) :: (x.toNat % 4 * 16 + y.toNat / 16) :: (y.toNat % 16 * 4 + z.toNat / 64) ::
      (z.toNat % 64) :: sextets rest

theorem encode_eq (a : Alphabet) (bytes : List UInt8) :
    encode a bytes = (sextets bytes).map a.char := by
  fun_induction sextets bytes with
  | case1 => rfl
  | case2 x => rfl
  | case3 x y => rfl
  | case4 x y z rest ih => simp only [encode, ih, List.map_cons]

theorem encode_eq_nil {a : Alphabet} {bytes : List UInt8} : encode a bytes = [] ↔ bytes = [] := by
  rw [encode_eq, List.map_eq_nil_iff]
  fun_cases sextets bytes <;> simp

theorem sextets_lt {bytes : List UInt8} {n : Nat} (h : n ∈ sextets bytes) : n < 64 := by
  fun_induction sextets bytes with
  | case1 => cases h
  | case2 x =>
      have hx := x.toNat_lt
      simp only [List.mem_cons, List.not_mem_nil, or_false] at h
      omega
  | case3 x y =>
      have hx := x.toNat_lt
      have hy := y.toNat_lt
      simp only [List.mem_cons, List.not_mem_nil, or_false] at h
      omega
  | case4 x y z rest ih =>
      have hx := x.toNat_lt
      have hy := y.toNat_lt
      have hz := z.toNat_lt
      simp only [List.mem_cons] at h
      rcases h with h | h | h | h | h
      · omega
      · omega
      · omega
      · omega
      · exact ih h

/-! ### Bytes from values -/

theorem toNat_ofNat {n : Nat} (h : n < 256) : (UInt8.ofNat n).toNat = n :=
  UInt8.toNat_ofNat_of_lt' h

theorem ofNat_of_toNat {b : UInt8} {n : Nat} (h : n = b.toNat) : UInt8.ofNat n = b := by
  rw [h, UInt8.ofNat_toNat]

/-- Values that come from bytes are collected into those bytes. -/
theorem collect_sextets (done bytes : List UInt8) :
    collect done (sextets bytes) = some (bytes.reverse ++ done) := by
  fun_induction sextets bytes generalizing done with
  | case1 => rfl
  | case2 x =>
      have hx := x.toNat_lt
      rw [collect, if_pos (by omega), ofNat_of_toNat (b := x) (by omega)]
      rfl
  | case3 x y =>
      have hx := x.toNat_lt
      have hy := y.toNat_lt
      rw [collect, if_pos (by omega), ofNat_of_toNat (b := y) (by omega),
        ofNat_of_toNat (b := x) (by omega)]
      rfl
  | case4 x y z rest ih =>
      have hx := x.toNat_lt
      have hy := y.toNat_lt
      have hz := z.toNat_lt
      rw [collect, ofNat_of_toNat (b := z) (by omega), ofNat_of_toNat (b := y) (by omega),
        ofNat_of_toNat (b := x) (by omega), ih]
      simp

/-- What is collected are the bytes that the values come from. -/
theorem sextets_of_collect {done out : List UInt8} {values : List Nat}
    (hlt : ∀ n ∈ values, n < 64) (h : collect done values = some out) :
    ∃ bytes, out = bytes.reverse ++ done ∧ sextets bytes = values := by
  fun_induction collect done values with
  | case1 done =>
      cases h
      exact ⟨[], rfl, rfl⟩
  | case2 done p => cases h
  | case3 done p q hq =>
      have hp := hlt p (by simp)
      have hq' := hlt q (by simp)
      cases h
      refine ⟨[UInt8.ofNat (p * 4 + q / 16)], rfl, ?_⟩
      simp only [sextets, toNat_ofNat (show p * 4 + q / 16 < 256 by omega)]
      congr 1
      · omega
      · congr 1
        omega
  | case4 done p q hq => cases h
  | case5 done p q r hr =>
      have hp := hlt p (by simp)
      have hq := hlt q (by simp)
      have hr' := hlt r (by simp)
      cases h
      refine ⟨[UInt8.ofNat (p * 4 + q / 16), UInt8.ofNat (q % 16 * 16 + r / 4)], rfl, ?_⟩
      simp only [sextets, toNat_ofNat (show p * 4 + q / 16 < 256 by omega),
        toNat_ofNat (show q % 16 * 16 + r / 4 < 256 by omega), List.cons.injEq, and_true]
      omega
  | case6 done p q r hr => cases h
  | case7 done p q r s rest ih =>
      have hp := hlt p (by simp)
      have hq := hlt q (by simp)
      have hr := hlt r (by simp)
      have hs := hlt s (by simp)
      obtain ⟨bytes, rfl, rfl⟩ := ih (fun n hn => hlt n (by simp [hn])) h
      refine ⟨UInt8.ofNat (p * 4 + q / 16) :: UInt8.ofNat (q % 16 * 16 + r / 4) ::
        UInt8.ofNat (r % 4 * 64 + s) :: bytes, by simp, ?_⟩
      simp only [sextets, toNat_ofNat (show p * 4 + q / 16 < 256 by omega),
        toNat_ofNat (show q % 16 * 16 + r / 4 < 256 by omega),
        toNat_ofNat (show r % 4 * 64 + s < 256 by omega), List.cons.injEq, and_true]
      omega

/-! ### Texts -/

theorem values_of_chars {a : Alphabet} (ha : a.Readable) {values : List Nat}
    (h : ∀ n ∈ values, n < 64) : (values.map a.char).mapM a.value? = some values := by
  induction values with
  | nil => rfl
  | cons n rest ih =>
      have hn : a.value? (a.char n) = some n := ha n (h n (by simp))
      have hrest := ih fun m hm => h m (by simp [hm])
      simp [hn, hrest]

theorem chars_of_values {a : Alphabet} {cs : List Char} {values : List Nat}
    (h : cs.mapM a.value? = some values) : (∀ n ∈ values, n < 64) ∧ values.map a.char = cs := by
  induction cs generalizing values with
  | nil =>
      cases h
      simp
  | cons c rest ih =>
      simp only [List.mapM_cons, Option.pure_def, Option.bind_eq_bind, Option.bind_eq_some_iff,
        Option.some.injEq] at h
      obtain ⟨n, hn, others, hothers, rfl⟩ := h
      obtain ⟨hlt, hchar⟩ := Alphabet.char_of_value? hn
      obtain ⟨hall, hrest⟩ := ih hothers
      refine ⟨?_, by simp [hchar, hrest]⟩
      intro m hm
      rcases List.mem_cons.mp hm with rfl | hm
      · exact hlt
      · exact hall m hm

theorem decode_encode {a : Alphabet} (ha : a.Readable) (bytes : List UInt8) :
    decode a (encode a bytes) = some bytes := by
  rw [encode_eq, decode, values_of_chars ha fun _ => sextets_lt]
  simp [collect_sextets]

theorem encode_of_decode {a : Alphabet} {cs : List Char} {bytes : List UInt8}
    (h : decode a cs = some bytes) : encode a bytes = cs := by
  unfold decode at h
  split at h
  · cases h
  · next values hvalues =>
    obtain ⟨hlt, rfl⟩ := chars_of_values hvalues
    simp only [Option.map_eq_some_iff] at h
    obtain ⟨out, hout, rfl⟩ := h
    obtain ⟨bytes, rfl, rfl⟩ := sextets_of_collect hlt hout
    rw [encode_eq, List.append_nil, List.reverse_reverse]

end OrderDesk.Text.Base64
