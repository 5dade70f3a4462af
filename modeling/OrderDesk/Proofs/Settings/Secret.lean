/-
Which secrets are strong.

A strong secret is long, holds no text that was meant to be replaced, in letters of either case,
and its characters differ enough.  A placeholder is a piece of the secret as it stands, where the
check looks at its small letters.

How much the characters differ is worked out anew by each judgement, and two judgements need not
come to the same number.  All that can make a difference is whether the number is too low and what
is shown of it then.
-/
import OrderDesk.Proofs.Text.Lowercase
import OrderDesk.Settings.Secret

namespace OrderDesk.Secret

open OrderDesk.Text

/-! ### Entropy -/

/-- Two judgements measure a text alike. -/
def Gauge.Alike (gauge gauge' : Gauge) (secret : String) : Prop :=
  gauge.shortfall? secret.toList = gauge'.shortfall? secret.toList

theorem Gauge.shortfall?_eq_none_iff {gauge : Gauge} {cs : List Char} :
    gauge.shortfall? cs = none ↔ ¬gauge.entropy cs < minEntropy := by
  rw [shortfall?]
  split
  · next h => exact iff_of_false (by simp) fun hnot => hnot h
  · next h => exact iff_of_true rfl h

/-! ### Placeholders -/

/-- A piece of the secret is the part, in letters of either case. -/
def Holds (secret part : String) : Prop :=
  ∃ piece, piece <:+: secret.toList ∧ equalIgnoringCase piece part.toList = true

/-- The small letters that the check looks at are small letters of the secret. -/
theorem lowercased_flatMap (cs : List Char) : Lowercased cs (cs.flatMap loweredChar) := by
  induction cs with
  | nil => exact .nil
  | cons c rest ih =>
      rw [List.flatMap_cons]
      refine .cons ?_ ih
      rw [loweredChar]
      split
      · next hc => exact hc ▸ .kelvin
      split
      · next hc => exact hc ▸ .dotted
      by_cases hforeign : Foreign c
      · refine .foreign hforeign (List.cons_ne_nil _ _) fun d hd => ?_
        rwa [List.mem_singleton.mp hd, lowerAscii_of_foreign hforeign]
      · exact .ascii hforeign

theorem robust_placeholders : ∀ part ∈ placeholders, Robust part.toList := by decide

/-- It makes no difference which small letters of the secret are looked at. -/
theorem infix_iff_holds {secret part : String} {lowered : List Char}
    (h : Lowercased secret.toList lowered) (hpart : part ∈ placeholders) :
    part.toList <:+: lowered ↔ Holds secret part :=
  infix_lowercased_iff h (robust_placeholders part hpart)

theorem occursIn_iff_holds {secret part : String} (hpart : part ∈ placeholders) :
    occursIn part.toList (secret.toList.flatMap loweredChar) = true ↔ Holds secret part := by
  rw [occursIn_iff, infix_iff_holds (lowercased_flatMap secret.toList) hpart]

theorem placeholderIn?_eq_none_iff {secret : String} :
    placeholderIn? secret = none ↔ ∀ part ∈ placeholders, ¬Holds secret part := by
  rw [placeholderIn?, List.find?_eq_none]
  exact forall₂_congr fun part hpart => not_congr (occursIn_iff_holds hpart)

/-- A strong secret, as a judgement measures it. -/
structure Strong (gauge : Gauge) (secret : String) : Prop where
  long : 32 ≤ secret.utf8ByteSize
  original : ∀ part ∈ placeholders, ¬Holds secret part
  varied : ¬gauge.entropy secret.toList < minEntropy

/-- **The strong secrets are accepted and no others.** -/
theorem check_eq_ok_iff {gauge : Gauge} {name secret : String} :
    check gauge name secret = .ok () ↔ Strong gauge secret := by
  rw [check, minBytes]
  by_cases hlong : 32 ≤ secret.utf8ByteSize
  · rw [if_neg (Nat.not_lt.mpr hlong)]
    cases hpart : placeholderIn? secret with
    | some part =>
        refine iff_of_false (by simp) fun hstrong => ?_
        rw [placeholderIn?_eq_none_iff.mpr hstrong.original] at hpart
        contradiction
    | none =>
        cases hshown : gauge.shortfall? secret.toList with
        | some shown =>
            refine iff_of_false (by simp) fun hstrong => ?_
            rw [Gauge.shortfall?_eq_none_iff.mpr hstrong.varied] at hshown
            contradiction
        | none =>
            exact iff_of_true rfl ⟨hlong, placeholderIn?_eq_none_iff.mp hpart,
              Gauge.shortfall?_eq_none_iff.mp hshown⟩
  · rw [if_pos (Nat.not_le.mp hlong)]
    exact iff_of_false (by simp) fun hstrong => hlong hstrong.long

/-- Judgements that measure a secret alike say the same of it. -/
theorem check_congr {gauge gauge' : Gauge} {name secret : String}
    (h : gauge.Alike gauge' secret) : check gauge name secret = check gauge' name secret := by
  rw [check, check, h]

/-- Logarithms of the shares of characters in texts of thirty-two and of eighty characters, each
the nearest number there is. -/
def logarithmOf (p : Float) : Float :=
  if p == 0.3125 then -1.6780719051126376
  else if p == 0.125 then -3
  else if p == 0.0625 then -4
  else if p == 0.05 then -4.321928094887363
  else if p == 0.03125 then -5
  else if p == 0.025 then -5.321928094887363
  else if p == 0.0125 then -6.321928094887363
  else Float.log2 p

/-- The characters in the order of the text. -/
def Gauge.forward : Gauge where
  log2 := logarithmOf
  order cs := cs
  perm cs := .refl cs

/-- The characters in the opposite order. -/
def Gauge.backward : Gauge where
  log2 := logarithmOf
  order := List.reverse
  perm := List.reverse_perm

/-- A key of eighty characters.  Its entropy is what it has to be at least, but the sum is not,
unless the characters come in the right order. -/
def edgeKey : String :=
  "0000000000000000000000000111111111122222222223333344444555566667777888899AABCDEF"

/-- **The order can decide.**  With the same logarithm, two judgements of one key can differ; so
where judgements are compared, it has to be asked that they measure the key alike. -/
theorem order_can_decide : Strong .backward edgeKey ∧ ¬Strong .forward edgeKey := by
  have hjudged : check .backward "SIGNING_KEY" edgeKey = .ok () ∧
      check .forward "SIGNING_KEY" edgeKey ≠ .ok () := by decide +kernel
  exact ⟨check_eq_ok_iff.mp hjudged.1, fun hstrong => hjudged.2 (check_eq_ok_iff.mpr hstrong)⟩

end OrderDesk.Secret
