/-
Login names.

A name is three to sixty-four characters, each an ASCII letter or digit, a point, a
hyphen or an underscore.  Names are compared as they are: `Alice` and `alice` are
two names.  Blanks around a name do not count when it is read.
-/
import OrderDesk.Text.Ascii
import OrderDesk.Text.Blank
import OrderDesk.Text.Quoted

namespace OrderDesk

open OrderDesk.Text

/-- What can be wrong with a login name. -/
inductive UsernameError where
  | empty
  | tooShort
  | tooLong
  | invalidCharacter (c : Char)
  deriving DecidableEq, Repr

/-- The text that reports the fault. -/
def UsernameError.message : UsernameError → String
  | .empty => "username cannot be empty"
  | .tooShort => "username must be at least 3 characters"
  | .tooLong => "username must be at most 64 characters"
  | .invalidCharacter c =>
    "username may only contain letters, digits, '.', '-' and '_' (found " ++ quotedSingle c ++ ")"

namespace Username

/-- The fewest characters of a name, or bytes, which is the same for a name. -/
def minLength : Nat := 3

/-- The most characters of a name, or bytes. -/
def maxLength : Nat := 64

/-- A character that may stand in a name. -/
def isAllowed (c : Char) : Bool :=
  isLetter c || isDigit c || c == '.' || c == '-' || c == '_'

/-- The characters make a name. -/
structure WellFormed (name : List Char) : Prop where
  allowed : ∀ c ∈ name, isAllowed c = true
  minLength_le : minLength ≤ name.length
  le_maxLength : name.length ≤ maxLength

end Username

/-- A login name. -/
structure Username where
  text : String
  wellFormed : Username.WellFormed text.toList
  deriving DecidableEq

namespace Username

/-- The characters of a name lie between the hyphen and the last letter. -/
theorem isAllowed_bounds {c : Char} (h : isAllowed c = true) : 45 ≤ c.toNat ∧ c.toNat ≤ 122 := by
  simp only [isAllowed, isLetter, isDigit, Bool.or_eq_true, Bool.and_eq_true, decide_eq_true_eq,
    beq_iff_eq] at h
  rcases h with ((((⟨hlow, hhigh⟩ | ⟨hlow, hhigh⟩) | ⟨hlow, hhigh⟩) | rfl) | rfl) | rfl
  · exact ⟨Nat.le_trans (by decide : 45 ≤ 97) hlow, hhigh⟩
  · exact ⟨Nat.le_trans (by decide : 45 ≤ 65) hlow, Nat.le_trans hhigh (by decide : 90 ≤ 122)⟩
  · exact ⟨Nat.le_trans (by decide : 45 ≤ 48) hlow, Nat.le_trans hhigh (by decide : 57 ≤ 122)⟩
  · decide
  · decide
  · decide

/-- Once no character is foreign, the bytes can be counted in place of the characters. -/
theorem utf8ByteSize_of_allowed {name : List Char} (h : ∀ c ∈ name, isAllowed c = true) :
    (String.ofList name).utf8ByteSize = name.length :=
  utf8ByteSize_of_ascii fun c hc => Nat.le_trans (isAllowed_bounds (h c hc)).2 (by decide)

theorem allowed_of_find? {name : List Char} (h : name.find? (fun c => !isAllowed c) = none) :
    ∀ c ∈ name, isAllowed c = true := by
  simpa using h

theorem wellFormed_of_tests {name : List Char} (hc : name.find? (fun c => !isAllowed c) = none)
    (hmin : ¬(String.ofList name).utf8ByteSize < minLength)
    (hmax : ¬maxLength < (String.ofList name).utf8ByteSize) :
    WellFormed (String.ofList name).toList := by
  rw [utf8ByteSize_of_allowed (allowed_of_find? hc)] at hmin hmax
  rw [String.toList_ofList]
  exact ⟨allowed_of_find? hc, Nat.le_of_not_lt hmin, Nat.le_of_not_lt hmax⟩

/-- Read a name from a text.  A foreign character is reported before a wrong length, which is
counted in bytes. -/
def parse (s : String) : Except UsernameError Username :=
  let name := trim s.toList
  if name = [] then .error .empty
  else match hc : name.find? (fun c => !isAllowed c) with
    | some bad => .error (.invalidCharacter bad)
    | none =>
      if hmin : (String.ofList name).utf8ByteSize < minLength then .error .tooShort
      else if hmax : maxLength < (String.ofList name).utf8ByteSize then .error .tooLong
      else .ok ⟨String.ofList name, wellFormed_of_tests hc hmin hmax⟩

end Username

end OrderDesk
