/-
Looking settings up.

Settings come as texts under names.  A setting whose text is empty counts as one that
is not there.
-/
import OrderDesk.Settings.Error
import OrderDesk.Text.Numeral

namespace OrderDesk

open OrderDesk.Text

/-- The text of a setting, if it is there. -/
abbrev Lookup := String → Option String

namespace Lookup

/-- The text of a setting that is there and not empty. -/
def present (lookup : Lookup) (name : String) : Option String :=
  (lookup name).filter fun value => value ≠ ""

/-- The text of a setting, or another text. -/
def orElse (lookup : Lookup) (name other : String) : String := (lookup.present name).getD other

/-- The text of a setting that has to be there. -/
def required (lookup : Lookup) (name : String) : Except SettingsError String :=
  match lookup.present name with
  | some value => .ok value
  | none => .error (.missing name)

/-- The value that `read` finds in the text of a setting, or in another text. -/
def parsed {α : Type} (lookup : Lookup) (name other : String) (read : String → Except String α) :
    Except SettingsError α :=
  (read (lookup.orElse name other)).mapError (.invalid name)

/-- The number of `bits` bits in the text of a setting, or in another text. -/
def number (lookup : Lookup) (bits : Nat) (name other : String) : Except SettingsError Nat :=
  lookup.parsed name other fun value =>
    ((readNumeral (.unsigned bits) value.toList).map Int.toNat).mapError NumeralError.message

end Lookup

end OrderDesk
