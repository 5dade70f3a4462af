/-
Identifiers of users and orders.

Both are thirty-two bit numbers with a sign, but of different types, so that an order
cannot be looked up under a user's number by mistake.
-/
import OrderDesk.Text.Blank
import OrderDesk.Text.Numeral

namespace OrderDesk

open OrderDesk.Text

/-- The number of a user. -/
structure UserId where
  value : Int32
  deriving DecidableEq, Repr

/-- The number of an order. -/
structure OrderId where
  value : Int32
  deriving DecidableEq, Repr

/-- Orders are listed by number. -/
instance : Ord OrderId := ⟨compareOn OrderId.value⟩

instance : Std.TransOrd OrderId := inferInstanceAs (Std.TransCmp (compareOn OrderId.value))

instance : Std.LawfulEqOrd OrderId where
  eq_of_compare {a b} h := by
    have : a.value = b.value := Std.LawfulEqOrd.eq_of_compare h
    cases a
    cases b
    simpa using this

/-- The numeral of a thirty-two bit number. -/
def int32Text (n : Int32) : String := intText n.toInt

/-- Read a thirty-two bit number.  Blanks around the numeral do not count. -/
def parseInt32 (s : String) : Except NumeralError Int32 :=
  (readNumeral .signed32 (trim s.toList)).map Int32.ofInt

/-- The numeral of a user's number. -/
def UserId.text (id : UserId) : String := int32Text id.value

/-- The numeral of an order's number. -/
def OrderId.text (id : OrderId) : String := int32Text id.value

/-- Read a user's number. -/
def UserId.parse (s : String) : Except NumeralError UserId := (parseInt32 s).map UserId.mk

/-- Read an order's number. -/
def OrderId.parse (s : String) : Except NumeralError OrderId := (parseInt32 s).map OrderId.mk

end OrderDesk
