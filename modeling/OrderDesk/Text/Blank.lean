/-
Blank characters.

A character is blank when it has the Unicode property White_Space: twenty-five
characters in ten ranges.  Names and addresses are read without the blanks around
them, so `trim` drops blanks from both ends and touches nothing between.
-/
namespace OrderDesk.Text

/-- The ranges of the White_Space property, in order. -/
def blankRanges : List (Nat × Nat) :=
  [(0x09, 0x0D), (0x20, 0x20), (0x85, 0x85), (0xA0, 0xA0), (0x1680, 0x1680),
   (0x2000, 0x200A), (0x2028, 0x2029), (0x202F, 0x202F), (0x205F, 0x205F), (0x3000, 0x3000)]

/-- A character with the White_Space property. -/
def isBlank (c : Char) : Bool :=
  blankRanges.any fun (first, last) => first ≤ c.toNat && c.toNat ≤ last

/-- Drop the blanks before the first other character. -/
def trimStart (cs : List Char) : List Char := cs.dropWhile isBlank

/-- Drop the blanks after the last other character. -/
def trimEnd (cs : List Char) : List Char := (cs.reverse.dropWhile isBlank).reverse

/-- Drop the blanks on both sides. -/
def trim (cs : List Char) : List Char := trimEnd (trimStart cs)

/-- The text without the blanks on both sides. -/
def trimmed (s : String) : String := String.ofList (trim s.toList)

end OrderDesk.Text
