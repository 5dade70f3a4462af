/-
Media types.

A media type names a type and a subtype, and perhaps parameters.  The subtype may end
in a plus sign and a suffix, which says in which notation it is written.
-/
import OrderDesk.Http.Syntax

namespace OrderDesk.Http

open OrderDesk.Text

/-- A media type in small letters, without its parameters. -/
structure MediaType where
  kind : String
  /-- The subtype up to its last plus sign. -/
  subtype : String
  suffix : Option String
  deriving DecidableEq, Repr

namespace MediaType

/-! ### Parameters -/

/-- Where one is in the parameters. -/
inductive Place where
  | beforeName
  | name
  | beforeValue
  | value
  /-- Behind the opening quote. -/
  | beforeQuoted
  | quoted
  | afterQuoted
  | broken
  deriving DecidableEq, Repr

/-- A character that may stand between quotes. -/
def isQuotable (c : Char) : Bool := ' ' ≤ c && c != '\x7f'

/-- The place after one more character. -/
def Place.next (p : Place) (c : Char) : Place :=
  match p with
  | .beforeName => if c = ' ' then .beforeName else if isTokenChar c then .name else .broken
  | .name => if c = '=' then .beforeValue else if isTokenChar c then .name else .broken
  | .beforeValue => if c = '"' then .beforeQuoted else if isTokenChar c then .value else .broken
  | .value => if c = ';' then .beforeName else if isTokenChar c then .value else .broken
  | .beforeQuoted => if isQuotable c then .quoted else .broken
  | .quoted => if c = '"' then .afterQuoted else if isQuotable c then .quoted else .broken
  | .afterQuoted => if c = ';' then .beforeName else if c = ' ' then .afterQuoted else .broken
  | .broken => .broken

/-- Parameters may end here. -/
def Place.mayEnd : Place → Bool
  | .beforeName | .beforeValue | .value | .afterQuoted => true
  | .name | .beforeQuoted | .quoted | .broken => false

/-- The text behind a semicolon is well formed. -/
def areParameters (cs : List Char) : Bool := (cs.foldl Place.next .beforeName).mayEnd

/-! ### The whole -/

/-- Cut a subtype at its last plus sign, unless it begins with it. -/
def splitSuffix (cs : List Char) : List Char × Option (List Char) :=
  match cutAt (· == '+') (cs.drop 1).reverse with
  | some (after, before) => (cs.take 1 ++ before.reverse, some after.reverse)
  | none => (cs, none)

/-- Read a media type. -/
def parse (s : String) : Option MediaType :=
  match cutAt (· == '/') (s.toList.map lowerAscii) with
  | none => none
  | some (kind, rest) =>
    let (subtype, parameters) := match cutAt (· == ';') rest with
      | some (subtype, parameters) => (subtype, some parameters)
      | none => (rest, none)
    if kind ≠ [] ∧ kind.all isTokenChar ∧ subtype.all isTokenChar ∧
        parameters.all (fun cs => subtype ≠ [] && areParameters cs) then
      let (name, suffix) := splitSuffix subtype
      some ⟨String.ofList kind, String.ofList name, suffix.map String.ofList⟩
    else none

/-- The notation is JSON. -/
def isJson (t : MediaType) : Bool :=
  t.kind == "application" && (t.subtype == "json" || t.suffix == some "json")

end MediaType

end OrderDesk.Http
