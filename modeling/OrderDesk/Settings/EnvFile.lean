/-
Settings in a file.

A file of settings has one on a line: a name, an equals sign and a value.  Lines that
begin with `#` are comments.  A value may stand in quotes; between single quotes every
character stands for itself, elsewhere a backslash and the values of other settings are
understood.  Reading ends at the first line that makes no sense, and what has been read
before stays.

A setting from the surroundings wins over one in the file, and the first of several
settings with one name wins over the others.
-/
import OrderDesk.Settings.Lookup
import OrderDesk.Text.Blank

namespace OrderDesk.EnvFile

open OrderDesk.Text

/-! ### Values -/

/-- How the characters of a value are taken. -/
inductive Mode where
  | bare
  | single
  | double
  /-- Behind a blank, where only a comment may follow. -/
  | ended
  | comment
  deriving DecidableEq, Repr

/-- How far the reading of a value has come. -/
structure Progress where
  mode : Mode
  /-- The last character was a backslash. -/
  escaped : Bool
  /-- The name of another setting whose value belongs here, as far as it has been read, and
  whether it stands in braces. -/
  wanted : Option (Bool × List Char)
  /-- What has been read. -/
  chars : List Char
  deriving DecidableEq, Repr

namespace Progress

/-- Nothing has been read. -/
def start : Progress := ⟨.bare, false, none, []⟩

/-- Take a character as it stands. -/
def push (p : Progress) (c : Char) : Progress := { p with chars := p.chars ++ [c] }

/-- Take the value of the setting that is wanted, if one is. -/
def fill (known : Lookup) (p : Progress) : Progress :=
  match p.wanted with
  | none => p
  | some (_, name) =>
    { p with wanted := none, chars := p.chars ++ ((known (String.ofList name)).getD "").toList }

/-- Take a character behind a backslash. -/
def afterBackslash (p : Progress) (c : Char) : Option Progress :=
  let p := { p with escaped := false }
  if "\\'\"$ ".contains c then some (p.push c)
  else if c = 'n' then some (p.push '\n')
  else none

/-- Take a character of the name of another setting, or the first one behind it. -/
def inName (known : Lookup) (p : Progress) (braces : Bool) (name : List Char) (c : Char) :
    Progress :=
  if isLetter c || isDigit c then { p with wanted := some (braces, name ++ [c]) }
  else if braces then
    if c = '\x7d' then p.fill known else { p with wanted := some (braces, name ++ [c]) }
  else if c = '\x7b' ∧ name = [] then { p with wanted := some (true, []) }
  else if c = '$' then { p.fill known with wanted := some (false, []) }
  else (p.fill known).push c

/-- Take a character that is not between single quotes. -/
def inOpen (p : Progress) (c : Char) : Progress :=
  if c = '$' then { p with wanted := some (false, []) }
  else if c = '\\' then { p with escaped := true }
  else if p.mode = .double then if c = '"' then { p with mode := .bare } else p.push c
  else if c = '\'' then { p with mode := .single }
  else if c = '"' then { p with mode := .double }
  else if c = ' ' || c = '\t' then { p with mode := .ended }
  else p.push c

/-- Take one more character. -/
def next (known : Lookup) (p : Progress) (c : Char) : Option Progress :=
  match p.mode with
  | .comment => some p
  | .ended =>
    if c = ' ' || c = '\t' then some p
    else if c = '#' then some { p with mode := .comment }
    else none
  | .single => some (if c = '\'' then { p with mode := .bare } else p.push c)
  | .bare | .double =>
    if p.escaped then p.afterBackslash c
    else
      match p.wanted with
      | some (braces, name) => some (p.inName known braces name c)
      | none => some (p.inOpen c)

/-- The value, if it may end here. -/
def finish (known : Lookup) (p : Progress) : Option String :=
  let isOpen := match p.mode, p.wanted with
    | .single, _ | .double, _ | _, some (true, _) => true
    | _, _ => false
  if isOpen then none else some (String.ofList (p.fill known).chars)

end Progress

/-- Read a value. -/
def readValue (known : Lookup) (cs : List Char) : Option String :=
  (cs.foldlM (Progress.next known) .start).bind (Progress.finish known)

/-! ### Lines -/

/-- What a line says. -/
inductive Line where
  | nothing
  | setting (name value : String)
  | broken
  deriving DecidableEq, Repr

/-- A character that a name may begin with. -/
def isNameStart (c : Char) : Bool := isLetter c || c == '_'

/-- A character of a name. -/
def isNameChar (c : Char) : Bool := isNameStart c || isDigit c || c == '.'

/-- The name at the beginning of a text, and what follows it and the blanks behind it. -/
def name? (cs : List Char) : Option (List Char × List Char) :=
  if cs.head?.any isNameStart then
    some (cs.takeWhile isNameChar, trimStart (cs.dropWhile isNameChar))
  else none

/-- Read what follows the name of a setting. -/
def readRest (known : Lookup) (name : List Char) : List Char → Line
  | '=' :: rest =>
    let rest := trimStart rest
    if rest = [] ∨ rest.head? = some '#' then .setting (String.ofList name) ""
    else
      match readValue known rest with
      | some value => .setting (String.ofList name) value
      | none => .broken
  | _ => .broken

/-- Read a line.  The word `export` may stand in front of the name. -/
def readLine (known : Lookup) (cs : List Char) : Line :=
  let cs := trim cs
  if cs = [] ∨ cs.head? = some '#' then .nothing
  else
    match name? cs with
    | none => .broken
    | some (name, rest) =>
      if name = "export".toList ∧ rest.head? ≠ some '=' then
        match name? rest with
        | none => .broken
        | some (name, rest) => readRest known name rest
      else readRest known name rest

/-! ### Files -/

/-- The settings of the surroundings, and behind them some others. -/
def layered (real : Lookup) (others : List (String × String)) : Lookup := fun name =>
  (real name).or (others.lookup name)

/-- Read line after line, after the settings that have been found already. -/
def readLines (real : Lookup) (found : List (String × String)) :
    List (List Char) → List (String × String)
  | [] => found
  | line :: rest =>
    match readLine (layered real found) line with
    | .nothing => readLines real found rest
    | .setting name value => readLines real (found ++ [(name, value)]) rest
    | .broken => found

/-- The settings of the surroundings, and behind them those of a file. -/
def lookup (real : Lookup) (file : String) : Lookup :=
  layered real (readLines real [] (splitAll '\n' file.toList))

end OrderDesk.EnvFile
