/-
Reading values out of a JSON text.

A reader looks at the lexemes from where its value starts and says what the value is
or why it is refused.  Records are read member by member, so of two faults the one
that stands first in the text is reported.  A text that is not JSON is `malformed`;
a value that does not fit what is asked for is a `Mismatch`, reported together with
the path to the place where it stands.

A record is an object, or an array of its fields in the order in which the record
lists them.  Members that the record does not list are skipped, whatever they hold
and however deep they nest.
-/
import OrderDesk.Json.Lexeme
import OrderDesk.Text.Numeral
import OrderDesk.Text.Quoted
import OrderDesk.Text.Shortest
import OrderDesk.Text.Utf8

namespace OrderDesk.Json

open OrderDesk.Text

/-! ### Why a value is refused -/

/-- What was found where something else was asked for. -/
inductive Found where
  | null
  | bool (b : Bool)
  | integer (n : Int)
  /-- A number that is no integer, in its shortest form. -/
  | float (shortest : String)
  | text (s : String)
  | sequence
  | map
  deriving DecidableEq, Repr

/-- The words for what was found. -/
def Found.message : Found → String
  | .null => "null"
  | .bool b => "boolean `" ++ (if b then "true" else "false") ++ "`"
  | .integer n => "integer `" ++ intText n ++ "`"
  | .float f => "floating point `" ++ f ++ "`"
  | .text s => "string " ++ quoted s
  | .sequence => "sequence"
  | .map => "map"

/-- How a value fails to fit. -/
inductive Mismatch where
  | invalidType (found : Found) (expected : String)
  /-- An integer outside the range of the type. -/
  | invalidValue (n : Int) (expected : String)
  /-- An array with too few elements for the record. -/
  | invalidLength (length : Nat) (record : String) (size : Nat)
  | missingField (name : String)
  | duplicateField (name : String)
  /-- A word that is none of `choices`. -/
  | unknownVariant (word : String) (choices : List String)
  /-- A text that the type it is for does not accept, with that type's own report. -/
  | unacceptable (report : String)
  deriving DecidableEq, Repr

/-- The text that reports a mismatch. -/
def Mismatch.message : Mismatch → String
  | .invalidType found expected =>
    "invalid type: " ++ found.message ++ ", expected " ++ expected
  | .invalidValue n expected =>
    "invalid value: integer `" ++ intText n ++ "`, expected " ++ expected
  | .invalidLength length record size =>
    "invalid length " ++ natText length ++ ", expected struct " ++ record ++ " with " ++
      natText size ++ (if size = 1 then " element" else " elements")
  | .missingField name => "missing field `" ++ name ++ "`"
  | .duplicateField name => "duplicate field `" ++ name ++ "`"
  | .unknownVariant word choices =>
    "unknown variant `" ++ word ++ "`, expected one of " ++
      String.intercalate ", " (choices.map fun c => "`" ++ c ++ "`")
  | .unacceptable report => report

/-- One step on the way to a value. -/
inductive Segment where
  | field (name : String)
  | index (n : Nat)
  deriving DecidableEq, Repr

/-- The text of a path: names with points between them, positions in brackets. -/
def pathText : List Segment → String
  | [] => ""
  | .index n :: rest => "[" ++ natText n ++ "]" ++ more rest
  | .field name :: rest => name ++ more rest
where
  more : List Segment → String
    | [] => ""
    | .index n :: rest => "[" ++ natText n ++ "]" ++ more rest
    | .field name :: rest => "." ++ name ++ more rest

/-- Why a text is refused. -/
inductive Refusal where
  | malformed
  | mismatch (path : List Segment) (what : Mismatch)
  deriving DecidableEq, Repr

/-- The refusal seen from one step further out. -/
def Refusal.under (s : Segment) : Refusal → Refusal
  | .malformed => .malformed
  | .mismatch path what => .mismatch (s :: path) what

/-! ### Skipping a value -/

/-- What may come next inside a value. -/
inductive Spot where
  | value
  | valueOrClose
  | key
  | keyOrClose
  | colon
  | after
  deriving DecidableEq, Repr

/-- What is open around the current place. -/
inductive Frame where
  | array
  | object
  deriving DecidableEq, Repr

/-- The spot and the open frames after one more lexeme, unless it may not stand here. -/
def Spot.next (spot : Spot) (open' : List Frame) (l : Lexeme) : Option (Spot × List Frame) :=
  match spot, l with
  | .value, .null | .value, .bool _ | .value, .number _ | .value, .text _
  | .valueOrClose, .null | .valueOrClose, .bool _ | .valueOrClose, .number _
  | .valueOrClose, .text _ => some (.after, open')
  | .value, .openBracket | .valueOrClose, .openBracket => some (.valueOrClose, .array :: open')
  | .value, .openBrace | .valueOrClose, .openBrace => some (.keyOrClose, .object :: open')
  | .valueOrClose, .closeBracket | .keyOrClose, .closeBrace => some (.after, open'.drop 1)
  | .key, .text _ | .keyOrClose, .text _ => some (.colon, open')
  | .colon, .colon => some (.value, open')
  | .after, .comma =>
    match open' with
    | .array :: _ => some (.value, open')
    | .object :: _ => some (.key, open')
    | [] => none
  | .after, .closeBracket => if open'.head? = some .array then some (.after, open'.drop 1) else none
  | .after, .closeBrace => if open'.head? = some .object then some (.after, open'.drop 1) else none
  | _, _ => none

/-- Count lexemes up to the end of the value, in which `n` have been read. -/
def valueLengthFrom (spot : Spot) (open' : List Frame) (n : Nat) : List Lexeme → Option Nat
  | [] => none
  | l :: rest =>
    match spot.next open' l with
    | none => none
    | some (spot', open'') =>
      if spot' = .after ∧ open'' = [] then some (n + 1)
      else valueLengthFrom spot' open'' (n + 1) rest

/-- How many lexemes the value at the head takes, if it is well formed. -/
def valueLength? (ls : List Lexeme) : Option Nat := valueLengthFrom .value [] 0 ls

/-- The value at the head, inside `depth` open frames, can be kept for a later look: each of its
strings has a text, each of its numbers can be expressed, and it nests at most `limit` levels. -/
def canBeKept (limit depth : Nat) : List Lexeme → Bool
  | [] => false
  | .openBracket :: rest | .openBrace :: rest => depth < limit && canBeKept limit (depth + 1) rest
  | .closeBracket :: rest | .closeBrace :: rest => depth ≤ 1 || canBeKept limit (depth - 1) rest
  | .text none :: _ => false
  | .number n :: rest =>
    (n.toInt?.isSome || n.toFloat?.isSome) && (depth == 0 || canBeKept limit depth rest)
  | _ :: rest => depth == 0 || canBeKept limit depth rest

/-! ### Reading single values -/

/-- Reads the value at the head of the lexemes. -/
abbrev Reader (α : Type) := List Lexeme → Except Refusal α

/-- What stands at the head, in the words of a report. -/
def found : Reader Found
  | .null :: _ => .ok .null
  | .bool b :: _ => .ok (.bool b)
  | .number n :: _ =>
    match n.toInt? with
    | some i => .ok (.integer i)
    | none =>
      match n.toFloat? with
      | some f => .ok (.float (Shortest.text f))
      | none => .error .malformed
  | .text (some s) :: _ => .ok (.text s)
  | .openBracket :: _ => .ok .sequence
  | .openBrace :: _ => .ok .map
  | _ => .error .malformed

/-- Refuse what stands at the head, because `expected` should stand there. -/
def refuse {α : Type} (expected : String) : Reader α := fun ls =>
  match found ls with
  | .ok f => .error (.mismatch [] (.invalidType f expected))
  | .error e => .error e

/-- A string. -/
def readText : Reader String
  | .text (some s) :: _ => .ok s
  | ls => refuse "a string" ls

/-- A string that `parse` accepts. -/
def readParsed {ε α : Type} (parse : String → Except ε α) (report : ε → String) : Reader α :=
  fun ls =>
    match readText ls with
    | .error e => .error e
    | .ok s =>
      match parse s with
      | .ok a => .ok a
      | .error e => .error (.mismatch [] (.unacceptable (report e)))

/-- An integer of the range, which is called `name` in reports. -/
def readInt (range : IntRange) (name : String) : Reader Int
  | .number n :: rest =>
    match n.toInt? with
    | some i =>
      if range.low ≤ i ∧ i ≤ range.high then .ok i
      else .error (.mismatch [] (.invalidValue i name))
    | none => refuse name (.number n :: rest)
  | ls => refuse name ls

/-- `null` or a value. -/
def readOptional {α : Type} (read : Reader α) : Reader (Option α)
  | .null :: _ => .ok none
  | ls => (read ls).map some

/-- One of several choices, each with its word: the word, or an object whose only member has
the word as its name and `null` as its value. -/
def readChoice {α : Type} (choices : List (String × α)) : Reader α := fun ls =>
  let choose (word : String) : Except Refusal α :=
    match choices.lookup word with
    | some a => .ok a
    | none => .error (.mismatch [] (.unknownVariant word (choices.map Prod.fst)))
  match ls with
  | .text (some word) :: _ => choose word
  | .openBrace :: .text (some word) :: rest =>
    match choose word, rest with
    | .error e, _ => .error e
    | .ok a, .colon :: .null :: .closeBrace :: _ => .ok a
    | .ok _, .colon :: .null :: _ => .error .malformed
    | .ok _, .colon :: value =>
      match refuse (α := α) "unit" value with
      | .ok a => .ok a
      | .error e => .error (e.under (.field word))
    | .ok _, _ => .error .malformed
  | .openBrace :: rest => refuse "variant identifier" rest
  | _ => .error .malformed

/-! ### Reading records -/

/-- A field of a record. -/
structure Field where
  name : String
  /-- An object without this field is refused. -/
  required : Bool
  /-- An array that ends before this field is refused. -/
  requiredInArray : Bool
  deriving DecidableEq, Repr

/-- A field that may not be left out. -/
def Field.must (name : String) : Field := ⟨name, true, true⟩

/-- A field that may be left out. -/
def Field.may (name : String) : Field := ⟨name, false, false⟩

/-- A field that may be left out of an object, but not of an array. -/
def Field.mayInObject (name : String) : Field := ⟨name, false, true⟩

/-- A record: its name in reports and its fields in order. -/
structure Record where
  name : String
  fields : List Field
  deriving DecidableEq, Repr

/-- The fields that have been read, latest first. -/
abbrev Members (α : Type) := List (String × α)

/-- A field of the record with this name. -/
def Record.has (r : Record) (name : String) : Bool := r.fields.any fun f => f.name == name

/-- What comes after a member: another one, or the end of the object. -/
inductive Next where
  | member (rest : List Lexeme)
  | close (rest : List Lexeme)
  deriving DecidableEq, Repr

/-- Step over the value at the head and the comma or brace behind it. -/
def afterMember (value : List Lexeme) : Except Refusal Next :=
  match valueLength? value with
  | none => .error .malformed
  | some n =>
    match value.drop n with
    | .comma :: rest => .ok (.member rest)
    | .closeBrace :: rest => .ok (.close rest)
    | _ => .error .malformed

theorem length_afterMember {value rest : List Lexeme}
    (h : afterMember value = .ok (.member rest)) : rest.length < value.length := by
  unfold afterMember at h
  split at h
  · simp at h
  · next n _ =>
    split at h
    · next r hd =>
      cases h
      have : (value.drop n).length = rest.length + 1 := by rw [hd]; rfl
      rw [List.length_drop] at this
      omega
    · simp at h
    · simp at h

/-- Read the members from the key at the head up to the closing brace. -/
def readMembers {α : Type} (r : Record) (read : String → Reader α) (seen : Members α)
    (ls : List Lexeme) : Except Refusal (Members α × List Lexeme) :=
  match ls with
  | .text (some name) :: behind =>
    if r.has name ∧ (seen.lookup name).isSome then
      .error (.mismatch [] (.duplicateField name))
    else
      match behind with
      | .colon :: value =>
        let got : Except Refusal (Members α) :=
          if r.has name then
            match read name value with
            | .ok a => .ok ((name, a) :: seen)
            | .error e => .error (e.under (.field name))
          else .ok seen
        match got with
        | .error e => .error e
        | .ok seen =>
          match _h : afterMember value with
          | .error e => .error e
          | .ok (.close rest) => .ok (seen, rest)
          | .ok (.member rest) => readMembers r read seen rest
      | _ => .error .malformed
  | _ => .error .malformed
termination_by ls.length
decreasing_by
  have := length_afterMember _h
  simp only [List.length_cons]
  omega

/-- Read the elements for these fields, the first of which has position `index`. -/
def readElements {α : Type} (read : String → Reader α) (seen : Members α) (index : Nat) :
    List Field → List Lexeme → Except Refusal (Members α × List Lexeme)
  | [], _ => .error .malformed
  | f :: fields, value =>
    match read f.name value with
    | .error e => .error (e.under (.index index))
    | .ok a =>
      match valueLength? value with
      | none => .error .malformed
      | some n =>
        match value.drop n with
        | .closeBracket :: rest => .ok ((f.name, a) :: seen, rest)
        | .comma :: rest => readElements read ((f.name, a) :: seen) (index + 1) fields rest
        | _ => .error .malformed

/-- The first field that must not be left out and is. -/
def Record.missing? {α : Type} (r : Record) (seen : Members α) : Option String :=
  (r.fields.find? fun f => f.required && (seen.lookup f.name).isNone).map Field.name

/-- The position of the first field that an array must not be too short for. -/
def Record.shortAt? {α : Type} (r : Record) (seen : Members α) : Option Nat :=
  r.fields.findIdx? fun f => f.requiredInArray && (seen.lookup f.name).isNone

/-- Read a record.  What comes after it is returned as well. -/
def readRecord {α : Type} (r : Record) (read : String → Reader α) (ls : List Lexeme) :
    Except Refusal (Members α × List Lexeme) :=
  let checkObject : Members α × List Lexeme → Except Refusal (Members α × List Lexeme)
    | (seen, rest) =>
      match r.missing? seen with
      | some name => .error (.mismatch [] (.missingField name))
      | none => .ok (seen, rest)
  let checkArray : Members α × List Lexeme → Except Refusal (Members α × List Lexeme)
    | (seen, rest) =>
      match r.shortAt? seen with
      | some n => .error (.mismatch [] (.invalidLength n r.name r.fields.length))
      | none => .ok (seen, rest)
  match ls with
  | .openBrace :: .closeBrace :: rest => checkObject ([], rest)
  | .openBrace :: rest => (readMembers r read [] rest).bind checkObject
  | .openBracket :: .closeBracket :: rest => checkArray ([], rest)
  | .openBracket :: rest => (readElements read [] 0 r.fields rest).bind checkArray
  | ls => refuse ("struct " ++ r.name) ls

/-! ### Reading a whole text -/

/-- A record that is the whole text. -/
def decodeRecord {α : Type} (r : Record) (read : String → Reader α)
    (source : List (Option Char)) : Except Refusal (Members α) :=
  match readRecord r read (lexemes source) with
  | .error e => .error e
  | .ok (seen, []) => .ok seen
  | .ok (_, _ :: _) => .error .malformed

/-- A single value that is the whole text. -/
def decodeValue {α : Type} (read : Reader α) (source : List (Option Char)) :
    Except Refusal α :=
  let ls := lexemes source
  match read ls with
  | .error e => .error e
  | .ok a =>
    match valueLength? ls with
    | none => .error .malformed
    | some n => if ls.drop n = [] then .ok a else .error .malformed

/-- The source of a text that did not arrive as bytes. -/
def ofText (s : String) : List (Option Char) := s.toList.map some

end OrderDesk.Json
