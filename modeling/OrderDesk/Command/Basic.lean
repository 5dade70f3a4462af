/-
The commands of the operator.

An operator brings the tables of the database up to date, issues a token for a user, or
looks whom a token is for.  This file says how a command is put into words.  Arguments
are read from left to right, and the first that makes no sense ends the reading; a
wish for help before it is granted whatever else is missing.
-/
import OrderDesk.Identifier

namespace OrderDesk

open OrderDesk.Text

/-- What an operator can have done. -/
inductive Command where
  | migrate
  | issueToken (user : UserId)
  | verifyToken (token : String)
  deriving DecidableEq, Repr

namespace Command

/-! ### Help -/

/-- The pages of the help. -/
inductive Page where
  | root
  | migrate
  | token
  | issue
  | verify
  /-- About the help itself, at the top or under `token`. -/
  | help (underToken : Bool)
  deriving DecidableEq, Repr

/-- The page of a command under another one. -/
def Page.child? (p : Page) (name : String) : Option Page :=
  match p, name with
  | .root, "migrate" => some .migrate
  | .root, "token" => some .token
  | .root, "help" => some (.help false)
  | .token, "issue" => some .issue
  | .token, "verify" => some .verify
  | .token, "help" => some (.help true)
  | _, _ => none

/-! ### Arguments -/

/-- Why arguments cannot be understood. -/
inductive UsageError where
  | missingCommand
  | unknownCommand (name : String)
  | unexpected (argument : String)
  /-- An option that needs a value has none. -/
  | missingValue (option : String)
  | invalidValue (value : String)
  | repeated (option : String)
  /-- What a command needs is not there. -/
  | missingArgument (name : String)
  deriving DecidableEq, Repr

/-- The text that reports the fault. -/
def UsageError.message : UsageError → String
  | .missingCommand => "a command is missing"
  | .unknownCommand name => "unrecognized subcommand '" ++ name ++ "'"
  | .unexpected argument => "unexpected argument '" ++ argument ++ "' found"
  | .missingValue option => "a value is required for '" ++ option ++ "' but none was supplied"
  | .invalidValue value => "invalid value '" ++ value ++ "'"
  | .repeated option => "the argument '" ++ option ++ "' cannot be used multiple times"
  | .missingArgument name =>
    "the following required arguments were not provided: " ++ name

/-- What arguments ask for. -/
inductive Wish where
  | run (command : Command)
  | showHelp (page : Page)
  | showVersion
  deriving DecidableEq, Repr

/-- What follows a text at the beginning of another one. -/
def after? (start s : String) : Option String :=
  if start.toList.isPrefixOf s.toList then
    some (String.ofList (s.toList.drop start.toList.length))
  else none

/-- An argument that asks for help. -/
def asksForHelp (argument : String) : Bool :=
  argument == "--help" || (after? "-h" argument).isSome

/-- An argument that asks for the version. -/
def asksForVersion (argument : String) : Bool :=
  argument == "--version" || (after? "-V" argument).isSome

/-- An argument that is no value, because it begins with a hyphen and says more. -/
def looksLikeOption (argument : String) : Bool :=
  (after? "-" argument).isSome && argument ≠ "-"

/-- Find the page that a row of commands names. -/
def readHelp (page : Page) : List String → Except UsageError Wish
  | [] => .ok (.showHelp page)
  | name :: rest =>
    match page.child? name with
    | some page => readHelp page rest
    | none => .error (.unknownCommand name)

/-- Read the arguments of `migrate`. -/
def readMigrate : List String → Except UsageError Wish
  | [] => .ok (.run .migrate)
  | "--" :: [] => .ok (.run .migrate)
  | "--" :: argument :: _ => .error (.unexpected argument)
  | argument :: _ =>
    if asksForHelp argument then .ok (.showHelp .migrate) else .error (.unexpected argument)

/-- How the user is named. -/
def userOption : String := "--user-id <USER_ID>"

/-- The number of the user, unless there is one already. -/
def readUser (seen : Option UserId) (value : String) : Except UsageError UserId :=
  if seen.isSome then .error (.repeated userOption)
  else
    match readNumeral .signed32 value.toList with
    | .ok n => .ok ⟨Int32.ofInt n⟩
    | .error _ => .error (.invalidValue value)

/-- A value that stands in one argument with the option.  Behind the short form there may be an
equals sign. -/
def attachedUser? (argument : String) : Option String :=
  match after? "--user-id=" argument with
  | some value => some value
  | none => (after? "-u" argument).map fun value => (after? "=" value).getD value

/-- Issue a token for the user that has been named. -/
def issueFor (seen : Option UserId) : Except UsageError Wish :=
  match seen with
  | some user => .ok (.run (.issueToken user))
  | none => .error (.missingArgument userOption)

/-- Read the arguments of `token issue`. -/
def readIssue (seen : Option UserId) : List String → Except UsageError Wish
  | [] => issueFor seen
  | [argument] =>
    if argument = "-u" ∨ argument = "--user-id" then .error (.missingValue userOption)
    else if argument = "--" then issueFor seen
    else if asksForHelp argument then .ok (.showHelp .issue)
    else
      match attachedUser? argument with
      | some value => (readUser seen value).bind fun user => issueFor (some user)
      | none => .error (.unexpected argument)
  | argument :: next :: rest =>
    if argument = "-u" ∨ argument = "--user-id" then
      if looksLikeOption next then .error (.missingValue userOption)
      else (readUser seen next).bind fun user => readIssue (some user) rest
    else if argument = "--" then .error (.unexpected next)
    else if asksForHelp argument then .ok (.showHelp .issue)
    else
      match attachedUser? argument with
      | some value => (readUser seen value).bind fun user => readIssue (some user) (next :: rest)
      | none => .error (.unexpected argument)

/-- Verify the token that has been given. -/
def verifyGiven (seen : Option String) : Except UsageError Wish :=
  match seen with
  | some token => .ok (.run (.verifyToken token))
  | none => .error (.missingArgument "<TOKEN>")

/-- Read the arguments of `token verify`.  After two hyphens everything is a value. -/
def readVerify (onlyValues : Bool) (seen : Option String) : List String → Except UsageError Wish
  | [] => verifyGiven seen
  | argument :: rest =>
    if onlyValues ∨ ¬looksLikeOption argument then
      if seen.isSome then .error (.unexpected argument)
      else readVerify onlyValues (some argument) rest
    else if argument = "--" then readVerify true seen rest
    else if asksForHelp argument then .ok (.showHelp .verify)
    else .error (.unexpected argument)

/-- Read the arguments of `token`. -/
def readToken : List String → Except UsageError Wish
  | [] => .error .missingCommand
  | "issue" :: rest => readIssue none rest
  | "verify" :: rest => readVerify false none rest
  | "help" :: rest => readHelp .token rest
  | argument :: _ =>
    if asksForHelp argument then .ok (.showHelp .token)
    else if looksLikeOption argument then .error (.unexpected argument)
    else .error (.unknownCommand argument)

/-- Read arguments. -/
def read : List String → Except UsageError Wish
  | [] => .error .missingCommand
  | "migrate" :: rest => readMigrate rest
  | "token" :: rest => readToken rest
  | "help" :: rest => readHelp .root rest
  | argument :: _ =>
    if asksForHelp argument then .ok (.showHelp .root)
    else if asksForVersion argument then .ok .showVersion
    else if looksLikeOption argument then .error (.unexpected argument)
    else .error (.unknownCommand argument)

end Command

end OrderDesk
