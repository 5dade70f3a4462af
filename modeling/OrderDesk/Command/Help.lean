/-
The help for the operator.

A page says what a command is for, how it is written and what belongs to it: other
commands, arguments, options.  What belongs together is written as a table of two
columns, of which the second begins at the same place in every line.
-/
import OrderDesk.Command.Basic

namespace OrderDesk.Command

/-- The name of the program. -/
def programName : String := "ok-cli"

/-- The name of the program and its version. -/
def versionText : String := programName ++ " 0.1.0"

/-- The parts of a page. -/
structure PageParts where
  purpose : String
  /-- How the command is written, without the name of the program. -/
  usage : String
  commands : List (String × String)
  arguments : List (String × String)
  options : List (String × String)
  deriving DecidableEq, Repr

/-- What the help is for. -/
def helpPurpose : String := "Print this message or the help of the given subcommand(s)"

/-- The line about the option that asks for help. -/
def helpOption : String × String := ("-h, --help", "Print help")

/-- The parts of each page. -/
def Page.parts : Page → PageParts
  | .root =>
    { purpose := "Order Keeper CLI tools"
      usage := " <COMMAND>"
      commands :=
        [("migrate", "Run database migrations"), ("token", "Issue or inspect identity tokens"),
         ("help", helpPurpose)]
      arguments := []
      options := [helpOption, ("-V, --version", "Print version")] }
  | .migrate =>
    { purpose := "Run database migrations"
      usage := " migrate"
      commands := []
      arguments := []
      options := [helpOption] }
  | .token =>
    { purpose := "Issue or inspect identity tokens"
      usage := " token <COMMAND>"
      commands :=
        [("issue", "Sign a token for a user"),
         ("verify", "Validate a token and print the user it identifies"), ("help", helpPurpose)]
      arguments := []
      options := [helpOption] }
  | .issue =>
    { purpose := "Sign a token for a user"
      usage := " token issue --user-id <USER_ID>"
      commands := []
      arguments := []
      options := [("-u, --user-id <USER_ID>", "User ID to embed in the token"), helpOption] }
  | .verify =>
    { purpose := "Validate a token and print the user it identifies"
      usage := " token verify <TOKEN>"
      commands := []
      arguments := [("<TOKEN>", "The bearer token (without the `Bearer ` prefix)")]
      options := [helpOption] }
  | .help underToken =>
    { purpose := helpPurpose
      usage := (if underToken then " token" else "") ++ " help [COMMAND]..."
      commands := []
      arguments := [("[COMMAND]...", "Print help for the subcommand(s)")]
      options := [] }

/-- The width of the widest left column. -/
def leftWidth (rows : List (String × String)) : Nat :=
  rows.foldl (fun width row => max width row.1.length) 0

/-- One line of a table. -/
def rowText (width : Nat) (row : String × String) : String :=
  "  " ++ row.1 ++ String.ofList (List.replicate (width + 2 - row.1.length) ' ') ++ row.2

/-- A table under its heading, after an empty line.  There is nothing where there are no rows. -/
def tableLines (heading : String) (rows : List (String × String)) : List String :=
  if rows = [] then [] else "" :: heading :: rows.map (rowText (leftWidth rows))

/-- The lines of a page. -/
def Page.lines (page : Page) : List String :=
  let p := page.parts
  [p.purpose, "", "Usage: " ++ programName ++ p.usage] ++ tableLines "Commands:" p.commands ++
    tableLines "Arguments:" p.arguments ++ tableLines "Options:" p.options

end OrderDesk.Command
