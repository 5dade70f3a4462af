/-
Applying changes to the tables.

The database keeps a record of the changes that have been applied.  Before anything is
changed the record is compared with the changes that are known: none may have been left
half done, and none may be there that is not known.  Then the changes that are missing
are applied one after another, each together with its record or not at all, while a
lock keeps others from doing the same.
-/
import OrderDesk.Action
import OrderDesk.Migration.Basic
import OrderDesk.Store.Error

namespace OrderDesk.Migration

open OrderDesk.Text

/-! ### What is said to the database -/

/-- The statements that give nothing back. -/
inductive Statement where
  | currentDatabase
  | lock
  | unlock
  /-- Make the table of the records, unless it is there. -/
  | createRecords
  | begin
  | run (m : Migration)
  | record (m : Migration)
  | commit
  | recordElapsed (m : Migration)
  | rollback
  deriving DecidableEq, Repr

/-- The text of a statement. -/
def Statement.text : Statement → String
  | .currentDatabase => "SELECT current_database()"
  | .lock => "SELECT pg_advisory_lock($1)"
  | .unlock => "SELECT pg_advisory_unlock($1)"
  | .createRecords =>
    "\nCREATE TABLE IF NOT EXISTS _sqlx_migrations (\n" ++
    "    version BIGINT PRIMARY KEY,\n" ++
    "    description TEXT NOT NULL,\n" ++
    "    installed_on TIMESTAMPTZ NOT NULL DEFAULT now(),\n" ++
    "    success BOOLEAN NOT NULL,\n" ++
    "    checksum BYTEA NOT NULL,\n" ++
    "    execution_time BIGINT NOT NULL\n" ++
    ");\n                "
  | .begin => "BEGIN"
  | .run m => m.text
  | .record _ =>
    "\n    INSERT INTO _sqlx_migrations ( version, description, success, checksum, " ++
    "execution_time )\n    VALUES ( $1, $2, TRUE, $3, -1 )\n                "
  | .commit => "COMMIT"
  | .recordElapsed _ =>
    "\n    UPDATE _sqlx_migrations\n    SET execution_time = $1\n    WHERE version = $2\n" ++
    "                "
  | .rollback => "ROLLBACK"

/-- The statement that asks for the changes that were left half done. -/
def unfinishedText : String :=
  "SELECT version FROM _sqlx_migrations WHERE success = false ORDER BY version LIMIT 1"

/-- The statement that asks for the records. -/
def appliedText : String := "SELECT version, checksum FROM _sqlx_migrations ORDER BY version"

/-- The record of a change that has been applied. -/
structure Applied where
  version : Int
  checksum : List UInt8
  deriving DecidableEq, Repr

/-- A connection to the database. -/
structure Session (δ : Type) where
  execute : Statement → Action δ DatabaseError Unit
  /-- The numbers of the changes that were left half done. -/
  unfinished : Action δ DatabaseError (List Int)
  applied : Action δ DatabaseError (List Applied)

/-! ### What can go wrong -/

/-- Why the changes cannot be applied. -/
inductive Failure where
  /-- A change was left half done. -/
  | unfinished (version : Int)
  /-- A change was applied that is not known. -/
  | unknown (version : Int)
  /-- A change was applied with another text. -/
  | modified (version : Int)
  /-- The text of a change was refused. -/
  | refused (version : Int) (cause : DatabaseError)
  /-- Another statement was refused. -/
  | database (cause : DatabaseError)
  deriving DecidableEq, Repr

/-- The text that reports the failure. -/
def Failure.message : Failure → String
  | .unfinished version =>
    "migration " ++ intText version ++
      " is partially applied; fix and remove row from `_sqlx_migrations` table"
  | .unknown version =>
    "migration " ++ intText version ++
      " was previously applied but is missing in the resolved migrations"
  | .modified version =>
    "migration " ++ intText version ++ " was previously applied but has been modified"
  | .refused version cause =>
    "while executing migration " ++ intText version ++ ": " ++ cause.message
  | .database cause => "while executing migrations: " ++ cause.message

/-! ### Judging the record -/

/-- Every applied change has to be known. -/
def checkKnown (known : List Migration) (applied : List Applied) : Except Failure Unit :=
  match applied.find? fun a => !known.any fun m => m.version == a.version with
  | some a => .error (.unknown a.version)
  | none => .ok ()

/-- Whether a change has yet to be applied.  Of several records of it the last counts. -/
def isPending (applied : List Applied) (m : Migration) : Except Failure Bool :=
  match applied.reverse.find? fun a => a.version == m.version with
  | none => .ok true
  | some a => if a.checksum = m.checksum then .ok false else .error (.modified m.version)

/-! ### Applying -/

variable {δ : Type}

/-- Execute a statement of the bookkeeping. -/
def Session.keep (session : Session δ) (statement : Statement) : Action δ Failure Unit :=
  (session.execute statement).mapError .database

/-- Take back what was begun, whether or not that succeeds. -/
def Session.rollBack (session : Session δ) : Action δ Failure Unit := do
  let _ ← (session.execute .rollback).attempt
  return ()

/-- Run the text of a change and record it, which has to be done together. -/
def runAndRecord (session : Session δ) (m : Migration) : Action δ Failure Unit := do
  (session.execute (.run m)).mapError (.refused m.version)
  session.keep (.record m)

/-- Apply one change. -/
def applyOne (session : Session δ) (m : Migration) : Action δ Failure Unit := do
  session.keep .begin
  match ← (runAndRecord session m).attempt with
  | .error e =>
    session.rollBack
    Action.fail e
  | .ok () =>
    session.keep .commit
    session.keep (.recordElapsed m)

/-- Apply the changes that have not been applied. -/
def applyPending (session : Session δ) (applied : List Applied) :
    List Migration → Action δ Failure Unit
  | [] => Action.done ()
  | m :: rest => do
    if ← Action.ofExcept (isPending applied m) then applyOne session m
    applyPending session applied rest

/-- Apply all changes that are missing. -/
def applyAll (session : Session δ) (known : List Migration) : Action δ Failure Unit := do
  session.keep .currentDatabase
  session.keep .lock
  session.keep .createRecords
  match ← session.unfinished.mapError .database with
  | version :: _ => Action.fail (.unfinished version)
  | [] =>
    let applied ← session.applied.mapError .database
    Action.ofExcept (checkKnown known applied)
    applyPending session applied known
    session.keep .currentDatabase
    session.keep .unlock

end OrderDesk.Migration
