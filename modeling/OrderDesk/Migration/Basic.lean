/-
The changes that lead to the tables of the database.

Each has a number, which is the time it was written at, and a text of statements.  A
digest of the text is stored when it has been applied, so a text that is changed
afterwards is noticed.
-/
import OrderDesk.Digest.Sha384
import OrderDesk.Text.Utf8

namespace OrderDesk

/-- One change of the tables. -/
structure Migration where
  version : Int
  description : String
  text : String
  deriving DecidableEq, Repr

namespace Migration

/-- The digest of the text. -/
def checksum (m : Migration) : List UInt8 := Digest.Sha384.digest (Text.Utf8.encode m.text)

/-- The table of the users. -/
def createUsers : Migration where
  version := 20261016000001
  description := "create users"
  text :=
    "-- Accounts. Created once at sign-up; never updated or deleted by the API.\n" ++
    "CREATE TABLE IF NOT EXISTS users (\n" ++
    "    id            SERIAL PRIMARY KEY,\n" ++
    "    username      TEXT NOT NULL UNIQUE,\n" ++
    "    email         TEXT NOT NULL UNIQUE,\n" ++
    "    password_hash TEXT NOT NULL,\n" ++
    "    created_at    TIMESTAMPTZ NOT NULL DEFAULT NOW()\n" ++
    ");\n"

/-- The table of the orders. -/
def createOrders : Migration where
  version := 20261016000002
  description := "create orders"
  text :=
    "-- Orders are owned by exactly one user and only ever addressed together\n" ++
    "-- with that owner's id.\n" ++
    "CREATE TABLE IF NOT EXISTS orders (\n" ++
    "    id         SERIAL PRIMARY KEY,\n" ++
    "    user_id    INTEGER NOT NULL REFERENCES users (id) ON DELETE CASCADE,\n" ++
    "    status     TEXT NOT NULL CHECK (\n" ++
    "        status IN ('pending', 'confirmed', 'paid', 'shipped', 'delivered', 'cancelled')\n" ++
    "    ),\n" ++
    "    created_at TIMESTAMPTZ NOT NULL,\n" ++
    "    updated_at TIMESTAMPTZ NOT NULL,\n" ++
    "    CHECK (updated_at >= created_at)\n" ++
    ");\n" ++
    "\n" ++
    "CREATE INDEX IF NOT EXISTS orders_user_id_idx ON orders (user_id, id);\n"

/-- All changes, in the order in which they have to be applied. -/
def all : List Migration := [createUsers, createOrders]

end Migration

end OrderDesk
