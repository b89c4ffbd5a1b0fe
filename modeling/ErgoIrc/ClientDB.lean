import ErgoIrc.Client

/-! The SQL mirror of the nickname index: `NewClientDB` creates an in-memory table
`client (nickname TEXT NOT NULL UNIQUE, userhost TEXT NOT NULL)` with a unique index on
`nickname`, and `ClientDB.Add`/`Remove` run one `INSERT` or `DELETE` each. SQLite
compares `TEXT` with the `BINARY` collation, so the uniqueness of `nickname` and the
`nickname = ?` of the `DELETE` are case-sensitive. Statement errors are only logged. -/
namespace Ergo.Irc

/-- A row of the `client` table. -/
structure ClientRow where
  nickname : String
  userhost : String
  deriving DecidableEq, Repr

/-- The row `ClientDB.Add` inserts for a client. -/
def Client.row (client : Client) : ClientRow := ⟨client.Nick, client.userHost⟩

/-- The `client` table; SQLite returns its rows in no fixed order. -/
structure ClientDB where
  rows : List ClientRow

def newClientDB : ClientDB := ⟨[]⟩

/-- SQLite's `INSERT INTO client (nickname, userhost) VALUES (?, ?)`: it fails on the
`UNIQUE` constraint when a row already holds the same nickname. -/
def insertRow (rows : List ClientRow) (row : ClientRow) : Except String (List ClientRow) :=
  if rows.any (·.nickname = row.nickname) then .error "UNIQUE constraint failed: client.nickname"
  else .ok (rows ++ [row])

theorem insertRow_of_fresh {rows : List ClientRow} {row : ClientRow}
    (fresh : ∀ other ∈ rows, other.nickname ≠ row.nickname) :
    insertRow rows row = .ok (rows ++ [row]) := by
  have none : rows.any (·.nickname = row.nickname) = false := by simpa using fresh
  simp [insertRow, none]

namespace ClientDB

/-- `ClientDB.Add`: on an error the table is left as it was (the error is logged). -/
def add (db : ClientDB) (client : Client) : ClientDB :=
  match insertRow db.rows client.row with
  | .ok rows => ⟨rows⟩
  | .error _ => db

/-- `ClientDB.Remove`: `DELETE FROM client WHERE nickname = ?`. -/
def remove (db : ClientDB) (client : Client) : ClientDB :=
  ⟨db.rows.filter (·.nickname ≠ client.Nick)⟩

theorem add_rows_of_fresh {db : ClientDB} {client : Client}
    (fresh : ∀ row ∈ db.rows, row.nickname ≠ client.Nick) :
    (db.add client).rows = db.rows ++ [client.row] := by
  have inserted : insertRow db.rows client.row = .ok (db.rows ++ [client.row]) :=
    insertRow_of_fresh fresh
  rw [add, inserted]

end ClientDB

end Ergo.Irc
