import TableApi.Database.Remote.Binding
import TableApi.Database.Remote.Column

/-!
# Sessions with a database server

A session is a dialogue: statements with bound values go out, and each is answered by rows, by the
receipt of a change or by a refusal.  `Session.database` is the database that such a dialogue
gives; its state holds the answers to come and the statements sent so far.
-/

namespace TableApi

/-- What a server answers to a statement. -/
inductive ServerAnswer where
  | rows (columns : List (String × ColumnType)) (rows : List (List Cell))
  | done (receipt : Receipt)
  | refused (error : DatabaseError)
deriving Repr

/-- A dialogue with a server.  It answers the next statements in order, and any further one as a
change of nothing. -/
structure Session where
  answers : List ServerAnswer
  sent : List BoundStatement
  /-- The microseconds that an answer takes. -/
  pace : Nat
deriving Repr

/-- Which calls are reported to the log. -/
structure Observation where
  /-- Whether every call is. -/
  all : Bool
  /-- The milliseconds beyond which a call is slow. -/
  slowMilliseconds : Nat
deriving DecidableEq, Repr

namespace Observation

/-- Reports only what takes longer than a second. -/
def plain : Observation :=
  ⟨false, 1000⟩

/-- The entries about a statement that took this many microseconds. -/
def entries (observation : Observation) (sql : Sql) (microseconds : Nat) : List LogEntry :=
  let elapsed := toString (microseconds / 1000) ++ "ms"
  let every : LogEntry :=
    ⟨.debug, "SQL executed in " ++ elapsed,
      [("query", sql.query), ("params", toString sql.params.length)]⟩
  let slow : LogEntry := ⟨.warn, "Slow query: " ++ elapsed, [("query", sql.query)]⟩
  (if observation.all then [every] else []) ++
    if 1000 * observation.slowMilliseconds < microseconds then [slow] else []

end Observation

namespace ServerAnswer

/-- A row with its values under the names of their columns.  Of two columns of one name the last
value counts, at the place of the first. -/
def rowOf (columns : List (String × ColumnType)) (cells : List Cell) : Row × List LogEntry :=
  (columns.zip cells).foldl
    (fun (row, entries) ((name, type), cell) =>
      let (value, more) := type.read cell
      (Fields.set row name value, entries ++ more))
    ([], [])

/-- The rows of an answer, and the entries about values that cannot be read. -/
def table : ServerAnswer → List Row × List LogEntry
  | rows columns lines =>
      let read := lines.map (rowOf columns)
      (read.map Prod.fst, read.flatMap Prod.snd)
  | _ => ([], [])

/-- The receipt of an answer; rows are the receipt of no change. -/
def receipt : ServerAnswer → Receipt
  | done receipt => receipt
  | _ => ⟨0, 0⟩

/-- The name in the first column of a row. -/
def nameOf (columns : List (String × ColumnType)) (cells : List Cell) :
    Except DatabaseError String :=
  match columns, cells with
  | (_, type) :: _, cell :: _ => type.kind.readName cell
  | _, _ => .error (.connection "a row has no columns")

/-- The names in the first column of an answer, or the first failure to read one. -/
def names : ServerAnswer → Except DatabaseError (List String)
  | rows columns lines => lines.mapM (nameOf columns)
  | _ => .ok []

end ServerAnswer

namespace Session

/-- A session that has not begun. -/
def ofAnswers (answers : List ServerAnswer) (pace : Nat) : Session :=
  ⟨answers, [], pace⟩

/-- Sends a statement and waits for the answer. -/
def ask (session : Session) (sql : Sql) : Except DatabaseError ServerAnswer × Session :=
  let next := { session with
    answers := session.answers.drop 1
    sent := session.sent ++ [.ofSql sql] }
  match session.answers.head? with
  | some (.refused error) => (.error error, next)
  | some answer => (.ok answer, next)
  | none => (.ok (.done ⟨0, 0⟩), next)

def askNames (query : String) (session : Session) : Reply Session DatabaseError (List String) :=
  let (answer, next) := session.ask ⟨query, []⟩
  .quiet (answer.bind ServerAnswer.names) next

def database (observation : Observation) : Database Session where
  listTables := askNames "SHOW TABLES"
  describeTable table := askNames ("DESCRIBE " ++ table)
  fetchAll sql session :=
    match session.ask sql with
    | (.error error, next) => .quiet (.error error) next
    | (.ok answer, next) =>
        let (rows, unread) := answer.table
        ⟨.ok rows, observation.entries sql session.pace ++ unread, next⟩
  execute sql session :=
    match session.ask sql with
    | (.error error, next) => .quiet (.error error) next
    | (.ok answer, next) =>
        ⟨.ok answer.receipt, observation.entries sql session.pace, next⟩
  ping session :=
    let (answer, next) := session.ask ⟨"SELECT 1", []⟩
    .quiet (answer.map fun _ => ()) next

end Session

end TableApi
