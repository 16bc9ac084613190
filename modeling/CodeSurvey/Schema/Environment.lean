/-
Where revisions are carried out: on a live database, or as a script for later. The address of a database names its kind,
perhaps with the driver that talks to it, and then where it is. Only databases that are files, or are held in memory,
can be used here.
-/
import CodeSurvey.Basic
import CodeSurvey.Text.Number
import CodeSurvey.Text.Piece

namespace CodeSurvey.Schema

structure Address where
  scheme : List (List Char)
  user : List Char
  password : List Char
  host : List Char
  port : List Char

namespace Address

/-- The user and the password in front of a sign, and what stands behind it; a text without the sign has neither. -/
def splitUser (t : List Char) : (List Char × List Char) × List Char :=
  let (user, rest) := t.span fun c => c != ':' && c != '/'
  let (password, behind) := (rest.drop 1).span (· != '@')
  match rest.head?, behind with
  | some ':', '@' :: place => ((user, password), place)
  | _, _ =>
    let (place, ahead) := user.reverse.span (· != '@')
    if ahead.isEmpty then (([], []), t) else (((ahead.drop 1).reverse, []), place.reverse ++ rest)

def ofText? (t : List Char) : Option Address :=
  let (scheme, rest) := t.span fun c => Text.isWord c || c == '+'
  if scheme.isEmpty || !Text.startsWith "://".toList rest then none
  else
    let ((user, password), place) := splitUser (rest.drop 3)
    let (host, rest) := place.span fun c => c != '/' && c != ':' && c != '?'
    let port := match rest with
      | ':' :: r => r.takeWhile fun c => c != '/' && c != '?'
      | _ => []
    some ⟨Text.splitOnChar '+' scheme, user, password, host, port⟩

def kinds : List (String × List String) := [
  ("sqlite", ["pysqlite", "aiosqlite", "pysqlcipher"]),
  ("postgresql", ["psycopg2", "asyncpg", "pg8000", "psycopg2cffi", "pygresql", "pypostgresql"]),
  ("mysql", ["mysqldb", "aiomysql", "asyncmy", "cymysql", "mariadbconnector", "mysqlconnector", "oursql",
    "pymysql", "pyodbc"]),
  ("mariadb",
    ["mysqldb", "aiomysql", "asyncmy", "cymysql", "mariadbconnector", "mysqlconnector", "oursql", "pymysql", "pyodbc"]),
  ("mssql", ["pyodbc", "mxodbc", "pymssql"]),
  ("oracle", ["cx_oracle"]),
  ("firebird", ["fdb", "kinterbasdb"]),
  ("sybase", ["pysybase", "mxodbc", "pyodbc"])]

def driver (kind : String) (named : Option String) : Except Fault String :=
  match kinds.lookup kind with
  | none => .error .noDialect
  | some drivers =>
    match drivers, named with
    | usual :: _, none => .ok usual
    | _, some d => if drivers.contains d then .ok d else .error .noDialect
    | [], none => .error .noDialect

def driverOf (a : Address) : Except Fault String :=
  match a.scheme with
  | [kind] => driver (String.ofList kind) none
  | [kind, named] => driver (String.ofList kind) (some (String.ofList named))
  | _ => .error .badValue

def isRemote (a : Address) (port : Int) : Bool := !a.user.isEmpty || !a.password.isEmpty || !a.host.isEmpty || port != 0

/-- Why the database at an address cannot be used; nothing if it can. A port is a whole number, only files can be used,
and a file is on no other machine. -/
def check (t : List Char) : Except Fault Unit := do
  let some a := ofText? t | throw .badAddress
  let some port := (if a.port.isEmpty then some 0 else Text.int? a.port) | throw .badValue
  if (← a.driverOf) != "pysqlite" then throw .noDriver
  if a.isRemote port then throw .badAddress

end Address

def tableNames : List String :=
  ["call_relationships", "cicd_runs", "code_duplication", "code_smells", "embeddings", "files", "metrics_snapshots",
    "quality_gates", "repositories", "symbols", "vulnerabilities"]

inductive Event where
  | writeScript (url : Option String)
  | connect (url : String)
  | start
  | carryOut
  | finish

/-- An address from the environment wins over one from the configuration unless it is empty. -/
def chooseAddress (configured fromEnvironment : Option String) : Option String :=
  match fromEnvironment with
  | some u => if u.isEmpty then configured else some u
  | none => configured

def events (isOffline : Bool) (configured fromEnvironment : Option String) : Except Fault (List Event) :=
  let url := chooseAddress configured fromEnvironment
  let work := [.start, .carryOut, .finish]
  if isOffline then .ok (.writeScript url :: work)
  else
    match url with
    | none => .error .missingField
    | some u => (Address.check u.toList).map fun _ => .connect u :: work

end CodeSurvey.Schema
