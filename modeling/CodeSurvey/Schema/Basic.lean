/-
Tables, columns and constraints of the database, and the changes that a revision asks for.
-/

namespace CodeSurvey.Schema

inductive ColumnType where
  | integer
  | float
  | floats
  | boolean
  | uuid
  | text
  | varchar (length : Option Nat)
  | timestamp (withZone : Bool)
  | vector (dimensions : Nat)
  | binaryJson
  | enumeration (name : String) (values : List String)

def ColumnType.name : ColumnType → String
  | integer => "INTEGER"
  | float => "FLOAT"
  | floats => "FLOAT[]"
  | boolean => "BOOLEAN"
  | uuid => "UUID"
  | text => "TEXT"
  | varchar none => "VARCHAR"
  | varchar (some n) => "VARCHAR(" ++ toString n ++ ")"
  | timestamp withZone => if withZone then "TIMESTAMP WITH TIME ZONE" else "TIMESTAMP WITHOUT TIME ZONE"
  | vector n => "VECTOR(" ++ toString n ++ ")"
  | binaryJson => "JSONB"
  | enumeration name _ => name

structure Column where
  name : String
  type : ColumnType
  nullable : Bool
  isPrimary : Bool
  isUnique : Bool
  isIndexed : Bool
  serverDefault : Option String
  standard : Option String
  /-- What the column refers to; the rows go when the row referred to goes. -/
  refersTo : List String

def column (name : String) (type : ColumnType) : Column :=
  { name := name, type := type, nullable := true, isPrimary := false, isUnique := false, isIndexed := false,
    serverDefault := none, standard := none, refersTo := [] }

namespace Column

def required (c : Column) : Column := { c with nullable := false }

def primary (c : Column) : Column := { c with isPrimary := true, nullable := false }

def unique (c : Column) : Column := { c with isUnique := true }

def indexed (c : Column) : Column := { c with isIndexed := true }

def given (c : Column) (value : String) : Column := { c with serverDefault := some value }

def preset (c : Column) (value : String) : Column := { c with standard := some value }

def refers (c : Column) (target : String) : Column := { c with refersTo := [target] }

end Column

inductive TableItem where
  | column (c : Column)
  | foreignKey (columns targets : List String) (name : Option String) (onDelete : Option String)
  | primaryKey (columns : List String) (name : Option String)

structure Alteration where
  existingType : ColumnType
  newType : Option ColumnType
  nullable : Option Bool
  existingNullable : Option Bool

inductive Change where
  | createTable (table : String) (items : List TableItem)
  | dropTable (table : String)
  | addColumn (table : String) (column : Column)
  | dropColumn (table column : String)
  | alterColumn (table column : String) (alteration : Alteration)
  /-- An index; whether it is unique may be left open, and a vector index names its method and operators. -/
  | createIndex (index table : String) (columns : List String) (isUnique : Option Bool) (method : Option String)
      (operators : List (String × String))
  | dropIndex (index : String) (table : Option String) (method : Option String)
  | createForeignKey (name : Option String) (source referent : String) («local» remote : List String)
    (onDelete : Option String)
  | dropForeignKey (name : Option String) (table : String)
  | execute (sql : String)
  | createType (type : String) (values : List String)
  | dropType (type : String)
  /-- From here on each statement is final at once. -/
  | beginAutocommit
  | endAutocommit

structure Found where
  tables : List String
  types : List String
  columns : List String
  /-- Statements that hold one of these pieces fail. -/
  failing : List String

inductive Step where
  | must (c : Change)
  | attempt (c : Change)

end CodeSurvey.Schema
