/-
Records of the database's history: revisions and the changes they ask for.
-/
import CodeSurvey.Schema.Environment
import CodeSurvey.Schema.History

namespace CodeSurvey.Schema

def ColumnType.record : ColumnType → Json
  | .enumeration name values => .obj [("enum", .str name), ("values", .ofTexts values)]
  | t => .str t.name

def Column.record (c : Column) : Json :=
  .obj [("column", .str c.name), ("type", c.type.record), ("nullable", .bool c.nullable),
    ("primary_key", .bool c.isPrimary), ("unique", .bool c.isUnique), ("index", .bool c.isIndexed),
    ("server_default", .ofText? c.serverDefault), ("default", .ofText? c.standard),
    ("foreign_keys", .arr (c.refersTo.map fun t => .arr [.str t, .str "CASCADE"]))]

def TableItem.record : TableItem → Json
  | .column c => c.record
  | .foreignKey columns targets name onDelete =>
    .obj [("foreign_key", .ofTexts columns), ("to", .ofTexts targets), ("name", .ofText? name),
      ("ondelete", .ofText? onDelete)]
  | .primaryKey columns name => .obj [("primary_key", .ofTexts columns), ("name", .ofText? name)]

def given {α : Type} (key : String) (f : α → Json) (v : Option α) : List (String × Json) :=
  (v.map fun x => (key, f x)).toList

def Change.fields : Change → String × List (String × Json)
  | .createTable t items => ("create_table", [("table", .str t), ("items", .arr (items.map TableItem.record))])
  | .dropTable t => ("drop_table", [("table", .str t)])
  | .addColumn t c => ("add_column", [("table", .str t), ("column", c.record)])
  | .dropColumn t c => ("drop_column", [("table", .str t), ("column", .str c)])
  | .alterColumn t c a =>
    ("alter_column", [("table", .str t), ("column", .str c), ("existing_type", a.existingType.record)] ++
      given "type_" ColumnType.record a.newType ++ given "nullable" Json.bool a.nullable ++
      given "existing_nullable" Json.bool a.existingNullable)
  | .createIndex i t cs unique method operators =>
    ("create_index",
      [("index", .str i), ("table", .str t), ("columns", .ofTexts cs)] ++ given "unique" Json.bool unique ++
      given "postgresql_using" Json.str method ++
      (if operators.isEmpty then [] else [("postgresql_ops", .obj (operators.map fun p => (p.1, .str p.2)))]))
  | .dropIndex i t method =>
    ("drop_index", [("index", .str i)] ++ given "table_name" Json.str t ++ given "postgresql_using" Json.str method)
  | .createForeignKey name source referent own remote onDelete =>
    ("create_foreign_key", [("constraint", .ofText? name), ("source", .str source), ("referent", .str referent),
      ("local", .ofTexts own), ("remote", .ofTexts remote)] ++ given "ondelete" Json.str onDelete)
  | .dropForeignKey name t =>
    ("drop_constraint", [("constraint", .ofText? name), ("table", .str t), ("type_", .str "foreignkey")])
  | .execute sql => ("execute", [("sql", .str sql)])
  | .createType t vs => ("create_type", [("type", .str t), ("values", .ofTexts vs), ("checkfirst", .bool true)])
  | .dropType t => ("drop_type", [("type", .str t), ("values", .arr []), ("checkfirst", .bool true)])
  | .beginAutocommit => ("autocommit_begin", [])
  | .endAutocommit => ("autocommit_end", [])

def Change.record (c : Change) : Json := .arr [.str c.fields.1, .obj c.fields.2]

def Revision.record (r : Revision) : Json :=
  let parents := match r.parents with
    | [] => Json.null
    | [p] => .str p
    | ps => .ofTexts ps
  .obj [("revision", .str r.name), ("down_revision", parents), ("branch_labels", .null), ("depends_on", .null)]

def Event.record : Event → Json
  | .writeScript url =>
    .arr [.str "configure", .obj [("url", .ofText? url), ("target_metadata", .ofTexts tableNames),
      ("literal_binds", .bool true), ("dialect_opts", .obj [("paramstyle", .str "named")])]]
  | .connect url => .arr [.str "configure", .obj [("connection", .str url), ("target_metadata", .ofTexts tableNames)]]
  | .start => .arr [.str "begin", .obj []]
  | .carryOut => .arr [.str "run_migrations", .obj []]
  | .finish => .arr [.str "end", .obj []]

end CodeSurvey.Schema
