/-
The history of the database: every revision, with what it does, and how revisions are carried out.
-/
import CodeSurvey.Schema.Basic
import CodeSurvey.Text.Piece

namespace CodeSurvey.Schema

/-- A revision: what it builds on, and what it does forwards and backwards, depending on what it finds. -/
structure Revision where
  name : String
  parents : List String
  upgrade : Found → List Step
  downgrade : Found → List Step

inductive Direction where
  | upgrade
  | downgrade
deriving DecidableEq

def Revision.steps (r : Revision) : Direction → Found → List Step
  | .upgrade => r.upgrade
  | .downgrade => r.downgrade

def Found.fails (f : Found) : Change → Bool
  | .execute sql => f.failing.any fun piece => Text.contains piece.toList sql.toList
  | _ => false

/-- The changes asked for up to the first failure that counts, that one included, and whether there was one. -/
def carryOut (f : Found) : List Step → List Change × Bool
  | [] => ([], false)
  | .must c :: rest =>
    if f.fails c then ([c], true)
    else
      let (cs, failed) := carryOut f rest
      (c :: cs, failed)
  | .attempt c :: rest =>
    let (cs, failed) := carryOut f rest
    (c :: cs, failed)

/-! Words of the history -/

def plan (changes : List Change) (_ : Found) : List Step := changes.map .must

def varchar (n : Nat) : ColumnType := .varchar (some n)

def anyVarchar : ColumnType := .varchar none

def tableOf (name : String) (columns : List Column) (more : List TableItem) : Change :=
  .createTable name (columns.map .column ++ more)

def index (name table : String) (columns : List String) : Change := .createIndex name table columns none none []

def plainIndex (name table : String) (columns : List String) : Change :=
  .createIndex name table columns (some false) none []

def noIndex (name table : String) : Change := .dropIndex name (some table) none

def indexes (table : String) (l : List (String × List String)) : List Change := l.map fun p => index p.1 table p.2

def noIndexes (table : String) (l : List (String × List String)) : List Change := l.map fun p => noIndex p.1 table

def createdAt : Column := (column "created_at" (.timestamp true)).given "now()"

def repositoryStates : ColumnType := .enumeration "repostatus" ["pending", "processing", "completed", "failed"]

def smellKinds : List String :=
  ["long_method", "god_class", "feature_envy", "large_class", "long_parameter_list", "duplicate_code", "dead_code",
    "missing_docstring"]

def smellSeverities : List String := ["low", "medium", "high", "critical"]

/-! Revisions -/

def initialState : Revision where
  name := "3ee429a0c576"
  parents := []
  upgrade := plan [
    tableOf "embeddings" [
      (column "id" anyVarchar).primary,
      (column "symbol_id" anyVarchar).required.unique.indexed,
      (column "embedding" .floats).required,
      (column "model" (varchar 100)).required,
      (column "dimensions" .integer).required,
      column "created_at" (.timestamp false)] []]
  downgrade := plan []

def initialSchema : Revision where
  name := "cc87ed74e223"
  parents := ["3ee429a0c576"]
  upgrade := plan [
    tableOf "repositories" [
      (column "id" .uuid).required,
      (column "name" (varchar 255)).required,
      column "upload_path" (varchar 500),
      column "status" repositoryStates,
      column "file_count" .integer,
      column "symbol_count" .integer,
      createdAt.required] [.primaryKey ["id"] none],
    plainIndex "ix_repositories_created_at" "repositories" ["created_at"],
    plainIndex "ix_repositories_name" "repositories" ["name"],
    plainIndex "ix_repositories_status" "repositories" ["status"],
    tableOf "files" [
      (column "id" .uuid).required,
      (column "repository_id" .uuid).required,
      (column "file_path" (varchar 1000)).required,
      (column "language" (varchar 50)).required,
      column "line_count" .integer,
      createdAt.required] [
      .foreignKey ["repository_id"] ["repositories.id"] none (some "CASCADE"),
      .primaryKey ["id"] none],
    plainIndex "ix_files_created_at" "files" ["created_at"],
    plainIndex "ix_files_repository_id" "files" ["repository_id"],
    tableOf "symbols" [
      (column "id" .uuid).required,
      (column "file_id" .uuid).required,
      (column "name" (varchar 255)).required,
      (column "type" (.enumeration "symboltype" ["function", "class_", "variable", "procedure", "label"])).required,
      (column "line_start" .integer).required,
      column "line_end" .integer,
      column "signature" .text,
      createdAt.required] [
      .foreignKey ["file_id"] ["files.id"] none (some "CASCADE"),
      .primaryKey ["id"] none],
    plainIndex "ix_symbols_created_at" "symbols" ["created_at"],
    plainIndex "ix_symbols_file_id" "symbols" ["file_id"],
    plainIndex "ix_symbols_name" "symbols" ["name"],
    plainIndex "ix_symbols_type" "symbols" ["type"]]
  downgrade := plan [
    noIndex "ix_symbols_type" "symbols",
    noIndex "ix_symbols_name" "symbols",
    noIndex "ix_symbols_file_id" "symbols",
    noIndex "ix_symbols_created_at" "symbols",
    .dropTable "symbols",
    noIndex "ix_files_repository_id" "files",
    noIndex "ix_files_created_at" "files",
    .dropTable "files",
    noIndex "ix_repositories_status" "repositories",
    noIndex "ix_repositories_name" "repositories",
    noIndex "ix_repositories_created_at" "repositories",
    .dropTable "repositories"]

def vectorColumn : Revision where
  name := "7902e7c06713"
  parents := ["cc87ed74e223"]
  upgrade := fun f =>
    .must (.execute "CREATE EXTENSION IF NOT EXISTS vector") ::
      if f.columns.contains "embeddings.embedding" then []
      else [
        .must (.addColumn "embeddings" (column "embedding" (.vector 1536))),
        .must (.createIndex "ix_embeddings_embedding" "embeddings" ["embedding"] (some false) (some "hnsw")
          [("embedding", "vector_cosine_ops")])]
  downgrade := plan [
    .dropIndex "ix_embeddings_embedding" (some "embeddings") (some "hnsw"),
    .dropColumn "embeddings" "embedding",
    .execute "DROP EXTENSION IF EXISTS vector"]

def vectorIdentifiers : Revision where
  name := "0e9ce319c94e"
  parents := ["7902e7c06713"]
  upgrade := plan [
    .execute "ALTER TABLE embeddings ALTER COLUMN id TYPE UUID USING id::uuid",
    .execute "ALTER TABLE embeddings ALTER COLUMN symbol_id TYPE UUID USING symbol_id::uuid"]
  downgrade := plan [
    .execute "ALTER TABLE embeddings ALTER COLUMN symbol_id TYPE VARCHAR USING symbol_id::text",
    .execute "ALTER TABLE embeddings ALTER COLUMN id TYPE VARCHAR USING id::text"]

def vectorType : Revision where
  name := "5986bcc38984"
  parents := ["0e9ce319c94e"]
  upgrade := plan [
    .execute "CREATE EXTENSION IF NOT EXISTS vector",
    .execute ("\n        ALTER TABLE embeddings \n        ALTER COLUMN embedding TYPE vector(1536) \n" ++
      "        USING embedding::vector(1536)\n    ")]
  downgrade := plan [
    .execute ("\n        ALTER TABLE embeddings \n        ALTER COLUMN embedding TYPE float[] \n" ++
      "        USING embedding::float[]\n    ")]

def symbolMetrics : Revision where
  name := "add_complexity_001"
  parents := ["5986bcc38984"]
  upgrade := plan [
    .addColumn "symbols" (column "cyclomatic_complexity" .integer),
    .addColumn "symbols" (column "maintainability_index" .float),
    .addColumn "symbols" (column "lines_of_code" .integer),
    .addColumn "symbols" (column "comment_lines" .integer),
    index "idx_symbols_complexity" "symbols" ["cyclomatic_complexity"]]
  downgrade := plan [
    .dropIndex "idx_symbols_complexity" none none,
    .dropColumn "symbols" "comment_lines",
    .dropColumn "symbols" "lines_of_code",
    .dropColumn "symbols" "maintainability_index",
    .dropColumn "symbols" "cyclomatic_complexity"]

def gitHubFields : Revision where
  name := "add_github_fields"
  parents := ["add_complexity_001"]
  upgrade := plan [
    .addColumn "repositories" (column "github_url" (varchar 500)),
    .addColumn "repositories" (column "github_owner" (varchar 255)),
    .addColumn "repositories" (column "github_repo" (varchar 255)),
    .addColumn "repositories" (column "github_branch" (varchar 100)),
    .addColumn "repositories" (column "github_stars" .integer),
    .addColumn "repositories" (column "github_language" (varchar 50)),
    plainIndex "ix_repositories_github_url" "repositories" ["github_url"]]
  downgrade := plan [
    noIndex "ix_repositories_github_url" "repositories",
    .dropColumn "repositories" "github_language",
    .dropColumn "repositories" "github_stars",
    .dropColumn "repositories" "github_branch",
    .dropColumn "repositories" "github_repo",
    .dropColumn "repositories" "github_owner",
    .dropColumn "repositories" "github_url"]

def repositorySource : Revision where
  name := "003"
  parents := ["add_github_fields"]
  upgrade := plan [
    .createType "reposource" ["upload", "github"],
    .addColumn "repositories"
    ((column "source" (.enumeration "reposource" ["upload", "github"])).required.given "upload"),
    .execute "UPDATE repositories SET source = 'github' WHERE github_url IS NOT NULL",
    index "idx_repositories_source" "repositories" ["source"]]
  downgrade := plan [
    noIndex "idx_repositories_source" "repositories",
    .dropColumn "repositories" "source",
    .dropType "reposource"]

def fileSource : Revision where
  name := "004"
  parents := ["003"]
  upgrade := plan [.addColumn "files" (column "source" .text)]
  downgrade := plan [.dropColumn "files" "source"]

def callTable : Revision where
  name := "005"
  parents := ["004"]
  upgrade := plan [
    tableOf "call_relationships" [
      (column "id" .integer).primary,
      ((column "repository_id" .uuid).refers "repositories.id").required,
      ((column "caller_symbol_id" .uuid).refers "symbols.id").required,
      (column "caller_name" anyVarchar).required,
      (column "caller_file" anyVarchar).required,
      (column "callee_name" anyVarchar).required,
      column "callee_file" anyVarchar,
      (column "callee_symbol_id" .uuid).refers "symbols.id",
      (column "call_line" .integer).required,
      ((column "is_external" .boolean).preset "False").required] [],
    index "idx_caller_symbol_id" "call_relationships" ["caller_symbol_id"],
    index "idx_callee_symbol_id" "call_relationships" ["callee_symbol_id"],
    index "idx_repository_calls" "call_relationships" ["repository_id"]]
  downgrade := plan [
    noIndex "idx_repository_calls" "call_relationships",
    noIndex "idx_callee_symbol_id" "call_relationships",
    noIndex "idx_caller_symbol_id" "call_relationships",
    .dropTable "call_relationships"]

def vulnerabilityTable : Revision where
  name := "874d67e7b43c"
  parents := ["005"]
  upgrade := plan [
    tableOf "vulnerabilities" [
      ((column "id" .uuid).given "gen_random_uuid()").required,
      (column "repository_id" .uuid).required,
      (column "type" (varchar 100)).required,
      (column "severity" (varchar 20)).required,
      column "cwe_id" (varchar 20),
      column "owasp_category" (varchar 100),
      (column "file_path" (varchar 1000)).required,
      (column "line_number" .integer).required,
      column "code_snippet" .text,
      (column "description" .text).required,
      column "recommendation" .text,
      column "confidence" (varchar 20),
      createdAt.required] [
      .foreignKey ["repository_id"] ["repositories.id"] (some "vulnerabilities_repository_id_fkey") (some "CASCADE"),
      .primaryKey ["id"] (some "vulnerabilities_pkey")],
    plainIndex "ix_vulnerabilities_repository_id" "vulnerabilities" ["repository_id"],
    plainIndex "ix_vulnerabilities_severity" "vulnerabilities" ["severity"],
    plainIndex "ix_vulnerabilities_type" "vulnerabilities" ["type"],
    plainIndex "ix_vulnerabilities_created_at" "vulnerabilities" ["created_at"]]
  downgrade := plan [
    noIndex "ix_vulnerabilities_created_at" "vulnerabilities",
    noIndex "ix_vulnerabilities_type" "vulnerabilities",
    noIndex "ix_vulnerabilities_severity" "vulnerabilities",
    noIndex "ix_vulnerabilities_repository_id" "vulnerabilities",
    .dropTable "vulnerabilities"]

def docstringColumns : Revision where
  name := "20260219_add_docstring_tracking"
  parents := ["874d67e7b43c"]
  upgrade := plan [
    .addColumn "symbols" (column "docstring" .text),
    .addColumn "symbols" ((column "has_docstring" .boolean).required.given "false"),
    .addColumn "symbols" (column "docstring_length" .integer),
    index "ix_symbols_has_docstring" "symbols" ["has_docstring"]]
  downgrade := plan [
    noIndex "ix_symbols_has_docstring" "symbols",
    .dropColumn "symbols" "docstring_length",
    .dropColumn "symbols" "has_docstring",
    .dropColumn "symbols" "docstring"]

def nullability (table name : String) (type : ColumnType) (nullable : Bool) : Change :=
  .alterColumn table name ⟨type, none, some nullable, none⟩

def signatureType (old new : ColumnType) : Change := .alterColumn "symbols" "signature" ⟨old, some new, none, some true⟩

def alignedIndexes : Revision where
  name := "f51a6709cc45"
  parents := ["20260219_add_docstring_tracking"]
  upgrade := plan [
    plainIndex "ix_call_relationships_callee_symbol_id" "call_relationships" ["callee_symbol_id"],
    plainIndex "ix_call_relationships_caller_symbol_id" "call_relationships" ["caller_symbol_id"],
    plainIndex "ix_call_relationships_id" "call_relationships" ["id"],
    plainIndex "ix_call_relationships_repository_id" "call_relationships" ["repository_id"],
    .dropForeignKey (some "call_relationships_repository_id_fkey") "call_relationships",
    .dropForeignKey (some "call_relationships_callee_symbol_id_fkey") "call_relationships",
    .dropForeignKey (some "call_relationships_caller_symbol_id_fkey") "call_relationships",
    .createForeignKey none "call_relationships" "repositories" ["repository_id"] ["id"] none,
    .createForeignKey none "call_relationships" "symbols" ["caller_symbol_id"] ["id"] none,
    .createForeignKey none "call_relationships" "symbols" ["callee_symbol_id"] ["id"] none,
    .createForeignKey none "embeddings" "symbols" ["symbol_id"] ["id"] (some "CASCADE"),
    nullability "files" "line_count" .integer false,
    nullability "repositories" "status" repositoryStates false,
    nullability "repositories" "file_count" .integer false,
    nullability "repositories" "symbol_count" .integer false,
    noIndex "idx_repositories_source" "repositories",
    plainIndex "ix_repositories_source" "repositories" ["source"],
    signatureType .text anyVarchar,
    noIndex "idx_symbols_complexity" "symbols",
    plainIndex "ix_symbols_cyclomatic_complexity" "symbols" ["cyclomatic_complexity"]]
  downgrade := plan [
    noIndex "ix_symbols_cyclomatic_complexity" "symbols",
    plainIndex "idx_symbols_complexity" "symbols" ["cyclomatic_complexity"],
    signatureType anyVarchar .text,
    noIndex "ix_repositories_source" "repositories",
    plainIndex "idx_repositories_source" "repositories" ["source"],
    nullability "repositories" "symbol_count" .integer true,
    nullability "repositories" "file_count" .integer true,
    nullability "repositories" "status" repositoryStates true,
    nullability "files" "line_count" .integer true,
    .dropForeignKey none "embeddings",
    .dropForeignKey none "call_relationships",
    .dropForeignKey none "call_relationships",
    .dropForeignKey none "call_relationships",
    .createForeignKey (some "call_relationships_caller_symbol_id_fkey") "call_relationships" "symbols"
    ["caller_symbol_id"] ["id"]
      (some "CASCADE"),
    .createForeignKey (some "call_relationships_callee_symbol_id_fkey") "call_relationships" "symbols"
    ["callee_symbol_id"] ["id"]
      (some "CASCADE"),
    .createForeignKey (some "call_relationships_repository_id_fkey") "call_relationships" "repositories"
    ["repository_id"] ["id"]
      (some "CASCADE"),
    noIndex "ix_call_relationships_repository_id" "call_relationships",
    noIndex "ix_call_relationships_id" "call_relationships",
    noIndex "ix_call_relationships_caller_symbol_id" "call_relationships",
    noIndex "ix_call_relationships_callee_symbol_id" "call_relationships"]

def smellTable : Change :=
  tableOf "code_smells" [
    (column "id" .uuid).primary,
    ((column "repository_id" .uuid).refers "repositories.id").required,
    ((column "file_id" .uuid).refers "files.id").required.indexed,
    ((column "symbol_id" .uuid).refers "symbols.id").indexed,
    (column "smell_type" (.enumeration "smelltype" smellKinds)).required.indexed,
    (column "severity" (.enumeration "smellseverity" smellSeverities)).required.indexed,
    (column "title" (varchar 255)).required,
    (column "description" .text).required,
    column "suggestion" .text,
    (column "start_line" .integer).required,
    (column "end_line" .integer).required,
    column "metric_value" .integer,
    column "metric_threshold" .integer,
    createdAt.required.indexed] []

def codeSmells : Revision where
  name := "create_code_smells"
  parents := ["20260219_add_docstring_tracking"]
  upgrade := fun f =>
    (if f.types.contains "smelltype" then [
      .must .beginAutocommit,
      .attempt (.execute "ALTER TYPE smelltype ADD VALUE IF NOT EXISTS 'missing_docstring'"),
      .must .endAutocommit]
    else [
      .must (.execute ("CREATE TYPE smelltype AS ENUM ('long_method', 'god_class', 'feature_envy', " ++
        "'large_class', 'long_parameter_list', 'duplicate_code', 'dead_code', 'missing_docstring')"))]) ++
    (if f.types.contains "smellseverity" then []
    else [.must (.execute "CREATE TYPE smellseverity AS ENUM ('low', 'medium', 'high', 'critical')")]) ++
    (if f.tables.contains "code_smells" then [] else [.must smellTable])
  downgrade := plan [
    .dropTable "code_smells",
    .execute "DROP TYPE IF EXISTS smelltype CASCADE",
    .execute "DROP TYPE IF EXISTS smellseverity CASCADE"]

def mergedHeads : Revision where
  name := "merge_heads_final"
  parents := ["f51a6709cc45", "create_code_smells"]
  upgrade := plan []
  downgrade := plan []

def speedIndexes : List (String × List (String × List String)) := [
  ("files", [
    ("idx_files_repo_id", ["repository_id"]),
    ("idx_files_file_path", ["file_path"]),
    ("idx_files_language", ["language"]),
    ("idx_files_repo_language", ["repository_id", "language"])]),
  ("symbols", [
    ("idx_symbols_file_id", ["file_id"]),
    ("idx_symbols_name", ["name"]),
    ("idx_symbols_type", ["type"]),
    ("idx_symbols_file_name", ["file_id", "name"])]),
  ("embeddings", [("idx_embeddings_symbol_id", ["symbol_id"])]),
  ("call_relationships", [
    ("idx_callrel_caller_name", ["caller_name"]),
    ("idx_callrel_callee_name", ["callee_name"]),
    ("idx_callrel_is_external", ["is_external"])])]

def speedIndexesIfThere : List (String × List (String × List String)) := [
  ("code_smells", [
    ("idx_code_smells_repo", ["repository_id"]),
    ("idx_code_smells_file_id", ["file_id"]),
    ("idx_code_smells_severity", ["severity"]),
    ("idx_code_smells_type", ["smell_type"])]),
  ("vulnerabilities", [
    ("idx_vulnerabilities_repo", ["repository_id"]),
    ("idx_vulnerabilities_severity", ["severity"])]),
  ("metrics_snapshots", [
    ("idx_metrics_repo", ["repository_id"]),
    ("idx_metrics_created_at", ["created_at"]),
    ("idx_metrics_repo_time", ["repository_id", "created_at"])])]

def speedGroups (f : Found) : List (String × List (String × List String)) :=
  speedIndexes ++ speedIndexesIfThere.filter fun g => f.tables.contains g.1

def performanceIndexes : Revision where
  name := "002_performance"
  parents := ["merge_heads_final"]
  upgrade := fun f => ((speedGroups f).flatMap fun g => indexes g.1 g.2).map .must
  downgrade := fun f => ((speedGroups f).flatMap fun g => noIndexes g.1 g.2).map .must

def gateTables : Revision where
  name := "sprint14_cicd"
  parents := ["002_performance"]
  upgrade := plan [
    tableOf "quality_gates" [
      (column "id" .uuid).primary,
      ((column "repository_id" .uuid).refers "repositories.id").required.unique,
      (column "max_complexity" .integer).given "10",
      (column "max_code_smells" .integer).given "20",
      (column "max_critical_smells" .integer).given "0",
      (column "max_vulnerabilities" .integer).given "5",
      (column "max_critical_vulnerabilities" .integer).given "0",
      (column "min_quality_score" .float).given "70.0",
      (column "max_duplication_percentage" .float).given "10.0",
      (column "block_on_failure" .boolean).given "true"] [],
    tableOf "cicd_runs" [
      (column "id" .uuid).primary,
      ((column "repository_id" .uuid).refers "repositories.id").required,
      column "branch" (varchar 255),
      column "commit_sha" (varchar 40),
      column "pr_number" .integer,
      column "pr_title" (varchar 500),
      (column "triggered_by" (varchar 50)).given "manual",
      (column "status" (varchar 20)).given "pending",
      column "quality_gate_passed" .boolean,
      column "quality_gate_details" .binaryJson,
      column "report_html" .text,
      createdAt,
      column "completed_at" (.timestamp true)] [],
    index "idx_cicd_runs_repo" "cicd_runs" ["repository_id"],
    index "idx_cicd_runs_status" "cicd_runs" ["status"],
    index "idx_cicd_runs_created" "cicd_runs" ["created_at"]]
  downgrade := plan [
    noIndex "idx_cicd_runs_created" "cicd_runs",
    noIndex "idx_cicd_runs_status" "cicd_runs",
    noIndex "idx_cicd_runs_repo" "cicd_runs",
    .dropTable "cicd_runs",
    .dropTable "quality_gates"]

def history : List Revision :=
  [performanceIndexes, repositorySource, fileSource, callTable, vectorIdentifiers, docstringColumns,
  initialState, vectorType, vectorColumn, vulnerabilityTable, symbolMetrics, gitHubFields, initialSchema, codeSmells,
  alignedIndexes, mergedHeads, gateTables]

def revision? (name : String) : Option Revision := history.find? (·.name == name)

end CodeSurvey.Schema
