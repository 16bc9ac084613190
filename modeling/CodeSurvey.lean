import CodeSurvey.Cache
import CodeSurvey.Proofs.CallGraph.Forest
import CodeSurvey.Proofs.CallGraph.Overview
import CodeSurvey.Proofs.CallGraph.Stages
import CodeSurvey.Proofs.Calls.Attribution
import CodeSurvey.Proofs.Calls.Extraction
import CodeSurvey.Proofs.Calls.Occurrence
import CodeSurvey.Proofs.Docs.Written
import CodeSurvey.Proofs.Duplicate.Comments
import CodeSurvey.Proofs.Duplicate.Listing
import CodeSurvey.Proofs.Duplicate.Signature
import CodeSurvey.Proofs.Gate.Page
import CodeSurvey.Proofs.Gate.Runs
import CodeSurvey.Proofs.GitHub.Agreement
import CodeSurvey.Proofs.GitHub.Import
import CodeSurvey.Proofs.Imports.Graph
import CodeSurvey.Proofs.Imports.Statement
import CodeSurvey.Proofs.Language.Detection
import CodeSurvey.Proofs.Metrics.Complexity
import CodeSurvey.Proofs.Metrics.Dashboard
import CodeSurvey.Proofs.Metrics.Score
import CodeSurvey.Proofs.Metrics.Snapshot
import CodeSurvey.Proofs.Parse.Lines
import CodeSurvey.Proofs.Path
import CodeSurvey.Proofs.Python.Symbols
import CodeSurvey.Proofs.Security.Figures
import CodeSurvey.Proofs.Security.Redaction
import CodeSurvey.Proofs.Store.Removal
import CodeSurvey.Record.Schema
import CodeSurvey.Schema.Environment
import CodeSurvey.Schema.History
