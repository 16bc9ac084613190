/-
Reports on a quality gate, as a page and as plain text.
-/
import CodeSurvey.Basic
import CodeSurvey.Json.Printer

namespace CodeSurvey.Gate

structure CheckLine where
  passed : Bool
  name : String
  message : String

structure CheckRow extends CheckLine where
  value : String
  threshold : String

def mark (passed : Bool) : String := if passed then "✅" else "❌"

def verdict (passed : Bool) : String := if passed then "PASSED" else "FAILED"

def colour (passed : Bool) : String := if passed then "#22c55e" else "#ef4444"

def CheckLine.render (c : CheckLine) : String := mark c.passed ++ " " ++ c.name ++ ": " ++ c.message

def CheckRow.render (c : CheckRow) : String :=
  String.join [
    "<tr style=\"background:", if c.passed then "#f0fdf4" else "#fef2f2", "\">",
    "<td style=\"padding:8px 12px\">", mark c.passed, " ", c.name, "</td>",
    "<td style=\"padding:8px 12px;text-align:center\">", c.value, "</td>",
    "<td style=\"padding:8px 12px;text-align:center\">", c.threshold, "</td>",
    "<td style=\"padding:8px 12px\">", c.message, "</td>",
    "</tr>"]

def style (passed : Bool) : List String := [
  "  <style>",
  "    body \x7bfont-family:-apple-system,BlinkMacSystemFont,'Segoe UI',sans-serif;" ++
    "margin:0;padding:24px;background:#f8fafc;color:#1e293b\x7d",
  "    .card \x7bbackground:white;border-radius:12px;padding:24px;" ++
    "margin-bottom:20px;box-shadow:0 1px 3px rgba(0,0,0,.1)\x7d",
  "    .badge \x7bdisplay:inline-block;padding:8px 20px;border-radius:9999px;color:white;" ++
    "font-weight:700;font-size:18px;background:" ++
    colour passed ++ "\x7d",
  "    table \x7bwidth:100%;border-collapse:collapse\x7d",
  "    th \x7bbackground:#f1f5f9;padding:10px 12px;text-align:left;font-weight:600\x7d",
  "    td \x7bborder-bottom:1px solid #e2e8f0\x7d",
  "    h1 \x7bmargin:0 0 4px;font-size:24px\x7d",
  "    h2 \x7bmargin:0 0 16px;font-size:18px;color:#475569\x7d",
  "  </style>"]

def page (time repository : String) (passed : Bool) (summary : String) (rows : List CheckRow) : String :=
  "\n".intercalate ([
    "<!DOCTYPE html>",
    "<html>",
    "<head>",
    "  <meta charset=\"utf-8\">"] ++
    ("  <title>Code Intelligence — " ++ repository ++ "</title>") :: (style passed ++ [
    "</head>",
    "<body>",
    "  <div class=\"card\">",
    "    <h1>🔍 Code Intelligence Report</h1>"] ++
    ("    <h2>" ++ repository ++ "</h2>") :: [
    "    <p style=\"color:#64748b\">Generated: " ++ time ++ "</p>",
    "    <div class=\"badge\">" ++ verdict passed ++ "</div>",
    "    <p style=\"margin-top:12px;color:#64748b\">" ++ summary ++ "</p>",
    "  </div>",
    "  <div class=\"card\">",
    "    <h2>Quality Gate Results</h2>",
    "    <table>",
    "      <thead><tr><th>Check</th><th>Value</th><th>Threshold</th><th>Details</th></tr></thead>",
    "      <tbody>" ++ String.join (rows.map CheckRow.render) ++ "</tbody>",
    "    </table>",
    "  </div>",
    "</body>",
    "</html>"]))

def plainReport (time repository : String) (passed : Bool) (summary : String) (lines : List CheckLine) : String :=
  "\n".intercalate ([
    "Code Intelligence Report — " ++ repository,
    "Generated: " ++ time,
    String.ofList (List.replicate 60 '='),
    "Status: " ++ verdict passed ++ " " ++ mark passed,
    summary,
    "",
    "Checks:",
    String.ofList (List.replicate 40 '-')] ++ lines.map CheckLine.render)

/-! Gates given as loosely structured records -/

def looselyPassed (gate : Json) : Bool := (gate.get? "passed").any Json.truthy

def looseChecks (gate : Json) : Except Fault (List Json) :=
  match gate.get? "checks" with
  | none => .ok []
  | some (.arr l) => .ok l
  | some (.obj []) => .ok []
  | some (.str s) => if s.isEmpty then .ok [] else .error .wrongType
  | some _ => .error .wrongType

def checkField (check : Json) (key : String) : Except Fault Json :=
  match check with
  | .obj _ =>
    match check.get? key with
    | some v => .ok v
    | none => .error .missingField
  | _ => .error .wrongType

def CheckLine.ofJson (check : Json) : Except Fault CheckLine := do
  let passed ← checkField check "passed"
  let name ← checkField check "name"
  let message ← checkField check "message"
  return ⟨passed.truthy, name.display, message.display⟩

def CheckRow.ofJson (check : Json) : Except Fault CheckRow := do
  let line ← CheckLine.ofJson check
  let value ← checkField check "value"
  let threshold ← checkField check "threshold"
  return ⟨line, value.display, threshold.display⟩

def looseLines (gate : Json) : Except Fault (List CheckLine) := do (← looseChecks gate).mapM CheckLine.ofJson

def loosePage (time repository : String) (gate : Json) : Except Fault String := do
  let rows ← (← looseChecks gate).mapM CheckRow.ofJson
  return page time repository (looselyPassed gate) ((gate.get? "summary").getD (.str "")).display rows

def loosePlainReport (time repository : String) (gate : Json) : Except Fault String := do
  let passed ← checkField gate "passed"
  let lines ← looseLines gate
  match (gate.get? "summary").getD (.str "") with
  | .str summary => return plainReport time repository passed.truthy summary lines
  | _ => .error .wrongType

end CodeSurvey.Gate
