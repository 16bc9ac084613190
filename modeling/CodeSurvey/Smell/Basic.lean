/-
Code smells: their kinds, and what a finding tells.
-/
import CodeSurvey.Json.Printer

namespace CodeSurvey

inductive Severity where
  | low
  | medium
  | high
  | critical
deriving DecidableEq

namespace Severity

def name : Severity → String
  | low => "low"
  | medium => "medium"
  | high => "high"
  | critical => "critical"

def ofName? (s : String) : Option Severity := [low, medium, high, critical].find? (·.name == s)

end Severity

inductive SmellKind where
  | longMethod
  | godClass
  | featureEnvy
  | largeClass
  | longParameterList
  | duplicateCode
  | deadCode
  | missingDocstring
deriving DecidableEq

namespace SmellKind

def name : SmellKind → String
  | longMethod => "long_method"
  | godClass => "god_class"
  | featureEnvy => "feature_envy"
  | largeClass => "large_class"
  | longParameterList => "long_parameter_list"
  | duplicateCode => "duplicate_code"
  | deadCode => "dead_code"
  | missingDocstring => "missing_docstring"

def ofName? (s : String) : Option SmellKind :=
  [longMethod, godClass, featureEnvy, largeClass, longParameterList, duplicateCode, deadCode, missingDocstring].find?
    (·.name == s)

end SmellKind

structure SmellFinding where
  fileId : Json
  symbolId : Json
  kind : SmellKind
  severity : Severity
  title : String
  description : String
  suggestion : String
  startLine : Option Int
  endLine : Option Int
  value : Int
  threshold : Int

end CodeSurvey
