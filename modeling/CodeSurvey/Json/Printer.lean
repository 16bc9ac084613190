/-
Texts of values. As JSON they are on one line and in ASCII: other characters are written as escapes of their UTF-16
units. Inside messages and keys, they are written like `None`, `True`, `[1, 'a']`: a string inside another value is
quoted, with the quote that needs no escape where there is one.
-/
import CodeSurvey.Json.Basic
import CodeSurvey.Text.Letter

namespace CodeSurvey.Json

/-- `n` in hexadecimal, with at least `width` digits. -/
def hexPadded (width n : Nat) : List Char :=
  let ds := Nat.toDigits 16 n
  List.replicate (width - ds.length) '0' ++ ds

def unitEscape (n : Nat) : List Char := ['\\', 'u'] ++ hexPadded 4 n

def quotedChar (c : Char) : List Char :=
  let n := c.toNat
  if c == '"' then ['\\', '"']
  else if c == '\\' then ['\\', '\\']
  else if c == '\n' then ['\\', 'n']
  else if c == '\r' then ['\\', 'r']
  else if c == '\t' then ['\\', 't']
  else if n == 0x08 then ['\\', 'b']
  else if n == 0x0c then ['\\', 'f']
  else if 0x20 ≤ n && n < 0x7f then [c]
  else if n < 0x10000 then unitEscape n
  else unitEscape (0xd800 + (n - 0x10000) / 1024) ++ unitEscape (0xdc00 + (n - 0x10000) % 1024)

def quotedCode : CodePoint → List Char
  | .char c => quotedChar c
  | .surrogate n => unitEscape (0xd800 + n)

def inQuotes (t : List Char) : String := String.ofList (['"'] ++ t ++ ['"'])

def quoted (s : String) : String := inQuotes (s.toList.flatMap quotedChar)

def numberText (x : Float) : String :=
  match Decimal.floatText x with
  | "nan" => "NaN"
  | "inf" => "Infinity"
  | "-inf" => "-Infinity"
  | s => s

def render : Json → String
  | null => "null"
  | bool true => "true"
  | bool false => "false"
  | int n => toString n
  | float x => numberText x
  | str s => quoted s
  | odd t => inQuotes (t.flatMap quotedCode)
  | arr items => "[" ++ ", ".intercalate (renderItems items) ++ "]"
  | obj fields => "\x7b" ++ ", ".intercalate (renderFields fields) ++ "\x7d"
where
  renderItems : List Json → List String
    | [] => []
    | v :: r => render v :: renderItems r
  renderFields : List (String × Json) → List String
    | [] => []
    | (k, v) :: r => (quoted k ++ ": " ++ render v) :: renderFields r

/-! ## Literals -/

/-- A character of a quoted string: characters without a visible form are written as escapes. -/
def literalChar (quote c : Char) : List Char :=
  let n := c.toNat
  if c == quote || c == '\\' then ['\\', c]
  else if c == '\t' then ['\\', 't']
  else if c == '\n' then ['\\', 'n']
  else if c == '\r' then ['\\', 'r']
  else if Text.isPrintable c then [c]
  else if n < 0x100 then ['\\', 'x'] ++ hexPadded 2 n
  else if n < 0x10000 then unitEscape n
  else ['\\', 'U'] ++ hexPadded 8 n

def literalCode (quote : Char) : CodePoint → List Char
  | .char c => literalChar quote c
  | .surrogate n => unitEscape (0xd800 + n)

/-- A quoted text: double quotes if the text holds single quotes and no double ones. -/
def literalText (t : List CodePoint) : String :=
  let quote := if t.contains (.char '\'') && !t.contains (.char '"') then '"' else '\''
  String.ofList ([quote] ++ t.flatMap (literalCode quote) ++ [quote])

def literalString (s : String) : String := literalText (s.toList.map .char)

def literal : Json → String
  | null => "None"
  | bool true => "True"
  | bool false => "False"
  | int n => toString n
  | float x => Decimal.floatText x
  | str s => literalString s
  | odd t => literalText t
  | arr items => "[" ++ ", ".intercalate (literalItems items) ++ "]"
  | obj fields => "\x7b" ++ ", ".intercalate (literalFields fields) ++ "\x7d"
where
  literalItems : List Json → List String
    | [] => []
    | v :: r => literal v :: literalItems r
  literalFields : List (String × Json) → List String
    | [] => []
    | (k, v) :: r => (literalString k ++ ": " ++ literal v) :: literalFields r

/-- The text of a value in a sentence: a string stands for itself. -/
def display : Json → String
  | str s => s
  | odd t => CodePoint.marked t
  | j => literal j

/-- The text of a sequence in round brackets; a single item is followed by a comma. -/
def tupleLiteral (items : List Json) : String :=
  match items with
  | [v] => "(" ++ literal v ++ ",)"
  | _ => "(" ++ ", ".intercalate (items.map literal) ++ ")"

end CodeSurvey.Json
