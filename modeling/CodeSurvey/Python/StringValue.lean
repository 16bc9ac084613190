/-
The values of Python string literals, and the division of formatted literals into their replacement fields.
-/
import CodeSurvey.Python.Token
import CodeSurvey.Text.CharName

namespace CodeSurvey.Python

open Json (hexValue?)

/-- The number written by exactly `n` hexadecimal digits at the start of the text, and the text after them. -/
def hexDigits? (n : Nat) (cs : List Char) : Option (Nat × List Char) :=
  let ds := cs.take n
  if ds.length < n then none
  else (ds.foldl (fun acc c => acc.bind fun v => (hexValue? c).map fun d => v * 16 + d) (some 0)).map
    fun v => (v, cs.drop n)

/-- Up to three octal digits at the start of the text, the first of which is given. -/
def octalDigits (first : Nat) (cs : List Char) : Nat × List Char :=
  match cs with
  | a :: b :: r =>
    if '0' ≤ a && a ≤ '7' then
      if '0' ≤ b && b ≤ '7' then ((first * 8 + (a.toNat - 48)) * 8 + (b.toNat - 48), r)
      else (first * 8 + (a.toNat - 48), b :: r)
    else (first, cs)
  | [a] => if '0' ≤ a && a ≤ '7' then (first * 8 + (a.toNat - 48), []) else (first, cs)
  | [] => (first, [])

/-- A character of a code point; code points that are no characters become the replacement character. -/
def charOf (n : Nat) : Char := if n.isValidChar then Char.ofNat n else Char.ofNat 0xfffd

/-- The value of an escape after the backslash: the characters it stands for and the text after it; `none` if it is
malformed. An unknown escape stands for itself, and so does a backslash at the end. Escapes by character name and code
point belong to text, not to bytes. -/
def escapeValue (isBytes : Bool) (cs : List Char) : Option (List Char × List Char) :=
  match cs with
  | [] => some (['\\'], [])
  | c :: r =>
    match c with
    | '\n' => some ([], r)
    | '\\' => some (['\\'], r)
    | '\'' => some (['\''], r)
    | '"' => some (['"'], r)
    | 'a' => some (['\x07'], r)
    | 'b' => some (['\x08'], r)
    | 'f' => some (['\x0c'], r)
    | 'n' => some (['\n'], r)
    | 'r' => some (['\r'], r)
    | 't' => some (['\t'], r)
    | 'v' => some (['\x0b'], r)
    | 'x' => (hexDigits? 2 r).map fun p => ([charOf p.1], p.2)
    | 'u' => if isBytes then some (['\\', 'u'], r) else (hexDigits? 4 r).map fun p => ([charOf p.1], p.2)
    | 'U' =>
      if isBytes then some (['\\', 'U'], r)
      else (hexDigits? 8 r).bind fun p => if p.1 ≤ 0x10ffff then some ([charOf p.1], p.2) else none
    | 'N' =>
      if isBytes then some (['\\', 'N'], r)
      else match r with
        | '{' :: s =>
          let named := s.takeWhile (· != '}')
          let after := s.dropWhile (· != '}')
          if after.isEmpty then none else (Text.charNamed? named).map fun c => ([c], after.drop 1)
        | _ => none
    | _ =>
      if '0' ≤ c && c ≤ '7' then
        let (v, r) := octalDigits (c.toNat - 48) r
        some ([charOf v], r)
      else some (['\\', c], r)

def unescape (isBytes : Bool) : (fuel : Nat) → (acc : List Char) → List Char → Option (List Char)
  | 0, _, _ => none
  | fuel + 1, acc, cs =>
    match cs with
    | [] => some acc.reverse
    | '\\' :: r =>
      match escapeValue isBytes r with
      | some (v, r) => unescape isBytes fuel (v.reverse ++ acc) r
      | none => none
    | c :: r => unescape isBytes fuel (c :: acc) r

def bodyValue (l : StringLiteral) : Option (List Char) :=
  if l.isBytes && l.body.any (fun c => 128 ≤ c.toNat) then none
  else if l.isRaw then some l.body
  else unescape l.isBytes (l.body.length + 1) [] l.body

/-! ## Replacement fields -/

/-- A piece of a formatted literal: text that stands for itself, or a replacement field with its expression, the line of
it relative to the literal, and the pieces of its format. -/
inductive Piece where
  | text (t : List Char)
  | field (expression : List Char) (line : Nat) (format : List Piece)

structure FieldScan where
  /-- The open brackets, innermost first. -/
  brackets : List Char
  /-- The quote of the string inside which the place is, and whether it is a triple quote. -/
  quote : Option (Char × Bool)
  acc : List Char

/-- Reads an expression up to the character that ends it: a brace, a colon, an exclamation mark or an equals sign
outside all brackets and strings. Backslashes and comments are refused. -/
def readExpression : (fuel : Nat) → FieldScan → List Char → Option (List Char × List Char)
  | 0, _, _ => none
  | fuel + 1, s, cs =>
    match cs with
    | [] => none
    | c :: r =>
      if c == '\\' then none
      else match s.quote with
        | some (q, triple) =>
          if c == q then
            if triple then
              if [q, q].isPrefixOf r then
                readExpression fuel { s with quote := none, acc := q :: q :: q :: s.acc } (r.drop 2)
              else readExpression fuel { s with acc := c :: s.acc } r
            else readExpression fuel { s with quote := none, acc := c :: s.acc } r
          else readExpression fuel { s with acc := c :: s.acc } r
        | none =>
          if c == '\'' || c == '"' then
            if [c, c].isPrefixOf r then
              readExpression fuel { s with quote := some (c, true), acc := c :: c :: c :: s.acc } (r.drop 2)
            else readExpression fuel { s with quote := some (c, false), acc := c :: s.acc } r
          else if c == '[' || c == '{' || c == '(' then
            if s.brackets.length ≥ 200 then none
            else readExpression fuel { s with brackets := c :: s.brackets, acc := c :: s.acc } r
          else if c == '#' then none
          else if s.brackets.isEmpty && (c == '!' || c == ':' || c == '}' || c == '=' || c == '<' || c == '>') then
            if (c == '!' || c == '=' || c == '<' || c == '>') && r.head? == some '=' then
              readExpression fuel { s with acc := '=' :: c :: s.acc } (r.drop 1)
            else if c == '<' || c == '>' then readExpression fuel { s with acc := c :: s.acc } r
            else some (s.acc.reverse, cs)
          else if c == ']' || c == '}' || c == ')' then
            match s.brackets with
            | b :: bs =>
              if closing? b == some c then readExpression fuel { s with brackets := bs, acc := c :: s.acc } r else none
            | [] => none
          else readExpression fuel { s with acc := c :: s.acc } r

/-- Reads literal text up to a replacement field or the end of the format; `acc` holds it backwards, as written. Doubled
braces stand for themselves outside formats. A brace after `\N` belongs to a character name. -/
def readLiteral (isRaw inFormat : Bool) : (fuel : Nat) → (acc : List Char) → List Char → Option (List Char × List Char)
  | 0, _, _ => none
  | fuel + 1, acc, cs =>
    match cs with
    | [] => some (acc.reverse, [])
    | '\\' :: 'N' :: '{' :: r =>
      if isRaw then readLiteral isRaw inFormat fuel ('N' :: '\\' :: acc) ('{' :: r)
      else
        let named := r.takeWhile (· != '}')
        let after := r.dropWhile (· != '}')
        readLiteral isRaw inFormat fuel ((after.take 1).reverse ++ named.reverse ++ ('{' :: 'N' :: '\\' :: acc))
          (after.drop 1)
    | '\\' :: c :: r =>
      if isRaw || c == '{' || c == '}' then readLiteral isRaw inFormat fuel ('\\' :: acc) (c :: r)
      else readLiteral isRaw inFormat fuel (c :: '\\' :: acc) r
    | c :: r =>
      if c == '{' || c == '}' then
        if !inFormat && r.head? == some c then readLiteral isRaw inFormat fuel (c :: acc) (r.drop 1)
        else if !inFormat && c == '}' then none
        else some (acc.reverse, cs)
      else readLiteral isRaw inFormat fuel (c :: acc) r

def lineFeeds (t : List Char) : Nat := t.count '\n'

/-- What may follow an expression: an equals sign, a conversion, and then a format or the closing brace. -/
def afterExpression (cs : List Char) : Option (List Char) :=
  let cs := match cs with
    | '=' :: r => r.dropWhile fun c => c == ' ' || (9 ≤ c.toNat && c.toNat ≤ 13)
    | _ => cs
  match cs with
  | '!' :: c :: r => if c == 's' || c == 'r' || c == 'a' then some r else none
  | '!' :: [] => none
  | _ => some cs

/-- The pieces of a formatted literal from the place on, and the text after a format. `level` is the depth of formats,
and `line` the number of lines before the place. -/
def readPieces (isRaw : Bool) : (fuel : Nat) → (level line : Nat) → List Char → Option (List Piece × List Char)
  | 0, _, _, _ => none
  | fuel + 1, level, line, cs =>
    match readLiteral isRaw (level > 0) (cs.length + 1) [] cs with
    | none => none
    | some (lit, rest) =>
      let piece := if lit.isEmpty then [] else [Piece.text lit]
      let here := line + lineFeeds (cs.take (cs.length - rest.length))
      match rest with
      | [] => if level > 0 then none else some (piece, [])
      | '}' :: _ => some (piece, rest)
      | _ :: r =>
        if level ≥ 2 then none
        else match readExpression (r.length + 1) ⟨[], none, []⟩ r with
          | none => none
          | some (e, after) =>
            match afterExpression after with
            | none => none
            | some after =>
              let next := here + lineFeeds (r.take (r.length - after.length))
              match after with
              | '}' :: s =>
                (readPieces isRaw fuel level next s).map fun p => (piece ++ [.field e here []] ++ p.1, p.2)
              | ':' :: s =>
                match readPieces isRaw fuel (level + 1) next s with
                | some (format, '}' :: s') =>
                  (readPieces isRaw fuel level (next + lineFeeds (s.take (s.length - s'.length))) s').map
                    fun p => (piece ++ [.field e here format] ++ p.1, p.2)
                | _ => none
              | _ => none

def piecesOf (l : StringLiteral) : Option (List Piece) :=
  match readPieces l.isRaw (2 * l.body.length + 2) 0 0 l.body with
  | some (ps, []) => some ps
  | _ => none

end CodeSurvey.Python
