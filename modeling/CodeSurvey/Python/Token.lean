/-
Tokens of Python source (version 3.11): names, keywords, numbers, strings, operators, and the marks for the ends of
logical lines and for changes of indentation.
-/
import CodeSurvey.Text.Letter
import CodeSurvey.Text.Normal

namespace CodeSurvey.Python

structure StringLiteral where
  isRaw : Bool
  isBytes : Bool
  isFormatted : Bool
  body : List Char

inductive TokenKind where
  /-- A name in its normal form; `asWritten` tells that the source spells it in that form. -/
  | name (s : String) (asWritten : Bool)
  | keyword (s : String)
  | number (imaginary : Bool)
  | text (s : StringLiteral)
  | op (s : String)
  | newline
  | indent
  | dedent
  | endOfText

structure Token where
  kind : TokenKind
  line : Nat
  endLine : Nat

def keywords : List String :=
  ["False", "None", "True", "and", "as", "assert", "async", "await", "break", "class", "continue", "def", "del", "elif",
    "else", "except", "finally", "for", "from", "global", "if", "import", "in", "is", "lambda", "nonlocal", "not", "or",
    "pass", "raise", "return", "try", "while", "with", "yield"]

structure Scan where
  rest : List Char
  line : Nat
  /-- The columns of the open blocks, innermost first, counted with tabs of eight columns and with tabs of one. -/
  indents : List (Nat × Nat)
  /-- The open brackets, innermost first. -/
  brackets : List Char
  tokens : List Token

namespace Scan

def push (s : Scan) (k : TokenKind) (rest : List Char) : Scan :=
  { s with rest, tokens := ⟨k, s.line, s.line⟩ :: s.tokens }

end Scan

/-! ## Numbers -/

/-- The digits at the start of the text, with single underscores between them, onto `acc`, and the text after them;
`none` if an underscore is not followed by a digit. -/
def digitRun (isDigit : Char → Bool) (acc : List Char) : List Char → Option (List Char × List Char)
  | [] => some (acc, [])
  | ['_'] => none
  | '_' :: c :: r => if isDigit c then digitRun isDigit (c :: acc) r else none
  | c :: r => if isDigit c then digitRun isDigit (c :: acc) r else some (acc, c :: r)

def afterDigits (isDigit : Char → Bool) (t : List Char) : Option (List Char) := (digitRun isDigit [] t).map (·.2)

/-- May the character be part of a name? Beyond ASCII that is decided when the name is complete. -/
def mayContinueName (c : Char) : Bool := c.isAlphanum || c == '_' || 128 ≤ c.toNat

/-- May a number end here? Words that can follow a number are allowed without a space. -/
def endsNumber : List Char → Bool
  | [] => true
  | 'a' :: 'n' :: 'd' :: _ => true
  | 'e' :: 'l' :: 's' :: 'e' :: _ => true
  | 'f' :: 'o' :: 'r' :: _ => true
  | 'i' :: c :: _ => c == 'f' || c == 'n' || c == 's'
  | 'o' :: 'r' :: _ => true
  | 'n' :: 'o' :: 't' :: _ => true
  | c :: _ => !mayContinueName c

def finishNumber (r : List Char) : Option (Bool × List Char) :=
  match r with
  | c :: s =>
    if c == 'j' || c == 'J' then if endsNumber s then some (true, s) else none
    else if endsNumber r then some (false, r) else none
  | [] => some (false, [])

def exponentPart (r : List Char) : Option (Bool × List Char) :=
  match r with
  | e :: s =>
    if e == 'e' || e == 'E' then
      match s with
      | c :: s' =>
        if c == '+' || c == '-' then
          match s' with
          | d :: _ => if d.isDigit then (afterDigits Char.isDigit s').bind finishNumber else none
          | [] => none
        else if c.isDigit then (afterDigits Char.isDigit s).bind finishNumber
        else if endsNumber r then some (false, r) else none
      | [] => if endsNumber r then some (false, r) else none
    else finishNumber r
  | [] => some (false, [])

def fractionPart (r : List Char) : Option (Bool × List Char) :=
  match r with
  | c :: _ => if c.isDigit then (afterDigits Char.isDigit r).bind exponentPart else exponentPart r
  | [] => some (false, [])

/-- The digits of a number in another base; at least one digit follows the mark and each underscore. -/
def basedPart (isDigit : Char → Bool) (r : List Char) : Option (Bool × List Char) :=
  let r := match r with
    | '_' :: s => s
    | _ => r
  match r with
  | c :: _ =>
    if isDigit c then
      match afterDigits isDigit r with
      | some (d :: s) => if d.isDigit || !endsNumber (d :: s) then none else some (false, d :: s)
      | some [] => some (false, [])
      | none => none
    else none
  | [] => none

def isHexDigit (c : Char) : Bool := c.isDigit || ('a' ≤ c && c ≤ 'f') || ('A' ≤ c && c ≤ 'F')

/-- What may follow the digits of a decimal number. `octal` tells that they have a superfluous zero in front, which an
integer may not have. -/
def decimalPart (octal : Bool) (r : List Char) : Option (Bool × List Char) :=
  match r with
  | '.' :: s => fractionPart s
  | c :: _ =>
    if c == 'e' || c == 'E' then exponentPart r
    else if c == 'j' || c == 'J' then finishNumber r
    else if octal then none
    else finishNumber r
  | [] => if octal then none else some (false, [])

def tooLong (digits : List Char) : Bool := digits.length > Decimal.digitLimit && digits.any (· != '0')

/-- Reads a decimal number. It is an integer if nothing but its digits has been read. -/
def readDecimal (cs : List Char) : Option (Bool × List Char) :=
  match digitRun Char.isDigit [] cs with
  | some (digits, s) =>
    match decimalPart (cs.head? == some '0' && digits.any (· != '0')) s with
    | some (imaginary, r) => if tooLong digits && r.length == s.length then none else some (imaginary, r)
    | none => none
  | none => none

/-- Reads a number at a digit, or at a point before a digit; gives whether it is imaginary and the text after it. -/
def readNumber (cs : List Char) : Option (Bool × List Char) :=
  match cs with
  | '0' :: c :: r =>
    if c == 'x' || c == 'X' then basedPart isHexDigit r
    else if c == 'o' || c == 'O' then basedPart (fun d => '0' ≤ d && d ≤ '7') r
    else if c == 'b' || c == 'B' then basedPart (fun d => d == '0' || d == '1') r
    else readDecimal cs
  | '.' :: r => fractionPart r
  | _ => readDecimal cs

/-! ## Strings -/

/-- Reads up to a closing quote on the same line; `acc` holds the body backwards. Gives the body, the text after the
quote and the number of lines passed by escaped line feeds. -/
def readShort (quote : Char) (acc : List Char) (passed : Nat) : List Char → Option (List Char × List Char × Nat)
  | [] => none
  | '\\' :: c :: r => readShort quote (c :: '\\' :: acc) (if c == '\n' then passed + 1 else passed) r
  | c :: r =>
    if c == quote then some (acc.reverse, r, passed)
    else if c == '\n' then none
    else readShort quote (c :: acc) passed r

def readLong (quote : Char) (acc : List Char) (passed : Nat) : List Char → Option (List Char × List Char × Nat)
  | [] => none
  | '\\' :: c :: r => readLong quote (c :: '\\' :: acc) (if c == '\n' then passed + 1 else passed) r
  | c :: r =>
    if c == quote && [quote, quote].isPrefixOf r then some (acc.reverse, r.drop 2, passed)
    else readLong quote (c :: acc) (if c == '\n' then passed + 1 else passed) r

def readQuoted (cs : List Char) : Option (List Char × List Char × Nat) :=
  match cs with
  | q :: r =>
    if [q, q].isPrefixOf r then readLong q [] 0 (r.drop 2) else readShort q [] 0 r
  | [] => none

def stringKind? (letters : List Char) : Option StringLiteral :=
  let l := letters.map Char.toLower
  if l == [] || l == ['u'] then some ⟨false, false, false, []⟩
  else if l == ['r'] then some ⟨true, false, false, []⟩
  else if l == ['b'] then some ⟨false, true, false, []⟩
  else if l == ['f'] then some ⟨false, false, true, []⟩
  else if l == ['b', 'r'] || l == ['r', 'b'] then some ⟨true, true, false, []⟩
  else if l == ['f', 'r'] || l == ['r', 'f'] then some ⟨true, false, true, []⟩
  else none

/-! ## Operators -/

def operators : List String :=
  ["**=", "//=", ">>=", "<<=", "...", "**", "//", ">>", "<<", "<=", ">=", "==", "!=", "->", "+=", "-=",
    "*=", "/=", "%=", "&=", "|=", "^=", "@=", ":=", "(", ")", "[", "]", "\x7b", "\x7d", ":", ",", ";", "+", "-", "*",
    "/", "|", "&", "<", ">", "=", ".", "%", "~", "^", "@"]

def operatorTable : List (List Char × String) := operators.map fun o => (o.toList, o)

def closing? : Char → Option Char
  | '(' => some ')'
  | '[' => some ']'
  | '{' => some '}'
  | _ => none

/-- The open brackets after an operator; `none` if it closes what is not open, or opens more than two hundred. -/
def trackBracket (brackets : List Char) (o : String) : Option (List Char) :=
  match o.toList with
  | [c] =>
    if (closing? c).isSome then if brackets.length ≥ 200 then none else some (c :: brackets)
    else if c == ')' || c == ']' || c == '}' then
      match brackets with
      | b :: bs => if closing? b == some c then some bs else none
      | [] => none
    else some brackets
  | _ => some brackets

/-! ## Lines and indentation -/

/-- Measures the white space at the start of a line: the column with tabs of eight, the column with tabs of one, the
lines passed by backslashes, and the rest. A column reached before a backslash counts for the whole line. -/
def indentation (col alt cont passed : Nat) : List Char → Option (Nat × Nat × Nat × List Char)
  | ' ' :: r => indentation (col + 1) (alt + 1) cont passed r
  | '\t' :: r => indentation ((col / 8 + 1) * 8) (alt + 1) cont passed r
  | '\x0c' :: r => indentation 0 0 cont passed r
  | ['\\', '\n'] => none
  | '\\' :: '\n' :: r => indentation col alt (if cont == 0 then col else cont) (passed + 1) r
  | '\\' :: _ => none
  | cs => some (if cont == 0 then col else cont, if cont == 0 then alt else cont, passed, cs)

def closeBlocks (col : Nat) : List (Nat × Nat) → Option (List (Nat × Nat) × Nat)
  | [] => none
  | (c, a) :: r =>
    if c == col then some ((c, a) :: r, 0)
    else if c < col then none
    else (closeBlocks col r).map fun p => (p.1, p.2 + 1)

/-- Compares the indentation of a line with the open blocks and adds the marks for blocks that open or close. The two
ways to count tabs must agree. -/
def applyIndentation (s : Scan) (col alt : Nat) : Option Scan :=
  match s.indents with
  | [] => none
  | (c, a) :: r =>
    if col == c then if alt == a then some s else none
    else if c < col then
      if s.indents.length ≥ 100 || alt ≤ a then none
      else some { s with indents := (col, alt) :: s.indents, tokens := ⟨.indent, s.line, s.line⟩ :: s.tokens }
    else
      match closeBlocks col ((c, a) :: r) with
      | some ((c', a') :: r', n) =>
        if a' == alt then
          some { s with
            indents := (c', a') :: r'
            tokens := List.replicate n ⟨.dedent, s.line, s.line⟩ ++ s.tokens }
        else none
      | _ => none

def skipComment (cs : List Char) : List Char := cs.dropWhile (· != '\n')

def isName (cs : List Char) : Bool :=
  match cs with
  | [] => false
  | c :: r => Text.isIdentifierStart c && r.all Text.isIdentifierContinue

def readToken (s : Scan) : Option Scan :=
  match s.rest with
  | [] => none
  | c :: r =>
    if c.isAlpha || c == '_' || 128 ≤ c.toNat then
      let (word, rest) := s.rest.span mayContinueName
      let literal := match rest with
        | q :: _ => if q == '"' || q == '\'' then stringKind? word else none
        | [] => none
      match literal with
      | some l =>
        match readQuoted rest with
        | some (body, rest, passed) =>
          some { s with
            rest
            line := s.line + passed
            tokens := ⟨.text { l with body }, s.line, s.line + passed⟩ :: s.tokens }
        | none => none
      | none =>
        if isName word then
          let w := String.ofList word
          let normal := String.ofList (Text.normalForm word)
          some (s.push (if keywords.contains w then .keyword w else .name normal (normal == w)) rest)
        else none
    else if c.isDigit || (c == '.' && r.head?.any Char.isDigit) then
      match readNumber s.rest with
      | some (imaginary, rest) => some (s.push (.number imaginary) rest)
      | none => none
    else if c == '"' || c == '\'' then
      match readQuoted s.rest with
      | some (body, rest, passed) =>
        some { s with
          rest
          line := s.line + passed
          tokens := ⟨.text ⟨false, false, false, body⟩, s.line, s.line + passed⟩ :: s.tokens }
      | none => none
    else
      match operatorTable.find? (fun o => o.1.isPrefixOf s.rest) with
      | some (_, o) =>
        match trackBracket s.brackets o with
        | some brackets => some { s.push (.op o) (s.rest.drop o.length) with brackets }
        | none => none
      | none => none

/-- Reads the rest of a text. `bol` tells that a line begins here, `content` that the current logical line has tokens.
-/
def scan : (fuel : Nat) → (bol content : Bool) → Scan → Option (List Token)
  | 0, _, _, _ => none
  | fuel + 1, bol, content, s =>
    if bol then
      match indentation 0 0 0 0 s.rest with
      | none => none
      | some (col, alt, passed, rest) =>
        let s := { s with rest, line := s.line + passed }
        match rest with
        | '#' :: _ => scan fuel false content { s with rest := skipComment rest }
        | '\n' :: _ => scan fuel false content s
        | _ =>
          if s.brackets.isEmpty then
            match applyIndentation s col alt with
            | some s => scan fuel false false s
            | none => none
          else scan fuel false content s
    else
      match s.rest with
      | [] => if s.brackets.isEmpty then some (⟨.endOfText, s.line, s.line⟩ :: s.tokens).reverse else none
      | '\n' :: r =>
        let next := { s with rest := r, line := s.line + 1 }
        if s.brackets.isEmpty && content then
          scan fuel true false { next with tokens := ⟨.newline, s.line, s.line⟩ :: s.tokens }
        else scan fuel true content next
      | '#' :: _ => scan fuel false content { s with rest := skipComment s.rest }
      | ['\\', '\n'] => none
      | '\\' :: '\n' :: r => scan fuel false content { s with rest := r, line := s.line + 1 }
      | c :: r =>
        if c == ' ' || c == '\t' || c == '\x0c' then scan fuel false content { s with rest := r }
        else
          match readToken s with
          | some s => scan fuel false true s
          | none => none

/-- The tokens of a text; `none` if it cannot be divided into tokens. The text is read from line `line` on, and its last
line need not be ended. -/
def tokenize (line : Nat) (t : List Char) : Option (List Token) :=
  let t := Text.unifyNewlines t
  if t.any (·.toNat == 0) then none
  else
    let t := if t.isEmpty || t.getLast? == some '\n' then t else t ++ ['\n']
    scan (2 * t.length + 2) true false ⟨t, line, [(0, 0)], [], []⟩

end CodeSurvey.Python
