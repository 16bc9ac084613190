/-
The grammar of Python 3.11 as a parser of tokens. A source that the grammar accepts gives its syntax tree; checks that
need more than the grammar, such as a return outside of a function, are not made. A source is refused if the rules of
the grammar are nested too deeply in it, or if its tree has too many levels.
-/
import CodeSurvey.Basic
import CodeSurvey.Python.StringValue

namespace CodeSurvey.Python

inductive DefinitionSort where
  | function
  | asyncFunction
  | classDef
deriving DecidableEq

structure Parameters where
  /-- Parameters that may be given by position or by name. -/
  plain : List String
  positional : Option String
  named : Option String

structure Definition where
  sort : DefinitionSort
  name : String
  params : Parameters
  /-- The string that opens the body, as written. -/
  doc : Option String
  endLine : Nat

inductive Kind where
  | definition (d : Definition)
  | expressionStatement
  | statement
  | name (s : String)
  | attribute (s : String)
  | subscript
  | starred
  | tuple
  | list
  | call
  | string (s : String)
  | expression
  /-- A part of a statement or an expression: parameters, keyword arguments, clauses, patterns. -/
  | part

inductive Node where
  | mk (kind : Kind) (line : Nat) (children : List Node)

namespace Node

instance : Inhabited Node := ⟨mk .part 0 []⟩

def kind : Node → Kind
  | mk k _ _ => k

def line : Node → Nat
  | mk _ l _ => l

def children : Node → List Node
  | mk _ _ cs => cs

def depth : Node → Nat
  | mk _ _ cs => depths cs + 1
where
  depths : List Node → Nat
    | [] => 0
    | n :: r => max (depth n) (depths r)

/-- The nodes of a level, then those of the levels below it; `fuel` bounds the levels. -/
def levels : (fuel : Nat) → List Node → List Node
  | 0, _ => []
  | fuel + 1, ns => if ns.isEmpty then [] else ns ++ levels fuel (ns.flatMap children)

def walk (n : Node) : List Node := levels n.depth [n]

def definition? (n : Node) : Option Definition :=
  match n.kind with
  | .definition d => some d
  | _ => none

/-- The name under which a call calls: a plain name or the last name of a path. -/
def callee? (n : Node) : Option String :=
  match n.kind, n.children with
  | .call, f :: _ =>
    match f.kind with
    | .name s => some s
    | .attribute s => some s
    | _ => none
  | _, _ => none

end Node

structure ParseState where
  tokens : List Token
  left : Nat
  lastLine : Nat
  /-- How deep the rules of the grammar are nested at this place. -/
  level : Nat := 0
  /-- The number of tokens left at a place where a target may stand, and the level at which the operand there has been
  tried as a target. -/
  target : Nat × Nat := (0, 0)

inductive Stop where
  | mismatch
  | tooDeep

instance : Alternative (Except Stop) where
  failure := .error .mismatch
  orElse a b := match a with
    | .error .mismatch => b ()
    | r => r

abbrev Parser := StateT ParseState (Except Stop)

namespace Parser

def levelLimit : Nat := 6000

/-- Parses by rules that are nested `k` levels deeper. -/
def deeper {α : Type} (k : Nat) (p : Parser α) : Parser α := fun s =>
  let level := s.level + k
  if levelLimit < level then .error .tooDeep
  else
    match p { s with level } with
    | .ok (a, s') => .ok (a, { s' with level := s.level })
    | .error e => .error e

/-- Parses an operand. Where a target may stand, its parts have been read at the level of the target. -/
def operand {α : Type} (p : Parser α) : Parser α := fun s =>
  if s.left == s.target.1 then
    match p { s with level := s.target.2 } with
    | .ok (a, s') => .ok (a, { s' with level := s.level })
    | .error e => .error e
  else p s

/-- Parses what may be a target, the operand of which is `k` levels deeper. -/
def maybeTarget {α : Type} (k : Nat) (p : Parser α) : Parser α := fun s => p { s with target := (s.left, s.level + k) }

def peek : Parser Token := do
  match (← get).tokens with
  | [] => failure
  | t :: _ => pure t

def isMark : TokenKind → Bool
  | .newline | .indent | .dedent | .endOfText => true
  | _ => false

def next : Parser Token := do
  let s ← get
  match s.tokens with
  | [] => failure
  | t :: r =>
    set { s with tokens := r, left := s.left - 1, lastLine := if isMark t.kind then s.lastLine else t.endLine }
    pure t

def line : Parser Nat := return (← peek).line

def atOp (o : String) : Parser Bool := do
  match (← peek).kind with
  | .op p => pure (p == o)
  | _ => pure false

def atKeyword (k : String) : Parser Bool := do
  match (← peek).kind with
  | .keyword p => pure (p == k)
  | _ => pure false

def op (o : String) : Parser Unit := do
  if ← atOp o then discard next else failure

def keyword (k : String) : Parser Unit := do
  if ← atKeyword k then discard next else failure

def tryOp (o : String) : Parser Bool := do
  if ← atOp o then
    discard next
    pure true
  else pure false

def tryKeyword (k : String) : Parser Bool := do
  if ← atKeyword k then
    discard next
    pure true
  else pure false

def name : Parser String := do
  match (← peek).kind with
  | .name s _ =>
    discard next
    pure s
  | _ => failure

/-- Is the next token this name, spelled as it is? -/
def atWord (k : String) : Parser Bool := do
  match (← peek).kind with
  | .name s asWritten => pure (asWritten && s == k)
  | _ => pure false

/-- Takes this name, which is a keyword only in its place. -/
def softKeyword (k : String) : Parser Unit := do
  if ← atWord k then discard next else failure

def newline : Parser Unit := do
  match (← peek).kind with
  | .newline => discard next
  | _ => failure

def notAhead {α : Type} (p : Parser α) : Parser Unit := fun s =>
  match p s with
  | .ok _ => .error .mismatch
  | .error .mismatch => .ok ((), s)
  | .error .tooDeep => .error .tooDeep

def attempt {α : Type} (p : Parser α) : Parser (Option α) := fun s =>
  match p s with
  | .ok (a, s') => .ok (some a, s')
  | .error .mismatch => .ok (none, s)
  | .error .tooDeep => .error .tooDeep

/-- Repeats a parser while it succeeds and takes tokens; `acc` holds the results backwards. -/
def manyFrom {α : Type} (p : Parser α) : (fuel : Nat) → (acc : List α) → Parser (List α)
  | 0, acc, s => .ok (acc.reverse, s)
  | fuel + 1, acc, s =>
    match p s with
    | .error .mismatch => .ok (acc.reverse, s)
    | .error .tooDeep => .error .tooDeep
    | .ok (a, s') => if s'.left < s.left then manyFrom p fuel (a :: acc) s' else .ok (acc.reverse, s)

def many {α : Type} (p : Parser α) : Parser (List α) := fun s => manyFrom p (s.left + 1) [] s

def many1 {α : Type} (p : Parser α) : Parser (List α) := do
  let a ← p
  return a :: (← many p)

/-- One or more, divided by an operator; those behind the first one are `k` levels deeper. -/
def sepBy1 {α : Type} (k : Nat) (p : Parser α) (sep : String) : Parser (List α) := do
  let a ← p
  return a :: (← many (do op sep; deeper k p))

end Parser

open CodeSurvey.Python.Parser

/-! ## Targets -/

def isSingleTarget (n : Node) : Bool :=
  match n.kind with
  | .name _ | .attribute _ | .subscript => true
  | _ => false

/-- May the expression be assigned to? `star` tells whether a star may stand in front here. -/
def isTarget (star : Bool) : Node → Bool
  | .mk kind _ children =>
    match kind with
    | .name _ | .attribute _ | .subscript => true
    | .tuple | .list => allTargets children
    | .starred => star && soleTarget children
    | _ => false
where
  allTargets : List Node → Bool
    | [] => true
    | n :: r => isTarget true n && allTargets r
  soleTarget : List Node → Bool
    | [] => true
    | n :: r => isTarget false n && soleTarget r

def isDeletable : Node → Bool
  | .mk kind _ children =>
    match kind with
    | .name _ | .attribute _ | .subscript => true
    | .tuple | .list => allDeletable children
    | _ => false
where
  allDeletable : List Node → Bool
    | [] => true
    | n :: r => isDeletable n && allDeletable r

def require (b : Bool) : Parser Unit := if b then pure () else failure

/-! ## The rules that call each other -/

/-- The rules of the grammar that are reached again from inside themselves. -/
inductive Rule where
  | expression
  | namedExpression
  | starExpressions
  | yieldExpression
  | inversion
  | factor
  | disjunction
  | bitwiseOr
  | block
  | statement
  | pattern

/-- The parser of each rule one level further down. Single results are lists of one node. -/
abbrev Below := Rule → Parser (List Node)

namespace Below

def sole (p : Parser (List Node)) : Parser Node := do
  match ← p with
  | [n] => pure n
  | _ => failure

variable (g : Below)

def expression : Parser Node := sole (g .expression)

def namedExpression : Parser Node := sole (g .namedExpression)

/-- Expressions divided by commas: a single one stands for itself, several are a tuple. -/
def starExpressions : Parser Node := sole (g .starExpressions)

def yieldExpression : Parser Node := sole (g .yieldExpression)

def pattern : Parser Node := sole (g .pattern)

def yieldOrExpressions : Parser Node := do
  if ← atKeyword "yield" then g.yieldExpression else g.starExpressions

/-! ## Parameters -/

def parameter (annotated : Bool) (star : Bool) : Parser (String × Node) := do
  let l ← line
  let s ← name
  let annotation ←
    if annotated then
      if ← tryOp ":" then
        if star && (← atOp "*") then
          op "*"
          let e ← deeper 4 (sole (g .bitwiseOr))
          pure [Node.mk .starred l [e]]
        else pure [← deeper 3 g.expression]
      else pure []
    else pure []
  return (s, .mk .part l annotation)

def parameterWithDefault (annotated : Bool) : Parser ((String × Node) × Option Node) := do
  let p ← g.parameter annotated false
  if ← tryOp "=" then return (p, some (← deeper 2 g.expression)) else return (p, none)

def defaultsLast : (seen : Bool) → List ((String × Node) × Option Node) → Bool
  | _, [] => true
  | seen, p :: r => if p.2.isSome then defaultsLast true r else !seen && defaultsLast seen r

/-- The parameters of a function: those before a slash, the plain ones, those after a star, and the ones for further
arguments. `close` is the token behind them, and annotations are for definitions only. -/
def parameters (annotated : Bool) (close : String) : Parser (Parameters × Node) := do
  let l ← line
  let comma : Parser Unit := do if ← atOp close then pure () else op ","
  let item := deeper 4 do
    let p ← g.parameterWithDefault annotated
    comma
    pure p
  let first ← many item
  let slash ← if first.isEmpty then pure false else tryOp "/"
  if slash then comma
  let second ← if slash then many item else pure []
  require (defaultsLast false (first ++ second))
  let (onlyPositional, plain) := if slash then (first, second) else ([], first)
  let star ← tryOp "*"
  let (further, onlyNamed) ←
    if star then
      if ← tryOp "," then
        let named ← many1 item
        pure (none, named)
      else
        let p ← deeper 3 (g.parameter annotated true)
        comma
        let named ← many item
        pure (some p, named)
    else pure (none, [])
  let rest ←
    if ← tryOp "**" then
      let p ← deeper 4 (g.parameter annotated false)
      if ← tryOp "," then require (← atOp close)
      pure (some p)
    else pure none
  require (← atOp close)
  let nodes (l : List ((String × Node) × Option Node)) := l.map (·.1.2)
  let defaults (l : List ((String × Node) × Option Node)) := l.filterMap (·.2)
  let children :=
    nodes onlyPositional ++ nodes plain ++ (further.map (·.2)).toList ++ nodes onlyNamed ++ defaults onlyNamed ++
    (rest.map (·.2)).toList ++ defaults (onlyPositional ++ plain)
  return (⟨plain.map (·.1.1), further.map (·.1), rest.map (·.1)⟩, .mk .part l children)

/-! ## Atoms -/

/-- A list of items that may end with a comma, up to a closing token; tells whether there was a comma. The items behind
the first one are `k` levels deeper. -/
def commaList {α : Type} (k : Nat) (item : Parser α) : Parser (List α × Bool) := do
  let a ← item
  let r ← many (do op ","; deeper k item)
  let trailing ← tryOp ","
  return (a :: r, trailing || !r.isEmpty)

def starNamed : Parser Node := deeper 1 do
  let l ← line
  if ← tryOp "*" then return .mk .starred l [← sole (g .bitwiseOr)] else g.namedExpression

def starTarget : Parser Node := do
  let l ← line
  if ← tryOp "*" then return .mk .starred l [← deeper 2 (maybeTarget 4 (sole (g .bitwiseOr)))]
  else maybeTarget 4 (sole (g .bitwiseOr))

def targets : Parser Node := do
  let l ← line
  let (ts, isTuple) ← deeper 1 (commaList 2 g.starTarget)
  let t := match ts, isTuple with
    | [t], false => t
    | _, _ => Node.mk .tuple l ts
  require (isTarget true t)
  return t

def clauses : Parser (List Node) :=
  deeper 3 <| many1 do
    let l ← line
    discard (tryKeyword "async")
    keyword "for"
    let t ← g.targets
    keyword "in"
    let source ← sole (g .disjunction)
    let conditions ← many (do keyword "if"; deeper 2 (sole (g .disjunction)))
    return .mk .part l (t :: source :: conditions)

def atClauses : Parser Bool := do return (← atKeyword "for") || (← atKeyword "async")

def parenthesized (l : Nat) : Parser Node := do
  op "("
  if ← tryOp ")" then return .mk .tuple l []
  if ← atKeyword "yield" then
    let y ← deeper 3 g.yieldExpression
    op ")"
    return y
  let first ← deeper 3 g.starNamed
  let starred := match first.kind with
    | .starred => true
    | _ => false
  if !starred && (← atClauses) then
    let cs ← deeper 2 g.clauses
    op ")"
    return .mk .expression l (first :: cs)
  if ← tryOp "," then
    let more ← if ← atOp ")" then pure [] else pure (← deeper 5 (commaList 1 g.starNamed)).1
    op ")"
    return .mk .tuple l (first :: more)
  require !starred
  op ")"
  return first

def bracketed (l : Nat) : Parser Node := do
  op "["
  if ← tryOp "]" then return .mk .list l []
  let first ← deeper 4 g.starNamed
  let starred := match first.kind with
    | .starred => true
    | _ => false
  if !starred && (← atClauses) then
    let cs ← deeper 2 g.clauses
    op "]"
    return .mk .expression l (first :: cs)
  let more ← many (do op ","; deeper 5 g.starNamed)
  discard (tryOp ",")
  op "]"
  return .mk .list l (first :: more)

def atNaming : Parser Bool := do
  match (← get).tokens with
  | a :: b :: _ =>
    match a.kind, b.kind with
    | .name _ _, .op o => pure (o == ":=")
    | _, _ => pure false
  | _ => pure false

def entry : Parser (List Node × Node) := do
  if ← tryOp "**" then return ([], ← sole (g .bitwiseOr))
  let k ← deeper 1 g.expression
  op ":"
  return ([k], ← deeper 1 g.expression)

def dictionaryRest (l : Nat) (first : List Node × Node) : Parser Node := do
  if (← atClauses) && !first.1.isEmpty then
    let cs ← deeper 2 g.clauses
    op "\x7d"
    return .mk .expression l (first.1 ++ [first.2] ++ cs)
  let more ← many (do op ","; deeper 6 g.entry)
  discard (tryOp ",")
  op "\x7d"
  let all := first :: more
  return .mk .expression l (all.flatMap (·.1) ++ all.map (·.2))

def setRest (l : Nat) (first : Node) : Parser Node := do
  let starred := match first.kind with
    | .starred => true
    | _ => false
  if !starred && (← atClauses) then
    let cs ← deeper 2 g.clauses
    op "\x7d"
    return .mk .expression l (first :: cs)
  let more ← many (do op ","; deeper 5 g.starNamed)
  discard (tryOp ",")
  op "\x7d"
  return .mk .expression l (first :: more)

def braced (l : Nat) : Parser Node := do
  op "\x7b"
  if ← tryOp "\x7d" then return .mk .expression l []
  if ← atOp "**" then g.dictionaryRest l (← deeper 5 g.entry)
  else if (← atOp "*") || (← atNaming) then g.setRest l (← deeper 4 g.starNamed)
  else
    let e ← deeper 6 g.expression
    if ← tryOp ":" then g.dictionaryRest l ([e], ← deeper 6 g.expression) else g.setRest l e

/-! ## Strings -/

/-- Parses the text of a replacement field, which is read as if in round brackets. -/
def fieldExpression (text : List Char) (l : Nat) : Except Stop Node :=
  if text.all fun c => c == ' ' || c == '\t' || c == '\n' || c == '\x0c' then failure
  else match tokenize l (['('] ++ text ++ [')']) with
    | none => failure
    | some ts => (deeper 1 g.starExpressions { tokens := ts, left := ts.length, lastLine := l }).map (·.1)

def pieceNodes (isRaw : Bool) (l : Nat) : List Piece → Except Stop (List Node)
  | [] => pure []
  | .text t :: r => do
    if !isRaw && (unescape false (t.length + 1) [] t).isNone then failure
    return .mk .expression l [] :: (← pieceNodes isRaw l r)
  | .field e offset format :: r => do
    let value ← g.fieldExpression e (l + offset)
    let inner ← pieceNodes isRaw l format
    let children := if format.isEmpty then [value] else [value, .mk .expression l inner]
    return .mk .expression l children :: (← pieceNodes isRaw l r)

/-- Adjacent string literals are one value: text, bytes, or a formatted string. -/
def strings : Parser Node := do
  let l ← line
  let parts ← many1 do
    let t ← peek
    match t.kind with
    | .text s =>
      discard next
      pure (s, t.line)
    | _ => failure
  require (parts.all (·.1.isBytes) || parts.all (!·.1.isBytes))
  if parts.any (·.1.isFormatted) then
    let nodes ← parts.mapM fun (s, l) => do
      if s.isFormatted then
        match piecesOf s with
        | none => failure
        | some ps =>
          g.pieceNodes s.isRaw l ps
      else
        match bodyValue s with
        | none => failure
        | some _ => pure [Node.mk .expression l []]
    return .mk .expression l nodes.flatten
  else
    let values ← parts.mapM fun (s, _) =>
      match bodyValue s with
      | none => failure
      | some v => pure v
    if parts.any (·.1.isBytes) then return .mk .expression l []
    else return .mk (.string (String.ofList values.flatten)) l []

def atom : Parser Node := deeper 1 do
  let t ← peek
  match t.kind with
  | .name s _ =>
    discard next
    return .mk (.name s) t.line []
  | .keyword k =>
    if k == "True" || k == "False" || k == "None" then
      discard next
      return .mk .expression t.line []
    else failure
  | .number _ =>
    discard next
    return .mk .expression t.line []
  | .text _ => g.strings
  | .op "(" => g.parenthesized t.line
  | .op "[" => g.bracketed t.line
  | .op "..." =>
    discard next
    return .mk .expression t.line []
  | .op o => if o == "\x7b" then g.braced t.line else failure
  | _ => failure

/-! ## Calls, subscripts and attributes -/

inductive Argument where
  | positional (n : Node)
  | starred (n : Node)
  | named (n : Node)
  | doubleStarred (n : Node)

/-- One argument at `k` levels; `positional` is the level of one given by position. -/
def argument (k positional : Nat) : Parser Argument := do
  let l ← line
  if ← tryOp "*" then return .starred (.mk .starred l [← deeper (k + 1) g.expression])
  if ← tryOp "**" then return .doubleStarred (.mk .part l [← deeper (k + 1) g.expression])
  let named : Parser Node := do
    discard name
    op "="
    return .mk .part l [← deeper (k + 1) g.expression]
  match ← attempt named with
  | some n => return .named n
  | none =>
    let e ← deeper positional g.namedExpression
    if ← atOp "=" then failure
    return .positional e

/-- Are the arguments in an order that is allowed? Nothing positional comes behind named arguments, and no star behind
double stars. `stage` is 0 at first, 1 behind a named argument, 2 behind double stars. -/
def argumentsInOrder : (stage : Nat) → List Argument → Bool
  | _, [] => true
  | stage, .positional _ :: r => stage == 0 && argumentsInOrder 0 r
  | stage, .starred _ :: r => stage < 2 && argumentsInOrder stage r
  | stage, .named _ :: r => argumentsInOrder (max stage 1) r
  | _, .doubleStarred _ :: r => argumentsInOrder 2 r

/-- The arguments in round brackets after a called expression or a class name: those by position, then those by name. A
single generator needs no brackets of its own in a call, so the first argument is tried as that of a generator. -/
def callArguments (generator : Bool) : Parser (List Node) := do
  op "("
  if ← tryOp ")" then return []
  let l ← line
  let first ← g.argument 4 (if generator then 1 else 4)
  match first with
  | .positional e =>
    if generator && (← atClauses) then
      let cs ← deeper 1 g.clauses
      op ")"
      return [.mk .expression l (e :: cs)]
  | _ => pure ()
  let more ← many (do op ","; g.argument 5 5)
  discard (tryOp ",")
  op ")"
  let args := first :: more
  require (argumentsInOrder 0 args)
  let byPosition := args.filterMap fun
    | .positional n | .starred n => some n
    | _ => none
  let byName := args.filterMap fun
    | .named n | .doubleStarred n => some n
    | _ => none
  return byPosition ++ byName

def sliceItem : Parser Node := do
  let l ← line
  let bound : Parser (List Node) := do
    if (← atOp ":") || (← atOp ",") || (← atOp "]") then pure [] else return [← g.expression]
  if ← tryOp "*" then return .mk .starred l [← g.expression]
  if ← atNaming then g.namedExpression
  else
    let lower ← bound
    if ← tryOp ":" then
      let upper ← bound
      let step ← if ← tryOp ":" then deeper 1 bound else pure []
      return .mk .expression l (lower ++ upper ++ step)
    else
      match lower with
      | [e] => return e
      | _ => failure

def slices : Parser Node := do
  let l ← line
  let (items, isTuple) ← deeper 2 (commaList 3 g.sliceItem)
  match items, isTuple with
  | [n], false =>
    match n.kind with
    | .starred => return .mk .tuple l [n]
    | _ => return n
  | _, _ => return .mk .tuple l items

inductive Trailer where
  | attribute (s : String)
  | arguments (ns : List Node)
  | subscript (n : Node)

def trailer : Parser Trailer := do
  if ← tryOp "." then return .attribute (← name)
  if ← atOp "(" then return .arguments (← g.callArguments true)
  op "["
  let s ← g.slices
  op "]"
  return .subscript s

def primary : Parser Node := deeper 2 <| operand do
  let l ← line
  let a ← g.atom
  let ts ← many g.trailer
  return ts.foldl (fun n t => match t with
    | .attribute s => .mk (.attribute s) l [n]
    | .arguments ns => .mk .call l (n :: ns)
    | .subscript s => .mk .subscript l [n, s]) a

def awaited : Parser Node := deeper 2 do
  let l ← line
  if ← tryKeyword "await" then return .mk .expression l [← g.primary] else g.primary

/-! ## Operators -/

def factor : Parser Node := deeper 1 do
  let l ← line
  if (← atOp "+") || (← atOp "-") || (← atOp "~") then
    discard next
    return .mk .expression l [← sole (g .factor)]
  let base ← g.awaited
  if ← tryOp "**" then return .mk .expression l [base, ← deeper 1 (sole (g .factor))] else return base

def leftChain (operand : Parser Node) (ops : List String) : Parser Node := deeper 2 do
  let l ← line
  let first ← operand
  let rest ← many do
    match (← peek).kind with
    | .op o => if ops.contains o then discard next else failure
    | _ => failure
    operand
  return rest.foldl (fun a b => .mk .expression l [a, b]) first

def term : Parser Node := leftChain g.factor ["*", "/", "//", "%", "@"]

def sum : Parser Node := leftChain g.term ["+", "-"]

def shift : Parser Node := leftChain g.sum ["<<", ">>"]

def bitwiseAnd : Parser Node := leftChain g.shift ["&"]

def bitwiseXor : Parser Node := leftChain g.bitwiseAnd ["^"]

def bitwiseOr : Parser Node := leftChain g.bitwiseXor ["|"]

def comparisonOperator : Parser Unit := do
  match (← peek).kind with
  | .op o => if ["==", "!=", "<=", "<", ">=", ">"].contains o then discard next else failure
  | .keyword "in" => discard next
  | .keyword "not" =>
    discard next
    keyword "in"
  | .keyword "is" =>
    discard next
    discard (tryKeyword "not")
  | _ => failure

def comparison : Parser Node := deeper 1 do
  let l ← line
  let first ← g.bitwiseOr
  let rest ← many (do comparisonOperator; deeper 3 g.bitwiseOr)
  return if rest.isEmpty then first else .mk .expression l (first :: rest)

def inversion : Parser Node := deeper 1 do
  let l ← line
  if ← tryKeyword "not" then return .mk .expression l [← sole (g .inversion)] else g.comparison

def booleanChain (operand : Parser Node) (k : String) : Parser Node := deeper 1 do
  let l ← line
  let first ← operand
  let rest ← many (do keyword k; deeper 2 operand)
  return if rest.isEmpty then first else .mk .expression l (first :: rest)

def conjunction : Parser Node := booleanChain g.inversion "and"

def disjunction : Parser Node := booleanChain g.conjunction "or"

def lambda (l : Nat) : Parser Node := deeper 1 do
  keyword "lambda"
  let (_, params) ← g.parameters false ":"
  op ":"
  return .mk .expression l [params, ← g.expression]

def fullExpression : Parser Node := deeper 1 do
  let l ← line
  if ← atKeyword "lambda" then g.lambda l
  else
    let a ← g.disjunction
    if ← tryKeyword "if" then
      let test ← g.disjunction
      keyword "else"
      return .mk .expression l [test, a, ← g.expression]
    else return a

def fullNamedExpression : Parser Node := deeper 1 do
  let l ← line
  let naming : Parser String := do
    let s ← name
    op ":="
    pure s
  match ← attempt naming with
  | some s => return .mk .expression l [.mk (.name s) l [], ← deeper 1 g.expression]
  | none =>
    let e ← g.fullExpression
    notAhead (op ":=")
    return e

def fullStarExpressions : Parser Node := deeper 1 do
  let l ← line
  let item : Parser Node := deeper 1 do
    let l ← line
    if ← tryOp "*" then return .mk .starred l [← g.bitwiseOr] else g.fullExpression
  let (es, isTuple) ← commaList 2 item
  match es, isTuple with
  | [e], false => return e
  | _, _ => return .mk .tuple l es

def fullYield : Parser Node := deeper 1 do
  let l ← line
  keyword "yield"
  if ← tryKeyword "from" then return .mk .expression l [← g.expression]
  return .mk .expression l (← attempt g.starExpressions).toList

/-! ## Simple statements -/

def augmented : List String :=
  ["+=", "-=", "*=", "@=", "/=", "%=", "&=", "|=", "^=", "<<=", ">>=", "**=", "//="]

/-- A statement that begins with an expression: an assignment of one of four kinds, or the expression alone. -/
def assignment : Parser Node := do
  let l ← line
  let first ← maybeTarget 5 g.starExpressions
  let augmenting ← match (← peek).kind with
    | .op o => pure (augmented.contains o)
    | _ => pure false
  if augmenting then
    require (isSingleTarget first)
    discard next
    return .mk .statement l [first, ← deeper 2 g.yieldOrExpressions]
  if ← atOp ":" then
    require (isSingleTarget first)
    op ":"
    let annotation ← deeper 1 g.expression
    let value ← if ← tryOp "=" then pure [← deeper 3 g.yieldOrExpressions] else pure []
    return .mk .statement l (first :: annotation :: value)
  let more ← many (do op "="; maybeTarget 8 (deeper 2 g.yieldOrExpressions))
  if more.isEmpty then return .mk .expressionStatement l [first]
  let targets := (first :: more).dropLast
  require (targets.all (isTarget true))
  return .mk .statement l (first :: more)

def dottedName : Parser Unit := discard (sepBy1 0 name ".")

def asName : Parser Unit := do
  if ← tryKeyword "as" then discard name

def importedNames : Parser Unit := do
  let one : Parser Unit := do
    discard name
    asName
  if ← tryOp "*" then pure ()
  else if ← tryOp "(" then
    discard (commaList 0 one)
    op ")"
  else
    discard (sepBy1 0 one ",")
    notAhead (op ",")

def importStatement (l : Nat) : Parser Node := do
  if ← tryKeyword "import" then
    discard (sepBy1 0 (do dottedName; asName) ",")
    return .mk .statement l []
  keyword "from"
  let dots ← many (op "." <|> op "...")
  if dots.isEmpty then dottedName else discard (attempt dottedName)
  keyword "import"
  importedNames
  return .mk .statement l []

def simpleStatement : Parser Node := do
  let l ← line
  match (← peek).kind with
  | .keyword k =>
    match k with
    | "return" =>
      discard next
      return .mk .statement l (← attempt (deeper 1 g.starExpressions)).toList
    | "import" | "from" => importStatement l
    | "raise" =>
      discard next
      match ← attempt (deeper 1 g.expression) with
      | none => return .mk .statement l []
      | some e =>
        if ← tryKeyword "from" then return .mk .statement l [e, ← deeper 2 g.expression] else
          return .mk .statement l [e]
    | "pass" | "break" | "continue" =>
      discard next
      return .mk .statement l []
    | "del" =>
      discard next
      let (ts, _) ← commaList 1 (maybeTarget 6 (sole (g .bitwiseOr)))
      require (ts.all isDeletable)
      return .mk .statement l ts
    | "yield" => return .mk .expressionStatement l [← deeper 1 g.yieldExpression]
    | "assert" =>
      discard next
      let e ← deeper 1 g.expression
      if ← tryOp "," then return .mk .statement l [e, ← deeper 2 g.expression] else return .mk .statement l [e]
    | "global" | "nonlocal" =>
      discard next
      discard (sepBy1 0 name ",")
      return .mk .statement l []
    | _ => g.assignment
  | _ => g.assignment

def simpleStatements : Parser (List Node) := deeper 2 do
  let first ← g.simpleStatement
  let more ← many (do op ";"; deeper 2 g.simpleStatement)
  discard (tryOp ";")
  newline
  return first :: more

/-! ## Compound statements -/

def fullBlock : Parser (List Node) := deeper 1 do
  match (← peek).kind with
  | .newline =>
    discard next
    match (← next).kind with
    | .indent =>
      let body ← deeper 2 (many1 (g .statement))
      match (← next).kind with
      | .dedent => return body.flatten
      | _ => failure
    | _ => failure
  | _ => g.simpleStatements

def suite : Parser (List Node) := do
  op ":"
  g .block

def docOf (body : List Node) : Option String :=
  match body with
  | first :: _ =>
    match first.kind, first.children with
    | .expressionStatement, [e] =>
      match e.kind with
      | .string s => some s
      | _ => none
    | _, _ => none
  | [] => none

def functionDefinition (decorators : List Node) : Parser Node := deeper 3 do
  let l ← line
  let isAsync ← tryKeyword "async"
  keyword "def"
  let s ← name
  op "("
  let (params, node) ← g.parameters true ")"
  op ")"
  let result ← if ← tryOp "->" then pure [← deeper 1 g.expression] else pure []
  let body ← g.suite
  let endLine := (← get).lastLine
  return .mk (.definition ⟨if isAsync then .asyncFunction else .function, s, params, docOf body, endLine⟩) l
    (node :: body ++ decorators ++ result)

def classDefinition (decorators : List Node) : Parser Node := deeper 3 do
  let l ← line
  keyword "class"
  let s ← name
  let bases ← if ← atOp "(" then deeper 1 (g.callArguments false) else pure []
  let body ← g.suite
  let endLine := (← get).lastLine
  return .mk (.definition ⟨.classDef, s, ⟨[], none, none⟩, docOf body, endLine⟩) l (bases ++ body ++ decorators)

def decorated : Parser Node := do
  let ds ← many1 do
    op "@"
    let e ← deeper 5 g.namedExpression
    newline
    pure e
  if ← atKeyword "class" then g.classDefinition ds else g.functionDefinition ds

def optionalBlock (k : String) : Parser (List Node) := do
  if ← tryKeyword k then deeper 1 g.suite else pure []

/-- A conditional statement from the condition on; further conditions are nested in the last part. -/
def conditional : Parser Node := do
  let l ← line
  let test ← g.namedExpression
  let body ← g.suite
  let entered := (← get).level
  let others ← many do
    let l ← line
    keyword "elif"
    modify fun s => { s with level := s.level + 1 }
    let test ← g.namedExpression
    return (l, test, ← g.suite)
  let otherwise ← g.optionalBlock "else"
  modify fun s => { s with level := entered }
  let nested := others.foldr (fun (l, test, body) rest => [Node.mk .statement l (test :: body ++ rest)]) otherwise
  return .mk .statement l (test :: body ++ nested)

def withItem : Parser Node := deeper 2 do
  let l ← line
  let e ← g.expression
  if ← tryKeyword "as" then
    let t ← g.starTarget
    require (isTarget true t)
    require ((← atOp ",") || (← atOp ")") || (← atOp ":"))
    return .mk .part l [e, t]
  else return .mk .part l [e]

def withStatement (l : Nat) : Parser Node := do
  let inBrackets : Parser (List Node) := do
    op "("
    let (is, _) ← commaList 1 g.withItem
    op ")"
    require (← atOp ":")
    return is
  let is ← inBrackets <|> sepBy1 1 g.withItem ","
  return .mk .statement l (is ++ (← g.suite))

def forStatement (l : Nat) : Parser Node := do
  let t ← g.targets
  keyword "in"
  let e ← g.starExpressions
  let body ← g.suite
  return .mk .statement l (t :: e :: body ++ (← g.optionalBlock "else"))

def whileStatement (l : Nat) : Parser Node := do
  let test ← g.namedExpression
  let body ← g.suite
  return .mk .statement l (test :: body ++ (← g.optionalBlock "else"))

def handler (star : Bool) : Parser Node := deeper 2 do
  let l ← line
  keyword "except"
  if star then op "*"
  let caught ←
    if !star && (← atOp ":") then pure []
    else
      let e ← g.expression
      asName
      pure [e]
  return .mk .part l (caught ++ (← g.suite))

def tryStatement (l : Nat) : Parser Node := do
  let body ← g.suite
  if ← tryKeyword "finally" then return .mk .statement l (body ++ (← deeper 1 g.suite))
  let handlers ← many1 (g.handler false) <|> many1 (g.handler true)
  let otherwise ← g.optionalBlock "else"
  let finally' ← g.optionalBlock "finally"
  notAhead (keyword "except")
  return .mk .statement l (body ++ handlers ++ otherwise ++ finally')

/-! ## Patterns -/

/-- A number that may have a sign, as a pattern allows it: a real part and an imaginary part. -/
def patternNumber : Parser Node := do
  let l ← line
  let signed : Parser Bool := do
    discard (tryOp "-")
    match (← next).kind with
    | .number i => pure i
    | _ => failure
  let i ← signed
  if (← atOp "+") || (← atOp "-") then
    require !i
    discard next
    match (← next).kind with
    | .number j => require j
    | _ => failure
    return .mk .expression l [.mk .expression l [], .mk .expression l []]
  return .mk .expression l []

def namePath : Parser (Node × Bool) := do
  let l ← line
  let s ← name
  let rest ← many (do op "."; name)
  return (rest.foldl (fun n s => .mk (.attribute s) l [n]) (.mk (.name s) l []), !rest.isEmpty)

def mappingKey : Parser Node := do
  let l ← line
  match (← peek).kind with
  | .number _ | .op "-" => patternNumber
  | .text _ => g.strings
  | .keyword k =>
    if k == "None" || k == "True" || k == "False" then
      discard next
      return .mk .expression l []
    else failure
  | _ =>
    let (n, dotted) ← namePath
    require dotted
    return n

def mappingItem : Parser (List Node × List Node × Bool) := do
  if ← tryOp "**" then
    let s ← name
    require (s != "_")
    return ([], [], true)
  let k ← g.mappingKey
  op ":"
  return ([k], [← g.pattern], false)

inductive PatternPlace where
  | byPosition
  /-- By name; `isWildcard` tells that the name is a plain underscore. -/
  | byName (isWildcard : Bool)

def classPatternItem : Parser (PatternPlace × Node) := do
  let named : Parser (PatternPlace × Node) := do
    let isWildcard ← atWord "_"
    discard name
    op "="
    return (.byName isWildcard, ← g.pattern)
  match ← attempt named with
  | some n => return n
  | none => return (.byPosition, ← g.pattern)

/-- Is nothing by position behind something by name? Behind a pattern by position an underscore is taken for a pattern
too. -/
def namedLast : List PatternPlace → Bool
  | [] => true
  | .byName _ :: r => r.all fun
    | .byName _ => true
    | .byPosition => false
  | .byPosition :: .byName true :: _ => false
  | .byPosition :: r => namedLast r

def maybeStarPattern : Parser Node := do
  let l ← line
  if ← tryOp "*" then
    discard name
    return .mk .part l []
  else g.pattern

def closedPattern : Parser Node := do
  let l ← line
  match (← peek).kind with
  | .number _ | .op "-" => return .mk .part l [← patternNumber]
  | .text _ => return .mk .part l [← g.strings]
  | .keyword k =>
    if k == "None" || k == "True" || k == "False" then
      discard next
      return .mk .part l []
    else failure
  | .op "[" =>
    discard next
    if ← tryOp "]" then return .mk .part l []
    let (ps, _) ← commaList 1 g.maybeStarPattern
    op "]"
    return .mk .part l ps
  | .op "(" =>
    discard next
    if ← tryOp ")" then return .mk .part l []
    let starred ← atOp "*"
    let (ps, isTuple) ← commaList 1 g.maybeStarPattern
    op ")"
    match ps, isTuple with
    | [p], false =>
      require !starred
      return p
    | _, _ => return .mk .part l ps
  | .op o =>
    require (o == "\x7b")
    discard next
    if ← tryOp "\x7d" then return .mk .part l []
    let (is, _) ← commaList 1 g.mappingItem
    op "\x7d"
    require (is.dropLast.all (!·.2.2))
    return .mk .part l (is.flatMap (·.1) ++ is.flatMap (·.2.1))
  | .name "_" true =>
    discard next
    return .mk .part l []
  | _ =>
    let (n, dotted) ← namePath
    if ← tryOp "(" then
      if ← tryOp ")" then return .mk .part l [n]
      let (ps, _) ← commaList 1 g.classPatternItem
      op ")"
      require (namedLast (ps.map (·.1)))
      return .mk .part l (n :: ps.map (·.2))
    else if dotted then return .mk .part l [n]
    else
      notAhead (op "=")
      return .mk .part l []

def fullPattern : Parser Node := do
  let l ← line
  let ps ← sepBy1 1 g.closedPattern "|"
  let p := match ps with
    | [p] => p
    | _ => .mk .part l ps
  if ← tryKeyword "as" then
    let s ← name
    require (s != "_")
    return .mk .part l [p]
  else return p

def casePatterns : Parser Node := do
  let l ← line
  let starred ← atOp "*"
  let (ps, isTuple) ← commaList 1 g.maybeStarPattern
  match ps, isTuple with
  | [p], false =>
    require !starred
    return p
  | _, _ => return .mk .part l ps

def caseBlock : Parser Node := deeper 2 do
  let l ← line
  softKeyword "case"
  let p ← g.casePatterns
  let guarded ← if ← tryKeyword "if" then pure [← deeper 1 g.namedExpression] else pure []
  return .mk .part l (p :: guarded ++ (← g.suite))

def matchStatement : Parser Node := deeper 2 do
  let l ← line
  softKeyword "match"
  let subject ← do
    let l ← line
    let first ← deeper 1 g.starNamed
    let starred := match first.kind with
      | .starred => true
      | _ => false
    if ← tryOp "," then
      let more ← if ← atOp ":" then pure [] else pure (← deeper 3 (commaList 1 g.starNamed)).1
      pure (Node.mk .tuple l (first :: more))
    else
      require !starred
      pure first
  op ":"
  newline
  match (← next).kind with
  | .indent =>
    let cases ← many1 g.caseBlock
    match (← next).kind with
    | .dedent => return .mk .statement l (subject :: cases)
    | _ => failure
  | _ => failure

def fullStatement : Parser (List Node) := deeper 1 do
  let l ← line
  match (← peek).kind with
  | .keyword k =>
    match k with
    | "def" => return [← g.functionDefinition []]
    | "class" => return [← g.classDefinition []]
    | "async" =>
      let asyncLoop : Parser Node := do
        keyword "async"
        if ← tryKeyword "for" then g.forStatement l
        else
          keyword "with"
          g.withStatement l
      return [← g.functionDefinition [] <|> deeper 2 asyncLoop]
    | "if" =>
      discard next
      let n ← deeper 2 g.conditional
      return [.mk n.kind l n.children]
    | "with" =>
      discard next
      return [← deeper 2 (g.withStatement l)]
    | "for" =>
      discard next
      return [← deeper 2 (g.forStatement l)]
    | "try" =>
      discard next
      return [← deeper 2 (g.tryStatement l)]
    | "while" =>
      discard next
      return [← deeper 2 (g.whileStatement l)]
    | _ => g.simpleStatements
  | .op "@" => return [← g.decorated]
  | .name "match" true => (do return [← g.matchStatement]) <|> g.simpleStatements
  | _ => g.simpleStatements

end Below

def ruleOver (g : Below) : Rule → Parser (List Node)
  | .expression => return [← g.fullExpression]
  | .namedExpression => return [← g.fullNamedExpression]
  | .starExpressions => return [← g.fullStarExpressions]
  | .yieldExpression => return [← g.fullYield]
  | .inversion => return [← g.inversion]
  | .factor => return [← g.factor]
  | .disjunction => return [← g.disjunction]
  | .bitwiseOr => return [← g.bitwiseOr]
  | .block => g.fullBlock
  | .statement => g.fullStatement
  | .pattern => return [← g.fullPattern]

def rules : (fuel : Nat) → Below
  | 0 => fun _ => failure
  | fuel + 1 => fun r s => ruleOver (rules fuel) r s

def file (g : Below) : Parser (List Node) := do
  let body ← deeper 3 (many (g .statement))
  match (← peek).kind with
  | .endOfText => pure body.flatten
  | _ => failure

inductive Obstacle where
  | noProgram
  | tooManyLevels
  | nestedTooDeeply

/-- The outcome of an analysis at an obstacle. A text that is no program has the result `a`. -/
def Obstacle.orElse {α : Type} (a : α) : Obstacle → Except Fault α
  | .noProgram => .ok a
  | .tooManyLevels => .error .tooManyLevels
  | .nestedTooDeeply => .error .nestedTooDeeply

def depthLimit : Nat := 2979

/-- The syntax tree of a source text. No rule is nested deeper than there are characters, and eight levels lie between
one bracket and the next. -/
def parse (t : List Char) : Except Obstacle Node :=
  match tokenize 1 t with
  | none => .error .noProgram
  | some ts =>
    match (file (rules (8 * t.length + 8))) { tokens := ts, left := ts.length, lastLine := 1 } with
    | .error .mismatch => .error .noProgram
    | .error .tooDeep => .error .nestedTooDeeply
    | .ok (body, _) =>
      let tree := Node.mk .part 0 body
      if depthLimit < tree.depth then .error .tooManyLevels else .ok tree

end CodeSurvey.Python
