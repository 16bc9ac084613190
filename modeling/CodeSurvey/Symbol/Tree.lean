/-
Symbols of syntax trees that an outside parser supplies, for C, assembly and COBOL. A node has a kind, its range of
bytes and rows in the text, and the name of the place it takes under its parent. A tree whose ranges cut a character in
two has no symbols: `none`.
-/
import CodeSurvey.Symbol.Source
import CodeSurvey.Text.Utf8

namespace CodeSurvey

structure NodeInfo where
  kind : String
  /-- The range of bytes; negative bounds count from the end. -/
  startByte : Int
  endByte : Int
  startRow : Nat
  endRow : Nat
  /-- The name of the node's place under its parent. -/
  field : Option String
  named : Bool
  text : Option String

inductive SyntaxTree where
  | node (info : NodeInfo) (children : List SyntaxTree)

namespace SyntaxTree

instance : Inhabited SyntaxTree := ⟨node ⟨"", 0, 0, 0, 0, none, true, none⟩ []⟩

def info : SyntaxTree → NodeInfo
  | node i _ => i

def children : SyntaxTree → List SyntaxTree
  | node _ cs => cs

def preorder : SyntaxTree → List SyntaxTree
  | node i cs => node i cs :: preorders cs
where
  preorders : List SyntaxTree → List SyntaxTree
    | [] => []
    | t :: r => preorder t ++ preorders r

def childAt? (t : SyntaxTree) (field : String) : Option SyntaxTree :=
  t.children.find? fun c => c.info.field == some field

def bytesIn (source : List UInt8) (t : SyntaxTree) : List UInt8 :=
  Text.slice t.info.startByte t.info.endByte source

/-- The text that the root covers; `none` if its range cuts a character. -/
def textIn? (source : List UInt8) (t : SyntaxTree) : Option (List Char) := Text.Utf8.decode? (t.bytesIn source)

end SyntaxTree

namespace SyntaxTree

def symbolFor (t : SyntaxTree) (name : String) (kind : SymbolKind) (signature : String) : Symbol :=
  ⟨name, kind, signature, t.info.startRow + 1, t.info.endRow + 1⟩

def gather (f : SyntaxTree → Option (Option Symbol)) (t : SyntaxTree) : Option (List Symbol) :=
  (t.preorder.mapM f).map (·.filterMap id)

end SyntaxTree

namespace C

open SyntaxTree

/-- The name inside a declarator: the identifier at the end of the chain of declarators. -/
def declaredName? (source : List UInt8) : SyntaxTree → Option (List Char)
  | .node i cs => if i.kind == "identifier" then textIn? source (.node i cs) else inChildren cs
where
  inChildren : List SyntaxTree → Option (List Char)
    | [] => some "unknown".toList
    | t :: r => if t.info.field == some "declarator" then declaredName? source t else inChildren r

def headLine (t : List Char) : List Char :=
  let first := t.takeWhile (· != '\n')
  if first.length > 100 then first.take 100 ++ "...".toList else first ++ " \x7b...\x7d".toList

def typeSymbol? (word : String) (source : List UInt8) (t : SyntaxTree) : Option (Option Symbol) :=
  match t.childAt? "name" with
  | none => some none
  | some n => do
    let name := String.ofList (← n.textIn? source)
    return some (t.symbolFor name .classType (word ++ " " ++ name))

def nodeSymbol? (source : List UInt8) (t : SyntaxTree) : Option (Option Symbol) :=
  if t.info.kind == "function_definition" then
    match t.childAt? "declarator" with
    | none => some none
    | some d => do
      let name := String.ofList (← declaredName? source d)
      let head := headLine (Text.Utf8.decodeValid (t.bytesIn source))
      return some (t.symbolFor name .function (String.ofList head))
  else if t.info.kind == "struct_specifier" then typeSymbol? "struct" source t
  else if t.info.kind == "enum_specifier" then typeSymbol? "enum" source t
  else some none

def treeSymbols? (source : List UInt8) (t : SyntaxTree) : Option (List Symbol) := t.gather (nodeSymbol? source)

end C

namespace Assembly

def nodeSymbol? (source : List UInt8) (t : SyntaxTree) : Option (Option Symbol) :=
  if t.info.kind == "label" then do
    let name := String.ofList (Text.stripBy (· == ':') (← t.textIn? source))
    return some (t.symbolFor name .function name)
  else some none

def treeSymbols? (source : List Char) (t : SyntaxTree) : Option (List Symbol) :=
  t.gather (nodeSymbol? (Text.Utf8.encode (Text.unifyNewlines source)))

end Assembly

namespace Cobol

open SyntaxTree

def namedSymbol? (source : List UInt8) (t : SyntaxTree) (child : Option SyntaxTree) (kind : SymbolKind)
    (signature : String → String) : Option (Option Symbol) :=
  match child with
  | none => some none
  | some c => do
    let name := String.ofList (Text.strip (← c.textIn? source))
    return some (t.symbolFor name kind (signature name))

def isTopLevel (t : SyntaxTree) : Bool :=
  t.info.kind == "level_number" && (t.info.text.any fun s => Text.strip s.toList == ['0', '1'])

def isItemName (t : SyntaxTree) : Bool := t.info.kind == "data_name" || t.info.kind == "identifier"

/-- The symbol of a data item: of level 01 only, named by the last name among its children. -/
def itemSymbol? (source : List UInt8) (t : SyntaxTree) : Option (Option Symbol) :=
  match t.children.find? isTopLevel, t.children.reverse.find? isItemName with
  | some _, some n => do
    let name := String.ofList (Text.strip (← n.textIn? source))
    let whole := Text.strip (← t.textIn? source)
    return some (t.symbolFor name .variable (String.ofList (whole.take 100)))
  | _, _ => some none

def nodeSymbol? (source : List UInt8) (t : SyntaxTree) : Option (Option Symbol) :=
  let childOf (kind : String) := t.children.find? (·.info.kind == kind)
  if t.info.kind == "program_id" then
    namedSymbol? source t (t.children.find? (·.info.named)) .program ("PROGRAM-ID. " ++ ·)
  else if t.info.kind == "paragraph" then namedSymbol? source t (childOf "paragraph_name") .procedure (· ++ ".")
  else if t.info.kind == "section" then namedSymbol? source t (childOf "section_name") .procedure (· ++ " SECTION.")
  else if t.info.kind == "data_description" then itemSymbol? source t
  else some none

/-- The symbols of the syntax tree of a COBOL source; those of its lines if the tree has none. -/
def treeSymbols (source : List Char) (t : SyntaxTree) : List Symbol :=
  match t.gather (nodeSymbol? (Text.Utf8.encode (Text.unifyNewlines source))) with
  | some (s :: r) => s :: r
  | _ => symbols source

end Cobol

end CodeSurvey
