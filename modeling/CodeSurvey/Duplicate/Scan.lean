/-
The search for duplicated code: overlapping windows of lines, compared across files by MinHash signatures. A signature
has for each of a number of hash functions the least hash of a token of the set; two signatures agree in as many places
as the sets are alike.
-/
import CodeSurvey.Basic
import CodeSurvey.Digest
import CodeSurvey.Duplicate.Token
import CodeSurvey.Json.Printer
import Std.Data.HashSet

namespace CodeSurvey.MinHash

section
variable (digest : String → Nat)

def hash (i : Nat) (token : String) : Nat := digest (toString i ++ token)

def hashes (n : Nat) (token : String) : List Nat := (List.range n).map fun i => hash digest i token

/-- The signature of a set of tokens under a digest; all zeros for the empty set. -/
def signatureBy (n : Nat) : List String → List Nat
  | [] => List.replicate n 0
  | t :: r => r.foldl (fun sig t => List.zipWith min sig (hashes digest n t)) (hashes digest n t)

end

def signature (n : Nat) (tokens : List String) : List Nat := signatureBy Digest.Md5.natOfText n tokens

def agreements {α : Type} [BEq α] (a b : List α) : Nat := ((List.zip a b).filter fun p => p.1 == p.2).length

/-- The share of the places in which two signatures agree: zero for signatures of different length, and no answer for
empty ones. -/
def similarity {α : Type} [BEq α] (a b : List α) : Except Fault Float :=
  if a.length != b.length then .ok 0
  else if a.isEmpty then .error .divisionByZero
  else .ok (Decimal.ofShare (agreements a b) a.length)

end CodeSurvey.MinHash

namespace CodeSurvey.Duplicate

structure Options where
  /-- The number of lines of a window, where the language does not fix it. -/
  minBlockSize : Int
  threshold : Float
  minTokens : Int

def Options.standard : Options := ⟨6, 0.8, 50⟩

def hashCount : Nat := 128

structure Block where
  fileId : Json
  path : Option String
  startLine : Int
  endLine : Int
  content : List Char
  tokens : List (List Char)
  digest : String
  lineCount : Nat

def windowSize (o : Options) (language : List Char) : Int :=
  match Dialect.ofLanguage language with
  | .cobol => 10
  | .assembly => 8
  | _ => o.minBlockSize

def windowStep (size : Int) : Nat := (max 1 (size / 2)).toNat

def windowStarts (n : Nat) (size : Int) : List Nat :=
  let room := (n : Int) - size + 1
  (List.range ((room.toNat + windowStep size - 1) / windowStep size)).map (· * windowStep size)

def digestOf (sig : List Nat) : String :=
  Digest.Md5.hexOfText ("[" ++ String.intercalate ", " (sig.map toString) ++ "]")

/-- The window at an offset; `none` if it is blank or has too few tokens. -/
def block? (o : Options) (fileId : Json) (path : Option String) (language : List Char) (ls : List (List Char))
    (start : Nat) :
    Option Block :=
  let size := windowSize o language
  let stop := min (start + size) ls.length
  let window := Text.slice start stop ls
  let content := Text.unlines window
  let toks := tokens (Dialect.ofLanguage language) content
  if Text.isBlankText content || (toks.length : Int) < o.minTokens then none
  else
    let sig := MinHash.signature hashCount (toks.eraseDups.map String.ofList)
    some ⟨fileId, path, start + 1, stop, content, toks, digestOf sig, window.length⟩

def blocks (o : Options) (fileId : Json) (path : Option String) (language content : List Char) : List Block :=
  let ls := Text.lines content
  (windowStarts ls.length (windowSize o language)).filterMap (block? o fileId path language ls)

structure Duplication where
  first : Block
  second : Block
  similarity : Float

namespace Duplication

def duplicateLines (d : Duplication) : Nat := min d.first.lineCount d.second.lineCount

def duplicateTokens (d : Duplication) : Nat := min d.first.tokens.length d.second.tokens.length

def snippet (d : Duplication) : List Char := d.first.content.take 500

end Duplication

/-- What tells a window from others: the text of its file's identifier and its first line. -/
def Block.key (b : Block) : String × Int := (b.fileId.display, b.startLine)

/-- The part of the digest that windows to be compared must share. -/
def Block.bucket (b : Block) : String := String.ofList (b.digest.toList.take 8)

/-- A window with its bucket and the signature of its characters, which is computed when it is first needed. -/
structure Candidate where
  block : Block
  bucket : String
  signature : Thunk (List Nat)

def Candidate.ofBlock (b : Block) : Candidate :=
  ⟨b, b.bucket, Thunk.mk fun _ => MinHash.signature hashCount (b.content.eraseDups.map fun c => String.ofList [c])⟩

def alike (a b : Candidate) : Float :=
  match MinHash.similarity a.signature.get b.signature.get with
  | .ok x => x
  | .error _ => 0

/-- What is known in the course of the comparison: the pairs compared, and those found alike, the latest first. -/
structure Comparison where
  compared : Std.HashSet ((String × Int) × (String × Int))
  found : List Duplication

/-- Compares two windows, unless they are of one file or have been compared before. -/
def comparePair (threshold : Float) (a : Candidate) (s : Comparison) (b : Candidate) : Comparison :=
  let p := a.block.key
  let q := b.block.key
  if a.block.fileId.same b.block.fileId || s.compared.contains (p, q) || s.compared.contains (q, p) then s
  else
    let x := alike a b
    ⟨s.compared.insert (p, q), if threshold ≤ x then ⟨a.block, b.block, x⟩ :: s.found else s.found⟩

/-- The alike windows of different files that share a bucket, the most alike first. -/
def duplications (threshold : Float) (bs : List Block) : List Duplication :=
  let cs := bs.map Candidate.ofBlock
  let s := cs.foldl (fun s a =>
    (cs.filter fun b => b.bucket == a.bucket).foldl (comparePair threshold a) s) (⟨∅, []⟩ : Comparison)
  s.found.reverse.mergeSort fun x y => y.similarity ≤ x.similarity

structure FileEntry where
  id : Option Json
  path : Option (Option String)
  content : List Char
  language : List Char

def FileEntry.spoken (f : FileEntry) : Except Fault (List Char) :=
  if f.language.isEmpty then
    match f.path with
    | none => .error .missingField
    | some none => .error .noText
    | some (some path) => .ok (languageOf path.toList).toList
  else .ok f.language

/-- The windows of a listed file. An empty file has none, and its fields are not looked at. -/
def FileEntry.blocks (o : Options) (f : FileEntry) : Except Fault (List Block) :=
  if f.content.isEmpty then .ok []
  else do
    let language ← f.spoken
    match f.id, f.path with
    | some id, some path => return Duplicate.blocks o id path language f.content
    | _, _ => throw .missingField

def scan (o : Options) (files : List FileEntry) : Except Fault (List Duplication) := do
  return duplications o.threshold (← files.mapM (FileEntry.blocks o)).flatten

end CodeSurvey.Duplicate
