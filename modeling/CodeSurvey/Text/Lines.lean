/-
Lines of a text. Two notions are in use: lines ended by a line feed alone, and lines ended by any line boundary of
Unicode.
-/

namespace CodeSurvey.Text

/-- Puts a character in front of the first piece, or starts a new piece at a separator. -/
def splitStep (sep : Char) (c : Char) : List (List Char) → List (List Char)
  | [] => if c == sep then [[], []] else [[c]]
  | l :: ls => if c == sep then [] :: l :: ls else (c :: l) :: ls

/-- The pieces of a text between the separators. There is always at least one piece. -/
def splitOnChar (sep : Char) (t : List Char) : List (List Char) := t.foldr (splitStep sep) [[]]

/-- The lines of a text, each ended by a line feed: an empty text has one empty line. -/
def lines (t : List Char) : List (List Char) := splitOnChar '\n' t

def joinWith (sep : List Char) (ls : List (List Char)) : List Char := sep.intercalate ls

def unlines (ls : List (List Char)) : List Char := joinWith ['\n'] ls

/-- The characters that end a line on their own. A carriage return before a line feed ends it together with that. -/
def isLineBoundary (c : Char) : Bool :=
  let n := c.toNat
  (0x0a ≤ n && n ≤ 0x0d) || (0x1c ≤ n && n ≤ 0x1e) || n == 0x85 || n == 0x2028 || n == 0x2029

/-- Reads lines up to any line boundary: `cur` holds the current line backwards, `acc` the lines before, the latest
first. -/
def boundaryLinesFrom (cur : List Char) (acc : List (List Char)) : List Char → List (List Char)
  | [] => if cur.isEmpty then acc else cur.reverse :: acc
  | '\r' :: '\n' :: r => boundaryLinesFrom [] (cur.reverse :: acc) r
  | c :: r =>
    if isLineBoundary c then boundaryLinesFrom [] (cur.reverse :: acc) r else boundaryLinesFrom (c :: cur) acc r

/-- The lines of a text under all line boundaries. A boundary at the very end starts no further line. -/
def boundaryLines (t : List Char) : List (List Char) := (boundaryLinesFrom [] [] t).reverse

def unifyFrom (acc : List Char) : List Char → List Char
  | [] => acc
  | '\r' :: '\n' :: r => unifyFrom ('\n' :: acc) r
  | c :: r => unifyFrom ((if c == '\r' then '\n' else c) :: acc) r

/-- Every line end, be it a carriage return, a line feed or both, becomes one line feed. -/
def unifyNewlines (t : List Char) : List Char := (unifyFrom [] t).reverse

end CodeSurvey.Text
