/-
Telling people how a quality gate went: a chat message and a mail.
-/
import CodeSurvey.Gate.Report
import CodeSurvey.Settings
import CodeSurvey.Text.Lines

namespace CodeSurvey.Gate

structure ChatPost where
  url : String
  message : Json

def chatTimeout : Float := 10.0

def chatPost (url repository : String) (passed : Bool) (lines : List CheckLine) (link : Option String) : ChatPost :=
  let attachment := [
    ("color", Json.str (colour passed)),
    ("title", .str ("Code Intelligence: " ++ repository ++ " — " ++ mark passed ++ " " ++ verdict passed)),
    ("text", .str ("\n".intercalate (lines.map CheckLine.render))),
    ("footer", .str "Code Intelligence Platform")]
  let attachment := match link with
    | some l => if l.isEmpty then attachment else attachment ++ [("title_link", .str l)]
    | none => attachment
  ⟨url, .obj [("attachments", .arr [.obj attachment])]⟩

structure Mail where
  host : String
  port : Int
  sender : String
  recipient : String
  subject : String
  parts : List (String × String)

/-- A text in a header of a mail, which is one line: further lines follow after a blank. -/
def headerText (t : List Char) : List Char :=
  match Text.boundaryLines t with
  | [] => []
  | first :: more => first ++ more.flatMap fun l => ' ' :: Text.stripLeft l

def isPlain (t : List Char) : Bool := t.all (·.toNat < 128)

/-- Would a line of a header not count as a further line of the one before? It has to be set in. -/
def startsHeader (line : List Char) : Bool :=
  !Text.isBlankText line && line.head? != some ' ' && line.head? != some '\t'

/-- Would the text make more than one header? Texts that are not plain are written in a way that keeps them together. -/
def breaksHeader (t : List Char) : Bool := isPlain t && ((Text.boundaryLines t).drop 1).any startsHeader

def bodyText (t : List Char) : List Char := if isPlain t then Text.unifyNewlines t else t

def Mail.isWritable (m : Mail) : Bool := !breaksHeader m.sender.toList && !breaksHeader m.recipient.toList

def canMail (s : Settings) : Bool :=
  Settings.isGiven s.smtpHost && Settings.isGiven s.smtpUser && Settings.isGiven s.smtpPassword

def mail (s : Settings) (recipient repository : String) (passed : Bool) (lines : List CheckLine)
    (page : Option String) : Mail :=
  let body :=
    "Code Intelligence Quality Gate\nRepository: " ++ repository ++ "\nStatus: " ++ verdict passed ++ "\n\n" ++
    "\n".intercalate (lines.map CheckLine.render)
  let parts := match page with
    | some p => if p.isEmpty then [] else [("text/html", p)]
    | none => []
  { host := s.smtpHost.getD ""
    port := s.smtpPort
    sender := s.smtpUser.getD ""
    recipient := recipient
    subject := String.ofList (headerText
      ("[Code Intelligence] " ++ repository ++ " — " ++ verdict passed ++ " " ++ mark passed).toList)
    parts := (("text/plain", body) :: parts).map fun p => (p.1, String.ofList (bodyText p.2.toList)) }

end CodeSurvey.Gate
