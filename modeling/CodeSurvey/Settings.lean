/-
What can be set from outside.
-/
import CodeSurvey.Json.Basic

namespace CodeSurvey

structure Settings where
  title : String
  version : String
  uploadDir : String
  maxUploadMb : Json
  allowedExtensions : List String
  taskTimeLimit : Json
  openaiKey : String
  openaiModel : String
  embeddingDimensions : Int
  enableEmbeddings : Bool
  /-- How similar a symbol must be to a query that does not say so, as it is handed to the search. -/
  similarityThreshold : Json
  githubToken : Option String
  githubWebhookSecret : Option String
  gitlabWebhookToken : Option String
  smtpHost : Option String
  smtpPort : Int
  smtpUser : Option String
  smtpPassword : Option String

namespace Settings

def standard : Settings where
  title := "Code Intelligence Platform"
  version := "0.2.0"
  uploadDir := "/tmp/upload"
  maxUploadMb := .int 100
  allowedExtensions := [".zip"]
  taskTimeLimit := .int 300
  openaiKey := ""
  openaiModel := "text-embedding-3-small"
  embeddingDimensions := 1536
  enableEmbeddings := true
  similarityThreshold := .float 0.7
  githubToken := none
  githubWebhookSecret := none
  gitlabWebhookToken := none
  smtpHost := none
  smtpPort := 465
  smtpUser := none
  smtpPassword := none

def uploadPath (s : Settings) (name : String) : String :=
  if s.uploadDir.isEmpty || s.uploadDir.endsWith "/" then s.uploadDir ++ name else s.uploadDir ++ "/" ++ name

def isGiven (s : Option String) : Bool := s.any fun t => !t.isEmpty

end Settings

end CodeSurvey
