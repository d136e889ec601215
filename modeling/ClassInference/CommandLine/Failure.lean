import ClassInference.Config.Reader
import ClassInference.FileFault
import ClassInference.Query
import ClassInference.Text.Quoted

/-!
# Failures

What ends a run early, and the text of it: what went wrong, and below it the causes in turn.
-/

namespace ClassInference

namespace CommandLine

inductive Failure where
  | document (error : Json.SyntaxError)
  | file (path : String) (fault : FileFault)
  | config (error : ConfigError)
  | filter (fault : Query.Fault)
  | inputs (pattern : String) (complaint : String)
  /-- A failure while the configuration at a path was read. -/
  | loading (path : String) (cause : Failure)
deriving Repr

namespace Failure

/-- That a file cannot be used, and why. -/
def fileMessage (path reason : String) : String :=
  "I/O failure on " ++ Text.quotedPath path ++ ": " ++ reason

/-- The messages of a failure, the outermost first. -/
def messages : Failure → List String
  | document e | filter (.noDocument e) =>
    ["malformed JSON document: " ++ e.message, e.message]
  | file path fault => [fileMessage path fault.message, fault.message]
  | config e => [e.message]
  | filter .unreadable => ["jq filter failed: the filter cannot be read"]
  | filter (.failed d) => ["jq filter failed: " ++ d.text]
  | inputs pattern complaint => ["input pattern `" ++ pattern ++ "`: " ++ complaint]
  | loading path cause => ("loading configuration " ++ path) :: cause.messages

/-- Every line of a text, the first one after a lead, the others after an indentation. -/
def indented (lead rest : String) (text : String) : String :=
  match (Text.lines text.toList).map String.ofList with
  | [] => lead
  | line :: lines => String.join ((lead ++ line) :: lines.map fun l => "\n" ++ rest ++ l)

/-- Causes below a message. They are numbered if there are several. -/
def causes : List String → String
  | [] => ""
  | [cause] => "\n\nCaused by:\n" ++ indented "    " "    " cause
  | causes => "\n\nCaused by:" ++ String.join (causes.mapIdx fun i cause =>
      "\n" ++ indented (String.ofList ((toString i).toList.leftpad 5 ' ') ++ ": ") "       " cause)

/-- The text of a failure. -/
def text (f : Failure) : String :=
  match f.messages with
  | [] => ""
  | outer :: inner => outer ++ causes inner

end Failure

end CommandLine

end ClassInference
