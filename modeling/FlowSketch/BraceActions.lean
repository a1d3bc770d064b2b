import FlowSketch.PatternBuild
import FlowSketch.StatementTable
import FlowSketch.TextCase

/-! The steps of brace languages. Statements are matched as compact text: tokens without spaces, strings in single
quotes. -/
namespace FlowSketch.BraceActions
open Pattern StatementRule TextBlank

def labelled (lead : String) (limit : Nat) (i : Nat) (m : Place) : String := lead ++ clip limit (m.text i)

def withoutQuotes (cs : List Char) : List Char := cs.filter fun c => c != '\'' && c != '"'

def dropPrefix? (lead : String) (cs : List Char) : Option (List Char) :=
  if lead.toList.isPrefixOf cs then some (cs.drop lead.length) else none

/-- An address without its `http` or `https` scheme. -/
def withoutScheme (cs : List Char) : List Char :=
  (dropPrefix? "https://" cs <|> dropPrefix? "http://" cs).getD cs

def dropEndSemicolons (cs : List Char) : List Char := (cs.reverse.dropWhile (· == ';')).reverse

def returnLabel (m : Place) : String :=
  let value := clip 30 (.ofList (trim (dropEndSemicolons (m.chars 1))))
  if value.isEmpty then "Return" else "Return: " ++ value

/-- A quoted text of some length, without its quotes as the group. -/
def quotedText (i : Nat) (p : Pattern) : Pattern := "'" ++ group i p ++ "'"

def inString : Pattern := noneOf "'"

def imports : StatementTable := [
  ignore (start ++ choice ["const", "let", "var"] ++ reps letter ++ "=require("),
  ignore (start ++ "import" ++ plus any ++ "from'"),
  ignore (start ++ "'use strict'"),
  ignore (start ++ choice ["break", "continue"] ++ opt ";" ++ stop)]

def streams : StatementTable := [
  step "io" ("createReadStream(" ++ quotedText 1 (plus inString) ++ ")") fun m => "Create read stream: " ++ m.text 1,
  step "io" ("createWriteStream(" ++ quotedText 1 (plus inString) ++ ")") fun m => "Create write stream: " ++ m.text 1,
  step "process" (group 1 name ++ ".pipe(" ++ group 2 name ++ ")") fun m => "Pipe " ++ m.text 1 ++ " to " ++ m.text 2,
  fixed "process" "pipeline(" "Stream pipeline"]

def files : StatementTable := [
  step "io" ("fs." ++ choice ["readFile", "readFileSync"] ++ "(" ++ quotedText 1 (plus inString))
    fun m => "Read file: " ++ m.text 1,
  step "io" ("fs." ++ choice ["writeFile", "writeFileSync", "appendFile"] ++ "(" ++ quotedText 1 (plus inString))
    fun m => "Write file: " ++ m.text 1,
  step "io" ("fs." ++ group 1 (choice ["open", "close", "mkdir", "unlink", "rename", "stat"]) ++ "(")
    fun m => "fs." ++ m.text 1]

def messages : StatementTable := [
  step "output" ("console." ++ name ++ "(" ++ quotedText 1 (within 1 60 inString) ++ ")") (labelled "Log: " 45 1),
  step "output" ("console." ++ name ++ "(" ++ group 1 (within 1 50 any) ++ ")")
    fun m => "Log: " ++ clip 40 (.ofList (withoutQuotes (m.chars 1))),
  step "output" ("res." ++ group 1 (choice ["send", "json", "render"]) ++ "(")
    fun m => "Send response (" ++ m.text 1 ++ ")",
  step "io" (".listen(" ++ group 1 name) fun m => "Listen on port " ++ m.text 1]

def requests : StatementTable := [
  step "io" ("fetch(" ++ quotedText 1 (within 1 50 inString))
    fun m => "Fetch " ++ clip 35 (.ofList (withoutScheme (m.chars 1))),
  step "io" ("axios." ++ group 1 (choice ["get", "post", "put", "delete", "patch"]) ++ "("
      ++ quotedText 2 (within 1 40 inString))
    fun m => TextCase.upper (m.text 1) ++ " " ++ clip 30 (m.text 2)]

def storage : StatementTable := [
  step "io" ("." ++ group 1 (choice ["find", "findOne", "findById"]) ++ "(") fun m => "DB query: " ++ m.text 1,
  fixed "io" ("." ++ ("save" <|> "create" <|> "insertOn" ++ opt "e") ++ "(") "DB insert",
  fixed "io" ("." ++ choice ["update", "updateOne", "updateMany"] ++ "(") "DB update",
  fixed "io" ("." ++ choice ["delete", "deleteOne", "deleteMany"] ++ "(") "DB delete"]

def waiting : StatementTable := [
  step "process" ("await" ++ group 1 (name ++ reps ("." ++ name)) ++ "(") fun m => "Await " ++ m.text 1,
  step "process" ("Promise." ++ group 1 (choice ["all", "race", "allSettled"]) ++ "(") fun m => "Promise." ++ m.text 1]

def leaving : StatementTable := [
  step "throw" (start ++ "thrownew" ++ group 1 (reps letter ++ choice ["Error", "Exception"]) ++ "(")
    fun m => "Throw " ++ m.text 1,
  step "throw" (start ++ "thrownew" ++ group 1 name) fun m => "Throw " ++ m.text 1,
  step "throw" (start ++ "throw" ++ group 1 name) fun m => "Throw " ++ m.text 1,
  fixed "return" (start ++ "returnres.") "Return response",
  step "return" (start ++ "return" ++ group 1 (within 0 35 any)) returnLabel]

def creation : StatementTable := [
  step "process" (start ++ choice ["const", "let", "var"] ++ group 1 name ++ "=new" ++ group 2 name ++ "(")
    fun m => "Create " ++ m.text 2 ++ " → " ++ m.text 1]

def table : StatementTable :=
  imports ++ streams ++ files ++ messages ++ requests ++ storage ++ waiting ++ leaving ++ creation

def labelLimit : Nat := 50

/-- A registration such as `x.on('event', function …`, whose block is a node of its own. -/
def isInlineHandler (text : String) : Bool :=
  ("." ++ reps letter ++ "on" ++ reps letter ++ "('" : Pattern).found text.toList &&
    ("function" <|> "=>" : Pattern).found text.toList

/-- The step of one compact statement. -/
def stepOf (text : String) : Option Step :=
  if text.isEmpty || isInlineHandler text then none else table.classify labelLimit text

end FlowSketch.BraceActions
