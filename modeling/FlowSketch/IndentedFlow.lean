import FlowSketch.PatternBuild
import FlowSketch.StatementTable
import FlowSketch.TextCase

/-! A first sketch of indented languages: one line, one node. Conditions, loops and try blocks stay empty. -/
namespace FlowSketch.IndentedFlow
open Pattern StatementRule TextBlank

def quotes : String := "'\""

def quote : Pattern := oneOf quotes

def unquoted : Pattern := noneOf quotes

def table : StatementTable := [
  ignore (start ++ gap ++ "import" ++ plus blank
    <|> start ++ gap ++ "from" ++ plus blank ++ plus (letter <|> ".") ++ plus blank ++ "import"),
  step "io" ("open" ++ gap ++ "(" ++ gap ++ quote ++ group 1 (plus unquoted) ++ quote ++ "," ++ gap ++ quote
      ++ group 2 (plus (oneOf "wrbax+")) ++ quote)
    fun m => "Open file: " ++ m.text 1 ++ " (" ++ m.text 2 ++ ")",
  step "output" (edge ++ "print" ++ gap ++ "(" ++ gap ++ opt "f" ++ quote ++ group 1 (within 1 50 unquoted))
    fun m => "Print: " ++ clip 40 (m.text 1),
  step "output" (edge ++ "print" ++ gap ++ "(" ++ group 1 (within 0 40 any) ++ ")")
    fun m => "Print: " ++ clip 35 (.ofList (trim ((m.chars 1).filter fun c => !quotes.toList.contains c))),
  step "io" (edge ++ "input" ++ gap ++ "(" ++ gap ++ quote ++ group 1 (within 0 40 unquoted) ++ quote)
    fun m => "Input: " ++ m.text 1,
  step "throw" (edge ++ "raise" ++ plus blank ++ group 1 (reps letter ++ choice ["Error", "Exception"]))
    fun m => "Raise " ++ m.text 1,
  step "io" ("requests." ++ group 1 (choice ["get", "post", "put", "delete"]) ++ gap ++ "(" ++ gap ++ quote
      ++ group 2 (within 0 40 unquoted) ++ quote)
    fun m => TextCase.upper (m.text 1) ++ " " ++ clip 30 (m.text 2),
  step "return" (edge ++ "return" ++ plus blank ++ group 1 (within 1 40 any))
    fun m => "Return " ++ clip 30 (.ofList (trim (m.chars 1)))]

def labelLimit : Nat := 48

def branchPattern : Pattern := opt "el" ++ "if" ++ plus blank ++ group 1 (within 1 60 any) ++ ":"

def forPattern : Pattern :=
  opt ("async" ++ plus blank) ++ "for" ++ plus blank ++ group 1 name ++ plus blank ++ "in" ++ plus blank
    ++ group 2 (within 1 40 any) ++ ":"

def whilePattern : Pattern := "while" ++ plus blank ++ group 1 (within 1 40 any) ++ ":"

def tryPattern : Pattern := "try" ++ gap ++ ":"

/-- The construct that a line without blanks at its ends begins. -/
def construct? (line : List Char) : Option Node :=
  match branchPattern.matchStart line with
  | some m => some (.decision (clip 50 (m.text 1)) [] [])
  | none =>
    match forPattern.matchStart line with
    | some m => some (.loop ("For " ++ m.text 1 ++ " in " ++ clip 30 (m.text 2)) "for-in" [])
    | none =>
      match whilePattern.matchStart line with
      | some m => some (.loop ("While: " ++ clip 40 (m.text 1)) "while" [])
      | none => if (tryPattern.matchStart line).isSome then some (.tryCatch [] "e" [] []) else none

/-- The node of one line; blank lines and comments have none. -/
def nodeOfLine (line : List Char) : Option Node :=
  let text := trim line
  if text.isEmpty || text.head? = some '#' then none
  else construct? text <|> (table.classify labelLimit (.ofList text)).map .step

/-- Leaves out each step whose label is that of the last step kept. -/
def collapseSteps (last : Option String) : List Node → List Node
  | [] => []
  | .step s :: ns => if last = some s.label then collapseSteps last ns else .step s :: collapseSteps (some s.label) ns
  | n :: ns => n :: collapseSteps last ns

def ofSource (code : String) : List Node := collapseSteps none ((cut '\n' code.toList).filterMap nodeOfLine)

/-- A lone try block is not enough to draw. -/
def hasStructure (nodes : List Node) : Bool :=
  nodes.any fun n => n.isStep || n.condition?.isSome || n.loopLabel?.isSome

end FlowSketch.IndentedFlow
