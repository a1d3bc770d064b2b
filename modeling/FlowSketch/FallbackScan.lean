import FlowSketch.PatternBuild
import FlowSketch.StatementTable

/-! The last resort for brace languages: a scan for steps, one line at a time. -/
namespace FlowSketch.FallbackScan
open Pattern StatementRule TextBlank

def quotes : String := "'\"\x60"

/-- A text in any quotes, which need not agree, after an opening parenthesis. -/
def quotedArgument (p : Pattern) : Pattern := gap ++ "(" ++ gap ++ oneOf quotes ++ group 1 p ++ oneOf quotes

def unquoted : Pattern := noneOf quotes

/-- The text after the first `://`, or the whole text. -/
def afterScheme (cs : List Char) : List Char := ((word "://").search cs).map Place.rest |>.getD cs

def table : StatementTable := [
  step "io" ("createReadStream" ++ quotedArgument (plus unquoted)) fun m => "Create read stream: " ++ m.text 1,
  step "io" ("createWriteStream" ++ quotedArgument (plus unquoted)) fun m => "Create write stream: " ++ m.text 1,
  step "process" (group 1 name ++ ".pipe" ++ gap ++ "(" ++ gap ++ group 2 name)
    fun m => "Pipe " ++ m.text 1 ++ " to " ++ m.text 2,
  step "output" ("console." ++ name ++ quotedArgument (within 1 60 unquoted)) fun m => "Log: " ++ clip 45 (m.text 1),
  step "io" ("fetch" ++ quotedArgument (within 1 50 unquoted))
    fun m => "Fetch " ++ .ofList ((afterScheme (m.chars 1)).take 35)]

def labelLimit : Nat := 48

/-- Blank lines, comments and event registrations are not scanned. -/
def isSkipped (line : List Char) : Bool :=
  line.isEmpty || "//".toList.isPrefixOf line || (word ".on(").found (line.filter (· ≠ ' '))

def stepOfLine (line : List Char) : Option Step :=
  if isSkipped (trim line) then none else table.classify labelLimit (.ofList (trim line))

/-- Leaves out each step with the label of the one before. -/
def collapse (last : Option String) : List Step → List Step
  | [] => []
  | s :: ss => if last = some s.label then collapse last ss else s :: collapse (some s.label) ss

def steps (code : String) : List Step := collapse none ((cut '\n' code.toList).filterMap stepOfLine)

end FlowSketch.FallbackScan
