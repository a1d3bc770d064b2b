import FlowSketch.PatternBuild
import FlowSketch.StatementTable
import FlowSketch.TextBracket

/-! The steps of systems languages. -/
namespace FlowSketch.SystemsActions
open Pattern StatementRule TextBlank

/-- Round brackets, single quotes, at most 45 characters. -/
def safeChars (cs : List Char) : List Char :=
  (trim ((TextBracket.rounded cs).map fun c => if c = '"' then '\'' else c)).take 45

def safe (s : String) : String := .ofList (safeChars s.toList)

def trimmed (m : Place) (i : Nat) : String := .ofList (trim (m.chars i))

def types : List String := ["int", "void", "float", "double", "char", "long", "short", "unsigned", "bool"]

/-- A conversion of a format text. -/
def conversion : Pattern :=
  "%" ++ reps (oneOf "-+ #0") ++ reps digit ++ opt ("." ++ plus digit)
    ++ opt (choice ["hh", "h", "ll", "l", "L", "z", "j", "t"]) ++ oneOf "diouxXeEfgGscp"

/-- A format text without its escapes for a line end or a tab. -/
def dropEscapes : List Char → List Char
  | [] => []
  | '\\' :: 'n' :: cs => dropEscapes cs
  | '\\' :: 't' :: cs => dropEscapes cs
  | c :: cs => c :: dropEscapes cs

def formatText (cs : List Char) : List Char :=
  let plain := dropEscapes cs
  trim (conversion.removeAll plain.length none plain)

/-- The words of a format text if it has two characters or more, else what is printed. -/
def printLabel (m : Place) : String :=
  let format := formatText (m.chars 1)
  if 2 ≤ format.length then "Print: " ++ .ofList (format.take 45)
  else match m.group? 2 with
    | some values => "Print: " ++ clip 35 (.ofList (safeChars (trim values)))
    | none => "Print output"

def declareLabel (m : Place) : String :=
  "Declare: " ++ safe (m.text 1 ++ " " ++ .ofList ((squeeze (m.chars 2)).take 30))

def readLabel (m : Place) : String :=
  let names := trim (collapse ((m.chars 1).filter (· ≠ '&')))
  "Input: read " ++ .ofList ((safeChars names).take 35)

/-- The call of a function up to its opening parenthesis. -/
def call (f : String) : Pattern := edge ++ word f ++ gap ++ "("

def quoted (p : Pattern) : Pattern := "\"" ++ p ++ "\""

def inString : Pattern := noneOf "\""

/-- Not more than 40 characters of a value, without an equals sign in front. -/
def value : Pattern := noneOf ";=" ++ within 0 39 (noneOf ";")

def preprocessor : StatementTable := [
  ignore (start ++ "#" ++ gap ++ "include" ++ gap ++ oneOf "<\""),
  ignore (start ++ "#" ++ gap ++ "define" ++ plus blank),
  ignore (start ++ "#" ++ gap ++ "pragma" ++ plus blank),
  ignore (start ++ "#" ++ gap ++ choice ["if", "end", "else", "elif"]),
  ignore (start ++ choice ["break", "continue"] ++ gap ++ ";"),
  ignore (start ++ "using" ++ plus blank ++ "namespace" ++ edge)]

def declarations : StatementTable := [
  step "process" (start ++ group 1 (choice types) ++ plus blank
      ++ group 2 (letter ++ reps (letter <|> blank <|> oneOf ",*[]")) ++ gap ++ ";") declareLabel,
  step "process" (start ++ group 1 (choice types) ++ plus blank ++ group 2 name ++ gap ++ "=" ++ gap
      ++ group 3 (within 1 40 (noneOf ";")) ++ gap ++ ";")
    fun m => "Initialize: " ++ m.text 1 ++ " " ++ m.text 2 ++ " = " ++ safe (m.text 3),
  step "process" (start ++ "struct" ++ plus blank ++ group 1 name ++ plus blank ++ group 2 name)
    fun m => "Declare struct: " ++ m.text 2]

def printed (i limit : Nat) (m : Place) : String := "Print: " ++ clip limit (m.text i)

def console : StatementTable := [
  step "output" (call "printf" ++ gap ++ "\"" ++ group 1 (reps inString)
      ++ opt ("\"" ++ gap ++ "," ++ gap ++ group 2 (within 1 50 (noneOf ")")))) printLabel,
  fixed "output" (call "printf") "Print output",
  step "io" (call "scanf" ++ gap ++ quoted (reps inString) ++ gap ++ "," ++ gap ++ group 1 (within 1 60 (noneOf ")")))
    readLabel,
  fixed "io" (call "scanf") "Read input (scanf)",
  step "io" (call "fgets" ++ gap ++ group 1 name) fun m => "Input: fgets(" ++ m.text 1 ++ ")",
  step "io" (call "gets" ++ gap ++ group 1 name) fun m => "Input: gets(" ++ m.text 1 ++ ")",
  fixed "io" (call "getchar" ++ gap ++ ")") "Input: getchar",
  step "output" (call "puts" ++ gap ++ quoted (group 1 (within 1 40 inString))) (printed 1 35),
  fixed "output" (call "puts") "Print output",
  fixed "output" (call "putchar") "Print: putchar",
  step "output" (edge ++ "cout" ++ gap ++ "<<" ++ gap ++ quoted (group 1 (within 1 40 inString))) (printed 1 35),
  fixed "output" (edge ++ "cout" ++ gap ++ "<<") "Print output",
  step "io" (edge ++ "cin" ++ gap ++ ">>" ++ gap ++ group 1 name) fun m => "Input: read " ++ m.text 1]

def files : StatementTable := [
  step "io" (call "fopen" ++ gap ++ quoted (group 1 (plus inString)) ++ gap ++ "," ++ gap
      ++ quoted (group 2 (plus inString)))
    fun m => "Open file: " ++ m.text 1 ++ " (" ++ m.text 2 ++ ")",
  fixed "io" (call "fopen") "Open file (fopen)",
  step "io" (call "fclose" ++ gap ++ group 1 name) fun m => "Close file: " ++ m.text 1,
  fixed "output" (call "fprintf") "Write to file (fprintf)",
  fixed "io" (call "fscanf") "Read from file (fscanf)",
  fixed "io" (call "fread") "Read binary (fread)",
  fixed "io" (call "fwrite") "Write binary (fwrite)"]

def memory : StatementTable := [
  step "process" (call "malloc" ++ group 1 (within 1 30 any) ++ ")")
    fun m => "Allocate memory: malloc(" ++ clip 20 (trimmed m 1) ++ ")",
  fixed "process" (call "calloc") "Allocate memory: calloc",
  fixed "process" (call "realloc") "Resize memory: realloc",
  step "process" (call "free" ++ gap ++ group 1 name) fun m => "Free memory: " ++ m.text 1]

def calculations : StatementTable := [
  step "process" (call "sqrt" ++ group 1 (within 1 20 any) ++ ")")
    fun m => "Calculate: sqrt(" ++ trimmed m 1 ++ ")",
  step "process" (call "pow" ++ gap ++ group 1 name ++ gap ++ "," ++ gap ++ group 2 name ++ gap ++ ")")
    fun m => "Calculate: " ++ m.text 1 ++ " ^ " ++ m.text 2,
  step "process" (call "abs" ++ group 1 (within 1 20 any) ++ ")") fun m => "Calculate: abs(" ++ trimmed m 1 ++ ")",
  fixed "process" (call "strcpy") "Copy string (strcpy)",
  fixed "process" (call "strcat") "Concatenate strings (strcat)",
  step "process" (call "strlen" ++ gap ++ group 1 name) fun m => "Get length: strlen(" ++ m.text 1 ++ ")",
  fixed "process" (call "strcmp") "Compare strings (strcmp)",
  fixed "process" (call "sprintf") "Format string (sprintf)",
  fixed "process" (call "rand" ++ gap ++ ")") "Generate random number"]

/-- The name of a group, whichever of the two groups holds it. -/
def eitherName (m : Place) : String := .ofList ((m.group? 1 <|> m.group? 2).getD [])

def assignments : StatementTable := [
  step "process" (start ++ group 1 name ++ "[" ++ group 2 (plus (noneOf "]")) ++ "]" ++ gap ++ "=" ++ gap
      ++ group 3 value ++ gap ++ ";")
    fun m => "Assign: " ++ safe (m.text 1 ++ "[" ++ m.text 2 ++ "]") ++ " = " ++ safe (trimmed m 3),
  step "process" (start ++ group 1 name ++ gap ++ "=" ++ gap ++ group 2 name ++ gap ++ group 3 (oneOf "-+*/%") ++ gap
      ++ group 4 name ++ gap ++ ";")
    fun m => "Calculate: " ++ m.text 1 ++ " = " ++ m.text 2 ++ " " ++ m.text 3 ++ " " ++ m.text 4,
  step "process" (start ++ group 1 name ++ gap ++ "++" ++ gap ++ ";" <|> start ++ "++" ++ gap ++ group 2 name ++ gap ++ ";")
    fun m => "Increment: " ++ eitherName m ++ "++",
  step "process" (start ++ group 1 name ++ gap ++ "--" ++ gap ++ ";" <|> start ++ "--" ++ gap ++ group 2 name ++ gap ++ ";")
    fun m => "Decrement: " ++ eitherName m ++ "--",
  step "process" (start ++ group 1 name ++ gap ++ group 2 (oneOf "-+*/%") ++ "=" ++ gap ++ group 3 (within 1 30 any) ++ gap
      ++ ";")
    fun m => "Update: " ++ m.text 1 ++ " " ++ m.text 2 ++ "= " ++ safe (trimmed m 3),
  step "process" (start ++ group 1 name ++ gap ++ "=" ++ gap ++ group 2 value ++ gap ++ ";")
    fun m => "Assign: " ++ m.text 1 ++ " = " ++ safe (trimmed m 2)]

def leaving : StatementTable := [
  step "return" (call "exit" ++ gap ++ group 1 (plus digit) ++ gap ++ ")")
    fun m => "Exit program (" ++ m.text 1 ++ ")",
  step "return" (call "exit" ++ gap ++ group 1 name ++ gap ++ ")") fun m => "Exit: " ++ m.text 1,
  step "return" (start ++ "return" ++ plus blank ++ group 1 (plus digit) ++ gap ++ ";") fun m => "Return " ++ m.text 1,
  step "return" (start ++ "return" ++ plus blank ++ group 1 name ++ gap ++ ";") fun m => "Return: " ++ m.text 1,
  step "return" (start ++ "return" ++ gap ++ opt "(" ++ gap ++ group 1 (lazily (within 1 40 (noneOf ";"))) ++ gap
      ++ opt ")" ++ gap ++ ";")
    fun m => "Return: " ++ safe (m.text 1),
  fixed "return" (start ++ "return" ++ gap ++ ";") "Return"]

/-- Anything that looks like a plain call. -/
def otherCalls : StatementTable := [
  step "process" (start ++ group 1 name ++ gap ++ "(" ++ group 2 (within 0 40 (noneOf ")")) ++ ")" ++ gap ++ ";")
    fun m => "Call: " ++ m.text 1 ++ "(" ++ clip 25 (trimmed m 2) ++ ")"]

def table : StatementTable :=
  preprocessor ++ declarations ++ console ++ files ++ memory ++ calculations ++ assignments ++ leaving ++ otherCalls

def labelLimit : Nat := 50

def stepOf (statement : List Char) : Option Step := table.classify labelLimit (.ofList statement)

end FlowSketch.SystemsActions
