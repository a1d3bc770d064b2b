import FlowSketch.Flow
import FlowSketch.TextBlank
import FlowSketch.TextWord

/-! A flow as a mind map, in which indentation alone carries the nesting. -/
namespace FlowSketch.Mindmap
open TextBlank

/-- Anything else can be read as a shape or an icon. -/
def isSafe (c : Char) : Bool := TextWord.isWord c || isBlank c || c = '.' || c = ',' || c = '-'

def maxLength : Nat := 48

def safeChars (cs : List Char) : List Char :=
  dropEndBlanks ((squeeze (cs.map fun c => if isSafe c then c else ' ')).take maxLength)

def safe (s : String) : String := .ofList (safeChars s.toList)

/-- An entry of the map: its depth and its text. -/
structure Entry where
  depth : Nat
  text : String
  deriving DecidableEq, Repr

/-- An entry whose text comes out empty is left out. -/
def entry (depth : Nat) (text : String) : List Entry := if (safe text).isEmpty then [] else [⟨depth, safe text⟩]

mutual

def ofNode (depth : Nat) : Node → List Entry
  | .step s => entry depth s.label
  | .function l body => entry depth ("Function " ++ l) ++ ofNodes (depth + 1) body
  | .decision c yes no =>
    entry depth ("If " ++ c) ++ ofSide (depth + 1) "Yes" yes ++ ofSide (depth + 1) "No" no
  | .loop l _ body => entry depth ("Loop " ++ l) ++ ofNodes (depth + 1) body
  | .tryCatch body p handler cleanup =>
    entry depth "Try" ++ ofNodes (depth + 1) body ++ entry depth ("Catch " ++ p) ++ ofNodes (depth + 1) handler
      ++ ofSide depth "Finally" cleanup
  | .switch l cases => entry depth l ++ ofCases (depth + 1) cases
  | .event s n _ body => entry depth ("On " ++ n ++ " of " ++ s) ++ ofNodes (depth + 1) body
  | .promise l body => entry depth l ++ ofNodes (depth + 1) body

def ofNodes (depth : Nat) : List Node → List Entry
  | [] => []
  | n :: ns => ofNode depth n ++ ofNodes depth ns

/-- A named list, which is left out if it is empty. -/
def ofSide (depth : Nat) (name : String) : List Node → List Entry
  | [] => []
  | n :: ns => entry depth name ++ (ofNode (depth + 1) n ++ ofNodes (depth + 1) ns)

def ofCases (depth : Nat) : List Case → List Entry
  | [] => []
  | ⟨l, body⟩ :: cases => entry depth ("Case " ++ l) ++ ofNodes (depth + 1) body ++ ofCases depth cases

end

def Entry.line (e : Entry) : String := .ofList (List.replicate (2 * e.depth) ' ') ++ e.text

def header : String := "mindmap"

def defaultTitle : String := "Code structure"

def rootLine (title : String) : String :=
  "  root((\"" ++ (if (safe title).isEmpty then defaultTitle else safe title) ++ "\"))"

def lines (nodes : List Node) (title : String) : List String :=
  [header, rootLine title] ++ (ofNodes 2 nodes).map Entry.line

def render (nodes : List Node) (title : String) : String := joinLines (lines nodes title)

end FlowSketch.Mindmap
