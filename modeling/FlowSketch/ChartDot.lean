import FlowSketch.ChartGraph
import FlowSketch.TextCase

/-! A chart as a graph description in the DOT language. -/
namespace FlowSketch.ChartDot
open Pattern

/-- Text between angle brackets is taken as it is. -/
def markupPattern : Pattern := "<" ++ reps (.one fun _ => true) ++ ">" ++ stop

def asciiDigit : Pattern := .one Char.isDigit

def asciiNameStart : Pattern := .one fun c => c.isAlpha || c == '_'

def asciiNameChar : Pattern := .one fun c => c.isAlphanum || c == '_'

/-- Names and numbers need no quotes. -/
def barePattern : Pattern :=
  (asciiNameStart ++ reps asciiNameChar
    <|> opt "-" ++ ("." ++ plus asciiDigit <|> plus asciiDigit ++ opt ("." ++ reps asciiDigit))) ++ stop

def keywords : List String := ["node", "edge", "graph", "digraph", "subgraph", "strict"]

/-- Puts a backslash before each quote that has an even number of them; `run` is the number of backslashes read. -/
def escapeQuotes (run : Nat) : List Char → List Char
  | [] => []
  | c :: cs =>
    if c = '\\' then c :: escapeQuotes (run + 1) cs
    else if c = '"' && run % 2 = 0 then '\\' :: c :: escapeQuotes 0 cs
    else c :: escapeQuotes 0 cs

def quoted (s : String) : String :=
  let cs := s.toList
  if (markupPattern.matchStart cs).isSome then s
  else if (barePattern.matchStart cs).isSome && !keywords.contains (TextCase.lower s) then s
  else "\"" ++ .ofList (escapeQuotes 0 cs) ++ "\""

/-- The look of a shape, sorted by attribute. -/
def style : Shape → List (String × String)
  | .terminator => [("fillcolor", "lightgray"), ("shape", "ellipse"), ("style", "filled")]
  | .io => [("fillcolor", "lightyellow"), ("shape", "parallelogram"), ("style", "filled")]
  | .decision => [("fillcolor", "lightblue"), ("shape", "diamond"), ("style", "filled")]
  | .process => [("shape", "box")]

def setting (a : String × String) : String := quoted a.1 ++ "=" ++ quoted a.2

/-- A node that only edges mention is a box with its name. -/
def nodeLine (n : GraphNode) : String :=
  let (label, shape) := n.definition.getD (n.id, .process)
  "\t" ++ quoted n.id ++ " [label=" ++ quoted label
    ++ String.join ((style shape).map fun a => " " ++ setting a) ++ "]"

def edgeLine (e : GraphEdge) : String :=
  "\t" ++ quoted e.source ++ " -> " ++ quoted e.target
    ++ (if e.label.isEmpty then "" else " [label=" ++ quoted e.label ++ "]")

/-- The name of a graph before its opening brace. -/
def title (name : String) : String := if name.isEmpty then "" else quoted name ++ " "

/-- The description of a graph, a line for each node and then for each edge. -/
def ofGraph (name : String) (g : ChartGraph) : String :=
  String.join ((["digraph " ++ title name ++ "\x7b"] ++ g.nodes.map nodeLine ++ g.grouped.map edgeLine
    ++ ["\x7d"]).map (· ++ "\n"))

def ofText (name text : String) : String := ofGraph name (ChartGraph.ofText text)

end FlowSketch.ChartDot
