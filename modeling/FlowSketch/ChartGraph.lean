import FlowSketch.ChartLine
import FlowSketch.PatternBuild

/-! Chart text read back as a graph. -/
namespace FlowSketch

/-- Labels and shapes are known only of nodes that are defined. -/
structure GraphNode where
  id : String
  definition : Option (String × Shape)

structure GraphEdge where
  source : String
  target : String
  label : String

/-- Nodes in order of first appearance, edges in reading order; parallel edges are kept. -/
structure ChartGraph where
  nodes : List GraphNode
  edges : List GraphEdge

namespace ChartGraph
open Pattern

inductive Line where
  | node (id label : String) (shape : Shape)
  | edge (source target label : String)

def nodePattern (shape : Shape) : Pattern :=
  gap ++ group 1 name ++ word shape.brackets.1 ++ "\"" ++ group 2 (reps any) ++ "\"" ++ word shape.brackets.2 ++ stop

def edgePattern : Pattern :=
  gap ++ group 1 name ++ " -->" ++ opt ("|" ++ group 2 (reps any) ++ "|") ++ " " ++ group 3 name ++ stop

/-- The shapes in the order in which a definition is tried. -/
def shapes : List Shape := [.terminator, .io, .decision, .process]

def definition? (line : List Char) (shape : Shape) : Option Line :=
  ((nodePattern shape).matchStart line).map fun m => .node (m.text 1) (m.text 2) shape

def line? (line : List Char) : Option Line :=
  match edgePattern.matchStart line with
  | some m => some (.edge (m.text 1) (m.text 3) (m.text 2))
  | none => shapes.findSome? (definition? line)

def empty : ChartGraph := ⟨[], []⟩

def has (g : ChartGraph) (id : String) : Bool := g.nodes.any fun n => n.id == id

def mention (g : ChartGraph) (id : String) : ChartGraph :=
  if g.has id then g else { g with nodes := g.nodes ++ [⟨id, none⟩] }

/-- A later definition replaces label and shape in place. -/
def define (g : ChartGraph) (id label : String) (shape : Shape) : ChartGraph :=
  if g.has id then
    { g with nodes := g.nodes.map fun n => if n.id == id then ⟨id, some (label, shape)⟩ else n }
  else { g with nodes := g.nodes ++ [⟨id, some (label, shape)⟩] }

def connect (g : ChartGraph) (source target label : String) : ChartGraph :=
  let h := (g.mention source).mention target
  { h with edges := h.edges ++ [⟨source, target, label⟩] }

def add (g : ChartGraph) : Line → ChartGraph
  | .node id label shape => g.define id label shape
  | .edge source target label => g.connect source target label

/-- The first line of a chart is its header. -/
def ofText (text : String) : ChartGraph :=
  (((TextBlank.textLines text.toList).drop 1).filterMap line?).foldl add empty

def edgesFrom (g : ChartGraph) (source : String) : List GraphEdge := g.edges.filter fun e => e.source == source

/-- The targets of a node, each once, in the order of their first edges. -/
def targets (g : ChartGraph) (source : String) : List String := ((g.edgesFrom source).map GraphEdge.target).eraseDups

/-- Edges grouped by source in node order, then by target. -/
def grouped (g : ChartGraph) : List GraphEdge :=
  g.nodes.flatMap fun n => (g.targets n.id).flatMap fun t => (g.edgesFrom n.id).filter fun e => e.target == t

end ChartGraph
end FlowSketch
