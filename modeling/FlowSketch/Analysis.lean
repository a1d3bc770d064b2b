import FlowSketch.BraceFlow
import FlowSketch.ChartDrawing
import FlowSketch.FallbackScan
import FlowSketch.IndentedFlow
import FlowSketch.Language
import FlowSketch.Mindmap
import FlowSketch.Summary
import FlowSketch.SystemsFlow
import FlowSketch.TextQuoted

/-! From a source text to its flow with an outline, and from a flow to a diagram. -/
namespace FlowSketch

structure Analysis where
  language : String
  dialect : Dialect
  nodes : List Node
  hasStructure : Bool
  summary : String

namespace Analysis

/-- Reads a source in a dialect, or gives up. -/
abbrev Extractor := Dialect → String → Option (List Node)

def extract : Dialect → String → List Node
  | .systems, code => SystemsFlow.ofSource code
  | .indentation, code => IndentedFlow.ofSource code
  | .brace, code => BraceFlow.ofSource code

def hasStructureOf (dialect : Dialect) (nodes : List Node) : Bool :=
  if dialect = .indentation then IndentedFlow.hasStructure nodes else !nodes.isEmpty

/-- The outline when the extractor gave up. -/
def degradedSummary (language : String) (dialect : Dialect) (code : String) : String :=
  if dialect = .brace then Summary.ofScan language (FallbackScan.steps code) else Summary.ofFailure language

def analyzeWith (extractor : Extractor) (code path hint : String) : Analysis :=
  let language := Language.resolve code path (TextCase.lower hint)
  let dialect := Dialect.ofLanguage language
  match extractor dialect code with
  | some nodes => ⟨language, dialect, nodes, hasStructureOf dialect nodes, Summary.summarize nodes language⟩
  | none => ⟨language, dialect, [], false, degradedSummary language dialect code⟩

/-- Analyzes a source; no source makes the extractors give up. -/
def analyze (code path hint : String) : Analysis := analyzeWith (fun d c => some (extract d c)) code path hint

/-- The title of a diagram: the file name if it is known, otherwise the language. -/
def displayName (path language : String) : String :=
  let slashed := path.toList.map fun c => if c = '\\' then '/' else c
  let file := Language.lastComponent slashed
  if file.isEmpty then language ++ " snippet" else .ofList file

end Analysis

inductive DiagramKind where
  | flowchart
  | mindmap
  deriving DecidableEq, Repr

namespace DiagramKind

def ofName? : String → Option DiagramKind
  | "flowchart" => some flowchart
  | "mindmap" => some mindmap
  | _ => none

/-- What is said of a kind that there is none of. -/
def unknownMessage (name : String) : String :=
  "unknown diagram kind " ++ TextQuoted.quoted name ++ ", expected one of ('flowchart', 'mindmap')"

/-- The text of a diagram. -/
def render (kind : DiagramKind) (nodes : List Node) (title : String) : String :=
  match kind with
  | flowchart => ChartDrawing.render nodes
  | mindmap => Mindmap.render nodes title

end DiagramKind
end FlowSketch
