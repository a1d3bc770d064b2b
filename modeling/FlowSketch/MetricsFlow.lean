import FlowSketch.FlowTraverse
import FlowSketch.TextBlank

/-! What is counted in a flow: paths, nesting and steps, for each function and for the code outside functions. -/
namespace FlowSketch

/-- The size of a piece of code, in steps of its flow or in lines of its source. -/
inductive CodeSize where
  | steps (n : Int)
  | lines (n : Int)
  deriving DecidableEq, Repr

structure Measure where
  complexity : Int
  nesting : Int
  size : CodeSize
  deriving DecidableEq, Repr

namespace MetricsFlow

/-- Cases that are a path of their own beside the default. -/
def pathCount (cases : List Case) : Nat := cases.countP fun c => c.label != "default"

/-- One path, and one more for each point where paths part. -/
def complexity (nodes : List Node) : Nat :=
  1 + (Flow.conditions nodes).length + (Flow.loopLabels nodes).length + Flow.tryCount nodes
    + (Flow.switches nodes).foldr (fun cases n => pathCount cases + n) 0

def stepCount (nodes : List Node) : Nat := (Flow.steps Step.kinds nodes).length

def measure (nodes : List Node) : Measure := ⟨complexity nodes, Flow.depth nodes, .steps (stepCount nodes)⟩

/-- A name keeps its first place and takes its last value. -/
def put {α : Type} (name : String) (value : α) : List (String × α) → List (String × α)
  | [] => [(name, value)]
  | e :: es => if e.1 == name then (name, value) :: es else e :: put name value es

def putAll {α : Type} (entries : List (String × α)) : List (String × α) :=
  entries.foldl (fun table e => put e.1 e.2 table) []

/-- The name under which the code outside functions is counted. -/
def moduleName : String := "<module>"

def outsideFunctions (nodes : List Node) : List Node := nodes.filter fun n => !n.isFunction

/-- Each function under its label, then the code outside functions if there is any. -/
def entries (nodes : List Node) : List (String × Measure) :=
  let functions := (Flow.functions nodes).map fun f => (f.1, measure f.2)
  let outside := outsideFunctions nodes
  putAll (functions ++ if functions.isEmpty || !outside.isEmpty then [(moduleName, measure outside)] else [])

/-- How many constructs of each kind a flow has. -/
structure Counts where
  steps : Nat
  decisions : Nat
  loops : Nat
  switches : Nat
  tries : Nat
  events : Nat
  functions : Nat

def counts (nodes : List Node) : Counts :=
  ⟨stepCount nodes, (Flow.conditions nodes).length, (Flow.loopLabels nodes).length, (Flow.switches nodes).length,
    Flow.tryCount nodes, (Flow.events nodes).length, (Flow.functions nodes).length⟩

def sourceLines (code : String) : List String := if code.isEmpty then [] else TextBlank.sourceLines code

def lineCount (code : String) : Nat := (sourceLines code).length

def codeLineCount (code : String) : Nat := (sourceLines code).countP fun l => !TextBlank.blankText l

end MetricsFlow
end FlowSketch
