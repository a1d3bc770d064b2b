import FlowSketch.Flow

/-! All nodes of a tree in reading order, and what is collected from them. -/
namespace FlowSketch

mutual

def Node.preorder : Node → List Node
  | .step s => [.step s]
  | .decision c yes no => .decision c yes no :: (Flow.preorder yes ++ Flow.preorder no)
  | .loop l k body => .loop l k body :: Flow.preorder body
  | .switch l cases => .switch l cases :: Flow.casesPreorder cases
  | .tryCatch body p handler cleanup =>
    .tryCatch body p handler cleanup :: (Flow.preorder body ++ Flow.preorder handler ++ Flow.preorder cleanup)
  | .event s n l body => .event s n l body :: Flow.preorder body
  | .function l body => .function l body :: Flow.preorder body
  | .promise l body => .promise l body :: Flow.preorder body

/-- Every node at every depth, a construct before what it owns. -/
def Flow.preorder : List Node → List Node
  | [] => []
  | n :: ns => n.preorder ++ Flow.preorder ns

def Flow.casesPreorder : List Case → List Node
  | [] => []
  | ⟨_, body⟩ :: cases => Flow.preorder body ++ Flow.casesPreorder cases

end

mutual

def Node.depth : Node → Nat
  | .step _ => 0
  | .decision _ yes no => 1 + max (Flow.depth yes) (Flow.depth no)
  | .loop _ _ body => 1 + Flow.depth body
  | .switch _ cases => 1 + Flow.casesDepth cases
  | .tryCatch body _ handler cleanup => 1 + max (Flow.depth body) (max (Flow.depth handler) (Flow.depth cleanup))
  | .event _ _ _ body => 1 + Flow.depth body
  | .function _ body => Flow.depth body
  | .promise _ body => 1 + Flow.depth body

/-- The deepest nesting of constructs; a function does not count as one. -/
def Flow.depth : List Node → Nat
  | [] => 0
  | n :: ns => max n.depth (Flow.depth ns)

def Flow.casesDepth : List Case → Nat
  | [] => 0
  | ⟨_, body⟩ :: cases => max (Flow.depth body) (Flow.casesDepth cases)

end

namespace Flow

/-- The steps at every depth whose kind is one of `kinds`. -/
def steps (kinds : List String) (nodes : List Node) : List Step :=
  ((preorder nodes).filterMap Node.step?).filter fun s => kinds.contains s.kind

/-- The kinds of the steps that run on. -/
def plainKinds : List String := ["process", "io", "output"]

def conditions (nodes : List Node) : List String := (preorder nodes).filterMap Node.condition?

def loopLabels (nodes : List Node) : List String := (preorder nodes).filterMap Node.loopLabel?

def switches (nodes : List Node) : List (List Case) := (preorder nodes).filterMap Node.switchCases?

def switchLabels (nodes : List Node) : List String := (preorder nodes).filterMap Node.switchLabel?

def events (nodes : List Node) : List (String × String × String) := (preorder nodes).filterMap Node.event?

def functions (nodes : List Node) : List (String × List Node) := (preorder nodes).filterMap Node.function?

def tryCount (nodes : List Node) : Nat := (preorder nodes).countP Node.isTry

def promiseCount (nodes : List Node) : Nat := (preorder nodes).countP Node.isPromise

def stepCount (nodes : List Node) : Nat := (preorder nodes).countP Node.isStep

end Flow
end FlowSketch
