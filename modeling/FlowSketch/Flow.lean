/-! Control flow as a tree: a list of steps and constructs, where a construct owns further lists. -/
namespace FlowSketch

/-- One plain step. The kinds in use are `process`, `io`, `output`, `return` and `throw`; any other text is kept. -/
structure Step where
  kind : String
  label : String
  deriving DecidableEq, Repr

mutual

inductive Node where
  | step (s : Step)
  | decision (condition : String) (yes no : List Node)
  | loop (label kind : String) (body : List Node)
  | switch (label : String) (cases : List Case)
  | tryCatch (body : List Node) (param : String) (handler cleanup : List Node)
  | event (subject name label : String) (body : List Node)
  | function (label : String) (body : List Node)
  | promise (label : String) (body : List Node)
  deriving Repr

inductive Case where
  | mk (label : String) (body : List Node)
  deriving Repr

end

instance : Inhabited Node := ⟨.step ⟨"", ""⟩⟩
instance : Inhabited Case := ⟨.mk "" []⟩

def Case.label : Case → String
  | .mk l _ => l

def Case.body : Case → List Node
  | .mk _ b => b

/-- The kinds that a recovered step can have. -/
def Step.kinds : List String := ["process", "io", "output", "return", "throw"]

def Step.isTerminal (s : Step) : Bool := s.kind == "return" || s.kind == "throw"

def Step.isKnown (s : Step) : Bool := Step.kinds.contains s.kind

namespace Node

def step? : Node → Option Step
  | step s => some s
  | _ => none

def isStep (n : Node) : Bool := n.step?.isSome

/-- A step that leaves: nothing of the same list runs after it. -/
def isTerminal (n : Node) : Bool := (n.step?.map Step.isTerminal).getD false

/-- The lists that a construct owns, in reading order. -/
def children : Node → List (List Node)
  | step _ => []
  | decision _ yes no => [yes, no]
  | loop _ _ body => [body]
  | switch _ cases => cases.map Case.body
  | tryCatch body _ handler cleanup => [body, handler, cleanup]
  | event _ _ _ body => [body]
  | function _ body => [body]
  | promise _ body => [body]

def condition? : Node → Option String
  | decision c _ _ => some c
  | _ => none

def loopLabel? : Node → Option String
  | loop l _ _ => some l
  | _ => none

/-- The switch labels. -/
def switchLabel? : Node → Option String
  | switch l _ => some l
  | _ => none

def switchCases? : Node → Option (List Case)
  | switch _ cs => some cs
  | _ => none

def isTry : Node → Bool
  | tryCatch .. => true
  | _ => false

/-- Subject, name and label of an event. -/
def event? : Node → Option (String × String × String)
  | event s n l _ => some (s, n, l)
  | _ => none

def function? : Node → Option (String × List Node)
  | function l b => some (l, b)
  | _ => none

def isFunction (n : Node) : Bool := n.function?.isSome

def isPromise : Node → Bool
  | promise .. => true
  | _ => false

end Node
end FlowSketch
