import FlowSketch.FlowTraverse
import FlowSketch.TextCase

/-! A plain-text outline of a flow: the numbered steps of the top level, then every construct with its bodies
indented, then a hint for whoever draws it. -/
namespace FlowSketch.Summary

/-- A piece of an outline. A heading has an empty line before it; the steps of the top level have numbers. -/
inductive Entry where
  | heading (indent : Nat) (text : String)
  | note (indent : Nat) (text : String)
  | step (indent : Nat) (s : Step)
  | numbered (index : Nat) (s : Step)

/-- The constructs met so far. They add up over all outlines that one summarizer writes. -/
structure Seen where
  decisions : List String
  loops : List String
  tryNodes : List Node
  switches : List String
  eventNodes : List Node

namespace Seen

def none : Seen := ⟨[], [], [], [], []⟩

def append (a b : Seen) : Seen :=
  ⟨a.decisions ++ b.decisions, a.loops ++ b.loops, a.tryNodes ++ b.tryNodes, a.switches ++ b.switches,
    a.eventNodes ++ b.eventNodes⟩

instance : Append Seen := ⟨append⟩

def tries (seen : Seen) : Nat := seen.tryNodes.length

/-- Subject, name and label of the events. -/
def events (seen : Seen) : List (String × String × String) := seen.eventNodes.filterMap Node.event?

end Seen

/-- Entries with the constructs that they come from. -/
structure Outline where
  entries : List Entry
  seen : Seen

namespace Outline

def empty : Outline := ⟨[], .none⟩

def append (a b : Outline) : Outline := ⟨a.entries ++ b.entries, a.seen ++ b.seen⟩

instance : Append Outline := ⟨append⟩

def ofEntry (e : Entry) : Outline := ⟨[e], .none⟩

def ofSeen (s : Seen) : Outline := ⟨[], s⟩

end Outline

def heading (indent : Nat) (text : String) : Outline := .ofEntry (.heading indent text)

def note (indent : Nat) (text : String) : Outline := .ofEntry (.note indent text)

mutual

/-- The outline of one node. -/
def ofNode (indent : Nat) : Node → Outline
  | .step s => .ofEntry (.step indent s)
  | .decision c yes no =>
    .ofSeen { Seen.none with decisions := [c] } ++ heading indent ("[DECISION - if (" ++ c ++ ")]:")
      ++ note (indent + 2) "YES branch:" ++ ofBody (indent + 4) yes ++ ofNoSide indent no
  | .loop l _ body =>
    .ofSeen { Seen.none with loops := [l] } ++ heading indent ("[LOOP - " ++ l ++ "]:") ++ ofBody (indent + 2) body
      ++ note (indent + 2) "(loops back to condition check)"
  | .tryCatch body p handler cleanup =>
    .ofSeen { Seen.none with tryNodes := [.tryCatch body p handler cleanup] } ++ heading indent "[TRY/CATCH BLOCK]:" ++ note (indent + 2) "TRY:"
      ++ ofBody (indent + 4) body ++ note (indent + 2) ("CATCH (" ++ p ++ "):") ++ ofBody (indent + 4) handler
      ++ ofCleanup indent cleanup
  | .switch l cases =>
    .ofSeen { Seen.none with switches := [l] } ++ heading indent ("[SWITCH: " ++ l ++ "]:") ++ ofCases indent cases
  | .event s n l body =>
    .ofSeen { Seen.none with eventNodes := [.event s n l body] } ++ heading indent ("[EVENT HANDLER: " ++ l ++ "]:")
      ++ note (indent + 2) ("!! ASYNC BRANCH - separate path. ID: " ++ s ++ "_" ++ n) ++ ofBody (indent + 2) body
  | .function l body => heading indent ("[FUNCTION: " ++ l ++ "]:") ++ ofBody (indent + 2) body
  | .promise l body => heading indent ("[PROMISE: " ++ l ++ "]:") ++ ofBody (indent + 2) body

def ofNodes (indent : Nat) : List Node → Outline
  | [] => .empty
  | n :: ns => ofNode indent n ++ ofNodes indent ns

/-- A body says so if it is empty. -/
def ofBody (indent : Nat) : List Node → Outline
  | [] => note indent "(empty)"
  | n :: ns => ofNode indent n ++ ofNodes indent ns

def ofNoSide (indent : Nat) : List Node → Outline
  | [] => note (indent + 2) "NO branch: (continue)"
  | n :: ns => note (indent + 2) "NO branch:" ++ (ofNode (indent + 4) n ++ ofNodes (indent + 4) ns)

def ofCleanup (indent : Nat) : List Node → Outline
  | [] => .empty
  | n :: ns => note (indent + 2) "FINALLY:" ++ (ofNode (indent + 4) n ++ ofNodes (indent + 4) ns)

def ofCases (indent : Nat) : List Case → Outline
  | [] => .empty
  | ⟨l, body⟩ :: cases => note (indent + 2) ("CASE [" ++ l ++ "]:") ++ ofBody (indent + 4) body ++ ofCases indent cases

end

def stepText (s : Step) : String := "[" ++ TextCase.upper s.kind ++ "] " ++ s.label

def spaces (n : Nat) : String := .ofList (List.replicate n ' ')

def Entry.text : Entry → String
  | heading indent text => "\n" ++ spaces indent ++ text
  | note indent text => spaces indent ++ text
  | step indent s => spaces indent ++ "→ " ++ stepText s
  | numbered index s => "  Step " ++ toString index ++ ": " ++ stepText s

def header : String := "=== PRE-ANALYZED CODE STRUCTURE ==="

def footer : String := "=== END PRE-ANALYSIS ==="

/-- The steps of the top level that are numbered. -/
def topSteps (nodes : List Node) : List Step := (nodes.filterMap Node.step?).filter Step.isKnown

def constructs (nodes : List Node) : List Node := nodes.filter fun n => !n.isStep

def numbered (first : Nat) : List Step → List Entry
  | [] => []
  | s :: ss => .numbered first s :: numbered (first + 1) ss

/-- Says why no step is numbered. -/
def stepsRemark (steps : List Step) (constructs : List Node) : List Entry :=
  if !steps.isEmpty then []
  else if constructs.isEmpty then [.note 2 "(none detected)"]
  else [.note 2 "(no top-level sequential steps)"]

def stepNames (count : Nat) : List String := (List.range count).map fun i => "Step" ++ toString (i + 1)

def subscription (e : String × String × String) : String := e.1 ++ ".on('" ++ e.2.1 ++ "')"

/-- What whoever draws the flow is told about it. -/
inductive Hint where
  | events (count : Nat) (handlers : List (String × String × String))
  | tries
  | decisions
  | loops
  | linear

def Hint.lines : Hint → List String
  | .events count handlers => [
      "Main path: Start → " ++ String.join ((stepNames count).map (· ++ " → ")) ++ "EventWait",
      "EventWait branches to: " ++ ", ".intercalate (handlers.map subscription),
      "Each handler branch ends at: End",
      "!! CRITICAL: each handler = its own unique node. NEVER merge same-event handlers."]
  | .tries => ["Main path: try steps → success → End", "Error path: catch steps → End"]
  | .decisions => ["Use diamond nodes for all conditions. Both YES and NO branches must reach End."]
  | .loops => ["Loop: Enter → [body] → condition check → (loop back or exit) → End"]
  | .linear => ["Linear flow: Start → each step in order → End"]

/-- The most demanding construct decides the hint. -/
def hint (count : Nat) (seen : Seen) : Hint :=
  if !seen.eventNodes.isEmpty then .events count seen.events
  else if !seen.tryNodes.isEmpty then .tries
  else if !seen.decisions.isEmpty then .decisions
  else if !seen.loops.isEmpty then .loops
  else .linear

/-- All that a summarizer has met after a flow, if it has met `before` until then. -/
def seenAfter (before : Seen) (nodes : List Node) : Seen := before ++ (ofNodes 0 (constructs nodes)).seen

/-- The whole outline of a flow, written by a summarizer that has met `before`. -/
def entries (before : Seen) (nodes : List Node) (language : String) : List Entry :=
  let steps := topSteps nodes
  [.note 0 header, .note 0 ("Language: " ++ language ++ "\n"),
      .note 0 "[SEQUENTIAL STEPS - execute in this exact order]:"]
    ++ stepsRemark steps (constructs nodes) ++ numbered 1 steps ++ (ofNodes 0 (constructs nodes)).entries
    ++ [.heading 0 "[FLOWCHART STRUCTURE HINT]:"] ++ (hint steps.length (seenAfter before nodes)).lines.map (.note 2)
    ++ [.heading 0 footer]

def textOf (entries : List Entry) : String := "\n".intercalate (entries.map Entry.text)

/-- The outline of a flow, written by a summarizer that has met `before`, and all that it has met then. -/
def summarizeAfter (before : Seen) (nodes : List Node) (language : String) : String × Seen :=
  (textOf (entries before nodes language), seenAfter before nodes)

def summarize (nodes : List Node) (language : String) : String := (summarizeAfter .none nodes language).1

/-- The outline of a scan when no flow could be recovered. -/
def ofScan (language : String) (steps : List Step) : String :=
  let listed := if steps.isEmpty then "  (none detected)" else textOf (numbered 1 steps)
  header ++ "\nLanguage: " ++ language ++ "\n\n[SEQUENTIAL STEPS]:\n" ++ listed ++ "\n\n" ++ footer

def ofFailure (language : String) : String :=
  header ++ "\nLanguage: " ++ language ++ "\n(analysis failed, sending raw code)\n" ++ footer

end FlowSketch.Summary
