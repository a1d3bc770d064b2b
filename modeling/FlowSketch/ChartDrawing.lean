import FlowSketch.ChartLabel
import FlowSketch.ChartLine
import FlowSketch.Flow

/-! A flow drawn as a chart. Drawing carries the open exits, from which the next edge is still missing: each node takes
them up and leaves its own. -/
namespace FlowSketch.ChartDrawing
open ChartLabel

/-- What a drawn element stands for. -/
inductive Mark where
  | step
  | decision
  | loop
  | tryBlock
  | catchBlock
  | switch
  | handler
  deriving DecidableEq, Repr

def Mark.letters : Mark → String
  | step => "N"
  | decision => "D"
  | loop => "L"
  | tryBlock => "T"
  | catchBlock => "C"
  | switch => "SW"
  | handler => "H"

def numberedName (letters : String) (number : Nat) : String := letters ++ toString number

/-- Numbers run through a drawing, whatever the mark. -/
inductive Id where
  | start
  | stop
  | drawn (mark : Mark) (number : Nat)
  deriving DecidableEq, Repr

def Id.text : Id → String
  | start => "S"
  | stop => "Z"
  | drawn mark number => numberedName mark.letters number

/-- An open exit: the edge that leaves a node with a label has no target yet. -/
structure Exit where
  source : Id
  label : String
  deriving DecidableEq, Repr

inductive Item where
  | node (id : Id) (shape : Shape) (label : String)
  | edge (source target : Id) (label : String)
  deriving DecidableEq, Repr

def Item.line : Item → String
  | node id shape label => ChartLine.definition id.text shape label
  | edge source target label => ChartLine.edge source.text target.text label

/-- A part of a drawing: its items, the exits it leaves open, the last number used. -/
structure Part where
  items : List Item
  exits : List Exit
  count : Nat

/-- Edges from all open exits to a node. -/
def wire (exits : List Exit) (target : Id) : List Item := exits.map fun e => .edge e.source target e.label

/-- A node with edges from the exits that were open. -/
def entered (exits : List Exit) (id : Id) (shape : Shape) (label : String) : List Item :=
  .node id shape label :: wire exits id

def drawStep (count : Nat) (exits : List Exit) (s : Step) : Part :=
  let id := Id.drawn .step (count + 1)
  let items := entered exits id (Shape.ofKind s.kind) (safe s.label)
  if s.isTerminal then ⟨items ++ [.edge id .stop ""], [], count + 1⟩ else ⟨items, [⟨id, ""⟩], count + 1⟩

def question (text : String) : String := safe text ++ "?"

def catchLabel (param : String) : String := safe ("Catch: " ++ safe (if param.isEmpty then "error" else param))

def caseStep (label : String) : Step := ⟨"process", "Case: " ++ safe label⟩

def handlerLabel (subject name : String) : String := safe (safe subject ++ ".on('" ++ safe name ++ "')")

mutual

def drawNode (count : Nat) (exits : List Exit) : Node → Part
  | .step s => drawStep count exits s
  | .function _ body => drawNodes count exits body
  | .promise _ _ => ⟨[], exits, count⟩
  | .decision c yes no =>
    let id := Id.drawn .decision (count + 1)
    let yesPart := drawNodes (count + 1) [⟨id, "Yes"⟩] yes
    let noPart := drawNodes yesPart.count [⟨id, "No"⟩] no
    ⟨entered exits id .decision (question c) ++ yesPart.items ++ noPart.items, yesPart.exits ++ noPart.exits,
      noPart.count⟩
  | .loop l _ body =>
    let id := Id.drawn .loop (count + 1)
    let part := drawNodes (count + 1) [⟨id, "Yes"⟩] body
    ⟨entered exits id .decision (question l) ++ part.items ++ wire part.exits id, [⟨id, "No"⟩], part.count⟩
  | .tryCatch body p handler _ =>
    let id := Id.drawn .tryBlock (count + 1)
    let part := drawNodes (count + 1) [⟨id, ""⟩] body
    let catchId := Id.drawn .catchBlock (part.count + 1)
    let handlerPart := drawNodes (part.count + 1) [⟨catchId, ""⟩] handler
    ⟨entered exits id .process (safe "Try block") ++ part.items
        ++ [.node catchId .process (catchLabel p), .edge id catchId "Error"] ++ handlerPart.items,
      part.exits ++ handlerPart.exits, handlerPart.count⟩
  | .switch l cases =>
    let id := Id.drawn .switch (count + 1)
    let part := drawCases (count + 1) id cases
    ⟨entered exits id .decision (safe l) ++ part.items, part.exits, part.count⟩
  | .event s n _ body =>
    let id := Id.drawn .handler (count + 1)
    let part := drawNodes (count + 1) [⟨id, ""⟩] body
    ⟨entered exits id .process (handlerLabel s n) ++ part.items ++ wire part.exits .stop, [], part.count⟩

/-- Draws a list; what follows a step that leaves stays unattached. -/
def drawNodes (count : Nat) (exits : List Exit) : List Node → Part
  | [] => ⟨[], exits, count⟩
  | n :: ns =>
    let first := drawNode count exits n
    let later := drawNodes first.count first.exits ns
    ⟨first.items ++ later.items, later.exits, later.count⟩

/-- Draws the cases of a switch, each with a step that names it. -/
def drawCases (count : Nat) (switchId : Id) : List Case → Part
  | [] => ⟨[], [], count⟩
  | ⟨l, body⟩ :: cases =>
    let named := drawStep count [⟨switchId, safe l⟩] (caseStep l)
    let part := drawNodes named.count named.exits body
    let later := drawCases part.count switchId cases
    ⟨named.items ++ part.items ++ later.items, part.exits ++ later.exits, later.count⟩

end

def header : String := "flowchart TD"

def body (nodes : List Node) : Part := drawNodes 0 [⟨.start, ""⟩] nodes

/-- All items of a chart. -/
def items (nodes : List Node) : List Item :=
  [.node .start .terminator (safe "Start"), .node .stop .terminator (safe "End")] ++ (body nodes).items
    ++ wire ((body nodes).exits.filter fun e => e.source ≠ .stop) .stop

def lines (nodes : List Node) : List String := header :: (items nodes).map Item.line

/-- Keeps the first of equal lines. -/
def distinctFrom (seen : List String) : List String → List String
  | [] => []
  | l :: ls => if seen.contains l then distinctFrom seen ls else l :: distinctFrom (l :: seen) ls

def distinct (ls : List String) : List String := distinctFrom [] ls

/-- The text of a chart. -/
def render (nodes : List Node) : String := "\n".intercalate (distinct (lines nodes))

/-- Names with the given letters from one numbering. -/
def numberedNames (letters : List String) : List String :=
  letters.zipIdx.map fun p => numberedName p.1 (p.2 + 1)

end FlowSketch.ChartDrawing
