import FlowSketch.ChartDrawing
import FlowSketch.ChartGraph
import Mathlib

/-!
# The elements of a flow

A flow has elements in drawing order, whatever exits are open when it is drawn. The numbers of a drawing
are the places of the elements, and the nodes of a drawing are its elements.
-/
namespace FlowSketch.ChartDrawing
open ChartLabel

/-- What is drawn as one node. -/
structure Element where
  mark : Mark
  shape : Shape
  label : String
  deriving DecidableEq, Repr

def Element.ofStep (s : Step) : Element := ⟨.step, Shape.ofKind s.kind, safe s.label⟩

mutual

def nodeElements : Node → List Element
  | .step s => [.ofStep s]
  | .function _ body => elements body
  | .promise _ _ => []
  | .decision c yes no => ⟨.decision, .decision, question c⟩ :: (elements yes ++ elements no)
  | .loop l _ body => ⟨.loop, .decision, question l⟩ :: elements body
  | .tryCatch body p handler _ =>
    ⟨.tryBlock, .process, "Try block"⟩ :: (elements body ++ ⟨.catchBlock, .process, catchLabel p⟩ :: elements handler)
  | .switch l cases => ⟨.switch, .decision, safe l⟩ :: caseElements cases
  | .event s n _ body => ⟨.handler, .process, handlerLabel s n⟩ :: elements body

def elements : List Node → List Element
  | [] => []
  | n :: ns => nodeElements n ++ elements ns

def caseElements : List Case → List Element
  | [] => []
  | ⟨l, body⟩ :: cases => .ofStep (caseStep l) :: (elements body ++ caseElements cases)

end

/-- Nodes as a reader of the chart is to find them, numbered from the number after `m`. -/
def numbered (m : ℕ) (es : List Element) : List GraphNode :=
  (es.zipIdx (m + 1)).map fun e => ⟨numberedName e.1.mark.letters e.2, some (e.1.label, e.1.shape)⟩

@[simp] theorem numbered_nil (m : ℕ) : numbered m [] = [] := rfl

@[simp] theorem numbered_cons (m : ℕ) (e : Element) (es : List Element) :
    numbered m (e :: es) = ⟨numberedName e.mark.letters (m + 1), some (e.label, e.shape)⟩ :: numbered (m + 1) es := by
  simp [numbered, List.zipIdx_cons]

@[simp] theorem numbered_append (m : ℕ) (es fs : List Element) :
    numbered m (es ++ fs) = numbered m es ++ numbered (m + es.length) fs := by
  simp [numbered, List.zipIdx_append, Nat.add_right_comm]

def Item.graphNode? : Item → Option GraphNode
  | node id shape label => some ⟨id.text, some (label, shape)⟩
  | edge .. => none

def graphNodes (items : List Item) : List GraphNode := items.filterMap Item.graphNode?

@[simp] theorem graphNodes_nil : graphNodes [] = [] := rfl

@[simp] theorem graphNodes_append (a b : List Item) : graphNodes (a ++ b) = graphNodes a ++ graphNodes b := by
  simp [graphNodes]

@[simp] theorem graphNodes_node (id : Id) (s : Shape) (l : String) (items : List Item) :
    graphNodes (.node id s l :: items) = ⟨id.text, some (l, s)⟩ :: graphNodes items := rfl

@[simp] theorem graphNodes_edge (a b : Id) (l : String) (items : List Item) :
    graphNodes (.edge a b l :: items) = graphNodes items := rfl

@[simp] theorem graphNodes_wire (exits : List Exit) (target : Id) : graphNodes (wire exits target) = [] := by
  simp [graphNodes, wire, Item.graphNode?]

@[simp] theorem graphNodes_entered (exits : List Exit) (id : Id) (s : Shape) (l : String) :
    graphNodes (entered exits id s l) = [⟨id.text, some (l, s)⟩] := by
  simp [entered]

theorem drawStep_count (s : Step) (m : ℕ) (exits : List Exit) : (drawStep m exits s).count = m + 1 := by
  unfold drawStep
  split <;> rfl

mutual

theorem drawNode_count : ∀ (n : Node) (m : ℕ) (exits : List Exit),
    (drawNode m exits n).count = m + (nodeElements n).length
  | .step s, m, exits => by rw [drawNode, drawStep_count, nodeElements, List.length_singleton]
  | .function _ body, m, exits => by rw [drawNode, drawNodes_count body, nodeElements]
  | .promise _ _, m, exits => rfl
  | .decision c yes no, m, exits => by
    simp only [drawNode, drawNodes_count yes, drawNodes_count no, nodeElements, List.length_cons, List.length_append]
    omega
  | .loop l _ body, m, exits => by
    simp only [drawNode, drawNodes_count body, nodeElements, List.length_cons]
    omega
  | .tryCatch body p handler _, m, exits => by
    simp only [drawNode, drawNodes_count body, drawNodes_count handler, nodeElements, List.length_cons,
      List.length_append]
    omega
  | .switch l cases, m, exits => by
    simp only [drawNode, drawCases_count cases, nodeElements, List.length_cons]
    omega
  | .event s n _ body, m, exits => by
    simp only [drawNode, drawNodes_count body, nodeElements, List.length_cons]
    omega

/-- The number that is used last is the number of elements, whatever exits are open. -/
theorem drawNodes_count : ∀ (ns : List Node) (m : ℕ) (exits : List Exit),
    (drawNodes m exits ns).count = m + (elements ns).length
  | [], m, exits => rfl
  | n :: ns, m, exits => by
    simp only [drawNodes, drawNode_count n, drawNodes_count ns, elements, List.length_append]
    omega

theorem drawCases_count : ∀ (cases : List Case) (m : ℕ) (id : Id),
    (drawCases m id cases).count = m + (caseElements cases).length
  | [], m, id => rfl
  | ⟨l, body⟩ :: cases, m, id => by
    simp only [drawCases, drawStep_count, drawNodes_count body, drawCases_count cases, caseElements,
      List.length_cons, List.length_append]
    omega

end

theorem graphNodes_drawStep (s : Step) (m : ℕ) (exits : List Exit) :
    graphNodes (drawStep m exits s).items = numbered m [.ofStep s] := by
  unfold drawStep
  split <;> simp [Element.ofStep, Id.text]

mutual

theorem graphNodes_drawNode : ∀ (n : Node) (m : ℕ) (exits : List Exit),
    graphNodes (drawNode m exits n).items = numbered m (nodeElements n)
  | .step s, m, exits => by rw [drawNode, graphNodes_drawStep, nodeElements]
  | .function _ body, m, exits => by rw [drawNode, graphNodes_drawNodes body, nodeElements]
  | .promise _ _, m, exits => rfl
  | .decision c yes no, m, exits => by
    simp [drawNode, drawNodes_count, graphNodes_drawNodes yes, graphNodes_drawNodes no, nodeElements, Id.text]
  | .loop l _ body, m, exits => by
    simp [drawNode, graphNodes_drawNodes body, nodeElements, Id.text]
  | .tryCatch body p handler _, m, exits => by
    have title : safe "Try block" = "Try block" := by decide +kernel
    simp [drawNode, drawNodes_count, graphNodes_drawNodes body, graphNodes_drawNodes handler, nodeElements, Id.text,
      title]
  | .switch l cases, m, exits => by
    simp [drawNode, graphNodes_drawCases cases, nodeElements, Id.text]
  | .event s n _ body, m, exits => by
    simp [drawNode, graphNodes_drawNodes body, nodeElements, Id.text]

/-- The nodes of a drawing are the elements of the flow. -/
theorem graphNodes_drawNodes : ∀ (ns : List Node) (m : ℕ) (exits : List Exit),
    graphNodes (drawNodes m exits ns).items = numbered m (elements ns)
  | [], m, exits => rfl
  | n :: ns, m, exits => by
    simp [drawNodes, drawNode_count, graphNodes_drawNode n, graphNodes_drawNodes ns, elements]

theorem graphNodes_drawCases : ∀ (cases : List Case) (m : ℕ) (id : Id),
    graphNodes (drawCases m id cases).items = numbered m (caseElements cases)
  | [], m, id => rfl
  | ⟨l, body⟩ :: cases, m, id => by
    simp [drawCases, drawStep_count, drawNodes_count, graphNodes_drawStep, graphNodes_drawNodes body,
      graphNodes_drawCases cases, caseElements]

end

end FlowSketch.ChartDrawing
