import FlowSketch.MetricsFlow
import FlowSketch.Proofs.ChartOutlets

/-!
# Branch points of a chart

A chart has one edge more for each point where the paths of its flow part. So its edges less its nodes tell how
many paths are counted in the flow, if every path that is counted is drawn.
-/
namespace FlowSketch.ChartDrawing
open ChartLabel ChartGraph MetricsFlow

/-- How many paths part at a node, beside the one that goes on. -/
def branches : Node → ℕ
  | .decision .. | .loop .. | .tryCatch .. => 1
  | .switch _ cases => pathCount cases
  | _ => 0

def branchesOf (nodes : List Node) : ℕ := (nodes.map branches).sum

@[simp] theorem branchesOf_nil : branchesOf [] = 0 := rfl

@[simp] theorem branchesOf_cons (n : Node) (ns : List Node) : branchesOf (n :: ns) = branches n + branchesOf ns := by
  simp [branchesOf]

@[simp] theorem branchesOf_append (a b : List Node) : branchesOf (a ++ b) = branchesOf a + branchesOf b := by
  simp [branchesOf]

theorem branchesOf_eq (nodes : List Node) :
    branchesOf nodes = (nodes.filterMap Node.condition?).length + (nodes.filterMap Node.loopLabel?).length +
      nodes.countP Node.isTry +
        (nodes.filterMap Node.switchCases?).foldr (fun cases n => pathCount cases + n) 0 := by
  induction nodes with
  | nil => rfl
  | cons n ns ih =>
    cases n <;>
      simp [List.filterMap_cons, List.countP_cons, ih, branches, Node.condition?, Node.loopLabel?, Node.switchCases?,
        Node.isTry] <;>
      omega

theorem complexity_eq (nodes : List Node) : complexity nodes = 1 + branchesOf (Flow.preorder nodes) := by
  rw [branchesOf_eq, complexity, Flow.conditions, Flow.loopLabels, Flow.tryCount, Flow.switches]
  omega

/-- Whether all that is counted at a node is drawn, and all that is drawn is counted. -/
def DrawnAsCounted : Node → Prop
  | .promise .. => False
  | .tryCatch _ _ _ cleanup => cleanup = []
  | .switch _ cases => cases.countP (fun c => c.label = "default") = 1
  | _ => True

theorem caseOutlets_length (cases : List Case) (m : ℕ) : (caseOutlets m cases).length = cases.length := by
  induction cases generalizing m with
  | nil => rfl
  | cons c cases ih =>
    obtain ⟨l, body⟩ := c
    simp [caseOutlets, ih]

/-- A switch with one default has one case more than there are paths of their own. -/
theorem length_cases {cases : List Case} (h : cases.countP (fun c => c.label = "default") = 1) :
    cases.length = 1 + pathCount cases := by
  have hothers : cases.countP (fun c => ¬ decide (c.label = "default") = true) = pathCount cases :=
    List.countP_congr fun c _ => by simp
  rw [List.length_eq_countP_add_countP (fun c : Case => decide (c.label = "default")), h, hothers]

/-- Edges that are due at nodes, counted. -/
def dueCount (fs : List Fan) : ℕ := Multiset.card (due fs)

@[simp] theorem dueCount_nil : dueCount [] = 0 := rfl

@[simp] theorem dueCount_cons (f : Fan) (fs : List Fan) : dueCount (f :: fs) = f.outlets.length + dueCount fs := by
  simp [dueCount, Fan.due]

@[simp] theorem dueCount_append (fs gs : List Fan) : dueCount (fs ++ gs) = dueCount fs + dueCount gs := by
  simp [dueCount]

mutual

theorem dueCount_nodeFans : ∀ (n : Node) (m : ℕ), (∀ n' ∈ n.preorder, DrawnAsCounted n') →
    dueCount (nodeFans m n) = (nodeFans m n).length + branchesOf n.preorder
  | .step s, m, _ => by simp [nodeFans, stepFan, Node.preorder, branches]
  | .function _ body, m, h => by
    have hbody := dueCount_fans body m fun n hn => h n (by simp [Node.preorder, hn])
    simp [nodeFans, Node.preorder, branches, hbody]
  | .promise l body, m, h => absurd (h (.promise l body) (by simp [Node.preorder])) id
  | .decision c yes no, m, h => by
    have hyes := dueCount_fans yes (m + 1) fun n hn => h n (by simp [Node.preorder, hn])
    have hno := dueCount_fans no (m + 1 + (elements yes).length) fun n hn => h n (by simp [Node.preorder, hn])
    simp [nodeFans, Node.preorder, branches, hyes, hno]
    omega
  | .loop l k body, m, h => by
    have hbody := dueCount_fans body (m + 1) fun n hn => h n (by simp [Node.preorder, hn])
    simp [nodeFans, Node.preorder, branches, hbody]
    omega
  | .tryCatch body p handler cleanup, m, h => by
    have hcleanup : cleanup = [] := h (.tryCatch body p handler cleanup) (by simp [Node.preorder])
    have hbody := dueCount_fans body (m + 1) fun n hn => h n (by simp [Node.preorder, hn])
    have hhandler := dueCount_fans handler (m + 1 + (elements body).length + 1) fun n hn =>
      h n (by simp [Node.preorder, hn])
    simp [nodeFans, Node.preorder, branches, hbody, hhandler, hcleanup, Flow.preorder]
    omega
  | .switch l cases, m, h => by
    have hdefault : cases.countP (fun c => c.label = "default") = 1 := h (.switch l cases) (by simp [Node.preorder])
    have hcases := dueCount_caseFans cases (m + 1) fun n hn => h n (by simp [Node.preorder, hn])
    simp [nodeFans, Node.preorder, branches, hcases, caseOutlets_length, length_cases hdefault]
    omega
  | .event s n l body, m, h => by
    have hbody := dueCount_fans body (m + 1) fun n hn => h n (by simp [Node.preorder, hn])
    simp [nodeFans, Node.preorder, branches, hbody]
    omega

/-- Each node is left by one edge, and by one more for each path that parts there. -/
theorem dueCount_fans : ∀ (ns : List Node) (m : ℕ), (∀ n ∈ Flow.preorder ns, DrawnAsCounted n) →
    dueCount (fans m ns) = (fans m ns).length + branchesOf (Flow.preorder ns)
  | [], m, _ => rfl
  | n :: ns, m, h => by
    have hfirst := dueCount_nodeFans n m fun n' hn => h n' (by simp [Flow.preorder, hn])
    have hlater := dueCount_fans ns (m + (nodeElements n).length) fun n' hn => h n' (by simp [Flow.preorder, hn])
    simp [fans, Flow.preorder, hfirst, hlater]
    omega

theorem dueCount_caseFans : ∀ (cases : List Case) (m : ℕ), (∀ n ∈ Flow.casesPreorder cases, DrawnAsCounted n) →
    dueCount (caseFans m cases) = (caseFans m cases).length + branchesOf (Flow.casesPreorder cases)
  | [], m, _ => rfl
  | ⟨l, body⟩ :: cases, m, h => by
    have hbody := dueCount_fans body (m + 1) fun n hn => h n (by simp [Flow.casesPreorder, hn])
    have hlater := dueCount_caseFans cases (m + 1 + (elements body).length) fun n hn =>
      h n (by simp [Flow.casesPreorder, hn])
    simp [caseFans, stepFan, Flow.casesPreorder, hbody, hlater]
    omega

end

/-! ### Lines -/

/-- What the lines below the header of a chart say. -/
def readLines (text : String) : List Line := ((TextBlank.textLines text.toList).drop 1).filterMap line?

def isDefinition : Line → Bool
  | .node .. => true
  | .edge .. => false

def definitionCount (text : String) : ℕ := (readLines text).countP isDefinition

def edgeCount (text : String) : ℕ := (readLines text).countP fun l => !isDefinition l

theorem countP_definitions (items : List Item) :
    (items.map Item.read).countP isDefinition = (nodeIds items).length := by
  induction items with
  | nil => rfl
  | cons i items ih => cases i <;> rw [List.map_cons, List.countP_cons, ih] <;> rfl

theorem countP_edges (items : List Item) :
    (items.map Item.read).countP (fun l => !isDefinition l) = (graphEdges items).length := by
  induction items with
  | nil => rfl
  | cons i items ih => cases i <;> rw [List.map_cons, List.countP_cons, ih] <;> rfl

theorem definitionCount_render (nodes : List Node) : definitionCount (render nodes) = (chartFans nodes).length := by
  rw [definitionCount, readLines, render_reads, countP_definitions, nodeIds_items, List.length_map]

theorem edgeCount_render (nodes : List Node) : edgeCount (render nodes) = dueCount (chartFans nodes) := by
  rw [edgeCount, readLines, render_reads, countP_edges, dueCount,
    ← Multiset.card_eq_card_of_rel (graphEdges_items nodes), Multiset.coe_card]

/-- Where all paths that are counted are drawn, the edge lines of a chart less its node lines, and two, are as many as
the paths that are counted in the flow. -/
theorem edges_sub_definitions (nodes : List Node) (h : ∀ n ∈ Flow.preorder nodes, DrawnAsCounted n) :
    (edgeCount (render nodes) : ℤ) - definitionCount (render nodes) + 2 = complexity nodes := by
  have hdue := dueCount_fans nodes 0 h
  rw [edgeCount_render, definitionCount_render, complexity_eq, chartFans]
  simp only [dueCount_cons, List.length_cons, List.length_nil, hdue]
  push_cast
  ring

/-- A loop that can be left at once, and a handler around a switch with cases of all kinds. -/
def branching : List Node :=
  [.loop "more" "while" [.decision "ready" [] [.step ⟨"return", "Return"⟩]],
    .tryCatch [.switch "mode" [⟨"1", [.step ⟨"throw", "Throw"⟩]⟩, ⟨"1", []⟩, ⟨"default", []⟩]] "e"
      [.event "job" "end" "" [.function "done" []]] []]

theorem branching_edges_sub_definitions :
    (∀ n ∈ Flow.preorder branching, DrawnAsCounted n) ∧
      (edgeCount (render branching) : ℤ) - definitionCount (render branching) + 2 = 6 := by
  have hcounted : ∀ n ∈ Flow.preorder branching, DrawnAsCounted n := by
    simp [branching, Flow.preorder, Flow.casesPreorder, Node.preorder, DrawnAsCounted, Case.label]
  have hcomplexity : complexity branching = 6 := by decide +kernel
  have h := edges_sub_definitions branching hcounted
  rw [hcomplexity] at h
  exact ⟨hcounted, h⟩

end FlowSketch.ChartDrawing
