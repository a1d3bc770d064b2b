import FlowSketch.Proofs.ChartRuns

/-!
# The edges that leave the nodes of a chart

A node is to be left by certain edges, which depend on what it stands for and not on where it is drawn. While a
chart is drawn, its edges and its open exits together are the edges that the nodes drawn so far are to be left
by; in the end no exit is open.
-/
namespace FlowSketch.ChartDrawing
open ChartLabel ChartGraph

/-- An edge that is to leave a node. Its target is given only where the node decides it. -/
structure Outlet where
  label : String
  target : Option Id
  deriving DecidableEq, Repr

/-- A drawn node with the edges that are to leave it. -/
structure Fan where
  id : Id
  outlets : List Outlet

def stepFan (m : ℕ) (s : Step) : Fan :=
  ⟨.drawn .step (m + 1), [⟨"", if s.isTerminal then some .stop else none⟩]⟩

/-- A switch is left once for each case, to the step that names the case. -/
def caseOutlets (m : ℕ) : List Case → List Outlet
  | [] => []
  | ⟨l, body⟩ :: cases =>
    ⟨safe l, some (.drawn .step (m + 1))⟩ :: caseOutlets (m + 1 + (elements body).length) cases

mutual

/-- The elements of a node, numbered after `m`, with the edges that leave them. -/
def nodeFans (m : ℕ) : Node → List Fan
  | .step s => [stepFan m s]
  | .function _ body => fans m body
  | .promise _ _ => []
  | .decision _ yes no =>
    ⟨.drawn .decision (m + 1), [⟨"Yes", none⟩, ⟨"No", none⟩]⟩
      :: (fans (m + 1) yes ++ fans (m + 1 + (elements yes).length) no)
  | .loop _ _ body => ⟨.drawn .loop (m + 1), [⟨"Yes", none⟩, ⟨"No", none⟩]⟩ :: fans (m + 1) body
  | .tryCatch body _ handler _ =>
    let n := m + 1 + (elements body).length
    ⟨.drawn .tryBlock (m + 1), [⟨"", none⟩, ⟨"Error", some (.drawn .catchBlock (n + 1))⟩]⟩
      :: (fans (m + 1) body ++ ⟨.drawn .catchBlock (n + 1), [⟨"", none⟩]⟩ :: fans (n + 1) handler)
  | .switch _ cases => ⟨.drawn .switch (m + 1), caseOutlets (m + 1) cases⟩ :: caseFans (m + 1) cases
  | .event _ _ _ body => ⟨.drawn .handler (m + 1), [⟨"", none⟩]⟩ :: fans (m + 1) body

def fans (m : ℕ) : List Node → List Fan
  | [] => []
  | n :: ns => nodeFans m n ++ fans (m + (nodeElements n).length) ns

def caseFans (m : ℕ) : List Case → List Fan
  | [] => []
  | ⟨l, body⟩ :: cases =>
    stepFan m (caseStep l) :: (fans (m + 1) body ++ caseFans (m + 1 + (elements body).length) cases)

end

/-- The nodes of a whole chart: its start is left by one edge, its end by none. -/
def chartFans (nodes : List Node) : List Fan := ⟨.start, [⟨"", none⟩]⟩ :: ⟨.stop, []⟩ :: fans 0 nodes

/-! ### The nodes that are drawn -/

theorem nodeIds_drawStep (s : Step) (m : ℕ) (exits : List Exit) :
    nodeIds (drawStep m exits s).items = [(stepFan m s).id] := by
  unfold drawStep
  split <;> simp [stepFan]

mutual

theorem nodeIds_drawNode : ∀ (n : Node) (m : ℕ) (exits : List Exit),
    nodeIds (drawNode m exits n).items = (nodeFans m n).map Fan.id
  | .step s, m, exits => by rw [drawNode, nodeIds_drawStep, nodeFans, List.map_singleton]
  | .function _ body, m, exits => by rw [drawNode, nodeIds_drawNodes body, nodeFans]
  | .promise _ _, m, exits => rfl
  | .decision c yes no, m, exits => by
    simp [drawNode, drawNodes_count, nodeIds_drawNodes yes, nodeIds_drawNodes no, nodeFans]
  | .loop l _ body, m, exits => by simp [drawNode, nodeIds_drawNodes body, nodeFans]
  | .tryCatch body p handler _, m, exits => by
    simp [drawNode, drawNodes_count, nodeIds_drawNodes body, nodeIds_drawNodes handler, nodeFans]
  | .switch l cases, m, exits => by simp [drawNode, nodeIds_drawCases cases, nodeFans]
  | .event s n _ body, m, exits => by simp [drawNode, nodeIds_drawNodes body, nodeFans]

theorem nodeIds_drawNodes : ∀ (ns : List Node) (m : ℕ) (exits : List Exit),
    nodeIds (drawNodes m exits ns).items = (fans m ns).map Fan.id
  | [], m, exits => rfl
  | n :: ns, m, exits => by
    simp [drawNodes, drawNode_count, nodeIds_drawNode n, nodeIds_drawNodes ns, fans]

theorem nodeIds_drawCases : ∀ (cases : List Case) (m : ℕ) (id : Id),
    nodeIds (drawCases m id cases).items = (caseFans m cases).map Fan.id
  | [], m, id => rfl
  | ⟨l, body⟩ :: cases, m, id => by
    simp [drawCases, drawStep_count, drawNodes_count, nodeIds_drawStep, nodeIds_drawNodes body,
      nodeIds_drawCases cases, caseFans]

end

theorem nodeIds_items (nodes : List Node) : nodeIds (items nodes) = (chartFans nodes).map Fan.id := by
  simp [items_eq, opened, body, nodeIds_drawNodes, chartFans]

/-- Nodes that are defined once have different names. -/
theorem Scoped.nodup {there : List Id} {items : List Item} (h : Scoped there items) :
    (nodeIds items).Nodup ∧ ∀ id ∈ nodeIds items, id ∉ there := by
  induction items generalizing there with
  | nil => simp
  | cons i items ih =>
    cases i with
    | edge a b l => exact ih h.2
    | node id s l =>
      obtain ⟨hnodup, hnew⟩ := ih h.2
      have hid : id ∉ nodeIds items := fun hid => hnew id hid (by simp)
      refine ⟨List.nodup_cons.mpr ⟨hid, hnodup⟩, ?_⟩
      intro id' hid'
      rcases List.mem_cons.mp hid' with rfl | hid'
      · exact h.1
      · exact fun hthere => hnew id' hid' (List.mem_append_left _ hthere)

theorem chartFans_nodup (nodes : List Node) : ((chartFans nodes).map Fan.id).Nodup := by
  rw [← nodeIds_items]
  exact (items_sound nodes).inScope.nodup.1

theorem graphNodes_id (items : List Item) :
    (graphNodes items).map GraphNode.id = (nodeIds items).map Id.text := by
  induction items with
  | nil => rfl
  | cons i items ih => cases i <;> simp [ih]

theorem nodeIds_render (nodes : List Node) :
    (ofText (render nodes)).nodes.map GraphNode.id = (nodeIds (items nodes)).map Id.text := by
  rw [ofText_render_eq, graphNodes_id]

/-! ### The edges that are drawn -/

@[simp] theorem graphEdges_nil : graphEdges [] = [] := rfl

@[simp] theorem graphEdges_append (a b : List Item) : graphEdges (a ++ b) = graphEdges a ++ graphEdges b := by
  simp [graphEdges]

/-- An edge leaves a node by an outlet. -/
def Meets (e : GraphEdge) (o : Id × Outlet) : Prop :=
  e.source = o.1.text ∧ e.label = o.2.label ∧ ∀ t ∈ o.2.target, e.target = t.text

/-- The edges that are to leave a node. -/
def Fan.due (f : Fan) : List (Id × Outlet) := f.outlets.map (f.id, ·)

/-- The edges that are to leave the given nodes. -/
def due (fs : List Fan) : Multiset (Id × Outlet) := fs.flatMap Fan.due

/-- The edges that are still missing at open exits. -/
def missing (exits : List Exit) : Multiset (Id × Outlet) :=
  (exits.map fun e => (e.source, ⟨e.label, none⟩) : List (Id × Outlet))

@[simp] theorem due_nil : due [] = 0 := rfl

@[simp] theorem due_cons (f : Fan) (fs : List Fan) : due (f :: fs) = f.due + due fs := by
  simp [due, Multiset.coe_add]

@[simp] theorem due_append (fs gs : List Fan) : due (fs ++ gs) = due fs + due gs := by
  simp [due, Multiset.coe_add]

@[simp] theorem missing_nil : missing [] = 0 := rfl

@[simp] theorem missing_append (a b : List Exit) : missing (a ++ b) = missing a + missing b := by
  simp [missing, Multiset.coe_add]

/-- Items draw the edges that are owed, all but those that are missing at the open exits. -/
def Settles (items : List Item) (exits : List Exit) (owed : Multiset (Id × Outlet)) : Prop :=
  ∃ met, Multiset.Rel Meets (graphEdges items) met ∧ met + missing exits = owed

namespace Settles
variable {items items' : List Item} {exits exits' : List Exit} {owed owed' : Multiset (Id × Outlet)}

theorem nothing (exits : List Exit) : Settles [] exits (missing exits) := ⟨0, .zero, zero_add _⟩

theorem append (h : Settles items exits owed) (h' : Settles items' exits' owed') :
    Settles (items ++ items') (exits ++ exits') (owed + owed') := by
  obtain ⟨met, hrel, rfl⟩ := h
  obtain ⟨met', hrel', rfl⟩ := h'
  refine ⟨met + met', ?_, ?_⟩
  · rw [graphEdges_append, ← Multiset.coe_add]
    exact hrel.add hrel'
  · rw [missing_append, add_add_add_comm]

/-- What is drawn next meets what was missing. -/
theorem andThen (h : Settles items exits owed) (h' : Settles items' exits' (missing exits + owed')) :
    Settles (items ++ items') exits' (owed + owed') := by
  obtain ⟨met, hrel, rfl⟩ := h
  obtain ⟨met', hrel', heq⟩ := h'
  refine ⟨met + met', ?_, ?_⟩
  · rw [graphEdges_append, ← Multiset.coe_add]
    exact hrel.add hrel'
  · rw [add_assoc, heq, add_assoc]

theorem wire (exits : List Exit) (target : Id) : Settles (wire exits target) [] (missing exits) := by
  refine ⟨missing exits, ?_, by simp⟩
  induction exits with
  | nil => exact .zero
  | cons e exits ih =>
    have hmeets : Meets ⟨e.source.text, target.text, e.label⟩ (e.source, ⟨e.label, none⟩) := ⟨rfl, rfl, by simp⟩
    exact .cons hmeets ih

theorem close (h : Settles items exits owed) (target : Id) :
    Settles (items ++ ChartDrawing.wire exits target) [] owed := by
  have hwire := Settles.wire exits target
  rw [← add_zero (missing exits)] at hwire
  simpa using h.andThen hwire

theorem of_eq (h : Settles items exits owed) (hi : items = items') (he : exits = exits') (ho : owed = owed') :
    Settles items' exits' owed' := by
  rwa [← hi, ← he, ← ho]

theorem node (h : Settles items exits owed) (id : Id) (shape : Shape) (label : String) :
    Settles (.node id shape label :: items) exits owed := h

theorem edge (source target : Id) (label : String) :
    Settles [.edge source target label] [] {(source, ⟨label, some target⟩)} :=
  ⟨{(source, ⟨label, some target⟩)}, .cons ⟨rfl, rfl, by simp⟩ .zero, by simp⟩

theorem entered (taken : List Exit) (id : Id) (shape : Shape) (label : String) :
    Settles (entered taken id shape label) [] (missing taken) := Settles.wire taken id

end Settles

theorem drawStep_settles (s : Step) (m : ℕ) (exits : List Exit) :
    Settles (drawStep m exits s).items (drawStep m exits s).exits (missing exits + (stepFan m s).due) := by
  have entry := Settles.entered exits (.drawn .step (m + 1)) (Shape.ofKind s.kind) (safe s.label)
  unfold drawStep stepFan
  split
  · exact entry.append (.edge _ _ _)
  · exact (entry.append (.nothing [⟨.drawn .step (m + 1), ""⟩])).of_eq (by simp) rfl rfl

mutual

theorem drawNode_settles : ∀ (n : Node) (m : ℕ) (exits : List Exit),
    Settles (drawNode m exits n).items (drawNode m exits n).exits (missing exits + due (nodeFans m n))
  | .step s, m, exits => by
    rw [drawNode, nodeFans, due_cons, due_nil, add_zero]
    exact drawStep_settles s m exits
  | .function _ body, m, exits => by
    rw [drawNode, nodeFans]
    exact drawNodes_settles body m exits
  | .promise _ _, m, exits => by
    rw [drawNode, nodeFans, due_nil, add_zero]
    exact .nothing exits
  | .decision c yes no, m, exits => by
    have entry := Settles.entered exits (.drawn .decision (m + 1)) .decision (question c)
    have hyes := drawNodes_settles yes (m + 1) [⟨.drawn .decision (m + 1), "Yes"⟩]
    have hno := drawNodes_settles no (drawNodes (m + 1) [⟨.drawn .decision (m + 1), "Yes"⟩] yes).count
      [⟨.drawn .decision (m + 1), "No"⟩]
    have hown : (Fan.due ⟨.drawn .decision (m + 1), [⟨"Yes", none⟩, ⟨"No", none⟩]⟩ : Multiset (Id × Outlet)) =
        missing [⟨.drawn .decision (m + 1), "Yes"⟩] + missing [⟨.drawn .decision (m + 1), "No"⟩] := rfl
    rw [drawNode, nodeFans, due_cons, due_append, hown,
      ← drawNodes_count yes (m + 1) [⟨.drawn .decision (m + 1), "Yes"⟩]]
    exact ((entry.append hyes).append hno).of_eq rfl rfl (by abel)
  | .loop l _ body, m, exits => by
    have entry := Settles.entered exits (.drawn .loop (m + 1)) .decision (question l)
    have hbody := (drawNodes_settles body (m + 1) [⟨.drawn .loop (m + 1), "Yes"⟩]).close (.drawn .loop (m + 1))
    have hown : (Fan.due ⟨.drawn .loop (m + 1), [⟨"Yes", none⟩, ⟨"No", none⟩]⟩ : Multiset (Id × Outlet)) =
        missing [⟨.drawn .loop (m + 1), "Yes"⟩] + missing [⟨.drawn .loop (m + 1), "No"⟩] := rfl
    rw [drawNode, nodeFans, due_cons, hown]
    have h := (entry.append hbody).append (.nothing [⟨.drawn .loop (m + 1), "No"⟩])
    exact h.of_eq (by simp) (by simp) (by abel)
  | .tryCatch body p handler _, m, exits => by
    have entry := Settles.entered exits (.drawn .tryBlock (m + 1)) .process (safe "Try block")
    have hbody := drawNodes_settles body (m + 1) [⟨.drawn .tryBlock (m + 1), ""⟩]
    rw [drawNode, nodeFans, ← drawNodes_count body (m + 1) [⟨.drawn .tryBlock (m + 1), ""⟩]]
    set n := (drawNodes (m + 1) [⟨.drawn .tryBlock (m + 1), ""⟩] body).count
    have failure := (Settles.edge (.drawn .tryBlock (m + 1)) (.drawn .catchBlock (n + 1)) "Error").node
      (.drawn .catchBlock (n + 1)) .process (catchLabel p)
    have hhandler := drawNodes_settles handler (n + 1) [⟨.drawn .catchBlock (n + 1), ""⟩]
    have hown : (Fan.due ⟨.drawn .tryBlock (m + 1), [⟨"", none⟩, ⟨"Error", some (.drawn .catchBlock (n + 1))⟩]⟩ :
        Multiset (Id × Outlet)) = missing [⟨.drawn .tryBlock (m + 1), ""⟩] +
          {(.drawn .tryBlock (m + 1), ⟨"Error", some (.drawn .catchBlock (n + 1))⟩)} := rfl
    have hcatch : (Fan.due ⟨.drawn .catchBlock (n + 1), [⟨"", none⟩]⟩ : Multiset (Id × Outlet)) =
        missing [⟨.drawn .catchBlock (n + 1), ""⟩] := rfl
    rw [due_cons, due_append, due_cons, hown, hcatch]
    exact (((entry.append hbody).append failure).append hhandler).of_eq (by simp) (by simp) (by abel)
  | .switch l cases, m, exits => by
    have entry := Settles.entered exits (.drawn .switch (m + 1)) .decision (safe l)
    have hcases := drawCases_settles cases (m + 1) (.drawn .switch (m + 1))
    rw [drawNode, nodeFans, due_cons]
    exact entry.append hcases
  | .event s n _ body, m, exits => by
    have entry := Settles.entered exits (.drawn .handler (m + 1)) .process (handlerLabel s n)
    have hbody := (drawNodes_settles body (m + 1) [⟨.drawn .handler (m + 1), ""⟩]).close .stop
    rw [drawNode, nodeFans, due_cons]
    exact (entry.append hbody).of_eq (by simp) rfl rfl

theorem drawNodes_settles : ∀ (ns : List Node) (m : ℕ) (exits : List Exit),
    Settles (drawNodes m exits ns).items (drawNodes m exits ns).exits (missing exits + due (fans m ns))
  | [], m, exits => by
    rw [drawNodes, fans, due_nil, add_zero]
    exact .nothing exits
  | n :: ns, m, exits => by
    have hlater := drawNodes_settles ns (drawNode m exits n).count (drawNode m exits n).exits
    have hboth := (drawNode_settles n m exits).andThen hlater
    rw [drawNodes, fans, due_append, ← add_assoc, ← drawNode_count n m exits]
    exact hboth

theorem drawCases_settles : ∀ (cases : List Case) (m : ℕ) (id : Id),
    Settles (drawCases m id cases).items (drawCases m id cases).exits
      ((Fan.due ⟨id, caseOutlets m cases⟩ : Multiset (Id × Outlet)) + due (caseFans m cases))
  | [], m, id => .nothing []
  | ⟨l, body⟩ :: cases, m, id => by
    have naming := (Settles.edge id (.drawn .step (m + 1)) (safe l)).node (.drawn .step (m + 1)) .process
      (safe (caseStep l).label)
    have hbody := drawNodes_settles body (m + 1) [⟨.drawn .step (m + 1), ""⟩]
    have hlater := drawCases_settles cases (drawNodes (m + 1) [⟨.drawn .step (m + 1), ""⟩] body).count id
    have hown : (Fan.due (stepFan m (caseStep l)) : Multiset (Id × Outlet)) = missing [⟨.drawn .step (m + 1), ""⟩] := rfl
    have hcases (os : List Outlet) :
        (Fan.due ⟨id, ⟨safe l, some (.drawn .step (m + 1))⟩ :: os⟩ : Multiset (Id × Outlet)) =
          {(id, ⟨safe l, some (.drawn .step (m + 1))⟩)} + Fan.due ⟨id, os⟩ := rfl
    rw [drawCases, caseOutlets, caseFans, drawStep_caseStep, due_cons, due_append, hown, hcases,
      ← drawNodes_count body (m + 1) [⟨.drawn .step (m + 1), ""⟩]]
    exact ((naming.append hbody).append hlater).of_eq rfl rfl (by abel)

end

theorem items_settle (nodes : List Node) : Settles (items nodes) [] (due (chartFans nodes)) := by
  have hbody := (drawNodes_settles nodes 0 [⟨.start, ""⟩]).close .stop
  have hstart : (Fan.due ⟨.start, [⟨"", none⟩]⟩ : Multiset (Id × Outlet)) = missing [⟨.start, ""⟩] := rfl
  have hstop : (Fan.due ⟨.stop, []⟩ : Multiset (Id × Outlet)) = 0 := rfl
  rw [items_eq, chartFans, due_cons, due_cons, hstart, hstop, zero_add]
  exact ((hbody.node .stop .terminator (safe "End")).node .start .terminator (safe "Start"))

/-- The edges of a chart are those that its nodes are to be left by. -/
theorem graphEdges_items (nodes : List Node) :
    Multiset.Rel Meets (graphEdges (items nodes)) (due (chartFans nodes)) := by
  obtain ⟨met, hrel, hmet⟩ := items_settle nodes
  rwa [← hmet, missing_nil, add_zero]

/-! ### The edges of one node -/

theorem Fan.due_filter_self (f : Fan) : f.due.filter (fun o => o.1 = f.id) = f.due := by
  simp [Fan.due, List.filter_eq_self]

theorem Fan.due_filter_ne {f : Fan} {id : Id} (h : f.id ≠ id) : f.due.filter (fun o => o.1 = id) = [] := by
  simp [Fan.due, h]

/-- What is due is due at nodes with different names. -/
theorem due_filter {fs : List Fan} (h : (fs.map Fan.id).Nodup) {f : Fan} (hf : f ∈ fs) :
    (fs.flatMap Fan.due).filter (fun o => o.1 = f.id) = f.due := by
  induction fs with
  | nil => cases hf
  | cons g fs ih =>
    obtain ⟨hg, hfs⟩ := List.nodup_cons.mp h
    rw [List.flatMap_cons, List.filter_append]
    rcases List.mem_cons.mp hf with rfl | hf
    · have hothers : (fs.flatMap Fan.due).filter (fun o => o.1 = f.id) = [] := by
        rw [List.filter_flatMap, List.flatMap_eq_nil_iff]
        exact fun g hgs => Fan.due_filter_ne fun heq => hg (heq ▸ List.mem_map_of_mem hgs)
      rw [Fan.due_filter_self, hothers, List.append_nil]
    · have hne : g.id ≠ f.id := fun heq => hg (heq ▸ List.mem_map_of_mem hf)
      rw [Fan.due_filter_ne hne, ih hfs hf, List.nil_append]

/-- Edges meet outlets of the node that they leave. -/
theorem Meets.filter {es : Multiset GraphEdge} {owed : Multiset (Id × Outlet)} (h : Multiset.Rel Meets es owed)
    (id : Id) : Multiset.Rel Meets (es.filter fun e => e.source = id.text) (owed.filter fun o => o.1 = id) := by
  induction h with
  | zero => exact .zero
  | @cons e o es owed hmeets _ ih =>
    have hsame : e.source = id.text ↔ o.1 = id := by rw [hmeets.1, Id.text_inj]
    by_cases ho : o.1 = id
    · have he := hsame.mpr ho
      rw [Multiset.filter_cons_of_pos es he, Multiset.filter_cons_of_pos owed ho]
      exact .cons hmeets ih
    · have he := mt hsame.mp ho
      rw [Multiset.filter_cons_of_neg es he, Multiset.filter_cons_of_neg owed ho]
      exact ih

theorem edgesFrom_render (nodes : List Node) {f : Fan} (hf : f ∈ chartFans nodes) :
    Multiset.Rel Meets ((ofText (render nodes)).edgesFrom f.id.text) f.due := by
  have hfrom := Meets.filter (graphEdges_items nodes) f.id
  rw [due, Multiset.filter_coe, Multiset.filter_coe, due_filter (chartFans_nodup nodes) hf] at hfrom
  have hedges : (ofText (render nodes)).edgesFrom f.id.text =
      (graphEdges (items nodes)).filter fun e => e.source = f.id.text := by
    rw [ofText_render_eq]
    exact List.filter_congr fun e _ => by rw [beq_eq_decide]
  rwa [hedges]

/-- No edge leads back to the start. -/
theorem target_ne_start (nodes : List Node) {a b : Id} (h : Link (items nodes) a b) : b ≠ .start := by
  rcases (body_draws nodes).cut.target (link_items.1 h) with rfl | hb
  · simp
  · rintro rfl
    exact hb

end FlowSketch.ChartDrawing

namespace FlowSketch.ChartGraph
open ChartDrawing

/-- In a chart that was read back, every node is left by the edges that are to leave it, each drawn once, and by no
others; no edge leads to the start. -/
theorem edgesFrom_rel_due (nodes : List Node) :
    (ofText (render nodes)).nodes.map GraphNode.id = (chartFans nodes).map (fun f => f.id.text) ∧
      (∀ f ∈ chartFans nodes, Multiset.Rel Meets ((ofText (render nodes)).edgesFrom f.id.text) f.due) ∧
      ∀ e ∈ (ofText (render nodes)).edges, e.target ≠ Id.start.text := by
  refine ⟨?_, fun f hf => edgesFrom_render nodes hf, fun e he => ?_⟩
  · rw [ofText_render_eq, graphNodes_id, nodeIds_items, List.map_map]
    rfl
  · rw [ofText_render_eq] at he
    obtain ⟨a, b, l, hl, rfl⟩ := mem_graphEdges.1 he
    rw [Ne, Id.text_inj]
    exact target_ne_start nodes ⟨l, hl⟩

end FlowSketch.ChartGraph
