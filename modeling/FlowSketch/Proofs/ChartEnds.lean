import FlowSketch.FlowTraverse
import FlowSketch.Proofs.ChartOutlets

/-!
# Charts without dead ends

Every node of a chart leads to its end, also where no path leads from the start. A part of a drawing leads its gates
and its nodes onward, to the end or to an exit that is still open; parts that do so are put together to parts that do.
A switch leads on by its cases, so it has to have one.
-/
namespace FlowSketch.ChartDrawing
open ChartLabel ChartGraph Relation

/-- The links lead from a node to the end of the chart or to an open exit. -/
def Onward (items : List Item) (exits : List Exit) (a : Id) : Prop :=
  ∃ c, ReflTransGen (Link items) a c ∧ (c = .stop ∨ Opens exits c)

theorem onward_stop (items : List Item) (exits : List Exit) : Onward items exits .stop := ⟨.stop, .refl, .inl rfl⟩

theorem onward_open {items : List Item} {exits : List Exit} {a : Id} (h : Opens exits a) : Onward items exits a :=
  ⟨a, .refl, .inr h⟩

/-- What leads to open exits leads further when they do. -/
theorem Onward.andThen {items items' : List Item} {exits exits' : List Exit} {a : Id} (h : Onward items exits a)
    (links : ∀ {x y}, Link items x y → Link items' x y) (further : ∀ {c}, Opens exits c → Onward items' exits' c) :
    Onward items' exits' a := by
  obtain ⟨c, hpath, hc⟩ := h
  have hpath' : ReflTransGen (Link items') a c := ReflTransGen.mono (fun _ _ => links) _ _ hpath
  have hc' : Onward items' exits' c := by
    rcases hc with rfl | hc
    · exact onward_stop items' exits'
    · exact further hc
  obtain ⟨d, hrest, hd⟩ := hc'
  exact ⟨d, hpath'.trans hrest, hd⟩

/-- The gates of a part and the nodes that it draws lead onward. -/
structure Part.Leads (p : Part) (gate : Id → Prop) : Prop where
  gates : ∀ {a}, gate a → Onward p.items p.exits a
  nodes : ∀ {a}, a ∈ nodeIds p.items → Onward p.items p.exits a

namespace Part.Leads
variable {p q : Part} {gate gate' : Id → Prop}

theorem mono (h : p.Leads gate) (hgate : ∀ {a}, gate' a → gate a) : p.Leads gate' := ⟨fun ha => h.gates (hgate ha), h.nodes⟩

theorem nothing (exits : List Exit) (count : ℕ) : Part.Leads ⟨[], exits, count⟩ (Opens exits) :=
  ⟨onward_open, by simp⟩

theorem andThen (hp : p.Leads gate) (hq : q.Leads (Opens p.exits)) :
    Part.Leads ⟨p.items ++ q.items, q.exits, q.count⟩ gate := by
  have later {a : Id} (h : Onward q.items q.exits a) : Onward (p.items ++ q.items) q.exits a :=
    h.andThen (fun hl => link_append.2 (.inr hl)) onward_open
  have first {a : Id} (h : Onward p.items p.exits a) : Onward (p.items ++ q.items) q.exits a :=
    h.andThen (fun hl => link_append.2 (.inl hl)) fun hc => later (hq.gates hc)
  refine ⟨fun ha => first (hp.gates ha), fun ha => ?_⟩
  rcases List.mem_append.mp (nodeIds_append _ _ ▸ ha) with ha | ha
  · exact first (hp.nodes ha)
  · exact later (hq.nodes ha)

theorem either (hp : p.Leads gate) (hq : q.Leads gate') :
    Part.Leads ⟨p.items ++ q.items, p.exits ++ q.exits, q.count⟩ gate := by
  have first {a : Id} (h : Onward p.items p.exits a) : Onward (p.items ++ q.items) (p.exits ++ q.exits) a :=
    h.andThen (fun hl => link_append.2 (.inl hl)) fun hc => onward_open (opens_append.2 (.inl hc))
  have second {a : Id} (h : Onward q.items q.exits a) : Onward (p.items ++ q.items) (p.exits ++ q.exits) a :=
    h.andThen (fun hl => link_append.2 (.inr hl)) fun hc => onward_open (opens_append.2 (.inr hc))
  refine ⟨fun ha => first (hp.gates ha), fun ha => ?_⟩
  rcases List.mem_append.mp (nodeIds_append _ _ ▸ ha) with ha | ha
  · exact first (hp.nodes ha)
  · exact second (hq.nodes ha)

/-- A new node leads on, and so does what leads to it. -/
theorem enter {id : Id} (hq : q.Leads (id = ·)) (exits : List Exit) (shape : Shape) (label : String) :
    Part.Leads ⟨entered exits id shape label ++ q.items, q.exits, q.count⟩ (Opens exits) := by
  have later {a : Id} (h : Onward q.items q.exits a) :
      Onward (entered exits id shape label ++ q.items) q.exits a :=
    h.andThen (fun hl => link_append.2 (.inr hl)) onward_open
  obtain ⟨c, hpath, hc⟩ := later (hq.gates rfl)
  refine ⟨fun ha => ⟨c, .head (link_append.2 (.inl (link_entered.2 ⟨ha, rfl⟩))) hpath, hc⟩, fun {a} ha => ?_⟩
  rcases List.mem_append.mp (nodeIds_append _ _ ▸ ha) with ha | ha
  · obtain rfl : a = id := by simpa using ha
    exact ⟨c, hpath, hc⟩
  · exact later (hq.nodes ha)

/-- Open exits lead on where they are wired to. -/
theorem close (hq : q.Leads gate) (target : Id) (exits : List Exit) (h : target = .stop ∨ Opens exits target) (count : ℕ) :
    Part.Leads ⟨q.items ++ wire q.exits target, exits, count⟩ gate := by
  have further {a : Id} (ha : Onward q.items q.exits a) : Onward (q.items ++ wire q.exits target) exits a :=
    ha.andThen (fun hl => link_append.2 (.inl hl)) fun hc =>
      ⟨target, .single (link_append.2 (.inr (link_wire.2 ⟨hc, rfl⟩))), h⟩
  exact ⟨fun ha => further (hq.gates ha), fun ha => further (hq.nodes (by simpa using ha))⟩

end Part.Leads

theorem drawStep_leads (s : Step) (m : ℕ) (exits : List Exit) : (drawStep m exits s).Leads (Opens exits) := by
  have here : Part.Leads ⟨[], [⟨.drawn .step (m + 1), ""⟩], m + 1⟩ (.drawn .step (m + 1) = ·) := by
    simpa using Part.Leads.nothing [⟨.drawn .step (m + 1), ""⟩] (m + 1)
  unfold drawStep
  split
  · exact (here.close .stop [] (.inl rfl) (m + 1)).enter exits _ _
  · simpa using here.enter exits (Shape.ofKind s.kind) (safe s.label)

/-- Every switch has a case. -/
def HasCases (nodes : List Node) : Prop := ∀ n ∈ nodes, n.switchCases? ≠ some []

@[simp] theorem hasCases_cons {n : Node} {ns : List Node} :
    HasCases (n :: ns) ↔ n.switchCases? ≠ some [] ∧ HasCases ns := List.forall_mem_cons

@[simp] theorem hasCases_append {a b : List Node} : HasCases (a ++ b) ↔ HasCases a ∧ HasCases b :=
  List.forall_mem_append

mutual

theorem drawNode_leads : ∀ (n : Node) (m : ℕ) (exits : List Exit), HasCases n.preorder →
    (drawNode m exits n).Leads (Opens exits)
  | .step s, m, exits, _ => by
    rw [drawNode]
    exact drawStep_leads s m exits
  | .function _ body, m, exits, h => by
    rw [drawNode]
    exact drawNodes_leads body m exits (hasCases_cons.1 h).2
  | .promise _ _, m, exits, _ => by
    rw [drawNode]
    exact .nothing exits m
  | .decision c yes no, m, exits, h => by
    obtain ⟨-, hyes, hno⟩ := by simpa [Node.preorder] using h
    have yesLeads := drawNodes_leads yes (m + 1) [⟨.drawn .decision (m + 1), "Yes"⟩] hyes
    have noLeads := drawNodes_leads no (drawNodes (m + 1) [⟨.drawn .decision (m + 1), "Yes"⟩] yes).count
      [⟨.drawn .decision (m + 1), "No"⟩] hno
    rw [opens_singleton] at yesLeads
    rw [drawNode, List.append_assoc]
    exact (yesLeads.either noLeads).enter exits _ _
  | .loop l _ body, m, exits, h => by
    have bodyLeads := drawNodes_leads body (m + 1) [⟨.drawn .loop (m + 1), "Yes"⟩] (hasCases_cons.1 h).2
    rw [opens_singleton] at bodyLeads
    rw [drawNode, List.append_assoc]
    exact (bodyLeads.close (.drawn .loop (m + 1)) _ (.inr (by simp)) _).enter exits _ _
  | .tryCatch body p handler _, m, exits, h => by
    obtain ⟨-, hbody, hhandler, -⟩ := by simpa [Node.preorder] using h
    have bodyLeads := drawNodes_leads body (m + 1) [⟨.drawn .tryBlock (m + 1), ""⟩] hbody
    have handlerLeads := drawNodes_leads handler
      ((drawNodes (m + 1) [⟨.drawn .tryBlock (m + 1), ""⟩] body).count + 1)
      [⟨.drawn .catchBlock ((drawNodes (m + 1) [⟨.drawn .tryBlock (m + 1), ""⟩] body).count + 1), ""⟩] hhandler
    rw [opens_singleton] at bodyLeads handlerLeads
    have catchLeads := handlerLeads.enter [⟨.drawn .tryBlock (m + 1), "Error"⟩] .process (catchLabel p)
    rw [drawNode]
    simpa [entered, wire] using (bodyLeads.either catchLeads).enter exits .process (safe "Try block")
  | .switch l cases, m, exits, h => by
    obtain ⟨hsome, hcases⟩ := hasCases_cons.1 h
    have casesLead := drawCases_leads cases (m + 1) (.drawn .switch (m + 1)) hcases
    rw [drawNode]
    refine (casesLead.mono fun ha => ⟨ha, ?_⟩).enter exits _ _
    rintro rfl
    exact hsome rfl
  | .event s n _ body, m, exits, h => by
    have bodyLeads := drawNodes_leads body (m + 1) [⟨.drawn .handler (m + 1), ""⟩] (hasCases_cons.1 h).2
    rw [opens_singleton] at bodyLeads
    rw [drawNode, List.append_assoc]
    exact (bodyLeads.close .stop [] (.inl rfl) _).enter exits _ _

theorem drawNodes_leads : ∀ (ns : List Node) (m : ℕ) (exits : List Exit), HasCases (Flow.preorder ns) →
    (drawNodes m exits ns).Leads (Opens exits)
  | [], m, exits, _ => by
    rw [drawNodes]
    exact .nothing exits m
  | n :: ns, m, exits, h => by
    obtain ⟨hfirst, hlater⟩ := hasCases_append.1 h
    rw [drawNodes]
    exact (drawNode_leads n m exits hfirst).andThen (drawNodes_leads ns _ _ hlater)

/-- The node of a switch leads on by its first case. -/
theorem drawCases_leads : ∀ (cases : List Case) (m : ℕ) (id : Id), HasCases (Flow.casesPreorder cases) →
    (drawCases m id cases).Leads fun a => id = a ∧ cases ≠ []
  | [], m, id, _ => by
    rw [drawCases]
    exact ⟨fun ha => absurd rfl ha.2, by simp⟩
  | ⟨l, body⟩ :: cases, m, id, h => by
    obtain ⟨hbody, hcases⟩ := hasCases_append.1 h
    have bodyLeads := drawNodes_leads body (m + 1) [⟨.drawn .step (m + 1), ""⟩] hbody
    rw [opens_singleton] at bodyLeads
    have caseLeads := bodyLeads.enter [⟨id, safe l⟩] .process (safe (caseStep l).label)
    rw [opens_singleton] at caseLeads
    have later := drawCases_leads cases (drawNodes (m + 1) [⟨.drawn .step (m + 1), ""⟩] body).count id hcases
    rw [drawCases, drawStep_caseStep]
    exact (caseLeads.either later).mono And.left

end

/-! ### Whole charts -/

/-- Every node that is drawn leads to the end. -/
theorem reaches_stop {nodes : List Node} (h : HasCases (Flow.preorder nodes)) {a : Id} (ha : a ∈ nodeIds (items nodes)) :
    ReflTransGen (Link (items nodes)) a .stop := by
  have hleads := (drawNodes_leads nodes 0 [⟨.start, ""⟩] h).close .stop [] (.inl rfl) 0
  have honward : a = .stop ∨ Onward ((body nodes).items ++ wire (body nodes).exits .stop) [] a := by
    have hcases : a = .start ∨ a = .stop ∨ a ∈ nodeIds (body nodes).items := by simpa [items_eq, opened] using ha
    rcases hcases with rfl | rfl | ha
    · exact .inr (hleads.gates (by simp))
    · exact .inl rfl
    · exact .inr (hleads.nodes (by simpa [body] using ha))
  rcases honward with rfl | ⟨c, hpath, rfl | hc⟩
  · exact .refl
  · exact ReflTransGen.mono (fun _ _ => link_items.2) _ _ hpath
  · simp [Opens] at hc

end FlowSketch.ChartDrawing

namespace FlowSketch.ChartGraph
open ChartDrawing Relation

/-- In a chart that was read back, every node has a path to the end, if no switch is without cases. -/
theorem reaches_end (nodes : List Node) (h : [] ∉ Flow.switches nodes) :
    ∀ n ∈ (ofText (render nodes)).nodes, ReflTransGen (ofText (render nodes)).Links n.id "Z" := by
  intro n hn
  have hcases : HasCases (Flow.preorder nodes) := fun n hn he => h (List.mem_filterMap.mpr ⟨n, hn, he⟩)
  obtain ⟨a, ha, hname⟩ := List.mem_map.mp (nodeIds_render nodes ▸ List.mem_map_of_mem hn)
  rw [← hname]
  exact (reaches_stop hcases ha).lift Id.text fun a b hl => links_render.2 ⟨a, b, rfl, rfl, hl⟩

/-- A flow in which nothing leads to the switch behind the return, nor to the decision behind the throw. -/
def cutOff : List Node :=
  [.tryCatch [.loop "true" "while" [.event "job" "end" "" [.step ⟨"output", "Log"⟩]]] "e"
      [.step ⟨"return", "Return"⟩, .switch "mode" [⟨"1", []⟩]] [],
    .step ⟨"throw", "Throw"⟩, .decision "late" [.step ⟨"process", "Work"⟩] []]

theorem cutOff_reaches_end :
    [] ∉ Flow.switches cutOff ∧
      ∀ n ∈ (ofText (render cutOff)).nodes, ReflTransGen (ofText (render cutOff)).Links n.id "Z" := by
  have h : [] ∉ Flow.switches cutOff := by
    simp [cutOff, Flow.switches, Flow.preorder, Flow.casesPreorder, Node.preorder, Node.switchCases?]
  exact ⟨h, reaches_end cutOff h⟩

end FlowSketch.ChartGraph
