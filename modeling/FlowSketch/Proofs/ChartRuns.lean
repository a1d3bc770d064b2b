import FlowSketch.Proofs.ChartText
import FlowSketch.Proofs.ChartWalks

/-!
# The paths of a chart are the runs of its flow

The runs of a flow are defined by recursion, without a drawing: only the numbers of the elements are those that
a drawing hands out. A path of the chart from its start to its end is a run, completed or ended.
-/
namespace FlowSketch.ChartDrawing
open ChartLabel

mutual

/-- The runs of one node whose elements are numbered after `m`. -/
def nodeRuns (m : ℕ) : Node → Runs
  | .step s => Runs.after (.drawn .step (m + 1)) (.only (if s.isTerminal then .ended else .completed))
  | .function _ body => runs m body
  | .promise _ _ => .only .completed
  | .decision _ yes no =>
    Runs.after (.drawn .decision (m + 1)) ((runs (m + 1) yes).either (runs (m + 1 + (elements yes).length) no))
  | .loop _ _ body => .Loop (.drawn .loop (m + 1)) (runs (m + 1) body)
  | .tryCatch body _ handler _ =>
    let n := m + 1 + (elements body).length
    Runs.after (.drawn .tryBlock (m + 1))
      ((runs (m + 1) body).either (Runs.after (.drawn .catchBlock (n + 1)) (runs (n + 1) handler)))
  | .switch _ cases => Runs.after (.drawn .switch (m + 1)) (caseRuns (m + 1) cases)
  | .event _ _ _ body => Runs.after (.drawn .handler (m + 1)) (runs (m + 1) body).cut

/-- One run after the other, cut off by the first that ended. -/
def runs (m : ℕ) : List Node → Runs
  | [] => .only .completed
  | n :: ns => (nodeRuns m n).andThen (runs (m + (nodeElements n).length) ns)

/-- The runs of any one case. -/
def caseRuns (m : ℕ) : List Case → Runs
  | [] => .none
  | ⟨_, body⟩ :: cases =>
    (Runs.after (.drawn .step (m + 1)) (runs (m + 1) body)).either (caseRuns (m + 1 + (elements body).length) cases)

end

theorem only_ended : (Runs.only .completed).cut = .only .ended := by
  funext vs e
  simp [Runs.cut, Runs.only, and_comm]

theorem opens_upto_self (mark : Mark) (m : ℕ) (l : String) {a : Id} (h : Opens [⟨.drawn mark m, l⟩] a) : a.Upto m := by
  obtain rfl : _ = a := by simpa using h
  exact Id.upto_drawn mark m

theorem drawStep_draws (s : Step) {m : ℕ} {exits : List Exit} (h : ∀ {a}, Opens exits a → a.Upto m) :
    Draws (drawStep m exits s) m (Opens exits)
      (.after (.drawn .step (m + 1)) (.only (if s.isTerminal then .ended else .completed))) := by
  have here : Draws ⟨[], [⟨.drawn .step (m + 1), ""⟩], m + 1⟩ (m + 1) (.drawn .step (m + 1) = ·) (.only .completed) := by
    simpa using Draws.nothing (opens_upto_self .step (m + 1) "")
  unfold drawStep
  split
  · rw [← only_ended]
    exact here.cut.enter h _ _
  · simpa using here.enter h (Shape.ofKind s.kind) (safe s.label)

mutual

theorem drawNode_draws : ∀ (n : Node) {m : ℕ} {exits : List Exit}, (∀ {a}, Opens exits a → a.Upto m) →
    Draws (drawNode m exits n) m (Opens exits) (nodeRuns m n)
  | .step s, m, exits, h => by
    rw [drawNode, nodeRuns]
    exact drawStep_draws s h
  | .function _ body, m, exits, h => by
    rw [drawNode, nodeRuns]
    exact drawNodes_draws body h
  | .promise _ _, m, exits, h => by
    rw [drawNode, nodeRuns]
    exact .nothing h
  | .decision c yes no, m, exits, h => by
    have hyes := drawNodes_draws yes (opens_upto_self .decision (m + 1) "Yes")
    have hno := drawNodes_draws no fun ha => (opens_upto_self .decision (m + 1) "No" ha).mono hyes.le
    rw [opens_singleton] at hyes hno
    rw [drawNode, nodeRuns, List.append_assoc, ← drawNodes_count yes (m + 1) [⟨.drawn .decision (m + 1), "Yes"⟩]]
    exact (hyes.either hno).enter h _ _
  | .loop l _ body, m, exits, h => by
    have hbody := drawNodes_draws body (opens_upto_self .loop (m + 1) "Yes")
    rw [opens_singleton] at hbody
    rw [drawNode, nodeRuns, List.append_assoc]
    exact hbody.loop h _ _ _
  | .tryCatch body p handler _, m, exits, h => by
    have hbody := drawNodes_draws body (opens_upto_self .tryBlock (m + 1) "")
    have hhandler := drawNodes_draws handler
      (opens_upto_self .catchBlock ((drawNodes (m + 1) [⟨.drawn .tryBlock (m + 1), ""⟩] body).count + 1) "")
    rw [opens_singleton] at hbody hhandler
    have hcatch := hhandler.enter (fun ha => (opens_upto_self .tryBlock (m + 1) "Error" ha).mono hbody.le) .process
      (catchLabel p)
    rw [opens_singleton] at hcatch
    rw [drawNode, nodeRuns, ← drawNodes_count body (m + 1) [⟨.drawn .tryBlock (m + 1), ""⟩]]
    simpa [entered, wire] using (hbody.either hcatch).enter h .process (safe "Try block")
  | .switch l cases, m, exits, h => by
    have hcases := drawCases_draws cases (Id.upto_drawn .switch (m + 1))
    rw [drawNode, nodeRuns]
    exact hcases.enter h _ _
  | .event s n _ body, m, exits, h => by
    have hbody := drawNodes_draws body (opens_upto_self .handler (m + 1) "")
    rw [opens_singleton] at hbody
    rw [drawNode, nodeRuns, List.append_assoc]
    exact hbody.cut.enter h _ _

theorem drawNodes_draws : ∀ (ns : List Node) {m : ℕ} {exits : List Exit}, (∀ {a}, Opens exits a → a.Upto m) →
    Draws (drawNodes m exits ns) m (Opens exits) (runs m ns)
  | [], m, exits, h => by
    rw [drawNodes, runs]
    exact .nothing h
  | n :: ns, m, exits, h => by
    have hfirst := drawNode_draws n h
    have hlater := drawNodes_draws ns hfirst.exit_upto
    rw [drawNodes, runs, ← drawNode_count n m exits]
    exact hfirst.andThen hlater

theorem drawCases_draws : ∀ (cases : List Case) {m : ℕ} {id : Id}, id.Upto m →
    Draws (drawCases m id cases) m (id = ·) (caseRuns m cases)
  | [], m, id, h => by
    rw [drawCases, caseRuns]
    exact .none h
  | ⟨l, body⟩ :: cases, m, id, h => by
    have hbody := drawNodes_draws body (opens_upto_self .step (m + 1) "")
    rw [opens_singleton] at hbody
    have hgate : ∀ {a}, Opens [⟨id, safe l⟩] a → a.Upto m := by simpa using h
    have hcase := hbody.enter hgate .process (safe (caseStep l).label)
    have hlater := drawCases_draws cases (h.mono hcase.le)
    rw [opens_singleton] at hcase
    rw [drawCases, caseRuns, drawStep_caseStep, ← drawNodes_count body (m + 1) [⟨.drawn .step (m + 1), ""⟩]]
    exact hcase.either hlater

end

/-! ### Whole charts -/

/-- The links of a chart are those of its body and those from the exits that it leaves open. -/
theorem link_items {nodes : List Node} {a b : Id} :
    Link (items nodes) a b ↔ Link ((body nodes).items ++ wire (body nodes).exits .stop) a b := by
  simp [Link, items_eq, opened, body]

/-- What is drawn between the ends of a chart. -/
theorem body_draws (nodes : List Node) : Draws (body nodes) 0 (.start = ·) (runs 0 nodes) := by
  have hstart : ∀ {a}, Opens [⟨Id.start, ""⟩] a → a.Upto 0 := by simp [Id.Upto]
  rw [← opens_singleton Id.start ""]
  exact drawNodes_draws nodes hstart

/-- Between the ends of a chart there are the runs of the flow. -/
theorem walk_items_iff (nodes : List Node) (vs : List Id) :
    Walk (items nodes) .start (vs ++ [.stop]) .stop ↔ ∃ ending, runs 0 nodes vs ending := by
  have hdraws := (body_draws nodes).cut
  constructor
  · intro h
    exact (hdraws.ended rfl (h.mono link_items.1)).2
  · intro h
    exact (hdraws.ends rfl ⟨rfl, h⟩).mono link_items.2

end FlowSketch.ChartDrawing

namespace FlowSketch.ChartGraph
open ChartDrawing

def Links (g : ChartGraph) (a b : String) : Prop := ∃ e ∈ g.edges, e.source = a ∧ e.target = b

theorem links_render {nodes : List Node} {a b : String} :
    (ofText (render nodes)).Links a b ↔ ∃ x y : Id, a = x.text ∧ b = y.text ∧ Link (items nodes) x y := by
  rw [ofText_render_eq]
  constructor
  · rintro ⟨e, he, rfl, rfl⟩
    obtain ⟨x, y, l, hl, rfl⟩ := mem_graphEdges.1 he
    exact ⟨x, y, rfl, rfl, l, hl⟩
  · rintro ⟨x, y, rfl, rfl, l, hl⟩
    exact ⟨_, mem_graphEdges.2 ⟨x, y, l, hl, rfl⟩, rfl, rfl⟩

/-- The paths of a chart that was read back are the walks of the drawing. -/
theorem path_render {nodes : List Node} {vs : List String} {x y : Id} :
    List.IsChain (ofText (render nodes)).Links (x.text :: (vs ++ [y.text])) ↔
      ∃ ids, vs = ids.map Id.text ∧ Walk (items nodes) x (ids ++ [y]) y := by
  induction vs generalizing x with
  | nil =>
    rw [List.nil_append, List.isChain_pair, links_render]
    constructor
    · rintro ⟨x', y', hx, hy, hl⟩
      obtain rfl := Id.text_injective hx
      obtain rfl := Id.text_injective hy
      exact ⟨[], rfl, .single hl⟩
    · rintro ⟨ids, hids, hw⟩
      obtain rfl : ids = [] := by simpa using hids.symm
      cases hw with
      | cons hl _ => exact ⟨x, y, rfl, rfl, hl⟩
  | cons v vs ih =>
    rw [List.cons_append, List.isChain_cons_cons, links_render]
    constructor
    · rintro ⟨⟨x', z, hx, rfl, hl⟩, hchain⟩
      obtain rfl := Id.text_injective hx
      obtain ⟨ids, rfl, hw⟩ := ih.mp hchain
      exact ⟨z :: ids, rfl, .cons hl hw⟩
    · rintro ⟨ids, hids, hw⟩
      obtain ⟨z, ids, rfl⟩ := List.exists_cons_of_ne_nil (l := ids) (by rintro rfl; simp at hids)
      obtain ⟨rfl, rfl⟩ := List.cons.inj hids
      cases hw with
      | cons hl hw => exact ⟨⟨x, z, rfl, rfl, hl⟩, ih.mpr ⟨ids, rfl, hw⟩⟩

/-- Names stand between the start and the end of a chart on a path of its edges exactly when they name a run of the
flow, completed or ended. -/
theorem path_iff_run (nodes : List Node) (vs : List String) :
    List.IsChain (ofText (render nodes)).Links ("S" :: (vs ++ ["Z"])) ↔
      ∃ ids ending, runs 0 nodes ids ending ∧ vs = ids.map Id.text := by
  refine (path_render (x := .start) (y := .stop)).trans (exists_congr fun ids => ?_)
  rw [walk_items_iff, exists_and_right, and_comm]

end FlowSketch.ChartGraph
