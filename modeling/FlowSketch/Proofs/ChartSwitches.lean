import FlowSketch.Proofs.ChartOutlets

/-!
# What follows a switch

A switch is left by its cases only, whether or not one of them is the default. What stands behind it in the same list
is reached from it exactly if the body of some case can be completed.
-/
namespace FlowSketch.ChartDrawing
open ChartLabel

mutual

/-- A run of the node can be completed. -/
def nodePasses : Node → Bool
  | .step s => !s.isTerminal
  | .function _ body => passes body
  | .promise _ _ => true
  | .decision _ yes no => passes yes || passes no
  | .loop _ _ _ => true
  | .tryCatch body _ handler _ => passes body || passes handler
  | .switch _ cases => casesPass cases
  | .event _ _ _ _ => false

/-- A run of the list can be completed. -/
def passes : List Node → Bool
  | [] => true
  | n :: ns => nodePasses n && passes ns

def casesPass : List Case → Bool
  | [] => false
  | ⟨_, body⟩ :: cases => passes body || casesPass cases

end

theorem casesPass_iff {cases : List Case} : casesPass cases = true ↔ ∃ c ∈ cases, passes c.body = true := by
  induction cases with
  | nil => simp [casesPass]
  | cons c cases ih =>
    obtain ⟨l, body⟩ := c
    simp [casesPass, ih, Case.body]

/-! ### Completed runs -/

namespace Runs

/-- Some run is completed. -/
def Completes (r : Runs) : Prop := ∃ vs, r vs .completed

@[simp] theorem completes_only (ending : Ending) : (only ending).Completes ↔ ending = .completed := by
  simp [Completes, only, eq_comm]

@[simp] theorem completes_none : ¬ none.Completes := fun ⟨_, h⟩ => h

@[simp] theorem completes_after (id : Id) (r : Runs) : (r.after id).Completes ↔ r.Completes := by
  constructor
  · rintro ⟨vs, ws, -, h⟩
    exact ⟨ws, h⟩
  · rintro ⟨ws, h⟩
    exact ⟨id :: ws, ws, rfl, h⟩

@[simp] theorem completes_either (r s : Runs) : (r.either s).Completes ↔ r.Completes ∨ s.Completes := exists_or

@[simp] theorem completes_andThen (r s : Runs) : (r.andThen s).Completes ↔ r.Completes ∧ s.Completes := by
  constructor
  · rintro ⟨vs, ⟨-, he⟩ | ⟨as, bs, -, hr, hs⟩⟩
    · cases he
    · exact ⟨⟨as, hr⟩, ⟨bs, hs⟩⟩
  · rintro ⟨⟨as, hr⟩, ⟨bs, hs⟩⟩
    exact ⟨as ++ bs, .inr ⟨as, bs, rfl, hr, hs⟩⟩

@[simp] theorem completes_cut (r : Runs) : ¬ r.cut.Completes := by
  rintro ⟨vs, he, -⟩
  cases he

@[simp] theorem completes_loop (id : Id) (r : Runs) : (Loop id r).Completes := ⟨[id], .leave⟩

end Runs

mutual

theorem nodeRuns_completes : ∀ (m : ℕ) (n : Node), (nodeRuns m n).Completes ↔ nodePasses n = true
  | m, .step s => by cases h : s.isTerminal <;> simp [nodeRuns, nodePasses, h]
  | m, .function _ body => by rw [nodeRuns, nodePasses, runs_completes m body]
  | m, .promise _ _ => by simp [nodeRuns, nodePasses]
  | m, .decision _ yes no => by simp [nodeRuns, nodePasses, runs_completes _ yes, runs_completes _ no]
  | m, .loop _ _ body => by simp [nodeRuns, nodePasses]
  | m, .tryCatch body _ handler _ => by
    simp [nodeRuns, nodePasses, runs_completes _ body, runs_completes _ handler]
  | m, .switch _ cases => by simp [nodeRuns, nodePasses, caseRuns_completes _ cases]
  | m, .event _ _ _ body => by simp [nodeRuns, nodePasses]

/-- A flow has a completed run exactly if it passes. -/
theorem runs_completes : ∀ (m : ℕ) (ns : List Node), (runs m ns).Completes ↔ passes ns = true
  | m, [] => by simp [runs, passes]
  | m, n :: ns => by simp [runs, passes, nodeRuns_completes m n, runs_completes _ ns]

theorem caseRuns_completes : ∀ (m : ℕ) (cases : List Case), (caseRuns m cases).Completes ↔ casesPass cases = true
  | m, [] => by simp [caseRuns, casesPass]
  | m, ⟨l, body⟩ :: cases => by
    simp [caseRuns, casesPass, runs_completes _ body, caseRuns_completes _ cases]

end

/-! ### The place of a switch -/

theorem drawNodes_append (a b : List Node) (m : ℕ) (exits : List Exit) :
    drawNodes m exits (a ++ b) =
      let first := drawNodes m exits a
      let later := drawNodes first.count first.exits b
      ⟨first.items ++ later.items, later.exits, later.count⟩ := by
  induction a generalizing m exits with
  | nil => simp [drawNodes]
  | cons n a ih => simp [drawNodes, ih]

theorem fans_append (a b : List Node) (m : ℕ) : fans m (a ++ b) = fans m a ++ fans (m + (elements a).length) b := by
  induction a generalizing m with
  | nil => simp [fans, elements]
  | cons n a ih => simp [fans, elements, ih, Nat.add_assoc]

/-- The switch that follows some nodes. -/
def switchId (before : List Node) : Id := .drawn .switch ((elements before).length + 1)

/-- The nodes that name the cases of a switch. -/
def caseIds (before : List Node) (cases : List Case) : List Id :=
  (caseOutlets ((elements before).length + 1) cases).filterMap Outlet.target

/-- The mark of a node that has one of its own. -/
def mark? : Node → Option Mark
  | .step _ => some .step
  | .decision _ _ _ => some .decision
  | .loop _ _ _ => some .loop
  | .tryCatch _ _ _ _ => some .tryBlock
  | .switch _ _ => some .switch
  | .event _ _ _ _ => some .handler
  | .function _ _ => none
  | .promise _ _ => none

/-- What is drawn first behind a switch. -/
def behindId (before : List Node) (cases : List Case) (mark : Mark) : Id :=
  .drawn mark ((elements before).length + 1 + (caseElements cases).length + 1)

/-- A node with a mark of its own takes up all exits that are open. -/
theorem link_entry {n : Node} {mark : Mark} (h : mark? n = some mark) {m : ℕ} {exits : List Exit} {a : Id}
    (ha : Opens exits a) : Link (drawNode m exits n).items a (.drawn mark (m + 1)) := by
  have entry (mark : Mark) (shape : Shape) (label : String) :
      Link (entered exits (.drawn mark (m + 1)) shape label) a (.drawn mark (m + 1)) := link_entered.2 ⟨ha, rfl⟩
  cases n <;> cases h
  case step s =>
    rw [drawNode, drawStep]
    split
    · exact link_append.2 (.inl (entry _ _ _))
    · exact entry _ _ _
  all_goals
    simp only [drawNode, List.append_assoc]
    exact link_append.2 (.inl (entry _ _ _))

/-- Each case is named by one of the nodes that are drawn for the cases. -/
theorem caseOutlets_target {m : ℕ} {cases : List Case} {o : Outlet} (h : o ∈ caseOutlets m cases) :
    ∃ c : Id, o.target = some c ∧ c.Between m (m + (caseElements cases).length) ∧ c ∈ (caseFans m cases).map Fan.id := by
  induction cases generalizing m with
  | nil => cases h
  | cons c cases ih =>
    obtain ⟨l, body⟩ := c
    rw [caseOutlets] at h
    simp only [caseElements, List.length_cons, List.length_append]
    rcases List.mem_cons.mp h with rfl | h
    · exact ⟨_, rfl, Id.between_new _ (by omega), by simp [caseFans, stepFan]⟩
    · obtain ⟨c, hc, hbetween, hmem⟩ := ih h
      exact ⟨c, hc, hbetween.mono (by omega) (by omega), by simp_all [caseFans]⟩

theorem mem_caseIds {before : List Node} {cases : List Case} {c : Id} (h : c ∈ caseIds before cases) :
    c.Between ((elements before).length + 1) ((elements before).length + 1 + (caseElements cases).length) ∧
      c ∈ (caseFans ((elements before).length + 1) cases).map Fan.id := by
  obtain ⟨o, ho, hc⟩ := List.mem_filterMap.mp h
  obtain ⟨c', hc', htarget⟩ := caseOutlets_target ho
  rw [hc] at hc'
  cases hc'
  exact htarget

/-- A node with a mark of its own is drawn first of all that is drawn for it. -/
theorem id_mem_nodeFans {n : Node} {mark : Mark} (h : mark? n = some mark) (m : ℕ) :
    Id.drawn mark (m + 1) ∈ (nodeFans m n).map Fan.id := by
  cases n <;> cases h <;> simp [nodeFans, stepFan]

section Placed
variable {before later : List Node} {l : String} {cases : List Case}

theorem switchId_drawn : switchId before ∈ nodeIds (items (before ++ .switch l cases :: later)) := by
  simp [nodeIds_items, chartFans, fans_append, fans, nodeFans, switchId]

theorem caseIds_drawn {c : Id} (h : c ∈ caseIds before cases) :
    c ∈ nodeIds (items (before ++ .switch l cases :: later)) := by
  have hmem := (mem_caseIds h).2
  rw [nodeIds_items, chartFans, fans_append, fans, nodeFans, Nat.zero_add]
  simp_all

theorem behindId_drawn {n : Node} {mark : Mark} (h : mark? n = some mark) {after : List Node} :
    behindId before cases mark ∈ nodeIds (items (before ++ .switch l cases :: n :: after)) := by
  have hid := id_mem_nodeFans h ((elements before).length + (nodeElements (.switch l cases)).length)
  have hcount : (elements before).length + (nodeElements (.switch l cases)).length =
      (elements before).length + 1 + (caseElements cases).length := by
    rw [nodeElements, List.length_cons]
    omega
  rw [nodeIds_items, chartFans, fans_append, fans, fans, Nat.zero_add, behindId, ← hcount]
  simp_all

/-- A chart with a switch in its list: what is drawn before it, its node, its cases, and what is drawn behind it. -/
theorem link_items_switch {a b : Id} : Link (items (before ++ .switch l cases :: later)) a b ↔
    let own := drawCases ((elements before).length + 1) (switchId before) cases
    let rest := drawNodes own.count own.exits later
    Link (body before).items a b ∨ (Opens (body before).exits a ∧ b = switchId before) ∨
      Link (own.items ++ (rest.items ++ wire rest.exits .stop)) a b := by
  rw [link_items, switchId, ← Nat.zero_add (elements before).length, ← drawNodes_count before 0 [⟨.start, ""⟩]]
  simp only [body, drawNodes_append, drawNodes, drawNode, link_append, link_entered, Opens, or_assoc]

theorem drawCases_own (before : List Node) (cases : List Case) :
    Draws (drawCases ((elements before).length + 1) (switchId before) cases) ((elements before).length + 1)
      (switchId before = ·) (caseRuns ((elements before).length + 1) cases) :=
  drawCases_draws cases (Id.upto_drawn .switch _)

/-- A walk from a switch stays in its cases and in what is drawn behind it. -/
theorem walk_switch {vs : List Id} {b : Id}
    (hw : Walk (items (before ++ .switch l cases :: later)) (switchId before) vs b) :
    let own := drawCases ((elements before).length + 1) (switchId before) cases
    let rest := drawNodes own.count own.exits later
    Walk (own.items ++ (rest.items ++ wire rest.exits .stop)) (switchId before) vs b := by
  intro own rest
  have hfirst := body_draws before
  have hcount : (body before).count = (elements before).length := by rw [body, drawNodes_count, Nat.zero_add]
  have hown : Draws own _ _ _ := drawCases_own before cases
  have hrest := (drawNodes_draws later hown.exit_upto).cut
  -- nothing leads from what is numbered after the nodes before the switch, nor from the end, back to those nodes
  refine (hw.confined (P := fun x => ¬ x.Upto (elements before).length) (fun {x y} hx hl => ?_) ?_).1
  · rcases link_items_switch.1 hl with hl | ⟨hopen, -⟩ | hl
    · exact absurd (hcount ▸ hfirst.source_upto hl) hx
    · exact absurd (hcount ▸ hfirst.exit_upto hopen) hx
    · refine ⟨hl, ?_⟩
      rcases hown.target_append hrest hl with rfl | hy
      · exact Id.stop_not_upto _
      · exact (hy.mono (Nat.le_succ _) le_rfl).not_upto
  · exact (Id.between_new .switch le_rfl).not_upto

/-- What is drawn behind a switch is reached from it by the completed runs of its cases. -/
theorem walk_behind (l : String) {n : Node} {mark : Mark} (h : mark? n = some mark) (after : List Node) :
    (∃ vs, Walk (items (before ++ .switch l cases :: n :: after)) (switchId before) (vs ++ [behindId before cases mark])
        (behindId before cases mark)) ↔
      (caseRuns ((elements before).length + 1) cases).Completes := by
  have hown := drawCases_own before cases
  have hcount : (drawCases ((elements before).length + 1) (switchId before) cases).count =
      (elements before).length + 1 + (caseElements cases).length := drawCases_count ..
  constructor
  · rintro ⟨vs, hw⟩
    have hrest := (drawNodes_draws (n :: after) hown.exit_upto).cut
    rcases hown.sequence_walk hrest rfl (walk_switch hw) with hw | ⟨as, w, b, bs, -, hopen, has, -⟩
    · rcases hown.walk_end hw with ⟨hnil, -⟩ | hstop | hbetween
      · simp at hnil
      · cases hstop
      · rw [hcount] at hbetween
        exact absurd hbetween.upto (Id.between_new mark le_rfl).not_upto
    · exact ⟨as, hown.completed rfl hopen has⟩
  · rintro ⟨vs, hr⟩
    obtain ⟨c, hopen, hw⟩ := hown.completes rfl hr
    refine ⟨vs, (hw.mono fun hl => ?_).append (.single ?_)⟩
    · exact link_items_switch.2 (.inr (.inr (link_append.2 (.inl hl))))
    · refine link_items_switch.2 (.inr (.inr (link_append.2 (.inr (link_append.2 (.inl ?_))))))
      rw [drawNodes, behindId, ← hcount]
      exact link_append.2 (.inl (link_entry h hopen))

end Placed

end FlowSketch.ChartDrawing

namespace FlowSketch.ChartGraph
open ChartDrawing

/-- All edges of a switch lead to the nodes that name its cases. -/
theorem links_switch (before : List Node) {later : List Node} {l : String} {cases : List Case} {b : String}
    (h : (ofText (render (before ++ .switch l cases :: later))).Links (switchId before).text b) :
    ∃ c ∈ caseIds before cases, b = c.text := by
  obtain ⟨e, he, hsource, rfl⟩ := h
  have hfan : (⟨switchId before, caseOutlets ((elements before).length + 1) cases⟩ : Fan) ∈
      chartFans (before ++ .switch l cases :: later) := by
    simp [chartFans, fans_append, fans, nodeFans, switchId]
  have hedge : e ∈ (ofText (render (before ++ .switch l cases :: later))).edgesFrom (switchId before).text :=
    List.mem_filter.mpr ⟨he, by simp [hsource]⟩
  obtain ⟨⟨id, o⟩, ho, -, -, htarget⟩ := Multiset.exists_mem_of_rel_of_mem (edgesFrom_render _ hfan) hedge
  obtain ⟨o', ho', heq⟩ := List.mem_map.mp (Multiset.mem_coe.mp ho)
  obtain ⟨-, rfl⟩ := Prod.mk.inj heq
  obtain ⟨c, hc, -⟩ := caseOutlets_target ho'
  exact ⟨c, List.mem_filterMap.mpr ⟨_, ho', hc⟩, htarget c hc⟩

/-- A path from a switch to what is drawn first behind it goes through a node that names one of the cases, and there is
one exactly if the body of some case can be completed. -/
theorem path_behind_switch (before after : List Node) (l : String) (cases : List Case) (n : Node) (mark : Mark)
    (h : mark? n = some mark) :
    let chart := ofText (render (before ++ .switch l cases :: n :: after))
    let path vs := List.IsChain chart.Links ((switchId before).text :: (vs ++ [(behindId before cases mark).text]))
    (∀ id ∈ switchId before :: behindId before cases mark :: caseIds before cases,
        id.text ∈ chart.nodes.map GraphNode.id) ∧
      (∀ vs, path vs → ∃ c ∈ caseIds before cases, c.text ∈ vs) ∧
        ((∃ vs, path vs) ↔ ∃ c ∈ cases, passes c.body = true) := by
  intro chart path
  have hids := nodeIds_render (before ++ .switch l cases :: n :: after)
  refine ⟨?_, ?_, ?_⟩
  · simp only [chart, hids, List.forall_mem_cons]
    exact ⟨List.mem_map_of_mem switchId_drawn, List.mem_map_of_mem (behindId_drawn h),
      fun c hc => List.mem_map_of_mem (caseIds_drawn hc)⟩
  · intro vs hpath
    cases vs with
    | nil =>
      obtain ⟨c, hc, hname⟩ := links_switch before (List.isChain_pair.mp hpath)
      obtain rfl := Id.text_injective hname
      exact absurd (mem_caseIds hc).1.upto (Id.between_new mark le_rfl).not_upto
    | cons v vs =>
      obtain ⟨c, hc, rfl⟩ := links_switch before (List.isChain_cons_cons.mp hpath).1
      exact ⟨c, hc, List.mem_cons_self⟩
  · rw [← casesPass_iff, ← caseRuns_completes ((elements before).length + 1), ← walk_behind l h after]
    constructor
    · rintro ⟨vs, hpath⟩
      obtain ⟨ids, -, hw⟩ := path_render.1 hpath
      exact ⟨ids, hw⟩
    · rintro ⟨ids, hw⟩
      exact ⟨ids.map Id.text, path_render.2 ⟨ids, rfl, hw⟩⟩

/-- A flow that goes on behind its switch by the second case. -/
theorem path_behind_second_case :
    mark? (.decision "late" [] []) = some .decision ∧
      ∃ vs, List.IsChain
        (ofText (render ([.step ⟨"process", "Work"⟩] ++
          .switch "mode" [⟨"1", [.step ⟨"return", "Return"⟩]⟩, ⟨"2", [.loop "true" "while" []]⟩] ::
            .decision "late" [] [] :: []))).Links ("SW2" :: (vs ++ ["D7"])) := by
  have h := path_behind_switch [.step ⟨"process", "Work"⟩] [] "mode"
    [⟨"1", [.step ⟨"return", "Return"⟩]⟩, ⟨"2", [.loop "true" "while" []]⟩] (.decision "late" [] []) .decision rfl
  exact ⟨rfl, h.2.2.mpr ⟨⟨"2", [.loop "true" "while" []]⟩, by simp, rfl⟩⟩

/-- The run in which no case matches is not drawn: what follows a switch without a default is not reached from it
around the node that names its only case. -/
theorem no_path_around_case :
    (∀ c ∈ [Case.mk "1" [.step ⟨"return", "Return: 1"⟩]], c.label ≠ "default") ∧
      ¬ ∃ vs, List.IsChain
        (ofText (render [.switch "Switch on x" [⟨"1", [.step ⟨"return", "Return: 1"⟩]⟩],
          .step ⟨"output", "Log: after"⟩])).Links ("SW1" :: (vs ++ ["N4"])) ∧ "N2" ∉ vs := by
  refine ⟨by simp [Case.label], ?_⟩
  rintro ⟨vs, hpath, hvs⟩
  have first {b : String} (h : (ofText (render [.switch "Switch on x" [⟨"1", [.step ⟨"return", "Return: 1"⟩]⟩],
      .step ⟨"output", "Log: after"⟩])).Links "SW1" b) : b = "N2" := by
    obtain ⟨c, hc, rfl⟩ := links_switch [] h
    obtain rfl : c = .drawn .step 2 := by simpa [caseIds, caseOutlets, elements] using hc
    rfl
  cases vs with
  | nil => exact absurd (first (List.isChain_pair.mp hpath)) (by decide)
  | cons v vs => exact hvs (first (List.isChain_cons_cons.mp hpath).1 ▸ List.mem_cons_self)

end FlowSketch.ChartGraph
