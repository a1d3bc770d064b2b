import FlowSketch.IndentedFlow
import FlowSketch.Proofs.TextCuts

/-!
# Repeated steps of indented code

The lines are read one by one, and of steps in a row that read the same the first is kept. What the lines give, with each
step left out that reads as the step kept directly before it, is what a source is due. The reader goes by the last step it
has kept and not by the last node, so a step is left out also where constructs stand between it and the one it repeats.
-/
namespace FlowSketch.IndentedFlow
open TextBlank

/-! ### Labels of steps -/

/-- The label of a node that is a step. -/
def stepLabel? (n : Node) : Option String := n.step?.map Step.label

/-- The labels of the steps among nodes, with the constructs passed over. -/
def stepLabels (nodes : List Node) : List String := nodes.filterMap stepLabel?

/-- Both nodes are steps, and they read the same. -/
def Repeats (earlier later : Node) : Prop := (stepLabel? later).isSome ∧ stepLabel? earlier = stepLabel? later

instance : DecidableRel Repeats := fun earlier later =>
  inferInstanceAs (Decidable ((stepLabel? later).isSome ∧ stepLabel? earlier = stepLabel? later))

theorem repeats_iff {earlier later : Node} :
    Repeats earlier later ↔ ∃ s t, earlier = .step s ∧ later = .step t ∧ s.label = t.label := by
  cases earlier <;> cases later <;> simp [Repeats, stepLabel?, Node.step?]

theorem eq_step {n : Node} {s : Step} (h : n.step? = some s) : n = .step s := by
  cases n with
  | step t => rw [Option.some.inj h]
  | _ => cases h

@[simp] theorem stepLabels_step (s : Step) (nodes : List Node) :
    stepLabels (.step s :: nodes) = s.label :: stepLabels nodes := rfl

theorem stepLabels_construct {n : Node} (h : n.step? = none) (nodes : List Node) :
    stepLabels (n :: nodes) = stepLabels nodes := by
  rw [stepLabels, List.filterMap_cons_none (by rw [stepLabel?, h]; rfl)]
  rfl

/-! ### Collapsing -/

theorem collapseSteps_construct {n : Node} (h : n.step? = none) (last : Option String) (nodes : List Node) :
    collapseSteps last (n :: nodes) = n :: collapseSteps last nodes := by
  cases n with
  | step s => cases h
  | _ => rfl

/-- A node in front changes nothing about what two lists of nodes collapse to. -/
theorem collapseSteps_cons_congr {as bs : List Node} (h : ∀ last, collapseSteps last as = collapseSteps last bs)
    (last : Option String) (n : Node) : collapseSteps last (n :: as) = collapseSteps last (n :: bs) := by
  cases n with
  | step s => rw [collapseSteps, collapseSteps, h, h]
  | _ => rw [collapseSteps_construct rfl, collapseSteps_construct rfl, h]

/-- A step that repeats the node before it goes, whatever the last step was. -/
theorem collapseSteps_repeated {a b : Node} (h : Repeats a b) (last : Option String) (nodes : List Node) :
    collapseSteps last (a :: b :: nodes) = collapseSteps last (a :: nodes) := by
  obtain ⟨s, t, rfl, rfl, hlabel⟩ := repeats_iff.mp h
  simp only [collapseSteps, ← hlabel, if_true]
  split <;> simp [*]

/-- Steps that are left out for the node directly before them would be left out anyway. -/
theorem collapseSteps_destutter' (last : Option String) (a : Node) (nodes : List Node) :
    collapseSteps last (nodes.destutter' (fun m n => ¬ Repeats m n) a) = collapseSteps last (a :: nodes) := by
  induction nodes generalizing a last with
  | nil => rfl
  | cons b nodes ih =>
    by_cases h : Repeats a b
    · rw [List.destutter'_cons_neg _ (not_not.mpr h), ih, collapseSteps_repeated h]
    · rw [List.destutter'_cons_pos _ h]
      exact collapseSteps_cons_congr (fun last => ih last b) last a

theorem collapseSteps_destutter (nodes : List Node) :
    collapseSteps none (nodes.destutter fun m n => ¬ Repeats m n) = collapseSteps none nodes := by
  cases nodes with
  | nil => rfl
  | cons a nodes => exact collapseSteps_destutter' none a nodes

/-- Behind the last step, no step that is kept reads as the step before it. -/
theorem stepLabels_collapseSteps (last : Option String) (nodes : List Node) :
    (last.toList ++ stepLabels (collapseSteps last nodes)).IsChain (· ≠ ·) := by
  induction nodes generalizing last with
  | nil => cases last <;> simp [collapseSteps, stepLabels]
  | cons n nodes ih =>
    cases hn : n.step? with
    | none =>
      rw [collapseSteps_construct hn, stepLabels_construct hn]
      exact ih last
    | some s =>
      obtain rfl := eq_step hn
      rw [collapseSteps]
      split
      · exact ih last
      · next h =>
        rw [stepLabels_step]
        cases last with
        | none => exact ih (some s.label)
        | some label =>
          have hne : label ≠ s.label := fun heq => h (congrArg some heq)
          exact List.IsChain.cons_cons hne (ih (some s.label))

/-- Nodes none of whose steps reads as the step before it stay as they are. -/
theorem collapseSteps_eq_self {last : Option String} {nodes : List Node}
    (h : (last.toList ++ stepLabels nodes).IsChain (· ≠ ·)) : collapseSteps last nodes = nodes := by
  induction nodes generalizing last with
  | nil => rfl
  | cons n nodes ih =>
    cases hn : n.step? with
    | none =>
      rw [stepLabels_construct hn] at h
      rw [collapseSteps_construct hn, ih h]
    | some s =>
      obtain rfl := eq_step hn
      rw [stepLabels_step] at h
      have hlast : last ≠ some s.label := by
        rintro rfl
        exact (List.isChain_cons_cons.mp h).1 rfl
      have hlater : ((some s.label).toList ++ stepLabels nodes).IsChain (· ≠ ·) := h.right_of_append
      rw [collapseSteps, if_neg hlast, ih hlater]

/-! ### Lines -/

/-- The nodes that the lines of a source give, each read as a source of its own. -/
def lineNodes (code : String) : List Node := (sourceLines code).flatMap ofSource

/-- The nodes of the lines, without each step that reads as the step directly before it among those kept. -/
def dueNodes (code : String) : List Node := (lineNodes code).destutter fun m n => ¬ Repeats m n

theorem ofSource_line {line : List Char} (h : '\n' ∉ line) : ofSource (.ofList line) = (nodeOfLine line).toList := by
  rw [ofSource, String.toList_ofList, cut_of_notMem h]
  cases hnode : nodeOfLine line with
  | none => simp [hnode, collapseSteps]
  | some n => cases n <;> simp [hnode, collapseSteps]

/-- A source is read line by line, and then collapsed. -/
theorem ofSource_eq (code : String) : ofSource code = collapseSteps none (lineNodes code) := by
  rw [ofSource, lineNodes, sourceLines, List.flatMap_map, List.filterMap_eq_flatMap_toList]
  congr 1
  exact List.flatMap_congr fun line hline => (ofSource_line (notMem_of_mem_cut hline)).symm

/-- A source has the nodes that it is due exactly if, of these, no step reads as the step before it when the constructs
between steps are passed over. -/
theorem ofSource_due_iff (code : String) :
    ofSource code = dueNodes code ↔ (stepLabels (dueNodes code)).IsChain (· ≠ ·) := by
  have hcollapse : ofSource code = collapseSteps none (dueNodes code) := by
    rw [ofSource_eq, dueNodes, collapseSteps_destutter]
  rw [hcollapse]
  constructor
  · intro h
    rw [← h]
    exact stepLabels_collapseSteps none (dueNodes code)
  · intro h
    have hdue : ((none : Option String).toList ++ stepLabels (dueNodes code)).IsChain (· ≠ ·) := h
    exact collapseSteps_eq_self hdue

/-- The second step stands behind a branch, and is left out for the one before the branch. -/
theorem step_behind_branch_not_due :
    ofSource "print('a')\nif x:\nprint('a')" ≠ dueNodes "print('a')\nif x:\nprint('a')" := by
  intro h
  have hlength := congrArg List.length h
  revert hlength
  decide +kernel

end FlowSketch.IndentedFlow
