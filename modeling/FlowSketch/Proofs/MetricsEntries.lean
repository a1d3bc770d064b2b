import FlowSketch.Proofs.ChartBranches
import FlowSketch.Proofs.FlowNodes

/-!
# What the entries of a table of measures count

The entries of a flow together count every branch point and every step, but those of a function inside of another
construct once more with that construct, and those of an entry not at all that a later one of the same name takes the
place of.
-/
namespace FlowSketch
open ChartDrawing

namespace MetricsFlow

/-! ### Tables -/

section Tables
variable {α : Type}

/-- The entries behind which there is no other of the same name. -/
def kept : List (String × α) → List (String × α)
  | [] => []
  | e :: es => if es.any (fun f => f.1 == e.1) then kept es else e :: kept es

/-- The entries that a later one of the same name takes the place of. -/
def replaced : List (String × α) → List (String × α)
  | [] => []
  | e :: es => if es.any (fun f => f.1 == e.1) then e :: replaced es else replaced es

theorem kept_append_replaced (es : List (String × α)) : (kept es ++ replaced es).Perm es := by
  induction es with
  | nil => exact .nil
  | cons e es ih =>
    rw [kept, replaced]
    split
    · exact List.perm_middle.trans (ih.cons e)
    · exact ih.cons e

/-- A value that is put under a name stands for all that was under it. -/
theorem put_perm {table : List (String × α)} (h : (table.map Prod.fst).Nodup) (name : String) (value : α) :
    (put name value table).Perm ((name, value) :: table.filter fun e => e.1 != name) := by
  induction table with
  | nil => exact .refl _
  | cons e table ih =>
    obtain ⟨hnew, hrest⟩ := List.nodup_cons.mp h
    rw [put]
    by_cases he : e.1 = name
    · have hothers : table.filter (fun f => f.1 != name) = table := by
        refine List.filter_eq_self.mpr fun f hf => ?_
        have hne : f.1 ≠ e.1 := fun hfe => hnew (hfe ▸ List.mem_map_of_mem hf)
        simpa [he] using hne
      rw [if_pos (by simpa using he), List.filter_cons_of_neg (by simpa using he), hothers]
    · rw [if_neg (by simpa using he), List.filter_cons_of_pos (by simpa using he)]
      exact ((ih hrest).cons e).trans (.swap _ _ _)

theorem put_nodup {table : List (String × α)} (h : (table.map Prod.fst).Nodup) (name : String) (value : α) :
    ((put name value table).map Prod.fst).Nodup := by
  have hnames : ((put name value table).map Prod.fst).Perm
      (name :: (table.filter fun e => e.1 != name).map Prod.fst) := (put_perm h name value).map _
  refine hnames.nodup_iff.mpr (List.nodup_cons.mpr ⟨?_, (List.filter_sublist.map _).nodup h⟩)
  simp

/-- Entries that are put into a table one after the other leave of it what has none of their names. -/
theorem foldl_put_perm {table : List (String × α)} (h : (table.map Prod.fst).Nodup) (es : List (String × α)) :
    (es.foldl (fun t e => put e.1 e.2 t) table).Perm
      ((table.filter fun e => !es.any fun f => f.1 == e.1) ++ kept es) := by
  induction es generalizing table with
  | nil => simp [kept]
  | cons e es ih =>
    have hput := (put_perm h e.1 e.2).filter fun f => !es.any fun g => g.1 == f.1
    have hboth : (table.filter fun f => f.1 != e.1).filter (fun f => !es.any fun g => g.1 == f.1) =
        table.filter fun f => !(e :: es).any fun g => g.1 == f.1 := by
      rw [List.filter_filter]
      refine List.filter_congr fun f _ => ?_
      have hcomm : (f.1 != e.1) = !(e.1 == f.1) := by rw [bne, BEq.comm]
      rw [List.any_cons, Bool.not_or, Bool.and_comm, hcomm]
    refine (ih (put_nodup h e.1 e.2)).trans ((hput.append_right _).trans ?_)
    rw [List.filter_cons, hboth, kept]
    by_cases he : es.any (fun f => f.1 == e.1) = true
    · simp [he]
    · simpa [he] using List.perm_middle.symm

/-- What a table loses of the entries that are put together in it is what later ones take the place of. -/
theorem putAll_append_replaced (es : List (String × α)) : (putAll es ++ replaced es).Perm es := by
  have hempty : (([] : List (String × α)).map Prod.fst).Nodup := List.nodup_nil
  have hkept : (putAll es).Perm (kept es) := foldl_put_perm hempty es
  exact (hkept.append_right _).trans (kept_append_replaced es)

end Tables

/-! ### Weights of flows -/

/-- A weight of the nodes at every depth, added up. -/
def weightOf (weight : Node → ℕ) (nodes : List Node) : ℕ := ((Flow.preorder nodes).map weight).sum

theorem weightOf_append (weight : Node → ℕ) (ms ns : List Node) :
    weightOf weight (ms ++ ns) = weightOf weight ms + weightOf weight ns := by
  rw [weightOf, Flow.preorder_append, List.map_append, List.sum_append]
  rfl

/-- The functions of the outermost list. -/
def topFunctions (nodes : List Node) : List (String × List Node) := nodes.filterMap Node.function?

/-- The functions inside of other constructs, each as often as it occurs. -/
def innerFunctions (nodes : List Node) : List (String × List Node) :=
  nodes.flatMap fun n => n.children.flatMap Flow.functions

theorem functions_perm (nodes : List Node) :
    (Flow.functions nodes).Perm (topFunctions nodes ++ innerFunctions nodes) := by
  induction nodes with
  | nil => exact .nil
  | cons n ns ih =>
    have hnode : Flow.functions (n :: ns) =
        n.function?.toList ++ (n.children.flatMap Flow.functions ++ Flow.functions ns) := by
      have hbelow : (n.children.flatMap Flow.preorder).filterMap Node.function? = n.children.flatMap Flow.functions :=
        List.filterMap_flatMap
      rw [Flow.functions, Flow.preorder, Flow.preorder_node, List.filterMap_append, List.filterMap_cons, hbelow]
      cases n.function? <;> rfl
    have htop : topFunctions (n :: ns) = n.function?.toList ++ topFunctions ns := by
      rw [topFunctions, List.filterMap_cons]
      cases n.function? <;> rfl
    have hinner : innerFunctions (n :: ns) = n.children.flatMap Flow.functions ++ innerFunctions ns := List.flatMap_cons
    rw [hnode, htop, hinner, List.append_assoc]
    refine .append_left _ ((ih.append_left _).trans ?_)
    rw [← List.append_assoc, ← List.append_assoc]
    exact List.perm_append_comm.append_right _

/-- A weight that functions have none of stands in the bodies of the outermost functions and outside of them. -/
theorem weightOf_split {weight : Node → ℕ} (hweight : ∀ l body, weight (.function l body) = 0) (nodes : List Node) :
    weightOf weight nodes =
      ((topFunctions nodes).map fun f => weightOf weight f.2).sum + weightOf weight (outsideFunctions nodes) := by
  induction nodes with
  | nil => rfl
  | cons n ns ih =>
    have hcons : weightOf weight (n :: ns) = weightOf weight [n] + weightOf weight ns := weightOf_append weight [n] ns
    cases hn : n.isFunction with
    | true =>
      obtain ⟨l, body, rfl⟩ : ∃ l body, n = .function l body := by
        cases n <;> first | exact ⟨_, _, rfl⟩ | cases hn
      have hbody : weightOf weight [.function l body] = weightOf weight body := by
        simp [weightOf, Flow.preorder, Node.preorder, hweight]
      have houtside : outsideFunctions (.function l body :: ns) = outsideFunctions ns := rfl
      have htop : topFunctions (.function l body :: ns) = (l, body) :: topFunctions ns := rfl
      rw [hcons, hbody, houtside, htop, List.map_cons, List.sum_cons, ih, Nat.add_assoc]
    | false =>
      have houtside : outsideFunctions (n :: ns) = n :: outsideFunctions ns := List.filter_cons_of_pos (by simp [hn])
      have htop : topFunctions (n :: ns) = topFunctions ns := by
        rw [topFunctions, List.filterMap_cons_none (by simpa [Node.isFunction] using hn)]
        rfl
      have hsplit : weightOf weight (n :: outsideFunctions ns) =
          weightOf weight [n] + weightOf weight (outsideFunctions ns) := weightOf_append weight [n] _
      rw [hcons, houtside, htop, hsplit, ih]
      omega

/-! ### Entries -/

end MetricsFlow

/-- The branch points that a measure counts: its paths without the first. -/
def Measure.branches (m : Measure) : ℤ := m.complexity - 1

/-- The steps that a measure counts. -/
def Measure.steps (m : Measure) : ℤ :=
  match m.size with
  | .steps n => n
  | .lines _ => 0

namespace MetricsFlow

/-- What entries count together. -/
def total (count : Measure → ℤ) (es : List (String × Measure)) : ℤ := (es.map fun e => count e.2).sum

theorem total_append (count : Measure → ℤ) (es fs : List (String × Measure)) :
    total count (es ++ fs) = total count es + total count fs := by
  rw [total, List.map_append, List.sum_append]
  rfl

theorem total_perm {es fs : List (String × Measure)} (h : es.Perm fs) (count : Measure → ℤ) :
    total count es = total count fs := (h.map _).sum_eq

def measured (functions : List (String × List Node)) : List (String × Measure) :=
  functions.map fun f => (f.1, measure f.2)

/-- The entries of a flow in the order in which they are put into its table. -/
def written (nodes : List Node) : List (String × Measure) :=
  measured (Flow.functions nodes) ++
    if (measured (Flow.functions nodes)).isEmpty || !(outsideFunctions nodes).isEmpty then
      [(moduleName, measure (outsideFunctions nodes))]
    else []

theorem entries_eq (nodes : List Node) : entries nodes = putAll (written nodes) := rfl

/-- A measure counts a weight of the nodes, of which functions themselves have none. -/
structure Weighs (count : Measure → ℤ) (weight : Node → ℕ) : Prop where
  function : ∀ l body, weight (.function l body) = 0
  measure : ∀ nodes, count (measure nodes) = weightOf weight nodes

theorem weighs_branches : Weighs Measure.branches branches := by
  refine ⟨fun _ _ => rfl, fun nodes => ?_⟩
  have hcomplexity : (measure nodes).complexity = (1 + branchesOf (Flow.preorder nodes) : ℕ) :=
    congrArg Nat.cast (complexity_eq nodes)
  rw [Measure.branches, hcomplexity, Nat.cast_add, Nat.cast_one, add_sub_cancel_left]
  rfl

/-- One for each step of a known kind. -/
def stepWeight (n : Node) : ℕ := if n.step?.any Step.isKnown then 1 else 0

theorem stepCount_eq (nodes : List Node) : stepCount nodes = weightOf stepWeight nodes := by
  rw [stepCount, Flow.steps, weightOf]
  induction Flow.preorder nodes with
  | nil => rfl
  | cons n ns ih =>
    rw [List.map_cons, List.sum_cons, ← ih, stepWeight, List.filterMap_cons]
    cases n.step? with
    | none => simp
    | some s =>
      by_cases hs : s.kind ∈ Step.kinds
      · simp [Step.isKnown, hs, Nat.add_comm]
      · simp [Step.isKnown, hs]

theorem weighs_steps : Weighs Measure.steps stepWeight :=
  ⟨fun _ _ => rfl, fun nodes => congrArg Nat.cast (stepCount_eq nodes)⟩

theorem total_measured {count : Measure → ℤ} {weight : Node → ℕ} (h : Weighs count weight)
    (functions : List (String × List Node)) :
    total count (measured functions) = ((functions.map fun f => weightOf weight f.2).sum : ℕ) := by
  induction functions with
  | nil => rfl
  | cons f functions ih =>
    have hcons : total count (measured (f :: functions)) =
        count (MetricsFlow.measure f.2) + total count (measured functions) := rfl
    rw [hcons, ih, h.measure, List.map_cons, List.sum_cons, Nat.cast_add]

/-- The code outside of functions is counted where there is any. -/
theorem total_written {count : Measure → ℤ} {weight : Node → ℕ} (h : Weighs count weight) (nodes : List Node) :
    total count (written nodes) =
      total count (measured (Flow.functions nodes)) + weightOf weight (outsideFunctions nodes) := by
  rw [written, total_append]
  congr 1
  split
  · have hsingle : total count [(moduleName, measure (outsideFunctions nodes))] =
        count (measure (outsideFunctions nodes)) + 0 := rfl
    rw [hsingle, h.measure, add_zero]
  · next hnone =>
    have hempty : outsideFunctions nodes = [] := by
      simp only [Bool.or_eq_true, Bool.not_eq_true', not_or, Bool.not_eq_false, List.isEmpty_iff] at hnone
      exact hnone.2
    rw [hempty]
    rfl

/-- What the entries count and what is replaced in them is all that the flow has, with what the functions inside of other
constructs have once more. -/
theorem total_entries {count : Measure → ℤ} {weight : Node → ℕ} (h : Weighs count weight) (nodes : List Node) :
    total count (entries nodes) + total count (replaced (written nodes)) =
      weightOf weight nodes + total count (measured (innerFunctions nodes)) := by
  have hall : total count (entries nodes) + total count (replaced (written nodes)) = total count (written nodes) := by
    rw [← total_append, entries_eq, total_perm (putAll_append_replaced (written nodes))]
  have hfunctions : total count (measured (Flow.functions nodes)) =
      total count (measured (topFunctions nodes)) + total count (measured (innerFunctions nodes)) := by
    rw [← total_append, measured, measured, measured, ← List.map_append]
    exact total_perm ((functions_perm nodes).map _) count
  have hsplit : (weightOf weight nodes : ℤ) =
      total count (measured (topFunctions nodes)) + weightOf weight (outsideFunctions nodes) := by
    rw [weightOf_split h.function nodes, Nat.cast_add, total_measured h]
  rw [hall, total_written h, hfunctions, hsplit]
  ring

/-! ### Attribution -/

/-- The entries together count every branch point and every step of the flow once. -/
def Attributed (nodes : List Node) : Prop :=
  total Measure.branches (entries nodes) = complexity nodes - 1 ∧
    total Measure.steps (entries nodes) = (Flow.steps Step.kinds nodes).length

instance : DecidablePred Attributed := fun nodes =>
  inferInstanceAs (Decidable (total Measure.branches (entries nodes) = complexity nodes - 1 ∧
    total Measure.steps (entries nodes) = (Flow.steps Step.kinds nodes).length))

/-- The entries count a flow right exactly if those that later ones of the same name take the place of count as much as
the functions that are counted once more, with the construct that they stand in. -/
theorem attributed_iff (nodes : List Node) :
    Attributed nodes ↔
      total Measure.branches (replaced (written nodes)) = total Measure.branches (measured (innerFunctions nodes)) ∧
        total Measure.steps (replaced (written nodes)) = total Measure.steps (measured (innerFunctions nodes)) := by
  have hbranches := total_entries weighs_branches nodes
  have hsteps := total_entries weighs_steps nodes
  have hcomplexity : (complexity nodes : ℤ) - 1 = weightOf branches nodes := weighs_branches.measure nodes
  have hcount : ((Flow.steps Step.kinds nodes).length : ℤ) = weightOf stepWeight nodes := weighs_steps.measure nodes
  rw [Attributed, hcomplexity, hcount]
  constructor
  · rintro ⟨hb, hs⟩
    exact ⟨by omega, by omega⟩
  · rintro ⟨hb, hs⟩
    exact ⟨by omega, by omega⟩

/-- A function in a branch has an entry of its own, and the entry for the code outside of functions counts it again. -/
theorem function_in_branch_not_attributed :
    ¬ Attributed [.decision "a" [.function "function f()" [.step ⟨"process", "p"⟩]] []] := by decide

end MetricsFlow
end FlowSketch
