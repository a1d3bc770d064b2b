import FlowSketch.FlowTraverse
import Mathlib

/-!
# All nodes of a flow

The nodes at every depth are those of the outermost list, each with the nodes of the lists that it owns.
-/
namespace FlowSketch

theorem Node.mem_preorder_self (n : Node) : n ∈ n.preorder := by
  cases n <;> simp [preorder]

namespace Flow

theorem preorder_append (ms ns : List Node) : preorder (ms ++ ns) = preorder ms ++ preorder ns := by
  induction ms with
  | nil => rfl
  | cons m ms ih => rw [List.cons_append, preorder, preorder, ih, List.append_assoc]

theorem mem_preorder {nodes : List Node} {m : Node} : m ∈ preorder nodes ↔ ∃ n ∈ nodes, m ∈ n.preorder := by
  induction nodes with
  | nil => simp [preorder]
  | cons n ns ih => simp [preorder, ih]

theorem casesPreorder_eq (cases : List Case) : casesPreorder cases = cases.flatMap fun c => preorder c.body := by
  induction cases with
  | nil => rfl
  | cons c cases ih =>
    obtain ⟨label, body⟩ := c
    rw [casesPreorder, ih, List.flatMap_cons, Case.body]

theorem preorder_node (n : Node) : n.preorder = n :: n.children.flatMap preorder := by
  cases n <;> simp [Node.preorder, Node.children, casesPreorder_eq, List.flatMap_map]

/-- What holds of the nodes at every depth. -/
def Every (P : Node → Prop) (nodes : List Node) : Prop := ∀ n ∈ preorder nodes, P n

variable {P Q : Node → Prop} {nodes : List Node}

theorem every_nil : Every P [] := by simp [Every, preorder]

theorem every_append {ms ns : List Node} : Every P (ms ++ ns) ↔ Every P ms ∧ Every P ns := by
  rw [Every, preorder_append, List.forall_mem_append]
  rfl

theorem forall_mem_preorder {n : Node} : (∀ m ∈ n.preorder, P m) ↔ P n ∧ ∀ body ∈ n.children, Every P body := by
  rw [preorder_node, List.forall_mem_cons, List.forall_mem_flatMap]
  rfl

theorem every_node_cons {n : Node} {ns : List Node} :
    Every P (n :: ns) ↔ (∀ m ∈ n.preorder, P m) ∧ Every P ns := List.forall_mem_append

theorem every_cons {n : Node} {ns : List Node} :
    Every P (n :: ns) ↔ (P n ∧ ∀ body ∈ n.children, Every P body) ∧ Every P ns := by
  rw [every_node_cons, forall_mem_preorder]

theorem every_steps {steps : List Step} : Every P (steps.map Node.step) ↔ ∀ s ∈ steps, P (.step s) := by
  induction steps with
  | nil => simp [every_nil]
  | cons s steps ih => simp [every_cons, ih, Node.children]

theorem Every.imp (h : Every P nodes) (hpq : ∀ n, P n → Q n) : Every Q nodes := fun n hn => hpq n (h n hn)

theorem Every.children (h : Every P nodes) {n : Node} (hn : n ∈ nodes) : ∀ body ∈ n.children, Every P body := by
  obtain ⟨before, after, rfl⟩ := List.append_of_mem hn
  exact (every_cons.mp (every_append.mp h).2).1.2

end Flow
end FlowSketch
