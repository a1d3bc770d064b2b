import FlowSketch.Mindmap
import Mathlib

/-!
# Trees that are carried by indentation

A forest is laid out with one row for each of its trees, deeper by one for what hangs below. To read the rows, each one is
hung under the nearest earlier one with a smaller indentation; that gives the forest back.
-/
namespace FlowSketch.Mindmap

/-- A text with the trees that hang below it. -/
inductive Tree where
  | node (text : String) (children : List Tree)
  deriving Repr

/-! ### Rows -/

mutual

def Tree.rows (depth : ℕ) : Tree → List Entry
  | .node text children => ⟨depth, text⟩ :: rows (depth + 1) children

/-- One row for each tree, the trees below it behind it and deeper by one. -/
def rows (depth : ℕ) : List Tree → List Entry
  | [] => []
  | t :: ts => t.rows depth ++ rows depth ts

end

mutual

def Tree.size : Tree → ℕ
  | .node _ children => 1 + size children

/-- The number of trees at every depth. -/
def size : List Tree → ℕ
  | [] => 0
  | t :: ts => t.size + size ts

end

theorem rows_append (depth : ℕ) (ts us : List Tree) : rows depth (ts ++ us) = rows depth ts ++ rows depth us := by
  induction ts with
  | nil => rfl
  | cons t ts ih => rw [List.cons_append, rows, rows, ih, List.append_assoc]

mutual

theorem Tree.length_rows (depth : ℕ) : ∀ t : Tree, (t.rows depth).length = t.size
  | .node text children => by
    have hbelow := length_rows (depth + 1) children
    rw [Tree.rows, Tree.size, List.length_cons, hbelow, Nat.add_comm]

theorem length_rows (depth : ℕ) : ∀ ts : List Tree, (rows depth ts).length = size ts
  | [] => rfl
  | t :: ts => by rw [rows, size, List.length_append, t.length_rows depth, length_rows depth ts]

end

mutual

theorem Tree.le_depth_of_mem (depth : ℕ) : ∀ (t : Tree), ∀ e ∈ t.rows depth, depth ≤ e.depth
  | .node text children => by
    rw [Tree.rows, List.forall_mem_cons]
    exact ⟨le_rfl, fun e he => Nat.le_of_succ_le (le_depth_of_mem (depth + 1) children e he)⟩

theorem le_depth_of_mem (depth : ℕ) : ∀ (ts : List Tree), ∀ e ∈ rows depth ts, depth ≤ e.depth
  | [] => by simp [rows]
  | t :: ts => by
    rw [rows, List.forall_mem_append]
    exact ⟨t.le_depth_of_mem depth, le_depth_of_mem depth ts⟩

end

theorem Tree.rows_eq_cons (depth : ℕ) (t : Tree) : ∃ text below, t.rows depth = ⟨depth, text⟩ :: below := by
  obtain ⟨text, children⟩ := t
  exact ⟨text, Mindmap.rows (depth + 1) children, rfl⟩

/-- The next row is deeper by one at most. -/
def Gradual (es : List Entry) : Prop := es.IsChain fun e f => f.depth ≤ e.depth + 1

mutual

theorem Tree.rows_gradual (depth : ℕ) : ∀ t : Tree, Gradual (t.rows depth)
  | .node text children => by
    have hbelow := rows_gradual (depth + 1) children
    cases children with
    | nil => exact List.isChain_singleton _
    | cons t ts =>
      obtain ⟨first, below, ht⟩ := t.rows_eq_cons (depth + 1)
      rw [rows, ht, List.cons_append] at hbelow
      rw [Tree.rows, rows, ht, List.cons_append]
      exact List.isChain_cons_cons.mpr ⟨le_rfl, hbelow⟩

theorem rows_gradual (depth : ℕ) : ∀ ts : List Tree, Gradual (rows depth ts)
  | [] => .nil
  | t :: ts => by
    rw [rows]
    refine List.isChain_append.mpr ⟨t.rows_gradual depth, rows_gradual depth ts, ?_⟩
    intro e he f hf
    have hlast : depth ≤ e.depth := t.le_depth_of_mem depth e (List.mem_of_getLast? he)
    cases ts with
    | nil => cases hf
    | cons u us =>
      obtain ⟨first, below, hu⟩ := u.rows_eq_cons depth
      rw [rows, hu] at hf
      cases hf
      exact Nat.le_succ_of_le hlast

end

/-! ### Reading rows -/

/-- A row by its place, with the place of the row that it hangs under. -/
structure Hung where
  place : ℕ
  parent : Option ℕ
  text : String

/-- The place of the nearest row with a smaller indentation. The rows come with their places and indentations, the nearest
first. -/
def nearest (indentation : ℕ) (before : List (ℕ × ℕ)) : Option ℕ :=
  (before.find? fun row => row.2 < indentation).map Prod.fst

/-- Texts with their indentations, each hung under the nearest row before it with a smaller one. -/
def hang (before : List (ℕ × ℕ)) : List (ℕ × String) → List Hung
  | [] => []
  | (indentation, text) :: later =>
    ⟨before.length, nearest indentation before, text⟩ :: hang ((before.length, indentation) :: before) later

/-- The trees that hang under what is not among the rows itself, each with the place of that. -/
def gather : List Hung → List (Option ℕ × Tree)
  | [] => []
  | row :: later =>
    (row.parent, .node row.text (((gather later).filter fun t => t.1 == some row.place).map Prod.snd)) ::
      (gather later).filter fun t => t.1 != some row.place

/-- The forest of texts with indentations. -/
def forest (indented : List (ℕ × String)) : List Tree :=
  ((gather (hang [] indented)).filter fun t => t.1 == none).map Prod.snd

/-- The rows before what follows some texts. -/
def passed (before : List (ℕ × ℕ)) : List (ℕ × String) → List (ℕ × ℕ)
  | [] => before
  | (indentation, _) :: later => passed ((before.length, indentation) :: before) later

theorem length_passed (before : List (ℕ × ℕ)) (indented : List (ℕ × String)) :
    (passed before indented).length = before.length + indented.length := by
  induction indented generalizing before with
  | nil => rfl
  | cons row later ih =>
    rw [passed, ih, List.length_cons, List.length_cons]
    omega

theorem hang_append (before : List (ℕ × ℕ)) (as bs : List (ℕ × String)) :
    hang before (as ++ bs) = hang before as ++ hang (passed before as) bs := by
  induction as generalizing before with
  | nil => rfl
  | cons row later ih => rw [List.cons_append, hang, ih, hang, passed, List.cons_append]

/-- Rows that are indented enough are passed over. -/
theorem nearest_passed {indentation : ℕ} {indented : List (ℕ × String)} (h : ∀ row ∈ indented, indentation ≤ row.1)
    (before : List (ℕ × ℕ)) : nearest indentation (passed before indented) = nearest indentation before := by
  induction indented generalizing before with
  | nil => rfl
  | cons row later ih =>
    obtain ⟨hrow, hlater⟩ := List.forall_mem_cons.mp h
    rw [passed, ih hlater, nearest, List.find?_cons_of_neg (by simpa using hrow)]
    rfl

/-! ### Reading laid out forests -/

mutual

def Tree.hung (parent : Option ℕ) (place : ℕ) : Tree → List Hung
  | .node text children => ⟨place, parent, text⟩ :: hungs (some place) (place + 1) children

/-- The rows of a forest as they hang under a given one, in consecutive places. -/
def hungs (parent : Option ℕ) (place : ℕ) : List Tree → List Hung
  | [] => []
  | t :: ts => t.hung parent place ++ hungs parent (place + t.size) ts

end

/-- A row as it is indented, by two for each level. -/
def Entry.indented (e : Entry) : ℕ × String := (2 * e.depth, e.text)

theorem indented_ge {depth : ℕ} {es : List Entry} (h : ∀ e ∈ es, depth ≤ e.depth) :
    ∀ row ∈ es.map Entry.indented, 2 * depth ≤ row.1 := by
  rw [List.forall_mem_map]
  exact fun e he => Nat.mul_le_mul_left 2 (h e he)

mutual

theorem Tree.hang_rows (depth : ℕ) (before : List (ℕ × ℕ)) : ∀ t : Tree,
    hang before ((t.rows depth).map Entry.indented) = t.hung (nearest (2 * depth) before) before.length
  | .node text children => by
    have hbelow := hang_rows (depth + 1) ((before.length, 2 * depth) :: before) children
    have hparent : nearest (2 * (depth + 1)) ((before.length, 2 * depth) :: before) = some before.length := by
      rw [nearest, List.find?_cons_of_pos (by simp)]
      rfl
    rw [hparent] at hbelow
    rw [Tree.rows, List.map_cons, Entry.indented, hang, hbelow]
    rfl

/-- The rows of a forest hang as the trees do. -/
theorem hang_rows (depth : ℕ) (before : List (ℕ × ℕ)) : ∀ ts : List Tree,
    hang before ((rows depth ts).map Entry.indented) = hungs (nearest (2 * depth) before) before.length ts
  | [] => rfl
  | t :: ts => by
    have hfirst := t.hang_rows depth before
    have hlater := hang_rows depth (passed before ((t.rows depth).map Entry.indented)) ts
    rw [nearest_passed (indented_ge (t.le_depth_of_mem depth)), length_passed, List.length_map, t.length_rows] at hlater
    rw [rows, List.map_append, hang_append, hfirst, hlater]
    rfl

end

/-- Trees that hang above a place. -/
def Above (place : ℕ) (ts : List (Option ℕ × Tree)) : Prop := ∀ t ∈ ts, ∀ parent ∈ t.1, parent < place

theorem Above.mono {place place' : ℕ} {ts : List (Option ℕ × Tree)} (h : Above place ts) (hle : place ≤ place') :
    Above place' ts := fun t ht parent hparent => (h t ht parent hparent).trans_le hle

theorem Above.filter {place : ℕ} {ts : List (Option ℕ × Tree)} (h : Above place ts) :
    (ts.filter fun t => t.1 == some place) = [] ∧ (ts.filter fun t => t.1 != some place) = ts := by
  have hne : ∀ t ∈ ts, t.1 ≠ some place := fun t ht heq => absurd (h t ht place heq) (lt_irrefl place)
  exact ⟨List.filter_eq_nil_iff.mpr (by simpa using hne), List.filter_eq_self.mpr (by simpa using hne)⟩

mutual

theorem Tree.gather_hung {parent : Option ℕ} {place : ℕ} {rest : List Hung} (hrest : Above place (gather rest)) :
    ∀ t : Tree, gather (t.hung parent place ++ rest) = (parent, t) :: gather rest
  | .node text children => by
    have hbelow : gather (hungs (some place) (place + 1) children ++ rest) =
        children.map (fun t => (some place, t)) ++ gather rest :=
      gather_hungs (by simp) (hrest.mono (Nat.le_succ place)) children
    obtain ⟨hnone, hall⟩ := hrest.filter
    rw [Tree.hung, List.cons_append, gather, hbelow, List.filter_append, List.filter_append, hnone, hall]
    simp [List.filter_map, Function.comp_def]

/-- What hangs under a row is gathered under it. -/
theorem gather_hungs {parent : Option ℕ} {place : ℕ} (hparent : ∀ p ∈ parent, p < place) {rest : List Hung}
    (hrest : Above place (gather rest)) : ∀ ts : List Tree,
      gather (hungs parent place ts ++ rest) = ts.map (fun t => (parent, t)) ++ gather rest
  | [] => rfl
  | t :: ts => by
    have hbehind : place ≤ place + t.size := Nat.le_add_right _ _
    have hlater : gather (hungs parent (place + t.size) ts ++ rest) = ts.map (fun t => (parent, t)) ++ gather rest :=
      gather_hungs (fun p hp => (hparent p hp).trans_le hbehind) (hrest.mono hbehind) ts
    have habove : Above place (gather (hungs parent (place + t.size) ts ++ rest)) := by
      rw [hlater, Above, List.forall_mem_append, List.forall_mem_map]
      exact ⟨fun _ _ => hparent, hrest⟩
    rw [hungs, List.append_assoc, t.gather_hung habove, hlater]
    rfl

end

/-- The rows of a forest that is not indented itself give the forest back. -/
theorem forest_rows (ts : List Tree) : forest ((rows 0 ts).map Entry.indented) = ts := by
  have hparent : ∀ p ∈ nearest (2 * 0) [], p < 0 := by simp [nearest]
  have hnone : Above 0 (gather []) := by simp [Above, gather]
  have hgather := gather_hungs hparent hnone ts
  rw [List.append_nil] at hgather
  rw [forest, hang_rows, List.length_nil, hgather]
  simp [gather, nearest, List.filter_map, Function.comp_def]

end FlowSketch.Mindmap
