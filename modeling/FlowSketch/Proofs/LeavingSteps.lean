import FlowSketch.Proofs.BlockParts
import FlowSketch.Proofs.FlowNodes

/-!
# Steps that leave

In a list of the flow of brace blocks the steps that leave come last as far as they are the block's own. A block that
is inlined brings its steps that leave into the list around it, where the blocks behind it follow.
-/
namespace FlowSketch

/-! ### The lists of a flow -/

/-- A flow, and the lists that its constructs own at any depth. -/
def Flow.lists (nodes : List Node) : List (List Node) := nodes :: (Flow.preorder nodes).flatMap Node.children

/-- A step that leaves is followed only by steps that leave. -/
def Flow.LeavesLast (nodes : List Node) : Prop := nodes.Pairwise fun m n => m.isTerminal = true → n.isTerminal = true

instance : DecidablePred Flow.LeavesLast := fun nodes =>
  inferInstanceAs (Decidable (nodes.Pairwise fun m n => m.isTerminal = true → n.isTerminal = true))

namespace Flow

/-- Steps that leave come last in the lists that the constructs of a flow own. -/
def TidyInside (nodes : List Node) : Prop := ∀ l ∈ (preorder nodes).flatMap Node.children, LeavesLast l

/-- Steps that leave come last in every list. -/
def Tidy (nodes : List Node) : Prop := ∀ l ∈ lists nodes, LeavesLast l

theorem tidy_iff {nodes : List Node} : Tidy nodes ↔ LeavesLast nodes ∧ TidyInside nodes := List.forall_mem_cons

theorem leavesLast_nil : LeavesLast [] := List.Pairwise.nil

theorem leavesLast_singleton (n : Node) : LeavesLast [n] := List.pairwise_singleton _ n

theorem tidyInside_append {l m : List Node} : TidyInside (l ++ m) ↔ TidyInside l ∧ TidyInside m := by
  simp only [TidyInside, preorder_append, List.flatMap_append, List.forall_mem_append]

theorem tidyInside_nil : TidyInside [] := by simp [TidyInside, preorder]

theorem tidyInside_steps (steps : List Step) : TidyInside (steps.map Node.step) := by
  induction steps with
  | nil => exact tidyInside_nil
  | cons s steps ih =>
    refine tidyInside_append (l := [Node.step s]).mpr ⟨?_, ih⟩
    simp [TidyInside, preorder, Node.preorder, Node.children]

theorem tidy_nil : Tidy [] := tidy_iff.mpr ⟨leavesLast_nil, tidyInside_nil⟩

/-- The lists inside of one construct are those it owns and the lists inside of them. -/
theorem tidyInside_singleton (n : Node) : TidyInside [n] ↔ ∀ body ∈ n.children, Tidy body := by
  have hown (body : List Node) (rest : List (List Node)) (p : List Node → Prop) :
      (∀ l ∈ body :: rest, p l) ↔ p body ∧ ∀ l ∈ rest, p l := List.forall_mem_cons
  cases n with
  | step s => simp [TidyInside, preorder, Node.preorder, Node.children]
  | switch label cases =>
    simp only [TidyInside, preorder, Node.preorder, casesPreorder_eq, Node.children, Tidy, lists, List.append_nil,
      List.flatMap_cons, List.forall_mem_append, List.forall_mem_map, hown, List.flatMap_assoc, List.forall_mem_flatMap,
      forall_and]
  | decision c yes no =>
    simp [TidyInside, preorder, Node.preorder, Node.children, Tidy, lists, or_imp, forall_and]
    tauto
  | tryCatch body p handler cleanup =>
    simp [TidyInside, preorder, Node.preorder, Node.children, Tidy, lists, or_imp, forall_and]
    tauto
  | loop l k body => simp [TidyInside, preorder, Node.preorder, Node.children, Tidy, lists]
  | event s e l body => simp [TidyInside, preorder, Node.preorder, Node.children, Tidy, lists]
  | function l body => simp [TidyInside, preorder, Node.preorder, Node.children, Tidy, lists]
  | promise l body => simp [TidyInside, preorder, Node.preorder, Node.children, Tidy, lists]

end Flow

namespace BraceFlow
open FlowSketch.Flow

/-! ### Clauses that join -/

/-- How a block behaves among its siblings. -/
inductive Role where
  | head
  | otherwise
  | attempt
  | handler
  | cleanup
  | single
  deriving DecidableEq

def roleOf : Owner → Role
  | .branch _ | .elseBranch _ => .head
  | .otherwise => .otherwise
  | .tryBlock => .attempt
  | .catchBlock _ => .handler
  | .finallyBlock => .cleanup
  | _ => .single

def Part.role : Part → Role
  | .branch _ _ | .elseBranch _ _ => .head
  | .otherwise _ => .otherwise
  | .tryBlock _ => .attempt
  | .catchBlock _ _ => .handler
  | .finallyBlock _ => .cleanup
  | .nodes _ => .single

theorem partOf_role (owner : Owner) (tokens : List Token) (parts : List (ℕ × Part)) :
    (partOf owner tokens parts).role = roleOf owner := by
  cases owner <;> rfl

/-- What stands before a clause. -/
inductive Place where
  | plain
  | chained
  | tried
  | handled
  deriving DecidableEq

def Place.admits : Place → Role → Bool
  | p, .otherwise => p = chained
  | p, .handler => p = tried
  | p, .cleanup => p = tried || p = handled
  | _, _ => true

def Place.after : Place → Role → Place
  | _, .head => chained
  | _, .attempt => tried
  | tried, .handler => handled
  | _, _ => plain

/-- The siblings without the clauses that have no head to join. -/
def drawnFrom {α : Type} (role : α → Role) (p : Place) : List α → List α
  | [] => []
  | a :: as => (if p.admits (role a) then [a] else []) ++ drawnFrom role (p.after (role a)) as

theorem drawnFrom_map {α β : Type} (role : β → Role) (f : α → β) (p : Place) (as : List α) :
    drawnFrom role p (as.map f) = (drawnFrom (fun a => role (f a)) p as).map f := by
  induction as generalizing p with
  | nil => rfl
  | cons a as ih =>
    rw [List.map_cons, drawnFrom, drawnFrom, ih, List.map_append]
    congr 1
    split <;> rfl

theorem mem_of_mem_drawnFrom {α : Type} {role : α → Role} {p : Place} {as : List α} {a : α}
    (h : a ∈ drawnFrom role p as) : a ∈ as := by
  induction as generalizing p with
  | nil => exact h
  | cons b as ih =>
    rw [drawnFrom, List.mem_append] at h
    rcases h with h | h
    · split at h
      · simp_all
      · simp at h
    · exact List.mem_cons_of_mem b (ih h)

/-- A sibling that is no clause is drawn. -/
theorem mem_drawnFrom_of_single {α : Type} {role : α → Role} {p : Place} {as : List α} {a : α} (ha : a ∈ as)
    (hrole : role a = .single) : a ∈ drawnFrom role p as := by
  induction as generalizing p with
  | nil => exact ha
  | cons b as ih =>
    rw [drawnFrom, List.mem_append]
    rcases List.mem_cons.mp ha with rfl | ha
    · left
      simp [hrole, Place.admits]
    · exact .inr (ih ha)

/-! ### The lists of joined parts -/

/-- Steps that leave come last in the lists that a part brings with it. -/
def Part.Tidy : Part → Prop
  | .branch _ body | .elseBranch _ body | .otherwise body | .tryBlock body | .catchBlock _ body | .finallyBlock body =>
    Flow.Tidy body
  | .nodes ns => TidyInside ns

/-- The lists that come from joining parts at a place are tidy inside. -/
def JoinsTidy (ps : List Part) : Place → Prop
  | .plain => TidyInside (join ps)
  | .chained => Tidy (elseChain ps).1 ∧ TidyInside (join (elseChain ps).2)
  | .tried => Tidy (catchClause ps).1.2 ∧ Tidy (finallyClause (catchClause ps).2).1 ∧
      TidyInside (join (finallyClause (catchClause ps).2).2)
  | .handled => Tidy (finallyClause ps).1 ∧ TidyInside (join (finallyClause ps).2)

theorem tidyInside_cons {n : Node} {ns : List Node} :
    TidyInside (n :: ns) ↔ (∀ body ∈ n.children, Tidy body) ∧ TidyInside ns := by
  rw [← tidyInside_singleton]
  exact tidyInside_append (l := [n])

theorem tidy_singleton {n : Node} : Tidy [n] ↔ ∀ body ∈ n.children, Tidy body := by
  rw [tidy_iff, tidyInside_singleton, and_iff_right (leavesLast_singleton n)]

@[simp] theorem Part.tidy_branch {c : String} {body : List Node} : (Part.branch c body).Tidy ↔ Flow.Tidy body := Iff.rfl

@[simp] theorem Part.tidy_elseBranch {c : String} {body : List Node} :
    (Part.elseBranch c body).Tidy ↔ Flow.Tidy body := Iff.rfl

@[simp] theorem Part.tidy_otherwise {body : List Node} : (Part.otherwise body).Tidy ↔ Flow.Tidy body := Iff.rfl

@[simp] theorem Part.tidy_tryBlock {body : List Node} : (Part.tryBlock body).Tidy ↔ Flow.Tidy body := Iff.rfl

@[simp] theorem Part.tidy_catchBlock {c : String} {body : List Node} :
    (Part.catchBlock c body).Tidy ↔ Flow.Tidy body := Iff.rfl

@[simp] theorem Part.tidy_finallyBlock {body : List Node} : (Part.finallyBlock body).Tidy ↔ Flow.Tidy body := Iff.rfl

@[simp] theorem Part.tidy_nodes {ns : List Node} : (Part.nodes ns).Tidy ↔ TidyInside ns := Iff.rfl

/-- Joining draws the parts that are no stray clauses, each with its own lists. -/
theorem joinsTidy_iff (ps : List Part) (place : Place) :
    JoinsTidy ps place ↔ ∀ p ∈ drawnFrom Part.role place ps, p.Tidy := by
  induction ps generalizing place with
  | nil =>
    cases place <;>
      simp [JoinsTidy, drawnFrom, join, elseChain, catchClause, finallyClause, tidyInside_nil, tidy_nil]
  | cons p ps ih =>
    have hplain : TidyInside (join ps) ↔ ∀ q ∈ drawnFrom Part.role .plain ps, q.Tidy := ih .plain
    have hchained : Tidy (elseChain ps).1 ∧ TidyInside (join (elseChain ps).2) ↔
        ∀ q ∈ drawnFrom Part.role .chained ps, q.Tidy := ih .chained
    have htried : Tidy (catchClause ps).1.2 ∧ Tidy (finallyClause (catchClause ps).2).1 ∧
        TidyInside (join (finallyClause (catchClause ps).2).2) ↔
          ∀ q ∈ drawnFrom Part.role .tried ps, q.Tidy := ih .tried
    have hhandled : Tidy (finallyClause ps).1 ∧ TidyInside (join (finallyClause ps).2) ↔
        ∀ q ∈ drawnFrom Part.role .handled ps, q.Tidy := ih .handled
    have hhere : TidyInside (join (p :: ps)) ↔ ∀ q ∈ drawnFrom Part.role .plain (p :: ps), q.Tidy := by
      cases p <;>
        simp [drawnFrom, Part.role, Place.admits, Place.after, join, tidyInside_cons, tidyInside_append, Node.children,
          and_assoc, hplain, hchained, htried]
    cases place with
    | plain => exact hhere
    | chained =>
      rw [JoinsTidy]
      cases p with
      | elseBranch c body =>
        simp [drawnFrom, Part.role, Place.admits, Place.after, elseChain, tidy_singleton, Node.children, and_assoc,
          hchained]
      | otherwise body => simp [drawnFrom, Part.role, Place.admits, Place.after, elseChain, hplain]
      | _ => exact (and_iff_right tidy_nil).trans hhere
    | tried =>
      rw [JoinsTidy]
      cases p with
      | catchBlock c body => simp [drawnFrom, Part.role, Place.admits, Place.after, catchClause, hhandled]
      | finallyBlock body =>
        simp [drawnFrom, Part.role, Place.admits, Place.after, catchClause, finallyClause, tidy_nil, hplain]
      | _ => exact (and_iff_right tidy_nil).trans ((and_iff_right tidy_nil).trans hhere)
    | handled =>
      rw [JoinsTidy]
      cases p with
      | finallyBlock body => simp [drawnFrom, Part.role, Place.admits, Place.after, finallyClause, hplain]
      | _ => exact (and_iff_right tidy_nil).trans hhere

/-! ### Steps that leave among siblings -/

/-- For each node that a part puts into the list around it, whether it leaves. -/
def Part.leaving : Part → List Bool
  | .nodes ns => ns.map Node.isTerminal
  | .branch _ _ | .elseBranch _ _ | .tryBlock _ => [false]
  | .otherwise _ | .catchBlock _ _ | .finallyBlock _ => []

theorem leavesLast_iff {nodes : List Node} : LeavesLast nodes ↔ (nodes.map Node.isTerminal).Pairwise (· ≤ ·) := by
  rw [List.pairwise_map]
  rfl

/-- Two lists have the same values and are both in order or both not. -/
structure SameOrder (xs ys : List Bool) : Prop where
  mem : ∀ b, b ∈ xs ↔ b ∈ ys
  sorted : xs.Pairwise (· ≤ ·) ↔ ys.Pairwise (· ≤ ·)

theorem SameOrder.append {xs ys : List Bool} (h : SameOrder xs ys) (zs : List Bool) :
    SameOrder (zs ++ xs) (zs ++ ys) := by
  refine ⟨fun b => by simp [h.mem], ?_⟩
  simp only [List.pairwise_append, h.sorted, h.mem]

theorem SameOrder.cons_false {xs ys : List Bool} (h : SameOrder xs ys) (n : ℕ) :
    SameOrder (false :: xs) (false :: (List.replicate n false ++ ys)) := by
  refine ⟨fun b => ?_, ?_⟩
  · simp only [List.mem_cons, List.mem_append, List.mem_replicate, h.mem]
    tauto
  · simp [List.pairwise_append, h.sorted]

theorem flatMap_leaving_elseChain (ps : List Part) :
    ∃ n, ps.flatMap Part.leaving = List.replicate n false ++ (elseChain ps).2.flatMap Part.leaving := by
  fun_induction elseChain ps with
  | case1 c body ps ih =>
    obtain ⟨n, hn⟩ := ih
    exact ⟨n + 1, by simp [Part.leaving, hn, List.replicate_succ]⟩
  | case2 body ps => exact ⟨0, by simp [Part.leaving]⟩
  | case3 => exact ⟨0, by simp⟩

theorem flatMap_leaving_catchClause (ps : List Part) :
    (catchClause ps).2.flatMap Part.leaving = ps.flatMap Part.leaving := by
  unfold catchClause
  split <;> simp [Part.leaving]

theorem flatMap_leaving_finallyClause (ps : List Part) :
    (finallyClause ps).2.flatMap Part.leaving = ps.flatMap Part.leaving := by
  unfold finallyClause
  split <;> simp [Part.leaving]

/-- As far as leaving goes, clauses may as well stay by themselves. -/
theorem join_leaving (ps : List Part) : SameOrder ((join ps).map Node.isTerminal) (ps.flatMap Part.leaving) := by
  fun_induction join ps with
  | case1 => exact ⟨fun _ => Iff.rfl, Iff.rfl⟩
  | case2 c body ps _ ih =>
    obtain ⟨n, hn⟩ := flatMap_leaving_elseChain ps
    rw [List.flatMap_cons, hn]
    exact ih.cons_false n
  | case3 c body ps _ ih =>
    obtain ⟨n, hn⟩ := flatMap_leaving_elseChain ps
    rw [List.flatMap_cons, hn]
    exact ih.cons_false n
  | case4 body ps _ _ ih =>
    rw [flatMap_leaving_finallyClause, flatMap_leaving_catchClause] at ih
    exact ih.append [false]
  | case5 body ps ih => exact ih
  | case6 p body ps ih => exact ih
  | case7 body ps ih => exact ih
  | case8 ns ps ih =>
    rw [List.map_append]
    exact ih.append _

theorem leavesLast_join {ps : List Part} :
    LeavesLast (join ps) ↔ (∀ p ∈ ps, p.leaving.Pairwise (· ≤ ·)) ∧
      ps.Pairwise fun p q => true ∈ p.leaving → false ∉ q.leaving := by
  rw [leavesLast_iff, (join_leaving ps).sorted, List.pairwise_flatMap]
  refine and_congr_right fun _ => ?_
  have hle (xs ys : List Bool) : (∀ x ∈ xs, ∀ y ∈ ys, x ≤ y) ↔ (true ∈ xs → false ∉ ys) := by
    have hout : ¬ true ≤ false := by decide
    simp [Bool.forall_bool, hout]
  simp only [hle]

/-! ### Blocks -/

/-- The nodes of a block of such an owner stand in the list around it. -/
def inlines : Owner → Bool
  | .root | .namedArrow _ | .classBody _ | .callback | .object => true
  | _ => false

/-- A clause brings nothing by itself. -/
def isClause (owner : Owner) : Bool :=
  roleOf owner = .otherwise || roleOf owner = .handler || roleOf owner = .cleanup

/-- A block brings a step that leaves into the list around it: its own, or that of a block that it inlines. -/
inductive Leaves : Block → Prop where
  | own {b : Block} {s : Step} (hinlined : inlines b.owner = true) (hs : s ∈ stepsOf b.tokens)
      (hleaves : s.isTerminal = true) : Leaves b
  | inner {b c : Block} (hinlined : inlines b.owner = true) (hc : c ∈ b.children) (hleaves : Leaves c) : Leaves b

/-- A block brings a node that does not leave: the construct that it is, a step of its own, or what comes from a block
that it inlines. -/
inductive GoesOn : Block → Prop where
  | construct {b : Block} (hinlined : inlines b.owner = false) (hclause : isClause b.owner = false) : GoesOn b
  | own {b : Block} {s : Step} (hinlined : inlines b.owner = true) (hs : s ∈ stepsOf b.tokens)
      (hgoes : s.isTerminal = false) : GoesOn b
  | inner {b c : Block} (hinlined : inlines b.owner = true) (hc : c ∈ b.children) (hgoes : GoesOn c) : GoesOn b

theorem part_inlined {b : Block} (h : inlines b.owner = true) : part b = .nodes (ofBlock b) := by
  rw [part_eq, ofBlock]
  cases howner : b.owner <;> simp_all [inlines, partOf]

theorem leaving_of_not_inlined {b : Block} (h : inlines b.owner = false) :
    (part b).leaving = if isClause b.owner then [] else [false] := by
  rw [part_eq]
  cases howner : b.owner <;> simp_all [inlines, partOf, Part.leaving, isClause, roleOf, Node.isTerminal, Node.step?]

theorem map_step_isTerminal (steps : List Step) : (steps.map Node.step).map Node.isTerminal = steps.map Step.isTerminal := by
  rw [List.map_map]
  rfl

theorem mem_leaving_inlined {b : Block} (h : inlines b.owner = true) (x : Bool) :
    x ∈ (part b).leaving ↔ (∃ s ∈ stepsOf b.tokens, s.isTerminal = x) ∨ ∃ c ∈ b.children, x ∈ (part c).leaving := by
  have hjoin : x ∈ (join (b.children.map part)).map Node.isTerminal ↔ ∃ c ∈ b.children, x ∈ (part c).leaving := by
    rw [(join_leaving _).mem, List.flatMap_map, List.mem_flatMap]
  rw [part_inlined h, Part.leaving, ofBlock_eq, assemble, List.map_append, List.map_append, List.mem_append,
    List.mem_append, hjoin, map_step_isTerminal, map_step_isTerminal, List.mem_map, List.mem_map]
  simp only [List.mem_filter]
  cases x <;> grind

theorem leaves_iff (b : Block) : true ∈ (part b).leaving ↔ Leaves b := by
  induction b using Block.induction_children with
  | h b ih =>
    by_cases hb : inlines b.owner = true
    · rw [mem_leaving_inlined hb]
      constructor
      · rintro (⟨s, hs, hleaves⟩ | ⟨c, hc, hleaves⟩)
        · exact .own hb hs hleaves
        · exact .inner hb hc ((ih c hc).1 hleaves)
      · rintro (⟨-, hs, hleaves⟩ | ⟨-, hc, hleaves⟩)
        · exact .inl ⟨_, hs, hleaves⟩
        · exact .inr ⟨_, hc, (ih _ hc).2 hleaves⟩
    · refine iff_of_false ?_ fun h => by cases h <;> contradiction
      rw [leaving_of_not_inlined (by simpa using hb)]
      split <;> simp

theorem goesOn_iff (b : Block) : false ∈ (part b).leaving ↔ GoesOn b := by
  induction b using Block.induction_children with
  | h b ih =>
    by_cases hb : inlines b.owner = true
    · rw [mem_leaving_inlined hb]
      constructor
      · rintro (⟨s, hs, hgoes⟩ | ⟨c, hc, hgoes⟩)
        · exact .own hb hs hgoes
        · exact .inner hb hc ((ih c hc).1 hgoes)
      · rintro (⟨hnot, -⟩ | ⟨-, hs, hgoes⟩ | ⟨-, hc, hgoes⟩)
        · simp [hb] at hnot
        · exact .inl ⟨_, hs, hgoes⟩
        · exact .inr ⟨_, hc, (ih _ hc).2 hgoes⟩
    · rw [Bool.not_eq_true] at hb
      rw [leaving_of_not_inlined hb]
      constructor
      · intro h
        refine .construct hb ?_
        by_contra hclause
        simp [hclause] at h
      · rintro (⟨-, hclause⟩ | ⟨hnot, -⟩ | ⟨hnot, -⟩)
        · simp [hclause]
        · simp [hb] at hnot
        · simp [hb] at hnot

/-! ### Lists of siblings -/

/-- The lists of blocks that are folded to the lists of a block: for a switch one a case. -/
def groups (b : Block) : List (List Block) :=
  match b.owner with
  | .switch _ => (spans b.tokens.length (clausesOf b)).map (blocksWithin b.children)
  | _ => [b.children]

/-- The siblings without stray clauses. -/
def drawn (bs : List Block) : List Block := drawnFrom (fun b => roleOf b.owner) .plain bs

/-- Siblings that are folded into one list of the flow of `bs`. -/
inductive Folded (bs : List Block) : List Block → Prop where
  | here : Folded bs bs
  | inside {cs es : List Block} {c : Block} (h : Folded bs cs) (hc : c ∈ drawn cs) (he : es ∈ groups c) : Folded bs es

/-- The list that siblings are folded to. -/
def fold (bs : List Block) : List Node := join (bs.map part)

theorem leavesLast_assemble {steps : List Step} {parts : List Part} :
    LeavesLast (assemble steps parts) ↔ LeavesLast (join parts) := by
  have hfirst : ∀ x ∈ (steps.filter fun s => !s.isTerminal).map Step.isTerminal, x = false := by simp
  have hlast : ∀ x ∈ (steps.filter Step.isTerminal).map Step.isTerminal, x = true := by simp
  rw [leavesLast_iff, leavesLast_iff, assemble, List.map_append, List.map_append, map_step_isTerminal,
    map_step_isTerminal, List.append_assoc, List.pairwise_append, List.pairwise_append]
  have hsame {xs : List Bool} {b : Bool} (h : ∀ x ∈ xs, x = b) : xs.Pairwise (· ≤ ·) := by
    rw [List.eq_replicate_of_mem h, List.pairwise_replicate]
    exact .inr le_rfl
  refine ⟨fun h => h.2.1.1, fun h => ⟨hsame hfirst, ⟨h, hsame hlast, fun x _ y hy => ?_⟩, fun x hx y _ => ?_⟩⟩
  · rw [hlast y hy]
    exact Bool.le_true x
  · rw [hfirst x hx]
    exact Bool.false_le y

theorem tidyInside_assemble {steps : List Step} {parts : List Part} :
    TidyInside (assemble steps parts) ↔ TidyInside (join parts) := by
  rw [assemble, tidyInside_append, tidyInside_append]
  simp only [tidyInside_steps, true_and, and_true]

theorem tidy_assemble {steps : List Step} {parts : List Part} : Tidy (assemble steps parts) ↔ Tidy (join parts) := by
  rw [tidy_iff, tidy_iff, leavesLast_assemble, tidyInside_assemble]

/-- A block is drawn tidily when each list is tidy that its own blocks are folded to. -/
theorem part_tidy_iff (b : Block) :
    (part b).leaving.Pairwise (· ≤ ·) ∧ (part b).Tidy ↔ ∀ es ∈ groups b, Tidy (fold es) := by
  by_cases hb : inlines b.owner = true
  · have hgroups : groups b = [b.children] := by
      rw [groups]
      cases howner : b.owner <;> simp_all [inlines]
    rw [part_inlined hb, Part.leaving, ← leavesLast_iff, Part.tidy_nodes, ← tidy_iff, ofBlock_eq, tidy_assemble, hgroups]
    simp [fold]
  · rw [Bool.not_eq_true] at hb
    have hsorted : (part b).leaving.Pairwise (· ≤ ·) := by
      rw [leaving_of_not_inlined hb]
      split <;> simp
    rw [and_iff_right hsorted, part_eq, groups]
    cases howner : b.owner with
    | switch subject =>
      simp only [partOf, casesFrom_eq, Part.tidy_nodes, tidyInside_singleton, Node.children, List.forall_mem_map,
        Case.body, tidy_assemble, fold, clausesOf]
    | _ =>
      simp_all [inlines, partOf, map_snd_anchoredParts, tidyInside_singleton, Node.children, tidy_assemble, fold]

/-- A list that siblings are folded to is tidy when no step that leaves comes before a sibling that goes on, and the
lists inside of the siblings are tidy. -/
theorem tidy_fold_iff (bs : List Block) :
    Tidy (fold bs) ↔ bs.Pairwise (fun a b => Leaves a → ¬ GoesOn b) ∧
      ∀ c ∈ drawn bs, ∀ es ∈ groups c, Tidy (fold es) := by
  have hinside : TidyInside (fold bs) ↔ ∀ c ∈ drawn bs, (part c).Tidy := by
    have hjoins : TidyInside (fold bs) ↔ ∀ p ∈ drawnFrom Part.role .plain (bs.map part), p.Tidy :=
      joinsTidy_iff (bs.map part) .plain
    rw [hjoins, drawnFrom_map, List.forall_mem_map]
    simp only [part_eq, partOf_role, drawn]
  have horder : LeavesLast (fold bs) ↔
      (∀ c ∈ bs, (part c).leaving.Pairwise (· ≤ ·)) ∧ bs.Pairwise (fun a b => Leaves a → ¬ GoesOn b) := by
    rw [fold, leavesLast_join, List.forall_mem_map, List.pairwise_map]
    simp only [leaves_iff, goesOn_iff]
  rw [tidy_iff, horder, hinside]
  constructor
  · rintro ⟨⟨hsorted, hpairs⟩, htidy⟩
    exact ⟨hpairs, fun c hc => (part_tidy_iff c).1 ⟨hsorted c (mem_of_mem_drawnFrom hc), htidy c hc⟩⟩
  · rintro ⟨hpairs, hgroups⟩
    refine ⟨⟨fun c hc => ?_, hpairs⟩, fun c hc => ((part_tidy_iff c).2 (hgroups c hc)).2⟩
    by_cases hinlined : inlines c.owner = true
    · have hsingle : roleOf c.owner = .single := by
        cases howner : c.owner <;> simp_all [inlines, roleOf]
      exact ((part_tidy_iff c).2 (hgroups c (mem_drawnFrom_of_single hc hsingle))).1
    · rw [leaving_of_not_inlined (by simpa using hinlined)]
      split <;> simp

theorem Folded.tidy {bs cs : List Block} (h : Folded bs cs) (htidy : Tidy (fold bs)) : Tidy (fold cs) := by
  induction h with
  | here => exact htidy
  | inside _ hc he ih => exact ((tidy_fold_iff _).1 ih).2 _ hc _ he

theorem mem_children_of_mem_groups {b c : Block} {es : List Block} (he : es ∈ groups b) (hc : c ∈ es) :
    c ∈ b.children := by
  rw [groups] at he
  split at he
  · obtain ⟨span, -, rfl⟩ := List.mem_map.mp he
    exact (List.mem_filter.mp hc).1
  · simp_all

/-- The induction is on the block around the siblings, whose own blocks are smaller. -/
theorem tidy_of_folded (b : Block) {bs : List Block} (hin : ∀ c ∈ bs, c ∈ b.children)
    (h : ∀ cs, Folded bs cs → cs.Pairwise (fun a b => Leaves a → ¬ GoesOn b)) : Tidy (fold bs) := by
  induction b using Block.induction_children generalizing bs with
  | h b ih =>
    refine (tidy_fold_iff bs).2 ⟨h bs .here, fun c hc es he => ?_⟩
    refine ih c (hin c (mem_of_mem_drawnFrom hc)) (fun d hd => mem_children_of_mem_groups he hd) fun cs hcs => h cs ?_
    induction hcs with
    | here => exact .inside .here hc he
    | inside _ hc' he' ih => exact .inside ih hc' he'

/-- Steps that leave come last in every list of a flow exactly when among siblings that are folded into one list no
inlined block with a step that leaves comes before a block that goes on. -/
theorem ofSource_tidy_iff (code : String) :
    (∀ l ∈ Flow.lists (ofSource code), LeavesLast l) ↔
      ∀ bs, Folded (Block.ofTokens (BraceLexer.tokens code)).children bs →
        bs.Pairwise (fun a b => Leaves a → ¬ GoesOn b) := by
  have hfold : Tidy (ofSource code) ↔ Tidy (fold (Block.ofTokens (BraceLexer.tokens code)).children) := by
    rw [ofSource, ofBlock_eq, tidy_assemble, fold]
  refine hfold.trans ⟨fun h bs hbs => ((tidy_fold_iff bs).1 (hbs.tidy h)).1, fun h => ?_⟩
  exact tidy_of_folded (Block.ofTokens (BraceLexer.tokens code)) (fun _ hc => hc) h

/-- The return of an arrow function stands before the decision behind it. -/
theorem returning_arrow_not_last :
    ¬ ∀ l ∈ Flow.lists (ofSource "const f = () => \x7b return 1; \x7d;\nif (a) \x7b console.log('x'); \x7d"),
      LeavesLast l := by
  decide +kernel

end BraceFlow
end FlowSketch
