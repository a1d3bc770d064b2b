import FlowSketch.Proofs.BlockStorage
import FlowSketch.Proofs.FlowNodes
import FlowSketch.Proofs.StepLabels

/-!
# The nodes of a brace flow

What the statements of all blocks give as steps, and their owners as constructs, holds of every node of the flow at every
depth, however the blocks are joined.
-/
namespace FlowSketch.BraceFlow
open FlowSketch.Flow

variable {P : Node → Prop} {ps : List Part}

/-! ### Parts -/

/-- What holds of the nodes that a part brings with it and of the construct that it can become. -/
def Part.All (P : Node → Prop) : Part → Prop
  | .branch c body | .elseBranch c body => (∀ yes no, P (.decision c yes no)) ∧ Every P body
  | .catchBlock param body => (∀ tried handler cleanup, P (.tryCatch tried param handler cleanup)) ∧ Every P body
  | .otherwise body | .tryBlock body | .finallyBlock body => Every P body
  | .nodes ns => Every P ns

theorem elseChain_all (h : ∀ p ∈ ps, p.All P) :
    Every P (elseChain ps).1 ∧ ∀ p ∈ (elseChain ps).2, p.All P := by
  fun_induction elseChain ps with
  | case1 c body ps ih =>
    obtain ⟨⟨hcondition, hbody⟩, hps⟩ := List.forall_mem_cons.mp h
    refine ⟨every_cons.mpr ⟨⟨hcondition _ _, ?_⟩, every_nil⟩, (ih hps).2⟩
    simpa [Node.children] using ⟨hbody, (ih hps).1⟩
  | case2 body ps => exact List.forall_mem_cons.mp h
  | case3 ps => exact ⟨every_nil, h⟩

theorem catchClause_all (hplain : ∀ tried handler cleanup, P (.tryCatch tried "e" handler cleanup))
    (h : ∀ p ∈ ps, p.All P) : ((∀ tried handler cleanup, P (.tryCatch tried (catchClause ps).1.1 handler cleanup)) ∧
      Every P (catchClause ps).1.2) ∧ ∀ p ∈ (catchClause ps).2, p.All P := by
  unfold catchClause
  split
  · exact List.forall_mem_cons.mp h
  · exact ⟨⟨hplain, every_nil⟩, h⟩

theorem finallyClause_all (h : ∀ p ∈ ps, p.All P) :
    Every P (finallyClause ps).1 ∧ ∀ p ∈ (finallyClause ps).2, p.All P := by
  unfold finallyClause
  split
  · exact List.forall_mem_cons.mp h
  · exact ⟨every_nil, h⟩

theorem decision_all {c : String} {body : List Node} (hp : (∀ yes no, P (.decision c yes no)) ∧ Every P body)
    (hps : ∀ p ∈ ps, p.All P) (hrest : (∀ p ∈ (elseChain ps).2, p.All P) → Every P (join (elseChain ps).2)) :
    Every P (.decision c body (elseChain ps).1 :: join (elseChain ps).2) := by
  obtain ⟨hno, hlater⟩ := elseChain_all hps
  refine every_cons.mpr ⟨⟨hp.1 _ _, ?_⟩, hrest hlater⟩
  simpa [Node.children] using ⟨hp.2, hno⟩

theorem join_all (hplain : ∀ tried handler cleanup, P (.tryCatch tried "e" handler cleanup))
    (h : ∀ p ∈ ps, p.All P) : Every P (join ps) := by
  fun_induction join ps with
  | case1 => exact every_nil
  | case2 c body ps _ ih =>
    obtain ⟨hp, hps⟩ := List.forall_mem_cons.mp h
    exact decision_all hp hps ih
  | case3 c body ps _ ih =>
    obtain ⟨hp, hps⟩ := List.forall_mem_cons.mp h
    exact decision_all hp hps ih
  | case4 body ps _ _ ih =>
    obtain ⟨hp, hps⟩ := List.forall_mem_cons.mp h
    obtain ⟨⟨htry, hhandler⟩, hcaught⟩ := catchClause_all hplain hps
    obtain ⟨hcleanup, hlater⟩ := finallyClause_all hcaught
    exact every_cons.mpr ⟨⟨htry _ _ _, by simpa [Node.children] using ⟨hp, hhandler, hcleanup⟩⟩, ih hlater⟩
  | case5 body ps ih => exact ih (List.forall_mem_cons.mp h).2
  | case6 p body ps ih => exact ih (List.forall_mem_cons.mp h).2
  | case7 body ps ih => exact ih (List.forall_mem_cons.mp h).2
  | case8 ns ps ih =>
    obtain ⟨hp, hps⟩ := List.forall_mem_cons.mp h
    exact every_append.mpr ⟨hp, ih hps⟩

theorem assemble_all (hplain : ∀ tried handler cleanup, P (.tryCatch tried "e" handler cleanup)) {steps : List Step}
    (hsteps : ∀ s ∈ steps, P (.step s)) (h : ∀ p ∈ ps, p.All P) : Every P (assemble steps ps) := by
  rw [assemble, every_append, every_append, every_steps, every_steps]
  exact ⟨⟨fun s hs => hsteps s (List.mem_of_mem_filter hs), join_all hplain h⟩,
    fun s hs => hsteps s (List.mem_of_mem_filter hs)⟩

/-! ### Blocks -/

/-- What holds of the steps of a statement list and of all that is left of it. -/
def StepsAll (P : Node → Prop) (tokens : List Token) : Prop :=
  ∀ us, us.Sublist tokens → ∀ s ∈ stepsOf us, P (.step s)

/-- What holds of the construct that an owner makes of a block with the given tokens. -/
def Gives (P : Node → Prop) (tokens : List Token) (owner : Owner) : Prop :=
  match owner with
  | .branch _ | .elseBranch _ => ∀ yes no, P (.decision owner.label yes no)
  | .forOf _ | .forIn | .forLoop _ | .whileLoop _ | .doWhile | .iterator _ _ => ∀ body, P (.loop owner.label owner.kind body)
  | .switch _ => ∀ cases, cases.map Case.label = (clausesFrom 0 tokens).2.map Clause.label → P (.switch owner.label cases)
  | .event s _ n => ∀ body, P (.event s n owner.label body)
  | .promise _ => ∀ body, P (.promise owner.label body)
  | .function _ | .method _ => ∀ body, P (.function owner.label body)
  | .catchBlock param => ∀ tried handler cleanup, P (.tryCatch tried param handler cleanup)
  | _ => True

/-- The tokens of the clauses of a switch, and those before the first clause, are among its tokens; so are those of the
labels. -/
theorem clausesFrom_sublist (index : ℕ) (ts : List Token) : (clausesFrom index ts).1.Sublist ts ∧
    ∀ c ∈ (clausesFrom index ts).2, c.tokens.Sublist ts ∧
      ∃ keyword us, us.Sublist ts ∧ c.label = clauseLabel keyword us := by
  fun_induction clausesFrom index ts with
  | case1 => exact ⟨.slnil, nofun⟩
  | case2 index t ts _ label later ih =>
    have hlater : (ts.drop (label.length + 1)).Sublist (t :: ts) := (List.drop_sublist _ _).cons t
    refine ⟨List.nil_sublist _, List.forall_mem_cons.mpr ⟨⟨ih.1.trans hlater, t, label, ?_, rfl⟩, fun c hc => ?_⟩⟩
    · exact (List.takeWhile_sublist _).cons t
    · obtain ⟨htokens, keyword, us, hus, hlabel⟩ := ih.2 c hc
      exact ⟨htokens.trans hlater, keyword, us, hus.trans hlater, hlabel⟩
  | case3 index t ts _ later ih =>
    refine ⟨ih.1.cons_cons t, fun c hc => ?_⟩
    obtain ⟨htokens, keyword, us, hus, hlabel⟩ := ih.2 c hc
    exact ⟨htokens.cons t, keyword, us, hus.cons t, hlabel⟩

theorem casesFrom_labels (count : ℕ) (parts : List (ℕ × Part)) (clauses : List Clause) :
    (casesFrom count parts clauses).map Case.label = clauses.map Clause.label := by
  induction clauses with
  | nil => rfl
  | cons clause clauses ih =>
    rw [casesFrom, List.map_cons, List.map_cons, ih]
    rfl

section Blocks
variable (hplain : ∀ tried handler cleanup, P (.tryCatch tried "e" handler cleanup))
include hplain

theorem casesFrom_all {parts : List (ℕ × Part)} (h : ∀ p ∈ parts, p.2.All P) (count : ℕ) {clauses : List Clause}
    (hclauses : ∀ c ∈ clauses, ∀ s ∈ stepsOf c.tokens, P (.step s)) :
    ∀ c ∈ casesFrom count parts clauses, Every P c.body := by
  induction clauses with
  | nil => exact nofun
  | cons clause clauses ih =>
    obtain ⟨hclause, hlater⟩ := List.forall_mem_cons.mp hclauses
    rw [casesFrom]
    refine List.forall_mem_cons.mpr ⟨assemble_all hplain hclause fun p hp => ?_, ih hlater⟩
    obtain ⟨q, hq, rfl⟩ := List.mem_map.mp hp
    exact h q (List.mem_of_mem_filter hq)

theorem partOf_all {owner : Owner} {tokens : List Token} (howner : Gives P tokens owner) (htokens : StepsAll P tokens)
    {parts : List (ℕ × Part)} (h : ∀ p ∈ parts, p.2.All P) : (partOf owner tokens parts).All P := by
  have hbody : Every P (assemble (stepsOf tokens) (parts.map Prod.snd)) :=
    assemble_all hplain (htokens tokens (.refl tokens)) (List.forall_mem_map.mpr h)
  have hsingle {n : Node} (hn : P n) (hchildren : n.children = [assemble (stepsOf tokens) (parts.map Prod.snd)]) :
      Every P [n] := every_cons.mpr ⟨⟨hn, by rw [hchildren]; simpa using hbody⟩, every_nil⟩
  cases owner with
  | branch c | elseBranch c | catchBlock c => exact ⟨howner, hbody⟩
  | forOf | forIn | forLoop | whileLoop | doWhile | iterator | event | promise | function | method =>
    exact hsingle (howner _) rfl
  | switch c =>
    have hclauses : ∀ c ∈ (clausesFrom 0 tokens).2, ∀ s ∈ stepsOf c.tokens, P (.step s) := fun c hc =>
      htokens c.tokens ((clausesFrom_sublist 0 tokens).2 c hc).1
    have hcases := casesFrom_all hplain h tokens.length hclauses
    exact every_cons.mpr ⟨⟨howner _ (casesFrom_labels _ _ _), List.forall_mem_map.mpr hcases⟩, every_nil⟩
  | _ => exact hbody

theorem part_all (b : Block) (h : ∀ c ∈ b.preorder, Gives P c.tokens c.owner ∧ StepsAll P c.tokens) : (part b).All P := by
  induction b using Block.induction_children with
  | h b ih =>
    rw [Block.preorder_eq, List.forall_mem_cons] at h
    rw [part_eq]
    refine partOf_all hplain h.1.1 h.1.2 ?_
    rw [anchoredParts_eq, List.forall_mem_map]
    exact fun c hc => ih c hc fun d hd => h.2 d (Block.mem_forest.mpr ⟨c, hc, hd⟩)

/-- What the steps and the owners of all blocks give holds of every node. The owners are those that are decided by
tokens of the source, and the tokens of a block are among those of the source. -/
theorem every_ofSource {code : String} (howners : ∀ before tokens, before.Sublist (BraceLexer.tokens code) →
      tokens.Sublist (BraceLexer.tokens code) → Gives P tokens (Owner.classify before))
    (hsteps : StepsAll P (BraceLexer.tokens code)) : Every P (ofSource code) := by
  have hstorage := (Block.ofTokens_storage (BraceLexer.tokens code)).inOrder
  have hblock : ∀ b ∈ (Block.ofTokens (BraceLexer.tokens code)).preorder,
      Gives P b.tokens b.owner ∧ StepsAll P b.tokens := by
    intro b hb
    have htokens := hstorage b.tokens (List.mem_map_of_mem hb)
    refine ⟨?_, fun us hus => hsteps us (hus.trans htokens)⟩
    rcases Block.ofTokens_owner _ b hb with howner | ⟨before, hbefore, howner⟩
    · rw [howner]
      trivial
    · rw [howner]
      exact howners before b.tokens hbefore htokens
  rw [Block.preorder_eq, List.forall_mem_cons] at hblock
  obtain ⟨⟨-, hroot⟩, hbelow⟩ := hblock
  rw [ofSource, ofBlock_eq]
  refine assemble_all hplain (hroot _ (.refl _)) (List.forall_mem_map.mpr fun c hc => part_all hplain c fun d hd => ?_)
  exact hbelow d (Block.mem_forest.mpr ⟨c, hc, hd⟩)

end Blocks
end FlowSketch.BraceFlow
