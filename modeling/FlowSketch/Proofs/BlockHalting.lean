import FlowSketch.BraceAttempt
import FlowSketch.Proofs.AttemptOutcomes
import FlowSketch.Proofs.BlockParts

/-!
# Folding blocks ends without a fault

The fold that goes by the names of owners and by positions gives the nodes of every block. The owners that it asks for a
part name it, and it asks for no block behind the last one.
-/
namespace FlowSketch.BraceAttempt
open BraceFlow

/-- The nodes of a block, and its cases if it is read as a switch, are built without a fault. -/
structure Built (b : Block) : Prop where
  nodes : Ends (fun fuel => build fuel b) (pure (ofBlock b))
  cases : Ends (fun fuel => casesFrom fuel b.tokens.length b.children (clausesFrom 0 b.tokens).2)
    (pure (BraceFlow.casesFrom b.tokens.length (anchoredParts b.children) (clausesFrom 0 b.tokens).2))

variable {blocks later : List Block} {b : Block} {i : ℕ}

theorem blockAt_of_drop (h : blocks.drop i = b :: later) : blockAt blocks i = pure b := Attempt.get_of_drop h _

theorem map_part_drop (h : blocks.drop i = b :: later) :
    (blocks.drop i).map part = partOf b.owner b.tokens (anchoredParts b.children) :: later.map part := by
  rw [h, List.map_cons, part_eq]

/-! ### Clauses that join -/

/-- What is read from a position on, and the parts of the blocks behind it. -/
def Reads {α : Type} (blocks : List Block) (attempt : ℕ → Attempt (α × ℕ)) (read : α × List Part) : Prop :=
  ∃ next, Ends attempt (pure (read.1, next)) ∧ (blocks.drop next).map part = read.2

theorem elseFrom_reads (hbuilt : ∀ b ∈ blocks, Built b) (i : ℕ) :
    Reads blocks (fun fuel => elseFrom fuel blocks i) (elseChain ((blocks.drop i).map part)) := by
  induction hd : blocks.drop i generalizing i with
  | nil =>
    refine ⟨i, .of_step fun fuel => ?_, by rw [hd]; rfl⟩
    rw [elseFrom, if_neg (not_lt_of_drop hd)]
    rfl
  | cons b later ih =>
    have hparts := map_part_drop hd
    have hyes := (hbuilt b (mem_of_drop hd)).nodes
    obtain ⟨next, hnext, hlater⟩ := ih (i + 1) (drop_succ_of_drop hd)
    rw [← hd, hparts]
    cases howner : b.owner with
    | elseBranch c =>
      refine ⟨next, .of_succ ?_, hlater⟩
      filter_upwards [hyes.eventually, hnext.eventually] with fuel hyes hnext
      rw [elseFrom, if_pos (lt_of_drop hd), blockAt_of_drop hd, pure_bind, hyes, howner]
      simp only [hnext, pure_bind]
      rfl
    | otherwise =>
      refine ⟨i + 1, .of_succ ?_, by rw [drop_succ_of_drop hd]; rfl⟩
      filter_upwards [hyes.eventually] with fuel hyes
      rw [elseFrom, if_pos (lt_of_drop hd), blockAt_of_drop hd, pure_bind, hyes, howner]
      rfl
    | promise s =>
      rw [howner] at hparts
      refine ⟨i, .of_step fun fuel => ?_, hparts⟩
      rw [elseFrom, if_pos (lt_of_drop hd), blockAt_of_drop hd, pure_bind, howner]
      cases s <;> rfl
    | _ =>
      rw [howner] at hparts
      refine ⟨i, .of_step fun fuel => ?_, hparts⟩
      rw [elseFrom, if_pos (lt_of_drop hd), blockAt_of_drop hd, pure_bind, howner]
      rfl

theorem catchFrom_reads (hbuilt : ∀ b ∈ blocks, Built b) (i : ℕ) :
    Reads blocks (fun fuel => catchFrom fuel blocks i) (catchClause ((blocks.drop i).map part)) := by
  cases hd : blocks.drop i with
  | nil =>
    refine ⟨i, .of_step fun fuel => ?_, by rw [hd]; rfl⟩
    rw [catchFrom, if_neg (not_lt_of_drop hd)]
    rfl
  | cons b later =>
    have hparts := map_part_drop hd
    have hnodes := (hbuilt b (mem_of_drop hd)).nodes
    rw [← hd, hparts]
    cases howner : b.owner with
    | catchBlock param =>
      refine ⟨i + 1, .of_succ ?_, by rw [drop_succ_of_drop hd]; rfl⟩
      filter_upwards [hnodes.eventually] with fuel hnodes
      rw [catchFrom, if_pos (lt_of_drop hd), blockAt_of_drop hd, pure_bind, hnodes, howner]
      rfl
    | promise s =>
      rw [howner] at hparts
      refine ⟨i, .of_step fun fuel => ?_, hparts⟩
      rw [catchFrom, if_pos (lt_of_drop hd), blockAt_of_drop hd, pure_bind, howner]
      cases s <;> rfl
    | _ =>
      rw [howner] at hparts
      refine ⟨i, .of_step fun fuel => ?_, hparts⟩
      rw [catchFrom, if_pos (lt_of_drop hd), blockAt_of_drop hd, pure_bind, howner]
      rfl

theorem finallyFrom_reads (hbuilt : ∀ b ∈ blocks, Built b) (i : ℕ) :
    Reads blocks (fun fuel => finallyFrom fuel blocks i) (finallyClause ((blocks.drop i).map part)) := by
  cases hd : blocks.drop i with
  | nil =>
    refine ⟨i, .of_step fun fuel => ?_, by rw [hd]; rfl⟩
    rw [finallyFrom, if_neg (not_lt_of_drop hd)]
    rfl
  | cons b later =>
    have hparts := map_part_drop hd
    have hnodes := (hbuilt b (mem_of_drop hd)).nodes
    rw [← hd, hparts]
    cases howner : b.owner with
    | finallyBlock =>
      refine ⟨i + 1, .of_succ ?_, by rw [drop_succ_of_drop hd]; rfl⟩
      filter_upwards [hnodes.eventually] with fuel hnodes
      rw [finallyFrom, if_pos (lt_of_drop hd), blockAt_of_drop hd, pure_bind, hnodes, howner]
      rfl
    | promise s =>
      rw [howner] at hparts
      refine ⟨i, .of_step fun fuel => ?_, hparts⟩
      rw [finallyFrom, if_pos (lt_of_drop hd), blockAt_of_drop hd, pure_bind, howner]
      cases s <;> rfl
    | _ =>
      rw [howner] at hparts
      refine ⟨i, .of_step fun fuel => ?_, hparts⟩
      rw [finallyFrom, if_pos (lt_of_drop hd), blockAt_of_drop hd, pure_bind, howner]
      rfl

/-! ### Nodes -/

/-- The nodes of a part that joins with none beside it; a clause without its head has none. -/
def ownNodes : Part → List Node
  | .nodes ns => ns
  | _ => []

/-- A block that heads no chain and no try. -/
def IsSingle (b : Block) : Prop := ["if", "else-if"].contains b.owner.kind = false ∧ b.owner.kind ≠ "try"

theorem nodesOf_ends (hbuilt : Built b) (hsingle : IsSingle b) :
    Ends (fun fuel => nodesOf fuel b) (pure (ownNodes (part b))) := by
  refine .of_succ ?_
  filter_upwards [hbuilt.nodes.eventually, hbuilt.cases.eventually] with fuel hnodes hcases
  rw [nodesOf, hnodes, part_eq]
  obtain ⟨hif, htry⟩ := hsingle
  cases howner : b.owner with
  | branch c => simp [howner, Owner.kind] at hif
  | elseBranch c => simp [howner, Owner.kind] at hif
  | tryBlock => simp [howner, Owner.kind] at htry
  | promise s => cases s <;> rfl
  | switch s =>
    rw [hcases]
    rfl
  | _ => rfl

theorem join_single (hsingle : IsSingle b) (ps : List Part) : join (part b :: ps) = ownNodes (part b) ++ join ps := by
  obtain ⟨hif, htry⟩ := hsingle
  rw [part_eq]
  cases howner : b.owner with
  | branch c => simp [howner, Owner.kind] at hif
  | elseBranch c => simp [howner, Owner.kind] at hif
  | tryBlock => simp [howner, Owner.kind] at htry
  | _ => simp [partOf, join, ownNodes]

theorem chainFrom_reads (hbuilt : ∀ b ∈ blocks, Built b) (hd : blocks.drop i = b :: later) :
    Reads blocks (fun fuel => chainFrom fuel blocks i)
      (.decision b.owner.label (ofBlock b) (elseChain (later.map part)).1, (elseChain (later.map part)).2) := by
  have hyes := (hbuilt b (mem_of_drop hd)).nodes
  obtain ⟨next, hnext, hlater⟩ := elseFrom_reads hbuilt (i + 1)
  rw [drop_succ_of_drop hd] at hnext hlater
  refine ⟨next, .of_succ ?_, hlater⟩
  filter_upwards [hyes.eventually, hnext.eventually] with fuel hyes hnext
  rw [chainFrom, blockAt_of_drop hd, pure_bind, hyes, pure_bind, hnext]
  rfl

theorem tryFrom_reads (hbuilt : ∀ b ∈ blocks, Built b) (hd : blocks.drop i = b :: later) :
    Reads blocks (fun fuel => tryFrom fuel blocks i)
      (.tryCatch (ofBlock b) (catchClause (later.map part)).1.1 (catchClause (later.map part)).1.2
        (finallyClause (catchClause (later.map part)).2).1, (finallyClause (catchClause (later.map part)).2).2) := by
  have hbody := (hbuilt b (mem_of_drop hd)).nodes
  obtain ⟨next, hnext, hlater⟩ := catchFrom_reads hbuilt (i + 1)
  rw [drop_succ_of_drop hd] at hnext hlater
  obtain ⟨last, hlast, hbehind⟩ := finallyFrom_reads hbuilt next
  rw [hlater] at hlast hbehind
  refine ⟨last, .of_succ ?_, hbehind⟩
  filter_upwards [hbody.eventually, hnext.eventually, hlast.eventually] with fuel hbody hnext hlast
  rw [tryFrom, blockAt_of_drop hd, pure_bind, hbody, pure_bind, hnext]
  simp only [pure_bind, hlast]

theorem join_chain (hif : ["if", "else-if"].contains b.owner.kind = true) (ps : List Part) :
    join (part b :: ps) = .decision b.owner.label (ofBlock b) (elseChain ps).1 :: join (elseChain ps).2 := by
  rw [part_eq]
  cases howner : b.owner with
  | branch c => rw [partOf, join, ofBlock]
  | elseBranch c => rw [partOf, join, ofBlock]
  | promise s => cases s <;> simp [howner, Owner.kind, PromiseStage.kind] at hif
  | _ => simp [howner, Owner.kind] at hif

theorem join_try (htry : b.owner.kind = "try") (ps : List Part) :
    join (part b :: ps) =
      .tryCatch (ofBlock b) (catchClause ps).1.1 (catchClause ps).1.2 (finallyClause (catchClause ps).2).1
        :: join (finallyClause (catchClause ps).2).2 := by
  rw [part_eq]
  cases howner : b.owner with
  | tryBlock => rw [partOf, join, ofBlock]
  | promise s => cases s <;> simp [howner, Owner.kind, PromiseStage.kind] at htry
  | _ => simp [howner, Owner.kind] at htry

/-- The induction is on how many blocks there are from the position on. -/
theorem foldFrom_ends (hbuilt : ∀ b ∈ blocks, Built b) (i : ℕ) :
    Ends (fun fuel => foldFrom fuel blocks i) (pure (join ((blocks.drop i).map part))) := by
  induction hn : ((blocks.drop i).map part).length using Nat.strong_induction_on generalizing i with
  | _ n ih =>
    cases hd : blocks.drop i with
    | nil =>
      refine .of_step fun fuel => ?_
      rw [foldFrom, if_neg (not_lt_of_drop hd), List.map_nil, join]
    | cons b later =>
      rw [hd, List.map_cons, List.length_cons] at hn
      have hbehind {ps : List Part} {j : ℕ} (hps : (blocks.drop j).map part = ps)
          (hle : ps.length ≤ (later.map part).length) : Ends (fun fuel => foldFrom fuel blocks j) (pure (join ps)) := by
        have hj := ih _ (by rw [hps]; omega) j rfl
        rwa [hps] at hj
      refine .of_succ ?_
      by_cases hif : ["if", "else-if"].contains b.owner.kind = true
      · obtain ⟨next, hnext, hlater⟩ := chainFrom_reads hbuilt hd
        filter_upwards [hnext.eventually, (hbehind hlater (elseChain_length _)).eventually] with fuel hnext hjoin
        rw [foldFrom, if_pos (lt_of_drop hd), blockAt_of_drop hd, pure_bind, if_pos hif]
        simp only [hnext, hjoin, pure_bind]
        rw [List.map_cons, join_chain hif]
      by_cases htry : b.owner.kind = "try"
      · have hcatch := catchClause_length (later.map part)
        have hfinally := finallyClause_length (catchClause (later.map part)).2
        obtain ⟨next, hnext, hlater⟩ := tryFrom_reads hbuilt hd
        filter_upwards [hnext.eventually, (hbehind hlater (hfinally.trans hcatch)).eventually] with fuel hnext hjoin
        rw [foldFrom, if_pos (lt_of_drop hd), blockAt_of_drop hd, pure_bind, if_neg hif, if_pos htry]
        simp only [hnext, hjoin, pure_bind]
        rw [List.map_cons, join_try htry]
      · have hsingle : IsSingle b := ⟨by simpa using hif, htry⟩
        have hnodes := nodesOf_ends (hbuilt b (mem_of_drop hd)) hsingle
        have hlater : (blocks.drop (i + 1)).map part = later.map part := by rw [drop_succ_of_drop hd]
        filter_upwards [hnodes.eventually, (hbehind hlater le_rfl).eventually] with fuel hnodes hjoin
        rw [foldFrom, if_pos (lt_of_drop hd), blockAt_of_drop hd, pure_bind, if_neg hif, if_neg htry, hnodes, pure_bind,
          hjoin, pure_bind, List.map_cons, join_single hsingle]

theorem assembleFrom_ends (hbuilt : ∀ b ∈ blocks, Built b) (steps : List Step) :
    Ends (fun fuel => assembleFrom fuel steps blocks) (pure (assemble steps (blocks.map part))) := by
  refine .of_succ ?_
  filter_upwards [(foldFrom_ends hbuilt 0).eventually] with fuel hfold
  rw [assembleFrom, hfold, pure_bind, List.drop_zero, assemble]

theorem casesFrom_ends (hbuilt : ∀ b ∈ blocks, Built b) (count : ℕ) (clauses : List Clause) :
    Ends (fun fuel => casesFrom fuel count blocks clauses)
      (pure (BraceFlow.casesFrom count (anchoredParts blocks) clauses)) := by
  rw [casesFrom_eq]
  induction clauses with
  | nil => exact .of_step fun fuel => by simp [casesFrom, spans]
  | cons c cs ih =>
    have hown (p : Block → Bool) : ∀ b ∈ blocks.filter p, Built b := fun b hb => hbuilt b (List.mem_filter.mp hb).1
    refine .of_succ ?_
    filter_upwards [(assembleFrom_ends (hown _) (stepsOf c.tokens)).eventually, ih.eventually] with fuel hbody hlater
    rw [casesFrom, hbody, pure_bind, hlater, pure_bind]
    rfl

theorem built (b : Block) : Built b := by
  induction b using Block.induction_children with
  | h b ih =>
    refine ⟨.of_succ ?_, casesFrom_ends ih _ _⟩
    filter_upwards [(assembleFrom_ends ih (stepsOf b.tokens)).eventually] with fuel hnodes
    rw [build, hnodes, ofBlock_eq]

/-- A source is read as far as the lexer ends. -/
theorem ofSource_ends {code : String} {ts : List Token} (htokens : Ends (fun fuel => tokens fuel code) (some ts)) :
    Ends (fun fuel => ofSource fuel code) (pure (ofBlock (Block.ofTokens ts))) := by
  refine .of_eventually ?_
  filter_upwards [htokens.eventually, (built (Block.ofTokens ts)).nodes.eventually] with fuel htokens hnodes
  rw [ofSource, htokens]
  exact hnodes

end FlowSketch.BraceAttempt
