import FlowSketch.Proofs.BlockHalting

/-!
# Siblings fold group by group

A list of siblings falls into groups from left to right: a decision with all the else clauses that follow it, a try with
its handler and its cleanup, and other blocks one by one. The fold gives the nodes of one group after the other.
-/
namespace FlowSketch.BraceFlow
open BraceAttempt

/-! ### Groups -/

/-- Siblings that join, or a block by itself. -/
inductive SiblingGroup where
  | chain (head : Block) (elseIfs : List Block) (otherwise : Option Block)
  | attempt (body : Block) (handler cleanup : Option Block)
  | single (b : Block)

def SiblingGroup.blocks : SiblingGroup → List Block
  | chain head elseIfs otherwise => head :: (elseIfs ++ otherwise.toList)
  | attempt body handler cleanup => body :: (handler.toList ++ cleanup.toList)
  | single b => [b]

/-- A block that begins a decision by itself. -/
def headsChain (b : Block) : Bool := ["if", "else-if"].contains b.owner.kind

def isElseIf (b : Block) : Bool := b.owner.kind = "else-if"

/-- The siblings fall into the groups: a chain takes all else-if clauses that follow and at most one else clause, a try
takes the handler and the cleanup that come at once. -/
inductive Splits : List Block → List SiblingGroup → Prop where
  | nil : Splits [] []
  | chain {head : Block} {elseIfs later : List Block} {otherwise : Option Block} {gs : List SiblingGroup}
      (heads : headsChain head = true) (continues : ∀ b ∈ elseIfs, isElseIf b = true)
      (ends : ∀ b ∈ otherwise, b.owner.kind = "else")
      (longest : otherwise = none → ∀ b ∈ later.head?, isElseIf b = false ∧ b.owner.kind ≠ "else")
      (rest : Splits later gs) :
      Splits (head :: (elseIfs ++ (otherwise.toList ++ later))) (.chain head elseIfs otherwise :: gs)
  | attempt {body : Block} {handler cleanup : Option Block} {later : List Block} {gs : List SiblingGroup}
      (tries : body.owner.kind = "try") (handles : ∀ b ∈ handler, b.owner.kind = "catch")
      (cleans : ∀ b ∈ cleanup, b.owner.kind = "finally")
      (unhandled : handler = none → ∀ b ∈ (cleanup.toList ++ later).head?, b.owner.kind ≠ "catch")
      (uncleaned : cleanup = none → ∀ b ∈ later.head?, b.owner.kind ≠ "finally") (rest : Splits later gs) :
      Splits (body :: (handler.toList ++ (cleanup.toList ++ later))) (.attempt body handler cleanup :: gs)
  | single {b : Block} {later : List Block} {gs : List SiblingGroup} (alone : IsSingle b) (rest : Splits later gs) :
      Splits (b :: later) (.single b :: gs)

/-- A clause of the kind at the front, and what follows it. -/
def takeClause (kind : String) : List Block → Option Block × List Block
  | [] => (none, [])
  | b :: bs => if b.owner.kind = kind then (some b, bs) else (none, b :: bs)

theorem takeClause_length (kind : String) (bs : List Block) : (takeClause kind bs).2.length ≤ bs.length := by
  cases bs with
  | nil => exact le_rfl
  | cons b bs =>
    rw [takeClause]
    split
    · exact Nat.le_succ _
    · exact le_rfl

/-- The groups of siblings. -/
def split : List Block → List SiblingGroup
  | [] => []
  | b :: bs =>
    if headsChain b then
      .chain b (bs.takeWhile isElseIf) (takeClause "else" (bs.dropWhile isElseIf)).1
        :: split (takeClause "else" (bs.dropWhile isElseIf)).2
    else if b.owner.kind = "try" then
      .attempt b (takeClause "catch" bs).1 (takeClause "finally" (takeClause "catch" bs).2).1
        :: split (takeClause "finally" (takeClause "catch" bs).2).2
    else .single b :: split bs
termination_by bs => bs.length
decreasing_by
  · have hrun := (List.dropWhile_sublist isElseIf (l := bs)).length_le
    exact Nat.lt_succ_of_le ((takeClause_length _ _).trans hrun)
  · exact Nat.lt_succ_of_le ((takeClause_length _ _).trans (takeClause_length _ _))
  · exact Nat.lt_succ_self _

theorem Splits.blocks_eq {bs : List Block} {gs : List SiblingGroup} (h : Splits bs gs) :
    gs.flatMap SiblingGroup.blocks = bs := by
  induction h with
  | nil => rfl
  | chain _ _ _ _ _ ih => simp [SiblingGroup.blocks, ih]
  | attempt _ _ _ _ _ _ ih => simp [SiblingGroup.blocks, ih]
  | single _ _ ih => simp [SiblingGroup.blocks, ih]

theorem takeClause_append {kind : String} {clause : Option Block} {later : List Block}
    (hclause : ∀ b ∈ clause, b.owner.kind = kind)
    (hnone : clause = none → ∀ b ∈ later.head?, b.owner.kind ≠ kind) :
    takeClause kind (clause.toList ++ later) = (clause, later) := by
  cases clause with
  | some b => rw [Option.toList_some, List.singleton_append, takeClause, if_pos (hclause b rfl)]
  | none =>
    cases later with
    | nil => rfl
    | cons b later => rw [Option.toList_none, List.nil_append, takeClause, if_neg (hnone rfl b rfl)]

/-- What a clause leaves, with what it took in front, and whether it could take more. -/
theorem takeClause_spec (kind : String) (bs : List Block) :
    (takeClause kind bs).1.toList ++ (takeClause kind bs).2 = bs ∧
      (∀ b ∈ (takeClause kind bs).1, b.owner.kind = kind) ∧
        ((takeClause kind bs).1 = none → ∀ b ∈ (takeClause kind bs).2.head?, b.owner.kind ≠ kind) := by
  cases bs with
  | nil => simp [takeClause]
  | cons b bs =>
    rw [takeClause]
    split
    · next h => simp [h]
    · next h => simp [h]

/-- The only way to split siblings is the computed one. -/
theorem Splits.eq_split {bs : List Block} {gs : List SiblingGroup} (h : Splits bs gs) : gs = split bs := by
  induction h with
  | nil => rw [split]
  | @chain head elseIfs later otherwise gs heads continues ends longest _ ih =>
    have hstop : ∀ b ∈ (otherwise.toList ++ later).head?, isElseIf b = false := by
      cases otherwise with
      | none => exact fun b hb => (longest rfl b hb).1
      | some c =>
        rintro _ ⟨⟩
        simp [isElseIf, ends c rfl]
    have hrun : (elseIfs ++ (otherwise.toList ++ later)).takeWhile isElseIf = elseIfs ∧
        (elseIfs ++ (otherwise.toList ++ later)).dropWhile isElseIf = otherwise.toList ++ later := by
      rw [List.takeWhile_append_of_pos continues, List.dropWhile_append_of_pos continues]
      cases hrest : otherwise.toList ++ later with
      | nil => simp
      | cons b rest =>
        have hb : isElseIf b = false := hstop b (by rw [hrest]; rfl)
        simp [hb]
    rw [split, if_pos heads, hrun.1, hrun.2, takeClause_append ends fun hnone b hb => (longest hnone b hb).2, ← ih]
  | @attempt body handler cleanup later gs tries handles cleans unhandled uncleaned _ ih =>
    have hhead : headsChain body = false := by simp [headsChain, tries]
    rw [split, if_neg (by simp [hhead]), if_pos tries, takeClause_append handles unhandled,
      takeClause_append cleans uncleaned, ← ih]
  | single alone _ ih =>
    rw [split, if_neg (by simpa [headsChain] using alone.1), if_neg alone.2, ← ih]

theorem head?_dropWhile_isElseIf {bs : List Block} {b : Block} (h : b ∈ (bs.dropWhile isElseIf).head?) :
    isElseIf b = false := by
  have hstop := List.head?_dropWhile_not isElseIf bs
  rwa [Option.mem_def.mp h] at hstop

theorem splits_split (bs : List Block) : Splits bs (split bs) := by
  fun_induction split bs with
  | case1 => exact .nil
  | case2 b bs heads ih =>
    obtain ⟨hparts, hends, hlongest⟩ := takeClause_spec "else" (bs.dropWhile isElseIf)
    have hsiblings : bs.takeWhile isElseIf ++ ((takeClause "else" (bs.dropWhile isElseIf)).1.toList ++
        (takeClause "else" (bs.dropWhile isElseIf)).2) = bs := by
      rw [hparts, List.takeWhile_append_dropWhile]
    have hstop (hnone : (takeClause "else" (bs.dropWhile isElseIf)).1 = none) :
        ∀ c ∈ (takeClause "else" (bs.dropWhile isElseIf)).2.head?, isElseIf c = false ∧ c.owner.kind ≠ "else" := by
      intro c hc
      refine ⟨?_, hlongest hnone c hc⟩
      rw [hnone, Option.toList_none, List.nil_append] at hparts
      exact head?_dropWhile_isElseIf (hparts ▸ hc)
    have hcontinues : ∀ c ∈ bs.takeWhile isElseIf, isElseIf c = true := fun c hc => List.mem_takeWhile_imp hc
    have hchain := Splits.chain heads hcontinues hends hstop ih
    rwa [hsiblings] at hchain
  | case3 b bs hhead tries ih =>
    obtain ⟨hparts, handles, unhandled⟩ := takeClause_spec "catch" bs
    obtain ⟨hlater, cleans, uncleaned⟩ := takeClause_spec "finally" (takeClause "catch" bs).2
    rw [← hlater] at unhandled
    have hattempt := Splits.attempt tries handles cleans unhandled uncleaned ih
    rwa [hlater, hparts] at hattempt
  | case4 b bs hhead hbody ih => exact .single ⟨by simpa [headsChain] using hhead, hbody⟩ ih

theorem splits_iff {bs : List Block} {gs : List SiblingGroup} : Splits bs gs ↔ gs = split bs :=
  ⟨Splits.eq_split, fun h => h ▸ splits_split bs⟩

/-! ### Nodes -/

/-- The decision of a chain: each else-if clause is a decision by itself on the no side of the one before it. -/
def decisionOf (head : Block) (elseIfs : List Block) (otherwise : Option Block) : Node :=
  .decision head.owner.label (ofBlock head) <|
    match elseIfs with
    | [] => otherwise.elim [] ofBlock
    | b :: bs => [decisionOf b bs otherwise]

def caughtParam : Owner → String
  | .catchBlock p => p
  | _ => "e"

/-- The nodes of a block by itself. A clause without its head has none, and most blocks that are no construct are inlined. -/
def singleNodes (b : Block) : List Node :=
  match b.owner with
  | .otherwise | .catchBlock _ | .finallyBlock => []
  | .forOf _ | .forIn | .forLoop _ | .whileLoop _ | .doWhile | .iterator _ _ =>
    [.loop b.owner.label b.owner.kind (ofBlock b)]
  | .switch _ => [.switch b.owner.label (casesFrom b.tokens.length (anchoredParts b.children) (clausesOf b))]
  | .event s _ n => [.event s n b.owner.label (ofBlock b)]
  | .promise _ => [.promise b.owner.label (ofBlock b)]
  | .function _ | .method _ => [.function b.owner.label (ofBlock b)]
  | _ => ofBlock b

def SiblingGroup.nodes : SiblingGroup → List Node
  | chain head elseIfs otherwise => [decisionOf head elseIfs otherwise]
  | attempt body handler cleanup =>
    [.tryCatch (ofBlock body) (handler.elim "e" fun b => caughtParam b.owner) (handler.elim [] ofBlock)
      (cleanup.elim [] ofBlock)]
  | single b => singleNodes b

theorem ownNodes_part {b : Block} (h : IsSingle b) : ownNodes (part b) = singleNodes b := by
  obtain ⟨hhead, htry⟩ := h
  rw [part_eq, singleNodes, ofBlock, clausesOf]
  cases howner : b.owner with
  | branch c => simp [howner, Owner.kind] at hhead
  | elseBranch c => simp [howner, Owner.kind] at hhead
  | tryBlock => simp [howner, Owner.kind] at htry
  | _ => rfl

/-! ### Clauses -/

/-- The kind of a clause says what part it is. -/
theorem part_of_kind (b : Block) :
    (isElseIf b = true → part b = .elseBranch b.owner.label (ofBlock b)) ∧
      (b.owner.kind = "else" → part b = .otherwise (ofBlock b)) ∧
        (b.owner.kind = "catch" → part b = .catchBlock (caughtParam b.owner) (ofBlock b)) ∧
          (b.owner.kind = "finally" → part b = .finallyBlock (ofBlock b)) := by
  rw [part_eq, ofBlock, isElseIf, decide_eq_true_eq]
  cases b.owner with
  | promise s => cases s <;> simp [Owner.kind, PromiseStage.kind]
  | _ => simp [Owner.kind, partOf, caughtParam]

/-- A block of another kind is left where a clause is looked for. -/
theorem part_passed (b : Block) (ps : List Part) :
    (isElseIf b = false → b.owner.kind ≠ "else" → elseChain (part b :: ps) = ([], part b :: ps)) ∧
      (b.owner.kind ≠ "catch" → catchClause (part b :: ps) = (("e", []), part b :: ps)) ∧
        (b.owner.kind ≠ "finally" → finallyClause (part b :: ps) = ([], part b :: ps)) := by
  rw [part_eq, isElseIf, decide_eq_false_iff_not]
  cases b.owner <;> simp [Owner.kind, partOf, elseChain, catchClause, finallyClause]

theorem elseChain_nil_of_head {later : List Block}
    (h : ∀ b ∈ later.head?, isElseIf b = false ∧ b.owner.kind ≠ "else") :
    elseChain (later.map part) = ([], later.map part) := by
  cases later with
  | nil => rfl
  | cons b later => exact (part_passed b _).1 (h b rfl).1 (h b rfl).2

/-- The else clauses at the front are nested, each on the no side of the one before. -/
theorem elseChain_append (head : Block) {elseIfs later : List Block} {otherwise : Option Block}
    (continues : ∀ b ∈ elseIfs, isElseIf b = true) (ends : ∀ b ∈ otherwise, b.owner.kind = "else")
    (longest : otherwise = none → ∀ b ∈ later.head?, isElseIf b = false ∧ b.owner.kind ≠ "else") :
    Node.decision head.owner.label (ofBlock head)
        (elseChain ((elseIfs ++ (otherwise.toList ++ later)).map part)).1 = decisionOf head elseIfs otherwise ∧
      (elseChain ((elseIfs ++ (otherwise.toList ++ later)).map part)).2 = later.map part := by
  induction elseIfs generalizing head with
  | nil =>
    rw [decisionOf, List.nil_append]
    cases otherwise with
    | none =>
      rw [Option.toList_none, List.nil_append, elseChain_nil_of_head (longest rfl)]
      exact ⟨rfl, rfl⟩
    | some c =>
      rw [Option.toList_some, List.singleton_append, List.map_cons, (part_of_kind c).2.1 (ends c rfl)]
      exact ⟨rfl, rfl⟩
  | cons b elseIfs ih =>
    obtain ⟨hnode, hlater⟩ := ih b fun c hc => continues c (List.mem_cons_of_mem b hc)
    rw [decisionOf, List.cons_append, List.map_cons, (part_of_kind b).1 (continues b List.mem_cons_self), elseChain]
    exact ⟨by rw [hnode], hlater⟩

theorem catchClause_append {handler : Option Block} {later : List Block}
    (handles : ∀ b ∈ handler, b.owner.kind = "catch")
    (unhandled : handler = none → ∀ b ∈ later.head?, b.owner.kind ≠ "catch") :
    catchClause ((handler.toList ++ later).map part) =
      ((handler.elim "e" fun b => caughtParam b.owner, handler.elim [] ofBlock), later.map part) := by
  cases handler with
  | some b =>
    rw [Option.toList_some, List.singleton_append, List.map_cons, (part_of_kind b).2.2.1 (handles b rfl)]
    rfl
  | none =>
    cases later with
    | nil => rfl
    | cons b later => exact (part_passed b _).2.1 (unhandled rfl b rfl)

theorem finallyClause_append {cleanup : Option Block} {later : List Block}
    (cleans : ∀ b ∈ cleanup, b.owner.kind = "finally")
    (uncleaned : cleanup = none → ∀ b ∈ later.head?, b.owner.kind ≠ "finally") :
    finallyClause ((cleanup.toList ++ later).map part) = (cleanup.elim [] ofBlock, later.map part) := by
  cases cleanup with
  | some b =>
    rw [Option.toList_some, List.singleton_append, List.map_cons, (part_of_kind b).2.2.2 (cleans b rfl)]
    rfl
  | none =>
    cases later with
    | nil => rfl
    | cons b later => exact (part_passed b _).2.2 (uncleaned rfl b rfl)

/-! ### The fold -/

theorem Splits.join_eq {bs : List Block} {gs : List SiblingGroup} (h : Splits bs gs) :
    join (bs.map part) = gs.flatMap SiblingGroup.nodes := by
  induction h with
  | nil => rw [List.map_nil, join, List.flatMap_nil]
  | @chain head elseIfs later otherwise gs heads continues ends longest _ ih =>
    obtain ⟨hnode, hlater⟩ := elseChain_append head continues ends longest
    rw [List.map_cons, join_chain heads, hnode, hlater, ih]
    rfl
  | @attempt body handler cleanup later gs tries handles cleans unhandled uncleaned _ ih =>
    rw [List.map_cons, join_try tries, catchClause_append handles unhandled, finallyClause_append cleans uncleaned, ih]
    rfl
  | single alone _ ih =>
    rw [List.map_cons, join_single alone, ownNodes_part alone, ih]
    rfl

/-- Siblings split into groups in one way, which leaves none out and takes none twice. The fold of their parts, and the one
that goes by positions, give the nodes of one group after the other. -/
theorem fold_follows_clauses (bs : List Block) :
    (∀ gs, Splits bs gs ↔ gs = split bs) ∧ (split bs).flatMap SiblingGroup.blocks = bs ∧
      join (bs.map part) = (split bs).flatMap SiblingGroup.nodes ∧
        Ends (fun fuel => foldFrom fuel bs 0) (pure ((split bs).flatMap SiblingGroup.nodes)) := by
  have hsplits := splits_split bs
  have hfold := foldFrom_ends (fun b (_ : b ∈ bs) => built b) 0
  rw [List.drop_zero, hsplits.join_eq] at hfold
  exact ⟨fun _ => splits_iff, hsplits.blocks_eq, hsplits.join_eq, hfold⟩

/-- A chain is one decision, a try is one node, and handlers without a try bring none. -/
example :
    (ofSource "else if (a) \x7b\x7d else \x7b\x7d catch \x7b\x7d try \x7b\x7d finally \x7b\x7d catch \x7b\x7d").map
      (fun n => (n.condition?, n.isTry)) = [(some "a", false), (none, true)] := by
  decide +kernel

end FlowSketch.BraceFlow
