import FlowSketch.BraceFlow
import Mathlib

/-!
# What a block contributes

The part of each block depends on the block alone, and a switch hands its blocks out to the cases by their anchors.
-/
namespace FlowSketch

theorem Block.sizeOf_child {b c : Block} (h : c ∈ b.children) : sizeOf c < sizeOf b := by
  obtain ⟨owner, tokens, children, startLine, endLine, anchor⟩ := b
  have hlt : sizeOf c < sizeOf children := List.sizeOf_lt_of_mem h
  simp only [Block.mk.sizeOf_spec]
  omega

/-- What holds of a block when it holds of the blocks in it holds of every block. -/
theorem Block.induction_children {P : Block → Prop} (h : ∀ b : Block, (∀ c ∈ b.children, P c) → P b) (b : Block) :
    P b :=
  h b fun c _ => induction_children h c
termination_by sizeOf b
decreasing_by exact Block.sizeOf_child (by assumption)

namespace BraceFlow

theorem part_eq (b : Block) : part b = partOf b.owner b.tokens (anchoredParts b.children) := by
  obtain ⟨owner, tokens, children, startLine, endLine, anchor⟩ := b
  rw [part]

theorem anchoredParts_eq (bs : List Block) : anchoredParts bs = bs.map fun b => (b.anchor, part b) := by
  induction bs with
  | nil => rfl
  | cons b bs ih => rw [anchoredParts, ih, List.map_cons]

theorem map_snd_anchoredParts (bs : List Block) : (anchoredParts bs).map Prod.snd = bs.map part := by
  rw [anchoredParts_eq, List.map_map]
  rfl

theorem ofBlock_eq (b : Block) : ofBlock b = assemble (stepsOf b.tokens) (b.children.map part) := by
  rw [ofBlock, map_snd_anchoredParts]

/-! ### Cases -/

/-- The clauses of a block that is read as a switch. -/
def clausesOf (b : Block) : List Clause := (clausesFrom 0 b.tokens).2

/-- Each clause with the place where the next one begins; the last one goes on behind the last of `count` tokens. -/
def spans (count : ℕ) : List Clause → List (Clause × ℕ)
  | [] => []
  | c :: cs => (c, (cs.head?.map Clause.start).getD (count + 1)) :: spans count cs

/-- Whether a block opened in the span of a clause. -/
def isWithin (span : Clause × ℕ) (b : Block) : Bool := span.1.start ≤ b.anchor && b.anchor < span.2

/-- The blocks that go into a case, from all blocks of a switch. -/
def blocksWithin (bs : List Block) (span : Clause × ℕ) : List Block := bs.filter (isWithin span)

theorem casesFrom_eq (count : ℕ) (bs : List Block) (clauses : List Clause) :
    casesFrom count (anchoredParts bs) clauses =
      (spans count clauses).map fun s => ⟨s.1.label, assemble (stepsOf s.1.tokens) ((blocksWithin bs s).map part)⟩ := by
  induction clauses with
  | nil => rfl
  | cons c cs ih =>
    rw [casesFrom, spans, List.map_cons, ih, anchoredParts_eq, List.filter_map, List.map_map]
    rfl

end BraceFlow
end FlowSketch
