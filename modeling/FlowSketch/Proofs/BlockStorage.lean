import FlowSketch.Proofs.BlockAnchors
import FlowSketch.Proofs.LiteralSteps

/-!
# The tokens that blocks store

A token goes into the block that is open when it is read, and an opening brace takes tokens away from one block only. So
what all blocks of a tree have together is some of the source, each token once. Each opening brace has its block.
-/
namespace FlowSketch.Block
open BraceStatement

/-- What the blocks of a tree have, list by list, of the tokens of a source. -/
structure Storage (source : List Token) (stored : List (List Token)) : Prop where
  noBrace : ∀ ts ∈ stored, ∀ t ∈ ts, t.opens = false ∧ t.closes = false
  inOrder : ∀ ts ∈ stored, ts.Sublist source
  once : stored.flatten.Subperm source

theorem complete_sublist (ts : List Token) : (complete ts).Sublist ts := by
  rw [complete_eq_take]
  exact List.take_sublist _ _

namespace Storage
variable {source ts : List Token} {stored others : List (List Token)} {t : Token}

theorem perm (h : Storage source stored) (hperm : stored.Perm others) : Storage source others where
  noBrace := fun us hus => h.noBrace us (hperm.mem_iff.mpr hus)
  inOrder := fun us hus => h.inOrder us (hperm.mem_iff.mpr hus)
  once := hperm.flatten.symm.subperm.trans h.once

theorem sublist_snoc (h : ∀ us ∈ stored, us.Sublist source) (t : Token) : ∀ us ∈ stored, us.Sublist (source ++ [t]) :=
  fun us hus => (h us hus).trans (List.sublist_append_left _ _)

/-- A block opens without tokens, and the one around it is cut back. -/
theorem enter (h : Storage source (ts :: others)) (t : Token) :
    Storage (source ++ [t]) ([] :: complete ts :: others) := by
  have hcut := complete_sublist ts
  refine ⟨?_, ?_, ?_⟩
  · have hbefore := List.forall_mem_cons.mp h.noBrace
    simp only [List.forall_mem_cons]
    exact ⟨by simp, fun u hu => hbefore.1 u (hcut.mem hu), hbefore.2⟩
  · have hbefore := List.forall_mem_cons.mp h.inOrder
    refine sublist_snoc ?_ t
    simp only [List.forall_mem_cons]
    exact ⟨List.nil_sublist _, hcut.trans hbefore.1, hbefore.2⟩
  · have hless : (([] :: complete ts :: others).flatten).Sublist (ts :: others).flatten := by
      simpa using hcut.append_right others.flatten
    exact (hless.subperm.trans h.once).trans (List.sublist_append_left _ _).subperm

/-- A token that is no brace goes into one block. -/
theorem token (h : Storage source (ts :: others)) (hopens : t.opens = false) (hcloses : t.closes = false) :
    Storage (source ++ [t]) ((ts ++ [t]) :: others) := by
  refine ⟨?_, ?_, ?_⟩
  · have hbefore := List.forall_mem_cons.mp h.noBrace
    rw [List.forall_mem_cons, List.forall_mem_append]
    exact ⟨⟨hbefore.1, by simp [hopens, hcloses]⟩, hbefore.2⟩
  · have hbefore := List.forall_mem_cons.mp h.inOrder
    rw [List.forall_mem_cons]
    exact ⟨hbefore.1.append_right [t], sublist_snoc hbefore.2 t⟩
  · have hone : ((ts ++ [t]) :: others).flatten.Perm ((ts :: others).flatten ++ [t]) := by
      have hlater : ([t] ++ others.flatten).Perm (others.flatten ++ [t]) := List.perm_append_comm
      simpa using hlater.append_left ts
    exact hone.subperm.trans ((List.subperm_append_right [t]).mpr h.once)

/-- A brace that closes leaves all tokens where they are. -/
theorem leave (h : Storage source stored) (t : Token) : Storage (source ++ [t]) stored where
  noBrace := h.noBrace
  inOrder := sublist_snoc h.inOrder t
  once := h.once.trans (List.sublist_append_left _ _).subperm

end Storage

/-! ### Blocks as they are read -/

/-- All blocks that have been read, as they stand: the open ones, and those in them. -/
def Open.blocks (s : Open) : List Block := (s.current :: s.around).flatMap preorder

/-- The blocks that have been read without the innermost open one. -/
def Open.others (s : Open) : List Block := forest s.current.children ++ s.around.flatMap preorder

theorem Open.blocks_eq (s : Open) : s.blocks = s.current :: s.others := by
  rw [Open.blocks, List.flatMap_cons, preorder_eq, Open.others, List.cons_append]

theorem addChild_tokens_perm (c p : Block) :
    ((addChild c p).preorder.map tokens).Perm (c.preorder.map tokens ++ p.preorder.map tokens) := by
  have hwhole : (addChild c p).preorder.map tokens = p.preorder.map tokens ++ c.preorder.map tokens := by
    rw [preorder_eq, preorder_eq p, List.map_cons, List.map_cons, forest_addChild, List.map_append]
    rfl
  rw [hwhole]
  exact List.perm_append_comm

/-- The blocks of the whole tree have the tokens of the open blocks and of those in them. -/
theorem Open.root_tokens_perm (s : Open) : (s.root.preorder.map tokens).Perm (s.blocks.map tokens) := by
  obtain ⟨c, around⟩ := s
  induction around generalizing c with
  | nil => simp [Open.root, Open.blocks]
  | cons p ps ih =>
    refine (ih (addChild c p)).trans ?_
    simp only [Open.blocks, List.flatMap_cons, List.map_append, ← List.append_assoc]
    exact (addChild_tokens_perm c p).append_right _

theorem Open.leave_tokens_perm (s : Open) (line : ℕ) : ((s.leave line).blocks.map tokens).Perm (s.blocks.map tokens) := by
  obtain ⟨c, around⟩ := s
  cases around with
  | nil => exact .refl _
  | cons p ps =>
    have hended : ({ c with endLine := line } : Block).preorder.map tokens = c.preorder.map tokens := by
      rw [preorder_eq, preorder_eq c]
      rfl
    simp only [Open.leave, Open.blocks, List.flatMap_cons, List.map_append, ← List.append_assoc]
    rw [← hended]
    exact (addChild_tokens_perm _ p).append_right _

theorem Open.step_storage {s : Open} {source : List Token} (h : Storage source (s.blocks.map tokens)) (t : Token) :
    Storage (source ++ [t]) ((s.step t).blocks.map tokens) := by
  have hhere : Storage source (s.current.tokens :: s.others.map tokens) := by
    rwa [Open.blocks_eq, List.map_cons] at h
  unfold Open.step
  split
  · have hblocks : (s.enter t.line).blocks.map tokens = [] :: complete s.current.tokens :: s.others.map tokens := by
      rw [Open.blocks_eq]
      simp [Open.enter, Open.others, opened, preorder_eq, forest]
    rw [hblocks]
    exact hhere.enter t
  · rename_i hopens
    rw [Bool.not_eq_true] at hopens
    split
    · exact (h.leave t).perm (s.leave_tokens_perm t.line).symm
    · rename_i hcloses
      rw [Bool.not_eq_true] at hcloses
      rw [Open.blocks_eq]
      exact hhere.token hopens hcloses

theorem state_storage (tokens : List Token) : Storage tokens ((state tokens).blocks.map Block.tokens) := by
  induction tokens using List.reverseRecOn with
  | nil =>
    have hnone : (state []).blocks.map Block.tokens = [[]] := rfl
    rw [hnone]
    exact ⟨by simp, by simp, by simp⟩
  | append_singleton tokens t ih =>
    rw [state_snoc]
    exact Open.step_storage ih t

/-- The blocks of a tree have some of the tokens of its source, each of them once. -/
theorem ofTokens_storage (source : List Token) : Storage source ((ofTokens source).preorder.map tokens) := by
  have htree : (ofTokens source).preorder.map tokens = (state source).root.preorder.map tokens := by
    rw [preorder_eq, preorder_eq (state source).root]
    rfl
  rw [htree]
  exact (state_storage source).perm (state source).root_tokens_perm.symm

/-! ### How blocks open -/

/-- What a block has from its opening on. -/
def heading (b : Block) : Owner × ℕ × ℕ := (b.owner, b.startLine, b.anchor)

/-- What the blocks that have been read opened with, those around others first. -/
def Open.headings (s : Open) : List (Owner × ℕ × ℕ) :=
  (s.around.reverse ++ [s.current]).flatMap fun b => b.preorder.map heading

theorem addChild_headings (c p : Block) :
    (addChild c p).preorder.map heading = p.preorder.map heading ++ c.preorder.map heading := by
  rw [preorder_eq, preorder_eq p, List.map_cons, List.map_cons, forest_addChild, List.map_append]
  rfl

theorem Open.root_headings (s : Open) : s.root.preorder.map heading = s.headings := by
  obtain ⟨c, around⟩ := s
  induction around generalizing c with
  | nil => simp [Open.root, Open.headings]
  | cons p ps ih =>
    refine (ih (addChild c p)).trans ?_
    simp [Open.headings, addChild_headings]

/-- Only an opening brace adds a block. -/
theorem Open.step_headings (s : Open) (t : Token) :
    (s.step t).headings = s.headings ++ if t.opens then [(opened s.current.tokens t.line).heading] else [] := by
  have hkept (b : Block) (ts : List Token) : ({ b with tokens := ts } : Block).preorder.map heading =
      b.preorder.map heading := by
    rw [preorder_eq, preorder_eq b]
    rfl
  have hended (b : Block) (line : ℕ) : ({ b with endLine := line } : Block).preorder.map heading =
      b.preorder.map heading := by
    rw [preorder_eq, preorder_eq b]
    rfl
  unfold Open.step
  split
  · simp [Open.enter, Open.headings, opened, preorder_eq, forest, heading]
  · split
    · obtain ⟨c, around⟩ := s
      cases around with
      | nil => simp [Open.leave, Open.headings]
      | cons p ps => simp [Open.leave, Open.headings, addChild_headings, hended]
    · simp [Open.headings, addToken, hkept]

theorem ofTokens_headings (source : List Token) : (ofTokens source).preorder.map heading = (state source).headings := by
  rw [← Open.root_headings, preorder_eq, preorder_eq (state source).root]
  rfl

theorem state_startLines (source : List Token) :
    (state source).headings.map (fun h => h.2.1) = 1 :: (source.filter Token.opens).map Token.line := by
  induction source using List.reverseRecOn with
  | nil => rfl
  | append_singleton source t ih =>
    rw [state_snoc, Open.step_headings, List.map_append, ih, List.filter_append, List.map_append, List.cons_append,
      List.filter_singleton]
    cases t.opens <;> rfl

/-- The blocks of a tree begin at the opening braces of its source, one at each of them. -/
theorem ofTokens_startLines (source : List Token) :
    (ofTokens source).preorder.map startLine = 1 :: (source.filter Token.opens).map Token.line := by
  rw [← state_startLines, ← ofTokens_headings, List.map_map]
  rfl

/-- The owner of every block below the root is decided by tokens that precede its brace. -/
theorem ofTokens_owner (source : List Token) :
    ∀ b ∈ (ofTokens source).preorder, b.owner = .root ∨ ∃ before, before.Sublist source ∧ b.owner = Owner.classify before := by
  have hstate : ∀ h ∈ (state source).headings, h.1 = .root ∨
      ∃ before, before.Sublist source ∧ h.1 = Owner.classify before := by
    induction source using List.reverseRecOn with
    | nil => simp [state, Open.initial, Open.headings, preorder, forest, heading]
    | append_singleton source t ih =>
      have hlonger := List.sublist_append_left source [t]
      rw [state_snoc, Open.step_headings, List.forall_mem_append]
      refine ⟨fun h hh => (ih h hh).imp_right fun hread => ?_, fun h hh => .inr ?_⟩
      · obtain ⟨before, hbefore, howner⟩ := hread
        exact ⟨before, hbefore.trans hlonger, howner⟩
      split at hh
      · have hcurrent : (state source).current.tokens.Sublist source :=
          (state_storage source).inOrder _ (by simp [Open.blocks_eq])
        rw [List.mem_singleton.mp hh]
        exact ⟨_, hcurrent.trans hlonger, rfl⟩
      · simp at hh
  intro b hb
  exact hstate b.heading (ofTokens_headings source ▸ List.mem_map_of_mem hb)

end FlowSketch.Block
