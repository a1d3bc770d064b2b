import FlowSketch.BraceFlow
import FlowSketch.Proofs.BlockPrinting

/-!
# Balanced braces

A closing brace without a block can be left out, and a block that is still open can be closed at the end. Neither
changes the tree but for the lines on which blocks end, and the flow does not look at those.
-/
namespace FlowSketch.Block
open BraceFlow

/-! ### Repairing -/

/-- The tokens without the closing braces that come when no block is open; `depth` blocks are open before them. -/
def withoutStray (depth : ℕ) : List Token → List Token
  | [] => []
  | t :: ts =>
    if t.opens then t :: withoutStray (depth + 1) ts
    else if t.closes then
      match depth with
      | 0 => withoutStray 0 ts
      | outer + 1 => t :: withoutStray outer ts
    else t :: withoutStray depth ts

/-- How many blocks are open after the tokens. -/
def openAfter (depth : ℕ) : List Token → ℕ
  | [] => depth
  | t :: ts =>
    if t.opens then openAfter (depth + 1) ts
    else if t.closes then openAfter (depth - 1) ts
    else openAfter depth ts

/-- A closing brace on each of the lines. -/
def closings (lines : List ℕ) : List Token := lines.map closeBrace

/-- The tokens with every stray brace left out and every open block closed, on any lines. -/
def balanced (tokens : List Token) (line : ℕ → ℕ) : List Token :=
  withoutStray 0 tokens ++ closings ((List.range (openAfter 0 tokens)).map line)

example : openAfter 0 (balanced (BraceLexer.tokens "\x7d if (a) \x7b b(); \x7b") id) = 0 := by decide +kernel

/-! ### Trees without the lines on which blocks end -/

def unendedAll : List Block → List Block
  | [] => []
  | ⟨owner, tokens, children, startLine, _, anchor⟩ :: bs =>
    ⟨owner, tokens, unendedAll children, startLine, 0, anchor⟩ :: unendedAll bs

def unended (b : Block) : Block := { b with children := unendedAll b.children, endLine := 0 }

theorem unendedAll_eq_map (bs : List Block) : unendedAll bs = bs.map unended := by
  induction bs with
  | nil => rw [unendedAll, List.map_nil]
  | cons b bs ih =>
    obtain ⟨owner, tokens, children, startLine, endLine, anchor⟩ := b
    rw [unendedAll, ih, List.map_cons, unended]

/-- The flow of a block does not depend on where blocks end. -/
theorem anchoredParts_unendedAll : ∀ bs : List Block, anchoredParts (unendedAll bs) = anchoredParts bs
  | [] => by rw [unendedAll]
  | ⟨owner, tokens, children, startLine, endLine, anchor⟩ :: bs => by
    rw [unendedAll, anchoredParts, anchoredParts, part, part, anchoredParts_unendedAll children,
      anchoredParts_unendedAll bs]

theorem ofBlock_unended (b : Block) : ofBlock b.unended = ofBlock b := by
  rw [ofBlock, ofBlock, unended, anchoredParts_unendedAll]

theorem unended_addChild (c p : Block) : (addChild c p).unended = addChild c.unended p.unended := by
  simp [addChild, unended, unendedAll_eq_map]

/-! ### Two runs side by side -/

/-- Two stacks of open blocks that differ only in where blocks ended. -/
structure Open.Alike (s u : Open) : Prop where
  current : s.current.unended = u.current.unended
  around : s.around.map unended = u.around.map unended

theorem Open.Alike.refl (s : Open) : s.Alike s := ⟨rfl, rfl⟩

theorem tokens_unended {b c : Block} (h : b.unended = c.unended) : b.tokens = c.tokens :=
  (congrArg Block.tokens h : b.unended.tokens = c.unended.tokens)

theorem Open.Alike.enter {s u : Open} (h : s.Alike u) (line : ℕ) : (s.enter line).Alike (u.enter line) := by
  have htokens : s.current.tokens = u.current.tokens := tokens_unended h.current
  refine ⟨?_, ?_⟩
  · rw [Open.enter, Open.enter, htokens]
  · have hcut (b : Block) (ts : List Token) : ({ b with tokens := ts } : Block).unended = { b.unended with tokens := ts } :=
      rfl
    simp only [Open.enter, List.map_cons, h.around, hcut, h.current, htokens]

theorem Open.Alike.leave {s u : Open} (h : s.Alike u) (line line' : ℕ) : (s.leave line).Alike (u.leave line') := by
  obtain ⟨b, around⟩ := s
  obtain ⟨c, around'⟩ := u
  obtain ⟨hcurrent, haround⟩ := h
  match around, around' with
  | [], [] => exact ⟨hcurrent, rfl⟩
  | [], _ :: _ => simp at haround
  | _ :: _, [] => simp at haround
  | p :: ps, q :: qs =>
    obtain ⟨hp, hps⟩ := List.cons.inj haround
    refine ⟨?_, hps⟩
    -- The block that ends may end on different lines in the two runs.
    have hended : ({ b with endLine := line } : Block).unended = ({ c with endLine := line' } : Block).unended := hcurrent
    rw [Open.leave, Open.leave]
    rw [unended_addChild, unended_addChild, hended, hp]

theorem Open.Alike.step {s u : Open} (h : s.Alike u) (t : Token) : (s.step t).Alike (u.step t) := by
  unfold Open.step
  split
  · exact h.enter t.line
  split
  · exact h.leave t.line t.line
  · have hadd (b : Block) : (addToken t b).unended = addToken t b.unended := rfl
    exact ⟨by rw [hadd, hadd, h.current], h.around⟩

theorem Open.Alike.run {s u : Open} (h : s.Alike u) (ts : List Token) :
    (ts.foldl Open.step s).Alike (ts.foldl Open.step u) := by
  induction ts generalizing s u with
  | nil => exact h
  | cons t ts ih => exact ih (h.step t)

theorem Open.Alike.root {s u : Open} (h : s.Alike u) : s.root.unended = u.root.unended := by
  obtain ⟨b, around⟩ := s
  obtain ⟨c, around'⟩ := u
  have hfold (bs : List Block) (d : Block) : (bs.foldl addChild d).unended = (bs.map unended).foldl addChild d.unended := by
    induction bs generalizing d with
    | nil => rfl
    | cons p bs ih => rw [List.foldl_cons, ih, unended_addChild, List.map_cons, List.foldl_cons]
  rw [Open.root, Open.root, hfold, hfold, h.around, h.current]

/-! ### Stray and missing braces -/

/-- A stray brace changes nothing, so it can be left out. -/
theorem foldl_withoutStray (s : Open) (ts : List Token) :
    (withoutStray s.around.length ts).foldl Open.step s = ts.foldl Open.step s := by
  induction ts generalizing s with
  | nil => rfl
  | cons t ts ih =>
    by_cases hopens : t.opens = true
    · simp [withoutStray, hopens, Open.step, ← ih, Open.enter]
    by_cases hcloses : t.closes = true
    · obtain ⟨b, around⟩ := s
      cases around <;> simp [withoutStray, hopens, hcloses, Open.step, ← ih, Open.leave]
    · simp [withoutStray, hopens, hcloses, Open.step, ← ih]

theorem foldl_around_length (s : Open) (ts : List Token) :
    (ts.foldl Open.step s).around.length = openAfter s.around.length ts := by
  induction ts generalizing s with
  | nil => rfl
  | cons t ts ih =>
    rw [List.foldl_cons, ih, openAfter]
    by_cases hopens : t.opens = true
    · simp [Open.step, hopens, Open.enter]
    by_cases hcloses : t.closes = true
    · obtain ⟨b, around⟩ := s
      cases around <;> simp [Open.step, hopens, hcloses, Open.leave]
    · simp [Open.step, hopens, hcloses]

/-- Closing what is open gives the tree that the open blocks make. -/
theorem closings_root (s : Open) {lines : List ℕ} (h : lines.length = s.around.length) :
    ((closings lines).foldl Open.step s).root.unended = s.root.unended := by
  induction lines generalizing s with
  | nil => rfl
  | cons line lines ih =>
    obtain ⟨b, around⟩ := s
    cases around with
    | nil => simp at h
    | cons p ps =>
      have hclose : Open.step ⟨b, p :: ps⟩ (closeBrace line) = ⟨addChild { b with endLine := line } p, ps⟩ := rfl
      rw [closings, List.map_cons, List.foldl_cons, hclose]
      refine (ih ⟨addChild { b with endLine := line } p, ps⟩ (by simpa using h)).trans ?_
      have halike : Open.Alike ⟨addChild { b with endLine := line } p, ps⟩ ⟨addChild b p, ps⟩ :=
        ⟨by rw [unended_addChild, unended_addChild]; rfl, rfl⟩
      exact halike.root

/-- Balancing the braces changes the tree only in the lines on which blocks end, and the flow not at all. -/
theorem ofTokens_balanced (tokens : List Token) (line : ℕ → ℕ) :
    (ofTokens (balanced tokens line)).unended = (ofTokens tokens).unended ∧
      ofBlock (ofTokens (balanced tokens line)) = ofBlock (ofTokens tokens) := by
  have hunclosed : ((List.range (openAfter 0 tokens)).map line).length =
      (tokens.foldl Open.step .initial).around.length := by
    rw [List.length_map, List.length_range, foldl_around_length]
    rfl
  have hrun : (balanced tokens line).foldl Open.step .initial =
      (closings ((List.range (openAfter 0 tokens)).map line)).foldl Open.step (tokens.foldl Open.step .initial) := by
    have hstray : (withoutStray 0 tokens).foldl Open.step .initial = tokens.foldl Open.step .initial :=
      foldl_withoutStray .initial tokens
    rw [balanced, List.foldl_append, hstray]
  have hroot : ((balanced tokens line).foldl Open.step .initial).root.unended =
      (tokens.foldl Open.step .initial).root.unended := by
    rw [hrun, closings_root _ hunclosed]
  have htree : (ofTokens (balanced tokens line)).unended = (ofTokens tokens).unended := hroot
  refine ⟨htree, ?_⟩
  calc ofBlock (ofTokens (balanced tokens line))
      = ofBlock (ofTokens (balanced tokens line)).unended := (ofBlock_unended _).symm
    _ = ofBlock (ofTokens tokens).unended := by rw [htree]
    _ = ofBlock (ofTokens tokens) := ofBlock_unended _

end FlowSketch.Block
