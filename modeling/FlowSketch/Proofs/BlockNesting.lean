import FlowSketch.BraceBlock
import Mathlib

/-!
# Blocks from the nesting of braces

What is between two braces says what the block of the braces is, given what its parent has when it opens. The tokens
of a block are those between its braces that no opening of a block in it has cut away, in the order of the source.
-/
namespace FlowSketch.Block
open BraceStatement

/-! ### The nesting of a source -/

/-- A token, or braces with what is between them. Braces that are never closed end where they begin. -/
inductive Piece where
  | token (t : Token)
  | braces (openLine closeLine : ℕ) (inner : List Piece)

/-- What has been read between the innermost open braces, and for each brace around it what came before it with the
line of the brace. -/
structure Nesting where
  current : List Piece
  around : List (List Piece × ℕ)

def Nesting.step (n : Nesting) (t : Token) : Nesting :=
  if t.opens then ⟨[], (n.current, t.line) :: n.around⟩
  else if t.closes then
    match n.around with
    | [] => n
    | (before, line) :: around => ⟨before ++ [.braces line t.line n.current], around⟩
  else { n with current := n.current ++ [.token t] }

def Nesting.root (n : Nesting) : List Piece :=
  n.around.foldl (fun inner before => before.1 ++ [.braces before.2 before.2 inner]) n.current

/-- A source as pieces, without the closing braces that close nothing. -/
def pieces (tokens : List Token) : List Piece := (tokens.foldl Nesting.step ⟨[], []⟩).root

/-! ### The block of pieces -/

mutual

/-- A block with one more piece. -/
def Piece.addTo (b : Block) : Piece → Block
  | .token t => addToken t b
  | .braces openLine closeLine inner =>
    addChild { fill (Block.opened b.tokens openLine) inner with endLine := closeLine } { b with tokens := complete b.tokens }

/-- A block with the pieces that follow what it has. -/
def fill (b : Block) : List Piece → Block
  | [] => b
  | p :: ps => fill (p.addTo b) ps

end

theorem fill_append (b : Block) (ps qs : List Piece) : fill b (ps ++ qs) = fill (fill b ps) qs := by
  induction ps generalizing b with
  | nil => rfl
  | cons p ps ih => exact ih (p.addTo b)

/-- Pieces change nothing that no piece changes. -/
theorem fill_field {α : Type} {field : Block → α} (h : ∀ (b : Block) (p : Piece), field (p.addTo b) = field b) (b : Block)
    (ps : List Piece) : field (fill b ps) = field b := by
  induction ps generalizing b with
  | nil => rfl
  | cons p ps ih => exact (ih (p.addTo b)).trans (h b p)

theorem fill_owner (b : Block) (ps : List Piece) : (fill b ps).owner = b.owner :=
  fill_field (fun _ p => by cases p <;> rfl) b ps

theorem fill_startLine (b : Block) (ps : List Piece) : (fill b ps).startLine = b.startLine :=
  fill_field (fun _ p => by cases p <;> rfl) b ps

theorem fill_endLine (b : Block) (ps : List Piece) : (fill b ps).endLine = b.endLine :=
  fill_field (fun _ p => by cases p <;> rfl) b ps

theorem fill_anchor (b : Block) (ps : List Piece) : (fill b ps).anchor = b.anchor :=
  fill_field (fun _ p => by cases p <;> rfl) b ps

/-- The block between the innermost braces as it was when it opened. -/
def beginning : List (List Piece × ℕ) → Block
  | [] => Open.initial.current
  | (before, line) :: around => opened (fill (beginning around) before).tokens line

def surroundings : List (List Piece × ℕ) → List Block
  | [] => []
  | (before, _) :: around =>
    let parent := fill (beginning around) before
    { parent with tokens := complete parent.tokens } :: surroundings around

/-- The open blocks of a nesting. -/
def Nesting.opened (n : Nesting) : Open := ⟨fill (beginning n.around) n.current, surroundings n.around⟩

theorem Nesting.opened_step (n : Nesting) (t : Token) : (n.step t).opened = n.opened.step t := by
  obtain ⟨current, around⟩ := n
  unfold Nesting.step Open.step
  split
  · rfl
  split
  · cases around with
    | nil => rfl
    | cons outer around =>
      obtain ⟨before, line⟩ := outer
      simp only [Nesting.opened, beginning, surroundings, Open.leave, fill_append]
      rfl
  · simp only [Nesting.opened, fill_append]
    rfl

theorem addTo_unclosed (b : Block) (line : ℕ) (inner : List Piece) :
    Piece.addTo b (.braces line line inner) =
      addChild (fill (Block.opened b.tokens line) inner) { b with tokens := complete b.tokens } := by
  have hend : (fill (Block.opened b.tokens line) inner).endLine = line := fill_endLine _ _
  rw [Piece.addTo]
  generalize fill (Block.opened b.tokens line) inner = c at hend
  obtain ⟨owner, tokens, children, startLine, endLine, anchor⟩ := c
  rw [← hend]

theorem Nesting.opened_root (n : Nesting) : n.opened.root = fill Open.initial.current n.root := by
  obtain ⟨current, around⟩ := n
  induction around generalizing current with
  | nil => rfl
  | cons outer around ih =>
    obtain ⟨before, line⟩ := outer
    have hfill : fill (beginning around) (before ++ [.braces line line current]) =
        addChild (fill (beginning ((before, line) :: around)) current)
          { fill (beginning around) before with tokens := complete (fill (beginning around) before).tokens } := by
      rw [fill_append, fill, fill, addTo_unclosed, beginning]
    have hrest := ih (before ++ [.braces line line current])
    rw [Nesting.opened, Open.root, hfill] at hrest
    exact hrest

/-- The tree of a token list is filled from the pieces of the list. -/
theorem ofTokens_eq_fill (tokens : List Token) :
    ofTokens tokens = { fill Open.initial.current (pieces tokens) with endLine := lastLine tokens } := by
  have hrun (n : Nesting) (ts : List Token) : (ts.foldl Nesting.step n).opened = ts.foldl Open.step n.opened := by
    induction ts generalizing n with
    | nil => rfl
    | cons t ts ih => rw [List.foldl_cons, ih, Nesting.opened_step, List.foldl_cons]
  rw [ofTokens, pieces, ← Nesting.opened_root, hrun]
  rfl

/-! ### Children -/

def Piece.isBraces : Piece → Bool
  | .token _ => false
  | .braces .. => true

def Piece.token? : Piece → Option Token
  | .token t => some t
  | .braces .. => none

/-- The tokens that are not between further braces. -/
def level (ps : List Piece) : List Token := ps.filterMap Piece.token?

theorem level_token (t : Token) (ps : List Piece) : level (.token t :: ps) = t :: level ps := rfl

theorem level_braces (openLine closeLine : ℕ) (inner ps : List Piece) :
    level (.braces openLine closeLine inner :: ps) = level ps := rfl

theorem fill_children (b : Block) (ps : List Piece) :
    ∃ cs, (fill b ps).children = b.children ++ cs ∧ cs.length = ps.countP Piece.isBraces := by
  induction ps generalizing b with
  | nil => exact ⟨[], by simp [fill], rfl⟩
  | cons p ps ih =>
    obtain ⟨cs, hcs, hlength⟩ := ih (p.addTo b)
    cases p with
    | token t => exact ⟨cs, hcs, by simpa [Piece.isBraces] using hlength⟩
    | braces openLine closeLine inner =>
      refine ⟨{ fill (Block.opened b.tokens openLine) inner with endLine := closeLine } :: cs, ?_, ?_⟩
      · rw [fill, hcs]
        simp [Piece.addTo, addChild]
      · rw [List.length_cons, hlength, List.countP_cons_of_pos rfl]

/-- A block has the tokens and the children that pieces give it. -/
def FilledBy (ps : List Piece) (b : Block) : Prop :=
  ∃ c : Block, c.tokens = [] ∧ c.children = [] ∧ b.tokens = (fill c ps).tokens ∧ b.children = (fill c ps).children

/-- The block of the braces that follow some pieces, as what is between them fills it. -/
theorem FilledBy.child {before after inner : List Piece} {openLine closeLine : ℕ} {b c : Block}
    (h : FilledBy (before ++ .braces openLine closeLine inner :: after) b)
    (hc : b.children[before.countP Piece.isBraces]? = some c) :
    FilledBy inner c ∧ ∃ start : Block, start.tokens = [] ∧ c.anchor = (complete (fill start before).tokens).length := by
  obtain ⟨start, htokens, hchildren, -, hall⟩ := h
  obtain ⟨cs, hcs, hlength⟩ := fill_children start before
  obtain ⟨ds, hds, -⟩ := fill_children (Piece.addTo (fill start before) (.braces openLine closeLine inner)) after
  rw [hall, fill_append, fill, hds, Piece.addTo, addChild, hcs, hchildren, List.nil_append, List.append_assoc,
    ← hlength, List.getElem?_append_right le_rfl, Nat.sub_self] at hc
  obtain rfl := Option.some.inj hc
  refine ⟨⟨Block.opened (fill start before).tokens openLine, rfl, rfl, rfl, rfl⟩, start, htokens, ?_⟩
  exact fill_anchor _ _

/-- The blocks of the tree of a token list, each with the pieces between its braces. -/
inductive Between (tokens : List Token) : Block → List Piece → Prop where
  | root : Between tokens (ofTokens tokens) (pieces tokens)
  | child {b c : Block} {before after inner : List Piece} {openLine closeLine : ℕ}
      (h : Between tokens b (before ++ .braces openLine closeLine inner :: after))
      (hc : b.children[before.countP Piece.isBraces]? = some c) : Between tokens c inner

theorem Between.filledBy {tokens : List Token} {b : Block} {ps : List Piece} (h : Between tokens b ps) :
    FilledBy ps b := by
  induction h with
  | root => exact ⟨Open.initial.current, rfl, rfl, by rw [ofTokens_eq_fill], by rw [ofTokens_eq_fill]⟩
  | child _ hc ih => exact (ih.child hc).1

/-! ### What a block keeps -/

/-- The tokens that are left of a block's own, each with its number in the source; `n` of them have been read, and
`kept` is left of those. -/
def remains (n : ℕ) (kept : List (Token × ℕ)) : List Piece → List (Token × ℕ)
  | [] => kept
  | .token t :: ps => remains (n + 1) (kept ++ [(t, n)]) ps
  | .braces _ _ _ :: ps => remains n (kept.take (complete (kept.map Prod.fst)).length) ps

theorem complete_eq_take (ts : List Token) : complete ts = ts.take (complete ts).length := by
  have hsuffix (depth : ℕ) (seen : Bool) (us : List Token) : completeBefore depth seen us <:+ us := by
    induction us generalizing depth seen with
    | nil => simp [completeBefore]
    | cons u us ih =>
      rw [completeBefore]
      repeat' split
      all_goals first | exact List.suffix_rfl | exact (ih _ _).trans (List.suffix_cons u us)
  have hprefix : complete ts <+: ts := by
    rw [complete, ← List.reverse_suffix, List.reverse_reverse]
    exact hsuffix 0 false ts.reverse
  exact List.prefix_iff_eq_take.mp hprefix

theorem fill_tokens {b : Block} {kept : List (Token × ℕ)} (h : b.tokens = kept.map Prod.fst) (n : ℕ)
    (ps : List Piece) : (fill b ps).tokens = (remains n kept ps).map Prod.fst := by
  induction ps generalizing b kept n with
  | nil => exact h
  | cons p ps ih =>
    cases p with
    | token t => exact ih (b := addToken t b) (by simp [addToken, h]) (n + 1)
    | braces openLine closeLine inner =>
      refine ih (b := Piece.addTo b (.braces openLine closeLine inner)) ?_ n
      rw [Piece.addTo, addChild, h, List.map_take]
      exact complete_eq_take _

theorem remains_append (n : ℕ) (kept : List (Token × ℕ)) (ps qs : List Piece) :
    remains n kept (ps ++ qs) = remains (n + (level ps).length) (remains n kept ps) qs := by
  induction ps generalizing n kept with
  | nil => rfl
  | cons p ps ih =>
    cases p with
    | token t =>
      rw [List.cons_append, remains, ih, remains, level_token, List.length_cons, Nat.add_assoc, Nat.add_comm 1]
    | braces openLine closeLine inner => rw [List.cons_append, remains, ih, remains, level_braces]

/-- What is left in the end is some of what there was, and tokens that came later. -/
theorem remains_split (n : ℕ) (kept : List (Token × ℕ)) (ps : List Piece) :
    ∃ m later, remains n kept ps = kept.take m ++ later ∧ ∀ x ∈ later, n ≤ x.2 := by
  induction ps generalizing n kept with
  | nil => exact ⟨kept.length, [], by simp [remains], by simp⟩
  | cons p ps ih =>
    cases p with
    | token t =>
      obtain ⟨m, later, hsplit, hlater⟩ := ih (n + 1) (kept ++ [(t, n)])
      refine ⟨m, [(t, n)].take (m - kept.length) ++ later, ?_, ?_⟩
      · rw [remains, hsplit, List.take_append, List.append_assoc]
      · intro x hx
        rcases List.mem_append.mp hx with hx | hx
        · have := List.mem_of_mem_take hx
          simp_all
        · exact (Nat.le_succ n).trans (hlater x hx)
    | braces openLine closeLine inner =>
      obtain ⟨m, later, hsplit, hlater⟩ := ih n (kept.take (complete (kept.map Prod.fst)).length)
      exact ⟨_, later, by rw [remains, hsplit, List.take_take], hlater⟩

/-- Numbered tokens in the order of a source. -/
structure InOrder (source : List Token) (kept : List (Token × ℕ)) : Prop where
  sorted : (kept.map Prod.snd).Pairwise (· < ·)
  placed : ∀ x ∈ kept, source[x.2]? = some x.1

theorem InOrder.take {source : List Token} {kept : List (Token × ℕ)} (h : InOrder source kept) (n : ℕ) :
    InOrder source (kept.take n) :=
  ⟨by rw [List.map_take]; exact h.sorted.take, fun x hx => h.placed x (List.mem_of_mem_take hx)⟩

theorem InOrder.snoc {source : List Token} {kept : List (Token × ℕ)} (h : InOrder source kept) (t : Token) :
    InOrder (source ++ [t]) (kept ++ [(t, source.length)]) := by
  have hbelow : ∀ x ∈ kept, x.2 < source.length := fun x hx =>
    (List.getElem?_eq_some_iff.mp (h.placed x hx)).1
  refine ⟨?_, fun x hx => ?_⟩
  · rw [List.map_append, List.pairwise_append]
    refine ⟨h.sorted, by simp, fun a ha b hb => ?_⟩
    obtain ⟨x, hx, rfl⟩ := List.mem_map.mp ha
    simp at hb
    exact hb ▸ hbelow x hx
  · rcases List.mem_append.mp hx with hx | hx
    · rw [List.getElem?_append_left (hbelow x hx)]
      exact h.placed x hx
    · simp_all

theorem remains_inOrder {source : List Token} {kept : List (Token × ℕ)} (h : InOrder source kept) (ps : List Piece) :
    InOrder (source ++ level ps) (remains source.length kept ps) := by
  induction ps generalizing source kept with
  | nil => simpa [level, remains] using h
  | cons p ps ih =>
    cases p with
    | token t =>
      have hread := ih (h.snoc t)
      rwa [List.length_append, List.length_singleton, List.append_assoc, List.singleton_append] at hread
    | braces openLine closeLine inner => exact ih (h.take (complete (kept.map Prod.fst)).length)

/-- The tokens that a block has of its own, each with its number among those between its braces. -/
def numberedTokens (ps : List Piece) : List (Token × ℕ) := remains 0 [] ps

theorem numberedTokens_inOrder (ps : List Piece) : InOrder (level ps) (numberedTokens ps) := by
  have hnone : InOrder [] [] := ⟨.nil, by simp⟩
  exact remains_inOrder hnone ps

theorem FilledBy.tokens_eq {ps : List Piece} {b : Block} (h : FilledBy ps b) :
    b.tokens = (numberedTokens ps).map Prod.fst := by
  obtain ⟨c, hc, -, htokens, -⟩ := h
  rw [htokens]
  exact fill_tokens (by simpa using hc) 0 ps

end FlowSketch.Block
