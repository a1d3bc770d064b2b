import FlowSketch.BraceBlock
import FlowSketch.BraceLexer
import FlowSketch.Proofs.StatementEnds

/-!
# The anchors of blocks

A block that opens is anchored at the end of what its parent keeps. The anchors of a tree are in order when no
opening cuts away what an earlier one kept, and this depends on the tokens since the last child alone.
-/
namespace FlowSketch.Block
open BraceStatement

/-- In every block of a tree the anchors of the children do not decrease, and none is past the tokens. -/
inductive Ordered : Block → Prop where
  | intro {b : Block} (sorted : (b.children.map anchor).Pairwise (· ≤ ·))
      (inside : ∀ c ∈ b.children, c.anchor ≤ b.tokens.length) (below : ∀ c ∈ b.children, c.Ordered) : Ordered b

/-- How many tokens were kept when the last child opened. -/
def lastAnchor (b : Block) : ℕ := ((b.children.getLast?).map anchor).getD 0

/-- The tokens that were kept when the last child opened. -/
def kept (b : Block) : List Token := b.tokens.take b.lastAnchor

/-- The tokens since the last child. -/
def later (b : Block) : List Token := b.tokens.drop b.lastAnchor

theorem ordered_iff {b : Block} :
    b.Ordered ↔ (b.children.map anchor).Pairwise (· ≤ ·) ∧ (∀ c ∈ b.children, c.anchor ≤ b.tokens.length) ∧
      ∀ c ∈ b.children, c.Ordered :=
  ⟨fun h => by cases h with | intro sorted inside below => exact ⟨sorted, inside, below⟩,
    fun h => .intro h.1 h.2.1 h.2.2⟩

/-- Order depends on the tokens and the children only. -/
theorem Ordered.congr {b c : Block} (ht : b.tokens = c.tokens) (hc : b.children = c.children) :
    b.Ordered ↔ c.Ordered := by
  rw [ordered_iff, ordered_iff, ht, hc]

theorem anchor_le_lastAnchor {b : Block} (h : (b.children.map anchor).Pairwise (· ≤ ·)) {c : Block}
    (hc : c ∈ b.children) : c.anchor ≤ b.lastAnchor := by
  obtain ⟨cs, d, hcs⟩ := (List.eq_nil_or_concat b.children).resolve_left (List.ne_nil_of_mem hc)
  rw [List.concat_eq_append] at hcs
  rw [hcs, List.map_append, List.pairwise_append] at h
  rw [hcs] at hc
  rw [lastAnchor, hcs, List.getLast?_concat, Option.map_some, Option.getD_some]
  rcases List.mem_append.mp hc with hc | hc
  · exact h.2.2 _ (List.mem_map_of_mem hc) _ (by simp)
  · rw [List.mem_singleton.mp hc]

theorem ordered_iff_lastAnchor {b : Block} (h : b.lastAnchor ≤ b.tokens.length) :
    b.Ordered ↔ (b.children.map anchor).Pairwise (· ≤ ·) ∧ ∀ c ∈ b.children, c.Ordered := by
  rw [ordered_iff]
  exact ⟨fun h' => ⟨h'.1, h'.2.2⟩, fun h' => ⟨h'.1, fun c hc => (anchor_le_lastAnchor h'.1 hc).trans h, h'.2⟩⟩

/-! ### Open blocks -/

/-- A block is at the place where it opened in its parent, and so are those around it. -/
def Anchored (a : ℕ) : List Block → Prop
  | [] => True
  | p :: ps => (∃ before, complete before = p.tokens) ∧ a = p.tokens.length ∧ Anchored p.anchor ps

/-- A block with what will be its last child is in order, and so are those around it. -/
def Fits (a : ℕ) : List Block → Prop
  | [] => True
  | p :: ps => p.Ordered ∧ p.lastAnchor ≤ a ∧ Fits p.anchor ps

/-- What holds of the open blocks after any tokens. -/
structure Open.Kept (s : Open) : Prop where
  wasComplete : ∃ before, complete before = s.current.kept
  last : s.current.lastAnchor ≤ s.current.tokens.length
  anchored : Anchored s.current.anchor s.around

theorem initial_kept : Open.initial.Kept := ⟨⟨[], rfl⟩, by simp [Open.initial, lastAnchor], trivial⟩

theorem Open.Kept.step {s : Open} (h : s.Kept) (t : Token) : (s.step t).Kept := by
  unfold Open.step
  split
  · refine ⟨⟨[], rfl⟩, by simp [Open.enter, opened, lastAnchor], ⟨_, rfl⟩, rfl, h.anchored⟩
  split
  · unfold Open.leave
    split
    · exact h
    · rename_i p ps hp
      obtain ⟨hcomplete, hlength, hrest⟩ : Anchored s.current.anchor (p :: ps) := hp ▸ h.anchored
      refine ⟨?_, ?_, hrest⟩
      · simpa [Block.kept, addChild, lastAnchor, hlength] using hcomplete
      · simp [addChild, lastAnchor, hlength]
  · obtain ⟨hcomplete, hlast, hanchored⟩ := h
    refine ⟨?_, ?_, hanchored⟩
    · have hkept : (addToken t s.current).kept = s.current.kept := List.take_append_of_le_length hlast
      rwa [hkept]
    · exact hlast.trans (by simp [addToken])

/-- The open blocks after some tokens. -/
def state (tokens : List Token) : Open := tokens.foldl Open.step .initial

theorem state_kept (tokens : List Token) : (state tokens).Kept := by
  suffices ∀ s : Open, s.Kept → (tokens.foldl Open.step s).Kept from this _ initial_kept
  induction tokens with
  | nil => exact fun _ h => h
  | cons t tokens ih => exact fun s h => ih _ (h.step t)

theorem lastAnchor_le {b : Block} {a : ℕ} (h : ∀ c ∈ b.children, c.anchor ≤ a) : b.lastAnchor ≤ a := by
  unfold lastAnchor
  cases hlast : b.children.getLast? with
  | none => simp
  | some c => exact h c (List.mem_of_getLast? hlast)

theorem ordered_addChild {c p : Block} (h : c.anchor = p.tokens.length) :
    (addChild c p).Ordered ↔ c.Ordered ∧ p.Ordered ∧ p.lastAnchor ≤ c.anchor := by
  rw [ordered_iff, ordered_iff (b := p)]
  simp only [addChild, List.map_append, List.pairwise_append, List.forall_mem_append, List.map_cons, List.map_nil,
    List.forall_mem_singleton, List.forall_mem_map, List.pairwise_singleton, true_and, h, le_refl, and_true]
  constructor
  · rintro ⟨⟨hsorted, hlast⟩, hinside, hbelow, hc⟩
    exact ⟨hc, ⟨hsorted, hinside, hbelow⟩, lastAnchor_le hlast⟩
  · rintro ⟨hc, ⟨hsorted, hinside, hbelow⟩, -⟩
    exact ⟨⟨hsorted, hinside⟩, hinside, hbelow, hc⟩

/-- A tree is in order when the innermost open block and those around it are. -/
theorem root_ordered {c : Block} {around : List Block} (h : Anchored c.anchor around) :
    (around.foldl addChild c).Ordered ↔ c.Ordered ∧ Fits c.anchor around := by
  induction around generalizing c with
  | nil => simp [Fits]
  | cons p ps ih =>
    obtain ⟨-, hlength, hrest⟩ := h
    have hp : (ps.foldl addChild (addChild c p)).Ordered ↔ (addChild c p).Ordered ∧ Fits p.anchor ps :=
      ih (c := addChild c p) hrest
    rw [List.foldl_cons, hp, ordered_addChild hlength, Fits, and_assoc, and_assoc]

/-! ### Steps -/

theorem opened_ordered (before : List Token) (line : ℕ) : (opened before line).Ordered :=
  .intro .nil (by simp [opened]) (by simp [opened])

/-- An opening keeps what was kept before when that stays complete. -/
theorem Open.Kept.lastAnchor_le_iff {s : Open} (h : s.Kept) :
    s.current.lastAnchor ≤ (complete s.current.tokens).length ↔ StaysComplete s.current.kept s.current.later := by
  obtain ⟨before, hbefore⟩ := h.wasComplete
  have hlength : s.current.kept.length = s.current.lastAnchor := List.length_take_of_le h.last
  have htokens : s.current.kept ++ s.current.later = s.current.tokens := List.take_append_drop ..
  rw [← complete_append hbefore, hlength, htokens]

theorem Open.Kept.enter_ordered {s : Open} (h : s.Kept) (line : ℕ) :
    (s.enter line).root.Ordered ↔ s.root.Ordered ∧ StaysComplete s.current.kept s.current.later := by
  have hanchored : Anchored (s.enter line).current.anchor (s.enter line).around := ⟨⟨_, rfl⟩, rfl, h.anchored⟩
  have hlast : ({ s.current with tokens := complete s.current.tokens } : Block).lastAnchor = s.current.lastAnchor := rfl
  rw [Open.root, root_ordered hanchored, Open.root, root_ordered h.anchored, ← h.lastAnchor_le_iff]
  simp only [Open.enter, Fits, opened_ordered, true_and, hlast]
  rw [ordered_iff_lastAnchor h.last]
  constructor
  · rintro ⟨hcut, hkeeps, hfits⟩
    obtain ⟨hsorted, -, hbelow⟩ := ordered_iff.1 hcut
    exact ⟨⟨⟨hsorted, hbelow⟩, hfits⟩, hkeeps⟩
  · rintro ⟨⟨⟨hsorted, hbelow⟩, hfits⟩, hkeeps⟩
    exact ⟨(ordered_iff_lastAnchor hkeeps).mpr ⟨hsorted, hbelow⟩, hkeeps, hfits⟩

theorem Open.Kept.leave_ordered {s : Open} (h : s.Kept) (line : ℕ) :
    (s.leave line).root.Ordered ↔ s.root.Ordered := by
  unfold Open.leave
  split
  · rfl
  · rename_i p ps hp
    obtain ⟨hcomplete, hlength, hrest⟩ : Anchored s.current.anchor (p :: ps) := hp ▸ h.anchored
    have hline : ({ s.current with endLine := line } : Block).Ordered ↔ s.current.Ordered := Ordered.congr rfl rfl
    have hleft : (ps.foldl addChild (addChild { s.current with endLine := line } p)).Ordered ↔
        (addChild { s.current with endLine := line } p).Ordered ∧ Fits p.anchor ps :=
      root_ordered (c := addChild { s.current with endLine := line } p) hrest
    have hadd : (addChild { s.current with endLine := line } p).Ordered ↔
        s.current.Ordered ∧ p.Ordered ∧ p.lastAnchor ≤ s.current.anchor := by
      rw [ordered_addChild (c := { s.current with endLine := line }) hlength, hline]
    have hroot : s.root.Ordered ↔ s.current.Ordered ∧ p.Ordered ∧ p.lastAnchor ≤ s.current.anchor ∧ Fits p.anchor ps := by
      rw [Open.root, hp]
      exact root_ordered ⟨hcomplete, hlength, hrest⟩
    rw [hroot]
    exact hleft.trans (by rw [hadd, and_assoc, and_assoc])

theorem Open.Kept.token_ordered {s : Open} (h : s.Kept) (t : Token) :
    ({ s with current := addToken t s.current } : Open).root.Ordered ↔ s.root.Ordered := by
  have hmore : (addToken t s.current).lastAnchor ≤ (addToken t s.current).tokens.length :=
    h.last.trans (by simp [addToken])
  have hsame : (addToken t s.current).Ordered ↔ s.current.Ordered := by
    rw [ordered_iff_lastAnchor h.last, ordered_iff_lastAnchor hmore]
    rfl
  have hanchored : Anchored (addToken t s.current).anchor s.around := h.anchored
  rw [Open.root, root_ordered hanchored, hsame, Open.root, root_ordered h.anchored]
  rfl

/-- One token keeps a tree in order, unless it opens a block and cuts away what was kept. -/
theorem Open.Kept.step_ordered {s : Open} (h : s.Kept) (t : Token) :
    (s.step t).root.Ordered ↔ s.root.Ordered ∧ (t.opens = true → StaysComplete s.current.kept s.current.later) := by
  unfold Open.step
  split
  · rename_i hopens
    simpa [hopens] using h.enter_ordered t.line
  · rename_i hopens
    have : t.opens = true → StaysComplete s.current.kept s.current.later := fun h => absurd h hopens
    split
    · rw [h.leave_ordered, and_iff_left this]
    · rw [h.token_ordered, and_iff_left this]

theorem state_snoc (tokens : List Token) (t : Token) : state (tokens ++ [t]) = (state tokens).step t := by
  simp [state]

theorem state_ordered (tokens : List Token) :
    (state tokens).root.Ordered ↔ ∀ before t after, tokens = before ++ t :: after → t.opens = true →
      StaysComplete (state before).current.kept (state before).current.later := by
  induction tokens using List.reverseRecOn with
  | nil =>
    refine iff_of_true (.intro .nil ?_ ?_) ?_
    · simp [state, Open.root, Open.initial]
    · simp [state, Open.root, Open.initial]
    · intro before t after h
      simp at h
  | append_singleton tokens u ih =>
    rw [state_snoc, (state_kept tokens).step_ordered, ih]
    constructor
    · rintro ⟨hbefore, hlast⟩ before t after hsplit hopens
      rcases List.eq_nil_or_concat after with rfl | ⟨after, v, rfl⟩
      · obtain ⟨rfl, ht⟩ := List.append_inj' hsplit rfl
        obtain rfl : u = t := by simpa using ht
        exact hlast hopens
      · rw [List.concat_eq_append, ← List.cons_append, ← List.append_assoc] at hsplit
        exact hbefore before t after (List.append_inj' hsplit rfl).1 hopens
    · intro h
      exact ⟨fun before t after hsplit => h before t (after ++ [u]) (by simp [hsplit]), h tokens u [] rfl⟩

/-- The anchors of a tree are in order exactly when at every opening brace the tokens that the current block kept when
its last child opened stay complete under the tokens that were added since. -/
theorem ofTokens_ordered_iff (tokens : List Token) :
    (ofTokens tokens).Ordered ↔ ∀ before t after, tokens = before ++ t :: after → t.opens = true →
      StaysComplete (state before).current.kept (state before).current.later := by
  rw [← state_ordered]
  exact Ordered.congr rfl rfl

/-- The second callback of a chain closes a parenthesis of the statement that the first one cut away, so that the cut
goes past what was kept, and `a();` is lost. -/
theorem chained_callbacks_not_ordered :
    ¬ (ofTokens (BraceLexer.tokens "a(); p.then(() => \x7b b(); \x7d).catch(() => \x7b c(); \x7d);")).Ordered := by
  intro h
  have hanchors : (ofTokens (BraceLexer.tokens
      "a(); p.then(() => \x7b b(); \x7d).catch(() => \x7b c(); \x7d);")).children.map anchor = [4, 0] := by
    decide +kernel
  have hsorted := (ordered_iff.1 h).1
  rw [hanchors] at hsorted
  simp at hsorted

end FlowSketch.Block
