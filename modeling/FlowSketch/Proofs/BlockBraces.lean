import FlowSketch.Proofs.BlockPlaces

/-!
# The braces of blocks

Braces that belong together begin and end one block, and what is in the block stands between them. A block that no brace
closes has what stands between its brace and the end of the source.
-/
namespace FlowSketch

theorem Token.closes_of_opens {t : Token} (h : t.opens = true) : t.closes = false := by
  grind [opens, closes, isPunctuation]

namespace Block
open BraceStatement

/-! ### Braces that belong together -/

/-- No brace closes before it is opened, and `n` are left open. -/
structure LeavesOpen (n : ℕ) (ts : List Token) : Prop where
  opened : ∀ us, us <+: ts → us.countP Token.closes ≤ us.countP Token.opens
  left : ts.countP Token.opens = ts.countP Token.closes + n

theorem LeavesOpen.snoc {n m : ℕ} {ts : List Token} (h : LeavesOpen n ts) {t : Token}
    (ht : n + [t].countP Token.opens = m + [t].countP Token.closes) : LeavesOpen m (ts ++ [t]) := by
  have hleft := h.left
  have hall : (ts ++ [t]).countP Token.opens = (ts ++ [t]).countP Token.closes + m := by
    rw [List.countP_append, List.countP_append]
    omega
  refine ⟨fun us hus => ?_, hall⟩
  rcases List.prefix_concat_iff.mp hus with rfl | hus
  · omega
  · exact h.opened us hus

/-- The brace with a number is open in the end, with `n` more in it. -/
structure Unclosed (source : List Token) (i n : ℕ) : Prop where
  brace : (source[i]?).any Token.opens = true
  after : LeavesOpen n (source.drop (i + 1))

/-- The brace with the second number closes that with the first. -/
structure Closes (source : List Token) (i j : ℕ) : Prop where
  brace : (source[i]?).any Token.opens = true
  closing : (source[j]?).any Token.closes = true
  ordered : i < j
  between : LeavesOpen 0 ((source.take j).drop (i + 1))

section
variable {source : List Token} {t : Token} {i j n m : ℕ}

theorem lt_of_any {p : Token → Bool} (h : (source[i]?).any p = true) : i < source.length := by
  by_contra hlt
  rw [List.getElem?_eq_none (by omega)] at h
  simp at h

theorem any_snoc {p : Token → Bool} (h : (source[i]?).any p = true) (t : Token) : ((source ++ [t])[i]?).any p = true := by
  rwa [List.getElem?_append_left (lt_of_any h)]

theorem Unclosed.snoc (h : Unclosed source i n) (ht : n + [t].countP Token.opens = m + [t].countP Token.closes) :
    Unclosed (source ++ [t]) i m := by
  refine ⟨any_snoc h.brace t, ?_⟩
  rw [List.drop_append_of_le_length (lt_of_any h.brace)]
  exact h.after.snoc ht

theorem Unclosed.opened (source : List Token) (ht : t.opens = true) : Unclosed (source ++ [t]) source.length 0 := by
  refine ⟨by simpa using ht, ?_⟩
  rw [List.drop_of_length_le (by simp)]
  exact ⟨by simp, rfl⟩

theorem Unclosed.closed (h : Unclosed source i 0) (ht : t.closes = true) : Closes (source ++ [t]) i source.length := by
  refine ⟨any_snoc h.brace t, by simpa using ht, lt_of_any h.brace, ?_⟩
  rw [List.take_left]
  exact h.after

theorem Closes.snoc (h : Closes source i j) (t : Token) : Closes (source ++ [t]) i j := by
  refine ⟨any_snoc h.brace t, any_snoc h.closing t, h.ordered, ?_⟩
  rw [List.take_append_of_le_length (lt_of_any h.closing).le]
  exact h.between

/-- A brace in which another one is open comes before that. -/
theorem Unclosed.lt (h : Unclosed source i (n + 1)) (hinner : Unclosed source j n) : i < j := by
  by_contra hle
  -- otherwise more braces are open behind the outer one than behind the inner one, which has all of them behind it
  have hdrop : source.drop (j + 1) = (source.drop (j + 1)).take (i - j) ++ source.drop (i + 1) := by
    conv_lhs => rw [← List.take_append_drop (i - j) (source.drop (j + 1))]
    rw [List.drop_drop, show j + 1 + (i - j) = i + 1 by omega]
  have hbefore := hinner.after.opened _ (List.take_prefix (i - j) _)
  have hinside := hinner.after.left
  have hafter := h.after.left
  rw [hdrop, List.countP_append, List.countP_append] at hinside
  omega

end

/-! ### Blocks -/

/-- The tokens of a block and of those in it. -/
def contents (b : Block) : List Token := b.tokens ++ (forest b.children).flatMap tokens

/-- In a tree with numbers for lines, a block whose brace is closed. -/
structure Closed (source : List Token) (b : Block) : Prop where
  braces : Closes source b.startLine b.endLine
  contents : ∀ t ∈ b.contents, b.startLine < t.line ∧ t.line < b.endLine
  children : ∀ c ∈ b.children, b.startLine < c.startLine ∧ c.startLine ≤ c.endLine ∧ c.endLine < b.endLine

/-- In a tree with numbers for lines, a block whose brace is open in the end, with `n` more in it. -/
structure Standing (source : List Token) (n : ℕ) (b : Block) : Prop where
  brace : Unclosed source b.startLine n
  ends : b.endLine = b.startLine
  contents : ∀ t ∈ b.contents, b.startLine < t.line ∧ t.line < source.length
  children : ∀ c ∈ b.children, b.startLine < c.startLine

theorem contents_eq (b : Block) : b.contents = b.preorder.flatMap tokens := by
  rw [contents, preorder_eq, List.flatMap_cons]

theorem contents_addChild (c p : Block) : (addChild c p).contents = p.contents ++ c.contents := by
  rw [contents_eq c, contents, contents, forest_addChild, List.flatMap_append, List.append_assoc]
  rfl

section
variable {source : List Token} {t : Token} {b c : Block} {n m : ℕ}

theorem Closed.snoc (h : Closed source b) (t : Token) : Closed (source ++ [t]) b :=
  ⟨h.braces.snoc t, h.contents, h.children⟩

theorem Standing.snoc (h : Standing source n b) (ht : n + [t].countP Token.opens = m + [t].countP Token.closes) :
    Standing (source ++ [t]) m b := by
  refine ⟨h.brace.snoc ht, h.ends, fun u hu => ?_, h.children⟩
  rw [List.length_append]
  exact (h.contents u hu).imp id (Nat.lt_add_right _)

theorem Standing.opened (before : List Token) (ht : t.opens = true) :
    Standing (source ++ [t]) 0 (opened before source.length) :=
  ⟨.opened source ht, rfl, fun _ hu => absurd hu List.not_mem_nil, by simp [Block.opened]⟩

/-- A block keeps its place when it loses tokens. -/
theorem Standing.cut (h : Standing source n b) : Standing source n { b with tokens := complete b.tokens } :=
  ⟨h.brace, h.ends, fun u hu => h.contents u (((complete_sublist b.tokens).append_right _).mem hu), h.children⟩

theorem Standing.token (h : Standing source n b) (ht : n + [t].countP Token.opens = m + [t].countP Token.closes) :
    Standing (source ++ [t]) m (addToken { t with line := source.length } b) := by
  refine ⟨h.brace.snoc ht, h.ends, fun u hu => ?_, h.children⟩
  rcases List.mem_append.mp hu with hu | hu
  · rcases List.mem_append.mp hu with hu | hu
    · exact (h.snoc ht).contents u (List.mem_append_left _ hu)
    · rw [List.mem_singleton.mp hu]
      exact ⟨lt_of_any h.brace.brace, by simp⟩
  · exact (h.snoc ht).contents u (List.mem_append_right _ hu)

/-- A block keeps its place when a block that comes after its brace goes into it. -/
theorem Standing.addChild (h : Standing source n b) (hlt : b.startLine < c.startLine)
    (hc : ∀ u ∈ c.contents, c.startLine < u.line ∧ u.line < source.length) : Standing source n (addChild c b) := by
  refine ⟨h.brace, h.ends, fun u hu => ?_, ?_⟩
  · rw [contents_addChild] at hu
    rcases List.mem_append.mp hu with hu | hu
    · exact h.contents u hu
    · exact (hc u hu).imp hlt.trans id
  · rw [Block.addChild, List.forall_mem_append, List.forall_mem_singleton]
    exact ⟨h.children, hlt⟩

theorem Standing.close (h : Standing source 0 b) (ht : t.closes = true) (hchildren : ∀ c ∈ b.children, Closed source c) :
    Closed (source ++ [t]) { b with endLine := source.length } :=
  ⟨h.brace.closed ht, h.contents, fun c hc => ⟨h.children c hc, (hchildren c hc).braces.ordered.le,
    lt_of_any (hchildren c hc).braces.closing⟩⟩

end

/-! ### The tree as it is read -/

/-- A block in which `n` blocks are open, and those around it but for the outermost, stand where they began. -/
def Stands (source : List Token) (n : ℕ) (b : Block) : List Block → Prop
  | [] => True
  | p :: ps => Standing source n b ∧ Stands source (n + 1) p ps

/-- In what has been read, all blocks that are not open are closed. -/
structure Open.Placed (source : List Token) (s : Open) : Prop where
  closed : ∀ b ∈ forest s.current.children ++ s.around.flatMap fun p => forest p.children, Closed source b
  stands : Stands source 0 s.current s.around

section
variable {source : List Token} {t : Token} {b : Block} {ps : List Block} {n m : ℕ}

theorem Stands.snoc (h : Stands source n b ps) (ht : n + [t].countP Token.opens = m + [t].countP Token.closes) :
    Stands (source ++ [t]) m b ps := by
  induction ps generalizing n m b with
  | nil => trivial
  | cons p ps ih => exact ⟨h.1.snoc ht, ih h.2 (by omega)⟩

theorem Stands.cut (h : Stands source n b ps) : Stands source n { b with tokens := complete b.tokens } ps := by
  cases ps with
  | nil => trivial
  | cons p ps => exact ⟨h.1.cut, h.2⟩

theorem Open.Placed.enter {s : Open} (h : s.Placed source) (hopens : t.opens = true) (hcloses : t.closes = false) :
    (s.enter source.length).Placed (source ++ [t]) where
  closed b hb := (h.closed b hb).snoc t
  stands := ⟨.opened _ hopens, (h.stands.snoc (by simp [hopens, hcloses])).cut⟩

theorem Open.Placed.leave {s : Open} (h : s.Placed source) (hopens : t.opens = false) (hcloses : t.closes = true) :
    (s.leave source.length).Placed (source ++ [t]) := by
  obtain ⟨c, around⟩ := s
  obtain ⟨hclosed, hstands⟩ := h
  cases around with
  | nil => exact ⟨fun b hb => (hclosed b hb).snoc t, trivial⟩
  | cons p ps =>
    have hchildren : ∀ d ∈ c.children, Closed source d := fun d hd =>
      hclosed d (List.mem_append_left _ (mem_forest.mpr ⟨d, hd, by simp [preorder_eq]⟩))
    have hended : Closed (source ++ [t]) { c with endLine := source.length } := hstands.1.close hcloses hchildren
    refine ⟨fun b hb => ?_, ?_⟩
    · simp only [Open.leave, forest_addChild, preorder_eq, List.mem_append, List.mem_cons] at hb
      obtain (hb | rfl | hb) | hb := hb
      · exact (hclosed b (by simp [hb])).snoc t
      · exact hended
      · exact (hclosed b (by simp [hb])).snoc t
      · exact (hclosed b (by rw [List.flatMap_cons]; simp only [List.mem_append, hb, or_true])).snoc t
    · -- the outermost block has no brace, so that nothing is asked of it
      cases ps with
      | nil => trivial
      | cons q qs =>
        have hlt : p.startLine < c.startLine := hstands.2.1.brace.lt hstands.1.brace
        have hparent : Standing source 1 (addChild { c with endLine := source.length } p) :=
          hstands.2.1.addChild hlt hended.contents
        exact ⟨hparent.snoc (by simp [hopens, hcloses]), hstands.2.2.snoc (by simp [hopens, hcloses])⟩

theorem Open.Placed.token {s : Open} (h : s.Placed source) (hopens : t.opens = false) (hcloses : t.closes = false) :
    ({ s with current := addToken { t with line := source.length } s.current } : Open).Placed (source ++ [t]) := by
  obtain ⟨c, around⟩ := s
  refine ⟨fun b hb => (h.closed b hb).snoc t, ?_⟩
  cases around with
  | nil => trivial
  | cons p ps => exact ⟨h.stands.1.token (by simp [hopens, hcloses]), h.stands.2.snoc (by simp [hopens, hcloses])⟩

/-- A block that ended, at its closing brace or with the source. -/
def Ended (source : List Token) (b : Block) : Prop := Closed source b ∨ ∃ n, Standing source n b

/-- The blocks that are still open end with the source, each in the one around it. -/
theorem Stands.root_ended {c : Block} (h : Stands source n c ps)
    (hended : ∀ b ∈ forest c.children ++ ps.flatMap fun p => forest p.children, Ended source b) :
    ∀ b ∈ forest (ps.foldl addChild c).children, Ended source b := by
  -- the innermost block goes into the one around it, which stands with what it has from then on
  induction ps generalizing n c with
  | nil => simpa using hended
  | cons p ps ih =>
    have hparent : Stands source (n + 1) (addChild c p) ps := by
      cases ps with
      | nil => trivial
      | cons q qs => exact ⟨h.2.1.addChild (h.2.1.brace.lt h.1.brace) h.1.contents, h.2.2⟩
    refine ih hparent fun b hb => ?_
    simp only [forest_addChild, preorder_eq, List.mem_append, List.mem_cons] at hb
    obtain (hb | rfl | hb) | hb := hb
    · exact hended b (by simp [hb])
    · exact .inr ⟨n, h.1⟩
    · exact hended b (by simp [hb])
    · exact hended b (by rw [List.flatMap_cons]; simp only [List.mem_append, hb, or_true])

end

theorem Open.Placed.step {source : List Token} {s : Open} (h : s.Placed source) (t : Token) :
    (s.step { t with line := source.length }).Placed (source ++ [t]) := by
  unfold Open.step
  have hsame : ({ t with line := source.length } : Token).opens = t.opens ∧
      ({ t with line := source.length } : Token).closes = t.closes := ⟨rfl, rfl⟩
  rw [hsame.1, hsame.2]
  split
  · rename_i hopens
    exact h.enter hopens (Token.closes_of_opens hopens)
  · rename_i hopens
    rw [Bool.not_eq_true] at hopens
    split
    · rename_i hcloses
      exact h.leave hopens hcloses
    · rename_i hcloses
      exact h.token hopens (Bool.not_eq_true _ ▸ hcloses)

theorem state_placed (source : List Token) : (state (numbered source)).Placed source := by
  induction source using List.reverseRecOn with
  | nil => exact ⟨by simp [numbered, state, Open.initial, forest], trivial⟩
  | append_singleton source t ih =>
    rw [numbered_snoc, state_snoc]
    exact ih.step t

/-- Every block of a tree stands between braces that belong together, or from a brace that nothing closes. -/
theorem places_ended (source : List Token) : ∀ b ∈ forest (places source).children, Ended source b := by
  obtain ⟨hclosed, hstands⟩ := state_placed source
  exact hstands.root_ended fun b hb => .inl (hclosed b hb)

/-! ### What a tree keeps of its source -/

/-- The tokens of a source are in a tree once at most, in their order and between the braces of their blocks, and blocks
are on the lines of their braces. -/
structure Conserves (source : List Token) : Prop where
  tree : ofTokens source = { (places source).relined (lineAt source) with startLine := 1, endLine := lastLine source }
  begins : (forest (places source).children).map startLine = ((numbered source).filter Token.opens).map Token.line
  count : (forest (ofTokens source).children).length = source.countP Token.opens
  noBrace : ∀ b ∈ (ofTokens source).preorder, ∀ t ∈ b.tokens, t.opens = false ∧ t.closes = false
  once : ((places source).contents.map Token.line).Nodup
  inOrder : ∀ b ∈ (places source).preorder, b.tokens.Sublist (numbered source)
  between : ∀ b ∈ forest (places source).children, Ended source b
  lines : ∀ b ∈ forest (places source).children, Closes source b.startLine b.endLine → ∀ c ∈ b.children,
    lineAt source b.startLine ≤ lineAt source c.startLine ∧ lineAt source c.startLine ≤ lineAt source c.endLine ∧
      lineAt source c.endLine ≤ lineAt source b.endLine
  outermost : ∀ c ∈ (ofTokens source).children, c.startLine ≤ c.endLine ∧ c.endLine ≤ (ofTokens source).endLine

theorem Ended.places {source : List Token} {b : Block} (h : Ended source b) :
    b.startLine ≤ b.endLine ∧ b.endLine < source.length := by
  rcases h with h | ⟨n, h⟩
  · exact ⟨h.braces.ordered.le, lt_of_any h.braces.closing⟩
  · rw [h.ends]
    exact ⟨le_rfl, lt_of_any h.brace.brace⟩

theorem lineAt_mono {source : List Token} (h : source.Pairwise fun t u => t.line ≤ u.line) {i j : ℕ} (hij : i ≤ j)
    (hj : j < source.length) : lineAt source i ≤ lineAt source j := by
  have hi : i < source.length := hij.trans_lt hj
  rw [lineAt, lineAt, List.getElem?_eq_getElem hi, List.getElem?_eq_getElem hj]
  rcases hij.eq_or_lt with rfl | hlt
  · exact le_rfl
  · exact List.pairwise_iff_getElem.mp h i j hi hj hlt

theorem lineAt_le_lastLine {source : List Token} (h : source.Pairwise fun t u => t.line ≤ u.line) {i : ℕ}
    (hi : i < source.length) : lineAt source i ≤ lastLine source := by
  have hlast : lastLine source = lineAt source (source.length - 1) := by
    rw [lastLine, lineAt, List.getLast?_eq_getElem?, List.getElem?_eq_getElem (by omega)]
    rfl
  rw [hlast]
  exact lineAt_mono h (by omega) (by omega)

/-- The tree of a source conserves its tokens, whatever its braces are. -/
theorem ofTokens_conserves {source : List Token} (h : source.Pairwise fun t u => t.line ≤ u.line) : Conserves source where
  tree := ofTokens_eq_relined source
  begins := by
    have hstarts := ofTokens_startLines (numbered source)
    rw [preorder_eq, List.map_cons] at hstarts
    exact (List.cons.inj hstarts).2
  count := by
    have hlength := congrArg List.length (ofTokens_startLines source)
    rw [preorder_eq, List.length_map, List.length_cons, List.length_cons, List.length_map] at hlength
    rw [List.countP_eq_length_filter]
    exact Nat.succ.inj hlength
  noBrace b hb := (ofTokens_storage source).noBrace b.tokens (List.mem_map_of_mem hb)
  once := by
    obtain ⟨stored, hperm, hsub⟩ := List.subperm_iff.mp (ofTokens_storage (numbered source)).once
    have hnodup : ((numbered source).map Token.line).Nodup := by
      rw [numbered_lines]
      exact List.nodup_range
    rw [contents_eq, List.flatMap]
    exact ((hperm.map Token.line).nodup_iff.mpr hnodup).sublist (hsub.map Token.line)
  inOrder b hb := (ofTokens_storage (numbered source)).inOrder b.tokens (List.mem_map_of_mem hb)
  between := places_ended source
  lines b hb hcloses c hc := by
    rcases places_ended source b hb with hclosed | ⟨n, hstanding⟩
    · obtain ⟨hafter, hordered, hbefore⟩ := hclosed.children c hc
      have hend := lt_of_any hcloses.closing
      exact ⟨lineAt_mono h hafter.le (by omega), lineAt_mono h hordered (by omega), lineAt_mono h hbefore.le hend⟩
    · exact absurd hstanding.ends hcloses.ordered.ne'
  outermost c hc := by
    rw [ofTokens_eq_relined, relined_eq] at hc
    obtain ⟨d, hd, rfl⟩ := List.mem_map.mp hc
    have hended := (places_ended source d (mem_forest.mpr ⟨d, hd, by simp [preorder_eq]⟩)).places
    rw [relined_eq, (ofTokens_fields source).2.2.1]
    exact ⟨lineAt_mono h hended.1 hended.2, lineAt_le_lastLine h hended.2⟩

/-! ### Sources that are read -/

theorem tokensFrom_sorted (line : ℕ) (cs : List Char) : (∀ t ∈ BraceLexer.tokensFrom line cs, line ≤ t.line) ∧
    (BraceLexer.tokensFrom line cs).Pairwise fun t u => t.line ≤ u.line := by
  induction line, cs using BraceLexer.tokensFrom.induct with
  | case1 line => simp [BraceLexer.tokensFrom]
  | case2 line c cs ih =>
    rw [BraceLexer.tokensFrom]
    have hrest : ∀ u ∈ BraceLexer.tokensFrom (line + (BraceLexer.lexeme c cs).read.lines) (BraceLexer.lexeme c cs).read.rest,
        line ≤ u.line := fun u hu => (Nat.le_add_right _ _).trans (ih.1 u hu)
    rw [BraceLexer.Lexeme.token?]
    cases (BraceLexer.lexeme c cs).kind with
    | none => exact ⟨hrest, ih.2⟩
    | some kind => exact ⟨List.forall_mem_cons.mpr ⟨le_rfl, hrest⟩, List.pairwise_cons.mpr ⟨hrest, ih.2⟩⟩

/-- The lines of the tokens of a text do not decrease. -/
theorem tokens_sorted (code : String) : (BraceLexer.tokens code).Pairwise fun t u => t.line ≤ u.line :=
  (tokensFrom_sorted 1 code.toList).2

/-- A stray brace, two callbacks of one statement, a brace in a string, and blocks that are never closed. -/
theorem unbalanced_source_conserves :
    Conserves (BraceLexer.tokens "\x7d a();\np.then(() => \x7b\n b('\x7d');\n\x7d).catch(e => \x7b c(); \x7d);\nif (d) \x7b\n \x7b e(") :=
  ofTokens_conserves (tokens_sorted _)

end Block
end FlowSketch
