import FlowSketch.Proofs.BlockNesting
import FlowSketch.Proofs.LeavingSteps
import FlowSketch.Proofs.StepLabels

/-!
# Statements with literals in them

Where all braces of a source are those of object literals, its flow has no constructs. Its steps are those of the
statements that are left between the braces, where each opening brace has cut away what led to it.
-/
namespace FlowSketch.Block

mutual

/-- A block with the blocks in it, at any depth. -/
def preorder : Block → List Block
  | ⟨owner, tokens, children, startLine, endLine, anchor⟩ =>
    ⟨owner, tokens, children, startLine, endLine, anchor⟩ :: forest children

/-- Blocks with the blocks in them. -/
def forest : List Block → List Block
  | [] => []
  | b :: bs => b.preorder ++ forest bs

end

theorem preorder_eq (b : Block) : b.preorder = b :: forest b.children := by
  obtain ⟨owner, tokens, children, startLine, endLine, anchor⟩ := b
  rw [preorder]

theorem forest_append (bs cs : List Block) : forest (bs ++ cs) = forest bs ++ forest cs := by
  induction bs with
  | nil => rfl
  | cons b bs ih => rw [List.cons_append, forest, forest, ih, List.append_assoc]

theorem forest_addChild (c p : Block) : forest (addChild c p).children = forest p.children ++ c.preorder := by
  rw [addChild, forest_append, forest, forest, List.append_nil]

theorem mem_forest {bs : List Block} {c : Block} : c ∈ forest bs ↔ ∃ b ∈ bs, c ∈ b.preorder := by
  induction bs with
  | nil => simp [forest]
  | cons b bs ih => simp [forest, ih]

/-! ### Regions -/

mutual

/-- What is between the braces of a piece, and between those in it. -/
def Piece.regions : Piece → List (List Piece)
  | .token _ => []
  | .braces _ _ inner => inner :: regions inner

/-- The regions between the braces of a source, each from its brace to the one that closes it. -/
def regions : List Piece → List (List Piece)
  | [] => []
  | p :: ps => p.regions ++ regions ps

end

/-- What is left of the tokens of a region, without those in further regions. -/
def leftTokens (ps : List Piece) : List Token := (numberedTokens ps).map Prod.fst

theorem fill_leftTokens {b : Block} (h : b.tokens = []) (ps : List Piece) : (fill b ps).tokens = leftTokens ps :=
  fill_tokens h 0 ps

mutual

theorem addTo_forest : ∀ (b : Block) (p : Piece),
    (forest (p.addTo b).children).map tokens = (forest b.children).map tokens ++ p.regions.map leftTokens
  | b, .token t => by simp [Piece.addTo, addToken, Piece.regions]
  | b, .braces openLine closeLine inner => by
    have hinner := fill_forest (Block.opened b.tokens openLine) inner
    have htokens : (fill (Block.opened b.tokens openLine) inner).tokens = leftTokens inner := fill_leftTokens rfl inner
    rw [Piece.addTo, forest_addChild, preorder_eq, List.map_append, List.map_cons, htokens, hinner, Piece.regions,
      List.map_cons]
    rfl

/-- The blocks that pieces add to a block have the tokens that are left in the regions of the pieces. -/
theorem fill_forest : ∀ (b : Block) (ps : List Piece),
    (forest (fill b ps).children).map tokens = (forest b.children).map tokens ++ (regions ps).map leftTokens
  | b, [] => by simp [fill, regions]
  | b, p :: ps => by
    rw [fill, fill_forest (p.addTo b) ps, addTo_forest b p, regions, List.map_append, List.append_assoc]

end

/-- The blocks of a tree have the tokens that are left in the regions of its source, and in the source around them. -/
theorem ofTokens_preorder (source : List Token) :
    (ofTokens source).preorder.map tokens = (pieces source :: regions (pieces source)).map leftTokens := by
  have hroot : (fill Open.initial.current (pieces source)).tokens = leftTokens (pieces source) := fill_leftTokens rfl _
  rw [preorder_eq, ofTokens_eq_fill, List.map_cons, List.map_cons, fill_forest, hroot]
  rfl

end FlowSketch.Block

namespace FlowSketch.BraceFlow
open Block

/-! ### Flows without constructs -/

theorem mem_assemble {steps : List Step} {parts : List Part} {n : Node} :
    n ∈ assemble steps parts ↔ (∃ s ∈ steps, n = .step s) ∨ n ∈ join parts := by
  rw [assemble, List.mem_append, List.mem_append, List.mem_map, List.mem_map]
  simp only [List.mem_filter]
  grind

theorem join_inlined {bs : List Block} (h : ∀ b ∈ bs, inlines b.owner = true) :
    join (bs.map part) = bs.flatMap ofBlock := by
  induction bs with
  | nil => simp [join]
  | cons b bs ih =>
    rw [List.map_cons, part_inlined (h b List.mem_cons_self), join, ih fun c hc => h c (List.mem_cons_of_mem b hc),
      List.flatMap_cons]

/-- A flow in which all blocks are inlined has the steps of all blocks, and nothing else. -/
theorem mem_ofBlock_inlined (b : Block) (h : ∀ c ∈ forest b.children, inlines c.owner = true) {n : Node} :
    n ∈ ofBlock b ↔ ∃ c ∈ b.preorder, ∃ s ∈ stepsOf c.tokens, n = .step s := by
  induction b using Block.induction_children with
  | h b ih =>
    have hchild {c : Block} (hc : c ∈ b.children) : inlines c.owner = true :=
      h c (mem_forest.2 ⟨c, hc, by simp [preorder_eq]⟩)
    have hbelow {c : Block} (hc : c ∈ b.children) : n ∈ ofBlock c ↔
        ∃ d ∈ c.preorder, ∃ s ∈ stepsOf d.tokens, n = .step s :=
      ih c hc fun d hd => h d (mem_forest.2 ⟨c, hc, by simp [preorder_eq, hd]⟩)
    rw [ofBlock_eq, mem_assemble, join_inlined fun c hc => hchild hc, List.mem_flatMap, preorder_eq,
      List.exists_mem_cons_iff]
    refine or_congr Iff.rfl ⟨?_, ?_⟩
    · rintro ⟨c, hc, hn⟩
      obtain ⟨d, hd, hstep⟩ := (hbelow hc).1 hn
      exact ⟨d, mem_forest.2 ⟨c, hc, hd⟩, hstep⟩
    · rintro ⟨d, hd, hstep⟩
      obtain ⟨c, hc, hd⟩ := mem_forest.1 hd
      exact ⟨c, hc, (hbelow hc).2 ⟨d, hd, hstep⟩⟩

theorem inlines_object {owner : Owner} (h : owner.kind = "object") : inlines owner = true := by
  cases owner with
  | promise stage => cases stage <;> simp [Owner.kind, PromiseStage.kind] at h
  | _ => simp_all [Owner.kind, inlines]

/-- The source of a flow and the regions between its braces. -/
def regionsOf (code : String) : List (List Piece) :=
  pieces (BraceLexer.tokens code) :: regions (pieces (BraceLexer.tokens code))

/-- A flow whose blocks are all object literals has the steps of what is left in the regions of its source, and nothing
else. -/
theorem mem_ofSource_objects {code : String}
    (h : ∀ b ∈ forest (Block.ofTokens (BraceLexer.tokens code)).children, b.owner.kind = "object") {n : Node} :
    n ∈ ofSource code ↔ ∃ ps ∈ regionsOf code, ∃ s ∈ stepsOf (leftTokens ps), n = .step s := by
  have hmap {α : Type} (l : List α) (f : α → List Token) : (∃ a ∈ l, ∃ s ∈ stepsOf (f a), n = .step s) ↔
      ∃ ts ∈ l.map f, ∃ s ∈ stepsOf ts, n = .step s := by simp
  rw [ofSource, mem_ofBlock_inlined _ fun b hb => inlines_object (h b hb), hmap, ofTokens_preorder, ← hmap, regionsOf]

/-- Where all blocks are object literals, the kinds of steps in the flow are those of the statements that are left in the
regions of the source; the kinds that the source as a whole is read as are those of its statements. -/
theorem kinds_of_objects (code kind : String)
    (h : ∀ b ∈ forest (Block.ofTokens (BraceLexer.tokens code)).children, b.owner.kind = "object") :
    ((∃ s ∈ stepsOf (BraceLexer.tokens code), s.kind = kind) ↔
        ∃ statement ∈ statements (BraceLexer.tokens code), ReadAs kind statement) ∧
      ((∃ s, Node.step s ∈ ofSource code ∧ s.kind = kind) ↔
        ∃ ps ∈ regionsOf code, ∃ statement ∈ statements (leftTokens ps), ReadAs kind statement) := by
  refine ⟨exists_stepsOf_iff, ?_⟩
  simp only [mem_ofSource_objects h, ← exists_stepsOf_iff]
  constructor
  · rintro ⟨s, ⟨ps, hps, t, ht, heq⟩, hkind⟩
    cases heq
    exact ⟨ps, hps, s, ht, hkind⟩
  · rintro ⟨ps, hps, s, hs, hkind⟩
    exact ⟨s, ⟨ps, hps, s, hs, rfl⟩, hkind⟩

/-- What follows a literal is left, and is read without what led to the literal. -/
theorem kinds_behind_object :
    (∀ b ∈ forest (Block.ofTokens (BraceLexer.tokens "add(\x7b a: 1 \x7d).save();")).children, b.owner.kind = "object") ∧
      ∃ s, Node.step s ∈ ofSource "add(\x7b a: 1 \x7d).save();" ∧ s.kind = "io" := by
  have h : ∀ b ∈ forest (Block.ofTokens (BraceLexer.tokens "add(\x7b a: 1 \x7d).save();")).children,
      b.owner.kind = "object" := by decide +kernel
  exact ⟨h, (kinds_of_objects _ "io" h).2.mpr (by decide +kernel)⟩

/-- A call with a literal among its arguments is cut away with its head, and the source has no other statement. -/
theorem call_with_object_lost :
    (∀ b ∈ forest (Block.ofTokens (BraceLexer.tokens "User.findOne(\x7b id \x7d);")).children, b.owner.kind = "object") ∧
      ¬ ((∃ s ∈ stepsOf (BraceLexer.tokens "User.findOne(\x7b id \x7d);"), s.kind = "io") →
        ∃ s, Node.step s ∈ ofSource "User.findOne(\x7b id \x7d);" ∧ s.kind = "io") := by
  refine ⟨by decide +kernel, fun h => ?_⟩
  obtain ⟨s, hs, -⟩ := h (by decide +kernel)
  have hnone : (ofSource "User.findOne(\x7b id \x7d);").length = 0 := by decide +kernel
  rw [List.length_eq_zero_iff.mp hnone] at hs
  cases hs

end FlowSketch.BraceFlow
