import FlowSketch.Proofs.BlockAgreement
import FlowSketch.Proofs.BlockStorage

/-!
# The places of blocks

A tree looks at the lines of its tokens only to say where blocks begin and end. So the tree of a source with the numbers
of its tokens for lines is the same tree, and tells which tokens of the source its blocks have, and between which braces
they stand.
-/
namespace FlowSketch

def Token.relined (f : ℕ → ℕ) (t : Token) : Token := { t with line := f t.line }

namespace Block
open BraceStatement

/-! ### Lines -/

mutual

/-- A block with other lines. -/
def relined (f : ℕ → ℕ) : Block → Block
  | ⟨owner, tokens, children, startLine, endLine, anchor⟩ =>
    ⟨owner, tokens.map (Token.relined f), relinedAll f children, f startLine, f endLine, anchor⟩

def relinedAll (f : ℕ → ℕ) : List Block → List Block
  | [] => []
  | b :: bs => b.relined f :: relinedAll f bs

end

theorem relinedAll_eq_map (f : ℕ → ℕ) (bs : List Block) : relinedAll f bs = bs.map (relined f) := by
  induction bs with
  | nil => rfl
  | cons b bs ih => rw [relinedAll, ih, List.map_cons]

theorem relined_eq (f : ℕ → ℕ) (b : Block) : b.relined f =
    ⟨b.owner, b.tokens.map (Token.relined f), b.children.map (relined f), f b.startLine, f b.endLine, b.anchor⟩ := by
  obtain ⟨owner, tokens, children, startLine, endLine, anchor⟩ := b
  rw [relined, relinedAll_eq_map]

theorem groupParts_relined (f : ℕ → ℕ) (depth : ℤ) (ts : List Token) :
    groupParts depth (ts.map (Token.relined f)) = groupParts depth ts := by
  induction ts generalizing depth with
  | nil => rfl
  | cons t ts ih =>
    rw [List.map_cons, groupParts, groupParts]
    simp only [ih]
    rfl

theorem parenthesised_relined (f : ℕ → ℕ) (limit : ℕ) (keyword : String) (ts : List Token) :
    parenthesised limit keyword (ts.map (Token.relined f)) = parenthesised limit keyword ts := by
  have hkeyword : (fun t : Token => !t.isKeyword keyword) ∘ Token.relined f = fun t => !t.isKeyword keyword := rfl
  rw [parenthesised, parenthesised, List.dropWhile_map, hkeyword, ← List.map_drop, groupParts_relined]

theorem visible_relined (f : ℕ → ℕ) (ts : List Token) :
    visible (ts.map (Token.relined f)) = (visible ts).map (Token.relined f) := List.filter_map

theorem flatten_relined (f : ℕ → ℕ) (ts : List Token) : flatten (ts.map (Token.relined f)) = flatten ts := by
  rw [flatten, flatten, visible_relined, List.map_map]
  rfl

/-- No rule looks at lines. -/
theorem rules_relined (f : ℕ → ℕ) :
    ∀ rule ∈ Owner.rules, ∀ flat stmt, rule flat (stmt.map (Token.relined f)) = rule flat stmt := by
  simp only [Owner.rules, List.forall_mem_cons]
  refine ⟨fun flat stmt => ?_, fun flat stmt => ?_, fun _ _ => rfl, fun _ _ => rfl, fun _ _ => rfl, fun flat stmt => ?_,
    fun flat stmt => ?_, fun _ _ => rfl, fun flat stmt => ?_, fun _ _ => rfl, fun _ _ => rfl, fun _ _ => rfl,
    fun _ _ => rfl, fun _ _ => rfl, fun _ _ => rfl, fun _ _ => rfl, fun _ _ => rfl, fun _ _ => rfl, fun _ _ => rfl,
    fun _ _ => rfl, fun _ _ => rfl, by simp⟩
  · rw [Owner.event?, Owner.event?, flatten_relined]
  · rw [Owner.branch?, Owner.branch?, parenthesised_relined]
  · rw [Owner.forLoop?, Owner.forLoop?, parenthesised_relined]
  · rw [Owner.whileLoop?, Owner.whileLoop?, parenthesised_relined]
  · rw [Owner.switch?, Owner.switch?, parenthesised_relined]

theorem ofStatement_relined (f : ℕ → ℕ) (ts : List Token) :
    Owner.ofStatement (ts.map (Token.relined f)) = Owner.ofStatement ts := by
  have hflat : flattenBlanked (ts.map (Token.relined f)) = flattenBlanked ts := by
    rw [flattenBlanked, flattenBlanked, visible_relined, List.map_map]
    rfl
  have hfind (flat : List Char) {rs : List Owner.Rule} (h : ∀ rule ∈ rs, rule ∈ Owner.rules) :
      (rs.findSome? fun rule => rule flat (ts.map (Token.relined f))) = rs.findSome? fun rule => rule flat ts := by
    induction rs with
    | nil => rfl
    | cons rule rs ih =>
      rw [List.findSome?_cons, List.findSome?_cons, rules_relined f rule (h rule List.mem_cons_self),
        ih fun r hr => h r (List.mem_cons_of_mem rule hr)]
  rw [Owner.ofStatement, Owner.ofStatement, hflat, hfind _ fun _ hr => hr]

theorem eq_map_of_forall₂ {α β : Type} {f : α → β} {xs : List α} {ys : List β} (h : List.Forall₂ (fun x y => y = f x) xs ys) :
    ys = xs.map f := by
  induction h with
  | nil => rfl
  | cons hread _ ih => rw [List.map_cons, hread, ih]

theorem alike_of_relined {f : ℕ → ℕ} {t u : Token} (h : u = t.relined f) : t.Alike u := by
  rw [h]
  exact ⟨rfl, fun _ => rfl⟩

theorem classify_relined {f : ℕ → ℕ} {ts us : List Token} (h : List.Forall₂ (fun t u => u = t.relined f) ts us) :
    Owner.classify ts = Owner.classify us := by
  have hpending : pending us = (pending ts).map (Token.relined f) := eq_map_of_forall₂ (pending_alike alike_of_relined h)
  rw [Owner.classify, Owner.classify, hpending, ofStatement_relined]

/-- New lines for the tokens of a source are new lines for its blocks. -/
def relining (f : ℕ → ℕ) : Likeness where
  owner := Eq
  token t u := u = t.relined f
  line m n := n = f m
  alike := alike_of_relined
  lines h := h ▸ rfl
  owners := classify_relined

theorem Agree.eq_relined {f : ℕ → ℕ} {b c : Block} (h : Agree (relining f) b c) : c = b.relined f := by
  induction b using Block.induction_children generalizing c with
  | h b ih =>
    obtain ⟨howner, htokens, hchildren, hstart, hend, hanchor⟩ := h
    have hbelow : ∀ d ∈ b.children, ∀ c, Agree (relining f) d c → c = d.relined f := fun d hd _ => ih d hd
    have hread := ((List.forall₂_and_left _ _).mpr ⟨hbelow, hchildren⟩).imp fun _ _ h => h.1 _ h.2
    obtain ⟨owner, tokens, children, startLine, endLine, anchor⟩ := c
    rw [relined_eq, Block.mk.injEq]
    exact ⟨howner.symm, eq_map_of_forall₂ htokens, eq_map_of_forall₂ hread, hstart, hend, hanchor.symm⟩

/-! ### Places -/

/-- The tokens of a source with their numbers for lines. -/
def numbered (source : List Token) : List Token := source.mapIdx fun i t => { t with line := i }

/-- The tree of a source in which lines are the numbers of tokens: those of the tokens in it, and those of the braces
of its blocks. -/
def places (source : List Token) : Block := ofTokens (numbered source)

/-- The line of the token with a number. -/
def lineAt (source : List Token) (i : ℕ) : ℕ := ((source[i]?).map Token.line).getD 0

theorem numbered_snoc (source : List Token) (t : Token) :
    numbered (source ++ [t]) = numbered source ++ [{ t with line := source.length }] := List.mapIdx_concat

theorem numbered_relined (source : List Token) : (numbered source).map (Token.relined (lineAt source)) = source := by
  refine List.ext_getElem? fun i => ?_
  rw [List.getElem?_map, numbered, List.getElem?_mapIdx]
  cases h : source[i]? with
  | none => rfl
  | some t => simp [Token.relined, lineAt, h]

theorem numbered_lines (source : List Token) : (numbered source).map Token.line = List.range source.length := by
  refine List.ext_getElem? fun i => ?_
  rw [List.getElem?_map, numbered, List.getElem?_mapIdx]
  cases h : source[i]? with
  | none => simpa using h
  | some t => simp [List.getElem?_range (List.getElem?_eq_some_iff.mp h).1]

theorem ofTokens_fields (source : List Token) : (ofTokens source).owner = .root ∧ (ofTokens source).startLine = 1 ∧
    (ofTokens source).endLine = lastLine source ∧ (ofTokens source).anchor = 0 := by
  rw [ofTokens_eq_fill]
  exact ⟨fill_owner _ _, fill_startLine _ _, rfl, fill_anchor _ _⟩

/-- The tree of a source has the lines of the tokens at its places. -/
theorem ofTokens_eq_relined (source : List Token) : ofTokens source =
    { (places source).relined (lineAt source) with startLine := 1, endLine := lastLine source } := by
  have hread : List.Forall₂ (relining (lineAt source)).token (numbered source) source := by
    have hlines : List.Forall₂ (relining (lineAt source)).token (numbered source)
        ((numbered source).map (Token.relined (lineAt source))) :=
      List.forall₂_map_right_iff.mpr (List.forall₂_same.mpr fun _ _ => rfl)
    rwa [numbered_relined] at hlines
  obtain ⟨htokens, hchildren⟩ := ofTokens_agree hread
  have hblocks := eq_map_of_forall₂ (hchildren.imp fun _ _ h => h.eq_relined)
  obtain ⟨howner, hstart, hend, hanchor⟩ := ofTokens_fields source
  obtain ⟨howner', -, -, hanchor'⟩ := ofTokens_fields (numbered source)
  rw [relined_eq, places]
  generalize ofTokens source = b at *
  obtain ⟨owner, tokens, children, startLine, endLine, anchor⟩ := b
  rw [Block.mk.injEq]
  exact ⟨howner.trans howner'.symm, eq_map_of_forall₂ htokens, hblocks, hstart, hend, hanchor.trans hanchor'.symm⟩

end Block
end FlowSketch
