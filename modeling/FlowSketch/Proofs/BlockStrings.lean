import FlowSketch.Proofs.BlockPlaces

/-!
# Strings do not shape blocks

Two sources that differ in the inside of strings alone have blocks at the same places, of the same kinds, and with the
same tokens. Only the names of events are read from strings, so this holds where no event is among the owners.
-/
namespace FlowSketch

/-- Tokens on one line that differ in the inside of a string at most. -/
def Token.SameCode (t u : Token) : Prop := t.Alike u ∧ t.line = u.line

instance (t u : Token) : Decidable (t.SameCode u) :=
  inferInstanceAs (Decidable ((t.kind = u.kind ∧ (t.kind ≠ .string → t.value = u.value)) ∧ t.line = u.line))

namespace Block

/-- No block is there for an event. -/
def Eventless (b : Block) : Prop := ∀ c ∈ b.preorder, c.owner.kind ≠ "on-event"

instance (b : Block) : Decidable b.Eventless := inferInstanceAs (Decidable (∀ c ∈ b.preorder, c.owner.kind ≠ "on-event"))

/-- Trees of one shape, with blocks of the same kinds on the same lines, at the same anchors, and with tokens on the same
lines. -/
inductive SameBlocks : Block → Block → Prop where
  | intro {b c : Block} (kind : b.owner.kind = c.owner.kind) (startLine : b.startLine = c.startLine)
      (endLine : b.endLine = c.endLine) (anchor : b.anchor = c.anchor)
      (tokens : b.tokens.map Token.line = c.tokens.map Token.line)
      (children : List.Forall₂ SameBlocks b.children c.children) : SameBlocks b c

theorem Eventless.child {b c : Block} (h : Eventless b) (hc : c ∈ b.children) : Eventless c := by
  intro d hd
  rw [Eventless, preorder_eq] at h
  exact h d (List.mem_cons_of_mem b (mem_forest.mpr ⟨c, hc, hd⟩))

theorem Eventless.owner {b : Block} (h : Eventless b) : b.owner.kind ≠ "on-event" :=
  h b (preorder_eq b ▸ List.mem_cons_self)

/-- Blocks are of one kind unless an event is among their owners. -/
def upToStrings : Likeness where
  owner o o' := o.kind ≠ "on-event" → o'.kind ≠ "on-event" → o.kind = o'.kind
  token := Token.SameCode
  line := Eq
  alike h := h.1
  lines h := h.2
  owners h := Owner.classify_kind (h.imp fun _ _ h => h.1)

theorem map_line_of_sameCode {ts us : List Token} (h : List.Forall₂ Token.SameCode ts us) :
    ts.map Token.line = us.map Token.line := by
  induction h with
  | nil => rfl
  | cons hread _ ih => rw [List.map_cons, List.map_cons, hread.2, ih]

theorem sameBlocks_of_agree {b c : Block} (h : Agree upToStrings b c) (hb : Eventless b) (hc : Eventless c) :
    SameBlocks b c := by
  induction b using Block.induction_children generalizing c with
  | h b ih =>
    obtain ⟨howner, htokens, hchildren, hstart, hend, hanchor⟩ := h
    refine ⟨howner hb.owner hc.owner, hstart, hend, hanchor, map_line_of_sameCode htokens, ?_⟩
    rw [List.forall₂_iff_get] at hchildren ⊢
    refine ⟨hchildren.1, fun i hi hi' => ?_⟩
    exact ih _ (List.get_mem _ _) (hchildren.2 i hi hi') (hb.child (List.get_mem _ _)) (hc.child (List.get_mem _ _))

theorem lastLine_sameCode {ts us : List Token} (h : List.Forall₂ Token.SameCode ts us) : lastLine ts = lastLine us := by
  rw [lastLine, lastLine, ← List.getLast?_map, ← List.getLast?_map, map_line_of_sameCode h]

theorem ofTokens_sameBlocks {ts us : List Token} (h : List.Forall₂ Token.SameCode ts us) (hts : Eventless (ofTokens ts))
    (hus : Eventless (ofTokens us)) : SameBlocks (ofTokens ts) (ofTokens us) := by
  have hinside : AgreeInside upToStrings (ofTokens ts) (ofTokens us) := ofTokens_agree h
  obtain ⟨howner, hstart, hend, hanchor⟩ := ofTokens_fields ts
  obtain ⟨howner', hstart', hend', hanchor'⟩ := ofTokens_fields us
  have hlast : (ofTokens ts).endLine = (ofTokens us).endLine := by rw [hend, hend', lastLine_sameCode h]
  have hroot : Agree upToStrings (ofTokens ts) (ofTokens us) :=
    .intro (fun _ _ => by rw [howner, howner']) hinside.tokens hinside.children (hstart.trans hstart'.symm) hlast
      (hanchor.trans hanchor'.symm)
  exact sameBlocks_of_agree hroot hts hus

/-! ### Places -/

theorem forest_map_owner_relined (f : ℕ → ℕ) {bs : List Block}
    (h : ∀ b ∈ bs, (b.relined f).preorder.map owner = b.preorder.map owner) :
    (forest (bs.map (relined f))).map owner = (forest bs).map owner := by
  induction bs with
  | nil => rfl
  | cons b bs ih =>
    rw [List.map_cons, forest, forest, List.map_append, List.map_append, h b List.mem_cons_self,
      ih fun c hc => h c (List.mem_cons_of_mem b hc)]

theorem preorder_map_owner_relined (f : ℕ → ℕ) (b : Block) : (b.relined f).preorder.map owner = b.preorder.map owner := by
  induction b using Block.induction_children with
  | h b ih =>
    rw [relined_eq, preorder_eq, preorder_eq b, List.map_cons, List.map_cons, forest_map_owner_relined f ih]

/-- A tree and the tree of its places have the same owners. -/
theorem places_map_owner (source : List Token) :
    (places source).preorder.map owner = (ofTokens source).preorder.map owner := by
  rw [ofTokens_eq_relined, ← preorder_map_owner_relined (lineAt source), preorder_eq, preorder_eq ⟨_, _, _, _, _, _⟩,
    List.map_cons, List.map_cons]

theorem Eventless.places {source : List Token} (h : Eventless (ofTokens source)) : Eventless (places source) := by
  intro b hb
  obtain ⟨c, hc, howner⟩ := List.mem_map.mp (places_map_owner source ▸ List.mem_map_of_mem hb)
  exact howner ▸ h c hc

theorem numbered_sameCode {ts us : List Token} (h : List.Forall₂ Token.SameCode ts us) :
    List.Forall₂ Token.SameCode (numbered ts) (numbered us) := by
  rw [List.forall₂_iff_get] at h ⊢
  simp only [numbered, List.length_mapIdx, List.get_eq_getElem, List.getElem_mapIdx] at h ⊢
  exact ⟨h.1, fun i hi hi' => ⟨(h.2 i hi hi').1, rfl⟩⟩

/-- What stands in strings does not shape the tree: the trees are alike, and so are those of their places, where the lines
of tokens are their numbers in the source. -/
theorem strings_do_not_shape_blocks {ts us : List Token} (h : List.Forall₂ Token.SameCode ts us)
    (hts : Eventless (ofTokens ts)) (hus : Eventless (ofTokens us)) :
    SameBlocks (ofTokens ts) (ofTokens us) ∧ SameBlocks (places ts) (places us) :=
  ⟨ofTokens_sameBlocks h hts hus, ofTokens_sameBlocks (numbered_sameCode h) hts.places hus.places⟩

/-- Braces, keywords and whole headers in strings. -/
theorem strings_like_code_do_not_shape_blocks :
    SameBlocks (ofTokens (BraceLexer.tokens "f('a', q => \x7b\n if (q == 'x') \x7b g(); \x7d \x7d);"))
        (ofTokens (BraceLexer.tokens "f('\x7d', q => \x7b\n if (q == 'for (;;) \x7b') \x7b g(); \x7d \x7d);")) ∧
      SameBlocks (places (BraceLexer.tokens "f('a', q => \x7b\n if (q == 'x') \x7b g(); \x7d \x7d);"))
        (places (BraceLexer.tokens "f('\x7d', q => \x7b\n if (q == 'for (;;) \x7b') \x7b g(); \x7d \x7d);")) :=
  strings_do_not_shape_blocks (by decide +kernel) (by decide +kernel) (by decide +kernel)

end Block
end FlowSketch
