import FlowSketch.Proofs.LiteralSteps
import FlowSketch.Proofs.StatementEnds

/-!
# Blocks of token lists that are alike

Where statements end and which constructs they begin depends on the kinds of tokens, and on the values of those that are
no strings; the inside of strings counts for event subscriptions alone. So token lists that are alike have trees of one
shape, and new lines for the tokens of a source are new lines for its blocks.
-/
namespace FlowSketch

/-! ### Tokens -/

/-- Tokens of one kind, and of one value unless they are strings. -/
def Token.Alike (t u : Token) : Prop := t.kind = u.kind ∧ (t.kind ≠ .string → t.value = u.value)

namespace Token
variable {t u : Token}

theorem Alike.isNewline_eq (h : t.Alike u) : t.isNewline = u.isNewline := by rw [isNewline, isNewline, h.1]

theorem Alike.isPunctuation_eq (h : t.Alike u) (value : String) : t.isPunctuation value = u.isPunctuation value := by
  grind [isPunctuation, Alike]

theorem Alike.isOperator_eq (h : t.Alike u) (value : String) : t.isOperator value = u.isOperator value := by
  grind [isOperator, Alike]

theorem Alike.isCaseWord_eq (h : t.Alike u) : t.isCaseWord = u.isCaseWord := by
  grind [isCaseWord, isKeyword, Alike]

theorem Alike.blankedText_eq (h : t.Alike u) : BraceStatement.blankedText t = BraceStatement.blankedText u := by
  grind [BraceStatement.blankedText, text, Alike]

end Token

/-! ### Statements -/

namespace BraceStatement
variable {R : Token → Token → Prop} {ts us : List Token}

theorem closesCase_alike (hR : ∀ {t u}, R t u → t.Alike u) (h : List.Forall₂ R ts us) : closesCase ts = closesCase us := by
  induction h with
  | nil => rfl
  | cons hread _ ih =>
    have halike := hR hread
    rw [closesCase, closesCase, ih, halike.isNewline_eq, halike.isCaseWord_eq, Token.isSemicolon, Token.isSemicolon,
      halike.isPunctuation_eq]

theorem terminates_alike (hR : ∀ {t u}, R t u → t.Alike u) (h : List.Forall₂ R ts us) {t u : Token} (ht : R t u)
    (seen : Bool) : terminates seen ts t = terminates seen us u := by
  have halike := hR ht
  rw [terminates, terminates, closesCase_alike hR h, halike.isNewline_eq, halike.isOperator_eq, Token.isSemicolon,
    Token.isSemicolon, halike.isPunctuation_eq]

theorem depthBefore_alike {t u : Token} (h : t.Alike u) (depth : ℕ) : depthBefore t depth = depthBefore u depth := by
  rw [depthBefore, depthBefore, Token.isClose, Token.isClose, Token.isOpen, Token.isOpen, h.isPunctuation_eq,
    h.isPunctuation_eq]

theorem completeBefore_alike (hR : ∀ {t u}, R t u → t.Alike u) (h : List.Forall₂ R ts us) (depth : ℕ) (seen : Bool) :
    List.Forall₂ R (completeBefore depth seen ts) (completeBefore depth seen us) := by
  induction h generalizing depth seen with
  | nil => exact .nil
  | cons hread hrest ih =>
    have halike := hR hread
    rw [completeBefore_cons, completeBefore_cons, terminates_alike hR hrest hread, depthBefore_alike halike,
      halike.isNewline_eq]
    split
    · exact .cons hread hrest
    · exact ih _ _

/-- Where the last statement ends does not depend on the inside of strings. -/
theorem complete_alike (hR : ∀ {t u}, R t u → t.Alike u) (h : List.Forall₂ R ts us) :
    List.Forall₂ R (complete ts) (complete us) := by
  rw [complete, complete, List.forall₂_reverse_iff]
  exact completeBefore_alike hR (List.forall₂_reverse_iff.mpr h) 0 false

theorem pending_alike (hR : ∀ {t u}, R t u → t.Alike u) (h : List.Forall₂ R ts us) :
    List.Forall₂ R (pending ts) (pending us) := by
  rw [pending, pending, (complete_alike hR h).length_eq]
  exact List.forall₂_drop _ h

theorem flattenBlanked_alike (h : List.Forall₂ Token.Alike ts us) : flattenBlanked ts = flattenBlanked us := by
  have hparts : (visible ts).map blankedText = (visible us).map blankedText := by
    induction h with
    | nil => rfl
    | cons halike _ ih =>
      rw [visible, visible] at ih ⊢
      simp only [List.filter_cons, halike.isNewline_eq]
      split
      · rw [List.map_cons, List.map_cons, ih, halike.blankedText_eq]
      · exact ih
  rw [flattenBlanked, flattenBlanked, hparts]

end BraceStatement

/-! ### Owners -/

namespace Owner
open BraceStatement

/-- All rules but the one for events take the kind of their owner from the text with empty strings. -/
theorem rules_kind : ∀ rule ∈ rules.tail, ∀ flat stmt stmt', (rule flat stmt).map kind = (rule flat stmt').map kind := by
  simp only [rules, List.tail_cons, List.forall_mem_cons]
  refine ⟨fun flat stmt stmt' => ?_, fun _ _ _ => rfl, fun _ _ _ => rfl, fun _ _ _ => rfl, fun flat stmt stmt' => ?_,
    fun flat stmt stmt' => ?_, fun _ _ _ => rfl, fun flat stmt stmt' => ?_, fun _ _ _ => rfl, fun _ _ _ => rfl,
    fun _ _ _ => rfl, fun _ _ _ => rfl, fun _ _ _ => rfl, fun _ _ _ => rfl, fun _ _ _ => rfl, fun _ _ _ => rfl,
    fun _ _ _ => rfl, fun _ _ _ => rfl, fun _ _ _ => rfl, fun _ _ _ => rfl, by simp⟩
  · rw [branch?, branch?]
    split
    · simp only
      split <;> rfl
    · rfl
  · rw [forLoop?, forLoop?]
    split <;> rfl
  · rw [whileLoop?, whileLoop?]
    split <;> rfl
  · rw [switch?, switch?]
    split <;> rfl

theorem event?_kind {flat : List Char} {stmt : List Token} {owner : Owner} (h : event? flat stmt = some owner) :
    owner.kind = "on-event" := by
  rw [event?] at h
  obtain ⟨m, -, hm⟩ := Option.bind_eq_some_iff.mp h
  cases hm
  rfl

theorem findSome?_kind {rs : List Rule}
    (h : ∀ rule ∈ rs, ∀ flat stmt stmt', (rule flat stmt).map kind = (rule flat stmt').map kind) (flat : List Char)
    (stmt stmt' : List Token) :
    (rs.findSome? fun rule => rule flat stmt).map kind = (rs.findSome? fun rule => rule flat stmt').map kind := by
  induction rs with
  | nil => rfl
  | cons rule rs ih =>
    have hrule := h rule List.mem_cons_self flat stmt stmt'
    have hrest := ih fun r hr => h r (List.mem_cons_of_mem rule hr)
    rw [List.findSome?_cons, List.findSome?_cons]
    cases hs : rule flat stmt <;> cases hs' : rule flat stmt' <;> simp_all

/-- Without the rule for events, the kind of an owner comes from the text with empty strings. -/
theorem ofStatement_kind {stmt : List Token} (h : (ofStatement stmt).kind ≠ "on-event") :
    (ofStatement stmt).kind =
      ((rules.tail.findSome? fun rule => rule (flattenBlanked stmt).toList []).map kind).getD object.kind := by
  have hrules : rules = event? :: rules.tail := rfl
  have hevent : event? (flattenBlanked stmt).toList stmt = none := by
    by_contra hsome
    obtain ⟨owner, howner⟩ := Option.ne_none_iff_exists'.mp hsome
    refine h ?_
    rw [ofStatement, hrules, List.findSome?_cons, howner]
    exact event?_kind howner
  have hrest : ofStatement stmt = (rules.tail.findSome? fun rule => rule (flattenBlanked stmt).toList stmt).getD object := by
    rw [ofStatement, hrules, List.findSome?_cons, hevent, List.tail_cons]
  rw [hrest, findSome?_kind rules_kind _ [] stmt, Option.getD_map]

/-- The kind of an owner depends on the inside of strings only where an event is among the two owners. -/
theorem classify_kind {before before' : List Token} (h : List.Forall₂ Token.Alike before before')
    (hne : (classify before).kind ≠ "on-event") (hne' : (classify before').kind ≠ "on-event") :
    (classify before).kind = (classify before').kind := by
  rw [classify] at hne hne' ⊢
  rw [classify, ofStatement_kind hne, ofStatement_kind hne', flattenBlanked_alike (pending_alike id h)]

end Owner

/-! ### Trees -/

namespace Block
open BraceStatement

/-- What is asked of the blocks of two trees, given tokens that are alike. -/
structure Likeness where
  owner : Owner → Owner → Prop
  token : Token → Token → Prop
  line : ℕ → ℕ → Prop
  alike : ∀ {t u}, token t u → t.Alike u
  lines : ∀ {t u}, token t u → line t.line u.line
  owners : ∀ {ts us}, List.Forall₂ token ts us → owner (Owner.classify ts) (Owner.classify us)

/-- Trees of one shape whose blocks are like each other. -/
inductive Agree (R : Likeness) : Block → Block → Prop where
  | intro {b c : Block} (owner : R.owner b.owner c.owner) (tokens : List.Forall₂ R.token b.tokens c.tokens)
      (children : List.Forall₂ (Agree R) b.children c.children) (startLine : R.line b.startLine c.startLine)
      (endLine : R.line b.endLine c.endLine) (anchor : b.anchor = c.anchor) : Agree R b c

/-- The tokens and the children of two blocks agree. -/
structure AgreeInside (R : Likeness) (b c : Block) : Prop where
  tokens : List.Forall₂ R.token b.tokens c.tokens
  children : List.Forall₂ (Agree R) b.children c.children

inductive Piece.Agree (R : Likeness) : Piece → Piece → Prop where
  | token {t u : Token} (h : R.token t u) : Agree R (.token t) (.token u)
  | braces {openLine openLine' closeLine closeLine' : ℕ} {inner inner' : List Piece} (opened : R.line openLine openLine')
      (closed : R.line closeLine closeLine') (inside : List.Forall₂ (Agree R) inner inner') :
      Agree R (.braces openLine closeLine inner) (.braces openLine' closeLine' inner')

structure Nesting.Agree (R : Likeness) (n m : Nesting) : Prop where
  current : List.Forall₂ (Piece.Agree R) n.current m.current
  around : List.Forall₂ (fun a b => List.Forall₂ (Piece.Agree R) a.1 b.1 ∧ R.line a.2 b.2) n.around m.around

variable {R : Likeness}

theorem Nesting.Agree.step {n m : Nesting} {t u : Token} (h : Nesting.Agree R n m) (ht : R.token t u) :
    Nesting.Agree R (n.step t) (m.step u) := by
  obtain ⟨ns, nsAround⟩ := n
  obtain ⟨ms, msAround⟩ := m
  obtain ⟨hcurrent, haround⟩ := h
  have hopens : t.opens = u.opens := (R.alike ht).isPunctuation_eq _
  have hcloses : t.closes = u.closes := (R.alike ht).isPunctuation_eq _
  rw [Nesting.step, Nesting.step, hopens, hcloses]
  split
  · exact ⟨.nil, .cons ⟨hcurrent, R.lines ht⟩ haround⟩
  split
  · cases haround with
    | nil => exact ⟨hcurrent, .nil⟩
    | cons hbefore haround =>
      exact ⟨List.rel_append hbefore.1 (.cons (.braces hbefore.2 (R.lines ht) hcurrent) .nil), haround⟩
  · exact ⟨List.rel_append hcurrent (.cons (.token ht) .nil), haround⟩

theorem Nesting.Agree.root {n m : Nesting} (h : Nesting.Agree R n m) : List.Forall₂ (Piece.Agree R) n.root m.root := by
  obtain ⟨ns, nsAround⟩ := n
  obtain ⟨ms, msAround⟩ := m
  obtain ⟨hcurrent, haround⟩ := h
  rw [Nesting.root, Nesting.root]
  dsimp only at haround ⊢
  induction haround generalizing ns ms with
  | nil => exact hcurrent
  | cons hbefore _ ih => exact ih _ _ (List.rel_append hbefore.1 (.cons (.braces hbefore.2 hbefore.2 hcurrent) .nil))

theorem pieces_agree {ts us : List Token} (h : List.Forall₂ R.token ts us) :
    List.Forall₂ (Piece.Agree R) (pieces ts) (pieces us) := by
  -- the nestings agree at every token, so the pieces agree in the end
  suffices ∀ n m, Nesting.Agree R n m → Nesting.Agree R (ts.foldl Nesting.step n) (us.foldl Nesting.step m) from
    (this _ _ ⟨.nil, .nil⟩).root
  induction h with
  | nil => exact fun _ _ hn => hn
  | cons ht _ ih => exact fun n m hn => ih _ _ (hn.step ht)

mutual

theorem addTo_agree : ∀ {p q : Piece} {b c : Block}, Piece.Agree R p q → AgreeInside R b c →
    AgreeInside R (p.addTo b) (q.addTo c)
  | .token t, _, b, c, .token ht, h => ⟨List.rel_append h.tokens (.cons ht .nil), h.children⟩
  | .braces openLine closeLine inner, .braces openLine' closeLine' inner', b, c, .braces hopen hclose hinner, h => by
    have hcut := complete_alike R.alike h.tokens
    have hchild := fill_agree (b := Block.opened b.tokens openLine) (c := Block.opened c.tokens openLine') hinner
      ⟨.nil, .nil⟩
    refine ⟨hcut, List.rel_append h.children (.cons (.intro ?_ hchild.tokens hchild.children ?_ hclose ?_) .nil)⟩
    · simp only [fill_owner]
      exact R.owners h.tokens
    · simp only [fill_startLine]
      exact hopen
    · simp only [fill_anchor]
      exact hcut.length_eq

theorem fill_agree : ∀ {ps qs : List Piece} {b c : Block}, List.Forall₂ (Piece.Agree R) ps qs → AgreeInside R b c →
    AgreeInside R (fill b ps) (fill c qs)
  | [], _, _, _, .nil, h => h
  | _ :: _, _ :: _, _, _, .cons hp hps, h => by
    rw [fill, fill]
    exact fill_agree hps (addTo_agree hp h)

end

/-- Token lists that are alike have trees that agree. -/
theorem ofTokens_agree {ts us : List Token} (h : List.Forall₂ R.token ts us) :
    AgreeInside R (ofTokens ts) (ofTokens us) := by
  rw [ofTokens_eq_fill, ofTokens_eq_fill]
  have hfill := fill_agree (b := Open.initial.current) (c := Open.initial.current) (pieces_agree h) ⟨.nil, .nil⟩
  exact ⟨hfill.tokens, hfill.children⟩

end Block
end FlowSketch
