import FlowSketch.BraceBlock
import FlowSketch.BraceLexer
import FlowSketch.Proofs.StatementEnds

/-!
# Blocks in print

A tree of statements and blocks is printed with its braces and read back. Behind complete statements a header is all
that is pending when its brace opens, so that an opening takes nothing from what the parent has and the header alone
says who owns the block.
-/
namespace FlowSketch.Block
open BraceStatement

/-! ### What is printed -/

/-- With `depth` parentheses open, every one is closed by the end and none besides; no semicolon is outside of them. -/
def grouped (depth : ℕ) : List Token → Bool
  | [] => depth = 0
  | t :: ts =>
    if t.isOpen then grouped (depth + 1) ts
    else if t.isClose then 0 < depth && grouped (depth - 1) ts
    else (!t.isSemicolon || 0 < depth) && grouped depth ts

example : grouped 0 (BraceLexer.tokens "for (i = f(0); i < n; i++)") = true := by decide +kernel

/-- Tokens that end in a semicolon. Only the last one matters to the blocks, whatever the parentheses before it. -/
structure Statement where
  tokens : List Token
  noBrace : ∀ t ∈ tokens, t.opens = false ∧ t.closes = false
  ends : ∃ t ∈ tokens.getLast?, t.isSemicolon = true

/-- What stands in front of a brace, which may be nothing. -/
structure Header where
  tokens : List Token
  noBrace : ∀ t ∈ tokens, t.opens = false ∧ t.closes = false
  plain : ∀ t ∈ tokens, t.isNewline = false ∧ t.isCaseWord = false
  grouped : Block.grouped 0 tokens = true

/-- A statement, or a block with the lines of its braces. -/
inductive Entry where
  | statement (s : Statement)
  | block (header : Header) (openLine closeLine : ℕ) (entries : List Entry)

def openBrace (line : ℕ) : Token := ⟨.punctuation, "\x7b", line⟩

def closeBrace (line : ℕ) : Token := ⟨.punctuation, "\x7d", line⟩

mutual

def Entry.print : Entry → List Token
  | .statement s => s.tokens
  | .block header openLine closeLine entries =>
    header.tokens ++ openBrace openLine :: (print entries ++ [closeBrace closeLine])

def print : List Entry → List Token
  | [] => []
  | e :: es => e.print ++ print es

end

/-! ### What is read -/

def Entry.own : Entry → List Token
  | .statement s => s.tokens
  | .block .. => []

/-- The tokens of the statements that are not inside a further block. -/
def own : List Entry → List Token
  | [] => []
  | e :: es => e.own ++ own es

mutual

/-- The block of an entry, with so many tokens of its parent printed before. -/
def Entry.blocks (before : ℕ) : Entry → List Block
  | .statement _ => []
  | .block header openLine closeLine entries =>
    [⟨Owner.classify header.tokens, own entries, blocks 0 entries, openLine, closeLine, before⟩]

def blocks (before : ℕ) : List Entry → List Block
  | [] => []
  | e :: es => e.blocks before ++ blocks (before + e.own.length) es

end

/-! ### Headers behind complete statements -/

/-- No tokens, or tokens that end in a semicolon. -/
def Finished (ts : List Token) : Prop := ∀ t ∈ ts.getLast?, t.isSemicolon = true

theorem finished_nil : Finished [] := by simp [Finished]

theorem Finished.append {xs : List Token} (h : Finished xs) (e : Entry) : Finished (xs ++ e.own) := by
  cases e with
  | block header openLine closeLine entries => simpa [Entry.own] using h
  | statement s =>
    obtain ⟨t, ht, hsemi⟩ := s.ends
    have hlast : (xs ++ s.tokens).getLast? = some t := by
      rw [List.getLast?_append, ht]
      rfl
    intro u hu
    rw [Entry.own, hlast] at hu
    obtain rfl := Option.some.inj hu
    exact hsemi

theorem unopened_grouped {ts : List Token} {depth : ℕ} (h : grouped depth ts = true) : unopened ts = depth := by
  induction ts generalizing depth with
  | nil => simpa [grouped, unopened, eq_comm] using h
  | cons t ts ih =>
    rw [grouped] at h
    rw [unopened, depthBefore]
    split at h
    · rename_i hopen
      have hclose : t.isClose = false := values_disjoint (by decide) hopen
      simp [hopen, hclose, ih h]
    · rename_i hopen
      split at h
      · rename_i hclose
        obtain ⟨hpos, hrest⟩ := Bool.and_eq_true_iff.mp h
        have hdepth : 0 < depth := by simpa using hpos
        rw [if_pos hclose, ih hrest]
        omega
      · rename_i hclose
        rw [if_neg hclose, if_neg hopen, ih (Bool.and_eq_true_iff.mp h).2]

theorem grouped_suffix {before ts : List Token} {depth : ℕ} (h : grouped depth (before ++ ts) = true) :
    ∃ inner, grouped inner ts = true := by
  induction before generalizing depth with
  | nil => exact ⟨depth, h⟩
  | cons t before ih =>
    rw [List.cons_append, grouped] at h
    split at h
    · exact ih h
    · split at h
      · exact ih (Bool.and_eq_true_iff.mp h).2
      · exact ih (Bool.and_eq_true_iff.mp h).2

/-- What follows a semicolon closes a parenthesis around it. -/
theorem grouped_semicolon {before after : List Token} {t : Token} {depth : ℕ}
    (h : grouped depth (before ++ t :: after) = true) (ht : t.isSemicolon = true) : ¬ SelfContained after := by
  obtain ⟨inner, hinner⟩ := grouped_suffix h
  have hopen : t.isOpen = false := values_disjoint (by decide) ht
  have hclose : t.isClose = false := values_disjoint (by decide) ht
  have hin : 0 < inner ∧ grouped inner after = true := by
    simpa [grouped, hopen, hclose, ht] using hinner
  rw [← unopened_eq_zero, unopened_grouped hin.2]
  omega

theorem closesCase_append {xs ys : List Token} (hx : ∀ t ∈ xs, t.isCaseWord = false)
    (hy : closesCase ys = false) : closesCase (xs ++ ys) = false := by
  induction xs with
  | nil => exact hy
  | cons t xs ih =>
    rw [List.cons_append, closesCase, hx t (by simp), ih fun u hu => hx u (by simp [hu])]
    simp

theorem Finished.closesCase {ts : List Token} (h : Finished ts) : closesCase ts.reverse = false := by
  cases hr : ts.reverse with
  | nil => rfl
  | cons t earlier =>
    have hsemi : t.isSemicolon = true := h t (by rw [← List.head?_reverse, hr]; rfl)
    simp [BraceStatement.closesCase, hsemi]

/-- Nothing in a header ends a statement. -/
theorem Header.not_endsBetween (h : Header) {kept : List Token} (hk : Finished kept) :
    ¬ EndsBetween kept h.tokens [] := by
  rintro ⟨before, t, after, htokens, hself, hstop⟩
  rw [List.append_nil] at hself
  have hgrouped := h.grouped
  rw [htokens] at hgrouped
  have hsemi : t.isSemicolon = false := by
    by_contra hsemi
    exact grouped_semicolon hgrouped (by simpa using hsemi) hself
  -- A colon looks back past the header only as far as the semicolon that ends what is kept.
  have hcase : BraceStatement.closesCase (before.reverse ++ kept.reverse) = false :=
    closesCase_append (fun u hu => (h.plain u (by simp_all)).2) hk.closesCase
  have hline : t.isNewline = false := (h.plain t (by simp [htokens])).1
  simp [terminates, hline, hsemi, hcase] at hstop

/-- A header behind complete statements is cut off whole, and they stay. -/
theorem Header.complete_append (h : Header) {kept : List Token} (hk : Finished kept) :
    complete (kept ++ h.tokens) = kept := by
  have hscan := (completeBefore_append kept h.tokens []).2 (h.not_endsBetween hk)
  have hdepth : unopened (h.tokens ++ []) = 0 := by rw [List.append_nil, unopened_grouped h.grouped]
  rw [hdepth] at hscan
  change completeBefore 0 false _ = _ at hscan
  rw [complete, hscan]
  cases hr : kept.reverse with
  | nil => simp [completeBefore, List.reverse_eq_nil_iff.mp hr]
  | cons t earlier =>
    have hsemi : t.isSemicolon = true := hk t (by rw [← List.head?_reverse, hr]; rfl)
    have hline : t.isNewline = false := by
      by_contra hline
      rw [Bool.not_eq_false] at hline
      exact absurd hsemi (by simp [Token.isSemicolon, kinds_disjoint hline])
    rw [completeBefore_cons, if_pos (by simp [terminates, hline, hsemi]), ← hr, List.reverse_reverse]

theorem Header.pending_append (h : Header) {kept : List Token} (hk : Finished kept) :
    pending (kept ++ h.tokens) = h.tokens := by
  rw [pending, h.complete_append hk, List.drop_left]

/-- The statements before a header have no say in who owns its block. -/
theorem Header.classify_append (h : Header) {kept : List Token} (hk : Finished kept) :
    Owner.classify (kept ++ h.tokens) = Owner.classify h.tokens := by
  have halone : pending h.tokens = h.tokens := h.pending_append finished_nil
  rw [Owner.classify, Owner.classify, h.pending_append hk, halone]

/-! ### Reading back -/

/-- More tokens and more children in the block that is being read. -/
def Open.extend (s : Open) (tokens : List Token) (children : List Block) : Open :=
  { s with current := { s.current with
      tokens := s.current.tokens ++ tokens, children := s.current.children ++ children } }

theorem Open.extend_nil (s : Open) : s.extend [] [] = s := by
  obtain ⟨⟨owner, tokens, children, startLine, endLine, anchor⟩, around⟩ := s
  simp [Open.extend]

theorem Open.extend_extend (s : Open) (xs ys : List Token) (bs cs : List Block) :
    (s.extend xs bs).extend ys cs = s.extend (xs ++ ys) (bs ++ cs) := by
  simp [Open.extend]

theorem foldl_step_tokens (s : Open) {ts : List Token} (h : ∀ t ∈ ts, t.opens = false ∧ t.closes = false) :
    ts.foldl Open.step s = s.extend ts [] := by
  induction ts generalizing s with
  | nil => exact s.extend_nil.symm
  | cons t ts ih =>
    have hstep : s.step t = s.extend [t] [] := by
      simp [Open.step, h t (by simp), Open.extend, addToken]
    rw [List.foldl_cons, hstep, ih _ fun u hu => h u (by simp [hu]), Open.extend_extend]
    rfl

theorem step_openBrace (s : Open) (line : ℕ) : s.step (openBrace line) = s.enter line := rfl

theorem step_closeBrace (s : Open) (line : ℕ) : s.step (closeBrace line) = s.leave line := rfl

/-- The brace behind a header opens a block at the end of what the parent has. -/
theorem Header.enter (h : Header) {s : Open} (hs : Finished s.current.tokens) (line : ℕ) :
    (s.extend h.tokens []).enter line =
      ⟨⟨Owner.classify h.tokens, [], [], line, line, s.current.tokens.length⟩, s.current :: s.around⟩ := by
  obtain ⟨⟨owner, tokens, children, startLine, endLine, anchor⟩, around⟩ := s
  simp [Open.enter, Open.extend, opened, h.classify_append hs, h.complete_append hs]

mutual

theorem Entry.reads : ∀ (e : Entry) {s : Open}, Finished s.current.tokens →
    e.print.foldl Open.step s = s.extend e.own (e.blocks s.current.tokens.length)
  | .statement st, s, _ => foldl_step_tokens s st.noBrace
  | .block header openLine closeLine entries, s, hs => by
    rw [Entry.print, List.foldl_append, foldl_step_tokens s header.noBrace, List.foldl_cons, step_openBrace,
      header.enter hs, List.foldl_append, entries_read entries finished_nil, List.foldl_cons, List.foldl_nil,
      step_closeBrace]
    simp [Open.leave, Open.extend, addChild, Entry.own, Entry.blocks]

/-- Printed entries add their statements and their blocks to the block around them and leave nothing open. -/
theorem entries_read : ∀ (es : List Entry) {s : Open}, Finished s.current.tokens →
    (print es).foldl Open.step s = s.extend (own es) (blocks s.current.tokens.length es)
  | [], s, _ => s.extend_nil.symm
  | e :: es, s, hs => by
    -- Behind an entry the block that is being read again ends in a semicolon, or has no tokens.
    have hnext : Finished (s.extend e.own (e.blocks s.current.tokens.length)).current.tokens := hs.append e
    rw [print, List.foldl_append, e.reads hs, entries_read es hnext, Open.extend_extend, own, blocks]
    simp [Open.extend]

end

/-- Every tree is read back from its printed tokens. -/
theorem ofTokens_print (es : List Entry) :
    ofTokens (print es) = ⟨.root, own es, blocks 0 es, 1, lastLine (print es), 0⟩ := by
  rw [ofTokens, entries_read es (s := .initial) finished_nil]
  simp [Open.root, Open.extend, Open.initial]

end FlowSketch.Block
