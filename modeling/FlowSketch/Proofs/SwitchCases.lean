import FlowSketch.BraceLexer
import FlowSketch.Proofs.BlockNesting
import FlowSketch.Proofs.BlockParts

/-!
# Blocks in the cases of a switch

The blocks of a switch go into its cases by the place at which they opened, counted in the tokens that the switch had
then. A clause whose keyword is the next token that the switch gets begins at that very place and takes the block.
-/
namespace FlowSketch.BraceFlow
open Block BraceStatement

/-! ### Clauses and their spans -/

/-- A clause begins with its keyword. -/
theorem mem_clausesFrom {index : ℕ} {ts : List Token} {c : Clause} (h : c ∈ (clausesFrom index ts).2) :
    index ≤ c.start ∧ ∃ t, ts[c.start - index]? = some t ∧ t.isCaseWord = true := by
  fun_induction clausesFrom index ts with
  | case1 => simp at h
  | case2 index t ts hword label later ih =>
    rcases List.mem_cons.mp h with rfl | h
    · exact ⟨le_rfl, t, by simp, hword⟩
    · obtain ⟨hle, u, hu, huword⟩ := ih h
      refine ⟨by omega, u, ?_, huword⟩
      rw [List.getElem?_drop] at hu
      obtain ⟨k, hk⟩ : ∃ k, c.start = index + label.length + 2 + k := ⟨_, (Nat.add_sub_cancel' hle).symm⟩
      have hat : c.start - index = (label.length + 1 + k) + 1 := by omega
      have hlater : c.start - (index + label.length + 2) = k := by omega
      rw [hat, List.getElem?_cons_succ]
      rwa [hlater] at hu
  | case3 index t ts hword later ih =>
    obtain ⟨hle, u, hu, huword⟩ := ih h
    refine ⟨by omega, u, ?_, huword⟩
    have hat : c.start - index = (c.start - (index + 1)) + 1 := by omega
    rw [hat, List.getElem?_cons_succ]
    exact hu

theorem clausesFrom_sorted (index : ℕ) (ts : List Token) :
    ((clausesFrom index ts).2.map Clause.start).Pairwise (· < ·) := by
  fun_induction clausesFrom index ts with
  | case1 => exact .nil
  | case2 index t ts hword label later ih =>
    refine List.pairwise_cons.mpr ⟨fun n hn => ?_, ih⟩
    obtain ⟨c, hc, rfl⟩ := List.mem_map.mp hn
    have hlater := (mem_clausesFrom hc).1
    simp only
    omega
  | case3 index t ts hword later ih => exact ih

theorem mem_of_mem_spans {count : ℕ} {cs : List Clause} {s : Clause × ℕ} (h : s ∈ spans count cs) : s.1 ∈ cs := by
  induction cs with
  | nil => simp [spans] at h
  | cons c cs ih =>
    rcases List.mem_cons.mp h with rfl | h
    · exact List.mem_cons_self
    · exact List.mem_cons_of_mem c (ih h)

theorem exists_mem_spans (count : ℕ) {cs : List Clause} {c : Clause} (h : c ∈ cs) : ∃ s ∈ spans count cs, s.1 = c := by
  induction cs with
  | nil => simp at h
  | cons d cs ih =>
    rcases List.mem_cons.mp h with rfl | h
    · exact ⟨_, List.mem_cons_self, rfl⟩
    · obtain ⟨s, hs, rfl⟩ := ih h
      exact ⟨s, List.mem_cons_of_mem _ hs, rfl⟩

/-- A block opened in the span of the last clause that does not begin behind it. -/
theorem isWithin_iff {count : ℕ} {cs : List Clause} (hsorted : (cs.map Clause.start).Pairwise (· < ·))
    (hinside : ∀ c ∈ cs, c.start ≤ count) {s : Clause × ℕ} (hs : s ∈ spans count cs) (b : Block) :
    isWithin s b = true ↔
      b.anchor ≤ count ∧ s.1.start ≤ b.anchor ∧ ∀ c ∈ cs, c.start ≤ b.anchor → c.start ≤ s.1.start := by
  induction cs with
  | nil => simp [spans] at hs
  | cons c cs ih =>
    rw [List.map_cons, List.pairwise_cons] at hsorted
    obtain ⟨hfirst, hrest⟩ := hsorted
    rw [List.forall_mem_map] at hfirst
    rcases List.mem_cons.mp hs with rfl | hs
    · rw [List.forall_mem_cons, and_iff_right fun _ => le_rfl]
      simp only [isWithin, Bool.and_eq_true, decide_eq_true_eq]
      cases cs with
      | nil => simp; omega
      | cons d cs =>
        have hd : d.start ≤ count := hinside d (by simp)
        simp only [List.head?_cons, Option.map_some, Option.getD_some]
        constructor
        · rintro ⟨hstart, hstop⟩
          refine ⟨by omega, hstart, fun e he hle => ?_⟩
          have hde : d.start ≤ e.start := by
            rcases List.mem_cons.mp he with rfl | he
            · exact le_rfl
            · rw [List.map_cons, List.pairwise_cons, List.forall_mem_map] at hrest
              exact (hrest.1 e he).le
          omega
        · rintro ⟨-, hstart, hlast⟩
          refine ⟨hstart, ?_⟩
          by_contra hstop
          have := hlast d (by simp) (by omega)
          have := hfirst d (by simp)
          omega
    · rw [ih hrest (fun d hd => hinside d (List.mem_cons_of_mem c hd)) hs, List.forall_mem_cons,
        and_iff_right fun _ => (hfirst _ (mem_of_mem_spans hs)).le]

theorem spans_unique {count : ℕ} {cs : List Clause} (hsorted : (cs.map Clause.start).Pairwise (· < ·))
    {r s : Clause × ℕ} (hr : r ∈ spans count cs) (hs : s ∈ spans count cs) (h : r.1.start = s.1.start) : r = s := by
  have hstarts : (spans count cs).map (fun s => s.1.start) = cs.map Clause.start := by
    clear hsorted hr hs
    induction cs with
    | nil => rfl
    | cons c cs ih => rw [spans, List.map_cons, List.map_cons, ih]
  exact List.inj_on_of_nodup_map (hstarts ▸ hsorted.imp ne_of_lt) hr hs h

theorem exists_greatest {α : Type} (f : α → ℕ) (p : α → Prop) [DecidablePred p] {l : List α} {x : α} (hx : x ∈ l)
    (hp : p x) : ∃ y ∈ l, p y ∧ ∀ z ∈ l, p z → f z ≤ f y := by
  obtain ⟨y, hy⟩ : ∃ y, (l.filter p).argmax f = some y := by
    rw [← Option.isSome_iff_exists, Option.isSome_iff_ne_none, Ne, List.argmax_eq_none]
    exact List.ne_nil_of_mem (List.mem_filter.mpr ⟨hx, by simpa using hp⟩)
  have hmem := List.argmax_mem hy
  rw [List.mem_filter, decide_eq_true_eq] at hmem
  exact ⟨y, hmem.1, hmem.2, fun z hz hpz => List.le_of_mem_argmax (List.mem_filter.mpr ⟨hz, by simpa using hpz⟩) hy⟩

/-! ### Places in the source -/

/-- The number, among the tokens between the braces of a block, of the token that the block has at an index. -/
def numberAt (ps : List Piece) (i : ℕ) : ℕ := (((numberedTokens ps)[i]?).map Prod.snd).getD 0

/-- The last keyword of a clause among some tokens has this number. -/
def LastKeyword (ts : List Token) (p : ℕ) : Prop :=
  (∃ t, ts[p]? = some t ∧ t.isCaseWord = true) ∧ ∀ q t, ts[q]? = some t → t.isCaseWord = true → q ≤ p

variable {sw b : Block} {ps before : List Piece}

theorem numberAt_eq {i : ℕ} {x : Token × ℕ} (h : (numberedTokens ps)[i]? = some x) : numberAt ps i = x.2 := by
  rw [numberAt, h]
  rfl

theorem numberAt_lt {i j : ℕ} (hij : i < j) (hj : j < (numberedTokens ps).length) : numberAt ps i < numberAt ps j := by
  have hi : i < (numberedTokens ps).length := hij.trans hj
  have hsorted := (numberedTokens_inOrder ps).sorted
  rw [List.pairwise_map, List.pairwise_iff_getElem] at hsorted
  rw [numberAt_eq (List.getElem?_eq_getElem hi), numberAt_eq (List.getElem?_eq_getElem hj)]
  exact hsorted i j hi hj hij

/-- The keyword of a clause is where its number says. -/
theorem clause_keyword (h : FilledBy ps sw) {c : Clause} (hc : c ∈ clausesOf sw) :
    c.start < (numberedTokens ps).length ∧ ∃ t, (level ps)[numberAt ps c.start]? = some t ∧ t.isCaseWord = true := by
  obtain ⟨-, t, ht, hword⟩ := mem_clausesFrom hc
  rw [Nat.sub_zero, h.tokens_eq, List.getElem?_map, Option.map_eq_some_iff] at ht
  obtain ⟨x, hx, rfl⟩ := ht
  refine ⟨(List.getElem?_eq_some_iff.mp hx).1, x.1, ?_, hword⟩
  rw [numberAt_eq hx]
  exact (numberedTokens_inOrder ps).placed x (List.mem_of_getElem? hx)

/-- The keyword of a clause that begins before the block is one of the keywords before the block. -/
theorem clause_keyword_before {p : Piece} {after : List Piece} (h : FilledBy (before ++ p :: after) sw) {c : Clause}
    (hc : c ∈ clausesOf sw) (hbefore : numberAt (before ++ p :: after) c.start < (level before).length) :
    ∃ t, (level before)[numberAt (before ++ p :: after) c.start]? = some t ∧ t.isCaseWord = true := by
  obtain ⟨-, t, ht, hword⟩ := clause_keyword h hc
  have hlevel : level (before ++ p :: after) = level before ++ level (p :: after) := List.filterMap_append
  rw [hlevel, List.getElem?_append_left hbefore] at ht
  exact ⟨t, ht, hword⟩

/-- A token that was read before a block opened stands before the place at which it opened, if it is left. -/
theorem index_lt_anchor {inner after : List Piece} {openLine closeLine : ℕ} {i : ℕ} {x : Token × ℕ}
    (h : FilledBy (before ++ .braces openLine closeLine inner :: after) sw)
    (hb : sw.children[before.countP Piece.isBraces]? = some b)
    (hx : (numberedTokens (before ++ .braces openLine closeLine inner :: after))[i]? = some x)
    (hbefore : x.2 < (level before).length) : i < b.anchor := by
  obtain ⟨-, start, hstart, hanchor⟩ := h.child hb
  have htokens : (fill start before).tokens = (numberedTokens before).map Prod.fst :=
    fill_tokens (by simpa using hstart) 0 before
  obtain ⟨m, later, hsplit, hlater⟩ := remains_split (level before).length ((numberedTokens before).take b.anchor) after
  have hall : numberedTokens (before ++ .braces openLine closeLine inner :: after) =
      ((numberedTokens before).take b.anchor).take m ++ later := by
    rw [← hsplit, hanchor, htokens, numberedTokens, remains_append, remains, Nat.zero_add]
    rfl
  rw [hall] at hx
  by_contra hi
  rw [List.getElem?_append_right (by simp; omega)] at hx
  have := hlater x (List.mem_of_getElem? hx)
  omega

/-! ### The case of a block -/

/-- A block is in exactly one case, the one whose keyword is the last one before its brace; without such a keyword it
is in none. -/
structure InDueCase (sw b : Block) (ps before : List Piece) : Prop where
  only : ∀ s ∈ spans sw.tokens.length (clausesOf sw),
    isWithin s b = true ↔ LastKeyword (level before) (numberAt ps s.1.start)
  given : ∀ p, LastKeyword (level before) p → ∃! s, s ∈ spans sw.tokens.length (clausesOf sw) ∧ isWithin s b = true

/-- The last keyword before a block still begins a clause in what its switch has left, the switch has left as many
tokens as it had when the block opened, and the clauses behind the block begin behind its place; or the switch has fewer
tokens left, and there is no keyword before the block. -/
def Undisturbed (sw b : Block) (ps before : List Piece) : Prop :=
  (b.anchor ≤ sw.tokens.length ∧
    (∀ p, LastKeyword (level before) p → ∃ c ∈ clausesOf sw, numberAt ps c.start = p) ∧
    ∀ c ∈ clausesOf sw, (level before).length ≤ numberAt ps c.start → b.anchor < c.start) ∨
  (sw.tokens.length < b.anchor ∧ ∀ t ∈ level before, t.isCaseWord = false)

theorem exists_lastKeyword {ts : List Token} {t : Token} (h : t ∈ ts) (ht : t.isCaseWord = true) :
    ∃ p, LastKeyword ts p := by
  obtain ⟨q, hq⟩ := List.mem_iff_getElem?.mp h
  have hrange {i : ℕ} {u : Token} (hi : ts[i]? = some u) : i ∈ List.range ts.length :=
    List.mem_range.mpr (List.getElem?_eq_some_iff.mp hi).1
  obtain ⟨p, -, hp, hmax⟩ :=
    exists_greatest id (fun i => (ts[i]?.map Token.isCaseWord).getD false = true) (hrange hq) (by simp [hq, ht])
  refine ⟨p, ?_, fun i u hi hu => hmax i (hrange hi) (by simp [hi, hu])⟩
  cases hu : ts[p]? with
  | none => simp [hu] at hp
  | some u => exact ⟨u, rfl, by simpa [hu] using hp⟩

theorem LastKeyword.unique {ts : List Token} {p q : ℕ} (hp : LastKeyword ts p) (hq : LastKeyword ts q) : p = q := by
  obtain ⟨⟨t, ht, htword⟩, hpmax⟩ := hp
  obtain ⟨⟨u, hu, huword⟩, hqmax⟩ := hq
  exact le_antisymm (hqmax p t ht htword) (hpmax q u hu huword)

variable {inner after : List Piece} {openLine closeLine : ℕ}

theorem inDueCase_iff (h : FilledBy (before ++ .braces openLine closeLine inner :: after) sw)
    (hb : sw.children[before.countP Piece.isBraces]? = some b) :
    InDueCase sw b (before ++ .braces openLine closeLine inner :: after) before ↔
      Undisturbed sw b (before ++ .braces openLine closeLine inner :: after) before := by
  generalize hps : before ++ .braces openLine closeLine inner :: after = ps at *
  have hlength : sw.tokens.length = (numberedTokens ps).length := by rw [h.tokens_eq, List.length_map]
  have hwithin {s : Clause × ℕ} (hs : s ∈ spans sw.tokens.length (clausesOf sw)) :
      isWithin s b = true ↔ b.anchor ≤ sw.tokens.length ∧ s.1.start ≤ b.anchor ∧
        ∀ c ∈ clausesOf sw, c.start ≤ b.anchor → c.start ≤ s.1.start :=
    isWithin_iff (clausesFrom_sorted 0 sw.tokens) (fun c hc => by rw [hlength]; exact (clause_keyword h hc).1.le) hs b
  -- The numbers of keywords are in the order of the clauses.
  have hmono {c d : Clause} (hc : c ∈ clausesOf sw) (hd : d ∈ clausesOf sw) :
      numberAt ps c.start ≤ numberAt ps d.start ↔ c.start ≤ d.start := by
    rcases lt_trichotomy c.start d.start with hlt | heq | hlt
    · exact iff_of_true (numberAt_lt hlt (clause_keyword h hd).1).le hlt.le
    · rw [heq]
      exact iff_of_true le_rfl le_rfl
    · exact iff_of_false (numberAt_lt hlt (clause_keyword h hc).1).not_ge hlt.not_ge
  have hplace {c : Clause} (hc : c ∈ clausesOf sw) (hbefore : numberAt ps c.start < (level before).length) :
      c.start < b.anchor := by
    have hx := List.getElem?_eq_getElem (clause_keyword h hc).1
    have hnumber := numberAt_eq hx
    subst hps
    exact index_lt_anchor h hb hx (hnumber ▸ hbefore)
  have hkeyword {c : Clause} (hc : c ∈ clausesOf sw) (hbefore : numberAt ps c.start < (level before).length) :
      ∃ t, (level before)[numberAt ps c.start]? = some t ∧ t.isCaseWord = true := by
    subst hps
    exact clause_keyword_before h hc hbefore
  have hlast {p : ℕ} (hp : LastKeyword (level before) p) : p < (level before).length := by
    obtain ⟨⟨t, ht, -⟩, -⟩ := hp
    exact (List.getElem?_eq_some_iff.mp ht).1
  constructor
  · rintro ⟨honly, hgiven⟩
    by_cases hroom : b.anchor ≤ sw.tokens.length
    · refine .inl ⟨hroom, fun p hp => ?_, fun c hc hbehind => ?_⟩
      · obtain ⟨s, ⟨hs, hin⟩, -⟩ := hgiven p hp
        exact ⟨s.1, mem_of_mem_spans hs, ((honly s hs).1 hin).unique hp⟩
      · by_contra hstart
        obtain ⟨d, hd, hda, hdmax⟩ := exists_greatest Clause.start (fun d => d.start ≤ b.anchor) hc (not_lt.mp hstart)
        obtain ⟨s, hs, rfl⟩ := exists_mem_spans sw.tokens.length hd
        have hdue := hlast ((honly s hs).1 ((hwithin hs).2 ⟨hroom, hda, hdmax⟩))
        have hcd := (hmono hc hd).2 (hdmax c hc (not_lt.mp hstart))
        omega
    · refine .inr ⟨not_le.mp hroom, fun t ht => ?_⟩
      by_contra hword
      obtain ⟨p, hp⟩ := exists_lastKeyword ht (by simpa using hword)
      obtain ⟨s, ⟨hs, hin⟩, -⟩ := hgiven p hp
      exact hroom ((hwithin hs).1 hin).1
  · rintro (⟨hroom, hkept, hbehind⟩ | ⟨hshort, hnone⟩)
    · have hbefore {c : Clause} (hc : c ∈ clausesOf sw) :
          c.start ≤ b.anchor ↔ numberAt ps c.start < (level before).length := by
        refine ⟨fun hstart => ?_, fun hnumber => (hplace hc hnumber).le⟩
        by_contra hnumber
        exact absurd (hbehind c hc (not_lt.mp hnumber)) (not_lt.mpr hstart)
      have hdue {s : Clause × ℕ} (hs : s ∈ spans sw.tokens.length (clausesOf sw)) :
          isWithin s b = true ↔ LastKeyword (level before) (numberAt ps s.1.start) := by
        have hclause := mem_of_mem_spans hs
        rw [hwithin hs]
        constructor
        · rintro ⟨-, hstart, hmax⟩
          obtain ⟨t, ht, hword⟩ := hkeyword hclause ((hbefore hclause).1 hstart)
          obtain ⟨p, hp⟩ := exists_lastKeyword (List.mem_of_getElem? ht) hword
          obtain ⟨c, hc, rfl⟩ := hkept p hp
          have hle := (hmono hc hclause).2 (hmax c hc ((hbefore hc).2 (hlast hp)))
          rwa [le_antisymm (hp.2 _ t ht hword) hle]
        · intro hp
          refine ⟨hroom, (hbefore hclause).2 (hlast hp), fun c hc hstart => ?_⟩
          obtain ⟨t, ht, hword⟩ := hkeyword hc ((hbefore hc).1 hstart)
          exact (hmono hc hclause).1 (hp.2 _ t ht hword)
      refine ⟨fun s hs => hdue hs, fun p hp => ?_⟩
      obtain ⟨c, hc, rfl⟩ := hkept p hp
      obtain ⟨s, hs, rfl⟩ := exists_mem_spans sw.tokens.length hc
      refine ⟨s, ⟨hs, (hdue hs).2 hp⟩, fun r hr => ?_⟩
      have hsame : numberAt ps r.1.start = numberAt ps s.1.start := ((hdue hr.1).1 hr.2).unique hp
      have hr' := mem_of_mem_spans hr.1
      have hs' := mem_of_mem_spans hs
      exact spans_unique (clausesFrom_sorted 0 sw.tokens) hr.1 hs
        (le_antisymm ((hmono hr' hs').1 hsame.le) ((hmono hs' hr').1 hsame.ge))
    · have hno (p : ℕ) : ¬ LastKeyword (level before) p := by
        rintro ⟨⟨t, ht, hword⟩, -⟩
        simp [hnone t (List.mem_of_getElem? ht)] at hword
      refine ⟨fun s hs => iff_of_false (fun hin => ?_) (hno _), fun p hp => absurd hp (hno p)⟩
      exact absurd ((hwithin hs).1 hin).1 (not_le.mpr hshort)

/-- The cases of a switch take the blocks that opened in the spans of their clauses, and a block is in the case due to it
exactly if the clauses around it are left undisturbed. -/
theorem switch_cases_due {tokens : List Token} {subject : String}
    (h : Between tokens sw (before ++ .braces openLine closeLine inner :: after)) (hswitch : sw.owner = .switch subject)
    (hb : sw.children[before.countP Piece.isBraces]? = some b) :
    part sw = .nodes [.switch sw.owner.label ((spans sw.tokens.length (clausesOf sw)).map fun s =>
        ⟨s.1.label, assemble (stepsOf s.1.tokens) ((blocksWithin sw.children s).map part)⟩)] ∧
      (InDueCase sw b (before ++ .braces openLine closeLine inner :: after) before ↔
        Undisturbed sw b (before ++ .braces openLine closeLine inner :: after) before) := by
  refine ⟨?_, inDueCase_iff h.filledBy hb⟩
  rw [part_eq, hswitch, partOf, casesFrom_eq]
  rfl

/-- Two clauses with nothing between the closing brace in the first and the keyword of the second. -/
def adjoined : String := "switch (x) \x7b case 1: \x7b return 1; \x7d case 2: \x7b return 2; \x7d \x7d"

namespace Adjoined

def clauses : List Token :=
  [⟨.keyword, "case", 1⟩, ⟨.number, "1", 1⟩, ⟨.operator, ":", 1⟩, ⟨.keyword, "case", 1⟩, ⟨.number, "2", 1⟩,
    ⟨.operator, ":", 1⟩]

def returning (value : String) : List Token :=
  [⟨.keyword, "return", 1⟩, ⟨.number, value, 1⟩, ⟨.punctuation, ";", 1⟩]

def first : Block := ⟨.object, returning "1", [], 1, 1, 3⟩

def second : Block := ⟨.object, returning "2", [], 1, 1, 6⟩

/-- The block of the switch. -/
def block : Block := ⟨.switch "x", clauses, [first, second], 1, 1, 0⟩

def beforeFirst : List Piece := (clauses.take 3).map .token

def beforeSecond : List Piece := beforeFirst ++ .braces 1 1 ((returning "1").map .token) :: (clauses.drop 3).map .token

def inside : List Piece := beforeSecond ++ [.braces 1 1 ((returning "2").map .token)]

theorem tokens_eq :
    BraceLexer.tokens adjoined =
      [⟨.keyword, "switch", 1⟩, ⟨.punctuation, "(", 1⟩, ⟨.identifier, "x", 1⟩, ⟨.punctuation, ")", 1⟩,
        ⟨.punctuation, "\x7b", 1⟩] ++ clauses.take 3 ++ [⟨.punctuation, "\x7b", 1⟩] ++ returning "1" ++
      [⟨.punctuation, "\x7d", 1⟩] ++ clauses.drop 3 ++ [⟨.punctuation, "\x7b", 1⟩] ++ returning "2" ++
      [⟨.punctuation, "\x7d", 1⟩, ⟨.punctuation, "\x7d", 1⟩] := by
  decide +kernel

theorem between : Between (BraceLexer.tokens adjoined) block inside := by
  have hroot : Between (BraceLexer.tokens adjoined) (ofTokens (BraceLexer.tokens adjoined))
      ([.token ⟨.keyword, "switch", 1⟩, .token ⟨.punctuation, "(", 1⟩, .token ⟨.identifier, "x", 1⟩,
        .token ⟨.punctuation, ")", 1⟩] ++ .braces 1 1 inside :: []) := by
    have hpieces : Between _ _ (pieces (BraceLexer.tokens adjoined)) := .root
    rw [tokens_eq] at hpieces ⊢
    exact hpieces
  refine .child hroot ?_
  rw [tokens_eq]
  rfl

theorem undisturbed_second : Undisturbed block second inside beforeSecond := by
  have hlast : LastKeyword clauses 3 := by
    refine ⟨⟨_, rfl, rfl⟩, fun q t hq ht => ?_⟩
    have hall : ∀ q < clauses.length, (clauses[q]?.map Token.isCaseWord).getD false = true → q ≤ 3 := by decide
    exact hall q (List.getElem?_eq_some_iff.mp hq).1 (by simp [hq, ht])
  refine .inl ⟨by decide, fun p hp => ?_, by decide +kernel⟩
  rw [hp.unique hlast]
  decide +kernel

end Adjoined

/-- The block of the second clause is due to it. -/
theorem second_adjoined_due : InDueCase Adjoined.block Adjoined.second Adjoined.inside Adjoined.beforeSecond := by
  have hbetween : Between (BraceLexer.tokens adjoined) Adjoined.block
      (Adjoined.beforeSecond ++ .braces 1 1 ((Adjoined.returning "2").map .token) :: []) := Adjoined.between
  exact (switch_cases_due hbetween rfl rfl).2.2 Adjoined.undisturbed_second

/-- The second clause takes the block of the first one. -/
theorem first_adjoined_not_due :
    ¬ ∀ (before after inner : List Piece) (openLine closeLine : ℕ) (sw b : Block) (subject : String),
      Between (BraceLexer.tokens adjoined) sw (before ++ .braces openLine closeLine inner :: after) →
      sw.owner = .switch subject → sw.children[before.countP Piece.isBraces]? = some b →
      InDueCase sw b (before ++ .braces openLine closeLine inner :: after) before := by
  intro h
  have hdue := h Adjoined.beforeFirst _ _ 1 1 Adjoined.block Adjoined.first "x" Adjoined.between rfl rfl
  obtain ⟨s, hs, hin, hnumber⟩ : ∃ s ∈ spans Adjoined.block.tokens.length (clausesOf Adjoined.block),
      isWithin s Adjoined.first = true ∧ numberAt Adjoined.inside s.1.start = 3 := by
    decide +kernel
  obtain ⟨⟨t, ht, -⟩, -⟩ := (hdue.only s hs).1 hin
  have hnone : (level Adjoined.beforeFirst)[3]? = some t := hnumber ▸ ht
  cases hnone

end FlowSketch.BraceFlow
