import FlowSketch.Proofs.SystemsPositions
import FlowSketch.Proofs.SystemsStatements

/-!
# Matching braces

A cut takes the text between the first opening brace and the brace that matches it, counting character by character. What
follows the match stays as a line of its own, and without a match everything behind the opening brace is taken.
-/
namespace FlowSketch.SystemsRegion
open TextBlank SystemsEdit
open SystemsStatement (Paired scan_run)

/-! ### Counts of braces -/

/-- No part from the front closes more than `d` braces beyond those that it opens. -/
def Above (d : ℕ) (cs : Line) : Prop := ∀ p, p <+: cs → p.count '}' ≤ p.count '{' + d

theorem paired_iff {cs : Line} : Paired cs ↔ Above 0 cs ∧ cs.count '}' = cs.count '{' := Iff.rfl

theorem above_append {d e : ℕ} {a : Line} (hd : a.count '{' + d = a.count '}' + e) (b : Line) :
    Above d (a ++ b) ↔ Above d a ∧ Above e b := by
  constructor
  · refine fun h => ⟨fun p hp => h p (hp.trans (List.prefix_append a b)), fun p hp => ?_⟩
    have hall := h (a ++ p) ((List.prefix_append_right_inj a).mpr hp)
    rw [List.count_append, List.count_append] at hall
    omega
  · rintro ⟨ha, hb⟩ p ⟨t, ht⟩
    rcases List.append_eq_append_iff.mp ht with ⟨as, rfl, -⟩ | ⟨bs, rfl, rfl⟩
    · exact ha p (List.prefix_append p as)
    · have := hb bs (List.prefix_append bs t)
      rw [List.count_append, List.count_append]
      omega

/-- A text that closes too much has a first brace that does. -/
theorem exists_closing_of_not_above {d : ℕ} {cs : Line} (h : ¬ Above d cs) :
    ∃ pre post, cs = pre ++ '}' :: post ∧ Above d pre ∧ pre.count '}' = pre.count '{' + d := by
  induction cs using List.reverseRecOn with
  | nil => exact absurd (fun p hp => by simp [List.prefix_nil.mp hp]) h
  | append_singleton cs c ih =>
    by_cases hcs : Above d cs
    · have hwhole : ¬ (cs ++ [c]).count '}' ≤ (cs ++ [c]).count '{' + d := by
        refine fun hle => h fun p hp => ?_
        rcases List.prefix_concat_iff.mp hp with rfl | hp
        · exact hle
        · exact hcs p hp
      have hle := hcs cs List.prefix_rfl
      obtain rfl : c = '}' := by
        by_contra hc
        have hnone : [c].count '}' = 0 := List.count_eq_zero_of_not_mem (by simpa using Ne.symm hc)
        rw [List.count_append, List.count_append, hnone] at hwhole
        omega
      refine ⟨cs, [], rfl, hcs, ?_⟩
      simp at hwhole
      omega
    · obtain ⟨pre, post, rfl, hpre, hcount⟩ := ih hcs
      exact ⟨pre, post ++ [c], by simp, hpre, hcount⟩

/-! ### Lines with text -/

/-- The lines that are not blank. -/
def codeLines (ls : List Line) : List Line := ls.filter fun l => !allBlank l

theorem codeLines_cons (l : Line) (ls : List Line) : codeLines (l :: ls) = kept l ++ codeLines ls := by
  by_cases h : allBlank l = true <;> simp [codeLines, kept, h]

theorem codeLines_append (as bs : List Line) : codeLines (as ++ bs) = codeLines as ++ codeLines bs :=
  List.filter_append as bs

theorem count_of_blank {c : Char} (hc : isBlank c = false) {l : Line} (h : allBlank l = true) : l.count c = 0 := by
  refine List.count_eq_zero_of_not_mem fun hmem => ?_
  rw [allBlank, List.all_eq_true] at h
  rw [h c hmem] at hc
  cases hc

theorem count_kept {c : Char} (hc : isBlank c = false) (l : Line) : (kept l).flatten.count c = l.count c := by
  unfold kept
  split
  · next h => rw [count_of_blank hc h, List.flatten_nil, List.count_nil]
  · rw [List.flatten_singleton]

theorem count_codeLines {c : Char} (hc : isBlank c = false) (ls : List Line) :
    (codeLines ls).flatten.count c = ls.flatten.count c := by
  induction ls with
  | nil => rfl
  | cons l ls ih =>
    rw [codeLines_cons, List.flatten_append, List.count_append, count_kept hc, ih, List.flatten_cons, List.count_append]

theorem above_codeLines {d : ℕ} {ls : List Line} : Above d (codeLines ls).flatten ↔ Above d ls.flatten := by
  induction ls generalizing d with
  | nil => rfl
  | cons l ls ih =>
    rw [codeLines_cons, List.flatten_append, List.flatten_cons]
    by_cases h : allBlank l = true
    · have hl : Above d l := fun p hp => by
        rw [count_of_blank rfl (List.all_eq_true.mpr fun c hc => List.all_eq_true.mp h c (hp.subset hc))]
        exact Nat.zero_le _
      have hsame : l.count '{' + d = l.count '}' + d := by rw [count_of_blank rfl h, count_of_blank rfl h]
      rw [above_append hsame, kept, if_pos h, List.flatten_nil, List.nil_append, ih]
      exact ⟨fun ha => ⟨hl, ha⟩, fun ha => ha.2⟩
    · rw [kept, if_neg h, List.flatten_singleton]
      by_cases hle : l.count '}' ≤ l.count '{' + d
      · obtain ⟨e, he⟩ := Nat.exists_eq_add_of_le hle
        rw [above_append he, above_append he, ih]
      · exact ⟨fun ha => absurd (ha l (List.prefix_append _ _)) hle, fun ha => absurd (ha l (List.prefix_append _ _)) hle⟩

theorem paired_codeLines {ls : List Line} : Paired (codeLines ls).flatten ↔ Paired ls.flatten := by
  rw [paired_iff, paired_iff, above_codeLines, count_codeLines rfl, count_codeLines rfl]

/-! ### Regions -/

/-- Lines in front of a cut, of which those with text are in its body. -/
def gathers (ls : List Line) (c : Cut) : Cut := ⟨codeLines ls ++ c.body, ls ++ c.passed, c.rest⟩

/-- Behind `d + 1` open braces, a region takes all lines of a text that leaves one of them open. -/
theorem region_run {ls : List Line} {d e : ℕ} (h : Above d ls.flatten)
    (he : ls.flatten.count '{' + d = ls.flatten.count '}' + e) (rest : List Line) :
    region (d + 1) true (ls ++ rest) = gathers ls (region (e + 1) true rest) := by
  induction ls generalizing d with
  | nil =>
    obtain rfl : d = e := by simpa using he
    rfl
  | cons l ls ih =>
    rw [List.flatten_cons] at h he
    obtain ⟨m, hm⟩ := Nat.exists_eq_add_of_le (h l (List.prefix_append _ _))
    obtain ⟨hl, hls⟩ := (above_append hm _).mp h
    rw [List.count_append, List.count_append] at he
    have hdepth : (d + 1 + l.count '{' - l.count '}' : ℤ) = m + 1 := by omega
    have hscan : scan (d + 1) true l = .inside l (m + 1) true := by
      rw [SystemsStatement.scan_count hl, hdepth]
    rw [List.cons_append, region, hscan]
    simp only [ih hls (by omega), gathers, codeLines_cons, List.append_assoc, List.cons_append]

/-- A region ends at the first brace that closes its opening one. -/
theorem region_closes {inner : List Line} {piece : Line} (h : Paired (inner ++ [piece]).flatten) (after : Line)
    (later : List Line) :
    region 1 true (inner ++ (piece ++ '}' :: after) :: later) =
      ⟨codeLines (inner ++ [piece]), inner ++ (leftover after).elim [piece ++ '}' :: after] fun _ => [],
        (leftover after).toList ++ later⟩ := by
  obtain ⟨habove, hcount⟩ := paired_iff.mp h
  rw [List.flatten_append, List.flatten_singleton] at habove hcount
  obtain ⟨e, he⟩ := Nat.exists_eq_add_of_le (habove inner.flatten (List.prefix_append _ _))
  obtain ⟨hinner, hpiece⟩ := (above_append he piece).mp habove
  rw [List.count_append, List.count_append] at hcount
  have hdepth : (e + 1 + piece.count '{' - piece.count '}' : ℤ) = 1 := by omega
  have hscan : scan (e + 1) true (piece ++ '}' :: after) = .closed piece after := by
    rw [scan_run hpiece, hdepth]
    simp [scan, Scan.prepend]
  have hrun := region_run hinner he ((piece ++ '}' :: after) :: later)
  rw [Nat.cast_zero, zero_add] at hrun
  rw [hrun, region, hscan]
  have hpieces : codeLines [piece] = kept piece := (codeLines_cons piece []).trans (List.append_nil _)
  cases hl : leftover after <;> simp [gathers, codeLines_append, hpieces, hl]

/-- A region without an end takes all lines. -/
theorem region_open {ls : List Line} (h : Above 0 ls.flatten) : region 1 true ls = ⟨codeLines ls, ls, []⟩ := by
  obtain ⟨e, he⟩ := Nat.exists_eq_add_of_le (h ls.flatten List.prefix_rfl)
  have hrun := region_run h he []
  rw [Nat.cast_zero, zero_add, List.append_nil] at hrun
  rw [hrun, region]
  simp [gathers]

/-- A region that begins on a line takes what follows its first brace. -/
theorem region_opens {lead : Line} (h : NoBraces lead) (first : Line) (more : List Line) :
    region 0 false ((lead ++ '{' :: first) :: more) =
      ⟨(region 1 true (first :: more)).body,
        (region 1 true (first :: more)).passed.modifyHead fun l => lead ++ '{' :: l,
        (region 1 true (first :: more)).rest⟩ := by
  rw [region, region, scan_opens h]
  cases hs : scan 1 true first with
  | closed piece after => cases hl : leftover after <;> simp [hl]
  | inside piece depth started => simp

/-- Lines before the first opening brace are passed over. -/
theorem block_ahead {ahead : List Line} (h : ∀ l ∈ ahead, '{' ∉ l) {line : Line} (hline : '{' ∈ line)
    (more : List Line) :
    block (ahead ++ line :: more) =
      ⟨(region 0 false (line :: more)).body, ahead ++ (region 0 false (line :: more)).passed,
        (region 0 false (line :: more)).rest⟩ := by
  induction ahead with
  | nil => rw [List.nil_append, block, if_pos (by simpa using hline), List.nil_append]
  | cons l ahead ih =>
    have hl : '{' ∉ l := h l List.mem_cons_self
    rw [List.cons_append, block, if_neg (by simpa using hl), ih fun k hk => h k (List.mem_cons_of_mem l hk)]
    rfl

theorem block_none {ls : List Line} (h : ∀ l ∈ ls, '{' ∉ l) : block ls = ⟨[], ls, []⟩ := by
  induction ls with
  | nil => rfl
  | cons l ls ih =>
    have hl : '{' ∉ l := h l List.mem_cons_self
    rw [block, if_neg (by simpa using hl), ih fun k hk => h k (List.mem_cons_of_mem l hk)]
    rfl

/-! ### Places of braces -/

/-- A closing brace in a text: the lines before it, and its own line cut at it. -/
structure Closer (text : List Line) where
  inner : List Line
  piece : Line
  after : Line
  later : List Line
  eq : text = inner ++ (piece ++ '}' :: after) :: later

/-- The text before a closing brace. -/
def Closer.between {text : List Line} (c : Closer text) : List Line := c.inner ++ [c.piece]

/-- The first opening brace from line `i` on, with no closing brace before it on its line. -/
structure Opener (lines : List Line) (i : ℕ) where
  ahead : List Line
  lead : Line
  first : Line
  more : List Line
  eq : lines.drop i = ahead ++ (lead ++ '{' :: first) :: more
  noOpening : ∀ l ∈ ahead, '{' ∉ l
  noBraces : NoBraces lead

theorem noOpening_nil : ∀ l ∈ ([] : List Line), '{' ∉ l := List.forall_mem_nil _

theorem noBraces_nil : NoBraces [] := ⟨List.not_mem_nil, List.not_mem_nil⟩

namespace Opener
variable {lines : List Line} {i : ℕ} (o : Opener lines i)

/-- The text behind the brace. -/
def text : List Line := o.first :: o.more

/-- The line of a closing brace behind it. -/
def lineOf (c : Closer o.text) : ℕ := i + o.ahead.length + c.inner.length

/-- What is taken up to a closing brace, and the lines as they are left: text behind the brace stays as its line. -/
def closed (c : Closer o.text) : Edit (List Line) :=
  if trim c.after = [] ∨ trim c.after = [';'] then ⟨codeLines c.between, o.lineOf c + 1, lines⟩
  else ⟨codeLines c.between, o.lineOf c, lines.set (o.lineOf c) (trim c.after)⟩

end Opener

theorem exists_cut_of_flatten {text : List Line} {pre post : Line} {c : Char} (h : text.flatten = pre ++ c :: post) :
    ∃ inner piece after later, text = inner ++ (piece ++ c :: after) :: later ∧ inner.flatten ++ piece = pre := by
  induction text generalizing pre with
  | nil => simp at h
  | cons l ls ih =>
    rw [List.flatten_cons] at h
    rcases List.append_eq_append_iff.mp h with ⟨as, rfl, hrest⟩ | ⟨bs, rfl, hrest⟩
    · obtain ⟨inner, piece, after, later, rfl, rfl⟩ := ih hrest
      exact ⟨l :: inner, piece, after, later, rfl, by simp⟩
    · cases bs with
      | nil =>
        have hlater : ls.flatten = [] ++ c :: post := by simpa using hrest.symm
        obtain ⟨inner, piece, after, later, rfl, hpre⟩ := ih hlater
        exact ⟨pre :: inner, piece, after, later, by simp, by simpa using hpre⟩
      | cons b bs =>
        obtain ⟨rfl, -⟩ := List.cons.inj hrest
        exact ⟨[], pre, bs, ls, rfl, rfl⟩

/-- A text in which no brace matches closes no more than it opens. -/
theorem above_of_unmatched {text : List Line} (h : ∀ c : Closer text, ¬ Paired c.between.flatten) :
    Above 0 text.flatten := by
  by_contra habove
  obtain ⟨pre, post, hflat, hpre, hcount⟩ := exists_closing_of_not_above habove
  obtain ⟨inner, piece, after, later, heq, rfl⟩ := exists_cut_of_flatten hflat
  refine h ⟨inner, piece, after, later, heq⟩ (paired_iff.mpr ?_)
  rw [Closer.between, List.flatten_append, List.flatten_singleton]
  exact ⟨hpre, hcount⟩

/-! ### Cuts -/

section
variable {lines : List Line} {i : ℕ}

theorem Opener.block_eq (o : Opener lines i) :
    block (lines.drop i) =
      ⟨(region 1 true o.text).body,
        o.ahead ++ (region 1 true o.text).passed.modifyHead (fun l => o.lead ++ '{' :: l),
        (region 1 true o.text).rest⟩ := by
  rw [o.eq, block_ahead o.noOpening (by simp), region_opens o.noBraces, text]

/-- The lines from which a region is cut. -/
theorem Opener.lines_eq (o : Opener lines i) :
    lines = lines.take i ++ (o.ahead ++ o.text.modifyHead fun l => o.lead ++ '{' :: l) := by
  have happend := List.take_append_drop i lines
  rw [o.eq] at happend
  exact happend.symm

theorem Opener.length_take (o : Opener lines i) : (lines.take i).length = i := by
  refine List.length_take_of_le (le_of_not_gt fun hlt => ?_)
  have hdrop := o.eq
  rw [List.drop_eq_nil_of_le hlt.le] at hdrop
  simp at hdrop

theorem modifyHead_append_cons (f : Line → Line) (inner : List Line) (l : Line) (later : List Line) :
    ∃ l', (inner ++ l :: later).modifyHead f = inner.modifyHead f ++ l' :: later := by
  cases inner with
  | nil => exact ⟨f l, rfl⟩
  | cons k inner => exact ⟨l, rfl⟩

theorem set_of_eq {ls before later : List Line} {l : Line} {k : ℕ} (h : ls = before ++ l :: later)
    (hk : before.length = k) (l' : Line) : ls.set k l' = before ++ l' :: later := by
  rw [h, List.set_append_right _ _ hk.le, hk, Nat.sub_self, List.set_cons_zero]

/-- A region whose first brace is matched is cut at the match. -/
theorem Opener.blockAt_closed (o : Opener lines i) (c : Closer o.text) (h : Paired c.between.flatten) :
    blockAt lines i = o.closed c := by
  have hregion := region_closes h c.after c.later
  rw [← c.eq] at hregion
  rw [blockAt, o.block_eq, hregion, edit, closed, lineOf]
  by_cases hafter : trim c.after = [] ∨ trim c.after = [';']
  · have hleft : leftover c.after = none := by rw [leftover, if_pos (by simpa using hafter)]
    have hall : lines.take i ++ (o.ahead ++ (c.inner ++ [c.piece ++ '}' :: c.after]).modifyHead (o.lead ++ '{' :: ·)) ++
        c.later = lines := by
      conv_rhs => rw [o.lines_eq, c.eq]
      cases c.inner <;> simp
    rw [if_pos hafter, hleft]
    simp only [Option.elim_none, Option.toList_none, List.nil_append, hall, List.length_append, List.length_modifyHead,
      List.length_singleton, Closer.between, Nat.add_assoc]
  · have hleft : leftover c.after = some (trim c.after) := by rw [leftover, if_neg (by simpa using hafter)]
    obtain ⟨l, hl⟩ := modifyHead_append_cons (o.lead ++ '{' :: ·) c.inner (c.piece ++ '}' :: c.after) c.later
    have hsplit : lines = lines.take i ++ (o.ahead ++ c.inner.modifyHead (o.lead ++ '{' :: ·)) ++ l :: c.later := by
      conv_lhs => rw [o.lines_eq, c.eq, hl]
      simp only [List.append_assoc]
    have hlength : (lines.take i ++ (o.ahead ++ c.inner.modifyHead (o.lead ++ '{' :: ·))).length =
        i + o.ahead.length + c.inner.length := by
      rw [List.length_append, o.length_take, List.length_append, List.length_modifyHead, Nat.add_assoc]
    rw [if_neg hafter, hleft, set_of_eq hsplit hlength]
    simp only [Option.elim_some, Option.toList_some, List.append_nil, List.singleton_append, List.length_append,
      List.length_modifyHead, Closer.between, Nat.add_assoc]

/-- A region whose first brace is not matched takes all that follows. -/
theorem Opener.blockAt_open (o : Opener lines i) (h : ∀ c : Closer o.text, ¬ Paired c.between.flatten) :
    blockAt lines i = ⟨codeLines o.text, lines.length, lines⟩ := by
  have hall : lines.take i ++ (o.ahead ++ o.text.modifyHead (o.lead ++ '{' :: ·)) ++ [] = lines := by
    conv_rhs => rw [o.lines_eq]
    rw [List.append_nil]
  have hlength := congrArg List.length o.lines_eq
  rw [List.length_append, o.length_take] at hlength
  rw [blockAt, o.block_eq, region_open (above_of_unmatched h), edit]
  simp only [hall, ← hlength]

theorem Opener.taken_closed (o : Opener lines i) (c : Closer o.text) : (o.closed c).taken = codeLines c.between := by
  rw [closed]
  split <;> rfl

/-- A region ends at a closing brace exactly if this matches its first brace. -/
theorem Opener.blockAt_eq_closed_iff (o : Opener lines i) (c : Closer o.text) :
    blockAt lines i = o.closed c ↔ Paired c.between.flatten := by
  refine ⟨fun h => ?_, o.blockAt_closed c⟩
  have htaken : (blockAt lines i).taken = codeLines c.between := by rw [h, o.taken_closed]
  by_cases hmatch : ∃ d : Closer o.text, Paired d.between.flatten
  · obtain ⟨d, hd⟩ := hmatch
    rw [o.blockAt_closed d hd, o.taken_closed] at htaken
    rw [← paired_codeLines, ← htaken]
    exact paired_codeLines.mpr hd
  · rw [o.blockAt_open fun d hd => hmatch ⟨d, hd⟩] at htaken
    -- all of the text would have been taken, and this has the closing brace too
    have hcount := congrArg (fun ls => ls.flatten.count '}') htaken
    simp only [count_codeLines (c := '}') rfl] at hcount
    have hall := congrArg (fun ls => ls.flatten.count '}') c.eq
    simp only [Closer.between, List.flatten_append, List.flatten_cons, List.flatten_nil, List.count_append,
      List.count_cons_self, List.append_nil] at hcount hall
    omega

theorem blockAt_none (h : ∀ l ∈ lines.drop i, '{' ∉ l) (hi : i ≤ lines.length) :
    blockAt lines i = ⟨[], lines.length, lines⟩ := by
  rw [blockAt, block_none h, edit, List.append_nil, List.take_append_drop, List.length_drop, Nat.add_sub_cancel' hi]

theorem length_region (depth : Int) (started : Bool) (ls : List Line) :
    ((region depth started ls).passed ++ (region depth started ls).rest).length = ls.length := by
  induction ls generalizing depth started with
  | nil => rfl
  | cons l ls ih =>
    rw [region]
    cases scan depth started l with
    | closed piece after => cases hl : leftover after <;> simp [hl]
    | inside piece d s => simpa using ih d s

theorem length_block (ls : List Line) : ((block ls).passed ++ (block ls).rest).length = ls.length := by
  induction ls with
  | nil => rfl
  | cons l ls ih =>
    rw [block]
    split
    · exact length_region 0 false (l :: ls)
    · simpa [Cut.pass] using ih

theorem length_blockAt (lines : List Line) (i : ℕ) : (blockAt lines i).lines.length = lines.length := by
  have hcut := length_block (lines.drop i)
  rw [blockAt, edit, List.append_assoc, List.length_append, hcut, ← List.length_append, List.take_append_drop]

/-- Where there is an opening brace from line `i` on, and no closing brace stands before it on its line, it opens a
region. -/
theorem exists_opener {line : Line} (h : line ∈ (lines.drop i).find? (·.contains '{'))
    (hline : '}' ∉ line.takeWhile (· ≠ '{')) : Nonempty (Opener lines i) := by
  obtain ⟨hbrace, ahead, more, heq, hahead⟩ := List.find?_eq_some_iff_append.mp h
  have hmem : '{' ∈ line := by simpa using hbrace
  obtain ⟨first, hcut⟩ : ∃ first, line = line.takeWhile (· ≠ '{') ++ '{' :: first := by
    cases hrest : line.dropWhile (· ≠ '{') with
    | nil =>
      have hnone := List.dropWhile_eq_nil_iff.mp hrest '{' hmem
      simp at hnone
    | cons c first =>
      have hc := List.head?_dropWhile_not (· ≠ '{') line
      rw [hrest] at hc
      obtain rfl : c = '{' := by simpa using hc
      exact ⟨first, by rw [← hrest, List.takeWhile_append_dropWhile]⟩
  refine ⟨⟨ahead, line.takeWhile (· ≠ '{'), first, more, by rw [← hcut]; exact heq, ?_, ?_, hline⟩⟩
  · intro l hl
    simpa using hahead l hl
  · intro hlead
    simpa using List.mem_takeWhile_imp hlead

/-- A cut takes exactly the text between its first opening brace and the brace that matches it, without blank lines, and
goes on with what stands behind the match. Without a match it takes everything behind the opening brace, and without an
opening brace nothing. -/
theorem blockAt_cuts (hi : i ≤ lines.length)
    (hfirst : ∀ line ∈ (lines.drop i).find? (·.contains '{'), '}' ∉ line.takeWhile (· ≠ '{')) :
    (blockAt lines i).lines.length = lines.length ∧
      ((∀ l ∈ lines.drop i, '{' ∉ l) → blockAt lines i = ⟨[], lines.length, lines⟩) ∧
      ((∃ l ∈ lines.drop i, '{' ∈ l) → Nonempty (Opener lines i)) ∧
      ∀ o : Opener lines i,
        (∀ c : Closer o.text, Paired c.between.flatten →
          blockAt lines i = o.closed c ∧ Paired (blockAt lines i).taken.flatten) ∧
        ((∀ c : Closer o.text, ¬ Paired c.between.flatten) →
          blockAt lines i = ⟨codeLines o.text, lines.length, lines⟩) := by
  refine ⟨length_blockAt lines i, fun hnone => blockAt_none hnone hi, ?_, fun o => ⟨fun c hc => ?_, o.blockAt_open⟩⟩
  · rintro ⟨l, hl, hbrace⟩
    obtain ⟨line, hline⟩ := Option.isSome_iff_exists.mp
      (List.find?_isSome (p := (·.contains '{')).mpr ⟨l, hl, by simpa using hbrace⟩)
    exact exists_opener hline (hfirst line hline)
  · have hcut := o.blockAt_closed c hc
    rw [hcut, o.taken_closed]
    exact ⟨rfl, paired_codeLines.mpr hc⟩

def twoBranches : List Line := ["if (x) \x7b", "  a();", "\x7d else \x7b", "  b();", "\x7d"].map String.toList

def thenOpener : Opener twoBranches 0 := ⟨[], "if (x) ".toList, [], twoBranches.drop 1, rfl, noOpening_nil, by decide⟩

def thenCloser : Closer thenOpener.text :=
  ⟨[[], "  a();".toList], [], " else \x7b".toList, twoBranches.drop 3, rfl⟩

/-- The else behind a brace stays as a line of its own. -/
theorem blockAt_twoBranches :
    (0 ≤ twoBranches.length ∧
      ∀ line ∈ (twoBranches.drop 0).find? (·.contains '{'), '}' ∉ line.takeWhile (· ≠ '{')) ∧
      blockAt twoBranches 0 = ⟨["  a();".toList], 2, twoBranches.set 2 "else \x7b".toList⟩ := by
  have hfirst : ∀ line ∈ (twoBranches.drop 0).find? (·.contains '{'), '}' ∉ line.takeWhile (· ≠ '{') := by decide
  obtain ⟨-, -, -, hcuts⟩ := blockAt_cuts (Nat.zero_le twoBranches.length) hfirst
  exact ⟨⟨Nat.zero_le _, hfirst⟩, ((hcuts thenOpener).1 thenCloser (by decide)).1⟩

end
end FlowSketch.SystemsRegion
