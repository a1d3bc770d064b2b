import FlowSketch.Proofs.SystemsMatching

/-!
# Braces in literals

The balance of a line counts the braces outside of literals, while a cut counts every brace. A cut ends at the brace that
closes its region by the first count exactly if the braces in literals never close the last one that is open, and open as
often as they close.
-/
namespace FlowSketch.SystemsRegion
open TextBlank SystemsEdit
open SystemsStatement (Paired)

/-! ### Counts outside and inside of literals -/

/-- The characters of a text that stand in a literal. -/
def inLiterals (quote : Option Char) (escaped : Bool) : Line → Line
  | [] => []
  | c :: cs =>
    match quote with
    | some q =>
      c :: if escaped then inLiterals (some q) false cs
        else if c = '\\' then inLiterals (some q) true cs
        else inLiterals (if c = q then none else some q) false cs
    | none => inLiterals (if c = '"' || c = '\'' then some c else none) false cs

/-- Opening minus closing braces. -/
def balance (line : Line) : ℤ := line.count '{' - line.count '}'

/-- Opening minus closing braces in literals. -/
def literalBalance (line : Line) : ℤ := balance (inLiterals none false line)

theorem balance_cons (c : Char) (cs : Line) :
    balance (c :: cs) = (if c = '{' then 1 else if c = '}' then -1 else 0) + balance cs := by
  by_cases hopen : c = '{'
  · subst hopen
    simp [balance]
    ring
  by_cases hclose : c = '}'
  · subst hclose
    simp [balance]
    ring
  · simp [balance, hopen, hclose, List.count_cons_of_ne]

theorem balanceFrom_eq (quote : Option Char) (escaped : Bool) (cs : Line) :
    balance cs = braceBalanceFrom quote escaped cs + balance (inLiterals quote escaped cs) := by
  induction cs generalizing quote escaped with
  | nil => cases quote <;> rfl
  | cons c cs ih =>
    rw [balance_cons]
    cases quote with
    | none =>
      rw [braceBalanceFrom_none_cons, inLiterals]
      by_cases hquote : (c = '"' || c = '\'') = true
      · have hc : c ≠ '{' ∧ c ≠ '}' := by
          constructor <;> rintro rfl <;> exact absurd hquote (by decide)
        rw [if_neg hc.1, if_neg hc.2, if_pos hquote, if_pos hquote, ← ih, zero_add]
      · rw [if_neg hquote, if_neg hquote, ih none false]
        split_ifs <;> ring
    | some q =>
      rw [braceBalanceFrom_some_cons, inLiterals, balance_cons]
      split_ifs <;> rw [ih] <;> ring

/-- Every brace stands either outside or inside of literals. -/
theorem balance_eq (line : Line) : balance line = braceBalance line + literalBalance line :=
  balanceFrom_eq none false line

/-! ### Places of a text -/

def total (count : Line → ℤ) (ls : List Line) : ℤ := (ls.map count).sum

theorem total_append (count : Line → ℤ) (as bs : List Line) : total count (as ++ bs) = total count as + total count bs := by
  rw [total, List.map_append, List.sum_append, total, total]

theorem total_singleton (count : Line → ℤ) (l : Line) : total count [l] = count l := by simp [total]

theorem total_balance (ls : List Line) : total balance ls = total braceBalance ls + total literalBalance ls := by
  rw [total, funext balance_eq, List.sum_map_add, total, total]

theorem total_balance_flatten (ls : List Line) : total balance ls = balance ls.flatten := by
  induction ls with
  | nil => rfl
  | cons l ls ih =>
    rw [← List.singleton_append, total_append, ih, total_singleton, List.singleton_append, List.flatten_cons, balance,
      balance, balance, List.count_append, List.count_append]
    push_cast
    ring

/-- What of some lines stands before each place in them: whole lines and the part of a line. -/
def places : List Line → List (List Line)
  | [] => [[]]
  | l :: ls => l.inits.map ([·]) ++ (places ls).map (l :: ·)

theorem self_mem_places (ls : List Line) : ls ∈ places ls := by
  induction ls with
  | nil => exact List.mem_singleton_self []
  | cons l ls ih => exact List.mem_append_right _ (List.mem_map_of_mem ih)

theorem prefix_flatten_iff {p : Line} {ls : List Line} : p <+: ls.flatten ↔ ∃ ps ∈ places ls, ps.flatten = p := by
  induction ls generalizing p with
  | nil => simp [places, eq_comm]
  | cons l ls ih =>
    rw [List.flatten_cons, places]
    constructor
    · rintro ⟨t, ht⟩
      rcases List.append_eq_append_iff.mp ht with ⟨as, rfl, -⟩ | ⟨bs, rfl, hbs⟩
      · exact ⟨[p], List.mem_append_left _ (List.mem_map_of_mem (by simp)), by simp⟩
      · obtain ⟨ps, hps, rfl⟩ := ih.mp ⟨t, hbs.symm⟩
        exact ⟨l :: ps, List.mem_append_right _ (List.mem_map_of_mem hps), by simp⟩
    · rintro ⟨ps, hps, rfl⟩
      rcases List.mem_append.mp hps with hps | hps
      · obtain ⟨q, hq, rfl⟩ := List.mem_map.mp hps
        simpa using (List.mem_inits q l).mp hq |>.trans (List.prefix_append l ls.flatten)
      · obtain ⟨qs, hqs, rfl⟩ := List.mem_map.mp hps
        rw [List.flatten_cons]
        exact (List.prefix_append_right_inj l).mpr (ih.mpr ⟨qs, hqs, rfl⟩)

theorem paired_iff_places {ls : List Line} :
    Paired ls.flatten ↔ (∀ ps ∈ places ls, 0 ≤ total balance ps) ∧ total balance ls = 0 := by
  have hall : (∀ p, p <+: ls.flatten → p.count '}' ≤ p.count '{') ↔ ∀ ps ∈ places ls, 0 ≤ total balance ps := by
    constructor
    · intro h ps hps
      have := h ps.flatten (prefix_flatten_iff.mpr ⟨ps, hps, rfl⟩)
      rw [total_balance_flatten, balance]
      omega
    · intro h p hp
      obtain ⟨ps, hps, rfl⟩ := prefix_flatten_iff.mp hp
      have := h ps hps
      rw [total_balance_flatten, balance] at this
      omega
  rw [Paired, hall, total_balance_flatten, balance]
  exact and_congr_right fun _ => by omega

/-! ### The closing brace by the count outside of literals -/

section
variable {lines : List Line} {i : ℕ}

/-- Lines of the text behind an opening brace with what stands before it on its line. -/
def Opener.whole (o : Opener lines i) (ls : List Line) : List Line := ls.modifyHead (o.lead ++ '{' :: ·)

/-- Counted outside of literals from the opening brace on, a closing brace is the first place with no brace open. -/
structure Opener.ClosesAt (o : Opener lines i) (c : Closer o.text) : Prop where
  stays : ∀ ps ∈ places c.between, 0 < total braceBalance (o.whole ps)
  closes : total braceBalance (o.whole (c.inner ++ [c.piece ++ ['}']])) = 0

theorem braceBalanceFrom_concat (quote : Option Char) (escaped : Bool) (cs : Line) :
    braceBalanceFrom quote escaped cs - 1 ≤ braceBalanceFrom quote escaped (cs ++ ['}']) := by
  induction cs generalizing quote escaped with
  | nil =>
    cases quote with
    | none => simp [braceBalanceFrom]
    | some q => simp [braceBalanceFrom]
  | cons c cs ih =>
    rw [List.cons_append]
    cases quote with
    | none =>
      rw [braceBalanceFrom_none_cons, braceBalanceFrom_none_cons]
      have hcode := ih none false
      have hliteral := ih (some c) false
      split_ifs <;> omega
    | some q =>
      rw [braceBalanceFrom_some_cons, braceBalanceFrom_some_cons]
      split_ifs <;> exact ih _ _

theorem Opener.whole_concat (o : Opener lines i) (inner : List Line) (piece : Line) :
    ∃ before last, ∀ t, o.whole (inner ++ [piece ++ t]) = before ++ [last ++ t] := by
  cases inner with
  | nil => exact ⟨[], o.lead ++ '{' :: piece, fun t => by simp [whole]⟩
  | cons l inner => exact ⟨o.whole (l :: inner), piece, fun t => by simp [whole]⟩

/-- Before its closing brace, one brace of the region is open. -/
theorem Opener.ClosesAt.one {o : Opener lines i} {c : Closer o.text} (h : o.ClosesAt c) :
    total braceBalance (o.whole c.between) = 1 := by
  obtain ⟨before, last, hwhole⟩ := o.whole_concat c.inner c.piece
  have hbetween : o.whole c.between = before ++ [last] := by simpa [Closer.between] using hwhole []
  have hstays := h.stays c.between (self_mem_places _)
  have hcloses := h.closes
  have hlast := braceBalanceFrom_concat none false last
  rw [hbetween, total_append, total_singleton] at hstays ⊢
  rw [hwhole, total_append, total_singleton] at hcloses
  unfold braceBalance at *
  omega

theorem ne_nil_of_mem_places {ps ls : List Line} (h : ps ∈ places ls) (hls : ls ≠ []) : ps ≠ [] := by
  rintro rfl
  cases ls with
  | nil => exact hls rfl
  | cons l ls => simp [places] at h

theorem Opener.total_whole (o : Opener lines i) {ls : List Line} (h : ls ≠ []) :
    total balance (o.whole ls) = total balance ls + 1 := by
  cases ls with
  | nil => exact absurd rfl h
  | cons l ls =>
    have hlead : o.lead.count '{' = 0 ∧ o.lead.count '}' = 0 :=
      ⟨List.count_eq_zero_of_not_mem o.noBraces.1, List.count_eq_zero_of_not_mem o.noBraces.2⟩
    simp only [total_balance_flatten, whole, List.modifyHead_cons, List.flatten_cons, balance, List.count_append, hlead,
      List.count_cons]
    simp
    ring

/-- A cut ends at the closing brace that the count outside of literals says exactly if the braces in literals never close
the last one that is open, and as many of them open as close. -/
theorem Opener.blockAt_closed_iff (o : Opener lines i) (c : Closer o.text) (h : o.ClosesAt c) :
    blockAt lines i = o.closed c ↔
      (∀ ps ∈ places c.between, 0 < total braceBalance (o.whole ps) + total literalBalance (o.whole ps)) ∧
        total literalBalance (o.whole c.between) = 0 := by
  have hne : c.between ≠ [] := by simp [Closer.between]
  rw [o.blockAt_eq_closed_iff, paired_iff_places]
  refine and_congr ?_ ?_
  · refine forall₂_congr fun ps hps => ?_
    have hwhole := o.total_whole (ne_nil_of_mem_places hps hne)
    rw [total_balance] at hwhole
    omega
  · have hwhole := o.total_whole hne
    rw [total_balance, h.one] at hwhole
    omega

end

/-! ### A brace pair and a single brace in a literal -/

def pairLines : List Line := ["\x7b", "printf(\"\x7b\x7d\");", "\x7d"].map String.toList

def pairOpener : Opener pairLines 0 := ⟨[], [], [], pairLines.drop 1, rfl, noOpening_nil, noBraces_nil⟩

def pairCloser : Closer pairOpener.text := ⟨[[], "printf(\"\x7b\x7d\");".toList], [], [], [], rfl⟩

theorem blockAt_pairLines :
    pairOpener.ClosesAt pairCloser ∧ blockAt pairLines 0 = ⟨["printf(\"\x7b\x7d\");".toList], 3, pairLines⟩ := by
  have hcloses : pairOpener.ClosesAt pairCloser := ⟨by decide, by decide⟩
  exact ⟨hcloses, (pairOpener.blockAt_closed_iff pairCloser hcloses).2 ⟨by decide, by decide⟩⟩

def singleLines : List Line := ["\x7b", "puts(\"\x7d\");", "\x7d"].map String.toList

def singleOpener : Opener singleLines 0 := ⟨[], [], [], singleLines.drop 1, rfl, noOpening_nil, noBraces_nil⟩

def singleCloser : Closer singleOpener.text := ⟨[[], "puts(\"\x7d\");".toList], [], [], [], rfl⟩

/-- The closing brace in the literal ends the cut. -/
theorem blockAt_singleLines :
    singleOpener.ClosesAt singleCloser ∧
      blockAt singleLines 0 = ⟨["puts(\"".toList], 1, singleLines.set 1 "\");".toList⟩ ∧
      blockAt singleLines 0 ≠ singleOpener.closed singleCloser := by
  refine ⟨⟨by decide, by decide⟩, rfl, fun h => ?_⟩
  have hnext : (1 : ℕ) = 3 := congrArg Edit.next h
  exact absurd hnext (by decide)

end FlowSketch.SystemsRegion
