import FlowSketch.BraceStatement
import Mathlib

/-!
# Where statements end

A token list is cut back to its last complete statement from its end. What is complete already stays complete
when tokens follow, unless they close a parenthesis that was opened before, or only newlines follow a newline.
-/
namespace FlowSketch.BraceStatement

/-- Whether a token outside parentheses ends a statement, when text has been seen after it. -/
def terminates (seen : Bool) (earlier : List Token) (t : Token) : Bool :=
  if t.isNewline then seen else t.isSemicolon || (t.isOperator ":" && closesCase earlier)

/-- The number of parentheses that are closed but not opened, with the token before. -/
def depthBefore (t : Token) (depth : ℕ) : ℕ :=
  if t.isClose then depth + 1 else if t.isOpen then depth - 1 else depth

def unopened : List Token → ℕ
  | [] => 0
  | t :: ts => depthBefore t (unopened ts)

def hasText (ts : List Token) : Bool := ts.any fun t => !t.isNewline

theorem kinds_disjoint {t : Token} {v : String} (h : t.isNewline = true) : t.isPunctuation v = false := by
  simp_all [Token.isNewline, Token.isPunctuation]

theorem values_disjoint {t : Token} {v w : String} (hne : v ≠ w) (h : t.isPunctuation v = true) :
    t.isPunctuation w = false := by
  simp_all [Token.isPunctuation]

/-- No parenthesis ends a statement. -/
theorem terminates_paren {seen : Bool} {earlier : List Token} {t : Token} (h : t.isClose = true ∨ t.isOpen = true) :
    terminates seen earlier t = false := by
  rcases h with h | h <;>
    simp_all [terminates, Token.isClose, Token.isOpen, Token.isNewline, Token.isSemicolon, Token.isPunctuation,
      Token.isOperator]

/-- The cut stops at a token that ends a statement, or goes on with what is before it. -/
theorem completeBefore_cons (depth : ℕ) (seen : Bool) (t : Token) (earlier : List Token) :
    completeBefore depth seen (t :: earlier) =
      if depth = 0 ∧ terminates seen earlier t = true then t :: earlier
      else completeBefore (depthBefore t depth) (seen || !t.isNewline) earlier := by
  rw [completeBefore]
  by_cases hn : t.isNewline = true
  · have hclose : t.isClose = false := kinds_disjoint hn
    have hopen : t.isOpen = false := kinds_disjoint hn
    simp [hn, terminates, depthBefore, hclose, hopen]
  by_cases hclose : t.isClose = true
  · simp [hn, hclose, depthBefore, terminates_paren (.inl hclose)]
  by_cases hopen : t.isOpen = true
  · simp [hn, hclose, hopen, depthBefore, terminates_paren (.inr hopen)]
  · simp [hn, hclose, hopen, depthBefore, terminates]

theorem completeBefore_length (depth : ℕ) (seen : Bool) (ts : List Token) :
    (completeBefore depth seen ts).length ≤ ts.length := by
  induction ts generalizing depth seen with
  | nil => simp [completeBefore]
  | cons t ts ih =>
    rw [completeBefore_cons]
    split
    · exact le_rfl
    · exact (ih _ _).trans (by simp)

/-- What is cut back to ends with a token that ends a statement. -/
theorem completeBefore_head {depth : ℕ} {seen : Bool} {ts earlier : List Token} {t : Token}
    (h : completeBefore depth seen ts = t :: earlier) : terminates true earlier t = true := by
  induction ts generalizing depth seen with
  | nil => simp [completeBefore] at h
  | cons u ts ih =>
    rw [completeBefore_cons] at h
    split at h
    · rename_i hstop
      obtain ⟨rfl, rfl⟩ := List.cons.inj h
      have := hstop.2
      unfold terminates at this ⊢
      split <;> simp_all
    · exact ih h

/-! ### Parentheses -/

/-- A list closes no parenthesis that it does not open. -/
def SelfContained (ts : List Token) : Prop := ∀ p, p <+: ts → p.countP Token.isClose ≤ p.countP Token.isOpen

theorem unopened_le_iff {ts : List Token} {n : ℕ} :
    unopened ts ≤ n ↔ ∀ p, p <+: ts → p.countP Token.isClose ≤ p.countP Token.isOpen + n := by
  induction ts generalizing n with
  | nil => simp [unopened]
  | cons t ts ih =>
    have hstep : unopened (t :: ts) ≤ n ↔
        ∀ q, q <+: ts → (t :: q).countP Token.isClose ≤ (t :: q).countP Token.isOpen + n := by
      by_cases hclose : t.isClose = true
      · have hopen : t.isOpen = false := values_disjoint (by decide) hclose
        cases n with
        | zero =>
          refine ⟨fun h => ?_, fun h => ?_⟩
          · simp [unopened, depthBefore, hclose] at h
          · have := h [] (List.nil_prefix)
            simp [hclose, hopen] at this
        | succ n =>
          simp only [unopened, depthBefore, hclose, if_true, Nat.add_le_add_iff_right, ih, List.countP_cons, hopen]
          refine forall₂_congr fun q _ => ?_
          simp
          omega
      · rw [Bool.not_eq_true] at hclose
        by_cases hopen : t.isOpen = true
        · simp only [unopened, depthBefore, hclose, hopen, if_true, if_false, Bool.false_eq_true, Nat.sub_le_iff_le_add,
            ih, List.countP_cons]
          refine forall₂_congr fun q _ => ?_
          omega
        · simp [unopened, depthBefore, hclose, hopen, ih]
    rw [hstep]
    refine ⟨fun h p hp => ?_, fun h q hq => h _ (List.cons_prefix_cons.mpr ⟨rfl, hq⟩)⟩
    cases p with
    | nil => simp
    | cons u p =>
      obtain ⟨rfl, hp'⟩ := List.cons_prefix_cons.mp hp
      exact h p hp'

theorem unopened_eq_zero {ts : List Token} : unopened ts = 0 ↔ SelfContained ts := by
  rw [← Nat.le_zero, unopened_le_iff]
  rfl

/-! ### What follows -/

/-- Among the tokens `x` that follow, with `y` after them, there is one that ends a statement. -/
def EndsBetween (kept x y : List Token) : Prop :=
  ∃ before t after, x = before ++ t :: after ∧ SelfContained (after ++ y) ∧
    terminates (hasText (after ++ y)) (kept ++ before).reverse t = true

theorem endsBetween_snoc {kept x y : List Token} {t : Token} :
    EndsBetween kept (x ++ [t]) y ↔
      (SelfContained y ∧ terminates (hasText y) (kept ++ x).reverse t = true) ∨ EndsBetween kept x (t :: y) := by
  constructor
  · rintro ⟨before, u, after, hx, hself, hstop⟩
    rcases List.eq_nil_or_concat after with rfl | ⟨after, v, rfl⟩
    · obtain ⟨rfl, hu⟩ := List.append_inj' hx rfl
      obtain rfl : t = u := by simpa using hu
      exact .inl ⟨hself, hstop⟩
    · rw [List.concat_eq_append, ← List.cons_append, ← List.append_assoc] at hx
      obtain ⟨rfl, hv⟩ := List.append_inj' hx rfl
      obtain rfl : t = v := by simpa using hv
      exact .inr ⟨before, u, after, rfl, by simpa using hself, by simpa using hstop⟩
  · rintro (⟨hself, hstop⟩ | ⟨before, u, after, rfl, hself, hstop⟩)
    · exact ⟨x, t, [], rfl, hself, hstop⟩
    · exact ⟨before, u, after ++ [t], by simp, by simpa using hself, by simpa using hstop⟩

/-- Read from the end, the cut stops at the end of a statement among the tokens that follow, or it comes to what is
kept; the induction takes the tokens that follow one by one from their end. -/
theorem completeBefore_append (kept x y : List Token) :
    (EndsBetween kept x y → kept.length < (completeBefore (unopened y) (hasText y) (kept ++ x).reverse).length) ∧
      (¬ EndsBetween kept x y →
        completeBefore (unopened y) (hasText y) (kept ++ x).reverse =
          completeBefore (unopened (x ++ y)) (hasText (x ++ y)) kept.reverse) := by
  induction x using List.reverseRecOn generalizing y with
  | nil => exact ⟨by rintro ⟨before, t, after, hx, -⟩; simp at hx, fun _ => by simp⟩
  | append_singleton x t ih =>
    have hread : (kept ++ (x ++ [t])).reverse = t :: (kept ++ x).reverse := by simp
    have hdepth : depthBefore t (unopened y) = unopened (t :: y) := rfl
    have hseen : (hasText y || !t.isNewline) = hasText (t :: y) := by simp [hasText, Bool.or_comm]
    rw [hread, completeBefore_cons, endsBetween_snoc, ← unopened_eq_zero, hdepth, hseen]
    by_cases hstop : unopened y = 0 ∧ terminates (hasText y) (kept ++ x).reverse t = true
    · simp only [hstop, and_self, if_true, true_or, true_implies, not_true_eq_false, false_implies, and_true]
      simp
    · simp only [hstop, if_false, false_or]
      simpa using ih (t :: y)

/-- Whether complete tokens stay complete when others follow them. -/
def StaysComplete (kept later : List Token) : Prop :=
  kept = [] ∨ EndsBetween kept later [] ∨
    (SelfContained later ∧ ((∀ t ∈ kept.getLast?, t.isNewline = false) ∨ hasText later = true))

/-- Complete tokens are no less than what is complete of a longer list exactly when they stay complete. -/
theorem complete_append {before kept : List Token} (h : complete before = kept) (later : List Token) :
    kept.length ≤ (complete (kept ++ later)).length ↔ StaysComplete kept later := by
  have hscan : (EndsBetween kept later [] → kept.length < (complete (kept ++ later)).length) ∧
      (¬ EndsBetween kept later [] → (complete (kept ++ later)).length =
        (completeBefore (unopened later) (hasText later) kept.reverse).length) := by
    obtain ⟨hin, hout⟩ := completeBefore_append kept later []
    rw [List.append_nil] at hout
    rw [complete, List.length_reverse]
    exact ⟨hin, fun hends => congrArg List.length (hout hends)⟩
  rw [StaysComplete]
  by_cases hends : EndsBetween kept later []
  · simpa [hends] using (hscan.1 hends).le
  · rw [hscan.2 hends]
    cases hr : kept.reverse with
    | nil => simp [List.reverse_eq_nil_iff.mp hr]
    | cons t earlier =>
      have hkept : kept = (t :: earlier).reverse := by rw [← hr, List.reverse_reverse]
      have hlast : terminates true earlier t = true :=
        completeBefore_head (by rw [← hr, ← h, complete, List.reverse_reverse])
      have hstop : terminates (hasText later) earlier t = true ↔ t.isNewline = false ∨ hasText later = true := by
        unfold terminates at hlast ⊢
        split <;> simp_all
      have hcut := completeBefore_length (depthBefore t (unopened later)) (hasText later || !t.isNewline) earlier
      rw [completeBefore_cons, ← unopened_eq_zero, hkept]
      by_cases hall : unopened later = 0 ∧ terminates (hasText later) earlier t = true
      · simp [hall, hstop.mp hall.2]
      · have hnot : ¬ (unopened later = 0 ∧ (t.isNewline = false ∨ hasText later = true)) := by rwa [← hstop]
        rw [if_neg hall]
        refine iff_of_false ?_ ?_
        · simp
          omega
        · rintro (hnil | hin | hend)
          · simp at hnil
          · exact hends (hkept ▸ hin)
          · exact hnot (by simpa using hend)

end FlowSketch.BraceStatement
