import FlowSketch.Proofs.TextEnds
import FlowSketch.TextBracket

/-!
# Pairs of brackets

A text is read from left to right: an opening bracket takes what stands before the next closing one, if there is anything,
and no bracket that is taken so is looked at again. What is inside of a pair can therefore open another one afterwards.
-/
namespace FlowSketch.TextBracket

/-- A bracket behind the beginning of a text opens a pair with something in it. -/
def OpensAt (cs before : List Char) : Prop := ∃ c rest, cs = before ++ '[' :: c :: rest ∧ c ≠ ']' ∧ ']' ∈ rest

/-- What is read at once: a pair of brackets with something in it, or one character. -/
inductive Piece where
  | pair (inside : List Char)
  | single (c : Char)
  deriving DecidableEq, Repr

def Piece.text : Piece → List Char
  | pair inside => '[' :: (inside ++ [']'])
  | single c => [c]

def Piece.rounded : Piece → List Char
  | pair inside => '(' :: (inside ++ [')'])
  | single c => [c]

/-- The pieces that a text is read as. -/
inductive Reads : List Char → List Piece → Prop where
  | nil : Reads [] []
  | pair {inside rest : List Char} {ps : List Piece} (hne : inside ≠ []) (hopen : ']' ∉ inside) (hrest : Reads rest ps) :
    Reads ('[' :: (inside ++ ']' :: rest)) (.pair inside :: ps)
  | single {c : Char} {rest : List Char} {ps : List Piece} (hno : ¬ OpensAt (c :: rest) []) (hrest : Reads rest ps) :
    Reads (c :: rest) (.single c :: ps)

/-- The text that pieces were read from. -/
def written (ps : List Piece) : List Char := ps.flatMap Piece.text

/-- The text of pieces with their pairs in round brackets. -/
def roundedPieces (ps : List Piece) : List Char := ps.flatMap Piece.rounded

variable {cs : List Char} {c : Char} {ps : List Piece}

theorem OpensAt.isPrefix {before : List Char} (h : OpensAt cs before) : before ++ ['['] <+: cs := by
  obtain ⟨d, rest, rfl, -⟩ := h
  exact ⟨d :: rest, by simp⟩

theorem OpensAt.behind {before : List Char} (h : OpensAt cs before) (lead : List Char) :
    OpensAt (lead ++ cs) (lead ++ before) := by
  obtain ⟨d, rest, rfl, hd⟩ := h
  exact ⟨d, rest, by simp, hd⟩

/-! ### Rounding from left to right -/

theorem pairs_iff : (c = '[' && !(cs.takeWhile (· ≠ ']')).isEmpty && !(cs.dropWhile (· ≠ ']')).isEmpty) = true ↔
    OpensAt (c :: cs) [] := by
  have hdrop : cs.dropWhile (· ≠ ']') ≠ [] ↔ ']' ∈ cs := by
    rw [Ne, List.dropWhile_eq_nil_iff]
    simp
  simp only [Bool.and_eq_true, decide_eq_true_eq, Bool.not_eq_true', List.isEmpty_eq_false_iff, hdrop]
  constructor
  · rintro ⟨⟨rfl, hinside⟩, hclosed⟩
    cases cs with
    | nil => exact absurd rfl hinside
    | cons d cs =>
      have hd : d ≠ ']' := by
        rintro rfl
        exact hinside rfl
      exact ⟨d, cs, rfl, hd, (List.mem_cons.mp hclosed).resolve_left (Ne.symm hd)⟩
  · rintro ⟨d, rest, heq, hd, hclosed⟩
    obtain ⟨rfl, rfl⟩ := List.cons.inj heq
    refine ⟨⟨rfl, ?_⟩, List.mem_cons_of_mem d hclosed⟩
    rw [List.takeWhile_cons_of_pos (by simpa using hd)]
    exact List.cons_ne_nil _ _

theorem rounded_single (h : ¬ OpensAt (c :: cs) []) : rounded (c :: cs) = c :: rounded cs := by
  rw [rounded, if_neg (mt pairs_iff.1 h)]

/-- What a bracket that opens a pair takes. -/
theorem exists_pair (h : OpensAt cs []) : ∃ inside rest, cs = '[' :: (inside ++ ']' :: rest) ∧ inside ≠ [] ∧ ']' ∉ inside := by
  obtain ⟨c, later, rfl, hc, hclosed⟩ := h
  obtain ⟨inside, rest, rfl, hopen⟩ := List.eq_append_cons_of_mem hclosed
  exact ⟨c :: inside, rest, rfl, List.cons_ne_nil c inside, by simp [hc.symm, hopen]⟩

theorem rounded_pair {inside : List Char} (hne : inside ≠ []) (hopen : ']' ∉ inside) (rest : List Char) :
    rounded ('[' :: (inside ++ ']' :: rest)) = '(' :: (inside ++ ')' :: rounded rest) := by
  have hin : ∀ d ∈ inside, decide (d ≠ ']') = true := by
    intro d hd
    apply decide_eq_true
    rintro rfl
    exact hopen hd
  have htake : (inside ++ ']' :: rest).takeWhile (· ≠ ']') = inside := by
    rw [List.takeWhile_append_of_pos hin]
    simp
  have hdrop : (inside ++ ']' :: rest).dropWhile (· ≠ ']') = ']' :: rest := by
    rw [List.dropWhile_append_of_pos hin]
    simp
  rw [rounded, htake, hdrop]
  simp [hne]

theorem exists_reads (cs : List Char) : ∃ ps, Reads cs ps := by
  induction hlength : cs.length using Nat.strong_induction_on generalizing cs with
  | _ n ih =>
    by_cases h : OpensAt cs []
    · obtain ⟨inside, rest, rfl, hne, hopen⟩ := exists_pair h
      obtain ⟨ps, hps⟩ := ih rest.length (by simp at hlength; omega) rest rfl
      exact ⟨_, .pair hne hopen hps⟩
    · cases cs with
      | nil => exact ⟨[], .nil⟩
      | cons c cs =>
        obtain ⟨ps, hps⟩ := ih cs.length (by simp at hlength; omega) cs rfl
        exact ⟨_, .single h hps⟩

namespace Reads

theorem rounded_eq (h : Reads cs ps) : rounded cs = roundedPieces ps := by
  induction h with
  | nil => rw [rounded]; rfl
  | pair hne hopen _ ih =>
    rw [rounded_pair hne hopen, ih]
    simp [roundedPieces, Piece.rounded]
  | single hno _ ih =>
    rw [rounded_single hno, ih]
    rfl

theorem written_eq (h : Reads cs ps) : written ps = cs := by
  induction h with
  | nil => rfl
  | pair _ _ _ ih => simp [written, Piece.text, ← ih]
  | single _ _ ih => exact congrArg _ ih

/-- No pair has a closing bracket in it. -/
theorem pair_open {inside : List Char} (h : Reads cs ps) (hmem : .pair inside ∈ ps) : ']' ∉ inside := by
  induction h with
  | nil => cases hmem
  | pair _ hopen _ ih =>
    rcases List.mem_cons.mp hmem with heq | hmem
    · rwa [Piece.pair.inj heq]
    · exact ih hmem
  | single _ _ ih => exact ih ((List.mem_cons.mp hmem).resolve_left nofun)

theorem single_mem {c : Char} (h : Reads cs ps) (hmem : .single c ∈ ps) : c ∈ cs := by
  rw [← h.written_eq]
  exact List.mem_flatMap.mpr ⟨.single c, hmem, List.mem_singleton_self c⟩

/-- A closing bracket that is left stood on its own. -/
theorem closing_single {p : Piece} (h : Reads cs ps) (hp : p ∈ ps) (hclosing : ']' ∈ p.rounded) : p = .single ']' := by
  cases p with
  | single c => rw [List.mem_singleton.mp hclosing]
  | pair inside =>
    refine absurd ?_ (h.pair_open hp)
    simpa [Piece.rounded] using hclosing

/-- An opening bracket on its own stands in front of a closing one, or has none behind it. -/
theorem single_open {before after : List Piece} (h : Reads cs ps) (hps : ps = before ++ .single '[' :: after) :
    after.head? = some (.single ']') ∨ .single ']' ∉ after := by
  induction h generalizing before with
  | nil => cases before <;> cases hps
  | pair _ _ _ ih =>
    cases before with
    | nil => cases hps
    | cons p before => exact ih (List.cons.inj hps).2
  | @single c rest ps hno hrest ih =>
    cases before with
    | cons p before => exact ih (List.cons.inj hps).2
    | nil =>
      obtain ⟨hc, rfl⟩ := List.cons.inj hps
      obtain rfl := Piece.single.inj hc
      by_cases hclosed : rest.head? = some ']'
      · obtain ⟨later, rfl⟩ := List.head?_eq_some_iff.mp hclosed
        cases hrest
        exact .inl rfl
      · refine .inr fun hmem => ?_
        have hin : ']' ∈ rest := hrest.single_mem hmem
        cases rest with
        | nil => cases hin
        | cons d later =>
          have hd : d ≠ ']' := fun hd => hclosed (congrArg some hd)
          exact hno ⟨d, later, rfl, hd, (List.mem_cons.mp hin).resolve_left (Ne.symm hd)⟩

/-- An opening bracket on its own is closed at once, if at all, when the pairs are rounded. -/
theorem closed_at_once {before after : List Piece} (h : Reads cs (before ++ .single '[' :: after))
    (hclosed : ']' ∈ roundedPieces after) : after.head? = some (.single ']') := by
  obtain ⟨p, hp, hclosing⟩ := List.mem_flatMap.mp hclosed
  have hmem : p ∈ before ++ .single '[' :: after := List.mem_append_right _ (List.mem_cons_of_mem _ hp)
  rw [h.closing_single hmem hclosing] at hp
  exact (h.single_open rfl).resolve_right fun hnone => hnone hp

end Reads

/-! ### Brackets that are left -/

/-- A character of the text of pieces belongs to one of them. -/
theorem exists_piece {f : Piece → List Char} {as bs : List Char} (h : ps.flatMap f = as ++ c :: bs) :
    ∃ before p after us vs, ps = before ++ p :: after ∧ f p = us ++ c :: vs ∧ as = before.flatMap f ++ us ∧
      bs = vs ++ after.flatMap f := by
  induction ps generalizing as with
  | nil => exact absurd h.symm (List.append_ne_nil_of_right_ne_nil _ (List.cons_ne_nil _ _))
  | cons p ps ih =>
    have hlater (xs : List Char) (hxs : ps.flatMap f = xs ++ c :: bs) (has : as = f p ++ xs) :
        ∃ before q after us vs, p :: ps = before ++ q :: after ∧ f q = us ++ c :: vs ∧ as = before.flatMap f ++ us ∧
          bs = vs ++ after.flatMap f := by
      obtain ⟨before, q, after, us, vs, rfl, hq, rfl, hbs⟩ := ih hxs
      exact ⟨p :: before, q, after, us, vs, rfl, hq, by simp [has], hbs⟩
    rw [List.flatMap_cons] at h
    rcases List.append_eq_append_iff.mp h with ⟨xs, has, hxs⟩ | ⟨ys, hp, hys⟩
    · exact hlater xs hxs has
    · cases ys with
      | nil => exact hlater [] hys.symm (by simpa using hp.symm)
      | cons d vs =>
        obtain ⟨rfl, hbs⟩ := List.cons.inj hys
        exact ⟨[], p, ps, as, vs, rfl, hp, rfl, hbs⟩

theorem Piece.single_split {d : Char} {us vs : List Char} (h : (single d).rounded = us ++ c :: vs) :
    us = [] ∧ d = c ∧ vs = [] := by
  cases us <;> simp_all [Piece.rounded]

/-- An opening bracket that is left of a pair is inside of it. -/
theorem Piece.pair_split {inside us vs : List Char} (h : (pair inside).rounded = us ++ '[' :: vs) :
    ∃ a b, inside = a ++ '[' :: b ∧ us = '(' :: a ∧ vs = b ++ [')'] := by
  cases us with
  | nil => simp [Piece.rounded] at h
  | cons e a =>
    obtain ⟨rfl, hrest⟩ := List.cons.inj h
    have hinside : inside ++ [')'] = a ++ '[' :: vs := hrest
    rcases List.eq_nil_or_concat vs with rfl | ⟨b, f, rfl⟩
    · have hlast := (List.append_inj' hinside rfl).2
      simp at hlast
    · rw [List.concat_eq_append] at hinside ⊢
      have hends : inside ++ [')'] = (a ++ '[' :: b) ++ [f] := by simpa using hinside
      obtain ⟨rfl, hlast⟩ := List.append_inj' hends rfl
      obtain rfl := (List.cons.inj hlast).1
      exact ⟨a, b, rfl, rfl, rfl⟩

/-- A bracket that opens a pair once the pairs of a text are rounded stood inside of one, and what closes it now stood on
its own. -/
theorem Reads.exists_reopening {as bs later : List Char} (h : Reads cs ps) (hc : c ≠ ']')
    (hrounded : rounded cs = as ++ '[' :: c :: (bs ++ ']' :: later)) :
    ∃ before a b between after, ps = before ++ .pair (a ++ '[' :: b) :: (between ++ .single ']' :: after) ∧
      as = roundedPieces before ++ '(' :: a ∧
      as ++ '[' :: c :: bs = roundedPieces (before ++ .pair (a ++ '[' :: b) :: between) := by
  rw [h.rounded_eq] at hrounded
  obtain ⟨before, p, rest, us, vs, rfl, hp, rfl, hrest⟩ := exists_piece hrounded
  cases p with
  | single d =>
    obtain ⟨rfl, rfl, rfl⟩ := Piece.single_split hp
    have hclosed : ']' ∈ roundedPieces rest := by
      rw [List.nil_append] at hrest
      simp [roundedPieces, ← hrest]
    obtain ⟨after, rfl⟩ := List.head?_eq_some_iff.mp (h.closed_at_once hclosed)
    exact absurd (List.cons.inj hrest).1 hc
  | pair inside =>
    have hopen : ']' ∉ inside := h.pair_open (by simp)
    obtain ⟨a, b, rfl, rfl, rfl⟩ := Piece.pair_split hp
    have hbracket : ']' ∉ b ++ [')'] := by
      simp at hopen ⊢
      exact hopen.2
    rw [← List.cons_append] at hrest
    obtain ⟨xs, hbs, hxs⟩ := TextBlank.exists_of_append_eq hbracket hrest.symm
    obtain ⟨between, q, after, us, vs, rfl, hq, rfl, -⟩ := exists_piece hxs
    obtain rfl : q = .single ']' := h.closing_single (by simp) (by rw [hq]; simp)
    obtain ⟨rfl, -, -⟩ := Piece.single_split hq
    refine ⟨before, a, b, between, after, rfl, rfl, ?_⟩
    rw [hbs]
    simp [roundedPieces, Piece.rounded]

/-! ### Rounding a text again -/

theorem rounded_eq_self (h : ∀ before, ¬ OpensAt cs before) : rounded cs = cs := by
  induction cs with
  | nil => rw [rounded]
  | cons c cs ih =>
    have hlater : ∀ before, ¬ OpensAt cs before := fun before hopens => h (c :: before) (hopens.behind [c])
    rw [rounded_single (h []), ih hlater]

/-- The first bracket that opens a pair is rounded. -/
theorem exists_first {before : List Char} (h : OpensAt cs before) :
    ∃ first, first <+: before ∧ OpensAt cs first ∧ ∃ later, rounded cs = first ++ '(' :: later := by
  induction before generalizing cs with
  | nil =>
    obtain ⟨inside, rest, rfl, hne, hopen⟩ := exists_pair h
    exact ⟨[], List.prefix_rfl, h, _, rounded_pair hne hopen rest⟩
  | cons c before ih =>
    by_cases hnow : OpensAt cs []
    · obtain ⟨inside, rest, rfl, hne, hopen⟩ := exists_pair hnow
      exact ⟨[], List.nil_prefix, hnow, _, rounded_pair hne hopen rest⟩
    · obtain ⟨d, rest, rfl, hd⟩ := h
      have hlater : OpensAt (before ++ '[' :: d :: rest) before := ⟨d, rest, rfl, hd⟩
      obtain ⟨first, hfirst, hopens, later, hrounded⟩ := ih hlater
      refine ⟨c :: first, (List.prefix_cons_inj c).mpr hfirst, hopens.behind [c], later, ?_⟩
      rw [List.cons_append] at hnow ⊢
      rw [rounded_single hnow, hrounded, List.cons_append]

theorem rounded_append {lead : List Char} (h : '[' ∉ lead) (cs : List Char) :
    rounded (lead ++ cs) = lead ++ rounded cs := by
  induction lead with
  | nil => rfl
  | cons c lead ih =>
    obtain ⟨hc, hlead⟩ := not_or.mp (mt List.mem_cons.mpr h)
    have hno : ¬ OpensAt (c :: (lead ++ cs)) [] := by
      rintro ⟨d, rest, heq, -⟩
      exact hc (List.cons.inj heq).1.symm
    rw [List.cons_append, rounded_single hno, ih hlead, List.cons_append]

theorem opensAt_append {lead before : List Char} (hlead : '[' ∉ lead) (h : OpensAt (lead ++ cs) before) :
    ∃ later, before = lead ++ later ∧ OpensAt cs later := by
  obtain ⟨d, rest, heq, hd⟩ := h
  obtain ⟨later, rfl, hcs⟩ := TextBlank.exists_of_append_eq hlead heq
  exact ⟨later, rfl, d, rest, hcs, hd⟩

theorem mem_rounded (h : c ∈ rounded cs) : c ∈ cs ∨ c = '(' ∨ c = ')' := by
  obtain ⟨ps, hps⟩ := exists_reads cs
  rw [hps.rounded_eq] at h
  obtain ⟨p, hp, hc⟩ := List.mem_flatMap.mp h
  rw [← hps.written_eq, written, List.mem_flatMap]
  cases p with
  | single d => exact .inl ⟨_, hp, hc⟩
  | pair inside =>
    simp only [Piece.rounded, List.mem_cons, List.mem_append, List.not_mem_nil, or_false] at hc
    rcases hc with hc | hc | hc
    · exact .inr (.inl hc)
    · exact .inl ⟨_, hp, by simp [Piece.text, hc]⟩
    · exact .inr (.inr hc)

/-- Round brackets made square. -/
def square (c : Char) : Char := if c = '(' then '[' else if c = ')' then ']' else c

/-- Rounding leaves every character in its place. -/
theorem map_square_rounded (ps : List Piece) : (roundedPieces ps).map square = (written ps).map square := by
  induction ps with
  | nil => rfl
  | cons p ps ih =>
    have hpiece : p.rounded.map square = p.text.map square := by
      cases p <;> simp [Piece.rounded, Piece.text, square]
    rw [roundedPieces, written, List.flatMap_cons, List.flatMap_cons, List.map_append, List.map_append, hpiece,
      ← roundedPieces, ih, ← written]

end FlowSketch.TextBracket
