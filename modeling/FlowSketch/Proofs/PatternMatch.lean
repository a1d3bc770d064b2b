import FlowSketch.PatternBuild
import Mathlib

/-!
# Patterns as a relation between places

`Matches` says what a pattern accepts without an order of trials. The backtracking matcher finds an
outcome exactly when some accepted place lets the rest succeed, and what it finds is such an outcome.
-/
namespace FlowSketch.Pattern

/-- Exactly `n` passes of a relation. -/
def Passes (r : Place → Place → Prop) : ℕ → Place → Place → Prop
  | 0, s, t => t = s
  | n + 1, s, t => ∃ u, r s u ∧ Passes r n u t

/-- The characters that bound how often a repetition may go on. -/
def allowance (extra : Option ℕ) (rest : List Char) : List Char := (extra.map (rest.take ·)).getD rest

/-- The pattern leads from one place to another. -/
def Matches : Pattern → Place → Place → Prop
  | empty, s, t => t = s
  | one p, s, t => ∃ c cs, s.rest = c :: cs ∧ p c = true ∧ t = { s with before := some c, rest := cs }
  | seq a b, s, t => ∃ u, a.Matches s u ∧ b.Matches u t
  | alt a b, s, t => a.Matches s t ∨ b.Matches s t
  | many a least extra _, s, t =>
    ∃ u, Passes a.Matches least s u ∧
      ∃ n ≤ (allowance extra u.rest).length, Passes a.Matches n u t
  | group i a, s, t =>
    ∃ u, a.Matches s u ∧ t = { u with groups := (i, ⟨s.rest, u.rest⟩) :: u.groups }
  | edge, s, t => t = s ∧ isEdge s.before s.rest.head? = true
  | notNext a, s, t => t = s ∧ ¬ ∃ u, a.Matches s u
  | start, s, t => t = s ∧ s.before = none
  | lineStart, s, t => t = s ∧ (s.before = none ∨ s.before = some '\n')
  | stop, s, t => t = s ∧ (s.rest = [] ∨ s.rest = ['\n'])

/-- A step tries the places of a relation: its outcomes come from them, and none of them is missed. -/
structure Tries {α : Type} (step : Step α) (r : Place → Place → Prop) : Prop where
  sound : ∀ {s k x}, step s k = some x → ∃ t, r s t ∧ k t = some x
  complete : ∀ {s t} {k : Place → Option α}, r s t → (k t).isSome → (step s k).isSome

namespace Tries
variable {α : Type} {a b : Step α} {q r : Place → Place → Prop}

theorem here : Tries (fun s (k : Place → Option α) => k s) fun s t => t = s :=
  ⟨fun hx => ⟨_, rfl, hx⟩, fun ht hk => ht ▸ hk⟩

theorem seq (ha : Tries a q) (hb : Tries b r) :
    Tries (fun s k => a s fun t => b t k) fun s t => ∃ u, q s u ∧ r u t := by
  refine ⟨fun hx => ?_, fun ⟨u, hu, ht⟩ hk => ha.complete hu (hb.complete ht hk)⟩
  obtain ⟨u, hu, hx⟩ := ha.sound hx
  obtain ⟨t, ht, hx⟩ := hb.sound hx
  exact ⟨t, ⟨u, hu, ht⟩, hx⟩

theorem orElse (ha : Tries a q) (hb : Tries b r) :
    Tries (fun s k => a s k <|> b s k) fun s t => q s t ∨ r s t := by
  refine ⟨fun {s k x} hx => ?_, fun {s t k} h hk => ?_⟩
  · cases h : a s k with
    | some y =>
      obtain ⟨t, ht, hy⟩ := ha.sound h
      rw [h] at hx
      exact ⟨t, .inl ht, hy.trans hx⟩
    | none =>
      rw [h] at hx
      obtain ⟨t, ht, hx⟩ := hb.sound hx
      exact ⟨t, .inr ht, hx⟩
  · cases he : a s k with
    | some y => simp
    | none =>
      rcases h with h | h
      · simpa [he] using ha.complete h hk
      · simpa using hb.complete h hk

theorem congr (ha : Tries a q) (h : ∀ s t, q s t ↔ r s t) : Tries a r :=
  (funext₂ fun s t => propext (h s t) : q = r) ▸ ha

theorem times (ha : Tries a r) (n : ℕ) : Tries (Pattern.times a n) (Passes r n) := by
  induction n with
  | zero => exact here
  | succ n ih => exact ha.seq ih

theorem passes_upTo_succ (s t : Place) (n : ℕ) :
    (t = s ∨ ∃ u, r s u ∧ ∃ i ≤ n, Passes r i u t) ↔ ∃ i ≤ n + 1, Passes r i s t := by
  constructor
  · rintro (rfl | ⟨u, hu, i, hi, ht⟩)
    · exact ⟨0, Nat.zero_le _, rfl⟩
    · exact ⟨i + 1, Nat.succ_le_succ hi, u, hu, ht⟩
  · rintro ⟨i, hi, ht⟩
    cases i with
    | zero => exact .inl ht
    | succ i =>
      obtain ⟨u, hu, ht⟩ := ht
      exact .inr ⟨u, hu, i, Nat.le_of_succ_le_succ hi, ht⟩

/-- Whatever the order of trials, each number of passes within the allowance is tried. -/
theorem upTo (ha : Tries a r) (greedy : Bool) (fuel : List Char) :
    Tries (Pattern.upTo a greedy fuel) fun s t => ∃ n ≤ fuel.length, Passes r n s t := by
  induction fuel with
  | nil => exact here.congr fun s t => ⟨fun h => ⟨0, le_rfl, h⟩, fun ⟨n, hn, ht⟩ => by cases n <;> simp_all [Passes]⟩
  | cons c fuel ih =>
    have more := ha.seq ih
    cases greedy with
    | true => exact (more.orElse here).congr fun s t => or_comm.trans (passes_upTo_succ s t _)
    | false => exact (here.orElse more).congr fun s t => passes_upTo_succ s t _

theorem ite_none {c : Place → Bool} {p : Place → Prop} (h : ∀ s, c s = true ↔ p s) :
    Tries (fun s (k : Place → Option α) => if c s then k s else none) fun s t => t = s ∧ p s := by
  refine ⟨fun {s k x} hx => ?_, ?_⟩
  · split at hx
    · rename_i hc; exact ⟨s, ⟨rfl, (h s).mp hc⟩, hx⟩
    · simp at hx
  · rintro s t k ⟨rfl, hp⟩ hk
    simpa [(h t).mpr hp] using hk

end Tries

/-- The matcher tries exactly the places that the pattern accepts. -/
theorem tries_run (p : Pattern) : ∀ {α : Type}, Tries (α := α) p.run p.Matches := by
  induction p with
  | empty => exact Tries.here
  | one p =>
    refine ⟨fun {s k x} hx => ?_, ?_⟩
    · unfold run at hx
      split at hx
      · rename_i c cs hr
        split at hx
        · rename_i hp; exact ⟨_, ⟨c, cs, hr, hp, rfl⟩, hx⟩
        · simp at hx
      · simp at hx
    · rintro s t k ⟨c, cs, hr, hp, rfl⟩ hk
      simpa [run, hr, hp] using hk
  | seq a b iha ihb => exact iha.seq ihb
  | alt a b iha ihb => exact iha.orElse ihb
  | many a least extra greedy ih =>
    refine ⟨fun hx => ?_, ?_⟩
    · obtain ⟨u, hu, hx⟩ := (ih.times least).sound hx
      obtain ⟨t, ht, hx⟩ := (ih.upTo greedy _).sound hx
      exact ⟨t, ⟨u, hu, ht⟩, hx⟩
    · rintro s t k ⟨u, hu, ht⟩ hk
      exact (ih.times least).complete hu ((ih.upTo greedy _).complete ht hk)
  | group i a ih =>
    refine ⟨fun hx => ?_, ?_⟩
    · obtain ⟨u, hu, hx⟩ := ih.sound hx
      exact ⟨_, ⟨u, hu, rfl⟩, hx⟩
    · rintro s t k ⟨u, hu, rfl⟩ hk
      exact ih.complete hu hk
  | edge => exact Tries.ite_none fun s => Iff.rfl
  | notNext a ih =>
    intro α
    have hs : ∀ s, (a.run s some).isSome = true ↔ ∃ u, a.Matches s u := by
      intro s
      refine ⟨fun h => ?_, fun ⟨u, hu⟩ => ih.complete hu rfl⟩
      obtain ⟨x, hx⟩ := Option.isSome_iff_exists.mp h
      obtain ⟨u, hu, -⟩ := ih.sound hx
      exact ⟨u, hu⟩
    refine ⟨fun {s k x} hx => ?_, ?_⟩
    · unfold run at hx
      split at hx
      · simp at hx
      · rename_i hn
        exact ⟨s, ⟨rfl, fun h => hn ((hs s).mpr h)⟩, hx⟩
    · rintro s t k ⟨rfl, hn⟩ hk
      simpa [run, mt (hs t).mp hn] using hk
  | start => exact Tries.ite_none fun s => Option.isNone_iff_eq_none
  | lineStart => exact Tries.ite_none fun s => by simp
  | stop => exact Tries.ite_none fun s => by simp

/-- The match at the front of a text is an accepted place. -/
theorem matchStart_matches {p : Pattern} {text : List Char} {m : Place} (h : p.matchStart text = some m) :
    p.Matches ⟨none, text, []⟩ m := by
  obtain ⟨t, ht, he⟩ := (tries_run p).sound h
  rwa [← Option.some.inj he]

theorem matchStart_isSome {p : Pattern} {text : List Char} {m : Place} (h : p.Matches ⟨none, text, []⟩ m) :
    (p.matchStart text).isSome := (tries_run p).complete h rfl

theorem matchStart_eq_none {p : Pattern} {text : List Char} (h : ∀ m, ¬ p.Matches ⟨none, text, []⟩ m) :
    p.matchStart text = none := by
  cases he : p.matchStart text with
  | none => rfl
  | some m => exact absurd (matchStart_matches he) (h m)

/-- A match found anywhere is an accepted place, from some place of the text on. -/
theorem search_suffix {p : Pattern} {text : List Char} {m : Place} (h : p.search text = some m) :
    ∃ before rest, rest <:+ text ∧ p.Matches ⟨before, rest, []⟩ m := by
  have hfrom (before : Option Char) (cs : List Char) (hm : p.runAt before cs = some m) :
      p.Matches ⟨before, cs, []⟩ m := by
    obtain ⟨t, ht, he⟩ := (tries_run p).sound hm
    obtain rfl := Option.some.inj he
    exact ht
  unfold search at h
  generalize (none : Option Char) = before at h
  induction text generalizing before with
  | nil => exact ⟨before, [], List.suffix_rfl, hfrom before [] h⟩
  | cons c cs ih =>
    rw [searchFrom] at h
    rcases (Option.orElse_eq_some _ _ _).mp h with h | ⟨-, h⟩
    · exact ⟨before, c :: cs, List.suffix_rfl, hfrom before (c :: cs) h⟩
    · obtain ⟨before', rest, hrest, hm⟩ := ih (some c) h
      exact ⟨before', rest, hrest.trans (List.suffix_cons c cs), hm⟩

theorem search_matches {p : Pattern} {text : List Char} {m : Place} (h : p.search text = some m) :
    ∃ before rest, p.Matches ⟨before, rest, []⟩ m := by
  obtain ⟨before, rest, -, hm⟩ := search_suffix h
  exact ⟨before, rest, hm⟩

theorem getLast?_cons_or (c : Char) (w : List Char) (before : Option Char) :
    (c :: w).getLast?.or before = w.getLast?.or (some c) := by
  rw [List.getLast?_cons]
  cases w.getLast? <;> rfl

/-- The match that is found begins where no text before it has one. -/
theorem search_leftmost {p : Pattern} {text : List Char} {m : Place} (h : p.search text = some m) :
    ∃ passed rest, text = passed ++ rest ∧ p.Matches ⟨passed.getLast?, rest, []⟩ m ∧
      ∀ passed' rest', text = passed' ++ rest' → passed'.length < passed.length →
        ∀ t, ¬ p.Matches ⟨passed'.getLast?, rest', []⟩ t := by
  suffices hfrom : ∀ before, p.searchFrom before text = some m →
      ∃ passed rest, text = passed ++ rest ∧ p.Matches ⟨passed.getLast?.or before, rest, []⟩ m ∧
        ∀ passed' rest', text = passed' ++ rest' → passed'.length < passed.length →
          ∀ t, ¬ p.Matches ⟨passed'.getLast?.or before, rest', []⟩ t by
    simpa only [Option.or_none] using hfrom none h
  clear h
  have hhere {before : Option Char} {cs : List Char} (hm : p.runAt before cs = some m) :
      p.Matches ⟨before, cs, []⟩ m := by
    obtain ⟨t, ht, he⟩ := (tries_run p).sound hm
    exact Option.some.inj he ▸ ht
  induction text with
  | nil => exact fun before h => ⟨[], [], rfl, hhere h, by simp⟩
  | cons c cs ih =>
    intro before h
    rw [searchFrom] at h
    rcases (Option.orElse_eq_some _ _ _).mp h with h | ⟨hnone, h⟩
    · exact ⟨[], c :: cs, rfl, hhere h, by simp⟩
    · obtain ⟨passed, rest, rfl, hm, hfirst⟩ := ih (some c) h
      refine ⟨c :: passed, rest, rfl, by rwa [getLast?_cons_or], fun passed' rest' htext hlt t ht => ?_⟩
      cases passed' with
      | nil =>
        obtain rfl : c :: (passed ++ rest) = rest' := htext
        have hsome : (p.runAt before (c :: (passed ++ rest))).isSome := (tries_run p).complete ht rfl
        rw [hnone] at hsome
        cases hsome
      | cons d passed' =>
        obtain ⟨rfl, hlater⟩ := List.cons.inj htext
        rw [getLast?_cons_or] at ht
        exact hfirst passed' rest' hlater (Nat.lt_of_succ_lt_succ hlt) t ht

/-- A pattern that is accepted somewhere in a text is found. -/
theorem search_isSome {p : Pattern} {passed rest : List Char} {m : Place}
    (h : p.Matches ⟨passed.getLast?, rest, []⟩ m) : (p.search (passed ++ rest)).isSome := by
  suffices hfrom : ∀ before, p.Matches ⟨passed.getLast?.or before, rest, []⟩ m →
      (p.searchFrom before (passed ++ rest)).isSome from hfrom none (by rwa [Option.or_none])
  clear h
  induction passed with
  | nil =>
    intro before h
    have hsome : (p.runAt before rest).isSome := (tries_run p).complete h rfl
    cases rest with
    | nil => exact hsome
    | cons c cs =>
      rw [List.nil_append, searchFrom]
      obtain ⟨t, ht⟩ := Option.isSome_iff_exists.mp hsome
      rw [ht]
      rfl
  | cons c passed ih =>
    intro before h
    rw [getLast?_cons_or] at h
    have hlater := ih (some c) h
    rw [List.cons_append, searchFrom]
    cases p.runAt before (c :: (passed ++ rest)) with
    | none => exact hlater
    | some t => rfl

/-- Where all accepted places agree on a reading, the match has that reading. -/
theorem matchStart_map {β : Type} {p : Pattern} {text : List Char} {m : Place} {f : Place → β} {b : β}
    (h : p.Matches ⟨none, text, []⟩ m) (hb : ∀ t, p.Matches ⟨none, text, []⟩ t → f t = b) :
    (p.matchStart text).map f = some b := by
  obtain ⟨t, ht⟩ := Option.isSome_iff_exists.mp (matchStart_isSome h)
  rw [ht, Option.map_some, hb t (matchStart_matches ht)]

/-! ### Accepted texts -/

theorem Span.chars_append (w rest : List Char) : (⟨w ++ rest, rest⟩ : Span).chars = w := by
  simp [Span.chars]

/-- The place behind a text. -/
def Place.past (s : Place) (w rest : List Char) : Place := ⟨w.getLast?.or s.before, rest, s.groups⟩

@[simp] theorem Place.past_rest (s : Place) (w rest : List Char) : (s.past w rest).rest = rest := rfl

@[simp] theorem Place.past_groups (s : Place) (w rest : List Char) : (s.past w rest).groups = s.groups := rfl

theorem Place.past_nil (s : Place) : s.past [] s.rest = s := rfl

theorem Place.past_past (s : Place) (v w rest rest' : List Char) :
    (s.past v rest').past w rest = s.past (v ++ w) rest := by
  simp [past, List.getLast?_append, Option.or_assoc]

theorem matches_one {p : Char → Bool} {s t : Place} :
    (one p).Matches s t ↔ ∃ c rest, p c = true ∧ s.rest = c :: rest ∧ t = s.past [c] rest := by
  simp only [Matches, Place.past, List.getLast?_singleton, Option.some_or]
  exact ⟨fun ⟨c, cs, hr, hp, ht⟩ => ⟨c, cs, hp, hr, ht⟩, fun ⟨c, cs, hp, hr, ht⟩ => ⟨c, cs, hr, hp, ht⟩⟩

theorem passes_one {p : Char → Bool} {n : ℕ} {s t : Place} :
    Passes (one p).Matches n s t ↔
      ∃ w rest, w.length = n ∧ (∀ c ∈ w, p c = true) ∧ s.rest = w ++ rest ∧ t = s.past w rest := by
  induction n generalizing s with
  | zero =>
    constructor
    · rintro rfl
      exact ⟨[], t.rest, rfl, by simp, rfl, t.past_nil.symm⟩
    · rintro ⟨w, rest, hw, -, hr, rfl⟩
      obtain rfl := List.length_eq_zero_iff.mp hw
      rw [← List.nil_append rest, ← hr]
      exact s.past_nil
  | succ n ih =>
    constructor
    · rintro ⟨u, hu, ht⟩
      obtain ⟨c, rest, hp, hr, rfl⟩ := matches_one.1 hu
      obtain ⟨w, rest', hw, hpw, hr', rfl⟩ := ih.mp ht
      simp only [Place.past_rest] at hr'
      refine ⟨c :: w, rest', by simp [hw], by simpa using ⟨hp, hpw⟩, by simp [hr, hr'], ?_⟩
      rw [Place.past_past, List.singleton_append]
    · rintro ⟨w, rest, hw, hpw, hr, rfl⟩
      obtain ⟨c, w, rfl⟩ := List.exists_cons_of_length_eq_add_one hw
      refine ⟨s.past [c] (w ++ rest), matches_one.2 ⟨c, w ++ rest, hpw c (by simp), by simpa using hr, rfl⟩,
        ih.mpr ⟨w, rest, by simpa using hw, fun d hd => hpw d (by simp [hd]), rfl, ?_⟩⟩
      rw [Place.past_past, List.singleton_append]

/-- A repetition of one character class takes any text of that class. -/
theorem matches_reps {p : Char → Bool} {s t : Place} :
    (reps (one p)).Matches s t ↔ ∃ w rest, (∀ c ∈ w, p c = true) ∧ s.rest = w ++ rest ∧ t = s.past w rest := by
  constructor
  · rintro ⟨u, rfl, n, -, ht⟩
    obtain ⟨w, rest, -, hp, hr, rfl⟩ := passes_one.1 ht
    exact ⟨w, rest, hp, hr, rfl⟩
  · rintro ⟨w, rest, hp, hr, rfl⟩
    refine ⟨s, rfl, w.length, ?_, passes_one.2 ⟨w, rest, rfl, hp, hr, rfl⟩⟩
    simp [allowance, hr]

theorem matches_plus {p : Char → Bool} {s t : Place} :
    (plus (one p)).Matches s t ↔
      ∃ w rest, w ≠ [] ∧ (∀ c ∈ w, p c = true) ∧ s.rest = w ++ rest ∧ t = s.past w rest := by
  constructor
  · rintro ⟨u, hu, n, -, ht⟩
    obtain ⟨v, rest, hv, hpv, hr, rfl⟩ := passes_one.1 hu
    obtain ⟨w, rest', -, hpw, hr', rfl⟩ := passes_one.1 ht
    simp only [Place.past_rest] at hr'
    refine ⟨v ++ w, rest', ?_, ?_, by simp [hr, hr'], Place.past_past ..⟩
    · rintro he
      simp_all
    · intro c hc
      exact (List.mem_append.mp hc).elim (hpv c) (hpw c)
  · rintro ⟨w, rest, hw, hp, hr, rfl⟩
    obtain ⟨c, w, rfl⟩ := List.exists_cons_of_ne_nil hw
    refine ⟨s.past [c] (w ++ rest), passes_one.2 ⟨[c], w ++ rest, rfl, by simp [hp c], hr, rfl⟩, w.length, ?_,
      passes_one.2 ⟨w, rest, rfl, fun d hd => hp d (by simp [hd]), rfl, ?_⟩⟩
    · simp [allowance]
    · rw [Place.past_past, List.singleton_append]

theorem matches_word {text : String} {s t : Place} :
    (word text).Matches s t ↔ ∃ rest, s.rest = text.toList ++ rest ∧ t = s.past text.toList rest := by
  unfold word
  induction text.toList generalizing s with
  | nil =>
    refine ⟨fun h => ⟨s.rest, rfl, h.trans s.past_nil.symm⟩, ?_⟩
    rintro ⟨rest, hr, rfl⟩
    exact (congrArg (s.past []) hr).symm.trans s.past_nil
  | cons c w ih =>
    constructor
    · rintro ⟨u, hu, ht⟩
      obtain ⟨d, rest, hd, hr, rfl⟩ := matches_one.1 hu
      obtain rfl : d = c := by simpa using hd
      obtain ⟨rest', hr', rfl⟩ := ih.mp ht
      simp only [Place.past_rest] at hr'
      exact ⟨rest', by simp [hr, hr'], by rw [Place.past_past, List.singleton_append]⟩
    · rintro ⟨rest, hr, rfl⟩
      refine ⟨s.past [c] (w ++ rest), matches_one.2 ⟨c, w ++ rest, by simp, hr, rfl⟩, ih.mpr ⟨rest, rfl, ?_⟩⟩
      rw [Place.past_past, List.singleton_append]

/-- An optional part is passed over, or taken where text is left. -/
theorem matches_opt {p : Pattern} {s t : Place} :
    (opt p).Matches s t ↔ t = s ∨ (s.rest ≠ [] ∧ p.Matches s t) := by
  constructor
  · rintro ⟨u, rfl, n, hn, ht⟩
    match n, ht with
    | 0, ht => exact .inl ht
    | 1, ⟨v, hv, ht⟩ =>
      obtain rfl := ht
      refine .inr ⟨?_, hv⟩
      rintro he
      simp [allowance, he] at hn
    | n + 2, _ =>
      simp only [allowance, Option.map_some, Option.getD_some, List.length_take] at hn
      omega
  · rintro (rfl | ⟨hr, ht⟩)
    · exact ⟨t, rfl, 0, Nat.zero_le _, rfl⟩
    · refine ⟨s, rfl, 1, ?_, t, ht, rfl⟩
      have := List.length_pos_iff.mpr hr
      simp only [allowance, Option.map_some, Option.getD_some, List.length_take]
      omega

/-! ### What is left and what is kept

The next lemmas forget the character before a place. -/

theorem reps_reads {p : Char → Bool} {s t : Place} (h : (reps (one p)).Matches s t) :
    ∃ w, (∀ c ∈ w, p c = true) ∧ s.rest = w ++ t.rest ∧ t.groups = s.groups := by
  obtain ⟨w, rest, hp, hr, rfl⟩ := matches_reps.1 h
  exact ⟨w, hp, hr, rfl⟩

theorem reps_takes {p : Char → Bool} {s : Place} {w rest : List Char} (hp : ∀ c ∈ w, p c = true)
    (hr : s.rest = w ++ rest) : ∃ t, (reps (one p)).Matches s t ∧ t.rest = rest :=
  ⟨_, matches_reps.2 ⟨w, rest, hp, hr, rfl⟩, rfl⟩

theorem plus_reads {p : Char → Bool} {s t : Place} (h : (plus (one p)).Matches s t) :
    ∃ w, w ≠ [] ∧ (∀ c ∈ w, p c = true) ∧ s.rest = w ++ t.rest ∧ t.groups = s.groups := by
  obtain ⟨w, rest, hw, hp, hr, rfl⟩ := matches_plus.1 h
  exact ⟨w, hw, hp, hr, rfl⟩

theorem plus_takes {p : Char → Bool} {s : Place} {w rest : List Char} (hw : w ≠ []) (hp : ∀ c ∈ w, p c = true)
    (hr : s.rest = w ++ rest) : ∃ t, (plus (one p)).Matches s t ∧ t.rest = rest :=
  ⟨_, matches_plus.2 ⟨w, rest, hw, hp, hr, rfl⟩, rfl⟩

theorem word_reads {text : String} {s t : Place} (h : (word text).Matches s t) :
    s.rest = text.toList ++ t.rest ∧ t.groups = s.groups := by
  obtain ⟨rest, hr, rfl⟩ := matches_word.1 h
  exact ⟨hr, rfl⟩

theorem word_takes (text : String) {s : Place} {rest : List Char} (hr : s.rest = text.toList ++ rest) :
    ∃ t, (word text).Matches s t ∧ t.rest = rest := ⟨_, matches_word.2 ⟨rest, hr, rfl⟩, rfl⟩

theorem group_reads {i : ℕ} {p : Pattern} {s t : Place} (h : (group i p).Matches s t) :
    ∃ u, p.Matches s u ∧ t.rest = u.rest ∧ t.groups = (i, ⟨s.rest, u.rest⟩) :: u.groups := by
  obtain ⟨u, hu, rfl⟩ := h
  exact ⟨u, hu, rfl, rfl⟩

theorem group_takes (i : ℕ) {p : Pattern} {s : Place} {rest : List Char} (h : ∃ t, p.Matches s t ∧ t.rest = rest) :
    ∃ t, (group i p).Matches s t ∧ t.rest = rest := by
  obtain ⟨u, hu, hr⟩ := h
  exact ⟨_, ⟨u, hu, rfl⟩, hr⟩

/-! ### Groups -/

/-- The groups that a pattern can close. -/
def indices : Pattern → List ℕ
  | seq a b | alt a b => a.indices ++ b.indices
  | many a _ _ _ => a.indices
  | group i a => i :: a.indices
  | _ => []

/-- A pattern leaves the groups as they are that it does not close itself. -/
theorem Matches.lookup_eq {p : Pattern} {s t : Place} {i : ℕ} (h : p.Matches s t) (hi : i ∉ p.indices) :
    t.groups.lookup i = s.groups.lookup i := by
  have passes {r : Place → Place → Prop} (hr : ∀ {s t}, r s t → t.groups.lookup i = s.groups.lookup i) (n : ℕ)
      {s t : Place} (h : Passes r n s t) : t.groups.lookup i = s.groups.lookup i := by
    induction n generalizing s with
    | zero => rw [h]
    | succ n ih =>
      obtain ⟨u, hu, ht⟩ := h
      rw [ih ht, hr hu]
  induction p generalizing s t with
  | empty => rw [h]
  | one p =>
    obtain ⟨c, cs, -, -, rfl⟩ := h
    rfl
  | seq a b iha ihb =>
    obtain ⟨u, hu, ht⟩ := h
    rw [indices, List.mem_append, not_or] at hi
    rw [ihb ht hi.2, iha hu hi.1]
  | alt a b iha ihb =>
    rw [indices, List.mem_append, not_or] at hi
    rcases h with h | h
    · exact iha h hi.1
    · exact ihb h hi.2
  | many a least extra greedy ih =>
    obtain ⟨u, hu, n, -, ht⟩ := h
    rw [passes (fun hr => ih hr hi) n ht, passes (fun hr => ih hr hi) least hu]
  | group j a ih =>
    obtain ⟨u, hu, rfl⟩ := h
    rw [indices, List.mem_cons, not_or] at hi
    rw [List.lookup_cons, beq_false_of_ne hi.1]
    exact ih hu hi.2
  | edge => rw [h.1]
  | notNext a => rw [h.1]
  | start => rw [h.1]
  | lineStart => rw [h.1]
  | stop => rw [h.1]

/-- The text of a group that is not closed again. -/
theorem group_chars {i : ℕ} {p : Pattern} {s u t : Place} (h : (group i p).Matches s u)
    (hlater : t.groups.lookup i = u.groups.lookup i) :
    ∃ v, p.Matches s v ∧ t.chars i = (⟨s.rest, v.rest⟩ : Span).chars := by
  obtain ⟨v, hv, rfl⟩ := h
  refine ⟨v, hv, ?_⟩
  rw [Place.chars, Place.group?, hlater, List.lookup_cons_self]
  rfl

/-- The text ahead of a place and the texts of its groups belong to a given text. -/
structure Place.Within (text : List Char) (s : Place) : Prop where
  rest : s.rest <:+ text
  groups : ∀ g ∈ s.groups, g.2.start <:+ text

/-- A pattern leads from places of a text to places of it. -/
theorem Matches.within {p : Pattern} {s t : Place} {text : List Char} (h : p.Matches s t) (hs : s.Within text) :
    t.Within text := by
  have passes {r : Place → Place → Prop} (hr : ∀ {s t}, r s t → s.Within text → t.Within text) (n : ℕ) {s t : Place}
      (h : Passes r n s t) (hs : s.Within text) : t.Within text := by
    induction n generalizing s with
    | zero => exact h ▸ hs
    | succ n ih =>
      obtain ⟨u, hu, ht⟩ := h
      exact ih ht (hr hu hs)
  induction p generalizing s t with
  | empty => exact h ▸ hs
  | one p =>
    obtain ⟨c, cs, hrest, -, rfl⟩ := h
    exact ⟨(List.suffix_cons c cs).trans (hrest ▸ hs.rest), hs.groups⟩
  | seq a b iha ihb =>
    obtain ⟨u, hu, ht⟩ := h
    exact ihb ht (iha hu hs)
  | alt a b iha ihb => exact h.elim (fun ha => iha ha hs) fun hb => ihb hb hs
  | many a least extra greedy ih =>
    obtain ⟨u, hu, n, -, ht⟩ := h
    exact passes (fun hr => ih hr) n ht (passes (fun hr => ih hr) least hu hs)
  | group i a ih =>
    obtain ⟨u, hu, rfl⟩ := h
    exact ⟨(ih hu hs).rest, List.forall_mem_cons.mpr ⟨hs.rest, (ih hu hs).groups⟩⟩
  | edge => exact h.1 ▸ hs
  | notNext a => exact h.1 ▸ hs
  | start => exact h.1 ▸ hs
  | lineStart => exact h.1 ▸ hs
  | stop => exact h.1 ▸ hs

theorem search_within {p : Pattern} {text : List Char} {m : Place} (h : p.search text = some m) : m.Within text := by
  obtain ⟨before, rest, hrest, hm⟩ := search_suffix h
  exact hm.within ⟨hrest, nofun⟩

theorem matchStart_within {p : Pattern} {text : List Char} {m : Place} (h : p.matchStart text = some m) :
    m.Within text := (matchStart_matches h).within ⟨List.suffix_rfl, nofun⟩

/-- The text of a group is made of characters of the text that was searched. -/
theorem Place.Within.chars_subset {text : List Char} {m : Place} (h : m.Within text) (i : ℕ) : m.chars i ⊆ text := by
  rw [chars, group?]
  cases hspan : m.groups.lookup i with
  | none => exact List.nil_subset text
  | some span =>
    obtain ⟨before, after, hgroups, -⟩ := List.lookup_eq_some_iff.mp hspan
    have hstart : span.start <:+ text := h.groups (i, span) (by simp [hgroups])
    exact fun c hc => hstart.subset (List.mem_of_mem_take hc)

theorem choice_reads {words : List String} {s t : Place} (h : (choice words).Matches s t) :
    ∃ w ∈ words, s.rest = w.toList ++ t.rest := by
  fun_induction choice words with
  | case1 =>
    obtain ⟨c, cs, -, hc, -⟩ := h
    cases hc
  | case2 w => exact ⟨w, by simp, (word_reads h).1⟩
  | case3 w words _ ih =>
    rcases h with h | h
    · exact ⟨w, by simp, (word_reads h).1⟩
    · obtain ⟨v, hv, hr⟩ := ih h
      exact ⟨v, List.mem_cons_of_mem w hv, hr⟩

theorem choice_groups {words : List String} {s t : Place} (h : (choice words).Matches s t) : t.groups = s.groups := by
  fun_induction choice words with
  | case1 =>
    obtain ⟨c, cs, -, -, rfl⟩ := h
    rfl
  | case2 w => exact (word_reads h).2
  | case3 w words _ ih =>
    rcases h with h | h
    · exact (word_reads h).2
    · exact ih h

theorem choice_takes {words : List String} {w : String} (hw : w ∈ words) {s : Place} {rest : List Char}
    (hr : s.rest = w.toList ++ rest) : ∃ t, (choice words).Matches s t ∧ t.rest = rest := by
  fun_induction choice words with
  | case1 => cases hw
  | case2 v =>
    obtain rfl := List.mem_singleton.mp hw
    exact word_takes w hr
  | case3 v words _ ih =>
    rcases List.mem_cons.mp hw with rfl | hw
    · obtain ⟨t, ht, hrest⟩ := word_takes w hr
      exact ⟨t, .inl ht, hrest⟩
    · obtain ⟨t, ht, hrest⟩ := ih hw
      exact ⟨t, .inr ht, hrest⟩

/-- One of two classes of characters. -/
theorem matches_either (p q : Char → Bool) : (alt (one p) (one q)).Matches = (one fun c => p c || q c).Matches := by
  funext s t
  simp only [Matches, Bool.or_eq_true]
  apply propext
  constructor
  · rintro (⟨c, cs, hr, hc, ht⟩ | ⟨c, cs, hr, hc, ht⟩)
    · exact ⟨c, cs, hr, .inl hc, ht⟩
    · exact ⟨c, cs, hr, .inr hc, ht⟩
  · rintro ⟨c, cs, hr, hc | hc, ht⟩
    · exact .inl ⟨c, cs, hr, hc, ht⟩
    · exact .inr ⟨c, cs, hr, hc, ht⟩

theorem plus_congr {a b : Pattern} (h : a.Matches = b.Matches) : (plus a).Matches = (plus b).Matches := by
  simp only [plus, Matches, h]

end FlowSketch.Pattern
