import FlowSketch.BraceAttempt
import Mathlib

/-!
# The lexer of brace languages ends without foreign digits

A digit beyond ASCII begins a number that has no characters, and the lexer stays where it is. It comes to every
character outside of string literals and comments, so it ends exactly if there is no such digit among them.
-/
namespace FlowSketch.BraceAttempt
open BraceLexer

/-! ### Characters -/

/-- A digit beyond ASCII. -/
def isForeignDigit (c : Char) : Bool := TextWord.isDigit c && !c.isDigit

/-- A character that begins no comment and no string literal. -/
def isPlain (c : Char) : Bool := c != '/' && c != '\x60' && c != '\'' && c != '"'

theorem isDigit_ascii {c : Char} (h : c.toNat < 128) : TextWord.isDigit c = c.isDigit := by
  have hother : ∀ n < 128, TextWord.inRanges TextWordTable.otherDigit n = false := by decide +kernel
  rw [TextWord.isDigit, TextWord.isDecimalDigit, if_pos h, hother _ h, Bool.or_false]

theorem isForeignDigit_ascii {c : Char} (h : c.toNat < 128) : isForeignDigit c = false := by
  rw [isForeignDigit, isDigit_ascii h, Bool.and_not_self]

theorem isDigit_lt {c : Char} (h : c.isDigit = true) : c.toNat < 58 := by
  simp only [Char.isDigit, Bool.and_eq_true, decide_eq_true_eq] at h
  exact Nat.lt_succ_of_le h.2

theorem isAlpha_lt {c : Char} (h : c.isAlpha = true) : c.toNat < 123 := by
  simp only [Char.isAlpha, Char.isUpper, Char.isLower, Bool.or_eq_true, Bool.and_eq_true, decide_eq_true_eq] at h
  rcases h with ⟨-, h⟩ | ⟨-, h⟩
  · exact (Nat.lt_succ_of_le h).trans (by decide)
  · exact Nat.lt_succ_of_le h

/-- Characters that a lexeme goes on with stand for themselves, and none is a foreign digit. -/
def isInner (c : Char) : Bool := c.toNat < 128 && isPlain c

theorem isInner_of {p : Char → Bool} (hascii : ∀ c, p c = true → c.toNat < 128)
    (hplain : (p '/' || p '\x60' || p '\'' || p '"') = false) {c : Char} (h : p c = true) : isInner c = true := by
  rw [isInner, Bool.and_eq_true, decide_eq_true_eq]
  refine ⟨hascii c h, ?_⟩
  simp only [Bool.or_eq_false_iff] at hplain
  simp only [isPlain, Bool.and_eq_true, bne_iff_ne]
  refine ⟨⟨⟨?_, ?_⟩, ?_⟩, ?_⟩ <;> (rintro rfl; simp_all)

theorem isNumberChar_inner {c : Char} (h : isNumberChar c = true) : isInner c = true := by
  refine isInner_of (fun c hc => ?_) (by decide) h
  rw [isNumberChar, Bool.or_eq_true] at hc
  rcases hc with hc | hc
  · exact (isDigit_lt hc).trans (by decide)
  · have hall : "._eExXabcdfABCDFoObBnN".toList.all (fun c => c.toNat < 128) = true := by decide
    simpa using List.all_eq_true.mp hall c (List.contains_iff_mem.mp hc)

theorem isNameChar_inner {c : Char} (h : isNameChar c = true) : isInner c = true := by
  refine isInner_of (fun c hc => ?_) (by decide) h
  simp only [isNameChar, isNameStart, Bool.or_eq_true, beq_iff_eq] at hc
  rcases hc with ((hc | rfl) | rfl) | hc
  · exact (isAlpha_lt hc).trans (by decide)
  · decide
  · decide
  · exact (isDigit_lt hc).trans (by decide)

theorem longOperators_inner {c : Char} {op : List Char} (h : c :: op ∈ longOperators) : ∀ d ∈ op, isInner d = true := by
  have hall : longOperators.all (fun op => op.tail.all isInner) = true := by decide
  exact List.all_eq_true.mp (List.all_eq_true.mp hall _ h)

/-- An operator of several characters is at the front of the text in which it is found. -/
theorem operatorAt_eq_some {c : Char} {cs op : List Char} (h : operatorAt (c :: cs) = some op) :
    ∃ inner rest, op = c :: inner ∧ cs = inner ++ rest ∧ ∀ d ∈ inner, isInner d = true := by
  have hfound : longOperators.find? (fun op => op.isPrefixOf (c :: cs)) = some op := h
  have hmem := List.mem_of_find?_eq_some hfound
  have hprefix := List.find?_some hfound
  obtain ⟨rest, hrest⟩ := List.isPrefixOf_iff_prefix.mp hprefix
  cases op with
  | nil => exact absurd hmem (by decide)
  | cons d inner =>
    obtain ⟨rfl, rfl⟩ := List.cons.inj hrest
    exact ⟨inner, rest, rfl, rfl, longOperators_inner hmem⟩

theorem isInner_not_foreign {c : Char} (h : isInner c = true) : isForeignDigit c = false :=
  isForeignDigit_ascii (by simpa using (Bool.and_eq_true_iff.mp h).1)

/-! ### Outside of literals and comments -/

/-- The characters of a source that are in no comment and no string literal. -/
def outside : List Char → List Char
  | [] => []
  | c :: cs =>
    if c = '/' && cs.head? = some '/' then outside (cs.dropWhile (· ≠ '\n'))
    else if c = '/' && cs.head? = some '*' then outside (readComment cs.tail).rest
    else if c = '\x60' then outside (readTemplate cs).rest
    else if c = '\'' || c = '"' then outside (readString c cs).rest
    else c :: outside cs
termination_by cs => cs.length
decreasing_by
  · exact Nat.lt_succ_of_le (length_dropWhile_le _ _)
  · have htail : cs.tail.length ≤ cs.length := by simp
    exact Nat.lt_succ_of_le ((readComment_rest_length _).trans htail)
  · exact Nat.lt_succ_of_le (readTemplate_rest_length cs)
  · exact Nat.lt_succ_of_le (readString_rest_length c cs)
  · exact Nat.lt_succ_self _

theorem outside_plain {c : Char} (h : isPlain c = true) (cs : List Char) : outside (c :: cs) = c :: outside cs := by
  simp only [isPlain, Bool.and_eq_true, bne_iff_ne] at h
  rw [outside]
  simp [h]

theorem isPlain_foreign {c : Char} (h : isForeignDigit c = true) : isPlain c = true := by
  have hne {d : Char} (hd : isForeignDigit d = false) : c ≠ d := by rintro rfl; simp [h] at hd
  simp only [isPlain, Bool.and_eq_true, bne_iff_ne]
  exact ⟨⟨⟨hne rfl, hne rfl⟩, hne rfl⟩, hne rfl⟩

theorem outside_append {ahead : List Char} (h : ∀ c ∈ ahead, isInner c = true) (cs : List Char) :
    outside (ahead ++ cs) = ahead ++ outside cs := by
  induction ahead with
  | nil => rfl
  | cons c ahead ih =>
    have hplain : isPlain c = true := (Bool.and_eq_true_iff.mp (h c (by simp))).2
    rw [List.cons_append, outside_plain hplain, ih fun d hd => h d (by simp [hd]), List.cons_append]

theorem outside_run {p : Char → Bool} (hp : ∀ c, p c = true → isInner c = true) (cs : List Char) :
    outside cs = cs.takeWhile p ++ outside (cs.dropWhile p) := by
  have htaken : ∀ c ∈ cs.takeWhile p, isInner c = true := fun c hc => hp c (List.mem_takeWhile_imp hc)
  rw [← outside_append htaken, List.takeWhile_append_dropWhile]

/-- The lexer comes to what is outside of literals and comments, and to nothing else. -/
theorem outside_lexeme (c : Char) (cs : List Char) :
    ∃ ahead, outside (c :: cs) = ahead ++ outside (lexeme c cs).read.rest ∧ ∀ d ∈ ahead, d = c ∨ isInner d = true := by
  have halone (hc : isInner c = true) : outside (c :: cs) = [c] ++ outside cs :=
    outside_append (by rwa [List.forall_mem_singleton]) cs
  rw [lexeme]
  split
  · next hc => exact ⟨[c], halone (hc ▸ by decide), by simp⟩
  split
  · next hc =>
    have hblank : c = ' ' ∨ c = '\t' ∨ c = '\r' := by simpa [or_assoc] using hc
    refine ⟨[c], halone ?_, by simp⟩
    rcases hblank with rfl | rfl | rfl <;> decide
  rw [outside]
  split
  · exact ⟨[], rfl, by simp⟩
  split
  · exact ⟨[], rfl, by simp⟩
  split
  · exact ⟨[], rfl, by simp⟩
  split
  · exact ⟨[], rfl, by simp⟩
  have hrun {p : Char → Bool} (hp : ∀ c, p c = true → isInner c = true) (kind : List Char → Token.Kind) :
      ∃ ahead, c :: outside cs = ahead ++ outside (run kind p c cs).read.rest ∧ ∀ d ∈ ahead, d = c ∨ isInner d = true := by
    refine ⟨c :: cs.takeWhile p, by rw [outside_run hp]; rfl, fun d hd => ?_⟩
    rcases List.mem_cons.mp hd with rfl | hd
    · exact .inl rfl
    · exact .inr (hp d (List.mem_takeWhile_imp hd))
  split
  · exact hrun (fun _ => isNumberChar_inner) _
  split
  · exact hrun (fun _ => isNameChar_inner) _
  split
  · exact ⟨[c], rfl, by simp⟩
  split
  · next op hop =>
    obtain ⟨inner, rest, rfl, rfl, hinner⟩ := operatorAt_eq_some hop
    refine ⟨c :: inner, ?_, fun d hd => (List.mem_cons.mp hd).imp_right (hinner d)⟩
    rw [outside_append hinner]
    simp
  · split <;> exact ⟨[c], rfl, by simp⟩

/-! ### Tokens -/

theorem lexemeAt_eq {c : Char} (h : isForeignDigit c = false) (cs : List Char) : lexemeAt c cs = lexeme c cs := by
  rw [lexemeAt]
  split
  · next hdigit =>
    have hc : c.isDigit = true := by simpa [isForeignDigit, hdigit] using h
    have hnumber : isNumberChar c = true := by rw [isNumberChar, hc, Bool.true_or]
    have hne {d : Char} (hd : d.isDigit = false) : c ≠ d := by rintro rfl; simp [hc] at hd
    rw [lexeme, if_neg (hne rfl), if_neg (by simp [hne]), if_neg (by simp [hne]), if_neg (by simp [hne]), if_neg (hne rfl),
      if_neg (by simp [hne]), if_pos hc, run, List.takeWhile_cons_of_pos hnumber, List.dropWhile_cons_of_pos hnumber]
  · rfl

/-- A foreign digit is no character of a number. -/
theorem lexemeAt_foreign {c : Char} (h : isForeignDigit c = true) (cs : List Char) :
    lexemeAt c cs = ⟨some .number, ⟨[], 0, c :: cs⟩⟩ := by
  have hnumber : isNumberChar c = false := by
    by_contra hc
    simp [isInner_not_foreign (isNumberChar_inner (by simpa using hc))] at h
  rw [isForeignDigit, Bool.and_eq_true] at h
  rw [lexemeAt, if_pos h.1, List.takeWhile_cons_of_neg (by simp [hnumber]), List.dropWhile_cons_of_neg (by simp [hnumber])]

theorem tokensFrom_foreign {c : Char} (h : isForeignDigit c = true) (fuel line : ℕ) (cs : List Char) :
    tokensFrom fuel line (c :: cs) = none := by
  induction fuel with
  | zero => rfl
  | succ fuel ih =>
    rw [tokensFrom, lexemeAt_foreign h]
    simp only [Nat.add_zero]
    rw [ih]
    rfl

/-- The step of the lexer at a character that is no foreign digit. -/
theorem tokensFrom_cons {c : Char} (h : isForeignDigit c = false) (fuel line : ℕ) (cs : List Char) :
    tokensFrom (fuel + 1) line (c :: cs) =
      (tokensFrom fuel (line + (lexeme c cs).read.lines) (lexeme c cs).read.rest).map
        (((lexeme c cs).token? line).toList ++ ·) := by
  rw [tokensFrom, lexemeAt_eq h]
  cases tokensFrom fuel (line + (lexeme c cs).read.lines) (lexeme c cs).read.rest <;> rfl

/-- What the lexer comes to outside of literals and comments, after a step, is what it came to before but for the lexeme. -/
theorem any_foreign_lexeme {c : Char} (h : isForeignDigit c = false) (cs : List Char) :
    (outside (c :: cs)).any isForeignDigit = (outside (lexeme c cs).read.rest).any isForeignDigit := by
  obtain ⟨ahead, hahead, hinner⟩ := outside_lexeme c cs
  have hnone : ahead.any isForeignDigit = false := by
    rw [List.any_eq_false]
    intro d hd
    rcases hinner d hd with rfl | hd
    · simp [h]
    · simp [isInner_not_foreign hd]
  rw [hahead, List.any_append, hnone, Bool.false_or]

/-- The lexer is cut off, whatever its fuel, where a foreign digit stands outside of literals and comments. -/
theorem tokensFrom_eq_none {cs : List Char} (h : (outside cs).any isForeignDigit = true) (fuel line : ℕ) :
    tokensFrom fuel line cs = none := by
  induction fuel generalizing line cs with
  | zero => rfl
  | succ fuel ih =>
    cases cs with
    | nil => simp [outside] at h
    | cons c cs =>
      cases hc : isForeignDigit c with
      | true => exact tokensFrom_foreign hc _ _ _
      | false =>
        rw [any_foreign_lexeme hc] at h
        rw [tokensFrom_cons hc, ih h, Option.map_none]

theorem tokensFrom_eq {fuel : ℕ} {cs : List Char} (hfuel : cs.length < fuel)
    (h : (outside cs).any isForeignDigit = false) (line : ℕ) :
    tokensFrom fuel line cs = some (BraceLexer.tokensFrom line cs) := by
  induction fuel generalizing line cs with
  | zero => omega
  | succ fuel ih =>
    cases cs with
    | nil => simp [tokensFrom, BraceLexer.tokensFrom]
    | cons c cs =>
      have hc : isForeignDigit c = false := by
        by_contra hforeign
        rw [Bool.not_eq_false] at hforeign
        rw [outside_plain (isPlain_foreign hforeign), List.any_cons, hforeign] at h
        cases h
      rw [any_foreign_lexeme hc] at h
      have hlength := lexeme_rest_length c cs
      rw [List.length_cons] at hfuel
      rw [tokensFrom_cons hc, ih (by omega) h, BraceLexer.tokensFrom, Option.map_some]

theorem tokens_ends {code : String} (h : (outside code.toList).any isForeignDigit = false) :
    Ends (fun fuel => tokens fuel code) (some (BraceLexer.tokens code)) :=
  ⟨code.toList.length + 1, fun _ hfuel => tokensFrom_eq hfuel h 1⟩

end FlowSketch.BraceAttempt
