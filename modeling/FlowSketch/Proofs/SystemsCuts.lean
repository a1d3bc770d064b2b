import FlowSketch.Proofs.SystemsLayout
import FlowSketch.Proofs.TextLines

/-!
# Cutting bodies and chains

The body of a construct in braces is cut out as it stands there, whether its brace opens on the line of the header
or on the next one, and an if goes on with an else where the lines behind its body begin with one.
-/
namespace FlowSketch.SystemsFlow
open TextBlank SystemsRegion SystemsHeader

/-! ### Bodies -/

/-- What remains behind the brace that closes a body. -/
def remaining (after : Line) (lines : List Line) : List Line := (leftover after).toList ++ lines

/-- The text after a header and the lines that follow begin a body on the lines `inner`. -/
def Enters (after : Line) (following inner : List Line) : Prop :=
  (after = " \x7b".toList ∧ following = inner) ∨ (after = [] ∧ ∃ b, Blank b ∧ following = (b ++ ['{']) :: inner)

/-- A region that has taken its body ends at the brace behind it. -/
theorem region_taken {body : List Line} {b after : Line} {lines : List Line} (hb : Blank b)
    (h : region 1 true (body ++ (b ++ '}' :: after) :: lines) =
      takes body (region 1 true ((b ++ '}' :: after) :: lines))) :
    (region 1 true (body ++ (b ++ '}' :: after) :: lines)).body = body ∧
      (region 1 true (body ++ (b ++ '}' :: after) :: lines)).rest = remaining after lines := by
  have hend := scan_end (noBraces_of_blank hb) after
  have hkept : kept b = [] := by simp [kept, allBlank_of_blank hb]
  rw [h, region, hend]
  cases hl : leftover after <;> simp [takes, remaining, hl, hkept]

theorem region_body {floor : ℕ} {body : List Line} (h : Moves floor floor body floor) {b : Line} (hb : Blank b)
    (after : Line) (lines : List Line) :
    (region 1 true (body ++ (b ++ '}' :: after) :: lines)).body = body ∧
      (region 1 true (body ++ (b ++ '}' :: after) :: lines)).rest = remaining after lines := by
  have hmoves := h.region ((b ++ '}' :: after) :: lines)
  have hdepth : (floor - floor + 1 : ℤ) = 1 := by omega
  rw [hdepth] at hmoves
  exact region_taken hb hmoves

theorem block_brace {b : Line} (hb : Blank b) (inner : List Line) :
    (block ((b ++ ['{']) :: inner)).body = (region 1 true inner).body ∧
      (block ((b ++ ['{']) :: inner)).rest = (region 1 true inner).rest := by
  have hstart := scan_start (noBraces_of_blank hb)
  have hkept : kept [] = [] := rfl
  simp [block, region, hstart, hkept]

/-- The body of a construct is what stands in its braces. -/
theorem bodyAfter_enters {after : Line} {following inner : List Line} (h : Enters after following inner) (header : Line) :
    (bodyAfter header after following).body = (region 1 true inner).body ∧
      (bodyAfter header after following).rest = (region 1 true inner).rest := by
  rcases h with ⟨rfl, rfl⟩ | ⟨rfl, b, hb, rfl⟩
  · have ht : trim [' ', '{'] = ['{'] := rfl
    have := block_brace (b := []) (by simp [Blank]) following
    simpa [bodyAfter, ht] using this
  · have hnot : allBlank (b ++ ['{']) = false := not_allBlank (c := '{') (by simp) rfl
    have hbrace : trim (b ++ ['{']) = ['{'] := trim_append hb _
    have ht : trim ([] : Line) = [] := rfl
    have := block_brace hb inner
    simpa [bodyAfter, ht, nextBody, hnot, hbrace, Cut.pass] using this

/-- A body that begins after a header and ends at its closing brace. -/
theorem bodyAfter_body {floor : ℕ} {body : List Line} (h : Moves floor floor body floor) {b : Line} (hb : Blank b)
    {after close : Line} {following lines : List Line}
    (he : Enters after following (body ++ (b ++ '}' :: close) :: lines)) (header : Line) :
    (bodyAfter header after following).body = body ∧ (bodyAfter header after following).rest = remaining close lines := by
  obtain ⟨hbody, hrest⟩ := bodyAfter_enters he header
  rw [hbody, hrest]
  exact region_body h hb close lines

/-! ### Headers -/

theorem condition_calling {w : String} (hw : '(' ∉ w.toList) {c : Line} (hc : Balanced c) (after : Line) :
    condition (SystemsProgram.calling w c ++ after) = (c, after) := by
  have hfrom : fromParenthesis (SystemsProgram.calling w c ++ after) = '(' :: (c ++ ')' :: after) := by
    have hskip : ∀ d ∈ w.toList ++ [' '], decide (d ≠ '(') = true := by
      intro d hd
      rcases List.mem_append.mp hd with hd | hd
      · exact decide_eq_true (ne_of_mem_of_not_mem hd hw)
      · rw [List.mem_singleton.mp hd]
        rfl
    have hsplit : SystemsProgram.calling w c ++ after = (w.toList ++ [' ']) ++ '(' :: (c ++ ')' :: after) := by
      simp [SystemsProgram.calling]
    rw [hsplit, fromParenthesis, List.dropWhile_append_of_pos hskip]
    rfl
  rw [condition, hfrom, parenthesised_append hc]

/-! ### Chains -/

/-- The next line that is not blank begins no else. -/
def NoElse (lines : List Line) : Prop := ∀ next ∈ (nextCode lines).head?, elseAfter? next = none

theorem isElseIf_eq_false {next : Line} (h : elseAfter? next = none) : isElseIf (trim next) = false := by
  unfold elseAfter? afterWord? at h
  unfold isElseIf
  cases hafter : after? "else" (trim next) with
  | none => rfl
  | some rest =>
    cases hhead : rest.head? with
    | none => simp [hafter, hhead] at h
    | some c =>
      have hword : TextWord.isWord c = true := by simpa [hafter, hhead] using h
      simp [hhead, isBlank_of_isWord hword]

theorem nextCode_cons {raw : Line} (h : trim raw ≠ []) (following : List Line) :
    nextCode (raw :: following) = raw :: following := by
  have : allBlank raw = false := by
    rw [← Bool.not_eq_true, ← trim_eq_nil]
    exact h
  rw [nextCode, List.dropWhile_cons_of_neg (by simp [this])]

section
variable {header c after : Line} {following : List Line}

theorem chain_end (hc : condition (trim header) = (c, after)) {body rest : List Line}
    (hbody : (bodyAfter header after following).body = body) (hrest : (bodyAfter header after following).rest = rest)
    (h : NoElse rest) :
    (chain header following).branches = [⟨c, body⟩] ∧ (chain header following).otherwise = [] ∧
      (chain header following).rest = rest := by
  obtain rfl : c = (condition (trim header)).1 := by rw [hc]
  obtain rfl : after = (condition (trim header)).2 := by rw [hc]
  rw [chain]
  split
  · exact ⟨by rw [hbody], rfl, hrest⟩
  · rename_i next more hnext
    have hnone : elseAfter? next = none := h next (by rw [← hrest, hnext]; rfl)
    rw [if_neg (by simp [isElseIf_eq_false hnone]), hnone]
    exact ⟨by rw [hbody], rfl, hrest⟩

theorem chain_else (hc : condition (trim header) = (c, after)) {body : List Line} {next tail : Line} {more : List Line}
    (hbody : (bodyAfter header after following).body = body)
    (hrest : nextCode (bodyAfter header after following).rest = next :: more)
    (hif : isElseIf (trim next) = false) (helse : elseAfter? next = some tail) :
    (chain header following).branches = [⟨c, body⟩] ∧
      (chain header following).otherwise = (bodyAfter next tail more).body ∧
      (chain header following).rest = (bodyAfter next tail more).rest := by
  obtain rfl : c = (condition (trim header)).1 := by rw [hc]
  obtain rfl : after = (condition (trim header)).2 := by rw [hc]
  rw [chain]
  split
  · rename_i hnext
    rw [hrest] at hnext
    cases hnext
  · rename_i next' more' hnext
    rw [hrest] at hnext
    obtain ⟨rfl, rfl⟩ := List.cons.inj hnext
    rw [if_neg (by simp [hif]), helse]
    exact ⟨by rw [hbody], rfl, rfl⟩

theorem chain_elseIf (hc : condition (trim header) = (c, after)) {body : List Line} {next : Line} {more : List Line}
    (hbody : (bodyAfter header after following).body = body)
    (hrest : nextCode (bodyAfter header after following).rest = next :: more) (hif : isElseIf (trim next) = true) :
    (chain header following).branches = ⟨c, body⟩ :: (chain next more).branches ∧
      (chain header following).otherwise = (chain next more).otherwise ∧
      (chain header following).rest = (chain next more).rest := by
  obtain rfl : c = (condition (trim header)).1 := by rw [hc]
  obtain rfl : after = (condition (trim header)).2 := by rw [hc]
  rw [chain]
  split
  · rename_i hnext
    rw [hrest] at hnext
    cases hnext
  · rename_i next' more' hnext
    rw [hrest] at hnext
    obtain ⟨rfl, rfl⟩ := List.cons.inj hnext
    rw [if_pos hif]
    exact ⟨by rw [hbody], rfl, rfl⟩

end

end FlowSketch.SystemsFlow
