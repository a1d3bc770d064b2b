import FlowSketch.Proofs.SummaryOutline

/-!
# One summarizer for several flows

A summarizer adds up what it meets over all its outlines, and the hint of each of them is made from all of it. So an
outline is the one that a fresh summarizer writes exactly if no earlier flow asks for more than its own flow does.
-/
namespace FlowSketch.Summary

/-! ### Joined entries -/

theorem textOf_append {es fs : List Entry} (he : es ≠ []) (hf : fs ≠ []) :
    textOf (es ++ fs) = textOf es ++ "\n" ++ textOf fs := by
  rw [textOf, List.map_append, String.intercalate_append_of_ne_nil (by simpa using he) (by simpa using hf), textOf, textOf]

def Hint.text (h : Hint) : String := textOf (h.lines.map (.note 2))

theorem Hint.lines_ne_nil (h : Hint) : h.lines.map (Entry.note 2) ≠ [] := by cases h <;> simp [lines]

/-- What an outline has in front of its hint. -/
def opening (nodes : List Node) (language : String) : List Entry :=
  [.note 0 header, .note 0 ("Language: " ++ language ++ "\n"),
      .note 0 "[SEQUENTIAL STEPS - execute in this exact order]:"]
    ++ stepsRemark (topSteps nodes) (constructs nodes) ++ numbered 1 (topSteps nodes)
    ++ (ofNodes 0 (constructs nodes)).entries ++ [.heading 0 "[FLOWCHART STRUCTURE HINT]:"]

/-- Only the hint of an outline is made from what was met before. -/
theorem summarizeAfter_text (before : Seen) (nodes : List Node) (language : String) :
    (summarizeAfter before nodes language).1 =
      textOf (opening nodes language) ++ "\n" ++ (hint (topSteps nodes).length (seenAfter before nodes)).text ++ "\n"
        ++ textOf [.heading 0 footer] := by
  have hentries : entries before nodes language = opening nodes language ++
      (hint (topSteps nodes).length (seenAfter before nodes)).lines.map (.note 2) ++ [.heading 0 footer] := rfl
  have hopening : opening nodes language ≠ [] := by simp [opening]
  rw [summarizeAfter, hentries, textOf_append (by simp [hopening]) (by simp), textOf_append hopening (Hint.lines_ne_nil _),
    Hint.text]

theorem summarizeAfter_text_inj {before before' : Seen} {nodes : List Node} {language : String} :
    (summarizeAfter before nodes language).1 = (summarizeAfter before' nodes language).1 ↔
      (hint (topSteps nodes).length (seenAfter before nodes)).text =
        (hint (topSteps nodes).length (seenAfter before' nodes)).text := by
  rw [summarizeAfter_text, summarizeAfter_text, String.append_left_inj, String.append_left_inj, String.append_right_inj]

/-! ### What a flow asks for -/

/-- How demanding the constructs of a flow are: handlers come before tries, then decisions, then loops. -/
def demand (nodes : List Node) : ℕ :=
  if Flow.events nodes ≠ [] then 4
  else if Flow.collect Node.isTry nodes ≠ [] then 3
  else if Flow.conditions nodes ≠ [] then 2
  else if Flow.loopLabels nodes ≠ [] then 1
  else 0

theorem demand_nil : demand [] = 0 := rfl

theorem demand_append (ms ns : List Node) : demand (ms ++ ns) = max (demand ms) (demand ns) := by
  simp only [demand, Flow.events, Flow.collect, Flow.conditions, Flow.loopLabels, Flow.preorder_append,
    List.filterMap_append, List.filter_append, ne_eq, List.append_eq_nil_iff]
  grind

theorem demand_of_events {nodes : List Node} (h : Flow.events nodes ≠ []) : demand nodes = 4 := if_pos h

theorem events_append (ms ns : List Node) : Flow.events (ms ++ ns) = Flow.events ms ++ Flow.events ns := by
  rw [Flow.events, Flow.preorder_append, List.filterMap_append]
  rfl

/-- The hint for a demand. -/
def Hint.of (count : ℕ) (handlers : List (String × String × String)) : ℕ → Hint
  | 0 => .linear
  | 1 => .loops
  | 2 => .decisions
  | 3 => .tries
  | _ => .events count handlers

/-- What a summarizer has met decides its hint as the flows do that it comes from. -/
theorem hint_seen (count : ℕ) (nodes : List Node) :
    hint count (Seen.of (Flow.preorder nodes)) = Hint.of count (Flow.events nodes) (demand nodes) := by
  have hevents : (Seen.of (Flow.preorder nodes)).events = Flow.events nodes := filterMap_isEvent _
  have hnone : (Seen.of (Flow.preorder nodes)).eventNodes = [] ↔ Flow.events nodes = [] := eventNodes_eq_nil nodes
  have htries : (Seen.of (Flow.preorder nodes)).tryNodes = Flow.collect Node.isTry nodes := rfl
  have hdecisions : (Seen.of (Flow.preorder nodes)).decisions = Flow.conditions nodes := rfl
  have hloops : (Seen.of (Flow.preorder nodes)).loops = Flow.loopLabels nodes := rfl
  rw [hint, demand]
  simp only [Bool.not_eq_true', List.isEmpty_eq_false_iff, ne_eq, hevents, hnone, htries, hdecisions, hloops]
  split_ifs <;> rfl

theorem seenAfter_of (ms ns : List Node) :
    seenAfter (Seen.of (Flow.preorder ms)) ns = Seen.of (Flow.preorder (ms ++ ns)) := by
  rw [seenAfter, (ofNodes_visits 0 (constructs ns)).seen, of_preorder_constructs, Flow.preorder_append, Seen.of_append]

/-! ### Texts of hints -/

/-- How the texts of the hints begin, by their demands. -/
def hintLeads : List String :=
  ["  Linear flow:", "  Loop: Enter ", "  Use diamond ", "  Main path: t", "  Main path: S"]

theorem hintLeads_nodup : hintLeads.Nodup := by decide

theorem Hint.text_lead (count : ℕ) (handlers : List (String × String × String)) {n : ℕ} (hn : n < hintLeads.length) :
    (Hint.of count handlers n).text.toList.take 14 = hintLeads[n].toList := by
  have hspaces : spaces 2 = "  " := rfl
  have hfive : n < 5 := hn
  obtain hlt | rfl : n < 4 ∨ n = 4 := by omega
  · interval_cases n <;> simp [Hint.of, text, lines, textOf, Entry.text, hintLeads, hspaces]
  · have hlead : ("  " ++ "Main path: Start → ").toList.take 14 = "  Main path: S".toList := by decide
    simp only [Hint.of, text, lines, textOf, List.map_cons, Entry.text, String.intercalate_cons_cons, hspaces,
      String.append_assoc]
    rw [← String.append_assoc, String.toList_append, List.take_append_of_le_length (by decide), hlead]
    rfl

/-- Hints for different demands have different texts. -/
theorem Hint.demand_eq_of_text {count : ℕ} {es fs : List (String × String × String)} {m n : ℕ}
    (hm : m < hintLeads.length) (hn : n < hintLeads.length)
    (h : (Hint.of count es m).text = (Hint.of count fs n).text) : m = n := by
  have hleads : hintLeads[m].toList = hintLeads[n].toList := by rw [← text_lead count es, ← text_lead count fs, h]
  exact hintLeads_nodup.getElem_inj_iff.mp (String.toList_inj.mp hleads)

/-- With handlers in front, a list of handlers is longer. -/
theorem subscriptions_lt {es : List (String × String × String)} (he : es ≠ []) (fs : List (String × String × String)) :
    (", ".intercalate (fs.map subscription)).length < (", ".intercalate ((es ++ fs).map subscription)).length := by
  have hlong (e : String × String × String) : 0 < (subscription e).length := by
    have hmark : ".on('".length = 5 := rfl
    rw [subscription, String.length_append, String.length_append, String.length_append, hmark]
    omega
  have hpos : 0 < (", ".intercalate (es.map subscription)).length := by
    obtain ⟨e, es, rfl⟩ := List.exists_cons_of_ne_nil he
    cases es with
    | nil => simpa using hlong e
    | cons f es =>
      have := hlong e
      rw [List.map_cons, List.map_cons, String.intercalate_cons_cons, String.length_append, String.length_append]
      omega
  rcases fs.eq_nil_or_concat with rfl | ⟨fs, f, rfl⟩
  · simpa using hpos
  · rw [List.map_append, String.intercalate_append_of_ne_nil (by simpa using he) (by simp), String.length_append,
      String.length_append]
    omega

theorem Hint.handlers_of_text {count : ℕ} {es fs : List (String × String × String)}
    (h : (Hint.events count (es ++ fs)).text = (Hint.events count fs).text) : es = [] := by
  by_contra he
  have hlt := subscriptions_lt he fs
  have hlength := congrArg String.length h
  simp only [text, lines, textOf, List.map_cons, List.map_nil, Entry.text, String.intercalate_cons_cons,
    String.intercalate_singleton, String.length_append] at hlength
  omega

/-! ### One outline after others -/

theorem demand_lt (nodes : List Node) : demand nodes < hintLeads.length := by
  rw [demand]
  split_ifs <;> decide

/-- Behind a flow, an outline is that of a fresh summarizer exactly if the flow has no handlers, and does not ask for more
than what is outlined. -/
theorem text_eq_fresh_iff (ms ns : List Node) (language : String) :
    (summarizeAfter (Seen.of (Flow.preorder ms)) ns language).1 = summarize ns language ↔
      Flow.events ms = [] ∧ demand ms ≤ demand ns := by
  have hnone : Seen.none = Seen.of (Flow.preorder []) := rfl
  rw [summarize, summarizeAfter_text_inj, hnone, seenAfter_of, seenAfter_of, List.nil_append, hint_seen, hint_seen,
    events_append, demand_append]
  constructor
  · intro h
    have hdemand := Hint.demand_eq_of_text (max_lt (demand_lt ms) (demand_lt ns)) (demand_lt ns) h
    refine ⟨?_, max_eq_right_iff.mp hdemand⟩
    by_contra hevents
    have hfour : demand ns = 4 := by
      have hms := demand_of_events hevents
      have hns : demand ns < 5 := demand_lt ns
      omega
    rw [hdemand, hfour] at h
    exact hevents (Hint.handlers_of_text h)
  · rintro ⟨hevents, hle⟩
    rw [hevents, List.nil_append, max_eq_right hle]

/-! ### Runs -/

/-- What one outline is written for. -/
structure Request where
  nodes : List Node
  language : String

def Request.fresh (r : Request) : String := summarize r.nodes r.language

/-- The outlines that one summarizer writes one after the other, if it has met `before` until then. -/
def outlines (before : Seen) : List Request → List String
  | [] => []
  | r :: rs =>
    (summarizeAfter before r.nodes r.language).1 :: outlines (summarizeAfter before r.nodes r.language).2 rs

/-- A summarizer has met the flows of all its outlines. -/
theorem outlines_append (ms : List Node) (earlier rs : List Request) :
    outlines (Seen.of (Flow.preorder ms)) (earlier ++ rs) =
      outlines (Seen.of (Flow.preorder ms)) earlier ++
        outlines (Seen.of (Flow.preorder (ms ++ earlier.flatMap Request.nodes))) rs := by
  induction earlier generalizing ms with
  | nil => simp [outlines]
  | cons e earlier ih =>
    rw [List.cons_append, outlines, outlines, List.flatMap_cons, ← List.append_assoc, List.cons_append, summarizeAfter,
      seenAfter_of, ih]

theorem length_outlines (before : Seen) (rs : List Request) : (outlines before rs).length = rs.length := by
  induction rs generalizing before with
  | nil => rfl
  | cons r rs ih => rw [outlines, List.length_cons, ih, List.length_cons]

theorem events_flatMap (rs : List Request) :
    Flow.events (rs.flatMap Request.nodes) = [] ↔ ∀ r ∈ rs, Flow.events r.nodes = [] := by
  induction rs with
  | nil => simp [Flow.events, Flow.preorder]
  | cons r rs ih => rw [List.flatMap_cons, events_append, List.append_eq_nil_iff, ih, List.forall_mem_cons]

theorem demand_flatMap_le (rs : List Request) (n : ℕ) :
    demand (rs.flatMap Request.nodes) ≤ n ↔ ∀ r ∈ rs, demand r.nodes ≤ n := by
  induction rs with
  | nil => simp [demand_nil]
  | cons r rs ih => rw [List.flatMap_cons, demand_append, max_le_iff, ih, List.forall_mem_cons]

/-- Whatever a summarizer has outlined earlier, an outline is that of a fresh one exactly if no earlier flow has handlers
or asks for more than the flow that is outlined. -/
theorem outline_fresh_iff (earlier later : List Request) (r : Request) :
    (outlines .none (earlier ++ r :: later))[earlier.length]? = some r.fresh ↔
      ∀ e ∈ earlier, Flow.events e.nodes = [] ∧ demand e.nodes ≤ demand r.nodes := by
  have hnone : Seen.none = Seen.of (Flow.preorder []) := rfl
  have hlength : (outlines Seen.none earlier).length = earlier.length := length_outlines _ _
  rw [hnone, outlines_append, ← hnone, List.nil_append, List.getElem?_append_right hlength.le, hlength, Nat.sub_self,
    outlines, List.getElem?_cons_zero, Option.some_inj, Request.fresh, text_eq_fresh_iff, events_flatMap,
    demand_flatMap_le, ← forall₂_and]

/-- A decision that was outlined earlier gives its hint to a flow without any. -/
theorem outline_behind_decision :
    let earlier : Request := ⟨[.decision "a" [] []], "c"⟩
    let r : Request := ⟨[.step ⟨"output", "Print: b"⟩], "c"⟩
    outlines .none [earlier, r] ≠ [earlier.fresh, r.fresh] := by
  intro earlier r h
  have hseen : (summarizeAfter .none earlier.nodes earlier.language).2 = Seen.of (Flow.preorder earlier.nodes) :=
    seenAfter_none earlier.nodes
  have hsecond := (List.cons.inj (List.cons.inj h).2).1
  rw [hseen] at hsecond
  exact absurd ((text_eq_fresh_iff _ _ _).1 hsecond).2 (by decide)

end FlowSketch.Summary
