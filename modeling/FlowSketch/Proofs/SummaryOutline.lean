import FlowSketch.Summary
import FlowSketch.Proofs.FlowNodes

/-!
# Outlines and what is collected from a flow

The outline of a flow visits every node once, in reading order: what the summarizer has met are the constructs that are
collected from the flow, and the steps that it writes down are those of the flow.
-/
namespace FlowSketch

def Node.isEvent (n : Node) : Bool := n.event?.isSome

/-- The nodes at every depth that pass a test. -/
def Flow.collect (p : Node → Bool) (nodes : List Node) : List Node := (preorder nodes).filter p

namespace Summary

/-! ### One visit -/

/-- What is met in a list of nodes, without the nodes in them. -/
def Seen.of (ns : List Node) : Seen :=
  ⟨ns.filterMap Node.condition?, ns.filterMap Node.loopLabel?, ns.filter Node.isTry, ns.filterMap Node.switchLabel?,
    ns.filter Node.isEvent⟩

theorem Seen.of_append (ms ns : List Node) : Seen.of (ms ++ ns) = Seen.of ms ++ Seen.of ns := by
  simp only [of, List.filterMap_append, List.filter_append]
  rfl

theorem Seen.none_append (seen : Seen) : Seen.none ++ seen = seen := rfl

/-- The number of a written step, if it has one, and the step. -/
def Entry.step? : Entry → Option (Option ℕ × Step)
  | numbered index s => some (some index, s)
  | step _ s => some (none, s)
  | heading .. | note .. => none

/-- The steps that are written down, in order. -/
def stepsIn (es : List Entry) : List (Option ℕ × Step) := es.filterMap Entry.step?

/-- The steps of a list of nodes, without numbers. -/
def plainSteps (ns : List Node) : List (Option ℕ × Step) := (ns.filterMap Node.step?).map fun s => (none, s)

/-- An outline meets exactly the given nodes, and writes down the steps among them. -/
structure Outline.Visits (o : Outline) (ns : List Node) : Prop where
  seen : o.seen = Seen.of ns
  steps : stepsIn o.entries = plainSteps ns

namespace Outline.Visits
variable {o p : Outline} {ms ns : List Node}

theorem append (ho : o.Visits ms) (hp : p.Visits ns) : (o ++ p).Visits (ms ++ ns) := by
  refine ⟨?_, ?_⟩
  · rw [Seen.of_append, ← ho.seen, ← hp.seen]
    rfl
  · have hentries : (o ++ p).entries = o.entries ++ p.entries := rfl
    rw [plainSteps, List.filterMap_append, List.map_append, hentries, stepsIn, List.filterMap_append]
    exact congrArg₂ _ ho.steps hp.steps

theorem empty : Outline.empty.Visits [] := ⟨rfl, rfl⟩

theorem heading (indent : ℕ) (text : String) : (Summary.heading indent text).Visits [] := ⟨rfl, rfl⟩

theorem note (indent : ℕ) (text : String) : (Summary.note indent text).Visits [] := ⟨rfl, rfl⟩

theorem step (indent : ℕ) (s : Step) : (Outline.ofEntry (.step indent s)).Visits [.step s] := ⟨rfl, rfl⟩

/-- Lines without steps in them do not count as visits. -/
theorem note_append (indent : ℕ) (text : String) (ho : o.Visits ns) : (Summary.note indent text ++ o).Visits ns :=
  (note indent text).append ho

theorem append_note (indent : ℕ) (text : String) (ho : o.Visits ns) : (o ++ Summary.note indent text).Visits ns := by
  simpa using ho.append (note indent text)

end Outline.Visits

/-! ### All visits -/

mutual

theorem ofNode_visits : ∀ (indent : ℕ) (n : Node), (ofNode indent n).Visits n.preorder
  | indent, .step s => .step indent s
  | indent, .decision c yes no => by
    have hyes := ofBody_visits (indent + 4) yes
    have hno := ofNoSide_visits indent no
    have hown : (Outline.ofSeen { Seen.none with decisions := [c] }).Visits [.decision c yes no] := ⟨rfl, rfl⟩
    exact (((hown.append (.heading _ _)).append_note _ _).append hyes).append hno
  | indent, .loop l k body => by
    have hbody := ofBody_visits (indent + 2) body
    have hown : (Outline.ofSeen { Seen.none with loops := [l] }).Visits [.loop l k body] := ⟨rfl, rfl⟩
    exact ((hown.append (.heading _ _)).append hbody).append_note _ _
  | indent, .tryCatch body p handler cleanup => by
    have hbody := ofBody_visits (indent + 4) body
    have hhandler := ofBody_visits (indent + 4) handler
    have hcleanup := ofCleanup_visits indent cleanup
    have hown : (Outline.ofSeen { Seen.none with tryNodes := [.tryCatch body p handler cleanup] }).Visits
        [.tryCatch body p handler cleanup] := ⟨rfl, rfl⟩
    exact (((((hown.append (.heading _ _)).append_note _ _).append hbody).append_note _ _).append hhandler).append
      hcleanup
  | indent, .switch l cases => by
    have hcases := ofCases_visits indent cases
    have hown : (Outline.ofSeen { Seen.none with switches := [l] }).Visits [.switch l cases] := ⟨rfl, rfl⟩
    exact (hown.append (.heading _ _)).append hcases
  | indent, .event s n l body => by
    have hbody := ofBody_visits (indent + 2) body
    have hown : (Outline.ofSeen { Seen.none with eventNodes := [.event s n l body] }).Visits [.event s n l body] :=
      ⟨rfl, rfl⟩
    exact ((hown.append (.heading _ _)).append_note _ _).append hbody
  | indent, .function l body => by
    have hbody := ofBody_visits (indent + 2) body
    have hown : (heading indent ("[FUNCTION: " ++ l ++ "]:")).Visits [.function l body] := ⟨rfl, rfl⟩
    exact hown.append hbody
  | indent, .promise l body => by
    have hbody := ofBody_visits (indent + 2) body
    have hown : (heading indent ("[PROMISE: " ++ l ++ "]:")).Visits [.promise l body] := ⟨rfl, rfl⟩
    exact hown.append hbody

/-- The outline of a list visits its nodes at every depth, each where it stands. -/
theorem ofNodes_visits : ∀ (indent : ℕ) (ns : List Node), (ofNodes indent ns).Visits (Flow.preorder ns)
  | _, [] => .empty
  | indent, n :: ns => (ofNode_visits indent n).append (ofNodes_visits indent ns)

theorem ofBody_visits : ∀ (indent : ℕ) (ns : List Node), (ofBody indent ns).Visits (Flow.preorder ns)
  | indent, [] => .note indent "(empty)"
  | indent, n :: ns => (ofNode_visits indent n).append (ofNodes_visits indent ns)

theorem ofNoSide_visits : ∀ (indent : ℕ) (ns : List Node), (ofNoSide indent ns).Visits (Flow.preorder ns)
  | indent, [] => .note (indent + 2) "NO branch: (continue)"
  | indent, n :: ns => ((ofNode_visits (indent + 4) n).append (ofNodes_visits (indent + 4) ns)).note_append _ _

theorem ofCleanup_visits : ∀ (indent : ℕ) (ns : List Node), (ofCleanup indent ns).Visits (Flow.preorder ns)
  | _, [] => .empty
  | indent, n :: ns => ((ofNode_visits (indent + 4) n).append (ofNodes_visits (indent + 4) ns)).note_append _ _

theorem ofCases_visits : ∀ (indent : ℕ) (cases : List Case), (ofCases indent cases).Visits (Flow.casesPreorder cases)
  | _, [] => .empty
  | indent, ⟨_, body⟩ :: cases =>
    ((ofBody_visits (indent + 4) body).note_append _ _).append (ofCases_visits indent cases)

end

/-! ### The top level -/

/-- Steps are none of the constructs that are collected. -/
theorem of_preorder_constructs (nodes : List Node) :
    Seen.of (Flow.preorder (constructs nodes)) = Seen.of (Flow.preorder nodes) := by
  induction nodes with
  | nil => rfl
  | cons n ns ih =>
    have hcons : Seen.of (Flow.preorder (n :: ns)) = Seen.of n.preorder ++ Seen.of (Flow.preorder ns) :=
      Seen.of_append _ _
    cases hn : n.isStep with
    | true =>
      have hnone : Seen.of n.preorder = Seen.none := by
        cases n <;> first | rfl | cases hn
      have hleft : constructs (n :: ns) = constructs ns := List.filter_cons_of_neg (by simp [hn])
      rw [hcons, hleft, hnone, Seen.none_append, ih]
    | false =>
      have hleft : constructs (n :: ns) = n :: constructs ns := List.filter_cons_of_pos (by simp [hn])
      rw [hcons, hleft, Flow.preorder, Seen.of_append, ih]

theorem stepsIn_append (es fs : List Entry) : stepsIn (es ++ fs) = stepsIn es ++ stepsIn fs := List.filterMap_append

theorem stepsIn_numbered (first : ℕ) (steps : List Step) :
    stepsIn (numbered first steps) = (steps.zipIdx first).map fun s => (some s.2, s.1) := by
  induction steps generalizing first with
  | nil => rfl
  | cons s steps ih =>
    have hcons : stepsIn (numbered first (s :: steps)) = (some first, s) :: stepsIn (numbered (first + 1) steps) := rfl
    rw [hcons, ih, List.zipIdx_cons, List.map_cons]

theorem stepsIn_remark (steps : List Step) (ns : List Node) : stepsIn (stepsRemark steps ns) = [] := by
  unfold stepsRemark
  split
  · rfl
  · split <;> rfl

theorem stepsIn_notes (texts : List String) : stepsIn (texts.map (.note 2)) = [] := by
  induction texts with
  | nil => rfl
  | cons t texts ih => exact ih

/-- The numbered steps are those of the top level, and the constructs follow. -/
theorem stepsIn_entries (before : Seen) (nodes : List Node) (language : String) :
    stepsIn (entries before nodes language) =
      ((topSteps nodes).zipIdx 1).map (fun s => (some s.2, s.1)) ++ plainSteps (Flow.preorder (constructs nodes)) := by
  have hconstructs : stepsIn (ofNodes 0 (constructs nodes)).entries = plainSteps (Flow.preorder (constructs nodes)) :=
    (ofNodes_visits 0 (constructs nodes)).steps
  have hopening : stepsIn [.note 0 header, .note 0 ("Language: " ++ language ++ "\n"),
      .note 0 "[SEQUENTIAL STEPS - execute in this exact order]:"] = [] := rfl
  have hheading (text : String) : stepsIn [.heading 0 text] = [] := rfl
  rw [entries]
  simp only [stepsIn_append, stepsIn_remark, stepsIn_numbered, stepsIn_notes, hconstructs, hopening, hheading,
    List.append_nil, List.nil_append]

/-! ### The hint -/

/-- The hint names the most demanding construct that the flow has, and says what it has of it. -/
def Hint.Suits (nodes : List Node) : Hint → Prop
  | .events count handlers =>
    Flow.events nodes ≠ [] ∧ handlers = Flow.events nodes ∧ count = (nodes.filter Node.isStep).length
  | .tries => Flow.events nodes = [] ∧ Flow.collect Node.isTry nodes ≠ []
  | .decisions => Flow.events nodes = [] ∧ Flow.collect Node.isTry nodes = [] ∧ Flow.conditions nodes ≠ []
  | .loops => Flow.events nodes = [] ∧ Flow.collect Node.isTry nodes = [] ∧ Flow.conditions nodes = [] ∧
      Flow.loopLabels nodes ≠ []
  | .linear => Flow.events nodes = [] ∧ Flow.collect Node.isTry nodes = [] ∧ Flow.conditions nodes = [] ∧
      Flow.loopLabels nodes = []

theorem seenAfter_none (nodes : List Node) : seenAfter .none nodes = Seen.of (Flow.preorder nodes) := by
  rw [seenAfter, Seen.none_append, (ofNodes_visits 0 (constructs nodes)).seen, of_preorder_constructs]

theorem filterMap_isEvent (ns : List Node) : (ns.filter Node.isEvent).filterMap Node.event? = ns.filterMap Node.event? := by
  rw [List.filterMap_filter]
  refine List.filterMap_congr fun n _ => ?_
  cases n <;> rfl

theorem eventNodes_eq_nil (nodes : List Node) :
    (Seen.of (Flow.preorder nodes)).eventNodes = [] ↔ Flow.events nodes = [] := by
  rw [Seen.of, Flow.events, List.filter_eq_nil_iff, List.filterMap_eq_nil_iff]
  simp only [Node.isEvent, Option.not_isSome_iff_eq_none]

theorem hint_suits {nodes : List Node} {count : ℕ} (hcount : count = (nodes.filter Node.isStep).length) :
    (hint count (seenAfter .none nodes)).Suits nodes := by
  have hevents : (Seen.of (Flow.preorder nodes)).events = Flow.events nodes := filterMap_isEvent _
  have hnone : (Seen.of (Flow.preorder nodes)).eventNodes = [] ↔ Flow.events nodes = [] := eventNodes_eq_nil nodes
  have htries : (Seen.of (Flow.preorder nodes)).tryNodes = Flow.collect Node.isTry nodes := rfl
  have hdecisions : (Seen.of (Flow.preorder nodes)).decisions = Flow.conditions nodes := rfl
  have hloops : (Seen.of (Flow.preorder nodes)).loops = Flow.loopLabels nodes := rfl
  rw [seenAfter_none, hint]
  simp only [Bool.not_eq_true', List.isEmpty_eq_false_iff, ne_eq, hevents, hnone, htries, hdecisions, hloops]
  -- each test is made only where the ones before it have found nothing
  by_cases he : Flow.events nodes = []
  · rw [if_neg (not_not.mpr he)]
    by_cases ht : Flow.collect Node.isTry nodes = []
    · rw [if_neg (not_not.mpr ht)]
      by_cases hd : Flow.conditions nodes = []
      · rw [if_neg (not_not.mpr hd)]
        by_cases hl : Flow.loopLabels nodes = []
        · rw [if_neg (not_not.mpr hl)]
          exact ⟨he, ht, hd, hl⟩
        · rw [if_pos hl]
          exact ⟨he, ht, hd, hl⟩
      · rw [if_pos hd]
        exact ⟨he, ht, hd⟩
    · rw [if_pos ht]
      exact ⟨he, ht⟩
  · rw [if_pos he]
    exact ⟨he, rfl, hcount⟩

/-! ### Flows of known steps -/

/-- Where all steps of a flow are of known kinds, leaving out the others leaves out none. -/
theorem filter_known {ns : List Node} {p : Step → Bool} (hp : ∀ s, p s = true ↔ s.kind ∈ Step.kinds)
    (hknown : ∀ s, .step s ∈ ns → s.kind ∈ Step.kinds) :
    (ns.filterMap Node.step?).filter p = ns.filterMap Node.step? := by
  refine List.filter_eq_self.mpr fun s hs => ?_
  obtain ⟨n, hn, hstep⟩ := List.mem_filterMap.mp hs
  obtain rfl : n = .step s := by
    cases n <;> cases hstep
    rfl
  exact (hp s).mpr (hknown s hn)

theorem topSteps_eq {nodes : List Node} (hknown : ∀ s, .step s ∈ nodes → s.kind ∈ Step.kinds) :
    topSteps nodes = nodes.filterMap Node.step? :=
  filter_known (fun _ => List.contains_iff_mem) hknown

theorem length_topSteps {nodes : List Node} (hknown : ∀ s, .step s ∈ nodes → s.kind ∈ Step.kinds) :
    (topSteps nodes).length = (nodes.filter Node.isStep).length := by
  rw [topSteps_eq hknown, List.length_filterMap_eq_countP, List.countP_eq_length_filter]
  rfl

theorem plainSteps_eq {nodes : List Node} (hknown : ∀ s, .step s ∈ Flow.preorder nodes → s.kind ∈ Step.kinds) :
    plainSteps (Flow.preorder nodes) = (Flow.steps Step.kinds nodes).map fun s => (none, s) := by
  rw [Flow.steps, filter_known (fun _ => List.contains_iff_mem) hknown, plainSteps]

/-- The outline of a flow of known steps. A fresh summarizer meets the constructs that are collected from the flow, in
their order. It numbers the steps of the top level and then writes down the steps of the constructs, each of them once.
The hint is that for the most demanding construct. -/
theorem outline_follows_flow (nodes : List Node) (language : String)
    (hknown : ∀ s, .step s ∈ Flow.preorder nodes → s.kind ∈ Step.kinds) :
    summarizeAfter .none nodes language = (textOf (entries .none nodes language),
        ⟨Flow.conditions nodes, Flow.loopLabels nodes, Flow.collect Node.isTry nodes, Flow.switchLabels nodes,
          Flow.collect Node.isEvent nodes⟩) ∧
      stepsIn (entries .none nodes language) =
        ((nodes.filterMap Node.step?).zipIdx 1).map (fun s => (some s.2, s.1)) ++
          (Flow.steps Step.kinds (constructs nodes)).map (fun s => (none, s)) ∧
      ∃ (opening : List Entry) (hint : Hint), hint.Suits nodes ∧ entries .none nodes language =
        opening ++ .heading 0 "[FLOWCHART STRUCTURE HINT]:" :: (hint.lines.map (.note 2) ++ [.heading 0 footer]) := by
  have htop : ∀ s, .step s ∈ nodes → s.kind ∈ Step.kinds := fun s hs =>
    hknown s (Flow.mem_preorder.mpr ⟨_, hs, Node.mem_preorder_self _⟩)
  have hbelow : ∀ s, .step s ∈ Flow.preorder (constructs nodes) → s.kind ∈ Step.kinds := by
    intro s hs
    obtain ⟨n, hn, hstep⟩ := Flow.mem_preorder.mp hs
    exact hknown s (Flow.mem_preorder.mpr ⟨n, List.mem_of_mem_filter hn, hstep⟩)
  refine ⟨?_, ?_, ?_⟩
  · rw [summarizeAfter, seenAfter_none]
    rfl
  · rw [stepsIn_entries, topSteps_eq htop, plainSteps_eq hbelow]
  · exact ⟨_, _, hint_suits (length_topSteps htop), (List.append_assoc _ _ _).trans (List.append_assoc _ _ _)⟩

/-- A step in a cleanup is written down behind the numbered ones, and the handler around it is met. -/
theorem cleanup_follows_flow :
    let nodes := [Node.tryCatch [.loop "While: a" "while" []] "e" []
      [.event "s" "data" "s.on('data')" [.step ⟨"io", "Read"⟩]], .step ⟨"output", "Log"⟩]
    (∀ s, .step s ∈ Flow.preorder nodes → s.kind ∈ Step.kinds) ∧
      (summarizeAfter .none nodes "javascript").2.eventNodes =
        [.event "s" "data" "s.on('data')" [.step ⟨"io", "Read"⟩]] ∧
      stepsIn (entries .none nodes "javascript") = [(some 1, ⟨"output", "Log"⟩), (none, ⟨"io", "Read"⟩)] := by
  intro nodes
  have hknown : ∀ s, .step s ∈ Flow.preorder nodes → s.kind ∈ Step.kinds := by
    simp [nodes, Flow.preorder, Node.preorder, Step.kinds]
  have houtline := outline_follows_flow nodes "javascript" hknown
  exact ⟨hknown, by rw [houtline.1]; rfl, houtline.2.1⟩

end Summary
end FlowSketch
