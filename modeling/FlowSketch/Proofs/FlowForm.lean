import FlowSketch.Analysis
import FlowSketch.Proofs.BraceNodes
import FlowSketch.Proofs.OwnerReading
import FlowSketch.Proofs.SystemsSteps

/-!
# The form of recovered flows

The flow of every source, however malformed, keeps to the kinds of steps and loops that there are and to the lengths of
texts, and has no other constructs than its dialect.
-/
namespace FlowSketch
open TextBlank

/-! ### Forms -/

/-- A step of a known kind, with a label that is not too long. -/
structure Step.Formed (limit : ℕ) (s : Step) : Prop where
  kind : s.kind ∈ Step.kinds
  labelled : s.label ≠ ""
  short : s.label.length ≤ limit

/-- How long the labels of steps are. -/
def Dialect.stepLimit : Dialect → ℕ
  | .indentation => 48
  | _ => 50

/-- The texts that a node has of its own are as they have to be. -/
def Node.Formed (dialect : Dialect) : Node → Prop
  | .step s => s.Formed dialect.stepLimit
  | .decision condition _ _ => condition.length ≤ 60 ∧ (dialect = .brace → condition ≠ "")
  | .loop _ kind _ => kind ∈ ["for", "for-of", "for-in", "while", "do-while", "iterator"]
  | _ => True

/-- A flow whose nodes are formed, with the constructs of its dialect in their places. -/
structure Flow.WellFormed (dialect : Dialect) (nodes : List Node) : Prop where
  formed : Every (Node.Formed dialect) nodes
  systems : dialect = .systems →
    Every (fun n => n.isTry = false ∧ n.event? = none ∧ n.isPromise = false) nodes ∧
      ∀ n ∈ nodes, ∀ body ∈ n.children, Every (fun m => m.isFunction = false) body
  indentation : dialect = .indentation →
    Every (fun n => (∀ body ∈ n.children, body = []) ∧
      (n.isStep = true ∨ n.condition?.isSome = true ∨ n.loopLabel?.isSome = true ∨ n.isTry = true)) nodes

theorem length_clip_le (n : ℕ) (s : String) : (clip n s).length ≤ n := by
  rw [clip, String.length_ofList]
  exact List.length_take_le n s.toList

/-! ### Tables -/

/-- Whether all steps of a table are of known kinds. -/
def StatementTable.isKnown (table : StatementTable) : Bool :=
  table.all fun rule => rule.outcome.all fun o => Step.kinds.contains o.1

theorem StatementRule.stepOf_formed {rule : StatementRule} {limit : ℕ} {m : Pattern.Place} {s : Step}
    (hkind : rule.outcome.all (fun o => Step.kinds.contains o.1) = true) (h : rule.stepOf limit m = some s) :
    s.Formed limit := by
  rw [stepOf] at h
  obtain ⟨⟨kind, label⟩, houtcome, hlabel⟩ := Option.bind_eq_some_iff.mp h
  rw [houtcome] at hkind
  simp only at hlabel
  split at hlabel
  · cases hlabel
  · next hne =>
    cases hlabel
    exact ⟨by simpa using hkind, by simpa [String.isEmpty_iff] using hne, length_clip_le _ _⟩

theorem StatementTable.classify_formed {table : StatementTable} (htable : table.isKnown = true) {limit : ℕ}
    {statement : String} {s : Step} (h : table.classify limit statement = some s) : s.Formed limit :=
  classify_all (fun rule hrule _ _ _ hs => rule.stepOf_formed (List.all_eq_true.mp htable rule hrule) hs) h

theorem brace_table_known : BraceActions.table.isKnown = true := by decide +kernel

theorem systems_table_known : SystemsActions.table.isKnown = true := by decide +kernel

theorem indented_table_known : IndentedFlow.table.isKnown = true := by decide +kernel

/-! ### Indented languages -/

namespace IndentedFlow

theorem collapseSteps_sublist (last : Option String) (nodes : List Node) : (collapseSteps last nodes).Sublist nodes := by
  fun_induction collapseSteps last nodes with
  | case1 => exact .slnil
  | case2 s ns ih => exact ih.cons _
  | case3 last s ns _ ih => exact ih.cons_cons _
  | case4 last n ns _ ih => exact ih.cons_cons _

/-- A node without nodes in it, of the kinds that a line can have. -/
def IsSketch (n : Node) : Prop :=
  n.Formed .indentation ∧ (∀ body ∈ n.children, body = []) ∧
    (n.isStep = true ∨ n.condition?.isSome = true ∨ n.loopLabel?.isSome = true ∨ n.isTry = true)

theorem construct?_sketch {line : List Char} {n : Node} (h : construct? line = some n) : IsSketch n := by
  rw [construct?] at h
  split at h
  · cases h
    exact ⟨⟨(length_clip_le 50 _).trans (by decide), by simp⟩, by simp [Node.children], by simp [Node.condition?]⟩
  split at h
  · cases h
    exact ⟨by simp [Node.Formed], by simp [Node.children], by simp [Node.loopLabel?]⟩
  split at h
  · cases h
    exact ⟨by simp [Node.Formed], by simp [Node.children], by simp [Node.loopLabel?]⟩
  split at h
  · cases h
    exact ⟨trivial, by simp [Node.children], by simp [Node.isTry]⟩
  · cases h

theorem nodeOfLine_sketch {line : List Char} {n : Node} (h : nodeOfLine line = some n) : IsSketch n := by
  rw [nodeOfLine] at h
  split at h
  · cases h
  cases hconstruct : construct? (trim line) with
  | some construct =>
    rw [hconstruct] at h
    cases h
    exact construct?_sketch hconstruct
  | none =>
    rw [hconstruct] at h
    obtain ⟨s, hs, rfl⟩ := Option.map_eq_some_iff.mp h
    exact ⟨StatementTable.classify_formed indented_table_known hs, by simp [Node.children], .inl rfl⟩

theorem ofSource_wellFormed (code : String) : Flow.WellFormed .indentation (ofSource code) := by
  have hsketch : ∀ n ∈ ofSource code, IsSketch n := by
    intro n hn
    obtain ⟨line, -, hline⟩ := List.mem_filterMap.mp ((collapseSteps_sublist _ _).mem hn)
    exact nodeOfLine_sketch hline
  have hevery : Flow.Every IsSketch (ofSource code) := by
    generalize ofSource code = nodes at hsketch
    induction nodes with
    | nil => exact Flow.every_nil
    | cons n ns ih =>
      obtain ⟨hn, hns⟩ := List.forall_mem_cons.mp hsketch
      refine Flow.every_cons.mpr ⟨⟨hn, fun body hbody => ?_⟩, ih hns⟩
      rw [hn.2.1 body hbody]
      exact Flow.every_nil
  exact ⟨hevery.imp fun _ h => h.1, by simp, fun _ => hevery.imp fun _ h => h.2⟩

end IndentedFlow

/-! ### Systems languages -/

namespace SystemsFlow
open FlowSketch.Flow SystemsRegion SystemsHeader

/-- A node inside of a function, or outside of all functions. -/
def IsInner (n : Node) : Prop :=
  n.Formed .systems ∧ (n.isTry = false ∧ n.event? = none ∧ n.isPromise = false) ∧ n.isFunction = false

theorem length_clipped_le (limit : ℕ) (cs : Line) : (clipped limit cs).length ≤ 60 := by
  rw [clipped, text, String.length_ofList, SystemsActions.safeChars]
  exact (List.length_take_le 45 _).trans (by decide)

theorem stepNodes_inner (line : Line) : Every IsInner (stepNodes line) := by
  refine every_steps.mpr fun s hs => ?_
  obtain ⟨statement, -, hstatement⟩ := List.mem_filterMap.mp hs
  exact ⟨StatementTable.classify_formed systems_table_known hstatement, ⟨rfl, rfl, rfl⟩, rfl⟩

theorem every_loop {label kind : String} {body rest : List Node}
    (hkind : kind ∈ ["for", "for-of", "for-in", "while", "do-while", "iterator"]) (hbody : Every IsInner body)
    (hrest : Every IsInner rest) : Every IsInner (.loop label kind body :: rest) :=
  every_cons.mpr ⟨⟨⟨hkind, ⟨rfl, rfl, rfl⟩, rfl⟩, by simpa [Node.children] using hbody⟩, hrest⟩

theorem nodesOf_inner (lines : List Line) : Every IsInner (nodesOf lines) := by
  -- along the recursion of the reader, with the cases of a switch and the decision of a chain
  refine nodesOf.induct (fun lines => Every IsInner (nodesOf lines)) (fun cs => ∀ c ∈ casesOf cs, Every IsInner c.body)
    (fun branches otherwise => Every IsInner (decisions branches otherwise)) ?nil ?filler ?branch ?forLoop ?whileLoop ?doLoop
    ?switch ?line ?noCase ?case ?otherwise ?decision lines
  case nil => exact nodesOf_nil ▸ every_nil
  case filler =>
    intro raw following hfiller ih
    rwa [nodesOf, if_pos hfiller]
  case branch =>
    intro raw following hfiller hheader _ hchain hrest
    rw [nodesOf_branch (by simpa using hfiller) hheader]
    exact every_append.mpr ⟨hchain, hrest⟩
  case forLoop =>
    intro raw following hfiller hheader _ hbody hrest
    rw [nodesOf_forLoop (by simpa using hfiller) hheader rfl]
    exact every_loop (by simp) hbody hrest
  case whileLoop =>
    intro raw following hfiller hheader _ hbody hrest
    rw [nodesOf_whileLoop (by simpa using hfiller) hheader rfl]
    exact every_loop (by simp) hbody hrest
  case doLoop =>
    intro raw following hfiller hheader _ _ hbody hrest
    rw [nodesOf_doLoop (by simpa using hfiller) hheader rfl]
    exact every_loop (by simp) hbody hrest
  case switch =>
    intro raw following hfiller hheader _ _ hcases hrest
    rw [nodesOf_switch (by simpa using hfiller) hheader rfl]
    exact every_cons.mpr ⟨⟨⟨trivial, ⟨rfl, rfl, rfl⟩, rfl⟩, List.forall_mem_map.mpr hcases⟩, hrest⟩
  case line =>
    intro raw following hfiller hheader ih
    rw [nodesOf_line (by simpa using hfiller) hheader]
    exact every_append.mpr ⟨stepNodes_inner _, ih⟩
  case noCase => simp [casesOf]
  case case =>
    intro c cs _ hbody hcases
    rw [casesOf]
    exact List.forall_mem_cons.mpr ⟨hbody, hcases⟩
  case otherwise =>
    intro otherwise ih
    rwa [decisions_nil]
  case decision =>
    intro otherwise b bs hyes hno
    rw [decisions_cons]
    refine every_cons.mpr ⟨⟨⟨⟨length_clipped_le _ _, by simp⟩, ⟨rfl, rfl, rfl⟩, rfl⟩, ?_⟩, every_nil⟩
    simpa [Node.children] using ⟨hyes, hno⟩

/-- Functions stand in the outermost list only. -/
structure IsProgram (nodes : List Node) : Prop where
  each : Every (fun n => n.Formed .systems ∧ n.isTry = false ∧ n.event? = none ∧ n.isPromise = false) nodes
  inside : ∀ n ∈ nodes, ∀ body ∈ n.children, Every (fun m => m.isFunction = false) body

theorem IsProgram.append {ms ns : List Node} (hm : IsProgram ms) (hn : IsProgram ns) : IsProgram (ms ++ ns) :=
  ⟨every_append.mpr ⟨hm.each, hn.each⟩, List.forall_mem_append.mpr ⟨hm.inside, hn.inside⟩⟩

theorem isProgram_of_inner {nodes : List Node} (h : Every IsInner nodes) : IsProgram nodes :=
  ⟨h.imp fun _ hn => ⟨hn.1, hn.2.1⟩, fun _ hn body hbody => (h.children hn body hbody).imp fun _ hm => hm.2.2⟩

theorem isProgram_function {label : String} {body rest : List Node} (hbody : Every IsInner body) (hrest : IsProgram rest) :
    IsProgram (.function label body :: rest) := by
  refine ⟨every_cons.mpr ⟨⟨⟨trivial, rfl, rfl, rfl⟩, ?_⟩, hrest.each⟩, List.forall_mem_cons.mpr ⟨?_, hrest.inside⟩⟩
  · simpa [Node.children] using hbody.imp fun _ hn => ⟨hn.1, hn.2.1⟩
  · simpa [Node.children] using hbody.imp fun _ hn => hn.2.2

theorem functionsFrom_program (loose lines : List Line) : IsProgram (functionsFrom loose lines) := by
  fun_induction functionsFrom loose lines with
  | case1 loose => exact isProgram_of_inner (nodesOf_inner loose)
  | case2 loose line lines header _ ih =>
    exact (isProgram_of_inner (nodesOf_inner loose)).append (isProgram_function (nodesOf_inner _) ih)
  | case3 loose line lines _ ih => exact ih

theorem ofSource_wellFormed (code : String) : Flow.WellFormed .systems (ofSource code) := by
  have hprogram : IsProgram (ofSource code) := functionsFrom_program _ _
  exact ⟨hprogram.each.imp fun _ h => h.1, fun _ => ⟨hprogram.each.imp fun _ h => h.2, hprogram.inside⟩, by simp⟩

end SystemsFlow
/-! ### Brace languages -/

namespace Owner
open BraceStatement

/-- The condition of a branch is not too long. -/
def Short : Owner → Prop
  | branch c | elseBranch c => c.length ≤ headerLimit
  | _ => True

theorem parenthesised_short (keyword : String) (ts : List Token) :
    (parenthesised headerLimit keyword ts).length ≤ headerLimit := length_clip_le _ _

theorem short_of_reads {flat : List Char} {stmt : List Token} {owner : Owner} (h : Reads flat stmt owner) :
    owner.Short := by
  cases h with
  | branch => exact parenthesised_short _ _
  | elseBranch => exact parenthesised_short _ _
  | fixed htexts =>
    cases owner with
    | branch c | elseBranch c => cases htexts
    | _ => trivial
  | _ => trivial

theorem classify_short (ts : List Token) : (classify ts).Short := short_of_reads (classify_reads ts)

theorem orElse_ne_empty {text missing : String} (h : missing ≠ "") : orElse text missing ≠ "" := by
  rw [orElse]
  split
  · exact h
  · next hne => simpa [String.isEmpty_iff] using hne

/-- What a decision says of a condition. -/
theorem orElse_condition {c : String} (h : c.length ≤ headerLimit) :
    (orElse c "condition").length ≤ 60 ∧ orElse c "condition" ≠ "" := by
  refine ⟨?_, orElse_ne_empty (by decide)⟩
  rw [orElse]
  split
  · decide
  · exact h

end Owner

namespace BraceFlow
open FlowSketch.Flow

theorem stepsOf_formed (tokens : List Token) : ∀ s ∈ stepsOf tokens, s.Formed 50 := by
  intro s hs
  obtain ⟨statement, -, hstep⟩ := List.mem_filterMap.mp ((firstByLabel_sublist _ _).mem hs)
  rw [BraceActions.stepOf] at hstep
  split at hstep
  · cases hstep
  · exact StatementTable.classify_formed brace_table_known hstep

theorem gives_formed {owner : Owner} (h : owner.Short) (tokens : List Token) :
    Gives (Node.Formed .brace) tokens owner := by
  cases owner with
  | branch c => exact fun _ _ => (Owner.orElse_condition h).imp_right fun hne _ => hne
  | elseBranch c => exact fun _ _ => (Owner.orElse_condition h).imp_right fun hne _ => hne
  | forOf | forIn | forLoop | whileLoop | doWhile | iterator => exact fun _ => by simp [Node.Formed, Owner.kind]
  | event | promise | function | method => exact fun _ => trivial
  | switch c => exact fun _ _ => trivial
  | catchBlock param => exact fun _ _ _ => trivial
  | _ => trivial

theorem ofSource_wellFormed (code : String) : Flow.WellFormed .brace (ofSource code) := by
  have howners : ∀ before tokens, before.Sublist (BraceLexer.tokens code) → tokens.Sublist (BraceLexer.tokens code) →
      Gives (Node.Formed .brace) tokens (Owner.classify before) := fun before tokens _ _ =>
    gives_formed (Owner.classify_short before) tokens
  exact ⟨every_ofSource (fun _ _ _ => trivial) howners fun us _ => stepsOf_formed us, by simp, by simp⟩

end BraceFlow

/-! ### Analyses -/

theorem Analysis.extract_wellFormed (dialect : Dialect) (code : String) : Flow.WellFormed dialect (extract dialect code) := by
  cases dialect with
  | systems => exact SystemsFlow.ofSource_wellFormed code
  | indentation => exact IndentedFlow.ofSource_wellFormed code
  | brace => exact BraceFlow.ofSource_wellFormed code

/-- The flow of an analysis is well formed, whatever is analyzed. -/
theorem Analysis.analyze_wellFormed (code path hint : String) :
    Flow.WellFormed (analyze code path hint).dialect (analyze code path hint).nodes :=
  extract_wellFormed _ code

end FlowSketch
