import FlowSketch.Proofs.FlattenedText
import FlowSketch.Proofs.FlowForm
import FlowSketch.Proofs.PatternMatch
import FlowSketch.Proofs.SummaryLines
import FlowSketch.Proofs.TextLines

/-!
# Texts on one line

Of the tokens of a source only newlines and strings can hold a newline, and no statement is read with its newlines. So a
text of the flow that is broken has been taken from a string that is.
-/
namespace FlowSketch
open TextBlank

/-- The groups of a match are parts of the text in which it is found. -/
theorem Pattern.Place.Within.unbroken {text : List Char} {m : Place} (h : m.Within text) (htext : '\n' ∉ text) (i : ℕ) :
    Unbroken (m.text i) := unbroken_of_subset htext (h.chars_subset i)

/-! ### Steps -/

namespace BraceActions
open Pattern StatementRule

/-- A rule makes no broken label of a statement without newlines. -/
def KeepsLine (rule : StatementRule) : Prop :=
  ∀ {text m s}, '\n' ∉ text → rule.pattern.search text = some m → rule.stepOf labelLimit m = some s → Unbroken s.label

theorem keepsLine_ignore (p : Pattern) : KeepsLine (ignore p) := by
  intro text m s _ _ hs
  cases hs

theorem keepsLine_step {kind : String} {p : Pattern} {label : Place → String}
    (h : ∀ {text m}, p.search text = some m → (∀ i, Unbroken (m.text i)) → Unbroken (label m)) :
    KeepsLine (step kind p label) := by
  intro text m s htext hm hs
  rw [stepOf_step hs]
  exact (h hm ((search_within hm).unbroken htext)).clip labelLimit

/-- A rule whose labels are a lead and a group. -/
theorem keepsLine_lead {kind lead : String} (hlead : Unbroken lead) (p : Pattern) (i : ℕ) :
    KeepsLine (step kind p fun m => lead ++ m.text i) :=
  keepsLine_step fun _ hgroups => unbroken_append.mpr ⟨hlead, hgroups i⟩

theorem keepsLine_fixed {kind label : String} (hlabel : Unbroken label) (p : Pattern) : KeepsLine (fixed kind p label) :=
  keepsLine_step fun _ _ => hlabel

theorem keepsLine_streams : ∀ rule ∈ streams, KeepsLine rule := by
  simp only [streams, List.forall_mem_cons]
  refine ⟨keepsLine_lead (by decide) _ 1, keepsLine_lead (by decide) _ 1, keepsLine_step fun _ hgroups => ?_,
    keepsLine_fixed (by decide) _, nofun⟩
  simp only [unbroken_append]
  exact ⟨⟨⟨by decide, hgroups 1⟩, by decide⟩, hgroups 2⟩

theorem keepsLine_files : ∀ rule ∈ files, KeepsLine rule := by
  simp only [files, List.forall_mem_cons]
  exact ⟨keepsLine_lead (by decide) _ 1, keepsLine_lead (by decide) _ 1, keepsLine_lead (by decide) _ 1, nofun⟩

theorem keepsLine_messages : ∀ rule ∈ messages, KeepsLine rule := by
  simp only [messages, List.forall_mem_cons]
  refine ⟨keepsLine_step fun _ hgroups => ?_, keepsLine_step fun _ hgroups => ?_, keepsLine_step fun _ hgroups => ?_,
    keepsLine_lead (by decide) _ 1, nofun⟩
  · exact unbroken_append.mpr ⟨by decide, (hgroups 1).clip 45⟩
  · have hkept : Unbroken (.ofList (withoutQuotes _)) :=
      unbroken_of_subset (unbroken_ofList.mp (hgroups 1)) fun _ hc => List.mem_of_mem_filter hc
    exact unbroken_append.mpr ⟨by decide, hkept.clip 40⟩
  · exact framed_unbroken (by decide) (hgroups 1) (by decide)

theorem withoutScheme_subset (cs : List Char) : withoutScheme cs ⊆ cs := by
  have hdrop (lead : String) : ∀ ds ∈ dropPrefix? lead cs, ds ⊆ cs := by
    intro ds hds
    rw [dropPrefix?] at hds
    split at hds <;> cases hds
    exact List.drop_subset _ _
  rw [withoutScheme]
  cases hsecure : dropPrefix? "https://" cs with
  | some ds => exact hdrop _ ds hsecure
  | none =>
    cases hplain : dropPrefix? "http://" cs with
    | some ds => exact hdrop _ ds hplain
    | none => exact List.Subset.refl cs

theorem unbroken_verbs : ∀ verb ∈ ["get", "post", "put", "delete", "patch"], Unbroken (TextCase.upper verb) := by
  decide +kernel

theorem keepsLine_requests : ∀ rule ∈ requests, KeepsLine rule := by
  simp only [requests, List.forall_mem_cons]
  refine ⟨keepsLine_step fun _ hgroups => ?_, keepsLine_step fun hm hgroups => ?_, nofun⟩
  · have haddress : Unbroken (.ofList (withoutScheme _)) :=
      unbroken_of_subset (unbroken_ofList.mp (hgroups 1)) (withoutScheme_subset _)
    exact unbroken_append.mpr ⟨by decide, haddress.clip 35⟩
  · have hverb := unbroken_verbs _ (request_verb hm)
    simp only [unbroken_append]
    exact ⟨⟨hverb, by decide⟩, (hgroups 2).clip 30⟩

theorem keepsLine_storage : ∀ rule ∈ storage, KeepsLine rule := by
  simp only [storage, List.forall_mem_cons]
  exact ⟨keepsLine_lead (by decide) _ 1, keepsLine_fixed (by decide) _, keepsLine_fixed (by decide) _,
    keepsLine_fixed (by decide) _, nofun⟩

theorem keepsLine_waiting : ∀ rule ∈ waiting, KeepsLine rule := by
  simp only [waiting, List.forall_mem_cons]
  exact ⟨keepsLine_lead (by decide) _ 1, keepsLine_lead (by decide) _ 1, nofun⟩

theorem returned_subset (cs : List Char) : trim (dropEndSemicolons cs) ⊆ cs := by
  have hsemicolons : dropEndSemicolons cs ⊆ cs := fun c hc =>
    List.mem_reverse.mp ((List.dropWhile_sublist _).subset (List.mem_reverse.mp hc))
  exact fun c hc => hsemicolons ((List.dropWhile_sublist _).subset ((dropEndBlanks_isPrefix _).subset hc))

theorem unbroken_returnLabel {m : Place} (h : Unbroken (m.text 1)) : Unbroken (returnLabel m) := by
  have hvalue : Unbroken (clip 30 (.ofList (trim (dropEndSemicolons (m.chars 1))))) :=
    (unbroken_of_subset (unbroken_ofList.mp h) (returned_subset _)).clip 30
  simp only [returnLabel]
  split
  · decide
  · exact unbroken_append.mpr ⟨by decide, hvalue⟩

theorem keepsLine_leaving : ∀ rule ∈ leaving, KeepsLine rule := by
  simp only [leaving, List.forall_mem_cons]
  exact ⟨keepsLine_lead (by decide) _ 1, keepsLine_lead (by decide) _ 1, keepsLine_lead (by decide) _ 1,
    keepsLine_fixed (by decide) _, keepsLine_step fun _ hgroups => unbroken_returnLabel (hgroups 1), nofun⟩

theorem keepsLine_creation : ∀ rule ∈ creation, KeepsLine rule := by
  simp only [creation, List.forall_mem_cons]
  refine ⟨keepsLine_step fun _ hgroups => ?_, nofun⟩
  simp only [unbroken_append]
  exact ⟨⟨⟨by decide, hgroups 2⟩, by decide⟩, hgroups 1⟩

theorem keepsLine_table : ∀ rule ∈ table, KeepsLine rule := by
  have himports : ∀ rule ∈ imports, KeepsLine rule := by simp [imports, keepsLine_ignore]
  simp only [table, List.forall_mem_append]
  exact ⟨⟨⟨⟨⟨⟨⟨⟨himports, keepsLine_streams⟩, keepsLine_files⟩, keepsLine_messages⟩, keepsLine_requests⟩,
    keepsLine_storage⟩, keepsLine_waiting⟩, keepsLine_leaving⟩, keepsLine_creation⟩

theorem stepOf_unbroken {text : String} (h : Unbroken text) {s : FlowSketch.Step} (hs : stepOf text = some s) :
    Unbroken s.label := by
  unfold stepOf at hs
  split at hs
  · cases hs
  · exact StatementTable.classify_all (fun rule hrule m hm s hs => keepsLine_table rule hrule h hm hs) hs

end BraceActions

/-! ### Statements -/

/-- A token whose text is on one line, unless it is a newline. -/
def Token.OnLine (t : Token) : Prop := t.isNewline = false → Unbroken t.text

namespace BraceStatement

theorem spaced_unbroken {parts : List String} (h : ∀ s ∈ parts, Unbroken s) : Unbroken (spaced parts) :=
  unbroken_intercalate (by decide) h

variable {ts : List Token} (h : ∀ t ∈ ts, t.OnLine)
include h

theorem visible_unbroken : ∀ t ∈ visible ts, Unbroken t.text := by
  intro t ht
  obtain ⟨hmem, hnewline⟩ := List.mem_filter.mp ht
  exact h t hmem (by simpa using hnewline)

theorem flatten_unbroken : Unbroken (flatten ts) := spaced_unbroken (List.forall_mem_map.mpr (visible_unbroken h))

theorem flattenBlanked_unbroken : Unbroken (flattenBlanked ts) := by
  refine spaced_unbroken (List.forall_mem_map.mpr fun t ht => ?_)
  rw [blankedText]
  split
  · decide
  · exact visible_unbroken h t ht

/-- Of the tokens in a parenthesis those are kept that are no newlines. -/
theorem groupParts_unbroken (depth : ℤ) : ∀ s ∈ groupParts depth ts, Unbroken s := by
  have hkept {t : Token} (ht : t.OnLine) {p : Prop} [Decidable p] (hp : p → t.isNewline = false) :
      ∀ s ∈ (if p then [t.text] else []), Unbroken s := by
    split
    · next hp' => exact List.forall_mem_singleton.mpr (ht (hp hp'))
    · exact nofun
  have hbracket {t : Token} {v : String} (ht : t.isPunctuation v = true) : t.isNewline = false := by
    simp_all [Token.isPunctuation, Token.isNewline]
  fun_induction groupParts depth ts with
  | case1 => exact nofun
  | case2 t ts hopen ih => exact ih (List.forall_mem_cons.mp h).2
  | case3 depth t ts hopen _ ih =>
    obtain ⟨ht, hts⟩ := List.forall_mem_cons.mp h
    exact List.forall_mem_append.mpr ⟨hkept ht fun _ => hbracket hopen, ih hts⟩
  | case4 => exact nofun
  | case5 depth t ts _ hclose _ ih =>
    obtain ⟨ht, hts⟩ := List.forall_mem_cons.mp h
    exact List.forall_mem_append.mpr ⟨hkept ht fun _ => hbracket hclose, ih hts⟩
  | case6 depth t ts _ _ ih =>
    obtain ⟨ht, hts⟩ := List.forall_mem_cons.mp h
    refine List.forall_mem_append.mpr ⟨hkept ht fun hp => ?_, ih hts⟩
    simp only [Bool.and_eq_true, Bool.not_eq_true'] at hp
    exact hp.2

theorem parenthesised_unbroken (keyword : String) (limit : ℕ) : Unbroken (parenthesised limit keyword ts) := by
  have hgroup : ∀ t ∈ (ts.dropWhile fun t => !t.isKeyword keyword).drop 1, t.OnLine := fun t ht =>
    h t ((List.dropWhile_sublist _).subset (List.mem_of_mem_drop ht))
  exact (spaced_unbroken (groupParts_unbroken hgroup 0)).clip limit

end BraceStatement

/-! ### Owners -/

namespace Owner
open Pattern BraceStatement

/-- All texts that an owner names are on one line. -/
def OnLine (owner : Owner) : Prop := ∀ text ∈ owner.texts, Unbroken text

theorem onLine_of_reads {flat : List Char} {stmt : List Token} {owner : Owner} (hflat : '\n' ∉ flat)
    (hstmt : ∀ t ∈ stmt, t.OnLine) (h : Reads flat stmt owner) : owner.OnLine := by
  have hheader (keyword : String) : Unbroken (parenthesised headerLimit keyword stmt) :=
    parenthesised_unbroken hstmt keyword headerLimit
  cases h with
  | @event m hm =>
    have hgroups := (search_within hm).unbroken (flatten_unbroken hstmt)
    simp [OnLine, texts, hgroups]
  | branch | elseBranch | forLoop | whileLoop | switch => exact List.forall_mem_singleton.mpr (hheader _)
  | forOf =>
    cases hm : forOfPattern.search flat with
    | none => exact nofun
    | some m => exact List.forall_mem_singleton.mpr ((search_within hm).unbroken hflat 1)
  | catchBlock =>
    cases hm : catchParamPattern.search flat with
    | none => exact List.forall_mem_singleton.mpr (by decide)
    | some m => exact List.forall_mem_singleton.mpr ((search_within hm).unbroken hflat 1)
  | @iterator m hm =>
    have hgroups := (search_within hm).unbroken hflat
    simp [OnLine, texts, hgroups]
  | function hm | namedArrow hm | classBody hm =>
    exact List.forall_mem_singleton.mpr ((search_within hm).unbroken hflat 1)
  | method hm => exact List.forall_mem_singleton.mpr ((matchStart_within hm).unbroken hflat 1)
  | fixed htexts =>
    rw [OnLine, htexts]
    exact nofun

theorem classify_onLine {ts : List Token} (h : ∀ t ∈ ts, t.OnLine) : (classify ts).OnLine := by
  have hpending : ∀ t ∈ pending ts, t.OnLine := fun t ht => h t (List.mem_of_mem_drop ht)
  exact onLine_of_reads (flattenBlanked_unbroken hpending) hpending (classify_reads ts)

theorem orElse_unbroken {text missing : String} (htext : Unbroken text) (hmissing : Unbroken missing) :
    Unbroken (orElse text missing) := by
  rw [orElse]
  split
  · exact hmissing
  · exact htext

theorem headed_unbroken {lead text missing : String} (hlead : Unbroken lead) (htext : Unbroken text)
    (hmissing : Unbroken missing) : Unbroken (headed lead text missing) := by
  rw [headed]
  split
  · exact hmissing
  · exact unbroken_append.mpr ⟨hlead, htext.clip 40⟩

theorem OnLine.label {owner : Owner} (h : owner.OnLine) : Unbroken owner.label := by
  cases owner with
  | event s m n =>
    obtain ⟨hs, hm, hn⟩ : Unbroken s ∧ Unbroken m ∧ Unbroken n := by simpa [OnLine, texts] using h
    simp only [Owner.label, unbroken_append]
    exact ⟨⟨⟨⟨⟨hs, by decide⟩, hm⟩, by decide⟩, hn⟩, by decide⟩
  | branch c | elseBranch c => exact orElse_unbroken (h c List.mem_cons_self) (by decide)
  | forOf item =>
    cases item with
    | none => decide
    | some item => exact unbroken_append.mpr ⟨by decide, h item List.mem_cons_self⟩
  | forLoop c | whileLoop c => exact headed_unbroken (by decide) (h c List.mem_cons_self) (by decide)
  | switch s => exact unbroken_append.mpr ⟨by decide, orElse_unbroken (h s List.mem_cons_self) (by decide)⟩
  | promise stage => cases stage <;> decide
  | iterator s m =>
    obtain ⟨hs, hm⟩ : Unbroken s ∧ Unbroken m := by simpa [OnLine, texts] using h
    exact unbroken_append.mpr ⟨framed_unbroken hs (by decide) hm, by decide⟩
  | catchBlock t | function t => exact framed_unbroken (by decide) (h t List.mem_cons_self) (by decide)
  | method n | namedArrow n => exact unbroken_append.mpr ⟨h n List.mem_cons_self, by decide⟩
  | classBody n => exact unbroken_append.mpr ⟨by decide, h n List.mem_cons_self⟩
  | _ => decide

end Owner

/-! ### Nodes -/

/-- All texts that an outline writes for a node are on one line. -/
def Node.OnLine (n : Node) : Prop := ∀ text ∈ Summary.textsOf n, Unbroken text

namespace BraceFlow
open FlowSketch.Flow

/-- Statements are made of the tokens that they are cut from. -/
theorem statementsFrom_subset (current : List Token) (depth : ℕ) (ts : List Token) :
    ∀ statement ∈ statementsFrom current depth ts, statement ⊆ current ++ ts := by
  fun_induction statementsFrom current depth ts with
  | case1 => exact nofun
  | case2 current => exact List.forall_mem_singleton.mpr (List.subset_append_left _ _)
  | case3 current depth t ts read _ ih =>
    have hread : read ++ ts = current ++ t :: ts := List.append_assoc _ _ _
    rw [← hread]
    refine List.forall_mem_cons.mpr ⟨List.subset_append_left _ _, fun statement hstatement t ht => ?_⟩
    exact List.mem_append_right _ (ih statement hstatement ht)
  | case4 current depth t ts read _ ih =>
    have hread : read ++ ts = current ++ t :: ts := List.append_assoc _ _ _
    rwa [← hread]

theorem upper_kinds_unbroken : ∀ kind ∈ Step.kinds, Unbroken (TextCase.upper kind) := by
  decide +kernel

section Tokens
variable {ts : List Token} (h : ∀ t ∈ ts, t.OnLine)
include h

theorem step_onLine : ∀ s ∈ stepsOf ts, (Node.step s).OnLine := by
  intro s hs
  obtain ⟨statement, hstatement, hstep⟩ := List.mem_filterMap.mp ((firstByLabel_sublist _ _).mem hs)
  have htokens : ∀ t ∈ statement, t.OnLine := fun t ht => h t (statementsFrom_subset [] 0 ts statement hstatement ht)
  have hcompact : Unbroken (compact statement) :=
    unbroken_join (List.forall_mem_map.mpr (BraceStatement.visible_unbroken htokens))
  have hkind := upper_kinds_unbroken s.kind (stepsOf_formed ts s hs).kind
  refine List.forall_mem_singleton.mpr (unbroken_append.mpr ⟨?_, BraceActions.stepOf_unbroken hcompact hstep⟩)
  exact framed_unbroken (by decide) hkind (by decide)

theorem clauseLabel_unbroken (keyword : Token) : Unbroken (clauseLabel keyword ts) := by
  refine BraceStatement.spaced_unbroken (List.forall_mem_append.mpr ⟨?_, ?_⟩)
  · split
    · exact List.forall_mem_singleton.mpr (by decide)
    · exact nofun
  · exact List.forall_mem_map.mpr (BraceStatement.visible_unbroken h)

theorem case_labels_unbroken : ∀ label ∈ (clausesFrom 0 ts).2.map Clause.label, Unbroken label := by
  refine List.forall_mem_map.mpr fun clause hclause => ?_
  obtain ⟨-, keyword, us, hus, hlabel⟩ := (clausesFrom_sublist 0 ts).2 clause hclause
  rw [hlabel]
  exact clauseLabel_unbroken (fun t ht => h t (hus.mem ht)) keyword

theorem gives_onLine {owner : Owner} (howner : owner.OnLine) : Gives Node.OnLine ts owner := by
  have hframed (lead tail : String) (hlead : Unbroken lead) (htail : Unbroken tail) :
      Unbroken (lead ++ owner.label ++ tail) := framed_unbroken hlead howner.label htail
  cases owner with
  | branch | elseBranch => exact fun _ _ => List.forall_mem_singleton.mpr (hframed _ _ (by decide) (by decide))
  | forOf | forIn | forLoop | whileLoop | doWhile | iterator | promise | function | method =>
    exact fun _ => List.forall_mem_singleton.mpr (hframed _ _ (by decide) (by decide))
  | switch c =>
    intro cases hcases
    refine List.forall_mem_cons.mpr ⟨hframed _ _ (by decide) (by decide), List.forall_mem_map.mpr fun c hc => ?_⟩
    have hlabel : c.label ∈ (clausesFrom 0 ts).2.map Clause.label := hcases ▸ List.mem_map_of_mem hc
    exact framed_unbroken (by decide) (case_labels_unbroken h _ hlabel) (by decide)
  | event s m n =>
    intro body
    obtain ⟨hs, -, hn⟩ : Unbroken s ∧ Unbroken m ∧ Unbroken n := by simpa [Owner.OnLine, Owner.texts] using howner
    refine List.forall_mem_cons.mpr ⟨hframed _ _ (by decide) (by decide), List.forall_mem_singleton.mpr ?_⟩
    exact unbroken_append.mpr ⟨framed_unbroken (by decide) hs (by decide), hn⟩
  | catchBlock param =>
    intro tried handler cleanup
    exact List.forall_mem_singleton.mpr (framed_unbroken (by decide) (howner param List.mem_cons_self) (by decide))
  | _ => trivial

end Tokens

/-! ### Sources -/

open BraceLexer in
/-- Only newlines and strings are spelled with newlines. -/
theorem newline_notMem_spelled {kind : Token.Kind} {cs : List Char} (h : Spelled kind cs) (hnewline : kind ≠ .newline)
    (hstring : kind ≠ .string) : '\n' ∉ cs := by
  cases h with
  | newline => exact absurd rfl hnewline
  | string => exact absurd rfl hstring
  | number first rest =>
    rw [List.mem_cons, not_or]
    exact ⟨(ne_of_class first (by decide)).symm, fun hc => absurd (rest _ hc) (by decide)⟩
  | word first rest =>
    rw [List.mem_cons, not_or]
    exact ⟨(ne_of_class first (by decide)).symm, fun hc => absurd (rest _ hc) (by decide)⟩
  | punctuation h =>
    have hnone : '\n' ∉ punctuation := by decide
    exact fun hc => hnone (List.mem_singleton.mp hc ▸ h)
  | longOperator h =>
    have hnone : ∀ op ∈ longOperators, '\n' ∉ op := by decide
    exact hnone _ h
  | shortOperator h =>
    have hnone : '\n' ∉ shortOperators := by decide
    exact fun hc => hnone (List.mem_singleton.mp hc ▸ h)

theorem token_onLine {t : Token} (h : BraceLexer.Spelled t.kind t.value.toList)
    (hstring : t.kind = .string → Unbroken t.value) : t.OnLine := by
  intro hnewline
  rw [Token.text]
  split
  · next hkind => exact framed_unbroken (by decide) (hstring hkind) (by decide)
  · next hkind => exact newline_notMem_spelled h (by simpa [Token.isNewline] using hnewline) hkind

variable {code : String} (h : ∀ t ∈ BraceLexer.tokens code, t.kind = .string → Unbroken t.value)
include h

theorem ofSource_onLine : Every Node.OnLine (ofSource code) := by
  have htokens : ∀ t ∈ BraceLexer.tokens code, t.OnLine := fun t ht =>
    token_onLine (BraceLexer.tokensFrom_spelled 1 code.toList t ht) (h t ht)
  have hkept {us : List Token} (hus : us.Sublist (BraceLexer.tokens code)) : ∀ t ∈ us, t.OnLine :=
    fun t ht => htokens t (hus.mem ht)
  refine every_ofSource (fun tried handler cleanup => ?_) (fun before ts hbefore hts => ?_) fun us hus => ?_
  · exact List.forall_mem_singleton.mpr (by decide)
  · exact gives_onLine (hkept hts) (Owner.classify_onLine (hkept hbefore))
  · exact step_onLine (hkept hus)

theorem written_unbroken : ∀ text ∈ Summary.written (ofSource code), Unbroken text := by
  have hnodes := ofSource_onLine h
  refine List.forall_mem_append.mpr ⟨List.forall_mem_flatMap.mpr hnodes, List.forall_mem_singleton.mpr ?_⟩
  refine unbroken_append.mpr ⟨by decide, unbroken_intercalate (by decide) (List.forall_mem_map.mpr fun e he => ?_)⟩
  -- what the hint says of an event is said of its node too
  obtain ⟨n, hn, hevent⟩ := List.mem_filterMap.mp he
  have htexts := hnodes n hn
  cases n with
  | event s n l body =>
    cases hevent
    have hnote : Unbroken ("!! ASYNC BRANCH - separate path. ID: " ++ s ++ "_" ++ n) := htexts _ (by simp [Summary.textsOf])
    simp only [unbroken_append] at hnote
    simp only [Summary.subscription, unbroken_append]
    exact ⟨⟨⟨hnote.1.1.2, by decide⟩, hnote.2⟩, by decide⟩
  | _ => cases hevent

end BraceFlow
end FlowSketch
