import FlowSketch.Proofs.ChartGrowth

/-!
# The scope of a drawing

Every node of a drawing is drawn once and before the edges that touch it, no edge is drawn twice, and all
texts stay on one line. A part in between keeps the exits that are open apart from the edges drawn so far.
-/
namespace FlowSketch.ChartDrawing
open TextBlank ChartLabel

/-- Items that define their nodes once and before use, after nodes that are there already. -/
def Scoped (there : List Id) : List Item → Prop
  | [] => True
  | .node id _ _ :: items => id ∉ there ∧ Scoped (there ++ [id]) items
  | .edge a b _ :: items => (a ∈ there ∧ b ∈ there) ∧ Scoped there items

theorem scoped_append {there : List Id} {a b : List Item} :
    Scoped there (a ++ b) ↔ Scoped there a ∧ Scoped (there ++ nodeIds a) b := by
  induction a generalizing there with
  | nil => simp [Scoped]
  | cons i a ih => cases i <;> simp [Scoped, ih, and_assoc]

theorem scoped_wire {there : List Id} {exits : List Exit} {target : Id} (h : ∀ e ∈ exits, e.source ∈ there)
    (ht : target ∈ there) : Scoped there (wire exits target) := by
  induction exits with
  | nil => trivial
  | cons e exits ih => exact ⟨⟨h e (by simp), ht⟩, ih fun f hf => h f (by simp [hf])⟩

/-- The ends of the edges are nodes that are there. -/
theorem Scoped.ends {there : List Id} {items : List Item} (h : Scoped there items) {a b : Id} {l : String}
    (he : .edge a b l ∈ items) : a ∈ there ++ nodeIds items ∧ b ∈ there ++ nodeIds items := by
  induction items generalizing there with
  | nil => simp at he
  | cons i items ih =>
    cases i with
    | node id s l' =>
      have := ih h.2 (by simpa using he)
      simpa [or_assoc] using this
    | edge a' b' l' =>
      rcases List.mem_cons.mp he with he | he
      · obtain ⟨rfl, rfl, rfl⟩ := Item.edge.inj he
        exact ⟨List.mem_append_left _ h.1.1, List.mem_append_left _ h.1.2⟩
      · exact ih h.2 he

/-- All texts of an item are on one line. -/
def Item.Plain : Item → Prop
  | node _ _ label => OneLine label.toList
  | edge _ _ label => OneLine label.toList

/-- What holds of a part of a chart that begins with its start and its end. -/
structure Part.Sound (p : Part) : Prop where
  inScope : Scoped [] p.items
  distinct : p.items.Nodup
  numbered : ∀ id ∈ nodeIds p.items, id = .stop ∨ id.Upto p.count
  stopped : .stop ∈ nodeIds p.items
  open_distinct : p.exits.Nodup
  open_drawn : ∀ e ∈ p.exits, e.source ∈ nodeIds p.items
  open_bounded : p.Bounded
  /-- No edge uses an exit that is still open. -/
  pending : ∀ e ∈ p.exits, ∀ target, .edge e.source target e.label ∉ p.items
  plain : ∀ i ∈ p.items, i.Plain
  open_plain : ∀ e ∈ p.exits, e.Plain

theorem wire_nodup {exits : List Exit} (h : exits.Nodup) (target : Id) : (wire exits target).Nodup := by
  refine h.map fun e f he => ?_
  obtain ⟨hs, -, hl⟩ := Item.edge.inj he
  obtain ⟨s, l⟩ := e
  obtain ⟨s', l'⟩ := f
  simp only at hs hl
  rw [hs, hl]

theorem wire_plain {exits : List Exit} (h : ∀ e ∈ exits, e.Plain) (target : Id) :
    ∀ i ∈ wire exits target, i.Plain := by
  intro i hi
  obtain ⟨e, he, rfl⟩ := List.mem_map.mp hi
  exact h e he

namespace Part.Sound
variable {p : Part}

theorem new_notMem (h : p.Sound) (mark : Mark) : .drawn mark (p.count + 1) ∉ nodeIds p.items := by
  intro hm
  rcases h.numbered _ hm with hn | hn
  · cases hn
  · exact Nat.not_succ_le_self _ hn

/-- No edge touches a node that is not drawn yet. -/
theorem new_untouched (h : p.Sound) (mark : Mark) {a b : Id} {l : String} (he : .edge a b l ∈ p.items) :
    a ≠ .drawn mark (p.count + 1) ∧ b ≠ .drawn mark (p.count + 1) := by
  obtain ⟨ha, hb⟩ := h.inScope.ends he
  exact ⟨ne_of_mem_of_not_mem ha (h.new_notMem mark), ne_of_mem_of_not_mem hb (h.new_notMem mark)⟩

/-- A new node with edges from exits whose sources are drawn. -/
theorem enter_items (h : p.Sound) (taken : List Exit) (mark : Mark) (shape : Shape) {label : String}
    (plain : OneLine label.toList) (drawn : ∀ e ∈ taken, e.source ∈ nodeIds p.items) (nodup : taken.Nodup)
    (takenPlain : ∀ e ∈ taken, e.Plain) :
    let items := p.items ++ entered taken (.drawn mark (p.count + 1)) shape label
    Scoped [] items ∧ items.Nodup ∧ (∀ id ∈ nodeIds items, id = .stop ∨ id.Upto (p.count + 1)) ∧
      .stop ∈ nodeIds items ∧ ∀ i ∈ items, i.Plain := by
  have hnew := h.new_notMem mark
  refine ⟨?_, ?_, ?_, ?_, ?_⟩
  · refine scoped_append.2 ⟨h.inScope, by simpa using hnew, scoped_wire (fun e he => ?_) (by simp)⟩
    simp [drawn e he]
  · refine h.distinct.append (List.nodup_cons.mpr ⟨by simp [wire], wire_nodup nodup _⟩) ?_
    intro i hi hi'
    rcases List.mem_cons.mp hi' with rfl | hi'
    · exact hnew (mem_nodeIds.2 ⟨_, _, hi⟩)
    · obtain ⟨e, -, rfl⟩ := List.mem_map.mp hi'
      exact (h.new_untouched mark hi).2 rfl
  · intro id hid
    rcases List.mem_append.mp (nodeIds_append _ _ ▸ hid) with hid | hid
    · exact (h.numbered id hid).imp_right fun hn => hn.mono (Nat.le_succ _)
    · obtain rfl : id = .drawn mark (p.count + 1) := by simpa using hid
      exact .inr (Id.upto_drawn mark _)
  · simp [h.stopped]
  · intro i hi
    rcases List.mem_append.mp hi with hi | hi
    · exact h.plain i hi
    · rcases List.mem_cons.mp hi with rfl | hi
      · exact plain
      · exact wire_plain takenPlain _ i hi

theorem enter (h : p.Sound) {taken kept fresh : List Exit} (mark : Mark) (shape : Shape) {label : String}
    (plain : OneLine label.toList) (split : p.exits.Perm (taken ++ kept)) (nodup : fresh.Nodup)
    (own : ∀ e ∈ fresh, e.source = .drawn mark (p.count + 1) ∧ e.Plain) :
    Part.Sound ⟨p.items ++ entered taken (.drawn mark (p.count + 1)) shape label, fresh ++ kept, p.count + 1⟩ := by
  have htaken : ∀ e ∈ taken, e ∈ p.exits := fun e he => split.mem_iff.mpr (List.mem_append_left _ he)
  have hkept : ∀ e ∈ kept, e ∈ p.exits := fun e he => split.mem_iff.mpr (List.mem_append_right _ he)
  obtain ⟨hfst, hsnd, hdisj⟩ := List.nodup_append'.mp (split.nodup_iff.mp h.open_distinct)
  obtain ⟨inScope, distinct, numbered, stopped, allPlain⟩ := h.enter_items taken mark shape plain
    (fun e he => h.open_drawn e (htaken e he)) hfst (fun e he => h.open_plain e (htaken e he))
  have old : ∀ e ∈ kept, e.source ≠ .drawn mark (p.count + 1) := fun e he =>
    ne_of_mem_of_not_mem (h.open_drawn e (hkept e he)) (h.new_notMem mark)
  refine ⟨inScope, distinct, numbered, stopped, ?_, ?_, ?_, ?_, allPlain, ?_⟩
  · exact nodup.append hsnd fun e he he' => old e he' (own e he).1
  · intro e he
    rcases List.mem_append.mp he with he | he
    · simp [(own e he).1]
    · simp [h.open_drawn e (hkept e he)]
  · exact (Adds.enter mark shape plain split nodup own).bounded h.open_bounded
  · intro e he target hedge
    rcases List.mem_append.mp he with he | he
    · rw [(own e he).1] at hedge
      rcases List.mem_append.mp hedge with hedge | hedge
      · exact (h.new_untouched mark hedge).1 rfl
      · have hsource := (mem_entered.1 hedge).1
        exact ne_of_mem_of_not_mem (h.open_drawn _ (htaken _ hsource)) (h.new_notMem mark) rfl
    · rcases List.mem_append.mp hedge with hedge | hedge
      · exact h.pending e (hkept e he) target hedge
      · exact hdisj (mem_entered.1 hedge).1 he
  · intro e he
    rcases List.mem_append.mp he with he | he
    · exact (own e he).2
    · exact h.open_plain e (hkept e he)

theorem branch (h : p.Sound) {fresh : List Exit} (source : Exit) (mark : Mark) (shape : Shape) {label : String}
    (plain : OneLine label.toList) (drawn : source.source ∈ nodeIds p.items)
    (free : ∀ e ∈ p.exits, e.source ≠ source.source) (sourcePlain : source.Plain) (nodup : fresh.Nodup)
    (own : ∀ e ∈ fresh, e.source = .drawn mark (p.count + 1) ∧ e.Plain) :
    Part.Sound ⟨p.items ++ entered [source] (.drawn mark (p.count + 1)) shape label, fresh ++ p.exits, p.count + 1⟩ := by
  obtain ⟨inScope, distinct, numbered, stopped, allPlain⟩ := h.enter_items [source] mark shape plain
    (by simpa using drawn) (by simp) (by simpa using sourcePlain)
  refine ⟨inScope, distinct, numbered, stopped, ?_, ?_, ?_, ?_, allPlain, ?_⟩
  · refine nodup.append h.open_distinct fun e he he' => ?_
    exact ne_of_mem_of_not_mem (h.open_drawn e he') (h.new_notMem mark) (own e he).1
  · intro e he
    rcases List.mem_append.mp he with he | he
    · simp [(own e he).1]
    · simp [h.open_drawn e he]
  · exact (Adds.branch source mark shape plain drawn free sourcePlain nodup own).bounded
      h.open_bounded
  · intro e he target hedge
    rcases List.mem_append.mp he with he | he
    · rw [(own e he).1] at hedge
      rcases List.mem_append.mp hedge with hedge | hedge
      · exact (h.new_untouched mark hedge).1 rfl
      · obtain ⟨hsource, -⟩ : Exit.mk _ _ = source ∧ _ := by simpa using mem_entered.1 hedge
        exact ne_of_mem_of_not_mem drawn (h.new_notMem mark) (by rw [← hsource])
    · rcases List.mem_append.mp hedge with hedge | hedge
      · exact h.pending e he target hedge
      · obtain ⟨hsource, -⟩ : Exit.mk _ _ = source ∧ _ := by simpa using mem_entered.1 hedge
        exact free e he (by rw [← hsource])
  · intro e he
    rcases List.mem_append.mp he with he | he
    · exact (own e he).2
    · exact h.open_plain e he

theorem wire (h : p.Sound) {taken kept : List Exit} (target : Id) (there : target = .stop ∨ target ∈ nodeIds p.items)
    (split : p.exits.Perm (taken ++ kept)) : Part.Sound ⟨p.items ++ wire taken target, kept, p.count⟩ := by
  have htaken : ∀ e ∈ taken, e ∈ p.exits := fun e he => split.mem_iff.mpr (List.mem_append_left _ he)
  have hkept : ∀ e ∈ kept, e ∈ p.exits := fun e he => split.mem_iff.mpr (List.mem_append_right _ he)
  obtain ⟨hfst, hsnd, hdisj⟩ := List.nodup_append'.mp (split.nodup_iff.mp h.open_distinct)
  have there : target ∈ nodeIds p.items := there.elim (fun h' => h' ▸ h.stopped) id
  refine ⟨?_, ?_, ?_, ?_, hsnd, ?_, fun e he => h.open_bounded e (hkept e he), ?_, ?_,
    fun e he => h.open_plain e (hkept e he)⟩
  · exact scoped_append.2 ⟨h.inScope, scoped_wire (fun e he => h.open_drawn e (htaken e he)) there⟩
  · refine h.distinct.append (wire_nodup hfst target) fun i hi hi' => ?_
    obtain ⟨e, he, rfl⟩ := List.mem_map.mp hi'
    exact h.pending e (htaken e he) target hi
  · simpa using h.numbered
  · simpa using h.stopped
  · intro e he
    simpa using h.open_drawn e (hkept e he)
  · intro e he target' hedge
    rcases List.mem_append.mp hedge with hedge | hedge
    · exact h.pending e (hkept e he) target' hedge
    · exact hdisj (mem_wire.1 hedge).1 he
  · intro i hi
    rcases List.mem_append.mp hi with hi | hi
    · exact h.plain i hi
    · exact wire_plain (fun e he => h.open_plain e (htaken e he)) target i hi

end Part.Sound

theorem Adds.sound {p q : Part} (h : Adds p q) (hp : p.Sound) : q.Sound := by
  cases h with
  | enter mark shape plain split nodup own => exact hp.enter mark shape plain split nodup own
  | branch source mark shape plain drawn free sourcePlain nodup own =>
    exact hp.branch source mark shape plain drawn free sourcePlain nodup own
  | wire target there split => exact hp.wire target there split
  | reorder same =>
    exact { hp with
      open_distinct := same.nodup_iff.mp hp.open_distinct
      open_drawn := fun e he => hp.open_drawn e (same.mem_iff.mpr he)
      open_bounded := fun e he => hp.open_bounded e (same.mem_iff.mpr he)
      pending := fun e he => hp.pending e (same.mem_iff.mpr he)
      open_plain := fun e he => hp.open_plain e (same.mem_iff.mpr he) }

theorem Grows.sound {p q : Part} (h : Grows p q) (hp : p.Sound) : q.Sound := by
  induction h with
  | refl => exact hp
  | tail _ last ih => exact last.sound ih

/-! ### Whole charts -/

/-- The part that every chart begins with. -/
def opened : Part := ⟨[.node .start .terminator (safe "Start"), .node .stop .terminator (safe "End")],
  [⟨.start, ""⟩], 0⟩

theorem opened_sound : opened.Sound where
  inScope := by simp [opened, Scoped]
  distinct := by simp [opened]
  numbered := by simp [opened, Id.Upto]
  stopped := by simp [opened]
  open_distinct := by simp [opened]
  open_drawn := by simp [opened]
  open_bounded := by simp [opened, Part.Bounded, Id.Upto]
  pending := by simp [opened]
  plain := by simp [opened, Item.Plain, safe_oneLine]
  open_plain := by simpa [opened, Exit.Plain] using empty_oneLine

theorem body_sound (nodes : List Node) : (opened.followed (body nodes) []).Sound :=
  (drawNodes_grows nodes (.of_eq (List.append_nil _).symm) rfl opened_sound.open_bounded).sound opened_sound

/-- The exits that are left open go to the end, none is held back. -/
theorem items_eq (nodes : List Node) :
    items nodes = (opened.items ++ (body nodes).items) ++ wire (body nodes).exits .stop := by
  have none_stops : (body nodes).exits.filter (fun e => e.source ≠ .stop) = (body nodes).exits := by
    refine List.filter_eq_self.mpr fun e he => ?_
    have hbound := (body_sound nodes).open_bounded e (List.mem_append_left _ he)
    have : e.source ≠ .stop := by
      intro hs
      rw [hs] at hbound
      exact hbound
    simpa using this
  rw [items, none_stops, opened]

theorem items_sound (nodes : List Node) : Part.Sound ⟨items nodes, [], (body nodes).count⟩ := by
  rw [items_eq]
  exact (body_sound nodes).wire .stop (.inl rfl) (.refl ((body nodes).exits ++ []))

end FlowSketch.ChartDrawing
