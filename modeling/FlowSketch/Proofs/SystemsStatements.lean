import FlowSketch.Proofs.SystemsRecovery

/-!
# Statements as bodies

The body of a construct is one statement, bare or in braces. In braces it is read whole. Of a bare body only the first
line is read in the construct, and the lines after it are read behind the construct.
-/
namespace FlowSketch.SystemsStatement
open TextBlank SystemsRegion SystemsHeader SystemsFlow
open SystemsProgram (calling callWords Shows shows_nil shows_cons shows_append shows_singleton noElse_nil noElse_cons
  noFiller_calling)

/-! ### Statements -/

/-- The braces of a line that it opens are closed on it, and no others. -/
def Paired (cs : Line) : Prop :=
  (∀ p, p <+: cs → p.count '}' ≤ p.count '{') ∧ cs.count '}' = cs.count '{'

instance : DecidablePred Paired := fun cs =>
  decidable_of_iff ((∀ p ∈ cs.inits, p.count '}' ≤ p.count '{') ∧ cs.count '}' = cs.count '{')
    (by simp only [Paired, List.mem_inits])

example : Paired "int a[] = \x7b1, 2\x7d;".toList := by decide

/-- A line of statements that begins no construct. -/
structure Step where
  chars : Line
  starts : ∀ c ∈ chars.head?, isBlank c = false ∧ c ≠ '{'
  ends : chars.getLast? = some ';'
  paired : Paired chars
  noHeader : header? chars = none
  noElse : afterWord? "else" chars = none

inductive Word where
  | branch
  | forLoop
  | whileLoop
  deriving DecidableEq, Repr

def Word.text : Word → String
  | branch => "if"
  | forLoop => "for"
  | whileLoop => "while"

/-- A word with its condition. -/
structure Heading where
  word : Word
  condition : Line
  noBraces : NoBraces condition
  balanced : Balanced condition

def Heading.chars (h : Heading) : Line := calling h.word.text h.condition

/-- A heading with the brace that opens its body. -/
def Heading.opening (h : Heading) : Line := h.chars ++ " \x7b".toList

/-- The construct of a heading. -/
def Heading.node (h : Heading) (body : List Node) : Node :=
  match h.word with
  | .branch => .decision (clipped 60 h.condition) body []
  | .forLoop => .loop (forLabel h.condition) "for" body
  | .whileLoop => .loop ("While: " ++ clipped 40 h.condition) "while" body

inductive Statement where
  | line (s : Step)
  | bare (h : Heading) (body : Statement)
  | braced (h : Heading) (body : List Statement)

mutual

def Statement.lines : Statement → List Line
  | .line s => [s.chars]
  | .bare h body => h.chars :: body.lines
  | .braced h body => h.opening :: (blockLines body ++ [['}']])

/-- The lines of statements one after the other. -/
def blockLines : List Statement → List Line
  | [] => []
  | s :: ss => s.lines ++ blockLines ss

end

theorem shows_braced {h : Heading} {body : List Statement} {ls : List Line}
    (hs : Shows ls (Statement.braced h body).lines) :
    ∃ b bs k, Blank b ∧ Blank k ∧ Shows bs (blockLines body) ∧ ls = (b ++ h.opening) :: (bs ++ [k ++ ['}']]) := by
  obtain ⟨b, ts, hb, rfl, hts⟩ := shows_cons.1 hs
  obtain ⟨bs, ks, rfl, hbs, hks⟩ := shows_append hts
  obtain ⟨k, hk, rfl⟩ := shows_singleton.1 hks
  exact ⟨b, bs, k, hb, hk, hbs, rfl⟩

/-! ### Lines that pair their braces -/

/-- Behind `d + 1` open braces, a text that closes no more than `d` of them does not end the region. -/
theorem scan_run {cs : Line} {d : ℕ} (h : ∀ p, p <+: cs → p.count '}' ≤ p.count '{' + d) (rest : Line) :
    scan (d + 1) true (cs ++ rest) = (scan (d + 1 + cs.count '{' - cs.count '}') true rest).prepend cs := by
  induction cs generalizing d with
  | nil => cases hs : scan (d + 1) true rest <;> simp [Scan.prepend, hs]
  | cons c cs ih =>
    have hrest (p : Line) (hp : p <+: cs) : (c :: p).count '}' ≤ (c :: p).count '{' + d :=
      h _ (List.cons_prefix_cons.mpr ⟨rfl, hp⟩)
    have hpush (s : Scan) : (s.prepend cs).push c = s.prepend (c :: cs) := by cases s <;> rfl
    by_cases hopen : c = '{'
    · subst hopen
      simp at hrest
      have hinner := ih (d := d + 1) fun p hp => (hrest p hp).trans (by omega)
      have hdepth : ((d + 1 : ℕ) + 1 + cs.count '{' - cs.count '}' : ℤ) =
          d + 1 + ('{' :: cs).count '{' - ('{' :: cs).count '}' := by simp; ring
      rw [hdepth] at hinner
      rw [List.cons_append, scan, if_pos rfl, if_pos rfl, ← hpush, ← hinner]
      push_cast
      rfl
    by_cases hclose : c = '}'
    · subst hclose
      simp at hrest
      obtain ⟨e, rfl⟩ : ∃ e, d = e + 1 := ⟨d - 1, by have := hrest [] List.nil_prefix; simp at this; omega⟩
      have hinner := ih (d := e) fun p hp => by have := hrest p hp; omega
      have hdepth : (e + 1 + cs.count '{' - cs.count '}' : ℤ) =
          (e + 1 : ℕ) + 1 + ('}' :: cs).count '{' - ('}' :: cs).count '}' := by simp; ring
      have hdeep : ¬ ((e + 1 : ℕ) + 1 : ℤ) = 1 := by omega
      have hback : ((e + 1 : ℕ) + 1 : ℤ) - 1 = e + 1 := by push_cast; ring
      rw [hdepth] at hinner
      rw [List.cons_append, scan, if_neg (by decide), if_pos rfl, if_pos rfl, if_neg hdeep, hback, ← hpush, ← hinner]
    · simp only [hopen, hclose, List.count_cons, beq_iff_eq, if_false, Nat.add_zero] at hrest ⊢
      rw [List.cons_append, scan, if_neg hopen, if_neg hclose, if_pos rfl, ih hrest, hpush]

theorem scan_count {cs : Line} {d : ℕ} (h : ∀ p, p <+: cs → p.count '}' ≤ p.count '{' + d) :
    scan (d + 1) true cs = .inside cs (d + 1 + cs.count '{' - cs.count '}') true := by
  simpa [scan, Scan.prepend] using scan_run h []

theorem Paired.scan {cs : Line} (h : Paired cs) (d : ℕ) :
    SystemsRegion.scan (d + 1) true cs = .inside cs (d + 1) true := by
  rw [scan_count fun p hp => (h.1 p hp).trans (by omega), h.2]
  simp

theorem Paired.indent {cs b : Line} (h : Paired cs) (hb : Blank b) (d : ℕ) :
    SystemsRegion.scan (d + 1) true (b ++ cs) = .inside (b ++ cs) (d + 1) true := by
  rw [scan_append (noBraces_of_blank hb), h.scan]
  rfl

/-! ### Headings -/

theorem Heading.solid (h : Heading) (mid : Line) {c : Char} (hc : isBlank c = false) :
    Solid (h.word.text.toList ++ mid ++ [c]) := by
  refine ⟨?_, ?_⟩
  · intro d hd
    cases hw : h.word <;> rw [hw] at hd <;> obtain rfl := Option.some.inj hd <;> rfl
  · intro d hd
    rw [List.getLast?_concat] at hd
    obtain rfl := Option.some.inj hd
    exact hc

theorem Heading.trim_bare (h : Heading) {b : Line} (hb : Blank b) : trim (b ++ h.chars) = h.chars ++ [] := by
  have hsolid := h.solid (" (".toList ++ h.condition) (c := ')') rfl
  rw [trim_append hb, List.append_nil]
  exact trim_solid (by simpa [Heading.chars, calling] using hsolid)

theorem Heading.trim_opening (h : Heading) {b : Line} (hb : Blank b) : trim (b ++ h.opening) = h.opening := by
  have hsolid := h.solid (" (".toList ++ (h.condition ++ ") ".toList)) (c := '{') rfl
  rw [trim_append hb]
  exact trim_solid (by simpa [Heading.opening, Heading.chars, calling] using hsolid)

theorem Heading.noBraces_chars (h : Heading) : NoBraces h.chars := by
  have hword : NoBraces h.word.text.toList := by cases h.word <;> decide
  exact hword.append (NoBraces.append (by decide) (h.noBraces.append (by decide)))

theorem Heading.noElse (h : Heading) (after : Line) : afterWord? "else" (h.chars ++ after) = none := by
  rw [Heading.chars]
  cases h.word <;> rfl

theorem Heading.filler (h : Heading) (after : Line) : isFiller (h.chars ++ after) = false := by
  rw [Heading.chars]
  cases h.word <;> exact noFiller_calling (by simp [Word.text, callWords]) _ _

/-- A heading is read as its construct, over whatever its body is cut to. -/
theorem Heading.reads (h : Heading) {raw after : Line} {following : List Line} (htrim : trim raw = h.chars ++ after)
    (hrest : NoElse (bodyAfter raw after following).rest) :
    nodesOf (raw :: following) =
      h.node (nodesOf (bodyAfter raw after following).body) :: nodesOf (bodyAfter raw after following).rest := by
  have hfiller : isFiller (trim raw) = false := by rw [htrim, h.filler]
  have hcond : SystemsHeader.condition (trim raw) = (h.condition, after) := by
    rw [htrim, Heading.chars]
    cases h.word <;> exact condition_calling (by decide) h.balanced after
  rw [Heading.chars] at htrim
  rw [Heading.node]
  cases hw : h.word with
  | branch =>
    obtain ⟨hbranches, hotherwise, hend⟩ := chain_end hcond rfl rfl hrest
    rw [nodesOf_branch hfiller (by rw [htrim, hw]; rfl), hbranches, hotherwise, hend, decisions_cons, decisions_nil,
      nodesOf_nil, List.singleton_append]
  | forLoop => rw [nodesOf_forLoop hfiller (by rw [htrim, hw]; rfl) hcond]
  | whileLoop => rw [nodesOf_whileLoop hfiller (by rw [htrim, hw]; rfl) hcond]

/-! ### Steps -/

theorem Step.ne_nil (s : Step) : s.chars ≠ [] := by
  intro h
  have := s.ends
  simp [h] at this

theorem Step.solid (s : Step) : Solid s.chars := by
  refine ⟨fun c hc => (s.starts c hc).1, fun c hc => ?_⟩
  rw [s.ends] at hc
  obtain rfl := Option.some.inj hc
  rfl

theorem Step.filler (s : Step) : isFiller s.chars = false := by
  have hopen : s.chars ≠ ['{'] := fun h => by simpa [h] using s.ends
  have hclose : s.chars ≠ ['}'] := fun h => by simpa [h] using s.ends
  have hend : s.chars ≠ ['}', ';'] := fun h => by simpa [h] using s.paired.2
  simp [isFiller, s.ne_nil, hopen, hclose, hend]

/-! ### Cuts -/

/-- Lines that stay in the body of every region around them. -/
def Stays (ls : List Line) : Prop :=
  ∀ (d : ℕ) (rest : List Line), region (d + 1) true (ls ++ rest) = takes ls (region (d + 1) true rest)

theorem stays_nil : Stays [] := fun _ _ => rfl

theorem Stays.append {as bs : List Line} (ha : Stays as) (hb : Stays bs) : Stays (as ++ bs) := by
  intro d rest
  rw [List.append_assoc, ha, hb, takes_takes]

theorem stays_line {l : Line} (h : ∀ d : ℕ, scan (d + 1) true l = .inside l (d + 1) true) (ht : allBlank l = false) :
    Stays [l] := fun d _ => region_inside (h d) ht

/-- Lines in braces of their own stay with the braces. -/
theorem Stays.braced {ls : List Line} (hs : Stays ls) (h : Heading) {b k : Line} (hb : Blank b) (hk : Blank k) :
    Stays ((b ++ h.opening) :: (ls ++ [k ++ ['}']])) := by
  intro d rest
  have hhead : NoBraces (b ++ (h.chars ++ [' '])) :=
    (noBraces_of_blank hb).append (h.noBraces_chars.append (by decide))
  have hopen : scan (d + 1) true (b ++ h.opening) = .inside (b ++ h.opening) (d + 1 + 1) true := by
    have := scan_open hhead (b := []) (by decide) (d + 1)
    simpa [Heading.opening] using this
  have hclose : scan (d + 1 + 1) true (k ++ ['}']) = .inside (k ++ ['}']) (d + 1) true := by
    have := scan_close (noBraces_of_blank hk) (b := []) (by decide) (d := d + 1 + 1) (by omega)
    simpa using this
  have hinner := hs (d + 1) ((k ++ ['}']) :: rest)
  push_cast at hinner
  rw [List.cons_append, List.append_assoc, List.singleton_append,
    region_inside hopen (not_allBlank (c := '{') (by simp [Heading.opening]) rfl), hinner,
    region_inside hclose (not_allBlank (c := '}') (by simp) rfl), takes_takes, takes_takes]
  simp

mutual

theorem Statement.stays : ∀ (s : Statement) {ls : List Line}, Shows ls s.lines → Stays ls
  | .line s, ls, hs => by
    obtain ⟨b, hb, rfl⟩ := shows_singleton.1 hs
    refine stays_line (s.paired.indent hb) (not_allBlank (c := ';') ?_ rfl)
    exact List.mem_append_right b (List.mem_of_getLast? s.ends)
  | .bare h body, ls, hs => by
    obtain ⟨b, ts, hb, rfl, hts⟩ := shows_cons.1 hs
    have hline : NoBraces (b ++ h.chars) := (noBraces_of_blank hb).append h.noBraces_chars
    have hhead : Stays [b ++ h.chars] :=
      stays_line (fun d => scan_noBraces hline _) (not_allBlank (c := ')') (by simp [Heading.chars, calling]) rfl)
    exact hhead.append (body.stays hts)
  | .braced h body, ls, hs => by
    obtain ⟨b, bs, k, hb, hk, hbs, rfl⟩ := shows_braced hs
    exact (block_stays body hbs).braced h hb hk

theorem block_stays : ∀ (ss : List Statement) {ls : List Line}, Shows ls (blockLines ss) → Stays ls
  | [], ls, hs => by
    obtain rfl := shows_nil.1 hs
    exact stays_nil
  | s :: ss, ls, hs => by
    obtain ⟨as, bs, rfl, has, hbs⟩ := shows_append hs
    exact (s.stays has).append (block_stays ss hbs)

end

/-! ### Beginnings -/

/-- The first line of a statement is neither blank nor a brace nor an else. -/
structure Begins (first : Line) : Prop where
  text : allBlank first = false
  noBrace : (trim first).head? ≠ some '{'
  noElse : elseAfter? first = none

theorem Step.begins (s : Step) {b : Line} (hb : Blank b) : Begins (b ++ s.chars) where
  text := not_allBlank (c := ';') (List.mem_append_right b (List.mem_of_getLast? s.ends)) rfl
  noBrace := by
    rw [trim_append hb, trim_solid s.solid]
    exact fun h => (s.starts _ h).2 rfl
  noElse := by rw [elseAfter?, trim_append hb, trim_solid s.solid, s.noElse]

theorem Heading.begins (h : Heading) {raw after : Line} (htrim : trim raw = h.chars ++ after) : Begins raw where
  text := by
    rw [← Bool.not_eq_true, ← trim_eq_nil, htrim]
    simp [Heading.chars, calling]
  noBrace := by
    rw [htrim, Heading.chars]
    cases h.word <;> exact fun h => absurd (Option.some.inj h) (by decide)
  noElse := by rw [elseAfter?, htrim, h.noElse]

theorem Heading.begins_bare (h : Heading) {b : Line} (hb : Blank b) : Begins (b ++ h.chars) := h.begins (h.trim_bare hb)

theorem Heading.begins_opening (h : Heading) {b : Line} (hb : Blank b) : Begins (b ++ h.opening) :=
  h.begins (h.trim_opening hb)

theorem Statement.begins (s : Statement) {ls : List Line} (hs : Shows ls s.lines) :
    ∃ first more, ls = first :: more ∧ Begins first := by
  cases s with
  | line s =>
    obtain ⟨b, hb, rfl⟩ := shows_singleton.1 hs
    exact ⟨_, _, rfl, s.begins hb⟩
  | bare h body =>
    obtain ⟨b, ts, hb, rfl, -⟩ := shows_cons.1 hs
    exact ⟨_, _, rfl, h.begins_bare hb⟩
  | braced h body =>
    obtain ⟨b, bs, k, hb, -, -, rfl⟩ := shows_braced hs
    exact ⟨_, _, rfl, h.begins_opening hb⟩

/-! ### Bodies -/

/-- A body in braces is read in the construct, and what follows behind it. -/
theorem Heading.braced_reads (h : Heading) {b k : Line} (hb : Blank b) (hk : Blank k) {ls rest : List Line}
    (hs : Stays ls) (hrest : NoElse rest) :
    nodesOf ((b ++ h.opening) :: (ls ++ (k ++ ['}']) :: rest)) = h.node (nodesOf ls) :: nodesOf rest := by
  have henters : Enters " \x7b".toList (ls ++ (k ++ ['}']) :: rest) (ls ++ (k ++ ['}']) :: rest) := .inl ⟨rfl, rfl⟩
  obtain ⟨hbody, hremains⟩ := bodyAfter_enters henters (b ++ h.opening)
  have htakes := hs 0 ((k ++ ['}']) :: rest)
  rw [Nat.cast_zero, zero_add] at htakes
  obtain ⟨htaken, hleft⟩ := region_taken hk htakes
  rw [htaken] at hbody
  rw [hleft] at hremains
  have hnone : remaining [] rest = rest := rfl
  rw [h.reads (h.trim_opening hb) (by rwa [hremains]), hbody, hremains, hnone]

/-- Of a bare body the first line is read in the construct, and the lines after it behind it. -/
theorem Heading.bare_reads (h : Heading) {b : Line} (hb : Blank b) {first : Line} (hfirst : Begins first)
    {rest : List Line} (hrest : NoElse rest) :
    nodesOf ((b ++ h.chars) :: first :: rest) = h.node (nodesOf [first]) :: nodesOf rest := by
  have hnil : trim ([] : Line) = [] := rfl
  have hcut : bodyAfter (b ++ h.chars) [] (first :: rest) = ⟨[first], [b ++ h.chars, first], rest⟩ := by
    simp [bodyAfter, hnil, nextBody, hfirst.text, hfirst.noBrace, Cut.pass]
  rw [h.reads (h.trim_bare hb) (by rwa [hcut]), hcut]

/-- With no lines ahead a construct has an empty body. -/
theorem Heading.alone_reads (h : Heading) {b : Line} (hb : Blank b) :
    nodesOf [b ++ h.chars] = [h.node []] ∧ nodesOf [b ++ h.opening] = [h.node []] := by
  have hnil : trim ([] : Line) = [] := rfl
  have hcut : bodyAfter (b ++ h.chars) [] [] = ⟨[], [b ++ h.chars], []⟩ := by
    simp [bodyAfter, hnil, nextBody, Cut.pass]
  have henters : Enters " \x7b".toList [] [] := .inl ⟨rfl, rfl⟩
  obtain ⟨hbody, hremains⟩ := bodyAfter_enters henters (b ++ h.opening)
  have hempty : region 1 true [] = ⟨[], [], []⟩ := rfl
  rw [hempty] at hbody hremains
  constructor
  · rw [h.reads (h.trim_bare hb) (by rw [hcut]; exact noElse_nil), hcut, nodesOf_nil]
  · rw [h.reads (h.trim_opening hb) (by rw [hremains]; exact noElse_nil), hbody, hremains, nodesOf_nil]

/-! ### Lines on their own -/

/-- What the lines stand for does not depend on the lines that follow, as long as these begin no else. -/
def Separate (ls : List Line) : Prop :=
  ∀ rest, NoElse rest → NoElse (ls ++ rest) ∧ nodesOf (ls ++ rest) = nodesOf ls ++ nodesOf rest

theorem separate_nil : Separate [] := by
  intro rest h
  rw [nodesOf_nil]
  exact ⟨h, rfl⟩

theorem Separate.append {as bs : List Line} (ha : Separate as) (hb : Separate bs) : Separate (as ++ bs) := by
  intro rest h
  obtain ⟨hnext, hlater⟩ := hb rest h
  obtain ⟨hfirst, hall⟩ := ha (bs ++ rest) hnext
  have hbegins : NoElse bs := by
    have := (hb [] noElse_nil).1
    rwa [List.append_nil] at this
  rw [List.append_assoc, hall, hlater, (ha bs hbegins).2, List.append_assoc]
  exact ⟨hfirst, rfl⟩

/-- A closing brace on a line of its own is passed over. -/
theorem nodesOf_close {k : Line} (hk : Blank k) (rest : List Line) : nodesOf ((k ++ ['}']) :: rest) = nodesOf rest := by
  have hfiller : isFiller (trim (k ++ ['}'])) = true := by
    rw [trim_append hk]
    rfl
  rw [nodesOf, if_pos hfiller]

theorem separate_close {k : Line} (hk : Blank k) : Separate [k ++ ['}']] := by
  intro rest _
  have htrim : trim (k ++ ['}']) = ['}'] := trim_append hk _
  refine ⟨noElse_cons (by simp [htrim]) (by rw [elseAfter?, htrim]; rfl) rest, ?_⟩
  rw [List.singleton_append, nodesOf_close hk, nodesOf_close hk, nodesOf_nil, List.nil_append]

theorem Begins.noElse_cons {first : Line} (h : Begins first) (rest : List Line) : NoElse (first :: rest) :=
  SystemsProgram.noElse_cons (by rw [Ne, trim_eq_nil, h.text]; simp) h.noElse rest

/-- Lines that are read in front of any others as some nodes are separate. -/
theorem separate_of_reads {first : Line} {more : List Line} (hfirst : Begins first) (nodes : List Node)
    (h : ∀ rest, NoElse rest → nodesOf (first :: more ++ rest) = nodes ++ nodesOf rest) : Separate (first :: more) := by
  intro rest hrest
  have halone := h [] noElse_nil
  rw [List.append_nil, nodesOf_nil, List.append_nil] at halone
  rw [h rest hrest, halone]
  exact ⟨hfirst.noElse_cons _, rfl⟩

theorem Heading.bare_reads_append (h : Heading) {b : Line} (hb : Blank b) {first : Line} (hfirst : Begins first)
    {more rest : List Line} (hmore : Separate more) (hrest : NoElse rest) :
    nodesOf ((b ++ h.chars) :: (first :: more ++ rest)) =
      h.node (nodesOf [first]) :: (nodesOf more ++ nodesOf rest) := by
  obtain ⟨hnext, hlater⟩ := hmore rest hrest
  rw [← hlater]
  exact h.bare_reads hb hfirst hnext

theorem Step.reads (s : Step) {b : Line} (hb : Blank b) (rest : List Line) :
    nodesOf ((b ++ s.chars) :: rest) = stepNodes s.chars ++ nodesOf rest := by
  have htrim : trim (b ++ s.chars) = s.chars := by rw [trim_append hb, trim_solid s.solid]
  rw [nodesOf_line (by rw [htrim, s.filler]) (by rw [htrim, s.noHeader]), htrim]

mutual

/-- A statement is separate from what follows, and so are its lines after the first. -/
theorem Statement.separate : ∀ (s : Statement) {ls : List Line}, Shows ls s.lines → Separate ls ∧ Separate ls.tail
  | .line s, ls, hs => by
    obtain ⟨b, hb, rfl⟩ := shows_singleton.1 hs
    exact ⟨separate_of_reads (s.begins hb) (stepNodes s.chars) fun rest _ => s.reads hb rest, separate_nil⟩
  | .bare h body, ls, hs => by
    obtain ⟨b, ts, hb, rfl, hts⟩ := shows_cons.1 hs
    -- The first line of the body goes into the construct, so the other lines have to be separate by themselves.
    obtain ⟨hwhole, htail⟩ := body.separate hts
    obtain ⟨first, more, rfl, hfirst⟩ := body.begins hts
    have hreads (rest : List Line) (hrest : NoElse rest) := h.bare_reads_append hb hfirst htail hrest
    exact ⟨separate_of_reads (h.begins_bare hb) (h.node (nodesOf [first]) :: nodesOf more) hreads, hwhole⟩
  | .braced h body, ls, hs => by
    obtain ⟨b, bs, k, hb, hk, hbs, rfl⟩ := shows_braced hs
    refine ⟨separate_of_reads (h.begins_opening hb) [h.node (nodesOf bs)] fun rest hrest => ?_,
      (block_separate body hbs).append (separate_close hk)⟩
    have hread := h.braced_reads hb hk (block_stays body hbs) hrest
    simpa using hread

theorem block_separate : ∀ (ss : List Statement) {ls : List Line}, Shows ls (blockLines ss) → Separate ls
  | [], ls, hs => by
    obtain rfl := shows_nil.1 hs
    exact separate_nil
  | s :: ss, ls, hs => by
    obtain ⟨as, bs, rfl, has, hbs⟩ := shows_append hs
    exact (s.separate has).1.append (block_separate ss hbs)

end

/-! ### Bare and braced bodies -/

/-- The lines of a braced statement are its construct over the lines in the braces. -/
theorem Heading.braced_alone (h : Heading) {b k : Line} (hb : Blank b) (hk : Blank k) {ls : List Line} (hs : Stays ls) :
    nodesOf ((b ++ h.opening) :: (ls ++ [k ++ ['}']])) = [h.node (nodesOf ls)] := by
  rw [h.braced_reads hb hk hs noElse_nil, nodesOf_nil]

/-- A statement that stands for nothing is a line. -/
theorem Statement.tail_eq_nil (s : Statement) {ls : List Line} (hs : Shows ls s.lines) (h : nodesOf ls = []) :
    ls.tail = [] := by
  cases s with
  | line s =>
    obtain ⟨b, -, rfl⟩ := shows_singleton.1 hs
    rfl
  | bare head body =>
    obtain ⟨b, ts, hb, rfl, hts⟩ := shows_cons.1 hs
    obtain ⟨first, more, rfl, hfirst⟩ := body.begins hts
    have hmore := ((body.separate hts).2 [] noElse_nil).1
    rw [List.tail_cons, List.append_nil] at hmore
    rw [head.bare_reads hb hfirst hmore] at h
    cases h
  | braced head body =>
    obtain ⟨b, bs, k, hb, hk, hbs, rfl⟩ := shows_braced hs
    rw [head.braced_alone hb hk (block_stays body hbs)] at h
    cases h

/-- When the lines after the first stand for nothing, the first one is read as the whole statement. -/
theorem Statement.first_reads (s : Statement) {first : Line} {more : List Line} (hs : Shows (first :: more) s.lines)
    (h : nodesOf more = []) : nodesOf [first] = nodesOf (first :: more) := by
  cases s with
  | line s =>
    obtain ⟨b, -, hline⟩ := shows_singleton.1 hs
    obtain ⟨rfl, rfl⟩ := List.cons.inj hline
    rfl
  | bare head body =>
    obtain ⟨b, ts, hb, hline, hts⟩ := shows_cons.1 hs
    obtain ⟨rfl, rfl⟩ := List.cons.inj hline
    obtain ⟨inner, rest, rfl, hinner⟩ := body.begins hts
    obtain rfl : rest = [] := body.tail_eq_nil hts h
    rw [(head.alone_reads hb).1, head.bare_reads hb hinner noElse_nil, h, nodesOf_nil]
  | braced head body =>
    obtain ⟨b, bs, k, hb, hk, hbs, hline⟩ := shows_braced hs
    obtain ⟨rfl, rfl⟩ := List.cons.inj hline
    have hbody := (block_separate body hbs [k ++ ['}']] (by simpa using (separate_close hk [] noElse_nil).1)).2
    rw [nodesOf_close hk, nodesOf_nil, List.append_nil] at hbody
    rw [(head.alone_reads hb).2, head.braced_alone hb hk (block_stays body hbs), ← hbody, h]

/-- A bare body reads as the same body in braces exactly when its lines after the first stand for nothing. -/
theorem bare_eq_braced_iff (h : Heading) (s : Statement) {b k : Line} (hb : Blank b) (hk : Blank k)
    {ls rest : List Line} (hs : Shows ls s.lines) (hrest : NoElse rest) :
    nodesOf ((b ++ h.chars) :: (ls ++ rest)) = nodesOf ((b ++ h.opening) :: (ls ++ (k ++ ['}']) :: rest)) ↔
      nodesOf ls.tail = [] := by
  obtain ⟨first, more, rfl, hfirst⟩ := s.begins hs
  have hmore : Separate more := (s.separate hs).2
  rw [h.bare_reads_append hb hfirst hmore hrest, h.braced_reads hb hk (s.stays hs) hrest, List.tail_cons]
  constructor
  · intro heq
    exact List.append_left_eq_self.mp (List.cons.inj heq).2
  · intro hnone
    rw [s.first_reads hs hnone, hnone, List.nil_append]

/-! ### A loop in a loop -/

def outer : Heading := ⟨.forLoop, "i = 0; i < n; i++".toList, by decide, by decide⟩

def inner : Heading := ⟨.forLoop, "j = 0; j < m; j++".toList, by decide, by decide⟩

def assignment : Step where
  chars := "x = 1;".toList
  starts c hc := by
    obtain rfl : 'x' = c := Option.some.inj hc
    decide
  ends := rfl
  paired := by decide
  noHeader := rfl
  noElse := rfl

/-- A body of one line is the same bare and in braces. -/
theorem inner_eq_braced :
    (Blank [] ∧ Shows [assignment.chars] (Statement.line assignment).lines ∧ NoElse []) ∧
      nodesOf [inner.chars, assignment.chars] = nodesOf [inner.opening, assignment.chars, ['}']] := by
  have hblank : Blank [] := by simp [Blank]
  have hshows : Shows [assignment.chars] (Statement.line assignment).lines := .cons ⟨[], hblank, rfl⟩ .nil
  refine ⟨⟨hblank, hshows, noElse_nil⟩, ?_⟩
  exact (bare_eq_braced_iff inner (.line assignment) hblank hblank hshows noElse_nil).2 nodesOf_nil

/-- The body of a bare loop in a bare loop is read behind both, where the braces of the outer one would keep it. -/
theorem loop_in_loop_spills :
    nodesOf (outer.chars :: (Statement.bare inner (.line assignment)).lines) ≠
      nodesOf (outer.opening :: ((Statement.bare inner (.line assignment)).lines ++ [['}']])) := by
  have hblank : Blank [] := by simp [Blank]
  have hshows : Shows [inner.chars, assignment.chars] (Statement.bare inner (.line assignment)).lines :=
    .cons ⟨[], hblank, rfl⟩ (.cons ⟨[], hblank, rfl⟩ .nil)
  have hassign : nodesOf [assignment.chars] = stepNodes assignment.chars := by
    have := assignment.reads hblank []
    rwa [nodesOf_nil, List.append_nil] at this
  have hbare : nodesOf [outer.chars, inner.chars, assignment.chars] =
      outer.node (nodesOf [inner.chars]) :: nodesOf [assignment.chars] :=
    outer.bare_reads hblank (inner.begins_bare hblank) ((assignment.begins hblank).noElse_cons [])
  have hbraced : nodesOf (outer.opening :: ([inner.chars, assignment.chars] ++ [['}']])) =
      [outer.node (nodesOf [inner.chars, assignment.chars])] :=
    outer.braced_alone hblank hblank (Statement.stays _ hshows)
  have hstep : (stepNodes assignment.chars).isEmpty = false := by decide +kernel
  intro h
  have hnone : nodesOf [assignment.chars] = [] := (List.cons.inj (hbare.symm.trans (h.trans hbraced))).2
  rw [← hassign, hnone] at hstep
  cases hstep

end FlowSketch.SystemsStatement
