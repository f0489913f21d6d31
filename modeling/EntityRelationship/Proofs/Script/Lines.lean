import EntityRelationship.Proofs.Script.Grammar
import EntityRelationship.Script.Line
import Mathlib.Data.List.TakeWhile

/-!
# The readers of lines keep to the grammar

Each reader of a part of a line succeeds exactly on the texts that begin with such a part, and gives
the part and what follows it. A reader of a run takes the longest one, so the part must end where it
stops; in a line it does, for an id is followed by a space or by the end.

A line is read by the first reader that succeeds. The line of a node cannot be taken for that of an
edge, although both begin with an id, since an arrow is neither an id nor begins with an id and a
space.
-/

namespace EntityRelationship.Script

variable {cs rest s t : List Char} {p : Char → Bool} {x : String}

/-! ## Runs of characters -/

/-- A run of characters of a class cannot go on into a text. -/
def Stops (p : Char → Bool) (cs : List Char) : Prop :=
  ∀ c ∈ cs.head?, p c = false

theorem stops_nil : Stops p [] := by
  intro c hc
  cases hc

theorem stops_cons {c : Char} (h : p c = false) : Stops p (c :: cs) := by
  intro c' hc'
  cases hc'
  exact h

theorem stops_append (hne : s ≠ []) (hs : ∀ c ∈ s, p c = false) : Stops p (s ++ t) := by
  cases s with
  | nil => exact absurd rfl hne
  | cons c s => exact stops_cons (hs c List.mem_cons_self)

theorem stops_dropWhile (p : Char → Bool) (cs : List Char) : Stops p (cs.dropWhile p) := by
  intro c hc
  have hstop := List.head?_dropWhile_not p cs
  rw [Option.mem_def.1 hc] at hstop
  exact hstop

/-- A run is taken off up to where it stops. -/
theorem dropWhile_append_of_stops (hs : ∀ c ∈ s, p c = true) (ht : Stops p t) :
    (s ++ t).dropWhile p = t := by
  rw [List.dropWhile_append_of_pos hs]
  cases t with
  | nil => rfl
  | cons c t => exact List.dropWhile_cons_of_neg (by simp [ht c rfl])

theorem takeWhile_append_of_stops (hs : ∀ c ∈ s, p c = true) (ht : Stops p t) :
    (s ++ t).takeWhile p = s := by
  rw [List.takeWhile_append_of_pos hs]
  cases t with
  | nil => simp
  | cons c t => simp [ht c rfl]

theorem run?_eq_some_iff :
    run? p cs = some (x, rest) ↔
      x ≠ "" ∧ (∀ c ∈ x.toList, p c = true) ∧ Stops p rest ∧ cs = x.toList ++ rest := by
  unfold run?
  constructor
  · intro h
    split at h
    · cases h
    · rename_i run hne
      cases h
      have hrun : (String.ofList (cs.takeWhile p)).toList = cs.takeWhile p :=
        String.toList_ofList
      refine ⟨?_, ?_, stops_dropWhile p cs, ?_⟩
      · intro hempty
        rw [hempty] at hrun
        exact hne hrun.symm
      · rw [hrun]
        exact fun c hc => List.mem_takeWhile_imp hc
      · rw [hrun, List.takeWhile_append_dropWhile]
  · rintro ⟨hne, hx, hstop, rfl⟩
    rw [takeWhile_append_of_stops hx hstop, dropWhile_append_of_stops hx hstop]
    have hchars : x.toList ≠ [] := by simpa using hne
    split
    · exact absurd ‹_› hchars
    · rw [String.ofList_toList]

/-! ## Spaces -/

theorem isSpace_iff {c : Char} : isSpace c = true ↔ c = ' ' ∨ c = '\t' := by
  simp [isSpace]

theorem spaces_iff : Spaces s ↔ ∀ c ∈ s, isSpace c = true := by
  simp only [Spaces, isSpace_iff]

theorem spaces_nil : Spaces [] :=
  fun _ hc => absurd hc List.not_mem_nil

theorem skipSpaces_eq_iff :
    skipSpaces cs = rest ↔ ∃ s, Spaces s ∧ Stops isSpace rest ∧ cs = s ++ rest := by
  constructor
  · rintro rfl
    refine ⟨cs.takeWhile isSpace, spaces_iff.2 fun c hc => List.mem_takeWhile_imp hc,
      stops_dropWhile _ _, List.takeWhile_append_dropWhile.symm⟩
  · rintro ⟨s, hs, hrest, rfl⟩
    exact dropWhile_append_of_stops (spaces_iff.1 hs) hrest

theorem spaces?_eq_some_iff :
    spaces? cs = some rest ↔ ∃ s, Gap s ∧ Stops isSpace rest ∧ cs = s ++ rest := by
  constructor
  · intro h
    cases cs with
    | nil => cases h
    | cons c cs =>
      rw [spaces?] at h
      split at h
      · rename_i hc
        obtain ⟨s, hs, hrest, rfl⟩ := skipSpaces_eq_iff.1 (Option.some.inj h)
        refine ⟨c :: s, ⟨List.cons_ne_nil c s, ?_⟩, hrest, rfl⟩
        exact spaces_iff.2 (List.forall_mem_cons.2 ⟨hc, spaces_iff.1 hs⟩)
      · cases h
  · rintro ⟨s, ⟨hne, hs⟩, hrest, rfl⟩
    cases s with
    | nil => exact absurd rfl hne
    | cons c s =>
      obtain ⟨hc, hs⟩ := List.forall_mem_cons.1 (spaces_iff.1 hs)
      rw [List.cons_append, spaces?, if_pos hc]
      exact congrArg some (dropWhile_append_of_stops hs hrest)

theorem lineEnd?_eq_some_iff {u : Unit} : lineEnd? cs = some u ↔ Spaces cs := by
  rw [lineEnd?]
  constructor
  · intro h
    split at h
    · obtain ⟨s, hs, -, hcs⟩ := skipSpaces_eq_iff.1 ‹_›
      rw [hcs, List.append_nil]
      exact hs
    · cases h
  · intro h
    rw [if_pos (skipSpaces_eq_iff.2 ⟨cs, h, stops_nil, (List.append_nil cs).symm⟩)]

/-! ## Ids and quoted texts -/

theorem isIdChar_iff {c : Char} :
    isIdChar c = true ↔ Text.isAlphanumeric c = true ∨ c = '_' ∨ c = '-' ∨ c = '.' := by
  simp [isIdChar, or_assoc]

theorem isId_iff : IsId x ↔ x ≠ "" ∧ ∀ c ∈ x.toList, isIdChar c = true := by
  simp only [IsId, isIdChar_iff]

theorem id?_eq_some_iff :
    id? cs = some (x, rest) ↔ IsId x ∧ Stops isIdChar rest ∧ cs = x.toList ++ rest := by
  rw [id?, run?_eq_some_iff, isId_iff, and_assoc]

theorem literal?_eq_some_iff :
    literal? x cs = some rest ↔ cs = x.toList ++ rest := by
  unfold literal?
  constructor
  · intro h
    split at h
    · rename_i hprefix
      obtain ⟨rest', rfl⟩ := List.isPrefixOf_iff_prefix.1 hprefix
      rw [List.drop_left] at h
      cases h
      rfl
    · cases h
  · rintro rfl
    rw [if_pos (List.isPrefixOf_iff_prefix.2 (List.prefix_append _ _)), List.drop_left]

/-- The characters of one line: none of them ends a line. -/
def OneLine (cs : List Char) : Prop :=
  ∀ c ∈ cs, c ≠ '\n' ∧ c ≠ '\r'

theorem oneLine_nil : OneLine [] :=
  fun _ hc => absurd hc List.not_mem_nil

theorem OneLine.left (h : OneLine (s ++ t)) : OneLine s :=
  fun c hc => h c (List.mem_append_left t hc)

theorem OneLine.right (h : OneLine (s ++ t)) : OneLine t :=
  fun c hc => h c (List.mem_append_right s hc)

theorem quoted?_eq_some_iff (h : OneLine cs) :
    quoted? cs = some (x, rest) ↔ IsQuotable x ∧ cs = inQuotes x ++ rest := by
  constructor
  · intro hread
    unfold quoted? at hread
    split at hread
    · rename_i body
      obtain ⟨rest', hclose, hresult⟩ := Option.bind_eq_some_iff.1 hread
      cases hresult
      rw [literal?_eq_some_iff] at hclose
      refine ⟨?_, ?_⟩
      · intro hmem
        rw [String.toList_ofList] at hmem
        exact absurd (List.mem_takeWhile_imp hmem) (by decide)
      · have hbody : body = body.takeWhile isQuotable ++ '"' :: rest := by
          conv => lhs; rw [← List.takeWhile_append_dropWhile (p := isQuotable) (l := body), hclose]
          rfl
        simpa [inQuotes] using hbody
    · cases hread
  · rintro ⟨hx, rfl⟩
    have hchars : ∀ c ∈ x.toList, isQuotable c = true := by
      intro c hc
      have hline := h c (by simp [inQuotes, hc])
      have hmark : c ≠ '"' := fun heq => hx (heq ▸ hc)
      simp [isQuotable, hline, hmark]
    have hstop : Stops isQuotable ('"' :: rest) := stops_cons rfl
    have htext : inQuotes x ++ rest = '"' :: (x.toList ++ '"' :: rest) := by simp [inQuotes]
    rw [htext, quoted?, dropWhile_append_of_stops hchars hstop,
      takeWhile_append_of_stops hchars hstop, String.ofList_toList]
    rfl

/-- What is read behind the label of a node is an equation of the grammar, or nothing. -/
theorem equationText_of_equation? (h : OneLine cs) {equation : Option String}
    (hread : equation? cs = some equation) :
    ∃ part s, EquationText equation part ∧ Spaces s ∧ cs = part ++ s := by
  unfold equation? at hread
  obtain ⟨s₁, hs₁, -, hcs⟩ := skipSpaces_eq_iff.1 (Eq.refl (skipSpaces cs))
  split at hread
  · rename_i body hbody
    rw [hbody] at hcs
    obtain ⟨s₂, hs₂, -, hskip⟩ := skipSpaces_eq_iff.1 (Eq.refl (skipSpaces body))
    obtain ⟨⟨text, rest⟩, hquoted, hread⟩ := Option.bind_eq_some_iff.1 hread
    obtain ⟨_, hend, hread⟩ := Option.bind_eq_some_iff.1 hread
    cases hread
    have hline : OneLine (skipSpaces body) := by
      rw [hcs, hskip] at h
      exact fun c hc => h c (by simp [hc])
    obtain ⟨htext, hrest⟩ := (quoted?_eq_some_iff hline).1 hquoted
    refine ⟨_, rest, .present hs₁ hs₂ htext, lineEnd?_eq_some_iff.1 hend, ?_⟩
    rw [hcs, hskip, hrest]
    simp
  · rename_i hnil
    cases hread
    rw [hnil, List.append_nil] at hcs
    exact ⟨[], cs, .absent, hcs ▸ hs₁, rfl⟩
  · cases hread

theorem equation?_of_equationText {equation : Option String} (h : OneLine (t ++ s))
    (ht : EquationText equation t) (hs : Spaces s) : equation? (t ++ s) = some equation := by
  cases ht with
  | absent =>
    have hskip : skipSpaces ([] ++ s) = [] :=
      skipSpaces_eq_iff.2 ⟨s, hs, stops_nil, (List.append_nil s).symm⟩
    rw [equation?, hskip]
  | @present text s₁ s₂ hs₁ hs₂ htext =>
    have hskip : skipSpaces (s₁ ++ '=' :: (s₂ ++ inQuotes text) ++ s) =
        '=' :: (s₂ ++ (inQuotes text ++ s)) :=
      skipSpaces_eq_iff.2 ⟨s₁, hs₁, stops_cons rfl, by simp⟩
    have hskip₂ : skipSpaces (s₂ ++ (inQuotes text ++ s)) = inQuotes text ++ s :=
      skipSpaces_eq_iff.2 ⟨s₂, hs₂, stops_cons rfl, rfl⟩
    have hline : OneLine (inQuotes text ++ s) := fun c hc => h c (by
      rcases List.mem_append.1 hc with hc | hc <;> simp [hc])
    have hquoted := (quoted?_eq_some_iff hline).2 ⟨htext, rfl⟩
    rw [equation?, hskip]
    simp only [hskip₂]
    refine Option.bind_eq_some_iff.2 ⟨_, hquoted, ?_⟩
    exact Option.bind_eq_some_iff.2 ⟨(), lineEnd?_eq_some_iff.2 hs, rfl⟩

/-! ## Arrows -/

/-- An arrow that is read is one of the grammar, with its kind and its label. -/
theorem arrowText_of_arrow? {a : Arrow} (h : arrow? cs = some (a, rest)) :
    ∃ text, ArrowText a.kind a.label text ∧ cs = text.toList ++ rest := by
  rcases Option.or_eq_some_iff.1 h with h | ⟨-, h⟩
  · have hplain : ∀ a ∈ plainArrows, ArrowText a.2 none a.1 := by
      simp only [plainArrows, List.forall_mem_cons]
      exact ⟨.transition, .optional, .exclusion, .inclusion, .disjointness, .overlap,
        fun _ h => absurd h List.not_mem_nil⟩
    obtain ⟨⟨text, kind⟩, hmem, hread⟩ := List.exists_of_findSome?_eq_some h
    obtain ⟨rest', hliteral, hresult⟩ := Option.map_eq_some_iff.1 hread
    cases hresult
    exact ⟨text, hplain _ hmem, literal?_eq_some_iff.1 hliteral⟩
  · obtain ⟨cs₁, hopen, h⟩ := Option.bind_eq_some_iff.1 h
    obtain ⟨⟨cardinality, cs₂⟩, hrun, h⟩ := Option.bind_eq_some_iff.1 h
    obtain ⟨rest', hclose, h⟩ := Option.bind_eq_some_iff.1 h
    cases h
    rw [literal?_eq_some_iff] at hopen hclose
    obtain ⟨hne, hchars, -, hcs₁⟩ := run?_eq_some_iff.1 hrun
    refine ⟨_, .weighted hne ?_, ?_⟩
    · exact fun hmem => absurd (hchars _ hmem) (by decide)
    · rw [hopen, hcs₁, hclose]
      simp

theorem weightedArrow?_append (hne : x ≠ "") (hclose : ')' ∉ x.toList) (h : OneLine x.toList)
    (rest : List Char) :
    weightedArrow? ("-(".toList ++ (x.toList ++ (")->".toList ++ rest))) =
      some (.weighted x, rest) := by
  have hchars : ∀ c ∈ x.toList, isCardinalityChar c = true := by
    intro c hc
    have hmark : c ≠ ')' := fun heq => hclose (heq ▸ hc)
    simp [isCardinalityChar, h c hc, hmark]
  have hrun : run? isCardinalityChar (x.toList ++ (")->".toList ++ rest)) =
      some (x, ")->".toList ++ rest) :=
    run?_eq_some_iff.2 ⟨hne, hchars, stops_cons rfl, rfl⟩
  rw [weightedArrow?, literal?_eq_some_iff.2 rfl]
  refine Option.bind_eq_some_iff.2 ⟨_, rfl, Option.bind_eq_some_iff.2 ⟨_, hrun, ?_⟩⟩
  exact Option.bind_eq_some_iff.2 ⟨_, literal?_eq_some_iff.2 rfl, rfl⟩

/-- An arrow of the grammar is read, and gives its kind and its label. -/
theorem exists_arrow? {kind : EdgeKind} {label : Option String} (htext : ArrowText kind label x)
    (h : OneLine (x.toList ++ rest)) :
    ∃ a, arrow? (x.toList ++ rest) = some (a, rest) ∧ a.kind = kind ∧ a.label = label := by
  cases htext with
  | transition => exact ⟨.plain .transition, rfl, rfl, rfl⟩
  | optional => exact ⟨.plain .optional, rfl, rfl, rfl⟩
  | exclusion => exact ⟨.plain (.constraint .exclusion), rfl, rfl, rfl⟩
  | inclusion => exact ⟨.plain (.constraint .inclusion), rfl, rfl, rfl⟩
  | disjointness => exact ⟨.plain (.constraint .disjointness), rfl, rfl, rfl⟩
  | overlap => exact ⟨.plain (.constraint .overlap), rfl, rfl, rfl⟩
  | @weighted cardinality hne hclose =>
    refine ⟨.weighted cardinality, ?_, rfl, rfl⟩
    have hcs : ("-(" ++ cardinality ++ ")->").toList ++ rest =
        "-(".toList ++ (cardinality.toList ++ (")->".toList ++ rest)) := by
      simp
    have hplain : plainArrow? ("-(".toList ++ (cardinality.toList ++ (")->".toList ++ rest))) =
        none := rfl
    rw [hcs] at h ⊢
    rw [arrow?, hplain, Option.none_or]
    exact weightedArrow?_append hne hclose h.right.left rest

/-! ## Where the parts of a line end -/

theorem isIdChar_of_isSpace {c : Char} (h : isSpace c = true) : isIdChar c = false := by
  rcases isSpace_iff.1 h with rfl | rfl <;> decide +kernel

/-- An id does not go on into spaces. -/
theorem Spaces.stops (h : Spaces s) : Stops isIdChar s :=
  fun _ hc => isIdChar_of_isSpace (spaces_iff.1 h _ (List.mem_of_mem_head? hc))

theorem Gap.stops (h : Gap s) : Stops isIdChar (s ++ t) :=
  stops_append h.1 fun c hc => isIdChar_of_isSpace (spaces_iff.1 h.2 c hc)

/-- Spaces do not go on into an id. -/
theorem IsId.stops (h : IsId x) : Stops isSpace (x.toList ++ t) := by
  refine stops_append (by simpa using h.1) fun c hc => ?_
  by_contra hspace
  have hid := isIdChar_iff.2 (h.2 c hc)
  rw [isIdChar_of_isSpace (Bool.of_not_eq_false hspace)] at hid
  cases hid

/-- What an arrow looks like to the reader of an id: a word, and a character behind it that belongs
neither to an id nor to the spaces. -/
def arrowHeads : List (String × Char) :=
  [("--", '>'), ("-", '?'), ("-x-", '>'), ("-i-", '>'), ("-d-", '>'), ("-o-", '>'), ("-", '(')]

theorem ArrowText.exists_head {kind : EdgeKind} {label : Option String}
    (h : ArrowText kind label x) :
    ∃ p ∈ arrowHeads, ∃ t, x.toList = p.1.toList ++ p.2 :: t := by
  have hmem : ∀ (word : String) (c : Char) (t : List Char), (word, c) ∈ arrowHeads →
      x.toList = word.toList ++ c :: t → ∃ p ∈ arrowHeads, ∃ t, x.toList = p.1.toList ++ p.2 :: t :=
    fun word c t hp hx => ⟨(word, c), hp, t, hx⟩
  cases h with
  | transition => exact hmem "--" '>' [] (by decide) rfl
  | optional => exact hmem "-" '?' ['-', '>'] (by decide) rfl
  | exclusion => exact hmem "-x-" '>' [] (by decide) rfl
  | inclusion => exact hmem "-i-" '>' [] (by decide) rfl
  | disjointness => exact hmem "-d-" '>' [] (by decide) rfl
  | overlap => exact hmem "-o-" '>' [] (by decide) rfl
  | @weighted cardinality hne hclose =>
    exact hmem "-" '(' (cardinality.toList ++ [')', '-', '>']) (by decide) (by simp)

/-- An arrow begins with a word that an id could be, but the word is not followed by a space. -/
theorem ArrowText.exists_id? {kind : EdgeKind} {label : Option String} (h : ArrowText kind label x)
    (t : List Char) :
    Stops isSpace (x.toList ++ t) ∧
      ∃ word rest, id? (x.toList ++ t) = some (word, rest) ∧ spaces? rest = none := by
  have hheads : ∀ p ∈ arrowHeads, p.1 ≠ "" ∧ p.1.toList.all isIdChar = true ∧
      isIdChar p.2 = false ∧ isSpace p.2 = false := by
    decide +kernel
  obtain ⟨p, hp, t', hx⟩ := h.exists_head
  obtain ⟨hne, hchars, hid, hspace⟩ := hheads p hp
  have hword := isId_iff.2 ⟨hne, List.all_eq_true.1 hchars⟩
  rw [hx, List.append_assoc]
  refine ⟨hword.stops, p.1, p.2 :: (t' ++ t), ?_, ?_⟩
  · exact id?_eq_some_iff.2 ⟨hword, stops_cons hid, rfl⟩
  · rw [spaces?, if_neg (by simp [hspace])]

/-! ## Lines of nodes -/

theorem ofKeyword?_eq_some_iff {kind : NodeKind} :
    NodeKind.ofKeyword? x = some kind ↔ x = kind.keyword := by
  constructor
  · intro h
    have hfound := List.find?_some h
    exact (beq_iff_eq.1 hfound).symm
  · rintro rfl
    exact NodeKind.ofKeyword?_keyword kind

/-- Keywords are read as ids are. -/
theorem isId_keyword (kind : NodeKind) : IsId kind.keyword := by
  have hall : ∀ kind ∈ NodeKind.all,
      kind.keyword ≠ "" ∧ kind.keyword.toList.all isIdChar = true := by
    decide +kernel
  obtain ⟨hne, hchars⟩ := hall kind (NodeKind.mem_all kind)
  exact isId_iff.2 ⟨hne, List.all_eq_true.1 hchars⟩

/-- What is read as the line of a node is the line of that node. -/
theorem nodeLine_of_nodeLine? (h : OneLine cs) {l : Line} (hread : nodeLine? cs = some l) :
    ∃ n, NodeLine n cs ∧ l = .node n.kind n.id n.label n.equation := by
  obtain ⟨⟨word, cs₁⟩, hword, hread⟩ := Option.bind_eq_some_iff.1 hread
  obtain ⟨kind, hkind, hread⟩ := Option.bind_eq_some_iff.1 hread
  obtain ⟨cs₂, hgap₁, hread⟩ := Option.bind_eq_some_iff.1 hread
  obtain ⟨⟨id, cs₃⟩, hread₃, hread⟩ := Option.bind_eq_some_iff.1 hread
  obtain ⟨cs₄, hgap₂, hread⟩ := Option.bind_eq_some_iff.1 hread
  obtain ⟨⟨label, cs₅⟩, hread₅, hread⟩ := Option.bind_eq_some_iff.1 hread
  obtain ⟨equation, hequation, hread⟩ := Option.bind_eq_some_iff.1 hread
  cases hread
  generalize hskip : skipSpaces cs = cs₀ at hword
  obtain ⟨s₀, hs₀, -, rfl⟩ := skipSpaces_eq_iff.1 hskip
  obtain ⟨-, -, rfl⟩ := id?_eq_some_iff.1 hword
  obtain rfl := ofKeyword?_eq_some_iff.1 hkind
  obtain ⟨s₁, hs₁, -, rfl⟩ := spaces?_eq_some_iff.1 hgap₁
  obtain ⟨hid, -, rfl⟩ := id?_eq_some_iff.1 hread₃
  obtain ⟨s₂, hs₂, -, rfl⟩ := spaces?_eq_some_iff.1 hgap₂
  have hline := h.right.right.right.right.right
  obtain ⟨hlabel, rfl⟩ := (quoted?_eq_some_iff hline).1 hread₅
  obtain ⟨part, s₃, hpart, hs₃, rfl⟩ := equationText_of_equation? hline.right hequation
  exact ⟨⟨id, kind, label, equation⟩, .intro hs₀ hs₁ hid hs₂ hlabel hpart hs₃, rfl⟩

/-- The line of a node is read as such. -/
theorem nodeLine?_of_nodeLine (h : OneLine cs) {n : Node} (hn : NodeLine n cs) :
    nodeLine? cs = some (.node n.kind n.id n.label n.equation) := by
  obtain ⟨hs₀, hs₁, hid, hs₂, hlabel, hequation, hs₃⟩ := hn
  rename_i s₀ s₁ s₂ equation s₃
  have hline := h.right.right.right.right.right
  have hword := isId_keyword n.kind
  have hquote : ∀ t, Stops isSpace (inQuotes n.label ++ t) := fun t => stops_cons rfl
  rw [nodeLine?, skipSpaces_eq_iff.2 ⟨s₀, hs₀, hword.stops, rfl⟩]
  refine Option.bind_eq_some_iff.2 ⟨_, id?_eq_some_iff.2 ⟨hword, hs₁.stops, rfl⟩, ?_⟩
  refine Option.bind_eq_some_iff.2 ⟨_, NodeKind.ofKeyword?_keyword n.kind, ?_⟩
  refine Option.bind_eq_some_iff.2 ⟨_, spaces?_eq_some_iff.2 ⟨s₁, hs₁, hid.stops, rfl⟩, ?_⟩
  refine Option.bind_eq_some_iff.2 ⟨_, id?_eq_some_iff.2 ⟨hid, hs₂.stops, rfl⟩, ?_⟩
  refine Option.bind_eq_some_iff.2 ⟨_, spaces?_eq_some_iff.2 ⟨s₂, hs₂, hquote _, rfl⟩, ?_⟩
  refine Option.bind_eq_some_iff.2 ⟨_, (quoted?_eq_some_iff hline).2 ⟨hlabel, rfl⟩, ?_⟩
  have hend := equation?_of_equationText hline.right hequation hs₃
  exact Option.bind_eq_some_iff.2 ⟨_, hend, rfl⟩

/-! ## Lines of edges -/

/-- What is read as the line of an edge is the line of that edge. -/
theorem edgeLine_of_edgeLine? {l : Line} (hread : edgeLine? cs = some l) :
    ∃ source a target, l = .edge source a target ∧
      ∀ id, EdgeLine ⟨id, a.kind, source, target, a.label⟩ cs := by
  obtain ⟨⟨source, cs₁⟩, hread₁, hread⟩ := Option.bind_eq_some_iff.1 hread
  obtain ⟨cs₂, hgap₁, hread⟩ := Option.bind_eq_some_iff.1 hread
  obtain ⟨⟨a, cs₃⟩, hread₃, hread⟩ := Option.bind_eq_some_iff.1 hread
  obtain ⟨cs₄, hgap₂, hread⟩ := Option.bind_eq_some_iff.1 hread
  obtain ⟨⟨target, cs₅⟩, hread₅, hread⟩ := Option.bind_eq_some_iff.1 hread
  obtain ⟨_, hend, hread⟩ := Option.bind_eq_some_iff.1 hread
  cases hread
  generalize hskip : skipSpaces cs = cs₀ at hread₁
  obtain ⟨s₀, hs₀, -, rfl⟩ := skipSpaces_eq_iff.1 hskip
  obtain ⟨hsource, -, rfl⟩ := id?_eq_some_iff.1 hread₁
  obtain ⟨s₁, hs₁, -, rfl⟩ := spaces?_eq_some_iff.1 hgap₁
  obtain ⟨arrow, harrow, rfl⟩ := arrowText_of_arrow? hread₃
  obtain ⟨s₂, hs₂, -, rfl⟩ := spaces?_eq_some_iff.1 hgap₂
  obtain ⟨htarget, -, rfl⟩ := id?_eq_some_iff.1 hread₅
  have hs₃ := lineEnd?_eq_some_iff.1 hend
  exact ⟨source, a, target, rfl, fun _ => .intro hs₀ hsource hs₁ harrow hs₂ htarget hs₃⟩

/-- The line of an edge is read as such. -/
theorem exists_edgeLine? (h : OneLine cs) {e : Edge} (he : EdgeLine e cs) :
    ∃ a, edgeLine? cs = some (.edge e.source a e.target) ∧ a.kind = e.kind ∧ a.label = e.label := by
  obtain ⟨hs₀, hsource, hs₁, harrow, hs₂, htarget, hs₃⟩ := he
  rename_i s₀ s₁ s₂ s₃ arrow
  obtain ⟨a, hread, hkind, hlabel⟩ := exists_arrow? harrow h.right.right.right
  refine ⟨a, ?_, hkind, hlabel⟩
  rw [edgeLine?, skipSpaces_eq_iff.2 ⟨s₀, hs₀, hsource.stops, rfl⟩]
  refine Option.bind_eq_some_iff.2 ⟨_, id?_eq_some_iff.2 ⟨hsource, hs₁.stops, rfl⟩, ?_⟩
  have hstop : ∀ t, Stops isSpace (arrow.toList ++ t) := fun t => (harrow.exists_id? t).1
  refine Option.bind_eq_some_iff.2 ⟨_, spaces?_eq_some_iff.2 ⟨s₁, hs₁, hstop _, rfl⟩, ?_⟩
  refine Option.bind_eq_some_iff.2 ⟨_, hread, ?_⟩
  refine Option.bind_eq_some_iff.2 ⟨_, spaces?_eq_some_iff.2 ⟨s₂, hs₂, htarget.stops, rfl⟩, ?_⟩
  refine Option.bind_eq_some_iff.2 ⟨_, id?_eq_some_iff.2 ⟨htarget, hs₃.stops, rfl⟩, ?_⟩
  exact Option.bind_eq_some_iff.2 ⟨(), lineEnd?_eq_some_iff.2 hs₃, rfl⟩

/-- The line of an edge is not read as that of a node, even if its source is a keyword: what would
be the id of the node is the beginning of the arrow. -/
theorem nodeLine?_of_edgeLine {e : Edge} (he : EdgeLine e cs) : nodeLine? cs = none := by
  obtain ⟨hs₀, hsource, hs₁, harrow, hs₂, htarget, hs₃⟩ := he
  rename_i s₀ s₁ s₂ s₃ arrow
  obtain ⟨hstop, word, rest, hid, hrest⟩ :=
    harrow.exists_id? (s₂ ++ (e.target.toList ++ s₃))
  rw [nodeLine?, skipSpaces_eq_iff.2 ⟨s₀, hs₀, hsource.stops, rfl⟩]
  simp only [Option.bind_eq_bind, id?_eq_some_iff.2 ⟨hsource, hs₁.stops, rfl⟩,
    spaces?_eq_some_iff.2 ⟨s₁, hs₁, hstop, rfl⟩, hid, hrest, Option.bind_some, Option.bind_none]
  exact Option.bind_fun_none _

/-! ## Lines of every sort -/

theorem isComment_iff :
    isComment cs = true ↔ ∃ s text, Spaces s ∧ cs = s ++ '%' :: '%' :: text := by
  rw [isComment, List.isPrefixOf_iff_prefix]
  constructor
  · rintro ⟨text, htext⟩
    obtain ⟨s, hs, -, hcs⟩ := skipSpaces_eq_iff.1 htext.symm
    exact ⟨s, text, hs, hcs⟩
  · rintro ⟨s, text, hs, hcs⟩
    rw [skipSpaces_eq_iff.2 ⟨s, hs, stops_cons rfl, hcs⟩]
    exact ⟨text, rfl⟩

theorem blankLine?_eq_some_iff {l : Line} : blankLine? cs = some l ↔ l = .nothing ∧ Spaces cs := by
  constructor
  · intro hread
    obtain ⟨_, hend, hread⟩ := Option.bind_eq_some_iff.1 hread
    cases hread
    exact ⟨rfl, lineEnd?_eq_some_iff.1 hend⟩
  · rintro ⟨rfl, hs⟩
    exact Option.bind_eq_some_iff.2 ⟨(), lineEnd?_eq_some_iff.2 hs, rfl⟩

theorem comment?_eq_some_iff (h : OneLine cs) {l : Line} :
    comment? cs = some l ↔ l = .nothing ∧ isComment cs = true := by
  have hall : (cs.all fun c => c != '\n' && c != '\r') = true := by
    rw [List.all_eq_true]
    exact fun c hc => by simpa using h c hc
  rw [comment?, hall, Bool.and_true]
  split <;> simp [*, eq_comm]

/-- The two readers of lines that draw nothing. -/
theorem silent?_eq_some_iff (h : OneLine cs) {l : Line} :
    (blankLine? cs).or (comment? cs) = some l ↔ l = .nothing ∧ SilentLine cs := by
  constructor
  · intro hread
    rcases Option.or_eq_some_iff.1 hread with hread | ⟨-, hread⟩
    · obtain ⟨rfl, hs⟩ := blankLine?_eq_some_iff.1 hread
      exact ⟨rfl, .blank hs⟩
    · obtain ⟨rfl, hcomment⟩ := (comment?_eq_some_iff h).1 hread
      obtain ⟨s, text, hs, rfl⟩ := isComment_iff.1 hcomment
      exact ⟨rfl, .comment hs text⟩
  · rintro ⟨rfl, hsilent⟩
    cases hsilent with
    | blank hs => rw [blankLine?_eq_some_iff.2 ⟨rfl, hs⟩, Option.some_or]
    | @comment s hs text =>
      have hcomment := (comment?_eq_some_iff h).2 ⟨rfl, isComment_iff.2 ⟨s, text, hs, rfl⟩⟩
      -- both readers say the same, so it does not matter which of them comes first
      cases hblank : blankLine? (s ++ '%' :: '%' :: text) with
      | none => rw [Option.none_or, hcomment]
      | some l => rw [(blankLine?_eq_some_iff.1 hblank).1, Option.some_or]

/-- A line with an id in front draws something. -/
theorem not_silentLine (hs : Spaces s) (hx : IsId x) : ¬ SilentLine (s ++ (x.toList ++ t)) := by
  have hskip : skipSpaces (s ++ (x.toList ++ t)) = x.toList ++ t :=
    skipSpaces_eq_iff.2 ⟨s, hs, hx.stops, rfl⟩
  have hne : x.toList ≠ [] := by simpa using hx.1
  intro hsilent
  generalize hcs : s ++ (x.toList ++ t) = cs at hsilent hskip
  cases hsilent with
  | blank hs₀ =>
    have hnil : skipSpaces cs = [] :=
      skipSpaces_eq_iff.2 ⟨cs, hs₀, stops_nil, (List.append_nil cs).symm⟩
    rw [hnil] at hskip
    exact hne (List.append_eq_nil_iff.1 hskip.symm).1
  | @comment s₀ hs₀ text =>
    -- the id would have to begin with a percent sign
    have hpercent : skipSpaces (s₀ ++ '%' :: '%' :: text) = '%' :: '%' :: text :=
      skipSpaces_eq_iff.2 ⟨s₀, hs₀, stops_cons rfl, rfl⟩
    rw [hpercent] at hskip
    obtain ⟨c, cs, hchars⟩ := List.exists_cons_of_ne_nil hne
    rw [hchars] at hskip
    have hc := isIdChar_iff.2 (hx.2 c (hchars ▸ List.mem_cons_self))
    rw [← (List.cons.inj hskip).1] at hc
    revert hc
    decide +kernel

/-- What a line says fits its characters. -/
def Line.Fits (cs : List Char) : Line → Prop
  | nothing => SilentLine cs
  | node kind id label equation => NodeLine ⟨id, kind, label, equation⟩ cs
  | edge source a target => ∀ id, EdgeLine ⟨id, a.kind, source, target, a.label⟩ cs

/-- What is read from a line fits it. -/
theorem fits_of_line? (h : OneLine cs) {l : Line} (hread : line? cs = some l) : l.Fits cs := by
  rw [line?, ← Option.or_assoc] at hread
  rcases Option.or_eq_some_iff.1 hread with hread | ⟨-, hread⟩
  · obtain ⟨rfl, hsilent⟩ := (silent?_eq_some_iff h).1 hread
    exact hsilent
  · rcases Option.or_eq_some_iff.1 hread with hread | ⟨-, hread⟩
    · obtain ⟨n, hn, rfl⟩ := nodeLine_of_nodeLine? h hread
      exact hn
    · obtain ⟨source, a, target, rfl, he⟩ := edgeLine_of_edgeLine? hread
      exact he

theorem line?_of_silentLine (h : OneLine cs) (hsilent : SilentLine cs) :
    line? cs = some .nothing := by
  rw [line?, ← Option.or_assoc, (silent?_eq_some_iff h).2 ⟨rfl, hsilent⟩, Option.some_or]

/-- A line that draws something is passed by the readers of silent lines. -/
theorem line?_of_not_silentLine (h : OneLine cs) (hsilent : ¬ SilentLine cs) :
    line? cs = (nodeLine? cs).or (edgeLine? cs) := by
  have hnone : (blankLine? cs).or (comment? cs) = none :=
    Option.eq_none_iff_forall_ne_some.2 fun l hread =>
      hsilent ((silent?_eq_some_iff h).1 hread).2
  rw [line?, ← Option.or_assoc, hnone, Option.none_or]

theorem line?_of_nodeLine (h : OneLine cs) {n : Node} (hn : NodeLine n cs) :
    line? cs = some (.node n.kind n.id n.label n.equation) := by
  have hread := nodeLine?_of_nodeLine h hn
  have hsilent : ¬ SilentLine cs := by
    cases hn with
    | intro hs₀ => exact not_silentLine hs₀ (isId_keyword n.kind)
  rw [line?_of_not_silentLine h hsilent, hread, Option.some_or]

theorem exists_line?_of_edgeLine (h : OneLine cs) {e : Edge} (he : EdgeLine e cs) :
    ∃ a, line? cs = some (.edge e.source a e.target) ∧ a.kind = e.kind ∧ a.label = e.label := by
  have hread := exists_edgeLine? h he
  have hnone := nodeLine?_of_edgeLine he
  have hsilent : ¬ SilentLine cs := by
    cases he with
    | intro hs₀ hsource => exact not_silentLine hs₀ hsource
  rw [line?_of_not_silentLine h hsilent, hnone, Option.none_or]
  exact hread

end EntityRelationship.Script
