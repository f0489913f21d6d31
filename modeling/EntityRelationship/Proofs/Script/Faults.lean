import EntityRelationship.Proofs.Script.Reading

/-!
# The line at which reading fails

A text that opens as a script is read up to the first line that the grammar does not have. What the
reader has taken from the beginning of this line is of no consequence: the fault shows the line as a
whole, trimmed and cut if it is too long. It comes before every other fault, for nothing is drawn
until all lines are read.
-/

namespace EntityRelationship.Script

open Outcome

variable {cs line bad tail rest : List Char} {L lines later before after : List (List Char)}

/-! ## Lines of the grammar -/

/-- The lines of the grammar: those that say nothing and those that draw a node or an edge. -/
def IsLine (line : List Char) : Prop :=
  SilentLine line ∨ (∃ n, NodeLine n line) ∨ ∃ e, EdgeLine e line

/-- The lines that are read are those of the grammar. -/
theorem exists_line?_iff (h : OneLine line) : (∃ l, line? line = some l) ↔ IsLine line := by
  constructor
  · rintro ⟨l, hread⟩
    have hfits := fits_of_line? h hread
    cases l with
    | nothing => exact .inl hfits
    | node kind id label equation => exact .inr (.inl ⟨_, hfits⟩)
    | edge source a target => exact .inr (.inr ⟨_, hfits ""⟩)
  · rintro (hsilent | ⟨n, hn⟩ | ⟨e, he⟩)
    · exact ⟨_, line?_of_silentLine h hsilent⟩
    · exact ⟨_, line?_of_nodeLine h hn⟩
    · obtain ⟨a, hread, -⟩ := exists_line?_of_edgeLine h he
      exact ⟨_, hread⟩

theorem line?_eq_none_iff (h : OneLine line) : line? line = none ↔ ¬ IsLine line := by
  rw [← exists_line?_iff h, Option.eq_none_iff_forall_ne_some, not_exists]

/-! ## The opening -/

/-- The first list of lines has the opening line behind blank lines, and the second one behind it. -/
inductive Opens : List (List Char) → List (List Char) → Prop
  | blank {line : List Char} {lines later : List (List Char)} (hline : Spaces line)
      (hrest : Opens lines later) : Opens (line :: lines) later
  | opening {s₀ s₁ : List Char} {later : List (List Char)} (h₀ : Spaces s₀) (h₁ : Spaces s₁) :
      Opens ((s₀ ++ ("erGraph".toList ++ s₁)) :: later) later

/-- If the opening line is the only one, nothing is left behind it. -/
theorem Opens.singleton (h : Opens [line] later) : afterOpening line = .ok [] ∧ later = [] := by
  generalize hlines : [line] = lines at h
  cases h with
  | blank _ hrest =>
    obtain ⟨-, rfl⟩ := List.cons.inj hlines
    cases hrest
  | opening h₀ h₁ =>
    obtain ⟨rfl, rfl⟩ := List.cons.inj hlines
    have hread := afterOpening_opening h₀ h₁ .last
    rw [List.append_nil] at hread
    exact ⟨hread, rfl⟩

/-- What is left behind the opening line is made up of the later lines, perhaps without an empty one
at the end. -/
theorem Splits.exists_body (h : Splits cs L) (hopens : Opens (textLines cs) later) :
    ∃ body L', afterOpening cs = .ok body ∧ Splits body L' ∧ (later = L' ∨ later = L' ++ [[]]) := by
  induction h with
  | nil =>
    obtain ⟨hread, rfl⟩ := hopens.singleton
    exact ⟨[], [], hread, .nil, .inl rfl⟩
  | last hline _ =>
    rw [textLines_of_oneLine hline] at hopens
    obtain ⟨hread, rfl⟩ := hopens.singleton
    exact ⟨[], [], hread, .nil, .inl rfl⟩
  | @cons line ending cs L hline hend hsplits ih =>
    rw [textLines_line hline hend] at hopens
    generalize hlines : line :: textLines cs = lines at hopens
    cases hopens with
    | blank hblank hrest =>
      obtain ⟨rfl, rfl⟩ := List.cons.inj hlines
      rw [afterOpening_blank hblank hend]
      exact ih hrest
    | opening h₀ h₁ =>
      obtain ⟨rfl, rfl⟩ := List.cons.inj hlines
      exact ⟨cs, L, afterOpening_opening h₀ h₁ (.line hend cs), hsplits, hsplits.textLines_eq⟩

/-! ## The line that is shown -/

/-- A text that is made up of lines begins with the first of them, and its end and the other lines
follow. -/
theorem Splits.exists_follows (h : Splits cs (line :: L)) :
    ∃ tail rest, cs = line ++ tail ∧ cs ≠ [] ∧ OneLine line ∧ Follows tail rest ∧
      Splits rest L := by
  cases h with
  | last hline hne => exact ⟨[], [], (List.append_nil _).symm, hne, hline, .last, .nil⟩
  | @cons _ ending cs _ hline hend hrest =>
    refine ⟨ending ++ cs, cs, rfl, ?_, hline, .line hend cs, hrest⟩
    cases hend <;> simp

/-- The reader takes the first line off, with what ends it. -/
theorem firstLine_append (h : OneLine line) (ht : Follows tail rest) :
    firstLine (line ++ tail) = line ∧ afterLine (line ++ tail) = rest := by
  cases ht with
  | last =>
    rw [List.append_nil]
    exact firstLine_of_oneLine h
  | line hend => exact firstLine_line h hend _

/-- Trimming a text takes the blanks in front of it away. -/
theorem trim_ofList_append (h : ∀ c ∈ line, Text.isBlank c = true) (cs : List Char) :
    Text.trim (String.ofList (line ++ cs)) = Text.trim (String.ofList cs) := by
  simp only [Text.trim, Text.dropBlanks, String.toList_ofList, List.dropWhile_append_of_pos h]

/-- A line as faults show it: trimmed, and if it is longer than 40 characters, the first 40 of them
with an ellipsis. -/
def shown (line : List Char) : String :=
  let text := Text.trim (String.ofList line)
  if text.length ≤ 40 then text else String.ofList (text.toList.take 40) ++ "..."

/-- The excerpt from a text that begins with a line that is not blank, less the layout in front of
it, shows this line. -/
theorem excerpt_line (h : OneLine line) (hblank : ¬ Spaces line) (ht : Follows tail rest) :
    excerpt ((line ++ tail).dropWhile isLayout) = shown line := by
  obtain ⟨s, c, w, hs, rfl, hc⟩ := exists_first h hblank
  have hdrop : (s ++ c :: w ++ tail).dropWhile isLayout = c :: w ++ tail := by
    rw [List.append_assoc]
    exact dropWhile_append_of_stops hs.isLayout (stops_cons hc)
  have hblanks : ∀ c ∈ s, Text.isBlank c = true := by
    intro c hc
    rcases hs c hc with rfl | rfl <;> decide
  have hlimit : excerptLength = 40 := rfl
  rw [hdrop, excerpt, (firstLine_append h.right ht).1, shown, trim_ofList_append hblanks,
    String.length_toList, String.ofList_toList]
  by_cases hlength : (Text.trim (String.ofList (c :: w))).length ≤ 40
  · rw [if_pos hlength, if_neg (by omega)]
  · rw [if_neg hlength, if_pos (by omega), hlimit]

/-- The reader fails at the first line that it cannot read, and shows this line. -/
theorem Splits.lines_eq_error (h : Splits cs (before ++ bad :: after))
    (hbefore : ∀ line ∈ before, ∃ l, line? line = some l) (hbad : line? bad = none) :
    Script.lines cs = .error (.unexpected (shown bad)) := by
  induction before generalizing cs with
  | nil =>
    obtain ⟨tail, rest, rfl, hne, hline, ht, -⟩ := h.exists_follows
    obtain ⟨hfirst, -⟩ := firstLine_append hline ht
    have hblank : ¬ Spaces bad := by
      intro hs
      rw [line?_of_silentLine hline (.blank hs)] at hbad
      cases hbad
    rw [Script.lines, dif_neg hne, hfirst, hbad, ← excerpt_line hline hblank ht]
    exact finish_unread (by rwa [hfirst]) (by rwa [hfirst])
  | cons line before ih =>
    obtain ⟨tail, rest, rfl, hne, hline, ht, hsplits⟩ := h.exists_follows
    obtain ⟨hfirst, hafter⟩ := firstLine_append hline ht
    obtain ⟨⟨l, hl⟩, hbefore⟩ := List.forall_mem_cons.1 hbefore
    rw [Script.lines, dif_neg hne, hfirst, hl, hafter]
    dsimp only
    rw [ih hsplits hbefore]
    rfl

/-! ## Faults -/

/-- A list with a line that the grammar does not have has a first such line. -/
theorem exists_first_not_isLine (h : ∃ line ∈ later, ¬ IsLine line) :
    ∃ before bad after, later = before ++ bad :: after ∧ (∀ line ∈ before, IsLine line) ∧
      ¬ IsLine bad := by
  classical
  obtain ⟨line, hmem, hline⟩ := h
  have hsome : (later.find? fun line => ¬ IsLine line).isSome := by
    rw [List.find?_isSome]
    exact ⟨line, hmem, decide_eq_true hline⟩
  obtain ⟨bad, hfind⟩ := Option.isSome_iff_exists.1 hsome
  obtain ⟨hbad, before, after, hsplit, hbefore⟩ := List.find?_eq_some_iff_append.1 hfind
  exact ⟨before, bad, after, hsplit, by simpa using hbefore, by simpa using hbad⟩

/-- A text that opens as a script is not read if a later line is none of the grammar. Whatever else
is wrong with the text, such as an id that is repeated before, the fault shows the first such line. -/
theorem read_eq_error_of_not_isLine {text : String} (h : ReturnsEndLines text.toList)
    (hopens : Opens (textLines text.toList) later) (hbad : ∃ line ∈ later, ¬ IsLine line) :
    ∃ before bad after, later = before ++ bad :: after ∧ (∀ line ∈ before, IsLine line) ∧
      ¬ IsLine bad ∧ read text = .error (.unexpected (shown bad)) := by
  obtain ⟨L₀, hsplits₀⟩ := exists_splits h
  obtain ⟨body, L, hopen, hsplits, hlater⟩ := hsplits₀.exists_body hopens
  -- an empty line at the end is one of the grammar, so the bad line is one of the others
  have hbadL : ∃ line ∈ L, ¬ IsLine line := by
    obtain ⟨line, hmem, hline⟩ := hbad
    refine ⟨line, ?_, hline⟩
    rcases hlater with rfl | rfl
    · exact hmem
    · refine (List.mem_append.1 hmem).resolve_right fun hempty => hline ?_
      rw [List.mem_singleton.1 hempty]
      exact .inl (.blank spaces_nil)
  obtain ⟨before, bad, after, rfl, hbefore, hbad'⟩ := exists_first_not_isLine hbadL
  have hone := hsplits.oneLine
  have hlines := hsplits.lines_eq_error
    (fun line hmem => (exists_line?_iff (hone line (by simp [hmem]))).2 (hbefore line hmem))
    ((line?_eq_none_iff (hone bad (by simp))).2 hbad')
  have hread : read text = .error (.unexpected (shown bad)) := by
    rw [read, hopen, ok_bind, hlines]
    rfl
  rcases hlater with rfl | rfl
  · exact ⟨before, bad, after, rfl, hbefore, hbad', hread⟩
  · exact ⟨before, bad, after ++ [[]], by simp, hbefore, hbad', hread⟩

/-- Two people with the same id, and two lines behind them that are none of the grammar. -/
def brokenScript : String :=
  " \n\terGraph\t\r\nentity p \"Person\"\nentity p \"Somebody\"\n%% ==>\n" ++
    "\t p -(everybody knows somebody else at least)- p \np ==> q\n"

/-- The fault shows the line with the arrow that is not closed, and not the id that is repeated. -/
theorem read_eq_error_brokenScript :
    ReturnsEndLines brokenScript.toList ∧
      (∃ before bad after, Opens (textLines brokenScript.toList) (before ++ bad :: after) ∧
        (∀ line ∈ before, IsLine line) ∧ ¬ IsLine bad ∧
        shown bad = "p -(everybody knows somebody else at lea...") ∧
      read brokenScript =
        .error (.unexpected "p -(everybody knows somebody else at lea...") := by
  have hreturns : ReturnsEndLines brokenScript.toList := by
    decide +kernel
  have hlines : textLines brokenScript.toList = [[' '], "\terGraph\t".toList,
      "entity p \"Person\"".toList, "entity p \"Somebody\"".toList, "%% ==>".toList,
      "\t p -(everybody knows somebody else at least)- p ".toList, "p ==> q".toList, []] := by
    decide +kernel
  have hopens (later : List (List Char)) : Opens ([' '] :: "\terGraph\t".toList :: later) later :=
    .blank (by simp [Spaces])
      (@Opens.opening ['\t'] ['\t'] later (by simp [Spaces]) (by simp [Spaces]))
  have hbad : ¬ IsLine "p ==> q".toList :=
    (line?_eq_none_iff (by simp [OneLine])).1 (by decide +kernel)
  obtain ⟨before, bad, after, hsplit, hbefore, hbad, hread⟩ :=
    read_eq_error_of_not_isLine hreturns (hlines ▸ hopens _) ⟨_, by simp, hbad⟩
  have hshown : read brokenScript =
      .error (.unexpected "p -(everybody knows somebody else at lea...") := by
    decide +kernel
  refine ⟨hreturns, ⟨before, bad, after, ?_, hbefore, hbad, ?_⟩, hshown⟩
  · rw [hlines, ← hsplit]
    exact hopens _
  · rw [hread] at hshown
    simpa using hshown

end EntityRelationship.Script
