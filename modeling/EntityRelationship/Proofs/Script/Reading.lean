import EntityRelationship.Proofs.Diagram.Elements
import EntityRelationship.Proofs.Script.Lines
import EntityRelationship.Script.Reader

/-!
# Scripts are read line by line

A text whose carriage returns all end lines is cut into lines in one way. The reader reads them one
after the other and fails at the first line that the grammar does not have, and so it succeeds
exactly on scripts. What the lines draw is inserted into a diagram; since edges have numbers for
ids, only the id of a node can be in the way.
-/

namespace EntityRelationship.Script

open Outcome

variable {cs line ending rest s : List Char} {L : List (List Char)} {ls : List Line}
  {nodes : List Node} {edges : List Edge} {k : Nat}

/-! ## Cutting a text into lines -/

/-- What ends a line. -/
inductive LineEnd : List Char → Prop
  | feed : LineEnd ['\n']
  | returnFeed : LineEnd ['\r', '\n']

/-- A text is made up of lines, each of which ends or is the last one. -/
inductive Splits : List Char → List (List Char) → Prop
  | nil : Splits [] []
  | last {line : List Char} (h : OneLine line) (hne : line ≠ []) : Splits line [line]
  | cons {line ending cs : List Char} {L : List (List Char)} (h : OneLine line)
      (hend : LineEnd ending) (hrest : Splits cs L) : Splits (line ++ (ending ++ cs)) (line :: L)

theorem Splits.eq_nil (h : Splits [] L) : L = [] := by
  generalize hcs : ([] : List Char) = cs at h
  cases h with
  | nil => rfl
  | last _ hne => exact absurd hcs.symm hne
  | cons _ hend _ => cases hend <;> simp at hcs

/-- The characters of a line stop before a character that ends it. -/
theorem exists_line (cs : List Char) :
    ∃ line rest, OneLine line ∧ cs = line ++ rest ∧
      (rest = [] ∨ ∃ rest', rest = '\n' :: rest' ∨ rest = '\r' :: rest') := by
  refine ⟨cs.takeWhile fun c => c != '\n' && c != '\r',
    cs.dropWhile fun c => c != '\n' && c != '\r',
    fun c hc => by simpa using List.mem_takeWhile_imp hc,
    List.takeWhile_append_dropWhile.symm, ?_⟩
  have hstop := stops_dropWhile (fun c => c != '\n' && c != '\r') cs
  cases hrest : cs.dropWhile fun c => c != '\n' && c != '\r' with
  | nil => exact .inl rfl
  | cons c rest =>
    have hc := hstop c (by rw [hrest]; rfl)
    refine .inr ⟨rest, ?_⟩
    by_cases hfeed : c = '\n'
    · exact .inl (hfeed ▸ rfl)
    · have hreturn : c = '\r' := by simpa [hfeed] using hc
      exact .inr (hreturn ▸ rfl)

theorem ReturnsEndLines.suffix (h : ReturnsEndLines cs) (hrest : rest <:+ cs) :
    ReturnsEndLines rest :=
  fun _ hreturn => h _ (hreturn.trans hrest)

/-- A text whose carriage returns all end lines is made up of lines. -/
theorem exists_splits {cs : List Char} (h : ReturnsEndLines cs) : ∃ L, Splits cs L := by
  obtain ⟨line, rest, hline, rfl, hrest⟩ := exists_line cs
  rcases hrest with rfl | ⟨rest, rfl | rfl⟩
  · rw [List.append_nil]
    by_cases hne : line = []
    · exact ⟨[], hne ▸ .nil⟩
    · exact ⟨[line], .last hline hne⟩
  · have hrest : ReturnsEndLines rest := h.suffix ⟨line ++ ['\n'], by simp⟩
    obtain ⟨L, hL⟩ := exists_splits hrest
    exact ⟨line :: L, .cons hline .feed hL⟩
  · -- a carriage return ends the line as well, for a line feed stands behind it
    have hfeed := h rest (List.suffix_append line _)
    obtain ⟨rest, rfl⟩ : ∃ rest', rest = '\n' :: rest' := List.head?_eq_some_iff.1 hfeed
    have hrest : ReturnsEndLines rest := h.suffix ⟨line ++ ['\r', '\n'], by simp⟩
    obtain ⟨L, hL⟩ := exists_splits hrest
    exact ⟨line :: L, .cons hline .returnFeed hL⟩
termination_by cs.length

theorem Splits.oneLine (h : Splits cs L) : ∀ line ∈ L, OneLine line := by
  induction h with
  | nil => exact fun _ hmem => absurd hmem List.not_mem_nil
  | last h _ => exact List.forall_mem_singleton.2 h
  | cons h _ _ ih => exact List.forall_mem_cons.2 ⟨h, ih⟩

/-! ### The lines of the grammar -/

theorem textLines_cons {c : Char} (hfeed : c ≠ '\n') (hreturn : c ≠ '\r') (cs : List Char) :
    textLines (c :: cs) = (textLines cs).modifyHead (c :: ·) := by
  rw [textLines]
  · exact hfeed
  · exact fun _ h => absurd h hreturn

theorem textLines_of_oneLine (h : OneLine line) : textLines line = [line] := by
  induction line with
  | nil => rfl
  | cons c line ih =>
    obtain ⟨⟨hfeed, hreturn⟩, hline⟩ := List.forall_mem_cons.1 h
    rw [textLines_cons hfeed hreturn, ih hline, List.modifyHead_cons]

theorem textLines_line (h : OneLine line) (hend : LineEnd ending) (cs : List Char) :
    textLines (line ++ (ending ++ cs)) = line :: textLines cs := by
  induction line with
  | nil => cases hend <;> rfl
  | cons c line ih =>
    obtain ⟨⟨hfeed, hreturn⟩, hline⟩ := List.forall_mem_cons.1 h
    rw [List.cons_append, textLines_cons hfeed hreturn, ih hline, List.modifyHead_cons]

/-- The lines of a text are those that it is made up of, and perhaps an empty one at the end. -/
theorem Splits.textLines_eq (h : Splits cs L) :
    textLines cs = L ∨ textLines cs = L ++ [[]] := by
  induction h with
  | nil => exact .inr rfl
  | last h _ => exact .inl (textLines_of_oneLine h)
  | cons h hend _ ih =>
    rw [textLines_line h hend]
    rcases ih with ih | ih
    · exact .inl (congrArg (_ :: ·) ih)
    · exact .inr (congrArg (_ :: ·) ih)

/-! ### The lines of the reader -/

/-- Up to its first line feed a text is read as one line, less a carriage return before it. -/
theorem firstLine_of_feed (h : '\n' ∉ s) (cs : List Char) :
    firstLine (s ++ '\n' :: cs) = (if s.getLast? = some '\r' then s.dropLast else s) ∧
      afterLine (s ++ '\n' :: cs) = cs := by
  have hchars : ∀ c ∈ s, (c != '\n') = true := fun c hc => by
    have hne : c ≠ '\n' := fun heq => h (heq ▸ hc)
    simpa using hne
  have hstop : Stops (· != '\n') ('\n' :: cs) := stops_cons rfl
  rw [firstLine, afterLine, takeWhile_append_of_stops hchars hstop,
    dropWhile_append_of_stops hchars hstop]
  simp

theorem firstLine_line (h : OneLine line) (hend : LineEnd ending) (cs : List Char) :
    firstLine (line ++ (ending ++ cs)) = line ∧ afterLine (line ++ (ending ++ cs)) = cs := by
  have hfeed : '\n' ∉ line := fun hmem => (h _ hmem).1 rfl
  cases hend with
  | feed =>
    have hlast : line.getLast? ≠ some '\r' := fun hlast =>
      (h _ (List.mem_of_getLast? hlast)).2 rfl
    have hfirst := firstLine_of_feed hfeed cs
    rwa [if_neg hlast] at hfirst
  | returnFeed =>
    have hfeed : '\n' ∉ line ++ ['\r'] := by simpa using hfeed
    have hfirst := firstLine_of_feed hfeed cs
    rw [if_pos List.getLast?_concat, List.dropLast_concat] at hfirst
    simpa using hfirst

theorem firstLine_of_oneLine (h : OneLine line) : firstLine line = line ∧ afterLine line = [] := by
  have hchars : ∀ c ∈ line, (c != '\n') = true := fun c hc => by simpa using (h c hc).1
  have htake : line.takeWhile (· != '\n') = line := List.takeWhile_eq_self_iff.2 hchars
  have hdrop : line.dropWhile (· != '\n') = [] := List.dropWhile_eq_nil_iff.2 hchars
  rw [firstLine, afterLine, htake, hdrop]
  simp

/-! ## Reading the lines -/

/-- What a list of lines says. -/
abbrev Says (L : List (List Char)) (ls : List Line) : Prop :=
  List.Forall₂ (fun line l => line? line = some l) L ls

theorem firstLine_subset (cs : List Char) : firstLine cs ⊆ cs := by
  have htake : cs.takeWhile (· != '\n') ⊆ cs := (List.takeWhile_prefix _).subset
  rw [firstLine]
  split
  · exact fun c hc => htake (List.dropLast_subset _ hc)
  · exact htake

/-- At a line that it cannot read the reader stops with a fault, which shows what is left from there
on, less the layout in front of it. -/
theorem finish_unread (h : OneLine (firstLine cs)) (hread : line? (firstLine cs) = none) :
    finish (unread cs) = .error (.unexpected (excerpt (cs.dropWhile isLayout))) := by
  have hdraws : ¬ SilentLine (firstLine cs) := by
    intro hsilent
    rw [line?_of_silentLine h hsilent] at hread
    cases hread
  have hcomment : ¬ isComment (firstLine cs) = true := by
    intro hcomment
    obtain ⟨s, text, hs, hline⟩ := isComment_iff.1 hcomment
    exact hdraws (hline ▸ .comment hs text)
  have hlayout : cs.dropWhile isLayout ≠ [] := by
    intro hnil
    refine hdraws (.blank (spaces_iff.2 fun c hc => ?_))
    have hc' := List.dropWhile_eq_nil_iff.1 hnil c (firstLine_subset cs hc)
    simpa [isLayout, h c hc] using hc'
  rw [unread, if_neg hcomment, finish]
  split
  · exact absurd ‹_› hlayout
  · rfl

/-- The reader cannot stop without a fault at a line that it cannot read. -/
theorem finish_ne_ok (h : OneLine (firstLine cs)) (hread : line? (firstLine cs) = none) :
    finish (unread cs) ≠ .ok ls := by
  rw [finish_unread h hread]
  exact nofun

/-- Lines are read if the first one is and those behind it are. -/
theorem lines_eq_ok_iff (hne : cs ≠ []) (h : OneLine (firstLine cs)) :
    lines cs = .ok ls ↔
      ∃ l ls', line? (firstLine cs) = some l ∧ lines (afterLine cs) = .ok ls' ∧ ls = l :: ls' := by
  rw [lines, dif_neg hne]
  cases hread : line? (firstLine cs) with
  | none =>
    simp only [finish_ne_ok h hread, reduceCtorEq, false_and, exists_false]
  | some l =>
    simp only [bind_eq_ok_iff, pure_eq_ok_iff, Option.some.injEq, exists_eq_left',
      exists_and_left, eq_comm (b := ls)]

/-- The reader of lines reads each line of a text. -/
theorem Splits.lines_eq_ok_iff (h : Splits cs L) : lines cs = .ok ls ↔ Says L ls := by
  induction h generalizing ls with
  | nil =>
    rw [Says, List.forall₂_nil_left_iff, lines]
    simp [eq_comm]
  | @last line h hne =>
    obtain ⟨hfirst, hafter⟩ := firstLine_of_oneLine h
    have hone : OneLine (firstLine line) := by rwa [hfirst]
    rw [Script.lines_eq_ok_iff hne hone, hfirst, hafter, lines, Says, List.forall₂_cons_left_iff]
    simp [eq_comm]
  | @cons line ending cs L h hend _ ih =>
    obtain ⟨hfirst, hafter⟩ := firstLine_line h hend cs
    have hne : line ++ (ending ++ cs) ≠ [] := by
      cases hend <;> simp
    have hone : OneLine (firstLine (line ++ (ending ++ cs))) := by rwa [hfirst]
    rw [Script.lines_eq_ok_iff hne hone, hfirst, hafter, Says, List.forall₂_cons_left_iff]
    simp only [ih]

/-! ## Drawing what the lines say -/

/-- The edges that a list of lines draws, numbered from a given number on. -/
def edgesFrom (k : Nat) (ls : List Line) : List Edge :=
  ((arrowsOf ls).zipIdx k).map fun ((source, arrow, target), i) =>
    ⟨s!"edge-{i}", arrow.kind, source, target, arrow.label⟩

theorem edgesOf_eq (ls : List Line) : edgesOf ls = edgesFrom 1 ls := by
  rw [edgesOf, edgesFrom, List.zipIdx_succ, List.map_map]
  rfl

theorem edgesFrom_edge (k : Nat) (source target : String) (a : Arrow) (ls : List Line) :
    edgesFrom k (.edge source a target :: ls) =
      ⟨s!"edge-{k}", a.kind, source, target, a.label⟩ :: edgesFrom (k + 1) ls := rfl

/-- What lines say is what they draw. -/
theorem draws_of_says (hlines : ∀ line ∈ L, OneLine line) (h : Says L ls) (k : Nat) :
    Draws k L (nodesOf ls) (edgesFrom k ls) := by
  induction h generalizing k with
  | nil => exact .nil
  | @cons line l L ls hline _ ih =>
    obtain ⟨hfirst, hlines⟩ := List.forall_mem_cons.1 hlines
    have hfits := fits_of_line? hfirst hline
    cases l with
    | nothing => exact .silent hfits (ih hlines k)
    | node kind id label equation => exact .node hfits (ih hlines k)
    | edge source a target =>
      rw [edgesFrom_edge]
      exact .edge (hfits _) rfl (ih hlines (k + 1))

/-- Lines that draw something say it. -/
theorem exists_says_of_draws (hlines : ∀ line ∈ L, OneLine line) (h : Draws k L nodes edges) :
    ∃ ls, Says L ls ∧ nodesOf ls = nodes ∧ edgesFrom k ls = edges := by
  induction h with
  | nil => exact ⟨[], .nil, rfl, rfl⟩
  | silent hline _ ih =>
    obtain ⟨hfirst, hlines⟩ := List.forall_mem_cons.1 hlines
    obtain ⟨ls, hsays, rfl, rfl⟩ := ih hlines
    exact ⟨.nothing :: ls, .cons (line?_of_silentLine hfirst hline) hsays, rfl, rfl⟩
  | node hline _ ih =>
    obtain ⟨hfirst, hlines⟩ := List.forall_mem_cons.1 hlines
    obtain ⟨ls, hsays, rfl, rfl⟩ := ih hlines
    exact ⟨_, .cons (line?_of_nodeLine hfirst hline) hsays, rfl, rfl⟩
  | @edge k line L nodes edges e hline hid _ ih =>
    obtain ⟨hfirst, hlines⟩ := List.forall_mem_cons.1 hlines
    obtain ⟨ls, hsays, rfl, rfl⟩ := ih hlines
    obtain ⟨a, hread, hkind, hlabel⟩ := exists_line?_of_edgeLine hfirst hline
    refine ⟨_, .cons hread hsays, rfl, ?_⟩
    rw [edgesFrom_edge, hkind, hlabel, ← hid]

theorem draws_append_blank : Draws k (L ++ [[]]) nodes edges ↔ Draws k L nodes edges := by
  constructor
  · intro h
    induction L generalizing k nodes edges with
    | nil =>
      -- a line that draws an element is not read as saying nothing, but the empty line is
      have hread : line? [] = some .nothing := rfl
      cases h with
      | silent _ hrest => exact hrest
      | node hline _ =>
        rw [line?_of_nodeLine oneLine_nil hline] at hread
        cases hread
      | edge hline _ _ =>
        obtain ⟨a, hread', -⟩ := exists_line?_of_edgeLine oneLine_nil hline
        rw [hread'] at hread
        cases hread
    | cons line L ih =>
      cases h with
      | silent hline hrest => exact .silent hline (ih hrest)
      | node hline hrest => exact .node hline (ih hrest)
      | edge hline hid hrest => exact .edge hline hid (ih hrest)
  · intro h
    induction h with
    | nil => exact .silent (.blank spaces_nil) .nil
    | silent hline _ ih => exact .silent hline ih
    | node hline _ ih => exact .node hline ih
    | edge hline hid _ ih => exact .edge hline hid ih

/-- An empty line at the end of a text draws nothing. -/
theorem Splits.draws_textLines (h : Splits cs L) :
    Draws k (textLines cs) nodes edges ↔ Draws k L nodes edges := by
  rcases h.textLines_eq with heq | heq
  · rw [heq]
  · rw [heq, draws_append_blank]

/-- The numbers of edges are different, and so are their ids. -/
theorem nodup_edgesFrom (k : Nat) (ls : List Line) : ((edgesFrom k ls).map (·.id)).Nodup := by
  have hids : (edgesFrom k ls).map (·.id) =
      (List.range' k (arrowsOf ls).length).map fun i => s!"edge-{i}" := by
    rw [edgesFrom, List.map_map, ← List.zipIdx_map_snd, List.map_map]
    rfl
  rw [hids]
  -- the ids are the numbers behind a fixed beginning
  refine List.Nodup.map (fun i j hij => ?_) List.nodup_range'
  exact Text.repr_inj ((String.append_right_inj "edge-").1 hij)

/-! ## The opening line -/

/-- What may follow a line: nothing, or its end and the lines behind it. -/
inductive Follows : List Char → List Char → Prop
  | last : Follows [] []
  | line {ending : List Char} (hend : LineEnd ending) (cs : List Char) : Follows (ending ++ cs) cs

variable {tail : List Char}

theorem Follows.stops (h : Follows tail rest) : Stops isSpace tail := by
  cases h with
  | last => exact stops_nil
  | line hend => cases hend <;> exact stops_cons rfl

/-- What follows a line begins with a character that ends it. -/
theorem Follows.head {c : Char} (h : Follows (c :: tail) rest) : c = '\n' ∨ c = '\r' := by
  generalize hcs : c :: tail = cs at h
  cases h with
  | last => cases hcs
  | line hend =>
    cases hend with
    | feed => exact .inl (List.cons.inj hcs).1
    | returnFeed => exact .inr (List.cons.inj hcs).1

theorem Follows.suffix (h : Follows tail rest) : rest <:+ tail := by
  cases h with
  | last => exact List.nil_suffix
  | line _ _ => exact List.suffix_append _ _

theorem isLayout_of_isSpace {c : Char} (h : isSpace c = true) : isLayout c = true := by
  simp [isLayout, h]

theorem Spaces.isLayout (h : Spaces s) : ∀ c ∈ s, isLayout c = true :=
  fun c hc => isLayout_of_isSpace (spaces_iff.1 h c hc)

/-- A text opens as a script if it begins, after layout, with the opening word, and the line of this
word holds nothing else. -/
theorem afterOpening_eq_ok_iff :
    afterOpening cs = .ok rest ↔
      ∃ u, cs.dropWhile isLayout = opening.toList ++ u ∧ Follows (skipSpaces u) rest := by
  rw [afterOpening]
  constructor
  · intro h
    cases hliteral : literal? opening (cs.dropWhile isLayout) with
    | none =>
      rw [hliteral] at h
      cases h
    | some u =>
      refine ⟨u, literal?_eq_some_iff.1 hliteral, ?_⟩
      rw [hliteral] at h
      simp only at h
      split at h
      · rename_i hnil
        cases h
        rw [hnil]
        exact .last
      · rename_i hfeed
        cases h
        rw [hfeed]
        exact .line .feed _
      · rename_i hreturn
        cases h
        rw [hreturn]
        exact .line .returnFeed _
      · cases h
  · rintro ⟨u, hu, hfollows⟩
    rw [literal?_eq_some_iff.2 hu]
    simp only
    generalize skipSpaces u = tail at hfollows
    cases hfollows with
    | last => rfl
    | line hend => cases hend <;> rfl

/-- What is left behind the opening line is the end of the text. -/
theorem suffix_of_afterOpening (h : afterOpening cs = .ok rest) : rest <:+ cs := by
  obtain ⟨u, hu, hfollows⟩ := afterOpening_eq_ok_iff.1 h
  have hword : u <:+ cs.dropWhile isLayout := ⟨_, hu.symm⟩
  have hskip : skipSpaces u <:+ u := List.dropWhile_suffix _
  exact hfollows.suffix.trans (hskip.trans (hword.trans (List.dropWhile_suffix _)))

/-- A blank line before the opening line makes no difference. -/
theorem afterOpening_blank (h : Spaces line) (hend : LineEnd ending) (cs : List Char) :
    afterOpening (line ++ (ending ++ cs)) = afterOpening cs := by
  have hending : ∀ c ∈ ending, isLayout c = true := by
    rw [← List.all_eq_true]
    cases hend <;> rfl
  rw [afterOpening, List.dropWhile_append_of_pos h.isLayout, List.dropWhile_append_of_pos hending]
  rfl

/-- The opening line opens a script. -/
theorem afterOpening_opening {s₀ s₁ : List Char} (h₀ : Spaces s₀) (h₁ : Spaces s₁)
    (ht : Follows tail rest) :
    afterOpening (s₀ ++ ("erGraph".toList ++ s₁) ++ tail) = .ok rest := by
  refine afterOpening_eq_ok_iff.2 ⟨s₁ ++ tail, ?_, ?_⟩
  · rw [List.append_assoc, List.append_assoc]
    exact dropWhile_append_of_stops h₀.isLayout (stops_cons rfl)
  · rw [skipSpaces_eq_iff.2 ⟨s₁, h₁, ht.stops, rfl⟩]
    exact ht

/-- A line that is not blank has a first character that is no layout. -/
theorem exists_first (hline : OneLine line) (h : ¬ Spaces line) :
    ∃ s c cs, Spaces s ∧ line = s ++ c :: cs ∧ isLayout c = false := by
  obtain ⟨s, hs, hstop, hcs⟩ := skipSpaces_eq_iff.1 (Eq.refl (skipSpaces line))
  cases hskip : skipSpaces line with
  | nil =>
    rw [hskip, List.append_nil] at hcs
    exact absurd (hcs ▸ hs) h
  | cons c cs =>
    rw [hskip] at hstop hcs
    have hc := hline c (by rw [hcs]; simp)
    exact ⟨s, c, cs, hs, hcs, by simp [Script.isLayout, hstop c rfl, hc]⟩

/-- The opening word stands within a line, for it has no character that ends one. -/
theorem exists_of_append_eq_opening {rest' w : List Char} (ht : Follows tail rest')
    (h : w ++ tail = opening.toList ++ rest) :
    ∃ u, w = opening.toList ++ u ∧ rest = u ++ tail := by
  rcases List.append_eq_append_iff.1 h with ⟨u, hopening, htail⟩ | ⟨u, hw, hrest⟩
  · cases u with
    | nil => exact ⟨[], by simpa using hopening.symm, by simpa using htail.symm⟩
    | cons c u =>
      -- the word would go on into what follows the line, which begins with the end of the line
      have hc : c ∈ opening.toList := hopening ▸ by simp
      have hword : '\n' ∉ opening.toList ∧ '\r' ∉ opening.toList := by decide
      rw [htail] at ht
      rcases ht.head with rfl | rfl
      · exact absurd hc hword.1
      · exact absurd hc hword.2
  · exact ⟨u, hw, hrest⟩

/-- A line that opens a script is the opening line. -/
theorem exists_opening (hline : OneLine line) (hblank : ¬ Spaces line) {rest' : List Char}
    (ht : Follows tail rest') (h : afterOpening (line ++ tail) = .ok rest) :
    ∃ s₀ s₁, Spaces s₀ ∧ Spaces s₁ ∧ line = s₀ ++ ("erGraph".toList ++ s₁) := by
  obtain ⟨s₀, c, w, hs₀, rfl, hc⟩ := exists_first hline hblank
  obtain ⟨cs, hword, hfollows⟩ := afterOpening_eq_ok_iff.1 h
  have hdrop : (s₀ ++ (c :: w ++ tail)).dropWhile isLayout = c :: w ++ tail :=
    dropWhile_append_of_stops hs₀.isLayout (stops_cons hc)
  rw [List.append_assoc, hdrop] at hword
  obtain ⟨u, hw, rfl⟩ := exists_of_append_eq_opening ht hword
  refine ⟨s₀, u, hs₀, ?_, by rw [hw]; rfl⟩
  -- a character behind the word that is no space would have to end the line
  by_contra hu
  obtain ⟨s₁, d, v, hs₁, rfl, hd⟩ := exists_first (hw ▸ hline.right).right hu
  have hspace : isSpace d = false := by
    by_contra hspace
    rw [isLayout_of_isSpace (Bool.of_not_eq_false hspace)] at hd
    cases hd
  have hskip : skipSpaces (s₁ ++ d :: v ++ tail) = d :: (v ++ tail) :=
    skipSpaces_eq_iff.2 ⟨s₁, hs₁, stops_cons hspace, by simp⟩
  rw [hskip] at hfollows
  rcases hfollows.head with rfl | rfl <;> cases hd

/-! ## Scripts -/

/-- The opening line is not blank. -/
theorem not_spaces_opening {s₀ s₁ : List Char} : ¬ Spaces (s₀ ++ ("erGraph".toList ++ s₁)) := by
  intro h
  have hspace := h 'e' (by simp)
  revert hspace
  decide

/-- A text of one line is a script if it is the opening line. -/
theorem isScript_singleton_iff (h : OneLine line) :
    IsScript [line] nodes edges ↔
      ∃ rest L, afterOpening line = .ok rest ∧ Splits rest L ∧ Draws 1 L nodes edges := by
  have hopening {s₀ s₁ : List Char} (h₀ : Spaces s₀) (h₁ : Spaces s₁) :
      afterOpening (s₀ ++ ("erGraph".toList ++ s₁)) = .ok [] := by
    have hread := afterOpening_opening h₀ h₁ .last
    rwa [List.append_nil] at hread
  constructor
  · intro hscript
    cases hscript with
    | blank _ hrest => cases hrest
    | opening h₀ h₁ hrest => exact ⟨[], [], hopening h₀ h₁, .nil, hrest⟩
  · rintro ⟨rest, L, hread, hsplits, hdraws⟩
    have hblank : ¬ Spaces line := by
      intro hs
      rw [afterOpening, List.dropWhile_eq_nil_iff.2 hs.isLayout] at hread
      cases hread
    have hline : afterOpening (line ++ []) = .ok rest := by rwa [List.append_nil]
    obtain ⟨s₀, s₁, h₀, h₁, rfl⟩ := exists_opening h hblank .last hline
    cases (hopening h₀ h₁).symm.trans hread
    cases hsplits.eq_nil
    exact .opening h₀ h₁ hdraws

/-- A text is a script exactly if it opens as one and the lines behind draw. -/
theorem Splits.isScript_iff (h : Splits cs L) :
    IsScript (textLines cs) nodes edges ↔
      ∃ rest L, afterOpening cs = .ok rest ∧ Splits rest L ∧ Draws 1 L nodes edges := by
  induction h with
  | nil => exact isScript_singleton_iff oneLine_nil
  | last h _ =>
    rw [textLines_of_oneLine h]
    exact isScript_singleton_iff h
  | @cons line ending cs L h hend hsplits ih =>
    rw [textLines_line h hend]
    -- a blank line is passed, and any other first line has to be the opening line
    by_cases hblank : Spaces line
    · rw [afterOpening_blank hblank hend, ← ih]
      constructor
      · intro hscript
        cases hscript with
        | blank _ hrest => exact hrest
        | opening _ _ _ => exact absurd hblank not_spaces_opening
      · exact .blank hblank
    · constructor
      · intro hscript
        cases hscript with
        | blank hline _ => exact absurd hline hblank
        | opening h₀ h₁ hrest =>
          exact ⟨cs, L, afterOpening_opening h₀ h₁ (.line hend cs), hsplits,
            hsplits.draws_textLines.1 hrest⟩
      · rintro ⟨rest, L', hread, hsplits', hdraws⟩
        obtain ⟨s₀, s₁, h₀, h₁, rfl⟩ := exists_opening h hblank (.line hend cs) hread
        cases (afterOpening_opening h₀ h₁ (.line hend cs)).symm.trans hread
        exact .opening h₀ h₁ (hsplits'.draws_textLines.2 hdraws)

/-- A script is read as what its lines draw, provided that this makes up a diagram. -/
theorem read_of_isScript {text : String} (h : ReturnsEndLines text.toList)
    (hscript : IsScript (textLines text.toList) nodes edges) :
    read text = (Diagram.ofElements nodes edges).mapError .edit ∧ (edges.map (·.id)).Nodup := by
  obtain ⟨L₀, hsplits₀⟩ := exists_splits h
  obtain ⟨body, L, hopen, hsplits, hdraws⟩ := hsplits₀.isScript_iff.1 hscript
  obtain ⟨ls, hsays, rfl, rfl⟩ := exists_says_of_draws hsplits.oneLine hdraws
  refine ⟨?_, nodup_edgesFrom 1 ls⟩
  rw [read, hopen, ok_bind, hsplits.lines_eq_ok_iff.2 hsays, ok_bind, edgesOf_eq]
  cases Diagram.ofElements (nodesOf ls) (edgesFrom 1 ls) <;> rfl

/-- Only scripts are read. -/
theorem exists_isScript_of_read {text : String} {d : Diagram} (h : ReturnsEndLines text.toList)
    (hread : read text = .ok d) :
    ∃ nodes edges, IsScript (textLines text.toList) nodes edges := by
  obtain ⟨body, hopen, hread⟩ := bind_eq_ok_iff.1 hread
  obtain ⟨ls, hlines, -⟩ := bind_eq_ok_iff.1 hread
  obtain ⟨L₀, hsplits₀⟩ := exists_splits h
  obtain ⟨L, hsplits⟩ := exists_splits (h.suffix (suffix_of_afterOpening hopen))
  have hdraws := draws_of_says hsplits.oneLine (hsplits.lines_eq_ok_iff.1 hlines) 1
  exact ⟨_, _, hsplits₀.isScript_iff.2 ⟨body, L, hopen, hsplits, hdraws⟩⟩

/-- A text whose carriage returns all end lines is read exactly if it is a script and the ids of its
nodes are distinct, and the diagram has the nodes and edges that its lines draw. If only an id is
repeated, the fault names the first one that is. -/
theorem read_outcome {text : String} (h : ReturnsEndLines text.toList) :
    (∀ d, read text = .ok d ↔
      IsScript (textLines text.toList) d.nodes d.edges ∧ (d.nodes.map (·.id)).Nodup) ∧
    ∀ nodes edges, IsScript (textLines text.toList) nodes edges →
      ¬ (nodes.map (·.id)).Nodup →
      ∃ before n after, nodes = before ++ n :: after ∧ (before.map (·.id)).Nodup ∧
        n.id ∈ before.map (·.id) ∧ read text = .error (.edit (.duplicateId n.id)) := by
  constructor
  · intro d
    constructor
    · intro hread
      obtain ⟨nodes, edges, hscript⟩ := exists_isScript_of_read h hread
      obtain ⟨heq, hedges⟩ := read_of_isScript h hscript
      rw [heq, mapError_eq_ok_iff, Diagram.ofElements_eq_ok_iff hedges] at hread
      obtain ⟨rfl, hnodes⟩ := hread
      exact ⟨hscript, hnodes⟩
    · rintro ⟨hscript, hnodes⟩
      obtain ⟨heq, hedges⟩ := read_of_isScript h hscript
      rw [heq, mapError_eq_ok_iff, Diagram.ofElements_eq_ok_iff hedges]
      exact ⟨rfl, hnodes⟩
  · intro nodes edges hscript hnodes
    obtain ⟨before, n, after, rfl, hbefore, hn⟩ := Diagram.exists_first_repeat hnodes
    refine ⟨before, n, after, rfl, hbefore, hn, ?_⟩
    rw [(read_of_isScript h hscript).1, Diagram.ofElements_eq_error hbefore hn]
    rfl

/-- A text with both ways to end a line, and with none at its end. -/
def staffScript : String :=
  "\r\n\t erGraph \r\n  %% staff\nentity p \"Person\"\r\n\n" ++
    " derived a\t\"age\"= \"2024 - born\" \nentity -(\t1..N )-> entity\np --> a"

theorem read_outcome_staff :
    ReturnsEndLines staffScript.toList ∧
      IsScript (textLines staffScript.toList)
        [⟨"p", .entity, "Person", none⟩, ⟨"a", .attr .derived, "age", some "2024 - born"⟩]
        [⟨"edge-1", .weighted, "entity", "entity", some "(1..N)"⟩,
          ⟨"edge-2", .transition, "p", "a", none⟩] := by
  have hreturns : ReturnsEndLines staffScript.toList := by
    decide +kernel
  exact ⟨hreturns, (((read_outcome hreturns).1
    ⟨[⟨"p", .entity, "Person", none⟩, ⟨"a", .attr .derived, "age", some "2024 - born"⟩],
      [⟨"edge-1", .weighted, "entity", "entity", some "(1..N)"⟩,
        ⟨"edge-2", .transition, "p", "a", none⟩]⟩).1 (by decide +kernel)).1⟩

end EntityRelationship.Script
