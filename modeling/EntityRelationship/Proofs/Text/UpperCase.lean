import EntityRelationship.Proofs.Text.Padding
import EntityRelationship.Text.Case

/-!
# Texts in upper case

The table of upper-case images does not map what it maps to, and blanks have no part in it. So a
text in upper case stays as it is when it is put in upper case again, and upper case neither makes
nor removes a blank.

The table is a list of runs and a list of single code points. Both are taken as runs here, as are
the ranges of blanks, so that one test on two runs tells that the images of the first are not met by
the second.
-/

namespace EntityRelationship.Text

/-! ## Runs that miss each other -/

namespace CaseRun

variable {r r' : CaseRun} {m n : Nat}

/-- The members of a run that stays where it is. -/
def fixed (first last : Nat) : CaseRun :=
  ⟨first, last, 1, 0⟩

theorem covers_iff :
    r.covers n = true ↔ (r.first ≤ n ∧ n ≤ r.last) ∧ (n - r.first) % r.step = 0 := by
  rw [covers, Bool.and_eq_true, Bool.and_eq_true, decide_eq_true_eq, decide_eq_true_eq, beq_iff_eq]

theorem covers_fixed {first last : Nat} :
    (fixed first last).covers n = true ↔ first ≤ n ∧ n ≤ last := by
  rw [covers_iff]
  simp [fixed, Nat.mod_one]

theorem image_fixed (first last n : Nat) : (fixed first last).image n = n := by
  simp [fixed, image]

theorem image_mono (h : m ≤ n) : r.image m ≤ r.image n := by
  unfold image
  omega

/-- Whether no image of a member of the first run belongs to the second run. The members are tried
one by one only if their images lie in the range of the second run. -/
def misses (r r' : CaseRun) : Bool :=
  Nat.blt (r.image r.last) r'.first || (Nat.blt r'.last (r.image r.first) ||
    (List.range ((r.last - r.first) / r.step + 1)).all fun k =>
      !r'.covers (r.image (r.first + r.step * k)))

theorem covers_image_of_misses (h : r.misses r' = true) (hn : r.covers n = true) :
    r'.covers (r.image n) = false := by
  obtain ⟨⟨hfirst, hlast⟩, hstep⟩ := covers_iff.1 hn
  have hlower : r.image r.first ≤ r.image n := image_mono hfirst
  have hupper : r.image n ≤ r.image r.last := image_mono hlast
  simp only [misses, Bool.or_eq_true, Nat.blt_eq] at h
  rw [← Bool.not_eq_true]
  intro hcovers
  obtain ⟨⟨hfirst', hlast'⟩, -⟩ := covers_iff.1 hcovers
  rcases h with h | h | h
  · omega
  · omega
  · -- the place of the member in its run
    have hplace : (n - r.first) / r.step ∈ List.range ((r.last - r.first) / r.step + 1) := by
      rw [List.mem_range, Nat.lt_succ_iff]
      exact Nat.div_le_div_right (by omega)
    have hmember : r.first + r.step * ((n - r.first) / r.step) = n := by
      have hdiv := Nat.div_add_mod (n - r.first) r.step
      omega
    have hmiss := List.all_eq_true.1 h _ hplace
    rw [hmember, hcovers] at hmiss
    cases hmiss

end CaseRun

/-! ## The upper-case table -/

/-- The code points that have an upper-case image, as runs. -/
def upperSources : List CaseRun :=
  upperRuns ++ upperExpansions.map fun e => .fixed e.1 e.1

/-- The blanks, as runs. -/
def blankRuns : List CaseRun :=
  blankRanges.map fun r => .fixed r.1 r.2

/-- No single image has an image itself or is blank. -/
theorem misses_upperRuns :
    (upperRuns.all fun r => (upperSources ++ blankRuns).all r.misses) = true := by
  decide +kernel

/-- Nor has any part of an image that has several characters. -/
theorem misses_upperExpansions :
    (upperExpansions.all fun e => e.2.all fun n =>
      (upperSources ++ blankRuns).all (CaseRun.fixed n n).misses) = true := by
  decide +kernel

/-- No blank has an image. -/
theorem misses_blankRuns : (blankRuns.all fun r => upperSources.all r.misses) = true := by
  decide +kernel

theorem upperExpansions_ne_nil : (upperExpansions.all fun e => e.2 != []) = true := by
  decide +kernel

/-! ## Images of code points -/

variable {m n : Nat}

/-- A code point has no upper-case image. -/
def Unmapped (n : Nat) : Prop :=
  ∀ r ∈ upperSources, r.covers n = false

/-- A code point may be part of an image: it has no image itself, and it is not blank. -/
structure IsImage (n : Nat) : Prop where
  unmapped : Unmapped n
  not_blank : inRanges blankRanges n = false

theorem isImage_zero : IsImage 0 where
  unmapped := by
    rw [Unmapped]
    decide +kernel
  not_blank := by decide

theorem exists_blankRun (h : inRanges blankRanges n = true) :
    ∃ r ∈ blankRuns, r.covers n = true := by
  obtain ⟨r, hr, hn⟩ := inRanges_iff.1 h
  exact ⟨.fixed r.1 r.2, List.mem_map_of_mem hr, CaseRun.covers_fixed.2 hn⟩

/-- What the sources and the blanks miss is an image. -/
theorem isImage_of_misses {r : CaseRun} (h : (upperSources ++ blankRuns).all r.misses = true)
    (hn : r.covers n = true) : IsImage (r.image n) := by
  have hmiss {r' : CaseRun} (hr' : r' ∈ upperSources ++ blankRuns) :
      r'.covers (r.image n) = false :=
    CaseRun.covers_image_of_misses (List.all_eq_true.1 h r' hr') hn
  constructor
  · exact fun r' hr' => hmiss (List.mem_append_left _ hr')
  · rw [← Bool.not_eq_true]
    intro hblank
    obtain ⟨r', hr', hcovers⟩ := exists_blankRun hblank
    rw [hmiss (List.mem_append_right _ hr')] at hcovers
    cases hcovers

/-- A blank has no upper-case image. -/
theorem unmapped_of_blank (h : inRanges blankRanges n = true) : Unmapped n := by
  obtain ⟨r, hr, hn⟩ := exists_blankRun h
  obtain ⟨range, -, rfl⟩ := List.mem_map.1 hr
  intro r' hr'
  have hmisses := List.all_eq_true.1 (List.all_eq_true.1 misses_blankRuns _ hr) r' hr'
  have hmiss := CaseRun.covers_image_of_misses hmisses hn
  rwa [CaseRun.image_fixed] at hmiss

/-- A code point without an image stays as it is. -/
theorem caseImage_of_unmapped (h : Unmapped n) : caseImage upperExpansions upperRuns n = [n] := by
  have hexpansion : upperExpansions.find? (·.1 == n) = none := by
    rw [List.find?_eq_none]
    intro e he hen
    have hmiss := h (.fixed e.1 e.1) (List.mem_append_right _ (List.mem_map_of_mem he))
    rw [← Bool.not_eq_true, CaseRun.covers_fixed] at hmiss
    rw [beq_iff_eq] at hen
    exact hmiss ⟨by omega, by omega⟩
  have hrun : upperRuns.find? (·.covers n) = none := by
    rw [List.find?_eq_none]
    intro r hr
    rw [h r (List.mem_append_left _ hr)]
    exact Bool.false_ne_true
  rw [caseImage, hexpansion, hrun]

/-- Any other code point is not blank and becomes one or more images. -/
theorem of_not_unmapped (h : ¬ Unmapped n) :
    inRanges blankRanges n = false ∧ caseImage upperExpansions upperRuns n ≠ [] ∧
      ∀ m ∈ caseImage upperExpansions upperRuns n, IsImage m := by
  refine ⟨?_, ?_⟩
  · rw [← Bool.not_eq_true]
    exact mt unmapped_of_blank h
  · unfold caseImage
    split
    · next k image hfound =>
      have he := List.mem_of_find?_eq_some hfound
      constructor
      · have hne := List.all_eq_true.1 upperExpansions_ne_nil _ he
        simpa using hne
      · intro m hm
        have hmisses := List.all_eq_true.1 (List.all_eq_true.1 misses_upperExpansions _ he) m hm
        have hcovers := CaseRun.covers_fixed.2 ⟨Nat.le_refl m, Nat.le_refl m⟩
        have himage := isImage_of_misses hmisses hcovers
        rwa [CaseRun.image_fixed] at himage
    · next hexpansion =>
      split
      · next r hfound =>
        have hr := List.mem_of_find?_eq_some hfound
        have hcovers : r.covers n = true := by simpa using List.find?_some hfound
        refine ⟨List.cons_ne_nil _ _, fun m hm => ?_⟩
        rw [List.mem_singleton.1 hm]
        exact isImage_of_misses (List.all_eq_true.1 misses_upperRuns r hr) hcovers
      · next hrun =>
        -- then no source has the code point
        refine absurd (fun r hr => ?_) h
        rw [List.find?_eq_none] at hexpansion hrun
        rw [← Bool.not_eq_true]
        rcases List.mem_append.1 hr with hr | hr
        · exact hrun r hr
        · obtain ⟨e, he, rfl⟩ := List.mem_map.1 hr
          have hne := hexpansion e he
          rw [beq_iff_eq] at hne
          rw [CaseRun.covers_fixed]
          omega

/-! ## Images of characters -/

variable {c c' : Char}

theorem toNat_ofNat_cases (n : Nat) : (Char.ofNat n).toNat = n ∨ (Char.ofNat n).toNat = 0 := by
  by_cases h : n.isValidChar
  · exact .inl (by rw [Char.ofNat, dif_pos h]; rfl)
  · exact .inr (by rw [Char.ofNat, dif_neg h]; rfl)

theorem upperChar_of_unmapped (h : Unmapped c.toNat) : upperChar c = [c] := by
  rw [upperChar, caseImage_of_unmapped h, List.map_singleton, Char.ofNat_toNat]

/-- A character stays as it is, or it is not blank and becomes one or more characters that stay as
they are and are not blank. -/
theorem upperChar_cases (c : Char) :
    upperChar c = [c] ∨ isBlank c = false ∧ upperChar c ≠ [] ∧
      ∀ c' ∈ upperChar c, upperChar c' = [c'] ∧ isBlank c' = false := by
  by_cases h : Unmapped c.toNat
  · exact .inl (upperChar_of_unmapped h)
  · obtain ⟨hblank, hne, himages⟩ := of_not_unmapped h
    refine .inr ⟨hblank, by rwa [upperChar, Ne, List.map_eq_nil_iff], fun c' hc' => ?_⟩
    obtain ⟨m, hm, rfl⟩ := List.mem_map.1 hc'
    have himage : IsImage (Char.ofNat m).toNat := by
      rcases toNat_ofNat_cases m with hm' | hm'
      · rw [hm']
        exact himages m hm
      · rw [hm']
        exact isImage_zero
    exact ⟨upperChar_of_unmapped himage.unmapped, himage.not_blank⟩

theorem upperChar_of_mem (h : c' ∈ upperChar c) : upperChar c' = [c'] := by
  rcases upperChar_cases c with hc | ⟨-, -, himages⟩
  · rw [hc, List.mem_singleton] at h
    rw [h, hc]
  · exact (himages c' h).1

/-- The image of a character is blank as far as the character is. -/
theorem isBlank_of_mem_upperChar (h : c' ∈ upperChar c) : isBlank c' = isBlank c := by
  rcases upperChar_cases c with hc | ⟨hblank, -, himages⟩
  · rw [hc, List.mem_singleton] at h
    rw [h]
  · rw [hblank, (himages c' h).2]

theorem upperChar_ne_nil (c : Char) : upperChar c ≠ [] := by
  rcases upperChar_cases c with hc | ⟨-, hne, -⟩
  · rw [hc]
    exact List.cons_ne_nil _ _
  · exact hne

/-! ## Texts -/

variable {s : String}

@[simp] theorem toList_upper (s : String) : (upper s).toList = s.toList.flatMap upperChar :=
  String.toList_ofList

/-- A text in upper case stays as it is. -/
@[simp] theorem upper_upper (s : String) : upper (upper s) = upper s := by
  refine String.toList_injective ?_
  rw [toList_upper, toList_upper, List.flatMap_assoc]
  refine List.flatMap_congr fun c _ => ?_
  rw [List.flatMap_congr fun c' hc' => upperChar_of_mem hc', List.flatMap_singleton']

/-- Upper case puts no blank at either end of a text. -/
theorem IsTrimmed.upper (h : IsTrimmed s) : IsTrimmed (upper s) where
  head := by
    intro c hc
    cases hs : s.toList with
    | nil =>
      rw [toList_upper, hs] at hc
      cases hc
    | cons c' cs =>
      rw [toList_upper, hs, List.flatMap_cons, List.head?_append_of_ne_nil _ (upperChar_ne_nil c')]
        at hc
      rw [isBlank_of_mem_upperChar (List.mem_of_mem_head? hc)]
      exact h.head c' (by rw [hs]; rfl)
  getLast := by
    intro c hc
    rcases List.eq_nil_or_concat s.toList with hs | ⟨cs, c', hs⟩
    · rw [toList_upper, hs] at hc
      cases hc
    · rw [List.concat_eq_append] at hs
      rw [toList_upper, hs, List.flatMap_append, List.flatMap_singleton,
        List.getLast?_append_of_ne_nil _ (upperChar_ne_nil c')] at hc
      rw [isBlank_of_mem_upperChar (List.mem_of_mem_getLast? hc)]
      exact h.getLast c' (by rw [hs, List.getLast?_concat]; rfl)

end EntityRelationship.Text
