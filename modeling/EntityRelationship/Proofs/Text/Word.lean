import EntityRelationship.Text.Blank
import Mathlib.Data.List.Basic

/-!
# Texts without blanks

A text that is to stand as one word has no blank in it. Stripping gives such a text, and what is put
together from such texts and from numbers is one again. Trimming is less: it gives a text that has
blanks at neither end. What it takes away has no character but blanks, so it stops short of anything
else.
-/

namespace EntityRelationship.Text

variable {s t : String}

/-! ## Words -/

/-- No character of a text is blank. -/
def Unblank (s : String) : Prop :=
  ∀ c ∈ s.toList, isBlank c = false

/-- A text that is not empty and has no blank in it. -/
structure IsWord (s : String) : Prop where
  ne_empty : s ≠ ""
  unblank : Unblank s

theorem unblank_iff_all : Unblank s ↔ s.toList.all (!isBlank ·) = true := by
  simp only [Unblank, List.all_eq_true, Bool.not_eq_true']

instance (s : String) : Decidable (Unblank s) :=
  decidable_of_iff _ unblank_iff_all.symm

theorem unblank_strip (s : String) : Unblank (strip s) :=
  fun _ hc => isBlank_of_mem_strip hc

theorem Unblank.append (hs : Unblank s) (ht : Unblank t) : Unblank (s ++ t) := by
  intro c hc
  rw [String.toList_append, List.mem_append] at hc
  exact hc.elim (hs c) (ht c)

/-- A number is written without blanks. -/
theorem unblank_toString (n : Nat) : Unblank (toString n) := by
  intro c hc
  rw [Nat.toString_eq_repr, Nat.toList_repr] at hc
  exact isBlank_of_isDigit (Nat.isDigit_of_mem_toDigits (by omega) (by omega) hc)

/-- The parts of a name are joined by an underscore, which is no blank. -/
theorem unblank_underscore : Unblank "_" := by
  decide

/-- A word stays one with something in front. -/
theorem IsWord.append_left (ht : IsWord t) (hs : Unblank s) : IsWord (s ++ t) where
  ne_empty h := ht.ne_empty (String.append_eq_empty_iff.1 h).2
  unblank := hs.append ht.unblank

/-- A word stays one with something behind. -/
theorem IsWord.append_right (hs : IsWord s) (ht : Unblank t) : IsWord (s ++ t) where
  ne_empty h := hs.ne_empty (String.append_eq_empty_iff.1 h).1
  unblank := hs.unblank.append ht

/-! ## Trimmed texts -/

/-- A text neither begins nor ends with a blank. -/
structure IsTrimmed (s : String) : Prop where
  head : ∀ c ∈ s.toList.head?, isBlank c = false
  getLast : ∀ c ∈ s.toList.getLast?, isBlank c = false

/-- What is left without leading blanks does not begin with one. -/
theorem isBlank_of_mem_head?_dropBlanks {cs : List Char} :
    ∀ c ∈ (dropBlanks cs).head?, isBlank c = false := by
  intro c hc
  have hhead := List.head?_dropWhile_not isBlank cs
  rw [Option.mem_def, dropBlanks] at hc
  rw [hc] at hhead
  exact hhead

theorem isTrimmed_trim (s : String) : IsTrimmed (trim s) where
  head := by
    intro c hc
    rw [trim, String.toList_ofList] at hc
    obtain ⟨blanks, hcs, -⟩ := exists_dropTrailingBlanks_append (dropBlanks s.toList)
    have hfirst : c ∈ (dropBlanks s.toList).head? := by
      rw [hcs, List.head?_append, Option.mem_def.1 hc]
      rfl
    exact isBlank_of_mem_head?_dropBlanks c hfirst
  getLast := by
    intro c hc
    rw [trim, String.toList_ofList, dropTrailingBlanks, List.getLast?_reverse] at hc
    exact isBlank_of_mem_head?_dropBlanks c hc

/-! ## Trimming at the end -/

/-- A text with no character but blanks. -/
def AllBlank (s : String) : Prop :=
  ∀ c ∈ s.toList, isBlank c = true

instance (s : String) : Decidable (AllBlank s) :=
  decidable_of_iff (s.toList.all isBlank = true) List.all_eq_true

theorem AllBlank.of_subset (ht : AllBlank t) (h : s.toList ⊆ t.toList) : AllBlank s :=
  fun c hc => ht c (h hc)

theorem AllBlank.append (hs : AllBlank s) (ht : AllBlank t) : AllBlank (s ++ t) := by
  intro c hc
  rw [String.toList_append, List.mem_append] at hc
  exact hc.elim (hs c) (ht c)

theorem AllBlank.left (h : AllBlank (s ++ t)) : AllBlank s :=
  h.of_subset (by rw [String.toList_append]; exact List.subset_append_left _ _)

theorem AllBlank.right (h : AllBlank (s ++ t)) : AllBlank t :=
  h.of_subset (by rw [String.toList_append]; exact List.subset_append_right _ _)

/-- A text has a last character, and it is not blank. -/
def EndsVisibly (s : String) : Prop :=
  ∃ c ∈ s.toList.getLast?, isBlank c = false

/-- What ends visibly does so with anything in front. -/
theorem EndsVisibly.append_left (ht : EndsVisibly t) (s : String) : EndsVisibly (s ++ t) := by
  obtain ⟨c, hc, hvisible⟩ := ht
  refine ⟨c, ?_, hvisible⟩
  rw [String.toList_append, List.getLast?_append, Option.mem_def.1 hc]
  rfl

/-- Only blanks are taken away from the end of a text. -/
theorem exists_trimEnd_append (s : String) : ∃ cut, trimEnd s ++ cut = s ∧ AllBlank cut := by
  obtain ⟨blanks, hs, hblanks⟩ := exists_dropTrailingBlanks_append s.toList
  refine ⟨String.ofList blanks, ?_, ?_⟩
  · rw [trimEnd, ← String.ofList_append, ← hs, String.ofList_toList]
  · rwa [AllBlank, String.toList_ofList]

/-- No blank is left at the end. -/
theorem isBlank_of_mem_getLast?_trimEnd : ∀ c ∈ (trimEnd s).toList.getLast?, isBlank c = false := by
  intro c hc
  rw [trimEnd, String.toList_ofList, dropTrailingBlanks, List.getLast?_reverse] at hc
  exact isBlank_of_mem_head?_dropBlanks c hc

/-- A text that is not all blank ends visibly when it is trimmed. -/
theorem endsVisibly_trimEnd (h : ¬ AllBlank s) : EndsVisibly (trimEnd s) := by
  obtain ⟨cut, hs, hcut⟩ := exists_trimEnd_append s
  have hne : (trimEnd s).toList ≠ [] := by
    intro hnil
    rw [String.toList_eq_nil_iff] at hnil
    rw [hnil, String.empty_append] at hs
    exact h (hs ▸ hcut)
  obtain ⟨c, hc⟩ := Option.ne_none_iff_exists'.1 (mt List.getLast?_eq_none_iff.1 hne)
  exact ⟨c, hc, isBlank_of_mem_getLast?_trimEnd c hc⟩

/-- What ends visibly at the beginning of a text is left when blanks are taken away from its end. -/
theorem exists_append_of_endsVisibly {line cut front rest : String} (h : line ++ cut = front ++ rest)
    (hcut : AllBlank cut) (hfront : EndsVisibly front) :
    ∃ more, line = front ++ more ∧ more ++ cut = rest := by
  have hlists := congrArg String.toList h
  rw [String.toList_append, String.toList_append] at hlists
  rcases List.append_eq_append_iff.1 hlists with ⟨extra, hextra, hcut'⟩ | ⟨more, hmore, hrest⟩
  · -- the end of what is left would be cut off
    obtain ⟨c, hc, hvisible⟩ := hfront
    rcases List.eq_nil_or_concat extra with rfl | ⟨extra, c', rfl⟩
    · refine ⟨"", ?_, ?_⟩
      · rw [String.append_empty]
        exact String.toList_injective (by simpa using hextra.symm)
      · rw [String.empty_append]
        exact String.toList_injective (by simpa using hcut')
    · rw [hextra, Option.mem_def] at hc
      have hblank := hcut c (by rw [hcut']; simp_all)
      rw [hvisible] at hblank
      cases hblank
  · refine ⟨String.ofList more, String.toList_injective ?_, String.toList_injective ?_⟩
    · simpa using hmore
    · simpa using hrest.symm

/-- Taking blanks away from the end stops short of what ends visibly. -/
theorem trimEnd_append (hs : EndsVisibly s) (ht : AllBlank t) : trimEnd (s ++ t) = s := by
  obtain ⟨c, hc, hvisible⟩ := hs
  obtain ⟨init, hinit⟩ := List.getLast?_eq_some_iff.1 hc
  have hblank : ∀ c ∈ t.toList.reverse, isBlank c = true :=
    fun c h => ht c (List.mem_reverse.1 h)
  have hlist : dropTrailingBlanks (s ++ t).toList = s.toList := by
    rw [dropTrailingBlanks, dropBlanks, String.toList_append, List.reverse_append,
      List.dropWhile_append_of_pos hblank, hinit, List.reverse_concat,
      List.dropWhile_cons_of_neg (by simp [hvisible]), List.reverse_cons, List.reverse_reverse]
  rw [trimEnd, hlist, String.ofList_toList]

end EntityRelationship.Text
