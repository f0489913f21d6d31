import EntityRelationship.Proofs.Text.Word

/-!
# Blanks around a text

Trimming undoes padding: it gives back a text that has blanks at neither end, whatever blanks were
put around it, and every text is what trimming gives with such blanks around it.
-/

namespace EntityRelationship.Text

variable {s t : String}

/-- The second text is the first one with blanks around it. -/
def Padded (s t : String) : Prop :=
  ∃ before after, t = before ++ s ++ after ∧ AllBlank before ∧ AllBlank after

theorem allBlank_empty : AllBlank "" :=
  fun _ hc => absurd hc List.not_mem_nil

theorem Padded.refl (s : String) : Padded s s :=
  ⟨"", "", by simp, allBlank_empty, allBlank_empty⟩

/-- A padded text may have more blanks put around it. -/
theorem Padded.trans {u : String} (hst : Padded s t) (htu : Padded t u) : Padded s u := by
  obtain ⟨before, after, rfl, hbefore, hafter⟩ := hst
  obtain ⟨before', after', rfl, hbefore', hafter'⟩ := htu
  refine ⟨before' ++ before, after ++ after', ?_, hbefore'.append hbefore, hafter.append hafter'⟩
  simp only [String.append_assoc]

theorem Padded.exists_toList (h : Padded s t) :
    ∃ before after, t.toList = before ++ s.toList ++ after ∧
      (∀ c ∈ before, isBlank c = true) ∧ ∀ c ∈ after, isBlank c = true := by
  obtain ⟨before, after, rfl, hbefore, hafter⟩ := h
  exact ⟨before.toList, after.toList, by rw [String.toList_append, String.toList_append],
    hbefore, hafter⟩

/-- The blanks around a text bring no other character into it. -/
theorem Padded.not_mem {c : Char} (h : Padded s t) (hc : isBlank c = false) (hs : c ∉ s.toList) :
    c ∉ t.toList := by
  obtain ⟨before, after, ht, hbefore, hafter⟩ := h.exists_toList
  rw [ht, List.mem_append, List.mem_append]
  rintro ((hmem | hmem) | hmem)
  · rw [hbefore c hmem] at hc
    cases hc
  · exact hs hmem
  · rw [hafter c hmem] at hc
    cases hc

/-- A text is the trimmed text with blanks around it. -/
theorem padded_trim (s : String) : Padded (trim s) s := by
  obtain ⟨before, after, hs, hbefore, hafter⟩ := exists_trim_eq s
  refine ⟨String.ofList before, String.ofList after, String.toList_injective ?_, ?_, ?_⟩
  · rw [String.toList_append, String.toList_append, String.toList_ofList, String.toList_ofList, hs]
  · rwa [AllBlank, String.toList_ofList]
  · rwa [AllBlank, String.toList_ofList]

/-! ## Trimming -/

/-- Leading blanks are dropped up to the first character that is not blank. -/
theorem dropBlanks_append {blanks cs : List Char} (hblanks : ∀ c ∈ blanks, isBlank c = true)
    (hcs : ∀ c ∈ cs.head?, isBlank c = false) : dropBlanks (blanks ++ cs) = cs := by
  rw [dropBlanks, List.dropWhile_append_of_pos hblanks]
  cases cs with
  | nil => rfl
  | cons c cs => rw [List.dropWhile_cons_of_neg (by simp [hcs c rfl])]

/-- Trailing blanks are dropped down to the last character that is not blank. -/
theorem dropTrailingBlanks_append {blanks cs : List Char}
    (hblanks : ∀ c ∈ blanks, isBlank c = true) (hcs : ∀ c ∈ cs.getLast?, isBlank c = false) :
    dropTrailingBlanks (cs ++ blanks) = cs := by
  rw [dropTrailingBlanks, List.reverse_append, dropBlanks_append, List.reverse_reverse]
  · exact fun c hc => hblanks c (List.mem_reverse.1 hc)
  · rwa [List.head?_reverse]

/-- Trimming takes away the blanks around a trimmed text. -/
theorem trim_eq_of_padded (h : Padded s t) (hs : IsTrimmed s) : trim t = s := by
  obtain ⟨before, after, rfl, hbefore, hafter⟩ := h
  rw [trim, String.toList_append, String.toList_append, List.append_assoc]
  by_cases hempty : s.toList = []
  · -- nothing but blanks
    have hblank : ∀ c ∈ before.toList ++ after.toList, isBlank c = true := by
      intro c hc
      exact (List.mem_append.1 hc).elim (hbefore c) (hafter c)
    rw [hempty, List.nil_append, ← List.append_nil (before.toList ++ after.toList),
      dropBlanks_append hblank (by simp)]
    exact String.toList_injective (by simpa [dropTrailingBlanks, dropBlanks] using hempty.symm)
  · obtain ⟨c, cs, hc⟩ := List.exists_cons_of_ne_nil hempty
    have hhead : ∀ c ∈ (s.toList ++ after.toList).head?, isBlank c = false := by
      intro c' hc'
      refine hs.head c' ?_
      rw [hc] at hc' ⊢
      exact hc'
    rw [dropBlanks_append hbefore hhead, dropTrailingBlanks_append hafter hs.getLast,
      String.ofList_toList]

/-- A text is trimmed if it begins and ends with trimmed texts that are not empty. -/
theorem IsTrimmed.enclose (hs : IsTrimmed s) (ht : IsTrimmed t) (hs' : s.toList ≠ [])
    (ht' : t.toList ≠ []) (middle : String) : IsTrimmed (s ++ middle ++ t) where
  head := by
    intro c hc
    rw [String.append_assoc, String.toList_append, List.head?_append_of_ne_nil _ hs'] at hc
    exact hs.head c hc
  getLast := by
    intro c hc
    rw [String.toList_append, List.getLast?_append_of_ne_nil _ ht'] at hc
    exact ht.getLast c hc

/-- A text is trimmed if none of its characters is blank. -/
theorem Unblank.isTrimmed (h : Unblank s) : IsTrimmed s where
  head c hc := h c (List.mem_of_mem_head? hc)
  getLast c hc := h c (List.mem_of_mem_getLast? hc)

end EntityRelationship.Text
