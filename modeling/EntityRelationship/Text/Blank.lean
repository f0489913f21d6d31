import EntityRelationship.Text.Character

/-!
# Trimming and stripping blanks

Two ways to remove blanks from a text. Trimming removes them at the ends, and gives the part
between the first and the last character that is not blank. Stripping removes all of them, and
gives a text fit to be a name.
-/

namespace EntityRelationship.Text

/-! ## On lists of characters -/

/-- What follows the leading blanks. -/
def dropBlanks (cs : List Char) : List Char :=
  cs.dropWhile isBlank

/-- What precedes the trailing blanks. -/
def dropTrailingBlanks (cs : List Char) : List Char :=
  (dropBlanks cs.reverse).reverse

/-! ## On texts -/

/-- The text without its trailing blanks. -/
def trimEnd (s : String) : String :=
  String.ofList (dropTrailingBlanks s.toList)

/-- The text without the blanks at either end. -/
def trim (s : String) : String :=
  String.ofList (dropTrailingBlanks (dropBlanks s.toList))

/-- The text without any blank. -/
def strip (s : String) : String :=
  String.ofList (s.toList.filter (!isBlank ·))

/-- The first run of characters that are not blank, or `none` in a blank text. -/
def firstWord? (s : String) : Option String :=
  match (dropBlanks s.toList).takeWhile (!isBlank ·) with
  | [] => none
  | w => some (String.ofList w)

/-! ## What trimming removes -/

/-- Only blanks stand before what is left without leading blanks. -/
theorem exists_append_dropBlanks (cs : List Char) :
    ∃ blanks, cs = blanks ++ dropBlanks cs ∧ ∀ c ∈ blanks, isBlank c = true :=
  ⟨cs.takeWhile isBlank, List.takeWhile_append_dropWhile.symm,
    List.all_eq_true.1 List.all_takeWhile⟩

/-- Only blanks stand after what is left without trailing blanks. -/
theorem exists_dropTrailingBlanks_append (cs : List Char) :
    ∃ blanks, cs = dropTrailingBlanks cs ++ blanks ∧ ∀ c ∈ blanks, isBlank c = true := by
  obtain ⟨blanks, hcs, hblanks⟩ := exists_append_dropBlanks cs.reverse
  refine ⟨blanks.reverse, ?_, fun c hc => hblanks c (List.mem_reverse.1 hc)⟩
  rw [dropTrailingBlanks, ← List.reverse_append, ← hcs, List.reverse_reverse]

/-- A text is the trimmed text with blanks around it. -/
theorem exists_trim_eq (s : String) :
    ∃ before after, s.toList = before ++ (trim s).toList ++ after ∧
      (∀ c ∈ before, isBlank c = true) ∧ ∀ c ∈ after, isBlank c = true := by
  obtain ⟨before, hbefore, hblank⟩ := exists_append_dropBlanks s.toList
  obtain ⟨after, hafter, hblank'⟩ := exists_dropTrailingBlanks_append (dropBlanks s.toList)
  refine ⟨before, after, ?_, hblank, hblank'⟩
  rw [trim, String.toList_ofList, List.append_assoc, ← hafter, ← hbefore]

/-! ## What stripping leaves -/

@[simp] theorem toList_strip (s : String) : (strip s).toList = s.toList.filter (!isBlank ·) := by
  simp [strip]

theorem isBlank_of_mem_strip {s : String} {c : Char} (h : c ∈ (strip s).toList) :
    isBlank c = false := by
  rw [toList_strip, List.mem_filter] at h
  exact Bool.not_eq_true' _ |>.mp h.2

@[simp] theorem strip_strip (s : String) : strip (strip s) = strip s := by
  simp [strip]

end EntityRelationship.Text
