/-!
# Parts of a text

A text is cut in two at the first occurrence of a separator. The separator belongs to neither
part, and a text without it is not cut.

A part may be a numeral: a run of decimal digits, with or without a plus sign in front. It is read
only if its value does not exceed a given bound.
-/

namespace EntityRelationship.Text

/-! ## Separators -/

/-- The parts of a list before and after the first occurrence of `sep`, or `none` if it does not
occur. -/
def cutList (sep : List Char) : List Char → Option (List Char × List Char)
  | [] => if sep = [] then some ([], []) else none
  | c :: cs =>
    if sep.isPrefixOf (c :: cs) then some ([], (c :: cs).drop sep.length)
    else (cutList sep cs).map fun parts => (c :: parts.1, parts.2)

/-- The parts of a text before and after the first occurrence of `sep`, or `none` if it does not
occur. -/
def cut (sep s : String) : Option (String × String) :=
  (cutList sep.toList s.toList).map fun parts => (String.ofList parts.1, String.ofList parts.2)

/-- Whether `sep` occurs in the text. -/
def occurs (sep s : String) : Bool :=
  (cutList sep.toList s.toList).isSome

/-- The two parts and the separator between them make up the list. -/
theorem append_of_cutList {sep cs before after : List Char}
    (h : cutList sep cs = some (before, after)) : before ++ sep ++ after = cs := by
  induction cs generalizing before with
  | nil =>
    rw [cutList] at h
    split at h <;> simp_all
  | cons c cs ih =>
    rw [cutList] at h
    split at h
    · next hp =>
      obtain ⟨rest, hrest⟩ := List.isPrefixOf_iff_prefix.1 hp
      simp only [Option.some.injEq, Prod.mk.injEq] at h
      obtain ⟨rfl, rfl⟩ := h
      rw [← hrest]
      simp
    · obtain ⟨⟨b, a⟩, hb, hparts⟩ := Option.map_eq_some_iff.1 h
      simp only [Prod.mk.injEq] at hparts
      obtain ⟨rfl, rfl⟩ := hparts
      simpa using ih hb

/-- The two parts and the separator between them make up the text. -/
theorem append_of_cut {sep s before after : String} (h : cut sep s = some (before, after)) :
    before.toList ++ sep.toList ++ after.toList = s.toList := by
  obtain ⟨⟨b, a⟩, hparts, hsplit⟩ := Option.map_eq_some_iff.1 h
  obtain ⟨rfl, rfl⟩ := Prod.mk.inj hsplit
  rw [String.toList_ofList, String.toList_ofList]
  exact append_of_cutList hparts

/-- What does not contain the first character of the separator is not cut. -/
theorem cutList_append_of_not_mem {c : Char} {sep before : List Char} (h : c ∉ before)
    (cs : List Char) :
    cutList (c :: sep) (before ++ cs) =
      (cutList (c :: sep) cs).map fun parts => (before ++ parts.1, parts.2) := by
  induction before with
  | nil => simp
  | cons b before ih =>
    rw [List.mem_cons, not_or] at h
    have hprefix : (c :: sep).isPrefixOf (b :: (before ++ cs)) = false := by
      simp [List.isPrefixOf, beq_false_of_ne h.1]
    rw [List.cons_append, cutList, hprefix, if_neg Bool.false_ne_true, ih h.2, Option.map_map]
    rfl

/-- A separator does not occur where its first character does not. -/
theorem cutList_eq_none_of_not_mem {c : Char} {sep cs : List Char} (h : c ∉ cs) :
    cutList (c :: sep) cs = none := by
  rw [← List.append_nil cs, cutList_append_of_not_mem h, cutList, if_neg (List.cons_ne_nil c sep)]
  rfl

/-- A list is cut at a separator that starts with a character not met before. -/
theorem cutList_of_not_mem {c : Char} {sep before : List Char} (h : c ∉ before)
    (after : List Char) :
    cutList (c :: sep) (before ++ (c :: sep) ++ after) = some (before, after) := by
  have hprefix : (c :: sep).isPrefixOf (c :: (sep ++ after)) = true :=
    List.isPrefixOf_iff_prefix.2 ⟨after, rfl⟩
  rw [List.append_assoc, cutList_append_of_not_mem h, List.cons_append, cutList, if_pos hprefix]
  simp

/-- There is one way to cut a list at such a separator. -/
theorem eq_of_append_separator {c : Char} {sep before before' after after' : List Char}
    (heq : before ++ (c :: sep) ++ after = before' ++ (c :: sep) ++ after') (h : c ∉ before)
    (h' : c ∉ before') : before = before' ∧ after = after' := by
  have hcut : cutList (c :: sep) (before ++ (c :: sep) ++ after) = some (before, after) :=
    cutList_of_not_mem h after
  rw [heq, cutList_of_not_mem h'] at hcut
  obtain ⟨rfl, rfl⟩ := Prod.mk.inj (Option.some.inj hcut)
  exact ⟨rfl, rfl⟩

/-- A text is cut at a separator that starts with a character not met before. -/
theorem cut_of_not_mem {c : Char} {cs : List Char} {sep before : String}
    (hsep : sep.toList = c :: cs) (h : c ∉ before.toList) (after : String) :
    cut sep (before ++ sep ++ after) = some (before, after) := by
  rw [cut, String.toList_append, String.toList_append, hsep, cutList_of_not_mem h, Option.map_some,
    String.ofList_toList, String.ofList_toList]

/-- A separator of one character does not occur before the place where a list is cut. -/
theorem not_mem_of_cutList {c : Char} {cs before after : List Char}
    (h : cutList [c] cs = some (before, after)) : c ∉ before := by
  induction cs generalizing before with
  | nil =>
    rw [cutList, if_neg (List.cons_ne_nil c [])] at h
    cases h
  | cons d cs ih =>
    rw [cutList] at h
    split at h
    · next hprefix =>
      obtain ⟨rfl, -⟩ := Prod.mk.inj (Option.some.inj h)
      exact List.not_mem_nil
    · next hprefix =>
      obtain ⟨⟨b, a⟩, hb, hparts⟩ := Option.map_eq_some_iff.1 h
      obtain ⟨rfl, rfl⟩ := Prod.mk.inj hparts
      rw [List.mem_cons, not_or]
      refine ⟨fun hcd => hprefix ?_, ih hb⟩
      simp [List.isPrefixOf, hcd]

/-- The text with every occurrence of a character replaced by a text. -/
def replaceChar (old : Char) (new s : String) : String :=
  String.ofList (s.toList.flatMap fun c => if c = old then new.toList else [c])

/-! ## Numerals -/

/-- The value of a decimal digit. -/
def digitValue (c : Char) : Nat :=
  c.toNat - '0'.toNat

/-- The value of a list of decimal digits, the most significant first. -/
def decimalValue (digits : List Char) : Nat :=
  digits.foldl (fun n c => 10 * n + digitValue c) 0

/-- The digits of a numeral: what follows an optional plus sign. -/
def unsigned : List Char → List Char
  | '+' :: digits => digits
  | digits => digits

/-- Reads a numeral whose value is at most `bound`. -/
def numeral? (bound : Nat) (s : String) : Option Nat :=
  let digits := unsigned s.toList
  if digits ≠ [] ∧ digits.all Char.isDigit ∧ decimalValue digits ≤ bound then
    some (decimalValue digits)
  else none

/-- What is read does not exceed the bound. -/
theorem numeral?_le {bound n : Nat} {s : String} (h : numeral? bound s = some n) : n ≤ bound := by
  simp only [numeral?] at h
  split at h
  · next hd =>
    obtain rfl := Option.some.inj h
    exact hd.2.2
  · simp at h

/-- Numbers that are written alike are the same, for the digits give back the number. -/
theorem repr_inj {m n : Nat} (h : m.repr = n.repr) : m = n := by
  have hdigits : Nat.toDigits 10 m = Nat.toDigits 10 n := by
    rw [← Nat.toList_repr, ← Nat.toList_repr, h]
  rw [← Nat.ofDigitChars_ten_toDigits (n := m), hdigits, Nat.ofDigitChars_ten_toDigits]

end EntityRelationship.Text
