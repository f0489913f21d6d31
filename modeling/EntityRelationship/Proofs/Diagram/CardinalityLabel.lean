import EntityRelationship.Diagram.Cardinality
import EntityRelationship.Proofs.Text.Padding

/-!
# Cardinality labels

A cardinality label gives two bounds, with two dots between them. Blanks may stand around either
bound and around the whole, and the bounds may be in one pair of parentheses. A lower bound is a
numeral, and an upper bound is a numeral or the letter `N`.

A participation is read from a label exactly if the label gives its bounds in this way and they are
in range. In particular every participation that is in range is read from what is written for it,
and what is read is in range.
-/

namespace EntityRelationship

/-! ## Numerals -/

namespace Text

variable {s : String} {m n bound : Nat}

/-- A text is a numeral of a number: it consists of decimal digits of that value, with or without a
plus sign in front. -/
def IsNumeral (s : String) (n : Nat) : Prop :=
  ∃ digits, (s.toList = digits ∨ s.toList = '+' :: digits) ∧ digits ≠ [] ∧
    (∀ c ∈ digits, c.isDigit = true) ∧ decimalValue digits = n

/-- The digits of a numeral are what is left without its plus sign. -/
theorem unsigned_of_eq {digits : List Char} (hs : s.toList = digits ∨ s.toList = '+' :: digits)
    (hdigits : ∀ c ∈ digits, c.isDigit = true) : unsigned s.toList = digits := by
  rcases hs with hs | hs
  · rw [hs]
    unfold unsigned
    split
    · exact absurd (hdigits '+' List.mem_cons_self) (by decide)
    · rfl
  · rw [hs, unsigned]

theorem eq_or_eq_cons_unsigned (cs : List Char) : cs = unsigned cs ∨ cs = '+' :: unsigned cs := by
  unfold unsigned
  split
  · exact .inr rfl
  · exact .inl rfl

/-- A number is read from its numerals if it does not exceed the bound. -/
theorem numeral?_eq_some_iff : numeral? bound s = some n ↔ IsNumeral s n ∧ n ≤ bound := by
  constructor
  · intro h
    refine ⟨?_, numeral?_le h⟩
    simp only [numeral?] at h
    split at h
    · next hd =>
      obtain ⟨hne, hdigits, -⟩ := hd
      exact ⟨unsigned s.toList, eq_or_eq_cons_unsigned _, hne, List.all_eq_true.1 hdigits,
        Option.some.inj h⟩
    · cases h
  · rintro ⟨⟨digits, hs, hne, hdigits, rfl⟩, hle⟩
    have hunsigned := unsigned_of_eq hs hdigits
    rw [numeral?, hunsigned]
    exact if_pos ⟨hne, List.all_eq_true.2 hdigits, hle⟩

/-- A numeral has one value. -/
theorem IsNumeral.unique (hm : IsNumeral s m) (hn : IsNumeral s n) : m = n := by
  obtain ⟨digits, hs, -, hdigits, rfl⟩ := hm
  obtain ⟨digits', hs', -, hdigits', rfl⟩ := hn
  rw [← unsigned_of_eq hs hdigits, unsigned_of_eq hs' hdigits']

theorem IsNumeral.ne_nil (h : IsNumeral s n) : s.toList ≠ [] := by
  obtain ⟨digits, hs, hne, -, -⟩ := h
  rcases hs with hs | hs
  · rwa [hs]
  · rw [hs]
    exact List.cons_ne_nil _ _

/-- Only digits and a plus sign stand in a numeral. -/
theorem IsNumeral.chars (h : IsNumeral s n) : ∀ c ∈ s.toList, c = '+' ∨ c.isDigit = true := by
  obtain ⟨digits, hs, -, hdigits, -⟩ := h
  intro c hc
  rcases hs with hs | hs
  · exact .inr (hdigits c (hs ▸ hc))
  · rw [hs, List.mem_cons] at hc
    exact hc.imp_right (hdigits c)

theorem IsNumeral.N_not_mem (h : IsNumeral s n) : 'N' ∉ s.toList :=
  fun hN => absurd (h.chars 'N' hN) (by decide)

theorem not_isNumeral_N : ¬ IsNumeral "N" n :=
  fun h => h.N_not_mem (by decide)

/-- What is written for a number is a numeral of it. -/
theorem isNumeral_toString (n : Nat) : IsNumeral (toString n) n := by
  refine ⟨Nat.toDigits 10 n, .inl ?_, Nat.toDigits_ne_nil, fun c hc => ?_,
    Nat.ofDigitChars_ten_toDigits⟩
  · rw [Nat.toString_eq_repr, Nat.toList_repr]
  · exact Nat.isDigit_of_mem_toDigits (by omega) (by omega) hc

end Text

namespace Participation

open Text (Padded IsNumeral)

variable {label low high s : String} {p : Participation}

/-! ## The grammar of labels -/

/-- A text gives an upper bound. -/
def IsUpperBound (s : String) : Option Nat → Prop
  | none => s = "N"
  | some m => IsNumeral s m

/-- A label gives two bounds, bare or in parentheses. -/
inductive Gives (low high : String) : String → Prop
  | bare {l h label : String} (hlow : Padded low l) (hhigh : Padded high h)
    (hlabel : Padded (l ++ ".." ++ h) label) : Gives low high label
  | enclosed {l h label : String} (hlow : Padded low l) (hhigh : Padded high h)
    (hlabel : Padded ("(" ++ (l ++ ".." ++ h) ++ ")") label) : Gives low high label

/-- The bounds of a participation do not exceed the greatest number that a label may give, and an
upper bound is at least one and at least the lower bound. -/
structure InRange (p : Participation) : Prop where
  min_le : p.min ≤ greatest
  max_le : ∀ m ∈ p.max, m ≤ greatest
  pos : ∀ m ∈ p.max, 1 ≤ m
  min_le_max : ∀ m ∈ p.max, p.min ≤ m

/-! ## Texts of bounds -/

/-- Whether a character may stand in a bound. -/
def isBoundChar (c : Char) : Bool :=
  c == '+' || c == 'N' || c.isDigit

/-- A text that is not empty and in which only characters of bounds stand. -/
structure IsBoundText (s : String) : Prop where
  ne_nil : s.toList ≠ []
  chars : ∀ c ∈ s.toList, isBoundChar c = true

theorem isBoundText_of_isNumeral {n : Nat} (h : IsNumeral s n) : IsBoundText s where
  ne_nil := h.ne_nil
  chars c hc := by
    rcases h.chars c hc with rfl | hdigit
    · decide
    · rw [isBoundChar, hdigit, Bool.or_true]

theorem IsUpperBound.isBoundText {m : Option Nat} (h : IsUpperBound s m) : IsBoundText s := by
  cases m with
  | none =>
    obtain rfl : s = "N" := h
    exact ⟨by decide, List.all_eq_true.1 (by decide)⟩
  | some m => exact isBoundText_of_isNumeral h

theorem isBlank_of_isBoundChar {c : Char} (h : isBoundChar c = true) : Text.isBlank c = false := by
  simp only [isBoundChar, Bool.or_eq_true, beq_iff_eq] at h
  rcases h with (rfl | rfl) | h
  · decide
  · decide
  · exact Text.isBlank_of_isDigit h

/-- There is no blank in a bound. -/
theorem IsBoundText.isTrimmed (h : IsBoundText s) : Text.IsTrimmed s :=
  Text.Unblank.isTrimmed fun c hc => isBlank_of_isBoundChar (h.chars c hc)

theorem IsBoundText.not_mem {c : Char} (h : IsBoundText s) (hc : isBoundChar c = false) :
    c ∉ s.toList := by
  intro hmem
  rw [h.chars c hmem] at hc
  cases hc

/-- The upper bounds that are read. -/
theorem max?_eq_some_iff {m : Option Nat} :
    max? s = some m ↔ IsUpperBound s m ∧ ∀ k ∈ m, k ≤ greatest := by
  unfold max?
  split
  · next hs =>
    cases m with
    | none => simpa [IsUpperBound] using hs
    | some k =>
      simp only [Option.some.injEq, reduceCtorEq, false_iff]
      rintro ⟨h, -⟩
      exact Text.not_isNumeral_N (hs ▸ h)
  · next hs =>
    cases m with
    | none => simpa [IsUpperBound] using hs
    | some k => simp [IsUpperBound, Text.numeral?_eq_some_iff]

/-! ## Inside a label -/

theorem toList_enclosed (s : String) : ("(" ++ s ++ ")").toList = '(' :: (s.toList ++ [')']) := by
  rw [String.toList_append, String.toList_append]
  rfl

/-- The parentheses are removed from around a list. -/
theorem unwrap_enclosed (cs : List Char) : unwrap ('(' :: (cs ++ [')'])) = cs := by
  rw [unwrap, if_pos List.getLast?_concat, List.dropLast_concat]

/-- A list that does not start with a parenthesis is left alone. -/
theorem unwrap_of_head {cs : List Char} (h : cs.head? ≠ some '(') : unwrap cs = cs := by
  unfold unwrap
  split
  · exact absurd rfl h
  · rfl

/-- A list is left alone unless it is in parentheses. -/
theorem eq_or_eq_unwrap (cs : List Char) : cs = unwrap cs ∨ cs = '(' :: (unwrap cs ++ [')']) := by
  unfold unwrap
  split
  · next cs =>
    split
    · next hlast => exact .inr (by rw [List.dropLast_append_getLast? _ hlast])
    · exact .inl rfl
  · exact .inl rfl

/-- What is inside the blanks and the parentheses of a label. -/
def inner (label : String) : String :=
  String.ofList (unwrap (Text.trim label).toList)

/-- A label is what is inside it, perhaps in parentheses, with blanks around. -/
theorem padded_inner (label : String) :
    Padded (inner label) label ∨ Padded ("(" ++ inner label ++ ")") label := by
  have htrim := Text.padded_trim label
  rcases eq_or_eq_unwrap (Text.trim label).toList with h | h
  · left
    rwa [inner, ← h, String.ofList_toList]
  · right
    have henclosed : "(" ++ inner label ++ ")" = Text.trim label := by
      refine String.toList_injective ?_
      rw [toList_enclosed, inner, String.toList_ofList, ← h]
    rwa [henclosed]

/-- The two parts of a label that gives two bounds are these bounds with blanks around them. -/
theorem Gives.exists_cut_inner (h : Gives low high label) (hlow : IsBoundText low)
    (hhigh : IsBoundText high) :
    ∃ l r, Text.cut ".." (inner label) = some (l, r) ∧ Padded low l ∧ Padded high r := by
  have hdot : '.' ∉ low.toList := hlow.not_mem (by decide)
  have hdots : "..".toList = ['.', '.'] := rfl
  cases h with
  | @bare l r _ hl hr hlabel =>
    -- the first and the last blanks are those of the label
    obtain ⟨before, after, rfl, hbefore, hafter⟩ := hl
    obtain ⟨before', after', rfl, hbefore', hafter'⟩ := hr
    have hpadded : Padded (low ++ (after ++ ".." ++ before') ++ high) label := by
      refine Padded.trans ⟨before, after', ?_, hbefore, hafter'⟩ hlabel
      simp only [String.append_assoc]
    have hhead : (low ++ (after ++ ".." ++ before') ++ high).toList.head? ≠ some '(' := by
      rw [String.append_assoc, String.toList_append, List.head?_append_of_ne_nil _ hlow.ne_nil]
      exact fun hc => hlow.not_mem (by decide) (List.mem_of_head? hc)
    have hinner : inner label = low ++ after ++ ".." ++ (before' ++ high) := by
      rw [inner, Text.trim_eq_of_padded hpadded
        (hlow.isTrimmed.enclose hhigh.isTrimmed hlow.ne_nil hhigh.ne_nil _),
        unwrap_of_head hhead, String.ofList_toList]
      simp only [String.append_assoc]
    have hlow' : Padded low (low ++ after) := ⟨"", after, by simp, Text.allBlank_empty, hafter⟩
    have hhigh' : Padded high (before' ++ high) := ⟨before', "", by simp, hbefore',
      Text.allBlank_empty⟩
    refine ⟨_, _, ?_, hlow', hhigh'⟩
    rw [hinner, Text.cut_of_not_mem hdots (hlow'.not_mem (by decide) hdot)]
  | @enclosed l r _ hl hr hlabel =>
    have htrimmed : Text.IsTrimmed ("(" ++ (l ++ ".." ++ r) ++ ")") :=
      Text.IsTrimmed.enclose (Text.Unblank.isTrimmed (by decide))
        (Text.Unblank.isTrimmed (by decide)) (by decide) (by decide) _
    have hinner : inner label = l ++ ".." ++ r := by
      rw [inner, Text.trim_eq_of_padded hlabel htrimmed, toList_enclosed, unwrap_enclosed,
        String.ofList_toList]
    refine ⟨l, r, ?_, hl, hr⟩
    rw [hinner, Text.cut_of_not_mem hdots (hl.not_mem (by decide) hdot)]

/-! ## Reading a label -/

/-- A participation is read from a label exactly if it is in range and the label gives its
bounds. -/
theorem parse?_eq_some_iff :
    parse? label = some p ↔ p.InRange ∧
      ∃ low high, Gives low high label ∧ IsNumeral low p.min ∧ IsUpperBound high p.max := by
  constructor
  · intro h
    simp only [parse?, Option.bind_eq_bind, Option.bind_eq_some_iff, Prod.exists] at h
    obtain ⟨l, r, hcut, min, hmin, max, hmax, h⟩ := h
    split at h
    · next hall =>
      obtain rfl := Option.some.inj h
      have hrange : ∀ m ∈ max, 1 ≤ m ∧ min ≤ m := by
        intro m hm
        have hm' := (Option.all_eq_true _ _).1 hall m hm
        rwa [Bool.and_eq_true, decide_eq_true_eq, decide_eq_true_eq] at hm'
      obtain ⟨hlow, hle⟩ := Text.numeral?_eq_some_iff.1 hmin
      obtain ⟨hhigh, hle'⟩ := max?_eq_some_iff.1 hmax
      have hinner : inner label = l ++ ".." ++ r := by
        refine String.toList_injective ?_
        rw [String.toList_append, String.toList_append]
        exact (Text.append_of_cut hcut).symm
      refine ⟨⟨hle, hle', fun m hm => (hrange m hm).1, fun m hm => (hrange m hm).2⟩,
        Text.trim l, Text.trim r, ?_, hlow, hhigh⟩
      rcases padded_inner label with hlabel | hlabel
      · exact .bare (Text.padded_trim l) (Text.padded_trim r) (hinner ▸ hlabel)
      · exact .enclosed (Text.padded_trim l) (Text.padded_trim r) (hinner ▸ hlabel)
    · cases h
  · rintro ⟨hrange, low, high, hgives, hlow, hhigh⟩
    have hlow' := isBoundText_of_isNumeral hlow
    have hhigh' := hhigh.isBoundText
    obtain ⟨l, r, hcut, hl, hr⟩ := hgives.exists_cut_inner hlow' hhigh'
    have hmin : Text.numeral? greatest (Text.trim l) = some p.min := by
      rw [Text.trim_eq_of_padded hl hlow'.isTrimmed]
      exact Text.numeral?_eq_some_iff.2 ⟨hlow, hrange.min_le⟩
    have hmax : max? (Text.trim r) = some p.max := by
      rw [Text.trim_eq_of_padded hr hhigh'.isTrimmed]
      exact max?_eq_some_iff.2 ⟨hhigh, hrange.max_le⟩
    have hbounds : (p.max.all fun m => 1 ≤ m && p.min ≤ m) = true := by
      rw [Option.all_eq_true]
      intro m hm
      rw [Bool.and_eq_true, decide_eq_true_eq, decide_eq_true_eq]
      exact ⟨hrange.pos m hm, hrange.min_le_max m hm⟩
    rw [inner] at hcut
    simp only [parse?, hcut, hmin, hmax, Option.bind_eq_bind, Option.bind_some, if_pos hbounds]

/-! ## Bounds out of range -/

/-- Whether a character may stand around a bound. -/
def isSpacing (c : Char) : Bool :=
  Text.isBlank c || c == '(' || c == ')'

theorem isSpacing_of_isBlank {c : Char} (h : Text.isBlank c = true) : isSpacing c = true := by
  rw [isSpacing, h, Bool.true_or, Bool.true_or]

theorem isBoundChar_of_isSpacing {c : Char} (h : isSpacing c = true) : isBoundChar c = false := by
  rw [← Bool.not_eq_true]
  intro hbound
  simp only [isSpacing, isBlank_of_isBoundChar hbound, Bool.or_eq_true, beq_iff_eq,
    Bool.false_eq_true, false_or] at h
  rcases h with rfl | rfl
  · revert hbound
    decide
  · revert hbound
    decide

/-- A list is a text with blanks and parentheses around it. -/
def Spaced (s : String) (cs : List Char) : Prop :=
  ∃ before after, cs = before ++ s.toList ++ after ∧
    (∀ c ∈ before, isSpacing c = true) ∧ ∀ c ∈ after, isSpacing c = true

/-- A bound is what is left of a list without the blanks and parentheses around it. -/
theorem Spaced.filter_eq {cs : List Char} (h : Spaced s cs) (hs : IsBoundText s) :
    cs.filter isBoundChar = s.toList := by
  have hnil {ds : List Char} (hds : ∀ c ∈ ds, isSpacing c = true) : ds.filter isBoundChar = [] := by
    rw [List.filter_eq_nil_iff]
    intro c hc
    rw [isBoundChar_of_isSpacing (hds c hc)]
    exact Bool.false_ne_true
  obtain ⟨before, after, rfl, hbefore, hafter⟩ := h
  rw [List.filter_append, List.filter_append, hnil hbefore, hnil hafter,
    List.filter_eq_self.2 hs.chars, List.nil_append, List.append_nil]

theorem Spaced.not_mem {c : Char} {cs : List Char} (h : Spaced s cs) (hc : isSpacing c = false)
    (hs : c ∉ s.toList) : c ∉ cs := by
  obtain ⟨before, after, rfl, hbefore, hafter⟩ := h
  simp only [List.mem_append, not_or]
  refine ⟨⟨fun hmem => ?_, hs⟩, fun hmem => ?_⟩
  · rw [hbefore c hmem] at hc
    cases hc
  · rw [hafter c hmem] at hc
    cases hc

/-- A label that gives two bounds has two dots in it, with one bound on either side and only blanks
and parentheses besides. Between the dots and the upper bound there are only blanks. -/
theorem Gives.exists_dots (h : Gives low high label) :
    ∃ front blanks rest, label.toList = front ++ ['.', '.'] ++ (blanks ++ high.toList ++ rest) ∧
      Spaced low front ∧ Spaced high (blanks ++ high.toList ++ rest) ∧
        ∀ c ∈ blanks, Text.isBlank c = true := by
  have hdots : "..".toList = ['.', '.'] := rfl
  have hspacing {cs : List Char} (hcs : ∀ c ∈ cs, Text.isBlank c = true) :
      ∀ c ∈ cs, isSpacing c = true := fun c hc => isSpacing_of_isBlank (hcs c hc)
  cases h with
  | bare hlow hhigh hlabel =>
    obtain ⟨b, a, hl, hb, ha⟩ := hlabel.exists_toList
    obtain ⟨b₁, a₁, hl₁, hb₁, ha₁⟩ := hlow.exists_toList
    obtain ⟨b₂, a₂, hl₂, hb₂, ha₂⟩ := hhigh.exists_toList
    refine ⟨b ++ b₁ ++ low.toList ++ a₁, b₂, a₂ ++ a, ?_,
      ⟨b ++ b₁, a₁, rfl, hspacing ?_, hspacing ha₁⟩,
      ⟨b₂, a₂ ++ a, rfl, hspacing hb₂, hspacing ?_⟩, hb₂⟩
    · rw [hl, String.toList_append, String.toList_append, hl₁, hl₂, hdots]
      simp only [List.append_assoc]
    · exact List.forall_mem_append.2 ⟨hb, hb₁⟩
    · exact List.forall_mem_append.2 ⟨ha₂, ha⟩
  | enclosed hlow hhigh hlabel =>
    obtain ⟨b, a, hl, hb, ha⟩ := hlabel.exists_toList
    obtain ⟨b₁, a₁, hl₁, hb₁, ha₁⟩ := hlow.exists_toList
    obtain ⟨b₂, a₂, hl₂, hb₂, ha₂⟩ := hhigh.exists_toList
    refine ⟨b ++ '(' :: b₁ ++ low.toList ++ a₁, b₂, a₂ ++ ')' :: a, ?_,
      ⟨b ++ '(' :: b₁, a₁, rfl, ?_, hspacing ha₁⟩,
      ⟨b₂, a₂ ++ ')' :: a, rfl, hspacing hb₂, ?_⟩, hb₂⟩
    · rw [hl, toList_enclosed, String.toList_append, String.toList_append, hl₁, hl₂, hdots]
      simp only [List.append_assoc, List.cons_append, List.nil_append]
    · exact List.forall_mem_append.2 ⟨hspacing hb,
        List.forall_mem_cons.2 ⟨by decide, hspacing hb₁⟩⟩
    · exact List.forall_mem_append.2 ⟨hspacing ha₂,
        List.forall_mem_cons.2 ⟨by decide, hspacing ha⟩⟩

/-- A label gives one pair of bounds at most. -/
theorem Gives.low_unique {low' high' : String} (h : Gives low high label)
    (h' : Gives low' high' label) (hlow : IsBoundText low) (hlow' : IsBoundText low') :
    low = low' := by
  obtain ⟨front, _, _, hlabel, hfront, -⟩ := h.exists_dots
  obtain ⟨front', _, _, hlabel', hfront', -⟩ := h'.exists_dots
  have hdot : '.' ∉ front := hfront.not_mem (by decide) (hlow.not_mem (by decide))
  have hdot' : '.' ∉ front' := hfront'.not_mem (by decide) (hlow'.not_mem (by decide))
  obtain ⟨rfl, -⟩ := Text.eq_of_append_separator (hlabel.symm.trans hlabel') hdot hdot'
  exact String.toList_injective ((hfront.filter_eq hlow).symm.trans (hfront'.filter_eq hlow'))

theorem Gives.high_unique {low' high' : String} (h : Gives low high label)
    (h' : Gives low' high' label) (hhigh : IsBoundText high) (hhigh' : IsBoundText high') :
    high = high' := by
  obtain ⟨front, blanks, rest, hlabel, -, hback, -⟩ := h.exists_dots
  obtain ⟨front', blanks', rest', hlabel', -, hback', -⟩ := h'.exists_dots
  have hdot := hback.not_mem (c := '.') (by decide) (hhigh.not_mem (by decide))
  have hdot' := hback'.not_mem (c := '.') (by decide) (hhigh'.not_mem (by decide))
  generalize blanks ++ high.toList ++ rest = back at *
  generalize blanks' ++ high'.toList ++ rest' = back' at *
  -- seen from the end of the label, the dots come after the upper bound
  have hreverse : back.reverse ++ ['.', '.'] ++ front.reverse =
      back'.reverse ++ ['.', '.'] ++ front'.reverse := by
    have hlists := congrArg List.reverse (hlabel.symm.trans hlabel')
    simpa using hlists
  obtain ⟨hbacks, -⟩ := Text.eq_of_append_separator hreverse (mt List.mem_reverse.1 hdot)
    (mt List.mem_reverse.1 hdot')
  obtain rfl := List.reverse_injective hbacks
  exact String.toList_injective ((hback.filter_eq hhigh).symm.trans (hback'.filter_eq hhigh'))

/-- A label is not read if a numeral in it exceeds the greatest number that a label may give. -/
theorem parse?_eq_none_of_exceeds {n : Nat} (h : Gives low high label) (hn : greatest < n)
    (hnumeral : IsNumeral low n ∨ IsNumeral high n) : parse? label = none := by
  rw [Option.eq_none_iff_forall_ne_some]
  intro p hp
  obtain ⟨hrange, low', high', h', hlow', hhigh'⟩ := parse?_eq_some_iff.1 hp
  rcases hnumeral with hlow | hhigh
  · obtain rfl := h.low_unique h' (isBoundText_of_isNumeral hlow) (isBoundText_of_isNumeral hlow')
    have hmin := hrange.min_le
    rw [hlow'.unique hlow] at hmin
    omega
  · obtain rfl := h.high_unique h' (isBoundText_of_isNumeral hhigh) hhigh'.isBoundText
    cases hmax : p.max with
    | none =>
      rw [hmax] at hhigh'
      obtain rfl : high = "N" := hhigh'
      exact absurd hhigh Text.not_isNumeral_N
    | some m =>
      rw [hmax] at hhigh'
      have hle := hrange.max_le m hmax
      rw [IsNumeral.unique hhigh' hhigh] at hle
      omega

/-! ## Labels and participations -/

/-- What is written for a participation gives its bounds. -/
theorem gives_text (p : Participation) : Gives (toString p.min) (maxText p.max) p.text := by
  have htext : p.text = "(" ++ (toString p.min ++ ".." ++ maxText p.max) ++ ")" := by
    simp only [text, String.append_assoc]
    rfl
  rw [htext]
  exact .enclosed (.refl _) (.refl _) (.refl _)

theorem isUpperBound_maxText (m : Option Nat) : IsUpperBound (maxText m) m := by
  cases m with
  | none => rfl
  | some m => exact Text.isNumeral_toString m

/-- A participation in range is read from every label that gives its bounds. -/
theorem parse?_of_gives (hrange : p.InRange)
    (h : Gives (toString p.min) (maxText p.max) label) : parse? label = some p :=
  parse?_eq_some_iff.2 ⟨hrange, _, _, h, Text.isNumeral_toString p.min,
    isUpperBound_maxText p.max⟩

/-- Labels give back what was written. A participation in range is read from its two bounds, with
or without parentheses and with blanks around either bound and around the label; what is read from
any label is in range, and is read again from what is written for it; and a label whose lower or
upper numeral exceeds the greatest number is not read. -/
theorem parse?_written :
    (∀ p : Participation, p.InRange → ∀ label,
      Gives (toString p.min) (maxText p.max) label → parse? label = some p) ∧
    (∀ label p, parse? label = some p → p.InRange ∧ parse? p.text = some p) ∧
    ∀ label low high n, Gives low high label → greatest < n →
      IsNumeral low n ∨ IsNumeral high n → parse? label = none := by
  refine ⟨fun p hrange label h => parse?_of_gives hrange h, fun label p h => ?_,
    fun label low high n h hn hnumeral => parse?_eq_none_of_exceeds h hn hnumeral⟩
  obtain ⟨hrange, -⟩ := parse?_eq_some_iff.1 h
  exact ⟨hrange, parse?_of_gives hrange p.gives_text⟩

theorem parse?_written_limits :
    InRange ⟨2, some 4294967295⟩ ∧
      parse? "\t( 2 ..\u00A04294967295 )\n" = some ⟨2, some 4294967295⟩ ∧
      parse? " +007.. N" = some ⟨7, none⟩ ∧ parse? (text ⟨7, none⟩) = some ⟨7, none⟩ ∧
      greatest < 4294967296 ∧ IsNumeral "04294967296" 4294967296 ∧
      parse? "(1..04294967296 )" = none := by
  obtain ⟨hread, hwritten, hexceeds⟩ := parse?_written
  have hrange : InRange ⟨2, some 4294967295⟩ :=
    ⟨by decide, by simp [greatest], by simp, by simp⟩
  have hgives : Gives (toString 2) (maxText (some 4294967295)) "\t( 2 ..\u00A04294967295 )\n" :=
    .enclosed ⟨" ", " ", rfl, by decide, by decide⟩ ⟨"\u00A0", " ", rfl, by decide, by decide⟩
      ⟨"\t", "\n", by decide +kernel, by decide, by decide⟩
  have hspaced : parse? " +007.. N" = some ⟨7, none⟩ := by decide +kernel
  have hnumeral : IsNumeral "04294967296" 4294967296 :=
    ⟨"04294967296".toList, .inl rfl, by decide, List.all_eq_true.1 (by decide), by decide +kernel⟩
  have hlarge : Gives "1" "04294967296" "(1..04294967296 )" :=
    .enclosed (.refl _) ⟨"", " ", rfl, by decide, by decide⟩ (.refl _)
  exact ⟨hrange, hread _ hrange _ hgives, hspaced, (hwritten _ _ hspaced).2, by decide, hnumeral,
    hexceeds _ _ _ _ hlarge (by decide) (.inr hnumeral)⟩

end Participation

end EntityRelationship
