import EntityRelationship.Text.Table.Alphanumeric
import EntityRelationship.Text.Table.Cased
import EntityRelationship.Text.Table.Hidden
import EntityRelationship.Text.Table.Width

/-!
# Classes of characters

The properties of single characters that scripts, names and reports depend on: which characters
are blank, which may stand in an identifier, which have a case, and how many terminal columns
one takes. The larger classes are given by tables of code point ranges.

A message shows a text in quotation marks, with an escape in place of every character that would
not show or would end the quotation.
-/

namespace EntityRelationship.Text

/-- Whether a code point lies in one of the closed ranges. -/
def inRanges (ranges : List (Nat × Nat)) (n : Nat) : Bool :=
  ranges.any fun r => r.1 ≤ n && n ≤ r.2

theorem inRanges_iff {ranges : List (Nat × Nat)} {n : Nat} :
    inRanges ranges n = true ↔ ∃ r ∈ ranges, r.1 ≤ n ∧ n ≤ r.2 := by
  simp [inRanges]

/-! ## Blanks -/

/-- The closed ranges of code points that count as blank: the line and tabulation controls, the
spaces, and the line and paragraph separators. A zero-width space and a byte order mark are not
blank. -/
def blankRanges : List (Nat × Nat) :=
  [(0x20, 0x20), (0x09, 0x0D), (0x85, 0x85), (0xA0, 0xA0), (0x1680, 0x1680), (0x2000, 0x200A),
    (0x2028, 0x2029), (0x202F, 0x202F), (0x205F, 0x205F), (0x3000, 0x3000)]

/-- Whether a character is blank. -/
def isBlank (c : Char) : Bool :=
  inRanges blankRanges c.toNat

/-- A digit is not blank. -/
theorem isBlank_of_isDigit {c : Char} (h : c.isDigit = true) : isBlank c = false := by
  have hrange : 48 ≤ c.toNat ∧ c.toNat ≤ 57 := Char.isDigit_iff_toNat.1 h
  simp only [isBlank, inRanges, blankRanges, List.any_eq_false, Bool.and_eq_true,
    decide_eq_true_eq, List.mem_cons, List.not_mem_nil, or_false]
  rintro r (rfl | rfl | rfl | rfl | rfl | rfl | rfl | rfl | rfl | rfl) <;> omega

/-! ## Letters and numbers -/

/-- Whether a character is alphabetic or numeric, in any script. -/
def isAlphanumeric (c : Char) : Bool :=
  inRanges alphanumericRanges c.toNat

/-! ## Case -/

/-- Whether a character has a case: whether it is an upper-case, lower-case or title-case one. -/
def isCased (c : Char) : Bool :=
  inRanges casedRanges c.toNat

/-- Whether a character is passed over when the case of the characters around it is sought, as
an apostrophe or a combining mark is. -/
def isCaseIgnorable (c : Char) : Bool :=
  inRanges caseIgnorableRanges c.toNat

/-! ## Width -/

/-- The number of terminal columns a character takes by itself: none for a combining or invisible
character, two for a wide one, three for the Khmer sign beyyal, and one for any other. -/
def charWidth (c : Char) : Nat :=
  if c.toNat < 0x7F then 1
  else if inRanges zeroWidthRanges c.toNat then 0
  else if inRanges wideRanges c.toNat then 2
  else if c = '\u17D8' then 3
  else 1

@[simp] theorem charWidth_space : charWidth ' ' = 1 := rfl

/-! ## Showing -/

/-- The hexadecimal digits of a number, in lower case and without leading zeros. -/
def hexDigits (n : Nat) : String :=
  String.ofList (Nat.toDigits 16 n)

/-- A character as a message shows it. -/
def showChar (c : Char) : String :=
  if c = '\x00' then "\\0"
  else if c = '\t' then "\\t"
  else if c = '\n' then "\\n"
  else if c = '\r' then "\\r"
  else if c = '"' then "\\\""
  else if c = '\\' then "\\\\"
  else if inRanges hiddenRanges c.toNat then "\\u\x7b" ++ hexDigits c.toNat ++ "\x7d"
  else c.toString

/-- A text as a message shows it. -/
def showQuoted (s : String) : String :=
  "\"" ++ String.join (s.toList.map showChar) ++ "\""

end EntityRelationship.Text
