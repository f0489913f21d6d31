import EntityRelationship.Text.Cluster

/-!
# Display width

The number of terminal columns of a text, and padding with spaces up to a wanted width. The text is
measured from its end, each character in the context of those behind it, so the width is in general
not the sum over the characters. It is a sum across a space: a space never combines with its
neighbors.
-/

namespace EntityRelationship.Text

/-! ## Measuring a list of characters -/

/-- The columns that a list of characters settles before a context, and the context that it
leaves. -/
def measure (x : Context) : List Char → Nat × Context
  | [] => (0, x)
  | c :: cs =>
    let behind := measure x cs
    let here := behind.2.step c
    (behind.1 + here.1, here.2)

@[simp] theorem measure_nil (x : Context) : measure x [] = (0, x) := rfl

theorem measure_append (x : Context) (cs ds : List Char) :
    measure x (cs ++ ds) =
      ((measure x ds).1 + (measure (measure x ds).2 cs).1, (measure (measure x ds).2 cs).2) := by
  induction cs with
  | nil => rfl
  | cons c cs ih =>
    rw [List.cons_append, measure, ih, measure]
    simp only [Nat.add_assoc]

/-- The number of terminal columns of a list of characters: those that are settled and those that
are still pending at its beginning. -/
def listWidth (cs : List Char) : Nat :=
  (measure .empty cs).1 + (measure .empty cs).2.pending

@[simp] theorem listWidth_nil : listWidth [] = 0 := rfl

/-- Widths add up if what stands behind leaves nothing to combine with. -/
theorem listWidth_append_of_measure {ds : List Char} (h : (measure .empty ds).2 = .empty)
    (cs : List Char) : listWidth (cs ++ ds) = listWidth cs + listWidth ds := by
  have hp : Context.pending .empty = 0 := rfl
  simp only [listWidth, measure_append, h, hp]
  omega

/-! ## Spaces -/

theorem takesEmojiStyle_space : takesEmojiStyle ' ' = false := by decide

theorem start_space : Context.start ' ' = (1, .empty) := by decide

theorem close_space (x : Context) : x.close ' ' = (x.pending + 1, .empty) := by
  rw [Context.close, start_space]

theorem styled?_space (x : Context) : x.styled? ' ' = none := by
  have ht : takesTextStyle ' ' = false := by decide
  have hw : takesWideForm ' ' = false := by decide
  simp [Context.styled?, ht, hw]

theorem pass?_space (x : Context) : x.pass? ' ' = none := by
  have hi : isInvisibleMark ' ' = false := by decide
  have hj : ' ' ≠ joiner := by decide
  unfold Context.pass?
  split
  · simp [Ligature.pass?, hi, hj]
  · rfl

theorem combine?_space (k : Cluster) : k.combine? ' ' = none := by
  cases k with
  | ligature l => cases l <;> decide
  | joinedTag letters digits =>
    have hl : isTagLetter ' ' = false := by decide
    have hd : isTagDigit ' ' = false := by decide
    simp [Cluster.combine?, Cluster.combineTag?, Cluster.given, hl, hd]
  | _ => decide

theorem pending_giveUp (x : Context) : x.giveUp.pending = x.pending := rfl

theorem stepText_space (x : Context) : x.stepText ' ' = (x.pending + 1, .empty) := by
  have hs : Selector.ofChar? ' ' = none := by decide
  rw [Context.stepText, hs]
  simp only [styled?_space, Context.stepPlain, pass?_space, combine?_space, close_space,
    pending_giveUp]

/-- A space settles what is behind it, takes one column and leaves nothing to combine with. -/
theorem step_space (x : Context) : x.step ' ' = (x.pending + 1, .empty) := by
  simp only [Context.step, takesEmojiStyle_space, Bool.false_eq_true, if_false, stepText_space,
    close_space]
  split
  · split <;> rfl
  · rfl

theorem measure_space_cons (ds : List Char) :
    measure .empty (' ' :: ds) = (listWidth ds + 1, .empty) := by
  rw [measure, step_space, listWidth]
  rfl

/-- Widths add up across a space. -/
@[simp] theorem listWidth_append_space_cons (cs ds : List Char) :
    listWidth (cs ++ ' ' :: ds) = listWidth cs + listWidth ds + 1 := by
  have h := measure_space_cons ds
  rw [listWidth_append_of_measure (by rw [h]) cs, listWidth, listWidth, h]
  rfl

/-! ## Texts -/

/-- The number of terminal columns of a text. -/
def width (s : String) : Nat :=
  listWidth s.toList

/-- A run of `n` spaces. -/
def spaces (n : Nat) : String :=
  String.ofList (List.replicate n ' ')

/-- The text followed by as many spaces as it lacks to the wanted width, in a given measure. -/
def padRight (width : String → Nat) (wanted : Nat) (s : String) : String :=
  s ++ spaces (wanted - width s)

end EntityRelationship.Text
