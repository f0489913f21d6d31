import EntityRelationship.Snapshot.Token
import EntityRelationship.Snapshot.Writer
import Mathlib.Data.List.Forall2

/-!
# The tokens of a written snapshot

What the writer puts down for a diagram is scanned as the tokens of that diagram: the brackets,
keys and texts of its elements in their order. Line feeds and spaces leave no trace, and a text in
quotation marks is scanned as the text itself, whatever characters it holds.

A piece of text is said to spell some tokens if it is scanned as these tokens wherever it stands
between two others. The pieces of a snapshot are put together from smaller ones, and so are their
tokens.
-/

namespace EntityRelationship.Snapshot

variable {s t : String} {ts us : List Token}

/-! ## Pieces and their tokens -/

/-- A piece of text is scanned as some tokens, whatever follows it. -/
def Spells (s : String) (ts : List Token) : Prop :=
  ∀ rest, scan .ready (s.toList ++ rest) = ts ++ scan .ready rest

theorem Spells.append (hs : Spells s ts) (ht : Spells t us) : Spells (s ++ t) (ts ++ us) := by
  intro rest
  rw [String.toList_append, List.append_assoc, hs, ht, List.append_assoc]

theorem Spells.tokens (h : Spells s ts) : tokens s = ts := by
  have hend := h []
  rw [List.append_nil] at hend
  rw [Snapshot.tokens, hend]
  exact List.append_nil ts

theorem spells_newline : Spells "\n" [] := fun _ => rfl

theorem spells_colon : Spells ": " [.colon] := fun _ => rfl

theorem spells_comma : Spells ",\n" [.comma] := fun _ => rfl

theorem spells_spaces (n : Nat) : Spells (Text.spaces n) [] := by
  intro rest
  rw [Text.spaces, String.toList_ofList]
  induction n with
  | zero => rfl
  | succ n ih =>
    rw [List.replicate_succ, List.cons_append]
    exact ih

/-! ## Quoted texts -/

/-- The characters of a text, taken in one after the other. -/
theorem foldl_push (cs : List Char) (p : QuotedPart) (h : p.high = none) :
    cs.foldl QuotedPart.push p = ⟨cs.reverse ++ p.chars, none, p.spoiled⟩ := by
  induction cs generalizing p with
  | nil =>
    rw [List.foldl_nil, List.reverse_nil, List.nil_append, ← h]
  | cons c cs ih =>
    rw [List.foldl_cons, ih _ rfl]
    simp [QuotedPart.push, h]

theorem scan_cons_of_step {state state' : ScanState} {c : Char}
    (h : step state c = ([], state')) (cs : List Char) :
    scan state (c :: cs) = scan state' cs := by
  rw [scan, h]
  rfl

/-- Behind a backslash and a `u` characters are taken until they are four bytes long. -/
theorem step_unit_of_lt {p : QuotedPart} {taken : List Char} {c : Char}
    (h : (String.ofList (taken ++ [c])).utf8ByteSize < 4) :
    step (.quoted p (.unit taken)) c = ([], .quoted p (.unit (taken ++ [c]))) :=
  if_pos h

theorem step_unit_of_le {p : QuotedPart} {taken : List Char} {c : Char} {n : Nat}
    (h : 4 ≤ (String.ofList (taken ++ [c])).utf8ByteSize)
    (hn : hexUnit? (taken ++ [c]) = some n) :
    step (.quoted p (.unit taken)) c = ([], .quoted (p.pushUnit n) .plain) := by
  rw [step, stepQuoted]
  simp only [if_neg (Nat.not_lt.2 h), hn]

/-- Four hexadecimal digits behind a backslash and a `u` stand for a control character. -/
theorem scan_unit {n : Nat} (hn : n < 0x20) (p : QuotedPart) (rest : List Char) :
    scan (.quoted p .escape)
        ('u' :: '0' :: '0' :: Nat.digitChar (n / 16) :: Nat.digitChar (n % 16) :: rest) =
      scan (.quoted (p.push (Char.ofNat n)) .plain) rest := by
  have hdigits : ∀ n < 0x20,
      (String.ofList ['0', '0', Nat.digitChar (n / 16)]).utf8ByteSize < 4 ∧
        4 ≤ (String.ofList
          ['0', '0', Nat.digitChar (n / 16), Nat.digitChar (n % 16)]).utf8ByteSize ∧
        hexUnit? ['0', '0', Nat.digitChar (n / 16), Nat.digitChar (n % 16)] = some n := by
    decide
  obtain ⟨hshort, hlong, hunit⟩ := hdigits n hn
  -- control characters are no halves of a surrogate pair
  have hsurrogate : p.pushUnit n = p.push (Char.ofNat n) := by
    rw [QuotedPart.pushUnit, if_neg (by omega), if_neg (by omega)]
  have hu : step (.quoted p .escape) 'u' = ([], .quoted p (.unit [])) := rfl
  have hone : step (.quoted p (.unit [])) '0' = ([], .quoted p (.unit ['0'])) :=
    step_unit_of_lt (by decide)
  have htwo : step (.quoted p (.unit ['0'])) '0' = ([], .quoted p (.unit ['0', '0'])) :=
    step_unit_of_lt (by decide)
  have hthree : step (.quoted p (.unit ['0', '0'])) (Nat.digitChar (n / 16)) =
      ([], .quoted p (.unit ['0', '0', Nat.digitChar (n / 16)])) :=
    step_unit_of_lt hshort
  have hfour : step (.quoted p (.unit ['0', '0', Nat.digitChar (n / 16)]))
      (Nat.digitChar (n % 16)) = ([], .quoted (p.pushUnit n) .plain) :=
    step_unit_of_le hlong hunit
  rw [scan_cons_of_step hu, scan_cons_of_step hone, scan_cons_of_step htwo,
    scan_cons_of_step hthree, scan_cons_of_step hfour, hsurrogate]

/-- The characters that are quoted by a backslash and one letter, with this letter. -/
def shortEscapes : List (Char × Char) :=
  [('"', '"'), ('\\', '\\'), ('\x08', 'b'), ('\x0C', 'f'), ('\n', 'n'), ('\r', 'r'), ('\t', 't')]

/-- A character is quoted by a letter, by the digits of a control character, or as it is. -/
theorem quoteChar_cases (c : Char) :
    (∃ x ∈ shortEscapes, x.1 = c) ∨
      (c.toNat < 0x20 ∧ quoteChar c =
        ['\\', 'u', '0', '0', Nat.digitChar (c.toNat / 16), Nat.digitChar (c.toNat % 16)]) ∨
      (c ≠ '"' ∧ c ≠ '\\' ∧ ¬ c.toNat < 0x20 ∧ quoteChar c = [c]) := by
  by_cases hshort : ∃ x ∈ shortEscapes, x.1 = c
  · exact .inl hshort
  · simp only [shortEscapes, List.mem_cons, List.not_mem_nil, or_false, exists_eq_or_imp,
      exists_eq_left, not_or, eq_comm (b := c)] at hshort
    obtain ⟨h₁, h₂, h₃, h₄, h₅, h₆, h₇⟩ := hshort
    by_cases hcontrol : c.toNat < 0x20
    · exact .inr (.inl ⟨hcontrol, by simp [quoteChar, *]⟩)
    · exact .inr (.inr ⟨h₁, h₂, hcontrol, by simp [quoteChar, *]⟩)

/-- A character is scanned in the form in which it is quoted. -/
theorem scan_quoteChar (c : Char) (p : QuotedPart) (rest : List Char) :
    scan (.quoted p .plain) (quoteChar c ++ rest) = scan (.quoted (p.push c) .plain) rest := by
  have hbackslash : step (.quoted p .plain) '\\' = ([], .quoted p .escape) := rfl
  rcases quoteChar_cases c with
    ⟨x, hx, rfl⟩ | ⟨hcontrol, hquote⟩ | ⟨hmark, hslash, hvisible, hquote⟩
  · have hletters : ∀ x ∈ shortEscapes,
        quoteChar x.1 = ['\\', x.2] ∧ x.2 ≠ 'u' ∧ unescape? x.2 = some x.1 := by
      decide
    obtain ⟨hquote, hletter, hunescape⟩ := hletters x hx
    have hstep : step (.quoted p .escape) x.2 = ([], .quoted (p.push x.1) .plain) := by
      rw [step, stepQuoted]
      simp only [if_neg hletter, hunescape]
    rw [hquote]
    show scan (.quoted p .plain) ('\\' :: x.2 :: rest) = _
    rw [scan_cons_of_step hbackslash, scan_cons_of_step hstep]
  · have hunit := scan_unit hcontrol p rest
    rw [Char.ofNat_toNat] at hunit
    rw [hquote]
    show scan (.quoted p .plain) ('\\' :: 'u' :: '0' :: '0' :: _ :: _ :: rest) = _
    rw [scan_cons_of_step hbackslash, hunit]
  · have hstep : step (.quoted p .plain) c = ([], .quoted (p.push c) .plain) := by
      rw [step, stepQuoted]
      simp only [if_neg hmark, if_neg hslash, if_neg hvisible]
    rw [hquote]
    exact scan_cons_of_step hstep rest

/-- A text in quotation marks is scanned as this text. -/
theorem spells_quote (s : String) : Spells (quote s) [.text s] := by
  intro rest
  -- induction on the characters, with the part that has been taken in before them
  have hchars (cs : List Char) (p : QuotedPart) (rest : List Char) :
      scan (.quoted p .plain) (cs.flatMap quoteChar ++ rest) =
        scan (.quoted (cs.foldl QuotedPart.push p) .plain) rest := by
    induction cs generalizing p with
    | nil => rfl
    | cons c cs ih =>
      rw [List.flatMap_cons, List.append_assoc, scan_quoteChar, ih, List.foldl_cons]
  have htext : (quote s).toList ++ rest = '"' :: (s.toList.flatMap quoteChar ++ '"' :: rest) := by
    simp [quote]
  have hopen : step .ready '"' = ([], .quoted .empty .plain) := rfl
  rw [htext, scan_cons_of_step hopen, hchars, foldl_push _ _ rfl]
  have hclose : QuotedPart.close ⟨s.toList.reverse ++ QuotedPart.empty.chars, none,
      QuotedPart.empty.spoiled⟩ = .text s := by
    simp [QuotedPart.close, QuotedPart.empty]
  show [QuotedPart.close _] ++ _ = _
  rw [hclose]
  rfl

/-! ## Brackets -/

/-- The tokens of several parts with commas between them. -/
def separated : List (List Token) → List Token
  | [] => []
  | ts :: rest => ts ++ rest.flatMap (.comma :: ·)

/-- Parts on lines of their own spell what they spell one by one, with commas between them. -/
theorem spells_intercalate {parts : List String} {tokens : List (List Token)}
    (h : List.Forall₂ Spells parts tokens) :
    Spells (",\n".intercalate parts) (separated tokens) := by
  induction h with
  | nil => exact fun _ => rfl
  | cons hpart hrest ih =>
    cases hrest with
    | nil => simpa [separated] using hpart
    | cons hnext hrest =>
      rw [String.intercalate_cons_cons, String.append_assoc]
      exact hpart.append (spells_comma.append ih)

/-- The tokens of an object, given those of its members. -/
def objectTokens (members : List (List Token)) : List Token :=
  .openObject :: (separated members ++ [.closeObject])

/-- The tokens of an array, given those of its items. -/
def arrayTokens (items : List (List Token)) : List Token :=
  .openArray :: (separated items ++ [.closeArray])

/-- The tokens of a member of an object. -/
def memberTokens (key : String) (value : List Token) : List Token :=
  .text key :: .colon :: value

/-- Brackets around parts spell two tokens, and the layout between them spells nothing. -/
theorem spells_block {opening closing : String} {o c : Token} (ho : Spells opening [o])
    (hc : Spells closing [c]) (indent : Nat) {parts : List String} {tokens : List (List Token)}
    (h : List.Forall₂ Spells parts tokens) :
    Spells (block opening closing indent parts) (o :: (separated tokens ++ [c])) := by
  cases h with
  | nil => exact ho.append hc
  | @cons part ts parts tokens hpart hrest =>
    have hindented : List.Forall₂ Spells
        ((part :: parts).map fun part => Text.spaces (indent + 2) ++ part) (ts :: tokens) := by
      rw [List.forall₂_map_left_iff]
      exact (List.Forall₂.cons hpart hrest).imp fun _ _ h => (spells_spaces _).append h
    have hinner := spells_intercalate hindented
    have hlayout := (ho.append spells_newline).append
      (hinner.append (spells_newline.append ((spells_spaces indent).append hc)))
    rw [block, if_neg (List.cons_ne_nil _ _)]
    simp only [String.append_assoc] at hlayout ⊢
    exact hlayout

theorem spells_object (indent : Nat) {members : List String} {tokens : List (List Token)}
    (h : List.Forall₂ Spells members tokens) :
    Spells (object indent members) (objectTokens tokens) :=
  spells_block (fun _ => rfl) (fun _ => rfl) indent h

theorem spells_array (indent : Nat) {items : List String} {tokens : List (List Token)}
    (h : List.Forall₂ Spells items tokens) :
    Spells (array indent items) (arrayTokens tokens) :=
  spells_block (fun _ => rfl) (fun _ => rfl) indent h

theorem spells_member (key : String) (h : Spells s ts) :
    Spells (member key s) (memberTokens key ts) :=
  ((spells_quote key).append spells_colon).append h

/-- A member whose value is a quoted text. -/
theorem spells_member_quote (key value : String) :
    Spells (member key (quote value)) (memberTokens key [.text value]) :=
  spells_member key (spells_quote value)

/-! ## Elements -/

/-- The members of a node. An equation that is absent is no member. -/
def nodeMembers (n : Node) : List (List Token) :=
  [memberTokens "id" [.text n.id], memberTokens "kind" [.text n.kind.name],
    memberTokens "label" [.text n.label]]
    ++ n.equation.toList.map fun e => memberTokens "equation" [.text e]

/-- The tokens of a node. -/
def nodeTokens (n : Node) : List Token :=
  objectTokens (nodeMembers n)

/-- The members of an edge. A label that is absent is no member. -/
def edgeMembers (e : Edge) : List (List Token) :=
  [memberTokens "id" [.text e.id], memberTokens "kind" [.text e.kind.name],
    memberTokens "source" [.text e.source], memberTokens "target" [.text e.target]]
    ++ e.label.toList.map fun l => memberTokens "label" [.text l]

/-- The tokens of an edge. -/
def edgeTokens (e : Edge) : List Token :=
  objectTokens (edgeMembers e)

/-- The tokens of a diagram. -/
def diagramTokens (d : Diagram) : List Token :=
  objectTokens
    [memberTokens "nodes" (arrayTokens (d.nodes.map nodeTokens)),
      memberTokens "edges" (arrayTokens (d.edges.map edgeTokens))]

/-- A member that may be absent. -/
theorem spells_optional_member (key : String) (value : Option String) :
    List.Forall₂ Spells (value.toList.map fun v => member key (quote v))
      (value.toList.map fun v => memberTokens key [.text v]) := by
  cases value with
  | none => exact .nil
  | some v => exact .cons (spells_member_quote key v) .nil

theorem spells_writeNode (indent : Nat) (n : Node) :
    Spells (writeNode indent n) (nodeTokens n) :=
  spells_object indent <|
    .cons (spells_member_quote _ _) <| .cons (spells_member_quote _ _) <|
      .cons (spells_member_quote _ _) <| spells_optional_member _ _

theorem spells_writeEdge (indent : Nat) (e : Edge) :
    Spells (writeEdge indent e) (edgeTokens e) :=
  spells_object indent <|
    .cons (spells_member_quote _ _) <| .cons (spells_member_quote _ _) <|
      .cons (spells_member_quote _ _) <| .cons (spells_member_quote _ _) <|
        spells_optional_member _ _

/-- Items that are written one like the other. -/
theorem forall₂_spells_map {α : Type} {write : α → String} {tokens : α → List Token}
    (h : ∀ a, Spells (write a) (tokens a)) (as : List α) :
    List.Forall₂ Spells (as.map write) (as.map tokens) := by
  rw [List.forall₂_map_left_iff, List.forall₂_map_right_iff, List.forall₂_same]
  exact fun a _ => h a

/-- A written diagram is scanned as the tokens of the diagram. -/
theorem tokens_write (d : Diagram) : tokens (write d) = diagramTokens d := by
  have hnodes := spells_array 2 (forall₂_spells_map (spells_writeNode 4) d.nodes)
  have hedges := spells_array 2 (forall₂_spells_map (spells_writeEdge 4) d.edges)
  exact (spells_object 0 <|
    .cons (spells_member "nodes" hnodes) <| .cons (spells_member "edges" hedges) .nil).tokens

end EntityRelationship.Snapshot
