import EntityRelationship.Diagram.Attribute
import EntityRelationship.Proofs.Text.UpperCase

/-!
# Typed labels

The name and the type that are read from a label are in a normal form: the name is not empty and has
neither blanks nor colons, and the type is trimmed and in upper case. What is in this form is read
again as it stands, so a name and type that come from some label come also from the label that is
written for them.
-/

namespace EntityRelationship

/-! ## Normal form -/

namespace TypedName

/-- A name with a type as it is read from a label. -/
structure IsNormal (t : TypedName) : Prop where
  name_ne_empty : t.name ≠ ""
  unblank : Text.Unblank t.name
  colon_not_mem : ':' ∉ t.name.toList
  type_ne_empty : t.type ≠ ""
  isTrimmed : Text.IsTrimmed t.type
  upper_eq : Text.upper t.type = t.type

end TypedName

namespace Text

variable {s : String}

/-- A text without blanks is left alone. -/
theorem strip_eq_self (h : Unblank s) : strip s = s := by
  refine String.toList_injective ?_
  rw [toList_strip, List.filter_eq_self]
  intro c hc
  rw [h c hc]
  rfl

/-- A trimmed text is left alone. -/
theorem trim_eq_self (h : IsTrimmed s) : trim s = s :=
  trim_eq_of_padded (.refl s) h

end Text

namespace Node

variable {m n : Node} {t : TypedName}

/-- A typed label is cut at its first colon. -/
theorem exists_cut_of_typedName (h : n.typedName = .ok t) :
    ∃ before after, Text.cut ":" n.label = some (before, after) ∧ t.name = Text.strip before ∧
      t.type = Text.upper (Text.trim after) ∧ t.name ≠ "" ∧ t.type ≠ "" := by
  simp only [typedName] at h
  split at h
  · cases h
  · next before after hcut =>
    split at h
    · cases h
    · next hempty =>
      rw [not_or] at hempty
      cases h
      exact ⟨before, after, hcut, rfl, rfl, hempty.1, hempty.2⟩

/-- What is read from a label is in normal form. -/
theorem isNormal_of_typedName (h : n.typedName = .ok t) : t.IsNormal := by
  obtain ⟨before, after, hcut, hname, htype, hname', htype'⟩ := exists_cut_of_typedName h
  have hcolon : ':' ∉ before.toList := by
    obtain ⟨⟨b, a⟩, hparts, hsplit⟩ := Option.map_eq_some_iff.1 hcut
    obtain ⟨rfl, -⟩ := Prod.mk.inj hsplit
    rw [String.toList_ofList]
    exact Text.not_mem_of_cutList hparts
  refine ⟨hname', ?_, ?_, htype', ?_, ?_⟩
  · rw [hname]
    exact Text.unblank_strip before
  · rw [hname, Text.toList_strip]
    exact fun hmem => hcolon (List.mem_of_mem_filter hmem)
  · rw [htype]
    exact (Text.isTrimmed_trim after).upper
  · rw [htype, Text.upper_upper]

/-- What is in normal form is read from the label that is written for it. -/
theorem typedName_of_isNormal (ht : t.IsNormal) (hm : m.label = t.text) : m.typedName = .ok t := by
  have hcut : Text.cut ":" m.label = some (t.name, t.type) := by
    rw [hm, TypedName.text]
    exact Text.cut_of_not_mem rfl ht.colon_not_mem t.type
  simp only [typedName, hcut]
  rw [Text.strip_eq_self ht.unblank, Text.trim_eq_self ht.isTrimmed, ht.upper_eq,
    if_neg (not_or.2 ⟨ht.name_ne_empty, ht.type_ne_empty⟩)]

/-- Typed labels are stable. The name that is read from a label is not empty, has neither blanks nor
colons in it, and is the name of the attribute; and name and type are read again from any label that
is written for them. -/
theorem typedName_stable (h : n.typedName = .ok t) :
    t.name ≠ "" ∧ (∀ c ∈ t.name.toList, Text.isBlank c = false) ∧ ':' ∉ t.name.toList ∧
      t.name = n.attributeName ∧ ∀ m : Node, m.label = t.text → m.typedName = .ok t := by
  have ht := isNormal_of_typedName h
  exact ⟨ht.name_ne_empty, ht.unblank, ht.colon_not_mem, (attributeName_of_typedName h).symm,
    fun m hm => typedName_of_isNormal ht hm⟩

theorem typedName_stable_street :
    (Node.mk "s" (.attr .plain) " main\tstreet : straße (a : b) " none).typedName =
        .ok ⟨"mainstreet", "STRASSE (A : B)"⟩ ∧
      "mainstreet" ≠ "" ∧
      (Node.mk "t" (.attr .key) "mainstreet:STRASSE (A : B)" none).typedName =
        .ok ⟨"mainstreet", "STRASSE (A : B)"⟩ := by
  have hread : (Node.mk "s" (.attr .plain) " main\tstreet : straße (a : b) " none).typedName =
      .ok ⟨"mainstreet", "STRASSE (A : B)"⟩ := by
    decide +kernel
  obtain ⟨hne, -, -, -, hagain⟩ := typedName_stable hread
  exact ⟨hread, hne, hagain _ rfl⟩

end Node

end EntityRelationship
