import SchemaContent.Name
import SchemaContent.Text.Words

/-! # Plain names

In a text, a name can be told from what stands around it if it has none of the characters
that may stand there. Plain names are such names, and they are told apart by their texts. -/

namespace SchemaContent

namespace Text

/-! ## Texts with a mark -/

/-- Texts are the same up to a mark and after it, if it is in neither of them before. -/
theorem eq_of_append_cons_eq {mark : Char} {before other after rest : List Char}
    (notBefore : mark ∉ before) (notOther : mark ∉ other)
    (same : before ++ mark :: after = other ++ mark :: rest) :
    before = other ∧ after = rest := by
  induction before generalizing other with
  | nil =>
      cases other with
      | nil => exact ⟨rfl, (List.cons.inj same).2⟩
      | cons second more =>
          exact absurd ((List.cons.inj same).1 ▸ List.mem_cons_self) notOther
  | cons first others induction =>
      cases other with
      | nil => exact absurd ((List.cons.inj same).1 ▸ List.mem_cons_self) notBefore
      | cons second more =>
          rw [List.mem_cons, not_or] at notBefore notOther
          have ⟨sameFirst, sameOthers⟩ := List.cons.inj same
          have ⟨sameBefore, sameAfter⟩ := induction notBefore.2 notOther.2 sameOthers
          exact ⟨by rw [sameFirst, sameBefore], sameAfter⟩

/-- Texts are the same before a mark and after it, if it is in neither of them after. -/
theorem eq_of_append_cons_eq_of_last {mark : Char} {before other after rest : List Char}
    (notAfter : mark ∉ after) (notRest : mark ∉ rest)
    (same : before ++ mark :: after = other ++ mark :: rest) :
    before = other ∧ after = rest := by
  have reversed := congrArg List.reverse same
  simp only [List.reverse_append, List.reverse_cons, List.append_assoc,
    List.singleton_append] at reversed
  have ⟨sameAfter, sameBefore⟩ := eq_of_append_cons_eq (by simpa using notAfter)
    (by simpa using notRest) reversed
  exact ⟨List.reverse_inj.mp sameBefore, List.reverse_inj.mp sameAfter⟩

/-- There are no blanks in the text, and none of the marks. -/
def FreeOf (marks : List Char) (text : String) : Prop :=
  ∀ character ∈ text.toList, isBlank character = false ∧ character ∉ marks

instance (marks : List Char) (text : String) : Decidable (FreeOf marks text) :=
  List.decidableBAll (fun character => isBlank character = false ∧ character ∉ marks) text.toList

end Text

/-! ## Names -/

/-- The name has no blanks in it, its namespace no braces, and its local name, which is
not empty, no colons, braces, brackets and parentheses. -/
structure ExpandedName.Plain (name : ExpandedName) : Prop where
  notEmpty : name.localName ≠ ""
  localName : Text.FreeOf [':', '\x7b', '\x7d', '[', ']', '(', ')'] name.localName
  uri : ∀ uri ∈ name.uri, Text.FreeOf ['\x7b', '\x7d'] uri

instance (name : ExpandedName) : Decidable name.Plain :=
  decidable_of_iff
    (name.localName ≠ "" ∧
      Text.FreeOf [':', '\x7b', '\x7d', '[', ']', '(', ')'] name.localName ∧
      ∀ uri ∈ name.uri, Text.FreeOf ['\x7b', '\x7d'] uri)
    ⟨fun ⟨notEmpty, localName, uri⟩ => ⟨notEmpty, localName, uri⟩,
      fun ⟨notEmpty, localName, uri⟩ => ⟨notEmpty, localName, uri⟩⟩

namespace ExpandedName

theorem eq_of_parts {name other : ExpandedName} (sameUri : name.uri = other.uri)
    (sameLocalName : name.localName = other.localName) : name = other := by
  rcases name with ⟨uri, localName⟩
  exact congr (congrArg _ sameUri) sameLocalName

theorem toList_text_of_uri (uri localName : String) :
    (ExpandedName.mk (some uri) localName).text.toList =
      '\x7b' :: (uri.toList ++ '\x7d' :: ':' :: localName.toList) := by
  simp [text]

namespace Plain

variable {name other : ExpandedName} (plain : name.Plain)

include plain

theorem localName_ne_nil : name.localName.toList ≠ [] := by
  simpa using plain.notEmpty

theorem not_mem_localName {mark : Char}
    (isMark : mark ∈ [':', '\x7b', '\x7d', '[', ']', '(', ')']) :
    mark ∉ name.localName.toList :=
  fun isCharacter => (plain.localName mark isCharacter).2 isMark

theorem not_mem_text_of_isBlank {blank : Char} (isBlank : Text.isBlank blank = true) :
    blank ∉ name.text.toList := by
  intro isCharacter
  have notBlank : Text.isBlank blank = false := by
    rcases name with ⟨uri, localName⟩
    cases uri with
    | none => exact (plain.localName blank isCharacter).1
    | some uri =>
        rw [toList_text_of_uri] at isCharacter
        simp only [List.mem_cons, List.mem_append] at isCharacter
        rcases isCharacter with rfl | isUri | rfl | rfl | isLocal
        · rfl
        · exact (plain.uri uri rfl blank isUri).1
        · rfl
        · rfl
        · exact (plain.localName blank isLocal).1
  rw [notBlank] at isBlank
  cases isBlank

theorem text_ne_nil : name.text.toList ≠ [] := by
  rcases name with ⟨uri, localName⟩
  cases uri with
  | none => exact plain.localName_ne_nil
  | some uri => simp [toList_text_of_uri]

theorem text_ne_of_opening (rest : List Char) : name.text.toList ≠ '(' :: rest := by
  intro same
  rcases name with ⟨uri, localName⟩
  cases uri with
  | none =>
      have isFirst : '(' ∈ localName.toList := by
        rw [show localName.toList = _ from same]
        exact List.mem_cons_self
      exact plain.not_mem_localName (by decide) isFirst
  | some uri => simp [toList_text_of_uri] at same

/-- No name looks like that of a built-in type, which has a colon but no braces. -/
theorem text_ne_of_colon (builtin : List Char) :
    name.text.toList ≠ 'x' :: 's' :: ':' :: builtin := by
  intro same
  rcases name with ⟨uri, localName⟩
  cases uri with
  | none =>
      have isColon : ':' ∈ localName.toList := by
        rw [show localName.toList = _ from same]
        simp
      exact plain.not_mem_localName (by decide) isColon
  | some uri => simp [toList_text_of_uri] at same

theorem eq_of_text_eq (otherPlain : other.Plain) (same : name.text.toList = other.text.toList) :
    name = other := by
  rcases name with ⟨uri, localName⟩
  rcases other with ⟨otherUri, otherLocalName⟩
  cases uri with
  | none =>
      cases otherUri with
      | none => exact congrArg _ (String.toList_injective same)
      | some otherUri =>
          rw [toList_text_of_uri] at same
          exact absurd (same ▸ List.mem_cons_self) (plain.not_mem_localName (by decide))
  | some uri =>
      cases otherUri with
      | none =>
          rw [toList_text_of_uri] at same
          exact absurd (same ▸ List.mem_cons_self) (otherPlain.not_mem_localName (by decide))
      | some otherUri =>
          rw [toList_text_of_uri, toList_text_of_uri] at same
          have notIn : '\x7d' ∉ uri.toList := fun isIn =>
            (plain.uri uri rfl _ isIn).2 (by decide)
          have notInOther : '\x7d' ∉ otherUri.toList := fun isIn =>
            (otherPlain.uri otherUri rfl _ isIn).2 (by decide)
          have ⟨sameUri, sameRest⟩ :=
            Text.eq_of_append_cons_eq notIn notInOther (List.cons.inj same).2
          rw [String.toList_injective sameUri,
            String.toList_injective (List.cons.inj sameRest).2]

end Plain

end ExpandedName

end SchemaContent
