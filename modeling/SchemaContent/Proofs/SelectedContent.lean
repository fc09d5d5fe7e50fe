import Mathlib.Data.List.Basic
import SchemaContent.Schema.Reading

/-! # Selected contents

A complex type has at most one content. It is the first group among its children, or that
of the first derivation in a complex content, whichever child comes first. -/

namespace SchemaContent

namespace Xml.Element

abbrev tag (element : Xml.Element) : String :=
  element.name.localName

def IsGroup (element : Xml.Element) : Prop :=
  element.tag = "sequence" ∨ element.tag = "choice" ∨ element.tag = "all"

def IsPassedOver (element : Xml.Element) : Prop :=
  element.tag = "annotation" ∨ element.tag = "any" ∨ element.tag = "group"

def IsDerivation (element : Xml.Element) : Prop :=
  element.tag = "extension" ∨ element.tag = "restriction"

instance (element : Xml.Element) : Decidable element.IsPassedOver :=
  inferInstanceAs (Decidable (_ ∨ _))

theorem isGroup_iff {element : Xml.Element} :
    element.IsGroup ↔ (Compositor.ofTag element.tag).isSome := by
  rw [IsGroup, Compositor.ofTag]
  constructor
  · rintro (isTag | isTag | isTag) <;> rw [isTag] <;> rfl
  · intro isSome
    split at isSome
    case isTrue isSequence => exact .inl isSequence
    split at isSome
    case isTrue isChoice => exact .inr (.inl isChoice)
    split at isSome
    case isTrue isAll => exact .inr (.inr isAll)
    cases isSome

theorem isPassedOver_iff {element : Xml.Element} :
    element.IsPassedOver ↔ SchemaContent.isPassedOver element.tag = true := by
  rw [IsPassedOver, SchemaContent.isPassedOver, Bool.or_eq_true, Bool.or_eq_true,
    decide_eq_true_iff, decide_eq_true_iff, decide_eq_true_iff, or_assoc]

theorem isDerivation_iff {element : Xml.Element} :
    element.IsDerivation ↔ SchemaContent.isDerivation element.tag = true := by
  rw [IsDerivation, SchemaContent.isDerivation, Bool.or_eq_true, decide_eq_true_iff,
    decide_eq_true_iff]

theorem IsGroup.tag_ne_element {element : Xml.Element} (isGroup : element.IsGroup) :
    element.tag ≠ "element" := by
  intro isElement
  rw [IsGroup, isElement] at isGroup
  exact absurd isGroup (by decide)

theorem IsGroup.not_isPassedOver {element : Xml.Element} (isGroup : element.IsGroup) :
    ¬element.IsPassedOver := by
  intro isPassedOver
  rcases isGroup with isTag | isTag | isTag
  all_goals
    rw [IsPassedOver, isTag] at isPassedOver
    exact absurd isPassedOver (by decide)

/-- A child of a complex type decides on the content: it is a group, or a complex content
in which there is a derivation. -/
def Decides (child : Xml.Element) : Prop :=
  child.IsGroup ∨ child.tag = "complexContent" ∧
    ∃ derivation ∈ child.children, derivation.IsDerivation

/-- The children of a complex type, or of a derivation, have this group as their content:
the first child that decides is the group itself, or the group is the content of the first
derivation in that child. -/
inductive Selects : List Xml.Element → Xml.Element → Prop
  | group {before after : List Xml.Element} {group : Xml.Element}
      (undecided : ∀ child ∈ before, ¬child.Decides) (isGroup : group.IsGroup) :
      Selects (before ++ group :: after) group
  | derived {before after others rest : List Xml.Element}
      {content derivation group : Xml.Element}
      (undecided : ∀ child ∈ before, ¬child.Decides) (isContent : content.tag = "complexContent")
      (inContent : content.children = others ++ derivation :: rest)
      (first : ∀ other ∈ others, ¬other.IsDerivation) (isDerivation : derivation.IsDerivation)
      (selected : Selects derivation.children group) :
      Selects (before ++ content :: after) group

theorem Selects.isGroup {children : List Xml.Element} {group : Xml.Element}
    (selected : Selects children group) : group.IsGroup := by
  induction selected with
  | group _ isGroup => exact isGroup
  | derived _ _ _ _ _ _ induction => exact induction

theorem sizeOf_lt_of_mem_children {element child : Xml.Element}
    (isChild : child ∈ element.children) : sizeOf child < sizeOf element := by
  rcases element with ⟨name, attributes, children⟩
  have inList : sizeOf child < sizeOf children := List.sizeOf_lt_of_mem isChild
  rw [mk.sizeOf_spec]
  omega

theorem sizeOf_children_lt (element : Xml.Element) :
    sizeOf element.children < sizeOf element := by
  rcases element with ⟨name, attributes, children⟩
  change sizeOf children < _
  rw [mk.sizeOf_spec]
  omega

/-- The children of a derivation stand two levels below those of the type. -/
theorem sizeOf_derivation_lt (before after : List Xml.Element) {content derivation : Xml.Element}
    (isChild : derivation ∈ content.children) :
    sizeOf derivation.children < sizeOf (before ++ content :: after) :=
  calc
    sizeOf derivation.children < sizeOf derivation := sizeOf_children_lt derivation
    _ < sizeOf content := sizeOf_lt_of_mem_children isChild
    _ < sizeOf (before ++ content :: after) :=
      List.sizeOf_lt_of_mem (List.mem_append_right _ List.mem_cons_self)

/-- A selected group is a part of what it is selected from. -/
theorem Selects.sizeOf_lt {children : List Xml.Element} {group : Xml.Element}
    (selected : Selects children group) : sizeOf group < sizeOf children := by
  induction selected with
  | group => exact List.sizeOf_lt_of_mem (List.mem_append_right _ List.mem_cons_self)
  | @derived before after others rest content derivation group _ _ inContent _ _ _ induction =>
      have isChild : derivation ∈ content.children := by simp [inContent]
      exact Nat.lt_trans induction (sizeOf_derivation_lt before after isChild)

end Xml.Element

open Xml.Element

/-! ## Reading contents -/

/-- Either no entry of a list has the property, or there is a first one that has it. -/
theorem exists_first {α : Type} (property : α → Prop) (list : List α) :
    (∀ entry ∈ list, ¬property entry) ∨ ∃ before entry after,
      list = before ++ entry :: after ∧ (∀ other ∈ before, ¬property other) ∧ property entry := by
  classical
  cases found : list.find? (decide <| property ·) with
  | none => exact .inl (by simpa using found)
  | some entry =>
      rcases List.find?_eq_some_iff_append.mp found with ⟨holds, before, after, rfl, noneBefore⟩
      exact .inr ⟨before, entry, after, rfl, by simpa using noneBefore, by simpa using holds⟩

namespace Particle

theorem derivationContent_of_isDerivation {derivation : Xml.Element}
    (isDerivation : derivation.IsDerivation) :
    derivationContent derivation = some (contentOfXml derivation.children) := by
  rcases derivation with ⟨name, attributes, children⟩
  rw [derivationContent]
  exact if_pos (isDerivation_iff.mp isDerivation)

theorem derivationContent_eq_none {other : Xml.Element} (notDerivation : ¬other.IsDerivation) :
    derivationContent other = none := by
  rcases other with ⟨name, attributes, children⟩
  rw [derivationContent]
  exact if_neg (mt isDerivation_iff.mpr notDerivation)

theorem derivedContent_append {others : List Xml.Element}
    (noDerivation : ∀ other ∈ others, ¬other.IsDerivation) (rest : List Xml.Element) :
    derivedContent (others ++ rest) = derivedContent rest := by
  induction others with
  | nil => rfl
  | cons other others induction =>
      have ⟨notDerivation, noLater⟩ := List.forall_mem_cons.mp noDerivation
      rw [List.cons_append, derivedContent, derivationContent_eq_none notDerivation,
        Option.none_or, induction noLater]

theorem derivedContent_eq_none {others : List Xml.Element}
    (noDerivation : ∀ other ∈ others, ¬other.IsDerivation) : derivedContent others = none := by
  have unchanged := derivedContent_append noDerivation []
  rw [List.append_nil] at unchanged
  rw [unchanged, derivedContent]

/-- A group decides on itself. -/
theorem decidedContent_of_isGroup {group : Xml.Element} (isGroup : group.IsGroup) :
    decidedContent group = some (ofXml group) := by
  rcases group with ⟨name, attributes, children⟩
  rcases Option.isSome_iff_exists.mp (isGroup_iff.mp isGroup) with ⟨compositor, ofTag⟩
  simp only [tag] at ofTag
  rw [decidedContent, ofXml, if_neg isGroup.tag_ne_element]
  simp only [ofTag]

theorem decidedContent_of_complexContent {content : Xml.Element}
    (isContent : content.tag = "complexContent") :
    decidedContent content = derivedContent content.children := by
  rcases content with ⟨name, attributes, children⟩
  rw [decidedContent]
  simp only [tag] at isContent
  simp only [isContent]
  rfl

theorem decidedContent_eq_none {child : Xml.Element} (undecided : ¬child.Decides) :
    decidedContent child = none := by
  rw [Decides, not_or, not_and] at undecided
  by_cases isContent : child.tag = "complexContent"
  · rw [decidedContent_of_complexContent isContent]
    apply derivedContent_eq_none
    intro other isOther isDerivation
    exact undecided.2 isContent ⟨other, isOther, isDerivation⟩
  · rcases child with ⟨name, attributes, children⟩
    have notGroup : Compositor.ofTag name.localName = none := by
      simpa [isGroup_iff] using undecided.1
    rw [decidedContent, notGroup]
    exact if_neg isContent

theorem contentOfXml_append {before : List Xml.Element}
    (undecided : ∀ child ∈ before, ¬child.Decides) (rest : List Xml.Element) :
    contentOfXml (before ++ rest) = contentOfXml rest := by
  induction before with
  | nil => rfl
  | cons child before induction =>
      have ⟨ofChild, ofRest⟩ := List.forall_mem_cons.mp undecided
      rw [List.cons_append, contentOfXml, decidedContent_eq_none ofChild]
      exact induction ofRest

theorem contentOfXml_of_derivation {before after others rest : List Xml.Element}
    {content derivation : Xml.Element} (undecided : ∀ child ∈ before, ¬child.Decides)
    (isContent : content.tag = "complexContent")
    (inContent : content.children = others ++ derivation :: rest)
    (first : ∀ other ∈ others, ¬other.IsDerivation) (isDerivation : derivation.IsDerivation) :
    contentOfXml (before ++ content :: after) = contentOfXml derivation.children := by
  rw [contentOfXml_append undecided, contentOfXml, decidedContent_of_complexContent isContent,
    inContent, derivedContent_append first, derivedContent,
    derivationContent_of_isDerivation isDerivation, Option.some_or]

/-- The content of a type is read from the group that is selected. -/
theorem contentOfXml_of_selects {children : List Xml.Element} {group : Xml.Element}
    (selected : Selects children group) : contentOfXml children = ofXml group := by
  induction selected with
  | group undecided isGroup =>
      rw [contentOfXml_append undecided, contentOfXml, decidedContent_of_isGroup isGroup]
  | derived undecided isContent inContent first isDerivation _ induction =>
      rw [contentOfXml_of_derivation undecided isContent inContent first isDerivation, induction]

theorem selects_or_contentOfXml_eq_none (children : List Xml.Element) :
    (∃ group, Selects children group) ∨ contentOfXml children = .ok none := by
  rcases exists_first Decides children with
    noneDecides | ⟨before, child, after, rfl, undecided, decides⟩
  · right
    have unchanged := contentOfXml_append noneDecides []
    rw [List.append_nil] at unchanged
    rw [unchanged, contentOfXml]
    rfl
  · rcases decides with isGroup | ⟨isContent, derivation, isChild, isDerivation⟩
    · exact .inl ⟨child, .group undecided isGroup⟩
    · rcases exists_first IsDerivation child.children with
        noDerivation | ⟨others, first, rest, inContent, noneBefore, isFirst⟩
      · exact absurd isDerivation (noDerivation derivation isChild)
      · have isChild : first ∈ child.children := by simp [inContent]
        have smaller := sizeOf_derivation_lt before after isChild
        rcases selects_or_contentOfXml_eq_none first.children with ⟨group, selected⟩ | isNone
        · exact .inl ⟨group, .derived undecided isContent inContent noneBefore isFirst selected⟩
        · right
          rw [contentOfXml_of_derivation undecided isContent inContent noneBefore isFirst, isNone]
termination_by sizeOf children

/-- A type without a selected group has no content. -/
theorem contentOfXml_eq_none {children : List Xml.Element}
    (noGroup : ∀ group, ¬Selects children group) : contentOfXml children = .ok none :=
  (selects_or_contentOfXml_eq_none children).resolve_left fun ⟨_, selected⟩ =>
    noGroup _ selected

end Particle

end SchemaContent
