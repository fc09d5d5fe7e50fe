import Mathlib.Data.List.Basic
import SchemaContent.Proofs.ContentGrammar

/-! # Skipped elements

Some children of an element say nothing about a content: those that a group passes over,
and those of elements and types that are not asked for. A tree without them, or without
some of them, is read as the tree with them is. -/

namespace SchemaContent

namespace Xml.Element

/-- The parent skips the child, whatever there is in it. -/
structure Skips (parent child : Xml.Element) : Prop where
  group : parent.IsGroup → child.IsPassedOver
  element : parent.tag = "element" → ¬child.IsType
  type : parent.tag = "complexType" ∨ parent.IsDerivation → ¬child.Decides
  content : parent.tag = "complexContent" → ¬child.IsDerivation

/-- The other tree is this one without a skipped child of some element in it, at any
depth. -/
inductive Prunes : Xml.Element → Xml.Element → Prop
  | here {name : ExpandedName} {attributes : List Xml.Attribute}
      (before after : List Xml.Element) {child : Xml.Element}
      (skips : Skips ⟨name, attributes, before ++ child :: after⟩ child) :
      Prunes ⟨name, attributes, before ++ child :: after⟩ ⟨name, attributes, before ++ after⟩
  | inside {name : ExpandedName} {attributes : List Xml.Attribute}
      (before after : List Xml.Element) {child other : Xml.Element}
      (prunes : Prunes child other) :
      Prunes ⟨name, attributes, before ++ child :: after⟩
        ⟨name, attributes, before ++ other :: after⟩

/-- Whatever can be read from one of the elements can be read from the other one. -/
structure ReadsAs (element other : Xml.Element) : Prop where
  particle : Particle.ofXml element = Particle.ofXml other
  type : AnonymousType.ofXml element = AnonymousType.ofXml other
  content : Particle.decidedContent element = Particle.decidedContent other
  derivation : Particle.derivationContent element = Particle.derivationContent other

end Xml.Element

open Xml.Element

/-! ## Children after others -/

section Append

variable (before : List Xml.Element) {children others : List Xml.Element}

theorem Particle.listOfXml_congr_append (same : listOfXml children = listOfXml others) :
    listOfXml (before ++ children) = listOfXml (before ++ others) := by
  induction before with
  | nil => exact same
  | cons first rest induction =>
      rw [List.cons_append, List.cons_append, listOfXml, listOfXml, induction]

theorem AnonymousType.lastOfXml_congr_append (same : lastOfXml children = lastOfXml others) :
    lastOfXml (before ++ children) = lastOfXml (before ++ others) := by
  induction before with
  | nil => exact same
  | cons first rest induction =>
      rw [List.cons_append, List.cons_append, lastOfXml, lastOfXml, induction]

theorem Particle.contentOfXml_congr_append (same : contentOfXml children = contentOfXml others) :
    contentOfXml (before ++ children) = contentOfXml (before ++ others) := by
  induction before with
  | nil => exact same
  | cons first rest induction =>
      rw [List.cons_append, List.cons_append, contentOfXml, contentOfXml, induction]

theorem Particle.derivedContent_congr_append
    (same : derivedContent children = derivedContent others) :
    derivedContent (before ++ children) = derivedContent (before ++ others) := by
  induction before with
  | nil => exact same
  | cons first rest induction =>
      rw [List.cons_append, List.cons_append, derivedContent, derivedContent, induction]

end Append

/-! ## Skipped children -/

/-- An element is read as its children are, in the way that its tag asks for. -/
theorem Xml.Element.readsAs_of_children {name : ExpandedName} {attributes : List Xml.Attribute}
    {children others : List Xml.Element}
    (group : IsGroup ⟨name, attributes, children⟩ →
      Particle.listOfXml children = Particle.listOfXml others)
    (element : name.localName = "element" →
      AnonymousType.lastOfXml children = AnonymousType.lastOfXml others)
    (type : name.localName = "complexType" ∨ IsDerivation ⟨name, attributes, children⟩ →
      Particle.contentOfXml children = Particle.contentOfXml others)
    (content : name.localName = "complexContent" →
      Particle.derivedContent children = Particle.derivedContent others) :
    ReadsAs ⟨name, attributes, children⟩ ⟨name, attributes, others⟩ := by
  constructor
  · rw [Particle.ofXml, Particle.ofXml]
    split
    case isTrue isElement => rw [element isElement]
    case isFalse =>
      cases isGroup : Compositor.ofTag name.localName with
      | some compositor => simp only [group (isGroup_iff.mpr (by rw [tag, isGroup]; rfl))]
      | none => rfl
  · rw [AnonymousType.ofXml, AnonymousType.ofXml]
    split
    case isTrue => rfl
    split
    case isTrue isComplex => rw [type (.inl isComplex)]
    case isFalse => rfl
  · rw [Particle.decidedContent, Particle.decidedContent]
    cases isGroup : Compositor.ofTag name.localName with
    | some compositor => simp only [group (isGroup_iff.mpr (by rw [tag, isGroup]; rfl))]
    | none =>
        dsimp only
        split
        case isTrue isContent => rw [content isContent]
        case isFalse => rfl
  · rw [Particle.derivationContent, Particle.derivationContent]
    split
    case isTrue isDerivation => rw [type (.inr (isDerivation_iff.mpr isDerivation))]
    case isFalse => rfl

/-- By induction on the way down to the skipped child. -/
theorem Xml.Element.Prunes.readsAs {element pruned : Xml.Element}
    (prunes : element.Prunes pruned) : element.ReadsAs pruned := by
  induction prunes with
  | @here name attributes before after child skips =>
      apply readsAs_of_children
      · intro isGroup
        apply Particle.listOfXml_congr_append
        rw [Particle.listOfXml, (Particle.ofXml_eq_none_iff child).mpr (skips.group isGroup)]
        exact bind_pure (Particle.listOfXml after)
      · intro isElement
        apply AnonymousType.lastOfXml_congr_append
        rw [AnonymousType.lastOfXml,
          AnonymousType.ofXml_of_not_isType (skips.element isElement)]
        change (do return (← AnonymousType.lastOfXml after).or none) = _
        simp only [Option.or_none, bind_pure]
      · intro isType
        apply Particle.contentOfXml_congr_append
        rw [Particle.contentOfXml, Particle.decidedContent_eq_none (skips.type isType)]
      · intro isContent
        apply Particle.derivedContent_congr_append
        rw [Particle.derivedContent,
          Particle.derivationContent_eq_none (skips.content isContent), Option.none_or]
  | @inside name attributes before after child other _ induction =>
      apply readsAs_of_children
      · intro _
        apply Particle.listOfXml_congr_append
        rw [Particle.listOfXml, Particle.listOfXml, induction.particle]
      · intro _
        apply AnonymousType.lastOfXml_congr_append
        rw [AnonymousType.lastOfXml, AnonymousType.lastOfXml, induction.type]
      · intro _
        apply Particle.contentOfXml_congr_append
        rw [Particle.contentOfXml, Particle.contentOfXml, induction.content]
      · intro _
        apply Particle.derivedContent_congr_append
        rw [Particle.derivedContent, Particle.derivedContent, induction.derivation]

/-! ## Contents -/

/-- A group is read just if its tree is in the grammar. What is read has a particle for each
child that is not passed over, in order and at every depth, and a tree without skipped
children gives the same result. -/
theorem Particle.ofXml_of_isGroup {element : Xml.Element} (isGroup : element.IsGroup) :
    ((∃ read, ofXml element = .ok read) ↔ element.Accepted) ∧
      (∀ read, ofXml element = .ok read →
        ∃ particle, read = some particle ∧ particle.Mirrors element) ∧
      ∀ pruned, element.Prunes pruned → ofXml pruned = ofXml element := by
  refine ⟨⟨?_, ?_⟩, ?_, ?_⟩
  · rintro ⟨read, isRead⟩
    rcases exists_some_of_isGroup isGroup isRead with ⟨particle, rfl⟩
    exact (readsTruly element particle isRead).1
  · intro accepted
    rcases accepted.exists_particle with ⟨particle, isRead⟩
    exact ⟨some particle, isRead⟩
  · intro read isRead
    rcases exists_some_of_isGroup isGroup isRead with ⟨particle, rfl⟩
    exact ⟨particle, rfl, (readsTruly element particle isRead).2⟩
  · exact fun pruned prunes => prunes.readsAs.particle.symm

end SchemaContent

/-! ### Orders

A sequence with children that are passed over, one of them between two types of an element,
and with a type whose content is that of a restriction after a group reference. -/

namespace SchemaContent.OrderTrees

open Xml.Element

def node (tag : String) (attributes : List (String × String))
    (children : List Xml.Element) : Xml.Element :=
  ⟨⟨some schemaNamespace, tag⟩,
    attributes.map fun (name, value) => ⟨⟨none, name⟩, value⟩, children⟩

def lines (skipped : List Xml.Element) : Xml.Element :=
  node "element" [("name", "line"), ("maxOccurs", "unbounded")] [
    node "simpleType" [] [node "list" [] []],
    node "annotation" [] [],
    node "complexType" [] [
      node "group" [("ref", "unknown")] [],
      node "complexContent" [] [node "annotation" [] []],
      node "complexContent" [] [
        node "restriction" [("base", "any")] [
          node "choice" [("minOccurs", "+0")]
            (skipped ++ [node "element" [("ref", "part")] []])],
        node "extension" [] [node "all" [("minOccurs", "many")] []]],
      node "sequence" [] [node "unexpected" [] []]]]

def order (skipped : List Xml.Element) : Xml.Element :=
  node "sequence" [] [
    node "annotation" [] [node "element" [] []],
    lines skipped,
    node "any" [] []]

def part : Particle :=
  .element ⟨.reference ⟨none, "part"⟩, none, none, [], .unstated, none⟩

def content : Particle :=
  .group .sequence ⟨.unstated, [
    .element ⟨.named "line", none,
      some (.complex ⟨none, some (.group .choice ⟨⟨some 0, none⟩, [part]⟩)⟩),
      [], ⟨none, some .unbounded⟩, none⟩]⟩

theorem skips_any : Skips
    (node "choice" [("minOccurs", "+0")] [node "any" [] [], node "element" [("ref", "part")] []])
    (node "any" [] []) where
  group _ := .inr (.inl rfl)
  element isElement := absurd isElement (by decide)
  type isType := by
    rcases isType with isTag | isTag | isTag
    all_goals exact absurd isTag (by decide)
  content isContent := absurd isContent (by decide)

theorem ofXml_of_order :
    (order [node "any" [] []]).IsGroup ∧ (order [node "any" [] []]).Accepted ∧
      content.Mirrors (order [node "any" [] []]) ∧
      Particle.ofXml (order []) = .ok (some content) := by
  have isGroup : (order [node "any" [] []]).IsGroup := .inl rfl
  have isRead : Particle.ofXml (order [node "any" [] []]) = .ok (some content) := by
    decide +kernel
  have prunes : Prunes (order [node "any" [] []]) (order []) :=
    .inside [node "annotation" [] [node "element" [] []]] [node "any" [] []] <|
    .inside [node "simpleType" [] [node "list" [] []], node "annotation" [] []] [] <|
    .inside [node "group" [("ref", "unknown")] [],
        node "complexContent" [] [node "annotation" [] []]]
      [node "sequence" [] [node "unexpected" [] []]] <|
    .inside [] [node "extension" [] [node "all" [("minOccurs", "many")] []]] <|
    .inside [] [] <| .here [] [node "element" [("ref", "part")] []] skips_any
  rcases Particle.ofXml_of_isGroup isGroup with ⟨acceptedIff, mirrors, pruned⟩
  rcases mirrors _ isRead with ⟨particle, same, particleMirrors⟩
  cases same
  exact ⟨isGroup, acceptedIff.mp ⟨_, isRead⟩, particleMirrors, (pruned _ prunes).trans isRead⟩

end SchemaContent.OrderTrees
