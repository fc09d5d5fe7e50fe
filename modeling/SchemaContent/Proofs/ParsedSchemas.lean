import SchemaContent.Schema.Reading
import SchemaContent.Steps

/-! # What documents cannot say

A schema that was read from a document has properties that a schema as such need not
have: it does not import the namespace it declares its components in, and the content
of a type in it is a group, never a single element. -/

namespace SchemaContent

/-! ## Grouped contents -/

mutual

/-- Each type inside, at any depth, has a group as its content or no content. -/
def Particle.Grouped : Particle → Prop
  | .element declaration => declaration.Grouped
  | .group _ group => group.Grouped

def ModelGroup.Grouped : ModelGroup → Prop
  | ⟨_, particles⟩ => Particle.AllGrouped particles

def Particle.AllGrouped : List Particle → Prop
  | [] => True
  | particle :: rest => particle.Grouped ∧ Particle.AllGrouped rest

def ElementDeclaration.Grouped : ElementDeclaration → Prop
  | ⟨_, _, anonymousType, _, _, _⟩ => AnonymousType.GroupedInside anonymousType

def AnonymousType.GroupedInside : Option AnonymousType → Prop
  | none => True
  | some .simple => True
  | some (.complex definition) => definition.Grouped

/-- The content is a group or there is none, and each type inside is like this. -/
def ComplexType.Grouped : ComplexType → Prop
  | ⟨_, content⟩ => Particle.GroupedContent content

def Particle.GroupedContent : Option Particle → Prop
  | none => True
  | some (.element _) => False
  | some (.group _ group) => group.Grouped

end

theorem ElementDeclaration.Grouped.of_anonymousType {declaration : ElementDeclaration}
    {definition : ComplexType} (grouped : declaration.Grouped)
    (isComplex : declaration.anonymousType = some (.complex definition)) :
    definition.Grouped := by
  cases declaration
  cases isComplex
  exact grouped

/-! ## Reading content -/

theorem ElementDeclaration.grouped_of_ofAttributes {attributes : List Xml.Attribute}
    {declared : Declared} {anonymousType : Option AnonymousType}
    {declaration : ElementDeclaration} (grouped : AnonymousType.GroupedInside anonymousType)
    (read : ofAttributes attributes declared anonymousType = .ok declaration) :
    declaration.Grouped := by
  have ⟨_, _, read⟩ := exists_of_bind_eq_ok read
  have ⟨_, _, read⟩ := exists_of_bind_eq_ok read
  cases read
  exact grouped

theorem ModelGroup.grouped_of_ofAttributes {attributes : List Xml.Attribute}
    {particles : List Particle} {group : ModelGroup} (grouped : Particle.AllGrouped particles)
    (read : ofAttributes attributes particles = .ok group) : group.Grouped := by
  have ⟨_, _, read⟩ := exists_of_bind_eq_ok read
  cases read
  exact grouped

mutual

theorem Particle.grouped_of_ofXml : ∀ (element : Xml.Element) {particle : Particle},
    Particle.ofXml element = .ok (some particle) → particle.Grouped
  | ⟨name, attributes, children⟩, particle, read => by
      rw [Particle.ofXml] at read
      split at read
      · have ⟨declared, _, read⟩ := exists_of_bind_eq_ok read
        have ⟨anonymousType, typed, read⟩ := exists_of_bind_eq_ok read
        have ⟨declaration, isDeclaration, read⟩ := exists_of_bind_eq_ok read
        cases read
        exact ElementDeclaration.grouped_of_ofAttributes
          (AnonymousType.grouped_of_lastOfXml children typed) isDeclaration
      · split at read
        · have ⟨particles, listed, read⟩ := exists_of_bind_eq_ok read
          have ⟨group, isGroup, read⟩ := exists_of_bind_eq_ok read
          cases read
          exact ModelGroup.grouped_of_ofAttributes
            (Particle.grouped_of_listOfXml children listed) isGroup
        · split at read <;> cases read

theorem Particle.grouped_of_listOfXml : ∀ (elements : List Xml.Element)
    {particles : List Particle},
    Particle.listOfXml elements = .ok particles → Particle.AllGrouped particles
  | [], particles, read => by
      rw [Particle.listOfXml] at read
      cases read
      trivial
  | element :: rest, particles, read => by
      rw [Particle.listOfXml] at read
      have ⟨first, isFirst, read⟩ := exists_of_bind_eq_ok read
      have ⟨others, listed, read⟩ := exists_of_bind_eq_ok read
      cases read
      have ofRest := Particle.grouped_of_listOfXml rest listed
      cases first with
      | none => exact ofRest
      | some particle => exact ⟨Particle.grouped_of_ofXml element isFirst, ofRest⟩

theorem AnonymousType.grouped_of_ofXml : ∀ (element : Xml.Element)
    {anonymousType : Option AnonymousType},
    AnonymousType.ofXml element = .ok anonymousType →
      AnonymousType.GroupedInside anonymousType
  | ⟨name, attributes, children⟩, anonymousType, read => by
      rw [AnonymousType.ofXml] at read
      split at read
      · cases read
        trivial
      · split at read
        · have ⟨content, isContent, read⟩ := exists_of_bind_eq_ok read
          cases read
          exact Particle.grouped_of_contentOfXml children isContent
        · cases read
          trivial

theorem AnonymousType.grouped_of_lastOfXml : ∀ (elements : List Xml.Element)
    {anonymousType : Option AnonymousType},
    AnonymousType.lastOfXml elements = .ok anonymousType →
      AnonymousType.GroupedInside anonymousType
  | [], anonymousType, read => by
      rw [AnonymousType.lastOfXml] at read
      cases read
      trivial
  | element :: rest, anonymousType, read => by
      rw [AnonymousType.lastOfXml] at read
      have ⟨first, isFirst, read⟩ := exists_of_bind_eq_ok read
      have ⟨later, isLater, read⟩ := exists_of_bind_eq_ok read
      cases read
      cases later with
      | none => exact AnonymousType.grouped_of_ofXml element isFirst
      | some type => exact AnonymousType.grouped_of_lastOfXml rest isLater

theorem Particle.grouped_of_decidedContent : ∀ (element : Xml.Element)
    {content : Option Particle},
    Particle.decidedContent element = some (.ok content) → Particle.GroupedContent content
  | ⟨name, attributes, children⟩, content, decided => by
      rw [Particle.decidedContent] at decided
      split at decided
      · have read := Option.some.inj decided
        have ⟨particles, listed, read⟩ := exists_of_bind_eq_ok read
        have ⟨group, isGroup, read⟩ := exists_of_bind_eq_ok read
        cases read
        exact ModelGroup.grouped_of_ofAttributes
          (Particle.grouped_of_listOfXml children listed) isGroup
      · split at decided
        · exact Particle.grouped_of_derivedContent children decided
        · cases decided

theorem Particle.grouped_of_contentOfXml : ∀ (elements : List Xml.Element)
    {content : Option Particle},
    Particle.contentOfXml elements = .ok content → Particle.GroupedContent content
  | [], content, read => by
      rw [Particle.contentOfXml] at read
      cases read
      trivial
  | element :: rest, content, read => by
      rw [Particle.contentOfXml] at read
      split at read
      · rename_i outcome decided
        exact Particle.grouped_of_decidedContent element (read ▸ decided)
      · exact Particle.grouped_of_contentOfXml rest read

theorem Particle.grouped_of_derivationContent : ∀ (element : Xml.Element)
    {content : Option Particle},
    Particle.derivationContent element = some (.ok content) →
      Particle.GroupedContent content
  | ⟨name, attributes, children⟩, content, derived => by
      rw [Particle.derivationContent] at derived
      split at derived
      · exact Particle.grouped_of_contentOfXml children (Option.some.inj derived)
      · cases derived

theorem Particle.grouped_of_derivedContent : ∀ (elements : List Xml.Element)
    {content : Option Particle},
    Particle.derivedContent elements = some (.ok content) → Particle.GroupedContent content
  | [], content, derived => by
      rw [Particle.derivedContent] at derived
      cases derived
  | element :: rest, content, derived => by
      rw [Particle.derivedContent] at derived
      cases ofElement : Particle.derivationContent element with
      | none =>
          rw [ofElement] at derived
          exact Particle.grouped_of_derivedContent rest derived
      | some outcome =>
          rw [ofElement] at derived
          cases derived
          exact Particle.grouped_of_derivationContent element ofElement

end

theorem ElementDeclaration.grouped_of_topLevelOfXml {element : Xml.Element}
    {declaration : ElementDeclaration} (read : topLevelOfXml element = .ok declaration) :
    declaration.Grouped := by
  have ⟨declared, _, read⟩ := exists_of_bind_eq_ok read
  have ⟨anonymousType, typed, read⟩ := exists_of_bind_eq_ok read
  have ⟨made, isMade, read⟩ := exists_of_bind_eq_ok read
  cases declared with
  | reference => cases read
  | named =>
      cases read
      exact grouped_of_ofAttributes (AnonymousType.grouped_of_lastOfXml _ typed) isMade

theorem ComplexType.grouped_of_ofXml {element : Xml.Element} {definition : ComplexType}
    (read : ComplexType.ofXml element = .ok definition) : definition.Grouped := by
  have ⟨content, isContent, read⟩ := exists_of_bind_eq_ok read
  cases read
  exact Particle.grouped_of_contentOfXml _ isContent

/-! ## Reading directives -/

/-- An import names a namespace other than that of its schema, or names one where its
schema has none. -/
theorem Directive.uri_ne_of_ofXml {targetNamespace : Option String} {element : Xml.Element}
    {kind : DirectiveKind} {directive : Directive}
    (read : Directive.ofXml kind targetNamespace element = .ok directive)
    (imports : directive.kind = .importing) : directive.uri ≠ targetNamespace := by
  intro own
  unfold Directive.ofXml at read
  dsimp only at read
  split at read
  case h_1 imported target isUri =>
    split at read
    case isTrue => cases read
    case isFalse other =>
      cases read
      exact other (Option.some.inj (isUri.symm.trans own))
  case h_2 => cases read
  case h_3 notBoth notNeither =>
    cases read
    cases imports
    cases isUri : Attributes.text? element.attributes "namespace" with
    | none => exact notNeither rfl isUri (own.symm.trans isUri)
    | some imported => exact notBoth imported imported rfl isUri (own.symm.trans isUri)

/-! ## Schemas read from documents -/

namespace TopLevel

/-- What a document with this target namespace can declare at the top level. -/
def Sayable (targetNamespace : Option String) : TopLevel → Prop
  | .directive found => found.kind = .importing → found.uri ≠ targetNamespace
  | .element found => found.Grouped
  | .complexType found => found.Grouped
  | .simpleType _ => True
  | .passedOver => True

theorem sayable_of_ofXml {targetNamespace : Option String} {element : Xml.Element}
    {part : TopLevel} (read : ofXml targetNamespace element = .ok part) :
    part.Sayable targetNamespace := by
  simp only [ofXml] at read
  split at read
  · have ⟨found, isFound, same⟩ := exists_of_map_eq_ok read
    subst same
    exact Directive.uri_ne_of_ofXml isFound
  split at read
  · have ⟨found, isFound, same⟩ := exists_of_map_eq_ok read
    subst same
    exact Directive.uri_ne_of_ofXml isFound
  split at read
  · have ⟨found, isFound, same⟩ := exists_of_map_eq_ok read
    subst same
    exact ElementDeclaration.grouped_of_topLevelOfXml isFound
  split at read
  · have ⟨found, isFound, same⟩ := exists_of_map_eq_ok read
    subst same
    exact ComplexType.grouped_of_ofXml isFound
  split at read
  · have ⟨found, _, same⟩ := exists_of_map_eq_ok read
    subst same
    trivial
  split at read
  · cases read
    trivial
  · cases read

end TopLevel

/-- The schema was read from the text of a document, wherever that was found. -/
def Schema.IsParsed (schema : Schema) : Prop :=
  ∃ text allowDoctype read,
    Schema.parse text allowDoctype = .ok read ∧ schema = { read with location := schema.location }

namespace Schema.IsParsed

variable {schema : Schema}

/-- Everything in a schema was read from a child of the root of its document. -/
theorem exists_parts (parsed : schema.IsParsed) :
    ∃ parts : List TopLevel,
      (∀ part ∈ parts, part.Sayable schema.targetNamespace) ∧
        schema.directives = parts.filterMap TopLevel.directive? ∧
        schema.elements = parts.filterMap TopLevel.element? ∧
        schema.complexTypes = parts.filterMap TopLevel.complexType? := by
  have ⟨text, allowDoctype, read, isRead, same⟩ := parsed
  rw [parse] at isRead
  split at isRead
  · cases isRead
  · rename_i document _
    rw [ofXml] at isRead
    split at isRead
    · cases isRead
    · have ⟨elementForm, _, isRead⟩ := exists_of_bind_eq_ok isRead
      have ⟨parts, made, isRead⟩ := exists_of_bind_eq_ok isRead
      cases isRead
      rw [same]
      refine ⟨parts, ?_, rfl, rfl, rfl⟩
      intro part isPart
      have ⟨child, _, readPart⟩ := exists_of_mem_of_mapM_eq_ok made part isPart
      exact TopLevel.sayable_of_ofXml readPart

/-- A schema that was read does not import its own namespace. -/
theorem not_imports_own (parsed : schema.IsParsed) :
    schema.importsNamespace schema.targetNamespace = false := by
  have ⟨parts, sayable, directives, _, _⟩ := parsed.exists_parts
  rw [importsNamespace, List.any_eq_false]
  intro directive isDirective
  rw [directives] at isDirective
  have ⟨part, isPart, isDirective⟩ := List.mem_filterMap.mp isDirective
  have other := sayable part isPart
  cases part with
  | directive found =>
      cases isDirective
      simpa [TopLevel.Sayable] using other
  | _ => cases isDirective

theorem grouped_of_mem_elements (parsed : schema.IsParsed) {declaration : ElementDeclaration}
    (isElement : declaration ∈ schema.elements) : declaration.Grouped := by
  have ⟨parts, sayable, _, elements, _⟩ := parsed.exists_parts
  rw [elements] at isElement
  have ⟨part, isPart, isElement⟩ := List.mem_filterMap.mp isElement
  have grouped := sayable part isPart
  cases part with
  | element found =>
      cases isElement
      exact grouped
  | _ => cases isElement

theorem grouped_of_mem_complexTypes (parsed : schema.IsParsed) {definition : ComplexType}
    (isType : definition ∈ schema.complexTypes) : definition.Grouped := by
  have ⟨parts, sayable, _, _, complexTypes⟩ := parsed.exists_parts
  rw [complexTypes] at isType
  have ⟨part, isPart, isType⟩ := List.mem_filterMap.mp isType
  have grouped := sayable part isPart
  cases part with
  | complexType found =>
      cases isType
      exact grouped
  | _ => cases isType

end Schema.IsParsed

end SchemaContent
