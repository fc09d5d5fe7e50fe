import Mathlib.Data.List.Basic
import SchemaContent.Proofs.BindingOrder
import SchemaContent.Proofs.ParsedSchemas
import SchemaContent.Proofs.WrittenValues

/-! # Schemas as they are written

A schema is written as an element tree: an attribute for each field that is there, and a
child for each component, with groups and anonymous types inside one another as deep as
they are. Reading the tree gives the schema again. -/

namespace SchemaContent

/-! ## Writing -/

/-- An element of schema documents with the attributes that are given. -/
def schemaElement (tag : String) (fields : List (String × Option String))
    (children : List Xml.Element) : Xml.Element :=
  ⟨⟨some schemaNamespace, tag⟩, Attributes.written fields, children⟩

def Compositor.tag : Compositor → String
  | .sequence => "sequence"
  | .choice => "choice"
  | .all => "all"

/-- The local name that an element is written with, if it is not a reference. -/
def Declared.localName? : Declared → Option String
  | .named localName => some localName
  | .reference _ => none

def ElementDeclaration.fields (declaration : ElementDeclaration) :
    List (String × Option String) := [
  ("name", declaration.declared.localName?),
  ("ref", declaration.declared.reference?.map Reference.text),
  ("type", declaration.typeName.map Reference.text),
  ("substitutionGroup", Reference.listText declaration.substitutionGroup),
  ("minOccurs", declaration.occurrence.min.map fun count => toString count.toNat),
  ("maxOccurs", declaration.occurrence.max.map MaxOccurs.text),
  ("form", declaration.form.map Form.text)]

def ModelGroup.fields (group : ModelGroup) : List (String × Option String) := [
  ("minOccurs", group.occurrence.min.map fun count => toString count.toNat),
  ("maxOccurs", group.occurrence.max.map MaxOccurs.text)]

mutual

def Particle.toXml : Particle → Xml.Element
  | .element declaration => declaration.toXml
  | .group compositor group => group.toXml compositor

def ModelGroup.toXml (compositor : Compositor) : ModelGroup → Xml.Element
  | ⟨occurrence, particles⟩ =>
    schemaElement compositor.tag (ModelGroup.fields ⟨occurrence, particles⟩)
      (Particle.listToXml particles)

def Particle.listToXml : List Particle → List Xml.Element
  | [] => []
  | particle :: rest => particle.toXml :: Particle.listToXml rest

def ElementDeclaration.toXml : ElementDeclaration → Xml.Element
  | ⟨declared, typeName, anonymousType, substitutionGroup, occurrence, form⟩ =>
    schemaElement "element"
      (ElementDeclaration.fields
        ⟨declared, typeName, anonymousType, substitutionGroup, occurrence, form⟩)
      (AnonymousType.childToXml anonymousType)

def AnonymousType.childToXml : Option AnonymousType → List Xml.Element
  | none => []
  | some .simple => [schemaElement "simpleType" [] []]
  | some (.complex definition) => [definition.toXml]

def ComplexType.toXml : ComplexType → Xml.Element
  | ⟨name, content⟩ => schemaElement "complexType" [("name", name)] (Particle.childToXml content)

def Particle.childToXml : Option Particle → List Xml.Element
  | none => []
  | some particle => [particle.toXml]

end

def DirectiveKind.tag : DirectiveKind → String
  | .importing => "import"
  | .including => "include"

def Directive.toXml (directive : Directive) : Xml.Element :=
  schemaElement directive.kind.tag
    [("namespace", directive.uri), ("schemaLocation", directive.location)] []

def TopLevel.toXml : TopLevel → Xml.Element
  | .directive found => found.toXml
  | .element found => found.toXml
  | .complexType found => found.toXml
  | .simpleType name => schemaElement "simpleType" [("name", some name)] []
  | .passedOver => schemaElement "annotation" [] []

/-- The document of a schema, with these parts in their order. -/
def Schema.document (schema : Schema) (parts : List TopLevel) : Xml.Document where
  bindings := schema.bindings.declarations
  root := schemaElement "schema"
    [("targetNamespace", schema.targetNamespace),
      ("elementFormDefault", some schema.elementForm.text)]
    (parts.map TopLevel.toXml)

/-! ## What can be read back -/

def Declared.Legible : Declared → Prop
  | .named localName => Text.Unpadded localName.toList
  | .reference referred => referred.Legible

mutual

/-- The names and references in it are read back from their texts, at any depth. -/
def Particle.Legible : Particle → Prop
  | .element declaration => declaration.Legible
  | .group _ group => group.Legible

def ModelGroup.Legible : ModelGroup → Prop
  | ⟨_, particles⟩ => Particle.AllLegible particles

def Particle.AllLegible : List Particle → Prop
  | [] => True
  | particle :: rest => particle.Legible ∧ Particle.AllLegible rest

def ElementDeclaration.Legible : ElementDeclaration → Prop
  | ⟨declared, typeName, anonymousType, substitutionGroup, _, _⟩ =>
    declared.Legible ∧ (∀ reference ∈ typeName, reference.Legible) ∧
      (∀ head ∈ substitutionGroup, head.Listable) ∧ AnonymousType.LegibleInside anonymousType

def AnonymousType.LegibleInside : Option AnonymousType → Prop
  | none => True
  | some .simple => True
  | some (.complex definition) => definition.Legible

def ComplexType.Legible : ComplexType → Prop
  | ⟨name, content⟩ =>
    (∀ localName ∈ name, Text.Unpadded localName.toList) ∧ Particle.LegibleContent content

def Particle.LegibleContent : Option Particle → Prop
  | none => True
  | some particle => particle.Legible

end

/-- The names in it are read back, and an import is not of the schema's own namespace. -/
structure Directive.Legible (directive : Directive) (targetNamespace : Option String) :
    Prop where
  uri : ∀ uri ∈ directive.uri, Text.Unpadded uri.toList
  location : ∀ location ∈ directive.location, Text.Unpadded location.toList
  notOwn : directive.kind = .importing → directive.uri ≠ targetNamespace

/-- A schema that has no location, and whose components are read back. -/
structure Schema.Legible (schema : Schema) : Prop where
  location : schema.location = none
  targetNamespace : ∀ uri ∈ schema.targetNamespace, Text.Unpadded uri.toList
  directives : ∀ directive ∈ schema.directives, directive.Legible schema.targetNamespace
  elements : ∀ declaration ∈ schema.elements, declaration.Legible ∧ declaration.Grouped ∧
    ∃ localName, declaration.declared = .named localName
  complexTypes : ∀ definition ∈ schema.complexTypes, definition.Legible ∧ definition.Grouped
  simpleTypes : ∀ localName ∈ schema.simpleTypes, Text.Unpadded localName.toList

/-- These are the parts of the schema, those of each kind in their order. -/
structure Schema.ConsistsOf (schema : Schema) (parts : List TopLevel) : Prop where
  directives : parts.filterMap TopLevel.directive? = schema.directives
  elements : parts.filterMap TopLevel.element? = schema.elements
  complexTypes : parts.filterMap TopLevel.complexType? = schema.complexTypes
  simpleTypes : parts.filterMap TopLevel.simpleType? = schema.simpleTypes

/-! ## Reading attributes -/

theorem ElementDeclaration.value?_fields (declaration : ElementDeclaration) {name : String}
    {value : Option String} (isField : (name, value) ∈ declaration.fields) :
    Xml.value? (Attributes.written declaration.fields) name = value := by
  apply Attributes.value?_written ?_ isField
  change ["name", "ref", "type", "substitutionGroup", "minOccurs", "maxOccurs", "form"].Nodup
  decide

theorem ModelGroup.value?_fields (group : ModelGroup) {name : String}
    {value : Option String} (isField : (name, value) ∈ group.fields) :
    Xml.value? (Attributes.written group.fields) name = value := by
  apply Attributes.value?_written ?_ isField
  change ["minOccurs", "maxOccurs"].Nodup
  decide

theorem Attributes.occurrence_eq {attributes : List Xml.Attribute} {bounds : Occurrence}
    (isMin : Xml.value? attributes "minOccurs" =
      bounds.min.map fun count => toString count.toNat)
    (isMax : Xml.value? attributes "maxOccurs" = bounds.max.map MaxOccurs.text) :
    occurrence attributes = .ok bounds := by
  rw [occurrence, read?_eq unpadded_toString readCount_toString isMin,
    read?_eq MaxOccurs.unpadded_text readMaxOccurs_text isMax]
  rfl

namespace ElementDeclaration

theorem readDeclared_eq {attributes : List Xml.Attribute} {declared : Declared}
    (legible : declared.Legible) (isName : Xml.value? attributes "name" = declared.localName?)
    (isReference : Xml.value? attributes "ref" = declared.reference?.map Reference.text) :
    readDeclared attributes = .ok declared := by
  cases declared with
  | named localName =>
      have ofName : ∀ text ∈ (Declared.named localName).localName?, Text.Unpadded text.toList := by
        rintro _ ⟨⟩
        exact legible
      rw [readDeclared, Attributes.text?_eq isName ofName, Attributes.reference?_eq isReference]
      · rfl
      · exact nofun
  | reference referred =>
      rw [readDeclared, Attributes.reference?_eq isReference]
      · rfl
      · rintro _ ⟨⟩
        exact legible

theorem readDeclared_written (declaration : ElementDeclaration)
    (legible : declaration.declared.Legible) :
    readDeclared (Attributes.written declaration.fields) = .ok declaration.declared :=
  readDeclared_eq legible (declaration.value?_fields (by simp [fields]))
    (declaration.value?_fields (by simp [fields]))

theorem ofAttributes_written (declaration : ElementDeclaration)
    (legibleType : ∀ reference ∈ declaration.typeName, reference.Legible)
    (listable : ∀ head ∈ declaration.substitutionGroup, head.Listable) :
    ofAttributes (Attributes.written declaration.fields) declaration.declared
      declaration.anonymousType = .ok declaration := by
  let attributes := Attributes.written declaration.fields
  have occurrence : Attributes.occurrence attributes = .ok declaration.occurrence :=
    Attributes.occurrence_eq (declaration.value?_fields (by simp [fields]))
      (declaration.value?_fields (by simp [fields]))
  have form : Attributes.read? Attributes.readForm attributes "form" = .ok declaration.form :=
    Attributes.read?_eq Form.unpadded_text readForm_text
      (declaration.value?_fields (by simp [fields]))
  have typeName : Attributes.reference? attributes "type" = declaration.typeName :=
    Attributes.reference?_eq (declaration.value?_fields (by simp [fields])) legibleType
  have heads : Attributes.references attributes "substitutionGroup" =
      declaration.substitutionGroup :=
    Attributes.references_eq (declaration.value?_fields (by simp [fields])) listable
  rw [ofAttributes, occurrence, form, typeName, heads]
  cases declaration
  rfl

end ElementDeclaration

theorem ModelGroup.ofAttributes_written (group : ModelGroup) :
    ofAttributes (Attributes.written group.fields) group.particles = .ok group := by
  have occurrence : Attributes.occurrence (Attributes.written group.fields) =
      .ok group.occurrence :=
    Attributes.occurrence_eq (group.value?_fields (by simp [fields]))
      (group.value?_fields (by simp [fields]))
  rw [ofAttributes, occurrence]
  cases group
  rfl

/-! ## Reading trees -/

theorem Compositor.ofTag_tag (compositor : Compositor) :
    ofTag compositor.tag = some compositor := by
  cases compositor <;> rfl

theorem Compositor.tag_ne_element (compositor : Compositor) : compositor.tag ≠ "element" := by
  cases compositor <;> decide

mutual

/-- A particle is read back from its tree, by induction on it together with the groups and
the anonymous types inside it. -/
theorem Particle.ofXml_toXml : ∀ particle : Particle, particle.Legible → particle.Grouped →
    Particle.ofXml particle.toXml = .ok (some particle)
  | .element ⟨declared, typeName, anonymousType, heads, occurrence, form⟩, legible,
      grouped => by
      let declaration : ElementDeclaration :=
        ⟨declared, typeName, anonymousType, heads, occurrence, form⟩
      have ⟨legibleDeclared, legibleType, listable, legibleInside⟩ := legible
      have isDeclared := declaration.readDeclared_written legibleDeclared
      have typed := AnonymousType.lastOfXml_childToXml anonymousType legibleInside grouped
      have isDeclaration := declaration.ofAttributes_written legibleType listable
      rw [Particle.toXml, ElementDeclaration.toXml, schemaElement, Particle.ofXml, if_pos rfl,
        isDeclared, typed]
      exact congrArg (· >>= fun declaration => .ok (some (Particle.element declaration)))
        isDeclaration
  | .group compositor ⟨occurrence, particles⟩, legible, grouped => by
      have listed := Particle.listOfXml_listToXml particles legible grouped
      have isGroup := ModelGroup.ofAttributes_written ⟨occurrence, particles⟩
      rw [Particle.toXml, ModelGroup.toXml, schemaElement, Particle.ofXml,
        if_neg compositor.tag_ne_element, compositor.ofTag_tag]
      simp only [listed]
      exact congrArg (· >>= fun group => .ok (some (Particle.group compositor group))) isGroup

theorem Particle.listOfXml_listToXml : ∀ particles : List Particle,
    Particle.AllLegible particles → Particle.AllGrouped particles →
      Particle.listOfXml (Particle.listToXml particles) = .ok particles
  | [], _, _ => by
      rw [Particle.listToXml, Particle.listOfXml]
      rfl
  | particle :: rest, ⟨legible, legibleRest⟩, ⟨grouped, groupedRest⟩ => by
      rw [Particle.listToXml, Particle.listOfXml, Particle.ofXml_toXml particle legible grouped,
        Particle.listOfXml_listToXml rest legibleRest groupedRest]
      rfl

theorem AnonymousType.lastOfXml_childToXml : ∀ anonymousType : Option AnonymousType,
    AnonymousType.LegibleInside anonymousType → AnonymousType.GroupedInside anonymousType →
      AnonymousType.lastOfXml (AnonymousType.childToXml anonymousType) = .ok anonymousType
  | none, _, _ => by
      rw [AnonymousType.childToXml, AnonymousType.lastOfXml]
      rfl
  | some .simple, _, _ => by
      rw [AnonymousType.childToXml, AnonymousType.lastOfXml, AnonymousType.lastOfXml,
        schemaElement, AnonymousType.ofXml, if_pos rfl]
      rfl
  | some (.complex ⟨name, content⟩), legible, grouped => by
      have ⟨legibleName, legibleContent⟩ := legible
      have isContent := Particle.contentOfXml_childToXml content legibleContent grouped
      have isName : Attributes.text? (Attributes.written [("name", name)]) "name" = name :=
        Attributes.text?_written (by simp) (by simp) legibleName
      rw [AnonymousType.childToXml, AnonymousType.lastOfXml, AnonymousType.lastOfXml,
        ComplexType.toXml, schemaElement, AnonymousType.ofXml, if_neg (by decide), if_pos rfl,
        isContent, isName]
      rfl

theorem Particle.contentOfXml_childToXml : ∀ content : Option Particle,
    Particle.LegibleContent content → Particle.GroupedContent content →
      Particle.contentOfXml (Particle.childToXml content) = .ok content
  | none, _, _ => by
      rw [Particle.childToXml, Particle.contentOfXml]
      rfl
  -- A content that is grouped is no single element.
  | some (.group compositor ⟨occurrence, particles⟩), legible, grouped => by
      have listed := Particle.listOfXml_listToXml particles legible grouped
      have isGroup := ModelGroup.ofAttributes_written ⟨occurrence, particles⟩
      rw [Particle.childToXml, Particle.toXml, ModelGroup.toXml, schemaElement,
        Particle.contentOfXml, Particle.decidedContent, compositor.ofTag_tag]
      simp only [listed]
      exact congrArg (· >>= fun group => .ok (some (Particle.group compositor group))) isGroup

end

/-! ## Reading components -/

theorem ElementDeclaration.topLevelOfXml_toXml {declaration : ElementDeclaration}
    (legible : declaration.Legible) (grouped : declaration.Grouped) {localName : String}
    (named : declaration.declared = .named localName) :
    topLevelOfXml declaration.toXml = .ok declaration := by
  rcases declaration with ⟨declared, typeName, anonymousType, heads, occurrence, form⟩
  have isNamed : declared = .named localName := named
  subst isNamed
  let declaration : ElementDeclaration :=
    ⟨.named localName, typeName, anonymousType, heads, occurrence, form⟩
  have ⟨legibleDeclared, legibleType, listable, legibleInside⟩ := legible
  have isDeclared := declaration.readDeclared_written legibleDeclared
  have typed := AnonymousType.lastOfXml_childToXml anonymousType legibleInside grouped
  have isDeclaration := declaration.ofAttributes_written legibleType listable
  rw [ElementDeclaration.toXml, schemaElement, topLevelOfXml, isDeclared, typed]
  exact congrArg (· >>= fun declaration => .ok declaration) isDeclaration

theorem ComplexType.ofXml_toXml {definition : ComplexType} (legible : definition.Legible)
    (grouped : definition.Grouped) : ofXml definition.toXml = .ok definition := by
  rcases definition with ⟨name, content⟩
  have ⟨legibleName, legibleContent⟩ := legible
  have isContent := Particle.contentOfXml_childToXml content legibleContent grouped
  have isName : Attributes.text? (Attributes.written [("name", name)]) "name" = name :=
    Attributes.text?_written (by simp) (by simp) legibleName
  rw [toXml, schemaElement, ofXml, isContent, isName]
  rfl

theorem Directive.ofXml_eq_ok {kind : DirectiveKind} {targetNamespace : Option String}
    {element : Xml.Element} (notOwn : kind = .importing →
      Attributes.text? element.attributes "namespace" ≠ targetNamespace) :
    ofXml kind targetNamespace element =
      .ok ⟨kind, Attributes.text? element.attributes "namespace",
        Attributes.text? element.attributes "schemaLocation"⟩ := by
  unfold ofXml
  dsimp only
  split
  case h_1 imported own isUri =>
    rw [if_neg]
    rintro rfl
    exact notOwn rfl isUri
  case h_2 isUri => exact absurd isUri (notOwn rfl)
  case h_3 => rfl

theorem Directive.ofXml_toXml {directive : Directive} {targetNamespace : Option String}
    (legible : directive.Legible targetNamespace) :
    ofXml directive.kind targetNamespace directive.toXml = .ok directive := by
  have isUri : Attributes.text? directive.toXml.attributes "namespace" = directive.uri :=
    Attributes.text?_written (by simp) (by simp) legible.uri
  have isLocation :
      Attributes.text? directive.toXml.attributes "schemaLocation" = directive.location :=
    Attributes.text?_written (by simp) (by simp) legible.location
  rw [ofXml_eq_ok, isUri, isLocation]
  rw [isUri]
  exact legible.notOwn

namespace TopLevel

variable {schema : Schema} {parts : List TopLevel}

theorem ofXml_toXml (legible : schema.Legible) (consists : schema.ConsistsOf parts) :
    ∀ part ∈ parts, ofXml schema.targetNamespace part.toXml = .ok part := by
  intro part isPart
  cases part with
  | directive found =>
      have isDirective : found ∈ schema.directives :=
        consists.directives ▸ List.mem_filterMap.mpr ⟨_, isPart, rfl⟩
      have read := Directive.ofXml_toXml (legible.directives found isDirective)
      rcases found with ⟨kind, uri, location⟩
      cases kind with
      | importing => exact congrArg (TopLevel.directive <$> ·) read
      | including => exact congrArg (TopLevel.directive <$> ·) read
  | element found =>
      have isElement : found ∈ schema.elements :=
        consists.elements ▸ List.mem_filterMap.mpr ⟨_, isPart, rfl⟩
      have ⟨legibleFound, grouped, localName, named⟩ := legible.elements found isElement
      have read := ElementDeclaration.topLevelOfXml_toXml legibleFound grouped named
      rcases found with ⟨declared, typeName, anonymousType, heads, occurrence, form⟩
      exact congrArg (TopLevel.element <$> ·) read
  | complexType found =>
      have isType : found ∈ schema.complexTypes :=
        consists.complexTypes ▸ List.mem_filterMap.mpr ⟨_, isPart, rfl⟩
      have ⟨legibleFound, grouped⟩ := legible.complexTypes found isType
      have read := ComplexType.ofXml_toXml legibleFound grouped
      rcases found with ⟨name, content⟩
      exact congrArg (TopLevel.complexType <$> ·) read
  | simpleType name =>
      have isType : name ∈ schema.simpleTypes :=
        consists.simpleTypes ▸ List.mem_filterMap.mpr ⟨_, isPart, rfl⟩
      have isName : Attributes.text? (Attributes.written [("name", some name)]) "name" =
          some name := by
        apply Attributes.text?_written (by simp) (by simp)
        rintro _ ⟨⟩
        exact legible.simpleTypes name isType
      have read : Attributes.require (Attributes.written [("name", some name)]) "simpleType"
          "name" = .ok name := by
        rw [Attributes.require, isName]
      exact congrArg (TopLevel.simpleType <$> ·) read
  | passedOver => rfl

end TopLevel

namespace Schema

theorem ofXml_eq_ok {document : Xml.Document} {elementForm : Option Form}
    {parts : List TopLevel} (isSchema : document.root.name.localName = "schema")
    (formRead : Attributes.read? Attributes.readForm document.root.attributes
      "elementFormDefault" = .ok elementForm)
    (partsRead : document.root.children.mapM (TopLevel.ofXml
      (Attributes.text? document.root.attributes "targetNamespace")) = .ok parts) :
    ofXml document = .ok {
      location := none
      targetNamespace := Attributes.text? document.root.attributes "targetNamespace"
      elementForm := elementForm.getD .unqualified
      bindings := .ofList document.bindings
      directives := parts.filterMap TopLevel.directive?
      elements := parts.filterMap TopLevel.element?
      complexTypes := parts.filterMap TopLevel.complexType?
      simpleTypes := parts.filterMap TopLevel.simpleType? } := by
  rw [ofXml]
  simp only [isSchema, formRead, partsRead]
  rfl

/-- The parts of a schema, kind by kind. -/
def parts (schema : Schema) : List TopLevel :=
  schema.directives.map .directive ++ schema.elements.map .element ++
    schema.complexTypes.map .complexType ++ schema.simpleTypes.map .simpleType

theorem consistsOf_parts (schema : Schema) : schema.ConsistsOf schema.parts where
  directives := by simp [parts, Function.comp_def, TopLevel.directive?]
  elements := by simp [parts, Function.comp_def, TopLevel.element?]
  complexTypes := by simp [parts, Function.comp_def, TopLevel.complexType?]
  simpleTypes := by simp [parts, Function.comp_def, TopLevel.simpleType?]

/-- A schema is read back however it is written: kind by kind, or with its parts in any
other order that keeps the order within each kind. -/
theorem ofXml_document {schema : Schema} (legible : schema.Legible) :
    schema.ConsistsOf schema.parts ∧
      ∀ parts, schema.ConsistsOf parts → ofXml (schema.document parts) = .ok schema := by
  refine ⟨schema.consistsOf_parts, ?_⟩
  intro parts consists
  let attributes := (schema.document parts).root.attributes
  have isTarget : Attributes.text? attributes "targetNamespace" = schema.targetNamespace :=
    Attributes.text?_written (by simp) (by simp) legible.targetNamespace
  have formRead : Attributes.read? Attributes.readForm attributes "elementFormDefault" =
      .ok (some schema.elementForm) :=
    Attributes.read?_eq Form.unpadded_text readForm_text
      (Attributes.value?_written (by simp) (by simp))
  have partsRead : (parts.map TopLevel.toXml).mapM
      (TopLevel.ofXml (Attributes.text? attributes "targetNamespace")) = .ok parts := by
    have eachRead : ∀ part ∈ parts,
        TopLevel.ofXml schema.targetNamespace part.toXml = .ok (id part) :=
      TopLevel.ofXml_toXml legible consists
    rw [isTarget, List.mapM_map]
    exact (mapM_eq_ok_map eachRead).trans (congrArg _ (List.map_id parts))
  have bindings : Bindings.ofList (schema.document parts).bindings = schema.bindings :=
    schema.bindings.ofList_declarations
  rw [ofXml_eq_ok rfl formRead partsRead, isTarget, bindings, consists.directives,
    consists.elements, consists.complexTypes, consists.simpleTypes, ← legible.location]
  rfl

end Schema

/-! ### Orders

Inline types inside groups inside inline types, and attributes of every kind. -/

namespace Orders

def element (declared : Declared) (anonymousType : Option AnonymousType)
    (occurrence : Occurrence) : ElementDeclaration :=
  ⟨declared, none, anonymousType, [], occurrence, none⟩

def group (compositor : Compositor) (occurrence : Occurrence) (particles : List Particle) :
    Particle :=
  .group compositor ⟨occurrence, particles⟩

/-- Its bounds are as great as they can be. -/
def line : ElementDeclaration :=
  element (.named "line")
    (some (.complex ⟨none, some (group .all ⟨some 0, none⟩ [
      .element (element (.reference ⟨some "s", "item"⟩) none .unstated),
      .element (element (.named "note") (some .simple) .unstated)])⟩))
    ⟨some 18446744073709551615, some (.count 18446744073709551615)⟩

def order : ElementDeclaration where
  declared := .named "order"
  typeName := none
  anonymousType := some (.complex ⟨none, some (group .sequence .unstated [
    group .choice ⟨none, some .unbounded⟩ [.element line, group .sequence .unstated []]])⟩)
  substitutionGroup := [⟨some "s", "paper"⟩, ⟨none, "form"⟩, ⟨some "a:b", ""⟩]
  occurrence := .unstated
  form := some .qualified

def item : ElementDeclaration :=
  ⟨.named "item", some ⟨some "s", "Item"⟩, none, [], .unstated, none⟩

def schema : Schema where
  location := none
  targetNamespace := some "urn:shop"
  elementForm := .qualified
  bindings := .ofList [(some "s", "urn:shop"), (none, schemaNamespace)]
  directives := [⟨.importing, none, some "all.xsd"⟩, ⟨.including, some "urn:shop", none⟩]
  elements := [order, item]
  complexTypes := [⟨some "Item", none⟩]
  simpleTypes := ["Code"]

def parts : List TopLevel :=
  [.directive ⟨.importing, none, some "all.xsd"⟩, .simpleType "Code", .element order,
    .passedOver, .directive ⟨.including, some "urn:shop", none⟩,
    .complexType ⟨some "Item", none⟩, .element item]

theorem legible_order : order.Legible ∧ order.Grouped := by
  constructor
  · simp only [order, line, element, group, ElementDeclaration.Legible, Declared.Legible,
      AnonymousType.LegibleInside, ComplexType.Legible, Particle.LegibleContent,
      Particle.Legible, ModelGroup.Legible, Particle.AllLegible]
    decide +kernel
  · simp only [order, line, element, group, ElementDeclaration.Grouped,
      AnonymousType.GroupedInside, ComplexType.Grouped, Particle.GroupedContent,
      Particle.Grouped, ModelGroup.Grouped, Particle.AllGrouped, and_self]

theorem legible_item : item.Legible ∧ item.Grouped := by
  simp only [item, ElementDeclaration.Legible, Declared.Legible, AnonymousType.LegibleInside,
    ElementDeclaration.Grouped, AnonymousType.GroupedInside]
  decide +kernel

theorem legible_schema : schema.Legible where
  location := rfl
  targetNamespace := by decide +kernel
  directives := by
    intro directive isDirective
    simp only [schema, List.mem_cons, List.not_mem_nil, or_false] at isDirective
    rcases isDirective with rfl | rfl
    · exact ⟨by decide, by decide +kernel, by decide⟩
    · exact ⟨by decide +kernel, by decide, by decide⟩
  elements := by
    intro declaration isElement
    simp only [schema, List.mem_cons, List.not_mem_nil, or_false] at isElement
    rcases isElement with rfl | rfl
    · exact ⟨legible_order.1, legible_order.2, "order", rfl⟩
    · exact ⟨legible_item.1, legible_item.2, "item", rfl⟩
  complexTypes := by
    intro definition isType
    rw [List.mem_singleton.mp isType]
    simp only [ComplexType.Legible, Particle.LegibleContent, ComplexType.Grouped,
      Particle.GroupedContent]
    decide +kernel
  simpleTypes := by decide +kernel

theorem ofXml_document_of_orders :
    schema.Legible ∧ Schema.ofXml (schema.document schema.parts) = .ok schema ∧
      Schema.ofXml (schema.document parts) = .ok schema := by
  have ⟨consistsOfParts, readBack⟩ := Schema.ofXml_document legible_schema
  exact ⟨legible_schema, readBack schema.parts consistsOfParts, readBack parts ⟨rfl, rfl, rfl, rfl⟩⟩

end Orders

end SchemaContent
