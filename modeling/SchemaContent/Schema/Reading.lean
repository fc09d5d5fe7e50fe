import SchemaContent.Schema.Basic
import SchemaContent.Text.Words
import SchemaContent.Xml.Reading

/-! # Reading schemas from element trees

Elements are recognized by their local names, attributes by local names without a namespace. Blanks
around an attribute value do not belong to it. Whatever is read first is complained about first: the
children of a group before its bounds, the bounds of an element after its types.
-/

namespace SchemaContent

/-! ## Attributes -/

namespace Attributes

def text? (attributes : List Xml.Attribute) (name : String) : Option String :=
  (Xml.value? attributes name).map fun value => String.ofList (Text.trim value.toList)

def reference? (attributes : List Xml.Attribute) (name : String) : Option Reference :=
  (text? attributes name).map Reference.parse

def references (attributes : List Xml.Attribute) (name : String) : List Reference :=
  match text? attributes name with
  | none => []
  | some value =>
    (Text.pieces Text.isListSeparator value.toList).map fun piece =>
      Reference.parse (String.ofList piece)

def read? {α : Type} (read : List Char → Option α) (attributes : List Xml.Attribute)
    (name : String) : Except SchemaError (Option α) :=
  match text? attributes name with
  | none => .ok none
  | some value =>
    match read value.toList with
    | some result => .ok (some result)
    | none => .error (.invalidAttribute name value)

def require (attributes : List Xml.Attribute) (element name : String) :
    Except SchemaError String :=
  match text? attributes name with
  | some value => .ok value
  | none => .error (.missingAttribute element name)

def readForm (text : List Char) : Option Form :=
  if text = "qualified".toList then some .qualified
  else if text = "unqualified".toList then some .unqualified
  else none

def occurrence (attributes : List Xml.Attribute) : Except SchemaError Occurrence := do
  let min ← read? readCount attributes "minOccurs"
  let max ← read? readMaxOccurs attributes "maxOccurs"
  return ⟨min, max⟩

end Attributes

/-! ## Particles -/

def Compositor.ofTag (tag : String) : Option Compositor :=
  if tag = "sequence" then some .sequence
  else if tag = "choice" then some .choice
  else if tag = "all" then some .all
  else none

/-- Tags inside a group that stand for no particle of the content tree. -/
def isPassedOver (tag : String) : Bool :=
  tag = "annotation" || tag = "any" || tag = "group"

/-- Tags inside a complex content whose own content is that of the type. -/
def isDerivation (tag : String) : Bool :=
  tag = "extension" || tag = "restriction"

namespace ElementDeclaration

/-- What the attributes of an element declare. A reference counts more than a name. -/
def readDeclared (attributes : List Xml.Attribute) : Except SchemaError Declared :=
  match Attributes.reference? attributes "ref", Attributes.text? attributes "name" with
  | some reference, _ => .ok (.reference reference)
  | none, some name => .ok (.named name)
  | none, none => .error (.missingAttribute "element" "name")

def ofAttributes (attributes : List Xml.Attribute) (declared : Declared)
    (anonymousType : Option AnonymousType) : Except SchemaError ElementDeclaration := do
  let occurrence ← Attributes.occurrence attributes
  let form ← Attributes.read? Attributes.readForm attributes "form"
  return {
    declared := declared
    typeName := Attributes.reference? attributes "type"
    anonymousType := anonymousType
    substitutionGroup := Attributes.references attributes "substitutionGroup"
    occurrence := occurrence
    form := form }

end ElementDeclaration

def ModelGroup.ofAttributes (attributes : List Xml.Attribute) (particles : List Particle) :
    Except SchemaError ModelGroup := do
  let occurrence ← Attributes.occurrence attributes
  return ⟨occurrence, particles⟩

mutual

/-- The particle that a child of a group stands for. Some tags stand for none. -/
def Particle.ofXml : Xml.Element → Except SchemaError (Option Particle)
  | ⟨name, attributes, children⟩ =>
    if name.localName = "element" then do
      let declared ← ElementDeclaration.readDeclared attributes
      let anonymousType ← AnonymousType.lastOfXml children
      let declaration ← ElementDeclaration.ofAttributes attributes declared anonymousType
      return some (.element declaration)
    else
      match Compositor.ofTag name.localName with
      | some compositor => do
        let particles ← Particle.listOfXml children
        let group ← ModelGroup.ofAttributes attributes particles
        return some (.group compositor group)
      | none =>
        if isPassedOver name.localName then return none
        else throw (.unexpectedElement name.localName)

def Particle.listOfXml : List Xml.Element → Except SchemaError (List Particle)
  | [] => return []
  | element :: rest => do
    let first ← Particle.ofXml element
    let others ← Particle.listOfXml rest
    return first.toList ++ others

def AnonymousType.ofXml : Xml.Element → Except SchemaError (Option AnonymousType)
  | ⟨name, attributes, children⟩ =>
    if name.localName = "simpleType" then return some .simple
    else if name.localName = "complexType" then do
      let content ← Particle.contentOfXml children
      return some (.complex ⟨Attributes.text? attributes "name", content⟩)
    else return none

/-- The type declared among the children of an element. The last one counts. -/
def AnonymousType.lastOfXml : List Xml.Element → Except SchemaError (Option AnonymousType)
  | [] => return none
  | element :: rest => do
    let first ← AnonymousType.ofXml element
    let later ← AnonymousType.lastOfXml rest
    return later.or first

/-- The content that a child of a complex type decides on, if it does: a model group is the content,
and a complex content has that of its derivation. -/
def Particle.decidedContent : Xml.Element → Option (Except SchemaError (Option Particle))
  | ⟨name, attributes, children⟩ =>
    match Compositor.ofTag name.localName with
    | some compositor => some do
      let particles ← Particle.listOfXml children
      let group ← ModelGroup.ofAttributes attributes particles
      return some (.group compositor group)
    | none =>
      if name.localName = "complexContent" then Particle.derivedContent children else none

/-- The content among the children of a complex type. The first child that decides on it counts. -/
def Particle.contentOfXml : List Xml.Element → Except SchemaError (Option Particle)
  | [] => return none
  | element :: rest =>
    match Particle.decidedContent element with
    | some content => content
    | none => Particle.contentOfXml rest

/-- The content of a derivation. Other children of a complex content say nothing about it. -/
def Particle.derivationContent : Xml.Element → Option (Except SchemaError (Option Particle))
  | ⟨name, _, children⟩ =>
    if isDerivation name.localName then some (Particle.contentOfXml children) else none

/-- The content of the first derivation among the children of a complex content. -/
def Particle.derivedContent :
    List Xml.Element → Option (Except SchemaError (Option Particle))
  | [] => none
  | element :: rest => (Particle.derivationContent element).or (Particle.derivedContent rest)

end

/-! ## Components and schemas -/

def ComplexType.ofXml (element : Xml.Element) : Except SchemaError ComplexType := do
  let content ← Particle.contentOfXml element.children
  return ⟨Attributes.text? element.attributes "name", content⟩

def ElementDeclaration.topLevelOfXml (element : Xml.Element) :
    Except SchemaError ElementDeclaration := do
  let declared ← readDeclared element.attributes
  let anonymousType ← AnonymousType.lastOfXml element.children
  let declaration ← ofAttributes element.attributes declared anonymousType
  match declared with
  | .named _ => return declaration
  | .reference _ => throw (.missingAttribute "element" "name")

/-- Reads a directive. A schema must not import its own namespace, and one without a namespace must
name the namespace it imports. -/
def Directive.ofXml (kind : DirectiveKind) (targetNamespace : Option String)
    (element : Xml.Element) : Except SchemaError Directive :=
  let uri := Attributes.text? element.attributes "namespace"
  let directive : Directive := ⟨kind, uri, Attributes.text? element.attributes "schemaLocation"⟩
  match kind, uri, targetNamespace with
  | .importing, some imported, some own =>
    if imported = own then .error (.importOfOwnNamespace imported) else .ok directive
  | .importing, none, none => .error .importWithoutNamespace
  | _, _, _ => .ok directive

inductive TopLevel where
  | directive (directive : Directive)
  | element (declaration : ElementDeclaration)
  | complexType (definition : ComplexType)
  | simpleType (name : String)
  | passedOver

namespace TopLevel

/-- Tags at the top level that do not contribute to content. -/
def isPassedOver (tag : String) : Bool :=
  ["annotation", "attribute", "attributeGroup", "group", "notation", "redefine", "override",
    "defaultOpenContent"].contains tag

def ofXml (targetNamespace : Option String) (element : Xml.Element) :
    Except SchemaError TopLevel :=
  let tag := element.name.localName
  if tag = "import" then
    .directive <$> Directive.ofXml .importing targetNamespace element
  else if tag = "include" then
    .directive <$> Directive.ofXml .including targetNamespace element
  else if tag = "element" then .element <$> ElementDeclaration.topLevelOfXml element
  else if tag = "complexType" then .complexType <$> ComplexType.ofXml element
  else if tag = "simpleType" then
    .simpleType <$> Attributes.require element.attributes "simpleType" "name"
  else if isPassedOver tag then .ok .passedOver
  else .error (.unexpectedElement tag)

def directive? : TopLevel → Option Directive
  | .directive found => some found
  | _ => none

def element? : TopLevel → Option ElementDeclaration
  | .element found => some found
  | _ => none

def complexType? : TopLevel → Option ComplexType
  | .complexType found => some found
  | _ => none

def simpleType? : TopLevel → Option String
  | .simpleType found => some found
  | _ => none

end TopLevel

namespace Schema

def ofXml (document : Xml.Document) : Except SchemaError Schema := do
  let root := document.root
  if root.name.localName ≠ "schema" then throw (.unexpectedElement root.name.localName)
  let targetNamespace := Attributes.text? root.attributes "targetNamespace"
  let elementForm ← Attributes.read? Attributes.readForm root.attributes "elementFormDefault"
  let parts ← root.children.mapM (TopLevel.ofXml targetNamespace)
  return {
    location := none
    targetNamespace := targetNamespace
    elementForm := elementForm.getD .unqualified
    bindings := Bindings.ofList document.bindings
    directives := parts.filterMap TopLevel.directive?
    elements := parts.filterMap TopLevel.element?
    complexTypes := parts.filterMap TopLevel.complexType?
    simpleTypes := parts.filterMap TopLevel.simpleType? }

def parse (text : String) (allowDoctype : Bool) : Except SchemaError Schema :=
  match Xml.Document.read text allowDoctype with
  | .error fault => .error (.notWellFormed fault)
  | .ok document => ofXml document

end Schema

end SchemaContent
