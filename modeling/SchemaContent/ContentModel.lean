import SchemaContent.Substitution

/-! # Content models

A content tree becomes the flat list of its members. A group takes in its own elements, the members
of the groups inside it, and what may stand in for its own elements; a choice makes each of them
optional, and an unbounded choice makes each of them unbounded. Of members with one name the first
counts, and the rest stand in canonical order.

A schema set has a content model for each top-level element with an anonymous complex type and for each
named complex type. A component that is shadowed by an earlier one of its name has none.
-/

namespace SchemaContent

/-! ## Flattening -/

/-- The bounds of a member inside a group: only a choice has an effect on them. -/
def Occurrence.within (member : Occurrence) (compositor : Compositor) (group : Occurrence) :
    Occurrence :=
  match compositor with
  | .choice =>
    { min := some (member.min.getD 0)
      max := if group.max = some .unbounded then some .unbounded else member.max }
  | _ => member

def Member.within (member : Member) (compositor : Compositor) (group : Occurrence) : Member :=
  { member with occurrence := member.occurrence.within compositor group }

namespace Scope

/-- The members of a group, from those its own elements and the groups inside it contribute. -/
def gather (scope : Scope) (compositor : Compositor) (occurrence : Occurrence)
    (own nested : List Member) : Except SchemaError (List Member) := do
  let direct := own.map (·.within compositor occurrence)
  let substitutes ← scope.expand direct
  return Member.sort
    (Member.distinct (direct ++ substitutes ++ nested.map (·.within compositor occurrence)))

def localElementName (scope : Scope) (localName : String) (form : Option Form) : ExpandedName :=
  match form.getD scope.schema.elementForm with
  | .qualified => ⟨scope.schema.targetNamespace, localName⟩
  | .unqualified => ⟨none, localName⟩

end Scope

mutual

def Particle.members (scope : Scope) : Particle → Except SchemaError (List Member)
  | .element declaration => return [← declaration.member scope]
  | .group compositor group => group.members compositor scope

def ModelGroup.members (compositor : Compositor) (scope : Scope) :
    ModelGroup → Except SchemaError (List Member)
  | ⟨occurrence, particles⟩ => do
    let (own, nested) ← Particle.contributions scope particles
    scope.gather compositor occurrence own nested

/-- The members of the elements among particles, and those of the groups among them. -/
def Particle.contributions (scope : Scope) :
    List Particle → Except SchemaError (List Member × List Member)
  | [] => return ([], [])
  | .element declaration :: rest => do
    let member ← declaration.member scope
    let (own, nested) ← Particle.contributions scope rest
    return (member :: own, nested)
  | .group compositor group :: rest => do
    let members ← group.members compositor scope
    let (own, nested) ← Particle.contributions scope rest
    return (own, members ++ nested)

def ElementDeclaration.member (scope : Scope) : ElementDeclaration → Except SchemaError Member
  | ⟨.reference reference, _, _, _, occurrence, _⟩ => do
    scope.refer reference (← scope.schema.resolve reference) occurrence
  | ⟨.named localName, typeName, anonymousType, substitutionGroup, occurrence, form⟩ => do
    let name := scope.localElementName localName form
    let type ←
      match anonymousType with
      | some .simple => pure .anonymousSimple
      | some (.complex definition) =>
        .inline <$> definition.members { scope with owner := .element name }
      | none =>
        scope.set.outerType [] scope.schema
          ⟨.named localName, typeName, none, substitutionGroup, occurrence, form⟩
    return ⟨name, none, type, occurrence, scope.owner⟩

/-- The members of a complex type. A type without a model group has none. -/
def ComplexType.members (scope : Scope) : ComplexType → Except SchemaError (List Member)
  | ⟨_, some content⟩ => content.members scope
  | ⟨_, none⟩ => return []

end

/-! ## Members of element declarations

What an element declaration inside a group becomes: a member with the name that is declared or
referred to, with the declared bounds, and of a type that is found apart from both. -/

/-- The expanded name of the element that a declaration declares or refers to. -/
def Scope.declaredName (scope : Scope) (declaration : ElementDeclaration) :
    Except SchemaError ExpandedName :=
  match declaration.declared with
  | .reference reference => scope.schema.resolve reference
  | .named localName => .ok (scope.localElementName localName declaration.form)

def Scope.localType (scope : Scope) (name : ExpandedName)
    (declaration : ElementDeclaration) : Except SchemaError MemberType :=
  match declaration.anonymousType with
  | some .simple => .ok .anonymousSimple
  | some (.complex definition) =>
    .inline <$> definition.members { scope with owner := .element name }
  | none => scope.set.outerType [] scope.schema declaration

namespace ElementDeclaration

theorem member_reference (scope : Scope) (reference : Reference)
    (typeName : Option Reference) (anonymousType : Option AnonymousType)
    (substitutionGroup : List Reference) (occurrence : Occurrence) (form : Option Form) :
    ElementDeclaration.member scope
        ⟨.reference reference, typeName, anonymousType, substitutionGroup, occurrence, form⟩ =
      (do scope.refer reference (← scope.schema.resolve reference) occurrence) := by
  rw [member]

theorem member_named (scope : Scope) (localName : String)
    (typeName : Option Reference) (anonymousType : Option AnonymousType)
    (substitutionGroup : List Reference) (occurrence : Occurrence) (form : Option Form) :
    ElementDeclaration.member scope
        ⟨.named localName, typeName, anonymousType, substitutionGroup, occurrence, form⟩ =
      (do
        let name := scope.localElementName localName form
        let type ← scope.localType name
          ⟨.named localName, typeName, anonymousType, substitutionGroup, occurrence, form⟩
        return ⟨name, none, type, occurrence, scope.owner⟩) := by
  cases anonymousType with
  | none =>
      rw [member]
      rfl
  | some type =>
      cases type with
      | simple =>
          rw [member]
          rfl
      | complex definition =>
          rw [member]
          rfl

/-- A member has the declared name and the declared bounds. -/
theorem of_member {scope : Scope} {declaration : ElementDeclaration} {member : Member}
    (made : declaration.member scope = .ok member) :
    scope.declaredName declaration = .ok member.name ∧
      member.occurrence = declaration.occurrence := by
  obtain ⟨declared, typeName, anonymousType, substitutionGroup, occurrence, form⟩ :=
    declaration
  cases declared with
  | reference reference =>
      rw [member_reference] at made
      obtain ⟨name, resolved, referred⟩ := exists_of_bind_eq_ok made
      obtain ⟨_, _, _, _, rfl⟩ := Scope.exists_of_refer_eq_ok referred
      exact ⟨resolved, rfl⟩
  | named localName =>
      rw [member_named] at made
      obtain ⟨type, _, isMember⟩ := exists_of_bind_eq_ok made
      cases isMember
      exact ⟨rfl, rfl⟩

end ElementDeclaration

/-! ## Owned types -/

/-- The members that may occur in the content of an owner. -/
structure ContentModel where
  owner : Owner
  members : List Member
deriving DecidableEq

/-- A complex type whose content is to be modelled: its owner, and the schema that declares it. -/
structure OwnedType where
  owner : Owner
  schema : Schema
  definition : ComplexType

def OwnedType.model (owned : OwnedType) (set : SchemaSet) : Except SchemaError ContentModel := do
  let members ← owned.definition.members ⟨set, owned.schema, owned.owner⟩
  return ⟨owned.owner, members⟩

theorem OwnedType.of_model {owned : OwnedType} {set : SchemaSet} {model : ContentModel}
    (made : owned.model set = .ok model) :
    model.owner = owned.owner ∧
      owned.definition.members ⟨set, owned.schema, owned.owner⟩ = .ok model.members := by
  obtain ⟨members, compiled, made⟩ := exists_of_bind_eq_ok made
  cases made
  exact ⟨rfl, compiled⟩

namespace SchemaSet

def ownedByElement? (set : SchemaSet) (component : Component ElementDeclaration) :
    Option OwnedType :=
  match component.definition.anonymousType with
  | some (.complex definition) =>
    if (set.element? component.name).map (·.site) = some component.site then
      some ⟨.element component.name, component.schema, definition⟩
    else none
  | _ => none

def ownedByName? (set : SchemaSet) (component : Component ComplexType) : Option OwnedType :=
  if (set.complexType? component.name).map (·.site) = some component.site then
    some ⟨.complexType component.name, component.schema, component.definition⟩
  else none

/-- The types that have content models: schema by schema, those of elements before named ones. -/
def ownedTypes (set : SchemaSet) : List OwnedType :=
  (List.range set.schemas.length).flatMap fun position =>
    (set.elements.filter (·.position = position)).filterMap set.ownedByElement? ++
      (set.complexTypes.filter (·.position = position)).filterMap set.ownedByName?

def contentModels (set : SchemaSet) : Except SchemaError (List ContentModel) :=
  set.ownedTypes.mapM (·.model set)

end SchemaSet

end SchemaContent
