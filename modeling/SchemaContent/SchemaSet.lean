import SchemaContent.Member
import SchemaContent.Schema.Basic
import SchemaContent.Steps

/-! # Schema sets

The schemas that are read together, in the order in which they were added. Every lookup is a search in
that order, so the first declaration of a name is the one that counts; a later one is shadowed by it.

The type of an element is the type declared inside it, else the type its `type` attribute names, else
that of the first head of its substitution group, else the most general type. The walk along heads
ends where it comes back to a name it has seen.
-/

namespace SchemaContent

/-- A top-level component: its expanded name, the schema that declares it with its position in the
set, and its place among the components of its kind there. -/
structure Component (α : Type) where
  name : ExpandedName
  schema : Schema
  position : Nat
  index : Nat
  definition : α

/-- Where a component is declared; it tells components of one kind apart. -/
def Component.site {α : Type} (component : Component α) : Nat × Nat :=
  (component.position, component.index)

/-- Whether every substitution group that the schema's elements list has a meaning in it. -/
def Schema.Affiliated (schema : Schema) : Prop :=
  ∃ names, schema.affiliations = .ok names

instance (schema : Schema) : Decidable schema.Affiliated :=
  match resolved : schema.affiliations with
  | .ok names => isTrue ⟨names, resolved⟩
  | .error _ => isFalse fun ⟨_, success⟩ => nomatch resolved.symm.trans success

/-- Schemas whose substitution groups all have a meaning, in the order in which they were added. -/
structure SchemaSet where
  schemas : List Schema
  affiliated : ∀ schema ∈ schemas, schema.Affiliated

namespace SchemaSet

def empty : SchemaSet := ⟨[], nofun⟩

/-- Adds a schema at the end. It fails with the first substitution group that has no meaning. -/
def add (set : SchemaSet) (schema : Schema) : Except SchemaError SchemaSet :=
  match resolved : schema.affiliations with
  | .error failure => .error failure
  | .ok names =>
    .ok ⟨set.schemas ++ [schema], fun member membership =>
      match List.mem_append.mp membership with
      | .inl earlier => set.affiliated member earlier
      | .inr last => List.mem_singleton.mp last ▸ ⟨names, resolved⟩⟩

/-! ## Components -/

def elements (set : SchemaSet) : List (Component ElementDeclaration) :=
  set.schemas.zipIdx.flatMap fun (schema, position) =>
    schema.elements.zipIdx.map fun (declaration, index) =>
      ⟨schema.topLevelName declaration.name, schema, position, index, declaration⟩

def complexTypes (set : SchemaSet) : List (Component ComplexType) :=
  set.schemas.zipIdx.flatMap fun (schema, position) =>
    schema.complexTypes.zipIdx.filterMap fun (definition, index) =>
      definition.name.map fun localName =>
        ⟨schema.topLevelName localName, schema, position, index, definition⟩

def element? (set : SchemaSet) (name : ExpandedName) : Option (Component ElementDeclaration) :=
  set.elements.find? fun component => component.name = name

def complexType? (set : SchemaSet) (name : ExpandedName) : Option (Component ComplexType) :=
  set.complexTypes.find? fun component => component.name = name

def hasSimpleType (set : SchemaSet) (name : ExpandedName) : Bool :=
  set.schemas.any fun schema =>
    schema.simpleTypes.any fun localName => schema.topLevelName localName = name

/-- The elements that list `head` as a substitution group of theirs, once for each time they do. -/
def substitutes (set : SchemaSet) (head : ExpandedName) : List (Component ElementDeclaration) :=
  set.elements.flatMap fun component =>
    (component.definition.substitutionGroup.filter fun reference =>
      (component.schema.resolve reference).toOption = some head).map fun _ => component

theorem mem_elements_of_mem_substitutes {set : SchemaSet} {head : ExpandedName}
    {component : Component ElementDeclaration} (member : component ∈ set.substitutes head) :
    component ∈ set.elements := by
  obtain ⟨declared, declaredMember, member⟩ := List.mem_flatMap.mp member
  obtain ⟨_, _, rfl⟩ := List.mem_map.mp member
  exact declaredMember

theorem mem_elements_of_element? {set : SchemaSet} {name : ExpandedName}
    {component : Component ElementDeclaration} (found : set.element? name = some component) :
    component ∈ set.elements :=
  List.mem_of_find?_eq_some found

theorem name_of_element? {set : SchemaSet} {name : ExpandedName}
    {component : Component ElementDeclaration} (found : set.element? name = some component) :
    component.name = name := by
  simpa using List.find?_some found

/-! ## Types of elements -/

/-- The type with this name, if there is one. A complex type hides a simple one. -/
def namedType (set : SchemaSet) (name : ExpandedName) : Except SchemaError MemberType :=
  if name.isBuiltin then .ok (.builtin name)
  else if (set.complexType? name).isSome then .ok (.complex name)
  else if set.hasSimpleType name then .ok (.simple name)
  else .error (.unresolvedType name)

/-- The type of a declaration of this schema that declares no type inside. `seen` are the names that
the walk along heads has met. -/
def outerType (set : SchemaSet) (seen : List ExpandedName) (schema : Schema)
    (declaration : ElementDeclaration) : Except SchemaError MemberType :=
  match declaration.typeName, declaration.substitutionGroup with
  | some reference, _ =>
    match schema.resolve reference with
    | .error failure => .error failure
    | .ok name => set.namedType name
  | none, [] => .ok (.builtin anyType)
  | none, reference :: _ =>
    match schema.resolve reference with
    | .error failure => .error failure
    | .ok head =>
      if _ : head ∈ seen then .ok (.builtin anyType)
      else
        match _ : set.element? head with
        | none => .error (.unresolvedReference reference head)
        | some component =>
          match component.definition.anonymousType with
          | some .simple => .ok .anonymousSimple
          | some (.complex _) => .ok (.anonymousComplex head)
          | none => set.outerType (head :: seen) component.schema component.definition
termination_by unseen (set.elements.map (·.name)) seen
decreasing_by
  have found : set.element? head = some component := ‹_›
  refine unseen_lt (fun _ => List.mem_cons_of_mem head) ?_ ‹head ∉ seen› List.mem_cons_self
  exact List.mem_map.mpr ⟨component, mem_elements_of_element? found, name_of_element? found⟩

def elementType (set : SchemaSet) (component : Component ElementDeclaration) :
    Except SchemaError MemberType :=
  match component.definition.anonymousType with
  | some .simple => .ok .anonymousSimple
  | some (.complex _) => .ok (.anonymousComplex component.name)
  | none => set.outerType [component.name] component.schema component.definition

end SchemaSet

end SchemaContent
