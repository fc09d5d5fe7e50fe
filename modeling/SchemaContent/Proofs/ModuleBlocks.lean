import SchemaContent.Proofs.Registration

/-! # Blocks of content models

Where no component is shadowed, the content models of a set are made up of blocks,
one for each schema, and the block of a schema is known from that schema and from
what the set as a whole tells about names. -/

namespace SchemaContent

/-- The types of a schema that have content models if nothing is shadowed: those of
its elements before the named ones. -/
def Schema.ownedTypes (schema : Schema) : List OwnedType :=
  (schema.elements.filterMap fun declaration =>
    match declaration.anonymousType with
    | some (.complex definition) =>
      some ⟨.element (schema.topLevelName declaration.name), schema, definition⟩
    | _ => none) ++
  schema.complexTypes.filterMap fun definition =>
    definition.name.map fun localName =>
      ⟨.complexType (schema.topLevelName localName), schema, definition⟩

/-- The block of a schema: the content models of its types in this set. -/
def Schema.contentModels (schema : Schema) (set : SchemaSet) :
    Except SchemaError (List ContentModel) :=
  schema.ownedTypes.mapM (·.model set)

theorem Schema.owners_of_contentModels {schema : Schema} {set : SchemaSet}
    {models : List ContentModel} (made : schema.contentModels set = .ok models) :
    models.map (·.owner) = schema.ownedTypes.map (·.owner) :=
  map_eq_of_mapM_eq_ok (fun _ _ isModel => (OwnedType.of_model isModel).1) made

namespace Component

def anonymousOwned? (component : Component ElementDeclaration) : Option OwnedType :=
  match component.definition.anonymousType with
  | some (.complex definition) =>
    some ⟨.element component.name, component.schema, definition⟩
  | _ => none

def namedOwned (component : Component ComplexType) : OwnedType :=
  ⟨.complexType component.name, component.schema, component.definition⟩

end Component

theorem Schema.ownedTypes_eq_append (schema : Schema) :
    schema.ownedTypes =
      schema.elementComponents.filterMap Component.anonymousOwned? ++
        schema.typeComponents.map Component.namedOwned := by
  rw [ownedTypes, elementComponents, typeComponents, List.filterMap_map,
    List.map_filterMap]
  conv_lhs =>
    rw [← List.zipIdx_map_fst 0 schema.elements,
      ← List.zipIdx_map_fst 0 schema.complexTypes, List.filterMap_map,
      List.filterMap_map]
  simp only [Option.map_map]
  rfl

namespace SchemaSet

variable {set : SchemaSet} (distinct : DistinctNames set.schemas)

include distinct

theorem ownedByElement?_eq {component : Component ElementDeclaration}
    (isElement : component ∈ set.elements) :
    set.ownedByElement? component = component.anonymousOwned? := by
  have found := (element?_eq_some_iff distinct).mpr ⟨isElement, rfl⟩
  rw [ownedByElement?, Component.anonymousOwned?, found, Option.map_some]
  cases component.definition.anonymousType with
  | none => rfl
  | some type =>
      cases type with
      | simple => rfl
      | complex definition => exact if_pos rfl

theorem ownedByName?_eq {component : Component ComplexType}
    (isType : component ∈ set.complexTypes) :
    set.ownedByName? component = some component.namedOwned := by
  have found := (complexType?_eq_some_iff distinct).mpr ⟨isType, rfl⟩
  rw [ownedByName?, found, Option.map_some, if_pos rfl]
  rfl

/-- Schema by schema, the types that have content models are those that the schema
has by itself. -/
theorem ownedTypes_eq_flatMap :
    set.ownedTypes = set.schemas.flatMap Schema.ownedTypes := by
  have places : List.range set.schemas.length = set.schemas.zipIdx.map Prod.snd := by
    rw [List.zipIdx_map_snd, List.range_eq_range']
  rw [ownedTypes, places, List.flatMap_map, ← flatMap_zipIdx set.schemas]
  apply List.flatMap_congr
  rintro ⟨schema, position⟩ isPlace
  have elementsHere : set.elements.filter (·.position = position) =
      schema.elementComponents.map (Component.placed position) := by
    rw [elements_eq_declared]
    exact Component.filter_declared _ isPlace
  have typesHere : set.complexTypes.filter (·.position = position) =
      schema.typeComponents.map (Component.placed position) := by
    rw [complexTypes_eq_declared]
    exact Component.filter_declared _ isPlace
  have elementsKept : ∀ component ∈ set.elements.filter (·.position = position),
      set.ownedByElement? component = component.anonymousOwned? :=
    fun component isHere => ownedByElement?_eq distinct (List.mem_filter.mp isHere).1
  have typesKept : ∀ component ∈ set.complexTypes.filter (·.position = position),
      set.ownedByName? component = some component.namedOwned :=
    fun component isHere => ownedByName?_eq distinct (List.mem_filter.mp isHere).1
  change _ = schema.ownedTypes
  rw [List.filterMap_congr elementsKept, List.filterMap_congr typesKept,
    elementsHere, typesHere, Schema.ownedTypes_eq_append, List.filterMap_eq_map',
    List.filterMap_map, List.map_map]
  rfl

theorem contentModels_eq_flatten :
    set.contentModels =
      List.flatten <$> set.schemas.mapM fun schema => schema.contentModels set := by
  rw [contentModels, ownedTypes_eq_flatMap distinct]
  exact mapM_flatMap _ _ _

end SchemaSet

end SchemaContent
