import Mathlib.Data.List.Basic
import SchemaContent.ContentModel
import SchemaContent.Steps
import SchemaContent.Proofs.CanonicalOrder

/-! # Registration

Schemas are added to a set one after the other. What the set declares is what the
schemas declare, and the place that a schema gets among the others is recorded in
its components. The place matters only for components that share a name. -/

namespace SchemaContent

/-! ## Adding schemas -/

namespace SchemaSet

def build (schemas : List Schema) : Except SchemaError SchemaSet :=
  schemas.foldlM add empty

theorem affiliated_of_add {set more : SchemaSet} {schema : Schema}
    (added : set.add schema = .ok more) : schema.Affiliated := by
  rw [add] at added
  split at added
  · cases added
  · rename_i names resolved
    exact ⟨names, resolved⟩

theorem exists_of_add (set : SchemaSet) {schema : Schema}
    (affiliated : schema.Affiliated) :
    ∃ more, set.add schema = .ok more ∧ more.schemas = set.schemas ++ [schema] := by
  obtain ⟨names, resolved⟩ := affiliated
  rw [add]
  split
  · rename_i failed
    rw [resolved] at failed
    cases failed
  · exact ⟨_, rfl, rfl⟩

theorem exists_of_foldlM (schemas : List Schema) : ∀ set : SchemaSet,
    (∀ schema ∈ schemas, schema.Affiliated) →
      ∃ more, schemas.foldlM add set = .ok more ∧
        more.schemas = set.schemas ++ schemas := by
  induction schemas with
  | nil =>
      intro set _
      exact ⟨set, rfl, (List.append_nil _).symm⟩
  | cons schema rest induction =>
      intro set affiliated
      obtain ⟨first, added, firstSchemas⟩ :=
        exists_of_add set (affiliated schema List.mem_cons_self)
      obtain ⟨more, built, moreSchemas⟩ := induction first
        fun later isLater => affiliated later (List.mem_cons_of_mem _ isLater)
      refine ⟨more, ?_, ?_⟩
      · rw [List.foldlM_cons, added]
        exact built
      · rw [moreSchemas, firstSchemas, List.append_assoc, List.singleton_append]

theorem exists_of_build {schemas : List Schema}
    (affiliated : ∀ schema ∈ schemas, schema.Affiliated) :
    ∃ set, build schemas = .ok set ∧ set.schemas = schemas :=
  exists_of_foldlM schemas empty affiliated

end SchemaSet

/-! ## Places -/

theorem flatMap_zipIdx {α β : Type} (values : List α) (change : α → List β) :
    (values.zipIdx.flatMap fun (value, _) => change value) = values.flatMap change := by
  have forgotten := List.flatMap_map Prod.fst change values.zipIdx
  rw [List.zipIdx_map_fst] at forgotten
  exact forgotten.symm

namespace Component

variable {α : Type}

/-- The component at another place among the schemas. -/
def placed (position : Nat) (component : Component α) : Component α :=
  { component with position := position }

@[simp] theorem name_placed (position : Nat) (component : Component α) :
    (component.placed position).name = component.name := rfl

@[simp] theorem schema_placed (position : Nat) (component : Component α) :
    (component.placed position).schema = component.schema := rfl

@[simp] theorem definition_placed (position : Nat) (component : Component α) :
    (component.placed position).definition = component.definition := rfl

theorem eq_placed_of_placed_eq {first second : Component α}
    (same : first.placed 0 = second.placed 0) : second = first.placed second.position := by
  have placedBack := congrArg (placed second.position) same
  exact placedBack.symm

theorem placed_placed (second first : Nat) (component : Component α) :
    (component.placed first).placed second = component.placed second := rfl

/-- The components that schemas declare, each at the place of its schema. -/
def declared (parts : Schema → List (Component α)) (schemas : List Schema) :
    List (Component α) :=
  schemas.zipIdx.flatMap fun (schema, position) =>
    (parts schema).map (placed position)

/-- What does not depend on places is told schema by schema. -/
theorem map_declared {β : Type} {view : Component α → β}
    (anywhere : ∀ position component, view (component.placed position) = view component)
    (parts : Schema → List (Component α)) (schemas : List Schema) :
    (declared parts schemas).map view =
      schemas.flatMap fun schema => (parts schema).map view := by
  rw [declared, List.map_flatMap, ← flatMap_zipIdx schemas]
  apply List.flatMap_congr
  rintro ⟨schema, position⟩ _
  rw [List.map_map]
  exact List.map_congr_left fun component _ => anywhere position component

theorem declared_perm (parts : Schema → List (Component α)) {schemas others : List Schema}
    (same : schemas.Perm others) :
    ((declared parts schemas).map (placed 0)).Perm
      ((declared parts others).map (placed 0)) := by
  rw [map_declared (placed_placed 0), map_declared (placed_placed 0)]
  exact same.flatMap_right _

/-- Under a name that is not declared twice stands the same component for any order
of the schemas, apart from its place. -/
theorem find?_declared_eq {parts : Schema → List (Component α)}
    {schemas others : List Schema} (same : schemas.Perm others)
    (distinctNames : ((declared parts schemas).map (·.name)).Nodup)
    (name : ExpandedName) :
    ((declared parts schemas).find? fun component => component.name = name).map
        (placed 0) =
      ((declared parts others).find? fun component => component.name = name).map
        (placed 0) := by
  have placedNames : (((declared parts schemas).map (placed 0)).map (·.name)).Nodup := by
    rw [List.map_map]
    exact distinctNames
  have found := find?_eq_of_perm (declared_perm parts same) placedNames name
  rw [List.find?_map, List.find?_map] at found
  exact found

theorem filter_position_placed (wanted position : Nat)
    (components : List (Component α)) :
    (components.map (placed position)).filter (·.position = wanted) =
      if position = wanted then components.map (placed position) else [] := by
  split
  case isTrue same =>
    apply List.filter_eq_self.mpr
    intro component isPlaced
    obtain ⟨_, _, rfl⟩ := List.mem_map.mp isPlaced
    exact decide_eq_true same
  case isFalse different =>
    apply List.filter_eq_nil_iff.mpr
    intro component isPlaced
    obtain ⟨_, _, rfl⟩ := List.mem_map.mp isPlaced
    exact fun same => different (of_decide_eq_true same)

theorem filter_declared (parts : Schema → List (Component α)) {schemas : List Schema}
    {schema : Schema} {position : Nat} (isPlace : (schema, position) ∈ schemas.zipIdx) :
    (declared parts schemas).filter (·.position = position) =
      (parts schema).map (placed position) := by
  have distinctPlaces : (schemas.zipIdx.map Prod.snd).Nodup := by
    rw [List.zipIdx_map_snd]
    exact List.nodup_range'
  rw [declared, List.filter_flatMap]
  simp only [filter_position_placed]
  -- Nothing but the distinctness of places is kept, as the rest of a numbered list
  -- is not numbered from nought.
  generalize schemas.zipIdx = places at isPlace distinctPlaces
  induction places with
  | nil => cases isPlace
  | cons first rest induction =>
      have ⟨firstNew, restDistinct⟩ := List.nodup_cons.mp distinctPlaces
      rw [List.flatMap_cons]
      rcases List.mem_cons.mp isPlace with isFirst | isLater
      · subst isFirst
        rw [if_pos rfl]
        have noneLater : (rest.flatMap fun place =>
            if place.2 = position then (parts place.1).map (placed place.2) else []) =
              [] := by
          apply List.flatMap_eq_nil_iff.mpr
          intro place isLater
          apply if_neg
          intro same
          have repeated : place.2 ∈ rest.map Prod.snd := List.mem_map_of_mem isLater
          exact firstNew (same ▸ repeated)
        rw [noneLater, List.append_nil]
      · have different : first.2 ≠ position := by
          intro same
          exact firstNew (same ▸ List.mem_map_of_mem isLater)
        rw [if_neg different, List.nil_append]
        exact induction isLater restDistinct

end Component

/-! ## Declarations -/

namespace Schema

def elementComponents (schema : Schema) : List (Component ElementDeclaration) :=
  schema.elements.zipIdx.map fun (declaration, index) =>
    ⟨schema.topLevelName declaration.name, schema, 0, index, declaration⟩

def typeComponents (schema : Schema) : List (Component ComplexType) :=
  schema.complexTypes.zipIdx.filterMap fun (definition, index) =>
    definition.name.map fun localName =>
      ⟨schema.topLevelName localName, schema, 0, index, definition⟩

def elementNames (schema : Schema) : List ExpandedName :=
  schema.elements.map fun declaration => schema.topLevelName declaration.name

def typeNames (schema : Schema) : List ExpandedName :=
  schema.complexTypes.filterMap fun definition =>
    definition.name.map schema.topLevelName

theorem map_name_elementComponents (schema : Schema) :
    schema.elementComponents.map (·.name) = schema.elementNames := by
  rw [elementComponents, elementNames, List.map_map]
  conv_rhs => rw [← List.zipIdx_map_fst 0 schema.elements, List.map_map]
  rfl

theorem map_name_typeComponents (schema : Schema) :
    schema.typeComponents.map (·.name) = schema.typeNames := by
  rw [typeComponents, typeNames, List.map_filterMap]
  conv_rhs => rw [← List.zipIdx_map_fst 0 schema.complexTypes, List.filterMap_map]
  simp only [Option.map_map]
  rfl

end Schema

/-- Schemas in which no two top-level elements have the same expanded name, and no
two named complex types. -/
structure DistinctNames (schemas : List Schema) : Prop where
  elements : (schemas.flatMap Schema.elementNames).Nodup
  types : (schemas.flatMap Schema.typeNames).Nodup

theorem DistinctNames.of_perm {schemas others : List Schema}
    (distinct : DistinctNames schemas) (same : schemas.Perm others) :
    DistinctNames others :=
  ⟨(same.flatMap_right _).nodup_iff.mp distinct.elements,
    (same.flatMap_right _).nodup_iff.mp distinct.types⟩

namespace SchemaSet

theorem elements_eq_declared (set : SchemaSet) :
    set.elements = Component.declared Schema.elementComponents set.schemas := by
  simp only [elements, Component.declared, Schema.elementComponents, List.map_map]
  rfl

theorem complexTypes_eq_declared (set : SchemaSet) :
    set.complexTypes = Component.declared Schema.typeComponents set.schemas := by
  simp only [complexTypes, Component.declared, Schema.typeComponents,
    List.map_filterMap, Option.map_map]
  rfl

theorem map_name_elements (set : SchemaSet) :
    set.elements.map (·.name) = set.schemas.flatMap Schema.elementNames := by
  rw [elements_eq_declared, Component.map_declared Component.name_placed]
  simp only [Schema.map_name_elementComponents]

theorem map_name_complexTypes (set : SchemaSet) :
    set.complexTypes.map (·.name) = set.schemas.flatMap Schema.typeNames := by
  rw [complexTypes_eq_declared, Component.map_declared Component.name_placed]
  simp only [Schema.map_name_typeComponents]

/-! ## Lookups without shadowing -/

variable {set : SchemaSet} {name : ExpandedName}

theorem nodup_elements (distinct : DistinctNames set.schemas) :
    (set.elements.map (·.name)).Nodup := by
  rw [map_name_elements]
  exact distinct.elements

theorem nodup_complexTypes (distinct : DistinctNames set.schemas) :
    (set.complexTypes.map (·.name)).Nodup := by
  rw [map_name_complexTypes]
  exact distinct.types

theorem element?_eq_some_iff (distinct : DistinctNames set.schemas)
    {component : Component ElementDeclaration} :
    set.element? name = some component ↔
      component ∈ set.elements ∧ component.name = name :=
  find?_eq_some_iff (nodup_elements distinct)

theorem complexType?_eq_some_iff (distinct : DistinctNames set.schemas)
    {component : Component ComplexType} :
    set.complexType? name = some component ↔
      component ∈ set.complexTypes ∧ component.name = name :=
  find?_eq_some_iff (nodup_complexTypes distinct)

end SchemaSet

end SchemaContent
