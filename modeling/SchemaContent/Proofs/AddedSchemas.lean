import SchemaContent.Proofs.ModelOwners
import SchemaContent.Proofs.WiderSets

/-! # One more schema

What a schema declares comes after what was declared before, so it changes nothing that
was found before, with two exceptions: it may list elements as heads that were found
before, and it may declare a complex type that hides a simple one. Without those, the
content models that were there stay as they were. -/

namespace SchemaContent

/-- One more schema has no influence on what is found under a name that is declared
already or that the schema does not declare. -/
theorem Component.find?_declared_append {α : Type} {parts : Schema → List (Component α)}
    {schemas : List Schema} {schema : Schema} {name : ExpandedName}
    (known : ((declared parts schemas).find? fun component => component.name = name).isSome ∨
      name ∉ (parts schema).map (·.name)) :
    ((declared parts (schemas ++ [schema])).find? fun component => component.name = name) =
      (declared parts schemas).find? fun component => component.name = name := by
  rw [declared_append, List.find?_append]
  rcases known with isFound | notDeclared
  · exact Option.or_of_isSome isFound
  · have noneNew : ((parts schema).map (placed schemas.length)).find?
        (fun component => component.name = name) = none := by
      apply List.find?_eq_none.mpr
      intro component isPlaced sameName
      rcases List.mem_map.mp isPlaced with ⟨unplaced, isPart, rfl⟩
      exact notDeclared (List.mem_map.mpr ⟨unplaced, isPart, of_decide_eq_true sameName⟩)
    rw [noneNew, Option.or_none]

/-- An element that the schema declares under this name lists `head`. -/
def Schema.Lists (schema : Schema) (name head : ExpandedName) : Prop :=
  ∃ declaration ∈ schema.elements, schema.topLevelName declaration.name = name ∧
    ∃ reference ∈ declaration.substitutionGroup, schema.resolve reference = .ok head

/-- All that the schema declares at its top level is declared in the set already. -/
structure SchemaSet.Shadows (set : SchemaSet) (schema : Schema) : Prop where
  elements : ∀ name ∈ schema.elementNames, (set.element? name).isSome
  complexTypes : ∀ name ∈ schema.typeNames, (set.complexType? name).isSome
  simpleTypes : ∀ localName ∈ schema.simpleTypes,
    set.hasSimpleType (schema.topLevelName localName)

namespace SchemaSet

variable {set more : SchemaSet} {schema : Schema}

theorem schemas_of_add (added : set.add schema = .ok more) :
    more.schemas = set.schemas ++ [schema] := by
  rcases set.exists_of_add (affiliated_of_add added) with ⟨_, addedAlike, schemas⟩
  rw [added] at addedAlike
  cases addedAlike
  exact schemas

/-! ## What is found -/

section Lookups

variable (added : set.add schema = .ok more)

include added

theorem elements_of_add : more.elements = set.elements ++
    schema.elementComponents.map (Component.placed set.schemas.length) := by
  rw [elements_eq_declared, elements_eq_declared, schemas_of_add added,
    Component.declared_append]

theorem complexTypes_of_add : more.complexTypes = set.complexTypes ++
    schema.typeComponents.map (Component.placed set.schemas.length) := by
  rw [complexTypes_eq_declared, complexTypes_eq_declared, schemas_of_add added,
    Component.declared_append]

theorem element?_of_add {name : ExpandedName}
    (known : (set.element? name).isSome ∨ name ∉ schema.elementNames) :
    more.element? name = set.element? name := by
  rw [element?, elements_eq_declared, ← schema.map_name_elementComponents] at known
  rw [element?, element?, elements_eq_declared, elements_eq_declared, schemas_of_add added]
  exact Component.find?_declared_append known

theorem complexType?_of_add {name : ExpandedName}
    (known : (set.complexType? name).isSome ∨ name ∉ schema.typeNames) :
    more.complexType? name = set.complexType? name := by
  rw [complexType?, complexTypes_eq_declared, ← schema.map_name_typeComponents] at known
  rw [complexType?, complexType?, complexTypes_eq_declared, complexTypes_eq_declared,
    schemas_of_add added]
  exact Component.find?_declared_append known

theorem hasSimpleType_of_add (name : ExpandedName) :
    more.hasSimpleType name = (set.hasSimpleType name ||
      schema.simpleTypes.any fun localName => schema.topLevelName localName = name) := by
  simp [hasSimpleType, schemas_of_add added]

/-- New among the elements that may replace a head are those of the schema that list it,
if the schema does not import its namespace. -/
theorem exists_replacements_of_add (head : ExpandedName) :
    ∃ extra, more.replacements head = set.replacements head ++ extra ∧
      ∀ component ∈ extra, schema.Lists component.name head ∧
        schema.importsNamespace head.uri = false := by
  let listings := fun component : Component ElementDeclaration =>
    (component.definition.substitutionGroup.filter fun reference =>
      (component.schema.resolve reference).toOption = some head).map fun _ => component
  let listed :=
    (schema.elementComponents.map (Component.placed set.schemas.length)).flatMap listings
  refine ⟨listed.filter fun component => !component.schema.importsNamespace head.uri, ?_, ?_⟩
  · rw [replacements, substitutes, elements_of_add added, List.flatMap_append,
      List.filter_append]
    rfl
  · intro component isExtra
    rcases List.mem_filter.mp isExtra with ⟨isListed, notImported⟩
    rcases List.mem_flatMap.mp isListed with ⟨listing, isPlaced, isListed⟩
    rcases List.mem_map.mp isListed with ⟨reference, lists, rfl⟩
    rcases List.mem_filter.mp lists with ⟨isReference, resolves⟩
    rcases List.mem_map.mp isPlaced with ⟨unplaced, isPart, rfl⟩
    rcases List.mem_map.mp isPart with ⟨⟨declaration, index⟩, isNumbered, rfl⟩
    have isDeclared : declaration ∈ schema.elements :=
      List.mem_of_getElem? (List.mem_zipIdx_iff_getElem?.mp isNumbered)
    refine ⟨⟨declaration, isDeclared, rfl, reference, isReference, ?_⟩, ?_⟩
    · exact toOption_eq_some_iff.mp (of_decide_eq_true resolves)
    · simpa using notImported

/-- A type that is found stays the same as long as no complex type hides a simple one. -/
theorem namedType_of_add
    (unhidden : ∀ name ∈ schema.typeNames, set.hasSimpleType name →
      (set.complexType? name).isSome)
    {name : ExpandedName} {type : MemberType} (named : set.namedType name = .ok type) :
    more.namedType name = .ok type := by
  by_cases isBuiltin : name.isBuiltin
  · rw [namedType, if_pos isBuiltin] at named ⊢
    exact named
  by_cases isComplex : (set.complexType? name).isSome
  · rw [namedType, if_neg isBuiltin, if_pos isComplex] at named
    rw [namedType, if_neg isBuiltin, complexType?_of_add added (.inl isComplex),
      if_pos isComplex]
    exact named
  by_cases isSimple : set.hasSimpleType name
  · have notDeclared : name ∉ schema.typeNames :=
      fun isDeclared => isComplex (unhidden name isDeclared isSimple)
    rw [namedType, if_neg isBuiltin, if_neg isComplex, if_pos isSimple] at named
    rw [namedType, if_neg isBuiltin, complexType?_of_add added (.inr notDeclared),
      if_neg isComplex, hasSimpleType_of_add added, isSimple, Bool.true_or]
    exact named
  · rw [namedType, if_neg isBuiltin, if_neg isComplex, if_neg isSimple] at named
    cases named

/-- Where the schema lists heads for elements that replace them already, all that was
found is found as before, and more than that. -/
theorem widens_of_add
    (replaces : ∀ name head, schema.Lists name head → (set.element? head).isSome →
      schema.importsNamespace head.uri = false → set.Replaces head name)
    (unhidden : ∀ name ∈ schema.typeNames, set.hasSimpleType name →
      (set.complexType? name).isSome) :
    set.Widens True more where
  element? name := by
    cases found : set.element? name with
    | none => exact .inr ⟨trivial, rfl⟩
    | some component =>
        have isFound : (set.element? name).isSome := by rw [found]; rfl
        exact .inl ((element?_of_add added (.inl isFound)).trans found)
  namedType name := by
    cases named : set.namedType name with
    | error fault => exact .mended trivial fault _
    | ok type =>
        rw [namedType_of_add added unhidden named]
        exact .same _
  replacements head isElement := by
    rcases exists_replacements_of_add added head with ⟨extra, replacements, isNew⟩
    refine ⟨extra, replacements, ?_⟩
    intro component isExtra
    rcases isNew component isExtra with ⟨lists, notImported⟩
    exact replaces component.name head lists isElement notImported

end Lookups

/-! ## Shadowed schemas -/

namespace Shadows

variable (shadowed : set.Shadows schema) (added : set.add schema = .ok more)

include shadowed added

theorem element?_eq (name : ExpandedName) : more.element? name = set.element? name := by
  apply element?_of_add added
  by_cases isDeclared : name ∈ schema.elementNames
  · exact .inl (shadowed.elements name isDeclared)
  · exact .inr isDeclared

theorem complexType?_eq (name : ExpandedName) :
    more.complexType? name = set.complexType? name := by
  apply complexType?_of_add added
  by_cases isDeclared : name ∈ schema.typeNames
  · exact .inl (shadowed.complexTypes name isDeclared)
  · exact .inr isDeclared

theorem hasSimpleType_eq (name : ExpandedName) :
    more.hasSimpleType name = set.hasSimpleType name := by
  rw [hasSimpleType_of_add added, Bool.or_eq_left_iff_imp]
  intro isDeclared
  rcases List.any_eq_true.mp isDeclared with ⟨localName, isSimple, sameName⟩
  rw [← of_decide_eq_true sameName]
  exact shadowed.simpleTypes localName isSimple

/-- Where the schema lists heads for elements that replace them already, nothing else is
found than before. -/
theorem widens
    (replaces : ∀ name head, schema.Lists name head → (set.element? head).isSome →
      schema.importsNamespace head.uri = false → set.Replaces head name) :
    set.Widens False more where
  element? name := .inl (shadowed.element?_eq added name)
  namedType name := by
    rw [namedType, namedType, shadowed.complexType?_eq added, shadowed.hasSimpleType_eq added]
    exact .same _
  replacements := by
    have unhidden : ∀ name ∈ schema.typeNames, set.hasSimpleType name →
        (set.complexType? name).isSome :=
      fun name isDeclared _ => shadowed.complexTypes name isDeclared
    exact (widens_of_add added replaces unhidden).replacements

theorem ownsAt_iff {position : Nat} {owner : Owner} :
    more.OwnsAt position owner ↔ set.OwnsAt position owner := by
  cases owner with
  | outside => exact .rfl
  | element name => rw [OwnsAt, OwnsAt, shadowed.element?_eq added]
  | complexType name => rw [OwnsAt, OwnsAt, shadowed.complexType?_eq added]

/-- The schema has no content models of its own. -/
theorem ownedTypesAt_eq_nil : more.ownedTypesAt set.schemas.length = [] := by
  apply List.eq_nil_iff_forall_not_mem.mpr
  intro owned isHere
  have owns := (shadowed.ownsAt_iff added).mp (exists_ownedTypesAt_iff.mp ⟨owned, isHere, rfl⟩)
  exact Nat.lt_irrefl _ owns.position_lt

end Shadows

/-! ## Content models -/

section ContentModels

variable (added : set.add schema = .ok more)

include added

theorem ownedByElement?_of_add {component : Component ElementDeclaration}
    (isElement : component ∈ set.elements) :
    more.ownedByElement? component = set.ownedByElement? component := by
  have isFound := isSome_element?_of_mem isElement
  rw [ownedByElement?, ownedByElement?, element?_of_add added (.inl isFound)]

theorem ownedByName?_of_add {component : Component ComplexType}
    (isType : component ∈ set.complexTypes) :
    more.ownedByName? component = set.ownedByName? component := by
  have isFound : (set.complexType? component.name).isSome := by
    rw [complexType?, List.find?_isSome]
    exact ⟨component, isType, by simp⟩
  rw [ownedByName?, ownedByName?, complexType?_of_add added (.inl isFound)]

theorem ownedTypesAt_of_add {position : Nat} (isBefore : position < set.schemas.length) :
    more.ownedTypesAt position = set.ownedTypesAt position := by
  have notLast : ¬set.schemas.length = position := by omega
  rw [ownedTypesAt, ownedTypesAt, elements_of_add added, complexTypes_of_add added,
    List.filter_append, List.filter_append, Component.filter_position_placed,
    Component.filter_position_placed, if_neg notLast, if_neg notLast, List.append_nil,
    List.append_nil]
  congr 1
  · apply List.filterMap_congr
    intro component isHere
    exact ownedByElement?_of_add added (List.mem_filter.mp isHere).1
  · apply List.filterMap_congr
    intro component isHere
    exact ownedByName?_of_add added (List.mem_filter.mp isHere).1

/-- The types that have content models come first, and those of the schema last. -/
theorem ownedTypes_of_add :
    more.ownedTypes = set.ownedTypes ++ more.ownedTypesAt set.schemas.length := by
  change (List.range more.schemas.length).flatMap more.ownedTypesAt = _
  rw [schemas_of_add added, List.length_append, List.length_singleton, List.range_succ,
    List.flatMap_append, List.flatMap_singleton]
  congr 1
  apply List.flatMap_congr
  intro position isPlace
  exact ownedTypesAt_of_add added (List.mem_range.mp isPlace)

end ContentModels

/-- A schema whose elements list no head that is found, and whose complex types hide no
simple type, leaves the content models as they are: they are compiled to the same in the
larger set, and come first among its content models. -/
theorem contentModels_of_add {models : List ContentModel}
    (compiled : set.contentModels = .ok models) (added : set.add schema = .ok more)
    (unlisted : ∀ name head, schema.Lists name head → set.element? head = none)
    (unhidden : ∀ name ∈ schema.typeNames, set.hasSimpleType name →
      (set.complexType? name).isSome) :
    set.ownedTypes.mapM (·.model more) = .ok models ∧
      ∀ others, more.contentModels = .ok others → models <+: others := by
  have replaces : ∀ name head, schema.Lists name head → (set.element? head).isSome →
      schema.importsNamespace head.uri = false → set.Replaces head name := by
    intro name head lists isFound _
    rw [unlisted name head lists] at isFound
    cases isFound
  have wider := widens_of_add added replaces unhidden
  have sameModels : set.ownedTypes.mapM (·.model more) = .ok models :=
    ((Comparison.kept True).mapM fun owned _ =>
      owned.model_compare (wider.gathers owned.schema)).eq_ok compiled
  refine ⟨sameModels, ?_⟩
  intro others compiledMore
  rw [contentModels, ownedTypes_of_add added, List.mapM_append, sameModels] at compiledMore
  rcases exists_of_bind_eq_ok compiledMore with ⟨first, isFirst, compiledMore⟩
  rcases exists_of_bind_eq_ok compiledMore with ⟨later, _, isOthers⟩
  cases isFirst
  cases isOthers
  exact List.prefix_append models later

end SchemaSet

namespace Shapes

/-- The head that is listed here is declared here. -/
def frames : Schema :=
  schema [{ declaration "Frame" [] with anonymousType := some (.complex drawing) },
    declaration "Border" [reference "Frame"]]

def drawings : SchemaSet where
  schemas := [base, circles]
  affiliated := by decide +kernel

def framedDrawings : SchemaSet where
  schemas := [base, circles, frames]
  affiliated := by decide +kernel

def circlesModel : ContentModel :=
  { drawingModel with members := [member "Circle", member "Ellipse", member "Shape"] }

/-- What may be drawn does not depend on frames. -/
theorem contentModels_of_frames :
    drawings.add frames = .ok framedDrawings ∧
      drawings.contentModels = .ok [circlesModel] ∧
      drawings.ownedTypes.mapM (·.model framedDrawings) = .ok [circlesModel] := by
  have compiled : drawings.contentModels = .ok [circlesModel] := by decide +kernel
  have added : drawings.add frames = .ok framedDrawings := rfl
  have unlisted : ∀ name head, frames.Lists name head → drawings.element? head = none := by
    intro name head lists
    rcases lists with ⟨declaration, isDeclared, _, reference, isReference, resolved⟩
    simp only [frames, schema, List.mem_cons, List.not_mem_nil, or_false] at isDeclared
    rcases isDeclared with rfl | rfl
    · cases isReference
    · rcases List.mem_singleton.mp isReference with rfl
      cases resolved
      decide +kernel
  have unhidden : ∀ name ∈ frames.typeNames, drawings.hasSimpleType name →
      (drawings.complexType? name).isSome := by
    intro name isDeclared
    cases isDeclared
  exact ⟨added, compiled, (SchemaSet.contentModels_of_add compiled added unlisted unhidden).1⟩

end Shapes

namespace SchemaSet

variable {set more : SchemaSet} {schema : Schema}

/-- A schema that declares nothing new has no influence on the content models, as long as
its elements list no heads but those that elements with their names replace already. -/
theorem contentModels_of_shadows (added : set.add schema = .ok more)
    (shadowed : set.Shadows schema)
    (replaces : ∀ name head, schema.Lists name head → (set.element? head).isSome →
      schema.importsNamespace head.uri = false → set.Replaces head name) :
    more.contentModels = set.contentModels := by
  have wider := shadowed.widens added replaces
  rw [contentModels, ownedTypes_of_add added, shadowed.ownedTypesAt_eq_nil added,
    List.append_nil]
  exact ((Comparison.kept False).mapM fun owned _ =>
    owned.model_compare (wider.gathers owned.schema)).eq

end SchemaSet

namespace Shapes

def repeatedDrawings : SchemaSet where
  schemas := [base, circles, circles]
  affiliated := by decide +kernel

/-- Declaring the circles once more makes no difference. -/
theorem contentModels_of_repeated_circles :
    drawings.add circles = .ok repeatedDrawings ∧ drawings.Shadows circles ∧
      repeatedDrawings.contentModels = drawings.contentModels := by
  have added : drawings.add circles = .ok repeatedDrawings := rfl
  have shadowed : drawings.Shadows circles :=
    ⟨by decide +kernel, nofun, nofun⟩
  refine ⟨added, shadowed, SchemaSet.contentModels_of_shadows added shadowed ?_⟩
  intro name head lists _ _
  rcases lists with ⟨declaration, isDeclared, rfl, reference, isReference, resolved⟩
  simp only [circles, schema, List.mem_cons, List.not_mem_nil, or_false] at isDeclared
  rcases isDeclared with rfl | rfl <;>
  · rcases List.mem_singleton.mp isReference with rfl
    cases resolved
    unfold SchemaSet.Replaces
    decide +kernel

/-- The drawing is declared once more, and here it is a shape. -/
def strays : Schema :=
  schema [declaration "Drawing" [reference "Shape"]]

def strayDrawings : SchemaSet where
  schemas := [base, circles, strays]
  affiliated := by decide +kernel

/-- A shadowed element still stands in for the heads that it lists. -/
theorem contentModels_not_always_of_shadows :
    ¬∀ (set more : SchemaSet) (schema : Schema), set.add schema = .ok more →
      set.Shadows schema → more.contentModels = set.contentModels := by
  intro unaffected
  have shadowed : drawings.Shadows strays :=
    ⟨by decide +kernel, nofun, nofun⟩
  have same := unaffected drawings strayDrawings strays rfl shadowed
  exact absurd same (by decide +kernel)

end Shapes

end SchemaContent
