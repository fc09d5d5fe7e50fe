import Mathlib.Data.List.Basic
import SchemaContent.Proofs.Registration

/-! # The order of declarations

The components of a set stand in the order of its schemas and, within a schema, in
that of its declarations. So a component is known by its site, and the first one
under a name is the one that was declared first. -/

namespace SchemaContent

namespace Component

variable {α : Type}

/-! ## Sites -/

/-- Declared in an earlier schema, or earlier in the same one. -/
def Earlier (first second : Component α) : Prop :=
  first.position < second.position ∨
    first.position = second.position ∧ first.index < second.index

variable {first second : Component α}

theorem not_earlier_of_earlier (earlier : first.Earlier second) : ¬second.Earlier first := by
  unfold Earlier at earlier ⊢
  omega

theorem not_earlier_self (component : Component α) : ¬component.Earlier component :=
  fun earlier => not_earlier_of_earlier earlier earlier

theorem earlier_trichotomy (first second : Component α) :
    first.Earlier second ∨ first.site = second.site ∨ second.Earlier first := by
  simp only [Earlier, site, Prod.mk.injEq]
  omega

theorem site_ne_of_earlier (earlier : first.Earlier second) : first.site ≠ second.site := by
  simp only [Earlier, site, ne_eq, Prod.mk.injEq] at earlier ⊢
  omega

/-- In declaration order a component is known by its site. -/
theorem eq_of_site_eq {components : List (Component α)}
    (ordered : components.Pairwise Earlier) (isFirst : first ∈ components)
    (isSecond : second ∈ components) (sameSite : first.site = second.site) :
    first = second := by
  have distinctSites : (components.map site).Nodup :=
    List.pairwise_map.mpr (ordered.imp site_ne_of_earlier)
  exact List.inj_on_of_nodup_map distinctSites isFirst isSecond sameSite

/-- Where the component that counts under a name stands at the site of this one, it is
this one. -/
theorem find?_eq_some_of_site {components : List (Component α)}
    (ordered : components.Pairwise Earlier) {name : ExpandedName} {component : Component α}
    (isComponent : component ∈ components)
    (sameSite : (components.find? fun component => component.name = name).map site =
      some component.site) :
    components.find? (fun component => component.name = name) = some component := by
  obtain ⟨found, isFound, same⟩ := Option.map_eq_some_iff.mp sameSite
  rw [isFound, eq_of_site_eq ordered (List.mem_of_find?_eq_some isFound) isComponent same]

/-- What is found by its name is the component that was declared first under it. -/
theorem find?_eq_some_iff_first {components : List (Component α)}
    (ordered : components.Pairwise Earlier) {name : ExpandedName} {component : Component α} :
    components.find? (fun component => component.name = name) = some component ↔
      component ∈ components ∧ component.name = name ∧
        ∀ other ∈ components, other.name = name → ¬other.Earlier component := by
  have first_of_found : ∀ {found : Component α},
      components.find? (fun component => component.name = name) = some found →
        ∀ other ∈ components, other.name = name → ¬other.Earlier found := by
    intro found isFound other isOther sameName
    obtain ⟨_, before, after, rfl, noneBefore⟩ := List.find?_eq_some_iff_append.mp isFound
    rcases List.mem_append.mp isOther with isBefore | isLater
    · simpa [sameName] using noneBefore other isBefore
    · have ⟨foundFirst, _⟩ := List.pairwise_cons.mp (List.pairwise_append.mp ordered).2.1
      rcases List.mem_cons.mp isLater with rfl | isAfter
      · exact not_earlier_self other
      · exact not_earlier_of_earlier (foundFirst other isAfter)
  constructor
  · intro found
    exact ⟨List.mem_of_find?_eq_some found, by simpa using List.find?_some found,
      first_of_found found⟩
  · rintro ⟨isComponent, sameName, isFirst⟩
    cases found : components.find? fun component => component.name = name with
    | none =>
        have absent := List.find?_eq_none.mp found component isComponent
        simp [sameName] at absent
    | some other =>
        have isOther := List.mem_of_find?_eq_some found
        have otherName : other.name = name := by simpa using List.find?_some found
        rcases earlier_trichotomy other component with earlier | sameSite | later
        · exact absurd earlier (isFirst other isOther otherName)
        · rw [eq_of_site_eq ordered isOther isComponent sameSite]
        · exact absurd later (first_of_found found component isComponent sameName)

/-! ## Declarations with a name -/

/-- The components that a schema declares by these parts of it: those with a name. -/
def ofParts (parts : Schema → List α) (localName? : α → Option String) (schema : Schema) :
    List (Component α) :=
  (parts schema).zipIdx.filterMap fun (definition, index) =>
    (localName? definition).map fun localName =>
      ⟨schema.topLevelName localName, schema, 0, index, definition⟩

/-- The component stands among the schemas where it says, under the name that its
schema gives it. -/
structure DeclaredIn (schemas : List Schema) (parts : Schema → List α)
    (localName? : α → Option String) (component : Component α) : Prop where
  schema : schemas[component.position]? = some component.schema
  definition : (parts component.schema)[component.index]? = some component.definition
  name : (localName? component.definition).map component.schema.topLevelName =
    some component.name

variable {parts : Schema → List α} {localName? : α → Option String}

theorem DeclaredIn.schema_mem {schemas : List Schema} {component : Component α}
    (declared : component.DeclaredIn schemas parts localName?) : component.schema ∈ schemas :=
  List.mem_of_getElem? declared.schema

theorem DeclaredIn.definition_mem {schemas : List Schema} {component : Component α}
    (declared : component.DeclaredIn schemas parts localName?) :
    component.definition ∈ parts component.schema :=
  List.mem_of_getElem? declared.definition

theorem mem_declared_iff {schemas : List Schema} {component : Component α} :
    component ∈ declared (ofParts parts localName?) schemas ↔
      component.DeclaredIn schemas parts localName? := by
  constructor
  · intro isDeclared
    obtain ⟨⟨schema, position⟩, isSchema, isPlaced⟩ := List.mem_flatMap.mp isDeclared
    obtain ⟨unplaced, isPart, rfl⟩ := List.mem_map.mp isPlaced
    obtain ⟨⟨definition, index⟩, isDefinition, named⟩ := List.mem_filterMap.mp isPart
    obtain ⟨localName, hasName, rfl⟩ := Option.map_eq_some_iff.mp named
    have atPosition := List.mem_zipIdx_iff_getElem?.mp isSchema
    have atIndex := List.mem_zipIdx_iff_getElem?.mp isDefinition
    exact ⟨atPosition, atIndex, Option.map_eq_some_iff.mpr ⟨localName, hasName, rfl⟩⟩
  · rintro ⟨atPosition, atIndex, named⟩
    obtain ⟨localName, hasName, sameName⟩ := Option.map_eq_some_iff.mp named
    apply List.mem_flatMap.mpr
    refine ⟨(component.schema, component.position), ?_, ?_⟩
    · exact List.mem_zipIdx_iff_getElem?.mpr atPosition
    apply List.mem_map.mpr
    refine ⟨component.placed 0, ?_, rfl⟩
    apply List.mem_filterMap.mpr
    refine ⟨(component.definition, component.index), ?_, ?_⟩
    · exact List.mem_zipIdx_iff_getElem?.mpr atIndex
    apply Option.map_eq_some_iff.mpr
    exact ⟨localName, hasName, by rw [sameName]; rfl⟩

theorem pairwise_zipIdx {β : Type} (values : List β) :
    values.zipIdx.Pairwise fun first second => first.2 < second.2 := by
  apply List.pairwise_map.mp
  rw [List.zipIdx_map_snd]
  exact List.pairwise_lt_range'

theorem pairwise_declared (schemas : List Schema) (parts : Schema → List α)
    (localName? : α → Option String) :
    (declared (ofParts parts localName?) schemas).Pairwise Earlier := by
  apply List.pairwise_flatMap.mpr
  constructor
  · rintro ⟨schema, position⟩ _
    apply List.pairwise_map.mpr
    apply List.pairwise_filterMap.mpr
    apply (pairwise_zipIdx (parts schema)).imp
    intro first second before component isFirst later isSecond
    obtain ⟨_, _, rfl⟩ := Option.map_eq_some_iff.mp isFirst
    obtain ⟨_, _, rfl⟩ := Option.map_eq_some_iff.mp isSecond
    exact .inr ⟨rfl, before⟩
  · apply (pairwise_zipIdx schemas).imp
    intro first second before component isFirst later isSecond
    obtain ⟨_, _, rfl⟩ := List.mem_map.mp isFirst
    obtain ⟨_, _, rfl⟩ := List.mem_map.mp isSecond
    exact .inl before

/-- The component is declared under this name, and none is declared under it earlier. -/
structure FirstIn (schemas : List Schema) (parts : Schema → List α)
    (localName? : α → Option String) (name : ExpandedName) (component : Component α) :
    Prop where
  declared : component.DeclaredIn schemas parts localName?
  named : component.name = name
  first : ∀ other : Component α, other.DeclaredIn schemas parts localName? →
    other.name = name → ¬other.Earlier component

variable {schemas : List Schema} {name : ExpandedName}

theorem find?_declared_eq_some_iff {component : Component α} :
    (declared (ofParts parts localName?) schemas).find?
        (fun component => component.name = name) = some component ↔
      component.FirstIn schemas parts localName? name := by
  rw [find?_eq_some_iff_first (pairwise_declared schemas parts localName?)]
  simp only [mem_declared_iff]
  constructor
  · rintro ⟨isDeclared, named, isFirst⟩
    exact ⟨isDeclared, named, isFirst⟩
  · rintro ⟨isDeclared, named, isFirst⟩
    exact ⟨isDeclared, named, isFirst⟩

theorem find?_declared_eq_none_iff :
    (declared (ofParts parts localName?) schemas).find?
        (fun component => component.name = name) = none ↔
      ∀ component : Component α, component.DeclaredIn schemas parts localName? →
        component.name ≠ name := by
  simp only [List.find?_eq_none, mem_declared_iff, decide_eq_true_eq, ne_eq]

end Component

/-! ## The components of a set -/

theorem Schema.elementComponents_eq_ofParts (schema : Schema) :
    schema.elementComponents =
      Component.ofParts Schema.elements (fun declaration => some declaration.name) schema := by
  rw [elementComponents, Component.ofParts, ← List.filterMap_eq_map']
  rfl

namespace SchemaSet

variable {set : SchemaSet}

theorem elements_eq_ofParts (set : SchemaSet) :
    set.elements =
      Component.declared
        (Component.ofParts Schema.elements fun declaration => some declaration.name)
        set.schemas := by
  rw [elements_eq_declared, funext Schema.elementComponents_eq_ofParts]

theorem complexTypes_eq_ofParts (set : SchemaSet) :
    set.complexTypes =
      Component.declared (Component.ofParts Schema.complexTypes ComplexType.name)
        set.schemas :=
  set.complexTypes_eq_declared

theorem mem_elements_iff {component : Component ElementDeclaration} :
    component ∈ set.elements ↔
      component.DeclaredIn set.schemas Schema.elements
        fun declaration => some declaration.name := by
  rw [elements_eq_ofParts, Component.mem_declared_iff]

theorem mem_complexTypes_iff {component : Component ComplexType} :
    component ∈ set.complexTypes ↔
      component.DeclaredIn set.schemas Schema.complexTypes ComplexType.name := by
  rw [complexTypes_eq_ofParts, Component.mem_declared_iff]

theorem pairwise_elements (set : SchemaSet) :
    set.elements.Pairwise Component.Earlier := by
  rw [elements_eq_ofParts]
  exact Component.pairwise_declared _ _ _

theorem pairwise_complexTypes (set : SchemaSet) :
    set.complexTypes.Pairwise Component.Earlier := by
  rw [complexTypes_eq_ofParts]
  exact Component.pairwise_declared _ _ _

end SchemaSet

end SchemaContent
