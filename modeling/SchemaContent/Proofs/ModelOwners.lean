import SchemaContent.Proofs.Contents
import SchemaContent.Proofs.DeclarationOrder

/-! # The owners of content models

Which types have content models is found by going through what the schemas declare,
and which types members refer to is found by names. The two agree: each type that a
member refers to has exactly one content model. -/

namespace SchemaContent.SchemaSet

variable {set : SchemaSet}

/-! ## Types that are not shadowed -/

theorem ownedByElement?_eq_some_iff {component : Component ElementDeclaration}
    (isElement : component ∈ set.elements) {owned : OwnedType} :
    set.ownedByElement? component = some owned ↔
      set.element? component.name = some component ∧
        ∃ definition, component.definition.anonymousType = some (.complex definition) ∧
          owned = ⟨.element component.name, component.schema, definition⟩ := by
  rw [ownedByElement?]
  constructor
  · intro isOwned
    split at isOwned
    case h_1 definition complex =>
      split at isOwned
      case isTrue sameSite =>
        cases isOwned
        refine ⟨?_, definition, complex, rfl⟩
        exact Component.find?_eq_some_of_site set.pairwise_elements isElement sameSite
      case isFalse => cases isOwned
    case h_2 => cases isOwned
  · rintro ⟨found, definition, complex, rfl⟩
    rw [complex, found]
    exact if_pos rfl

theorem ownedByName?_eq_some_iff {component : Component ComplexType}
    (isType : component ∈ set.complexTypes) {owned : OwnedType} :
    set.ownedByName? component = some owned ↔
      set.complexType? component.name = some component ∧
        owned = ⟨.complexType component.name, component.schema, component.definition⟩ := by
  rw [ownedByName?]
  constructor
  · intro isOwned
    split at isOwned
    case isTrue sameSite =>
      cases isOwned
      refine ⟨?_, rfl⟩
      exact Component.find?_eq_some_of_site set.pairwise_complexTypes isType sameSite
    case isFalse => cases isOwned
  · rintro ⟨found, rfl⟩
    rw [found]
    exact if_pos rfl

/-- A type with a content model is declared inside a top-level element or by name. -/
theorem exists_of_mem_ownedTypes {owned : OwnedType} (isOwned : owned ∈ set.ownedTypes) :
    (∃ component ∈ set.elements, component.schema = owned.schema ∧
        component.definition.anonymousType = some (.complex owned.definition)) ∨
      ∃ component ∈ set.complexTypes, component.schema = owned.schema ∧
        component.definition = owned.definition := by
  have ⟨_, _, isOwned⟩ := List.mem_flatMap.mp isOwned
  rcases List.mem_append.mp isOwned with byElement | byName
  · have ⟨component, isHere, isOwned⟩ := List.mem_filterMap.mp byElement
    have isElement := List.mem_of_mem_filter isHere
    rcases (ownedByElement?_eq_some_iff isElement).mp isOwned with ⟨_, _, isComplex, rfl⟩
    exact .inl ⟨component, isElement, rfl, isComplex⟩
  · have ⟨component, isHere, isOwned⟩ := List.mem_filterMap.mp byName
    have isType := List.mem_of_mem_filter isHere
    rcases (ownedByName?_eq_some_iff isType).mp isOwned with ⟨_, rfl⟩
    exact .inr ⟨component, isType, rfl, rfl⟩

/-! ## Owners -/

/-- The component that this owner is known by has a complex type, and it stands at
this place among the schemas. -/
def OwnsAt (set : SchemaSet) (position : Nat) : Owner → Prop
  | .outside => False
  | .element name => ∃ component definition,
      set.element? name = some component ∧ component.position = position ∧
        component.definition.anonymousType = some (.complex definition)
  | .complexType name => ∃ component,
      set.complexType? name = some component ∧ component.position = position

theorem OwnsAt.position_eq {position other : Nat} {owner : Owner}
    (owns : set.OwnsAt position owner) (ownsOther : set.OwnsAt other owner) :
    position = other := by
  cases owner with
  | outside => cases owns
  | element name =>
      obtain ⟨component, _, found, rfl, _⟩ := owns
      obtain ⟨same, _, foundToo, rfl, _⟩ := ownsOther
      rw [found] at foundToo
      cases foundToo
      rfl
  | complexType name =>
      obtain ⟨component, found, rfl⟩ := owns
      obtain ⟨same, foundToo, rfl⟩ := ownsOther
      rw [found] at foundToo
      cases foundToo
      rfl

theorem OwnsAt.position_lt {position : Nat} {owner : Owner}
    (owns : set.OwnsAt position owner) : position < set.schemas.length := by
  cases owner with
  | outside => cases owns
  | element name =>
      obtain ⟨component, _, found, rfl, _⟩ := owns
      have declared := mem_elements_iff.mp (mem_elements_of_element? found)
      exact (List.getElem?_eq_some_iff.mp declared.schema).1
  | complexType name =>
      obtain ⟨component, found, rfl⟩ := owns
      have declared := mem_complexTypes_iff.mp (List.mem_of_find?_eq_some found)
      exact (List.getElem?_eq_some_iff.mp declared.schema).1

/-- The types of one schema that have content models. -/
def ownedTypesAt (set : SchemaSet) (position : Nat) : List OwnedType :=
  (set.elements.filter (·.position = position)).filterMap set.ownedByElement? ++
    (set.complexTypes.filter (·.position = position)).filterMap set.ownedByName?

theorem exists_ownedTypesAt_iff {position : Nat} {owner : Owner} :
    (∃ owned ∈ set.ownedTypesAt position, owned.owner = owner) ↔
      set.OwnsAt position owner := by
  constructor
  · rintro ⟨owned, isOwned, rfl⟩
    rcases List.mem_append.mp isOwned with byElement | byName
    · obtain ⟨component, isHere, isOwned⟩ := List.mem_filterMap.mp byElement
      have ⟨isElement, samePosition⟩ := List.mem_filter.mp isHere
      obtain ⟨found, definition, complex, rfl⟩ :=
        (ownedByElement?_eq_some_iff isElement).mp isOwned
      exact ⟨component, definition, found, of_decide_eq_true samePosition, complex⟩
    · obtain ⟨component, isHere, isOwned⟩ := List.mem_filterMap.mp byName
      have ⟨isType, samePosition⟩ := List.mem_filter.mp isHere
      obtain ⟨found, rfl⟩ := (ownedByName?_eq_some_iff isType).mp isOwned
      exact ⟨component, found, of_decide_eq_true samePosition⟩
  · intro owns
    cases owner with
    | outside => cases owns
    | element name =>
        obtain ⟨component, definition, found, samePosition, complex⟩ := owns
        have isElement := mem_elements_of_element? found
        obtain rfl := name_of_element? found
        refine ⟨⟨.element component.name, component.schema, definition⟩, ?_, rfl⟩
        apply List.mem_append_left
        apply List.mem_filterMap.mpr
        refine ⟨component, List.mem_filter.mpr ⟨isElement, decide_eq_true samePosition⟩, ?_⟩
        exact (ownedByElement?_eq_some_iff isElement).mpr ⟨found, definition, complex, rfl⟩
    | complexType name =>
        obtain ⟨component, found, samePosition⟩ := owns
        have isType := List.mem_of_find?_eq_some found
        obtain rfl : component.name = name := by simpa using List.find?_some found
        refine ⟨⟨.complexType component.name, component.schema, component.definition⟩, ?_, rfl⟩
        apply List.mem_append_right
        apply List.mem_filterMap.mpr
        refine ⟨component, List.mem_filter.mpr ⟨isType, decide_eq_true samePosition⟩, ?_⟩
        exact (ownedByName?_eq_some_iff isType).mpr ⟨found, rfl⟩

theorem mem_owners_iff {owner : Owner} :
    owner ∈ set.ownedTypes.map (·.owner) ↔ ∃ position, set.OwnsAt position owner := by
  constructor
  · intro isOwner
    obtain ⟨owned, isOwned, rfl⟩ := List.mem_map.mp isOwner
    obtain ⟨position, _, isHere⟩ := List.mem_flatMap.mp isOwned
    exact ⟨position, exists_ownedTypesAt_iff.mp ⟨owned, isHere, rfl⟩⟩
  · rintro ⟨position, owns⟩
    obtain ⟨owned, isHere, rfl⟩ := exists_ownedTypesAt_iff.mpr owns
    apply List.mem_map_of_mem
    exact List.mem_flatMap.mpr ⟨position, List.mem_range.mpr owns.position_lt, isHere⟩

/-- Components that are not shadowed have different owners, as each is found by its
name. -/
theorem pairwise_owner_ne {α : Type} {components : List (Component α)}
    (ordered : components.Pairwise Component.Earlier)
    (lookup : ExpandedName → Option (Component α)) (toOwner : ExpandedName → Owner)
    (injective : ∀ name other, toOwner name = toOwner other → name = other)
    {owned? : Component α → Option OwnedType}
    (unshadowed : ∀ component ∈ components, ∀ owned, owned? component = some owned →
      lookup component.name = some component ∧ owned.owner = toOwner component.name) :
    (components.filterMap owned?).Pairwise fun first second => first.owner ≠ second.owner := by
  apply List.pairwise_filterMap.mpr
  apply ordered.imp_of_mem
  intro first second isFirst isSecond earlier owned isOwned other isOther sameOwner
  have ⟨foundFirst, firstOwner⟩ := unshadowed first isFirst owned isOwned
  have ⟨foundSecond, secondOwner⟩ := unshadowed second isSecond other isOther
  rw [firstOwner, secondOwner] at sameOwner
  rw [injective _ _ sameOwner, foundSecond] at foundFirst
  cases foundFirst
  exact Component.not_earlier_self _ earlier

theorem nodup_owners (set : SchemaSet) : (set.ownedTypes.map (·.owner)).Nodup := by
  apply List.pairwise_map.mpr
  apply List.pairwise_flatMap.mpr
  constructor
  · intro position _
    apply List.pairwise_append.mpr
    refine ⟨?_, ?_, ?_⟩
    · apply pairwise_owner_ne (set.pairwise_elements.filter _) set.element? .element
      · intro name other same
        cases same
        rfl
      · intro component isHere owned isOwned
        obtain ⟨found, _, _, rfl⟩ :=
          (ownedByElement?_eq_some_iff (List.mem_filter.mp isHere).1).mp isOwned
        exact ⟨found, rfl⟩
    · apply pairwise_owner_ne (set.pairwise_complexTypes.filter _) set.complexType?
        .complexType
      · intro name other same
        cases same
        rfl
      · intro component isHere owned isOwned
        obtain ⟨found, rfl⟩ :=
          (ownedByName?_eq_some_iff (List.mem_filter.mp isHere).1).mp isOwned
        exact ⟨found, rfl⟩
    · intro owned byElement other byName sameOwner
      obtain ⟨component, isHere, isOwned⟩ := List.mem_filterMap.mp byElement
      obtain ⟨_, _, _, rfl⟩ :=
        (ownedByElement?_eq_some_iff (List.mem_filter.mp isHere).1).mp isOwned
      obtain ⟨type, isHere, isOwned⟩ := List.mem_filterMap.mp byName
      obtain ⟨_, rfl⟩ := (ownedByName?_eq_some_iff (List.mem_filter.mp isHere).1).mp isOwned
      cases sameOwner
  · apply List.nodup_range.imp
    intro position other different owned isHere peer isThere sameOwner
    have owns : set.OwnsAt position owned.owner :=
      exists_ownedTypesAt_iff.mp ⟨owned, isHere, rfl⟩
    have ownsOther : set.OwnsAt other owned.owner :=
      exists_ownedTypesAt_iff.mp ⟨peer, isThere, sameOwner.symm⟩
    exact different (owns.position_eq ownsOther)

theorem element_mem_owners_iff {name : ExpandedName} :
    .element name ∈ set.ownedTypes.map (·.owner) ↔
      ∃ component definition, set.element? name = some component ∧
        component.definition.anonymousType = some (.complex definition) := by
  rw [mem_owners_iff]
  constructor
  · rintro ⟨_, component, definition, found, _, complex⟩
    exact ⟨component, definition, found, complex⟩
  · rintro ⟨component, definition, found, complex⟩
    exact ⟨_, component, definition, found, rfl, complex⟩

theorem complexType_mem_owners_iff {name : ExpandedName} :
    .complexType name ∈ set.ownedTypes.map (·.owner) ↔
      ∃ component, set.complexType? name = some component := by
  rw [mem_owners_iff]
  constructor
  · rintro ⟨_, component, found, _⟩
    exact ⟨component, found⟩
  · rintro ⟨component, found⟩
    exact ⟨_, component, found, rfl⟩

/-! ## Content models -/

/-- The models have different owners, which are the top-level elements with an
anonymous complex type of their own and the named complex types. Whatever member of
a model, at any depth, has such a type, the type is that of exactly one model. -/
theorem contentModels_own_types {models : List ContentModel}
    (compiled : set.contentModels = .ok models) :
    (models.map (·.owner)).Nodup ∧
      (∀ name, .element name ∈ models.map (·.owner) ↔
        ∃ component definition, set.element? name = some component ∧
          component.definition.anonymousType = some (.complex definition)) ∧
      (∀ name, .complexType name ∈ models.map (·.owner) ↔
        ∃ component, set.complexType? name = some component) ∧
      ∀ model ∈ models, ∀ part, Member.Part model.members part → ∀ member ∈ part, ∀ name,
        (member.type = .complex name →
          (models.map (·.owner)).count (.complexType name) = 1) ∧
        (member.type = .anonymousComplex name →
          (models.map (·.owner)).count (.element name) = 1) := by
  have owners : models.map (·.owner) = set.ownedTypes.map (·.owner) :=
    map_eq_of_mapM_eq_ok (fun _ _ isModel => (OwnedType.of_model isModel).1) compiled
  rw [owners]
  refine ⟨set.nodup_owners, fun _ => element_mem_owners_iff,
    fun _ => complexType_mem_owners_iff, ?_⟩
  intro model isModel part isPart member isMember name
  have compiledPart : set.Compiles part :=
    Compiles.part (.contentModel compiled isModel) isPart
  constructor
  · intro isComplex
    have provided := compiledPart.provides isMember (by simp [isComplex])
    rw [isComplex] at provided
    exact List.count_eq_one_of_mem set.nodup_owners (complexType_mem_owners_iff.mpr provided)
  · intro isAnonymous
    have provided := compiledPart.provides isMember (by simp [isAnonymous])
    rw [isAnonymous] at provided
    exact List.count_eq_one_of_mem set.nodup_owners (element_mem_owners_iff.mpr provided)

end SchemaContent.SchemaSet

/-! ### Boxes

A type that refers to itself from inside a declared one, and shadowed components. -/

namespace SchemaContent.Boxes

def schema (elements : List ElementDeclaration) (simpleTypes : List String) : Schema where
  location := none
  targetNamespace := none
  elementForm := .unqualified
  bindings := .ofList [(some "xs", schemaNamespace)]
  directives := []
  elements := elements
  complexTypes := [⟨some "Label", none⟩]
  simpleTypes := simpleTypes

def declaration (declared : Declared) (typeName : Option Reference)
    (content : Option (List ElementDeclaration)) : ElementDeclaration :=
  ⟨declared, typeName, content.map fun elements =>
    .complex ⟨none, some (.group .sequence ⟨.unstated, elements.map .element⟩)⟩,
    [], .unstated, none⟩

/-- A box has a lid, on which there is a label, and under which there is a box. -/
def box : ElementDeclaration :=
  declaration (.named "Box") none (some [
    declaration (.named "lid") none (some [
      declaration (.named "label") (some ⟨none, "Label"⟩) none,
      declaration (.reference ⟨none, "Box"⟩) none none])])

def set : SchemaSet where
  schemas := [schema [box, declaration (.named "Box") none (some [])] [], schema [box] ["Label"]]
  affiliated := by
    intro schema isSchema
    simp only [List.mem_cons, List.not_mem_nil, or_false] at isSchema
    rcases isSchema with rfl | rfl <;> exact ⟨_, rfl⟩

def underLid : List Member :=
  [⟨⟨none, "Box"⟩, some ⟨none, "Box"⟩, .anonymousComplex ⟨none, "Box"⟩, .unstated,
      .element ⟨none, "lid"⟩⟩,
    ⟨⟨none, "label"⟩, none, .complex ⟨none, "Label"⟩, .unstated, .element ⟨none, "lid"⟩⟩]

def models : List ContentModel :=
  [⟨.element ⟨none, "Box"⟩,
      [⟨⟨none, "lid"⟩, none, .inline underLid, .unstated, .element ⟨none, "Box"⟩⟩]⟩,
    ⟨.complexType ⟨none, "Label"⟩, []⟩]

theorem contentModels_own_boxes :
    set.contentModels = .ok models ∧ (models.map (·.owner)).Nodup ∧
      (models.map (·.owner)).count (.element ⟨none, "Box"⟩) = 1 ∧
        (models.map (·.owner)).count (.complexType ⟨none, "Label"⟩) = 1 := by
  have compiled : set.contentModels = .ok models := by decide +kernel
  have ⟨distinctOwners, _, _, referred⟩ := SchemaSet.contentModels_own_types compiled
  have ofModel := referred _ List.mem_cons_self underLid
    (.inside List.mem_cons_self rfl (.itself underLid))
  refine ⟨compiled, distinctOwners, ?_, ?_⟩
  · exact (ofModel _ List.mem_cons_self _).2 rfl
  · exact (ofModel _ (List.mem_cons_of_mem _ List.mem_cons_self) _).1 rfl

end SchemaContent.Boxes
