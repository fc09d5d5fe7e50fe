import SchemaContent.Proofs.DeclarationOrder
import SchemaContent.ContentModel
import SchemaContent.Proofs.Expansion
import SchemaContent.Proofs.Lookups
import SchemaContent.Proofs.ModelOwners

/-! # Faults that documents account for

Where content models cannot be compiled, some document is to blame, and the fault says
what is wrong there. What is made up on the way, such as the references by which
elements stand in for others, is never to blame. -/

namespace SchemaContent

/-! ## References as written -/

mutual

/-- The references that are written in a content tree, at any depth: to elements, to
types and to the heads of substitution groups. -/
def Particle.references : Particle → List Reference
  | .element declaration => declaration.references
  | .group _ group => group.references

def ModelGroup.references : ModelGroup → List Reference
  | ⟨_, particles⟩ => Particle.allReferences particles

def Particle.allReferences : List Particle → List Reference
  | [] => []
  | particle :: rest => particle.references ++ Particle.allReferences rest

def ElementDeclaration.references : ElementDeclaration → List Reference
  | ⟨declared, typeName, anonymousType, substitutionGroup, _, _⟩ =>
    declared.reference?.toList ++ typeName.toList ++ substitutionGroup ++
      AnonymousType.referencesInside anonymousType

def AnonymousType.referencesInside : Option AnonymousType → List Reference
  | none => []
  | some .simple => []
  | some (.complex definition) => definition.references

def ComplexType.references : ComplexType → List Reference
  | ⟨_, none⟩ => []
  | ⟨_, some content⟩ => content.references

end

/-- The references that are written in a schema. -/
def Schema.references (schema : Schema) : List Reference :=
  schema.elements.flatMap ElementDeclaration.references ++
    schema.complexTypes.flatMap ComplexType.references

namespace ElementDeclaration

variable {declaration : ElementDeclaration} {reference : Reference}

theorem mem_references_of_declared (isReference : declaration.declared = .reference reference) :
    reference ∈ declaration.references := by
  cases declaration
  cases isReference
  simp [references, Declared.reference?]

theorem mem_references_of_typeName (isTyped : declaration.typeName = some reference) :
    reference ∈ declaration.references := by
  cases declaration
  cases isTyped
  simp [references]

theorem mem_references_of_head (isHead : reference ∈ declaration.substitutionGroup) :
    reference ∈ declaration.references := by
  cases declaration
  simp only [references, List.mem_append]
  exact .inl (.inr isHead)

theorem references_subset_of_anonymousType {definition : ComplexType}
    (isComplex : declaration.anonymousType = some (.complex definition)) :
    definition.references ⊆ declaration.references := by
  cases declaration
  cases isComplex
  simp only [references, AnonymousType.referencesInside]
  exact List.subset_append_right _ _

end ElementDeclaration

/-! ## What a fault says -/

/-- What the fault says about the schemas of the set, if it is one of the four that
compiling contents can end with. -/
def SchemaSet.Explains (set : SchemaSet) : SchemaError → Prop
  | .unboundQualifier qualifier =>
    ∃ schema ∈ set.schemas,
      (∃ reference ∈ schema.references, reference.qualifier = some qualifier) ∧
        qualifier ≠ "xml" ∧ schema.bindings.lookup qualifier = none
  | .unresolvedReference reference name =>
    set.element? name = none ∧
      ∃ schema ∈ set.schemas, reference ∈ schema.references ∧
        schema.resolve reference = .ok name
  | .unresolvedType name =>
    name.isBuiltin = false ∧ set.complexType? name = none ∧ set.hasSimpleType name = false ∧
      ∃ schema ∈ set.schemas, ∃ reference ∈ schema.references,
        schema.resolve reference = .ok name
  | .namespaceWithoutQualifier target uri =>
    target = some uri ∧
      ∃ schema ∈ set.schemas, schema.targetNamespace = some uri ∧
        (∀ entry ∈ schema.bindings.entries, entry.2 ≠ uri) ∧
          schema.bindings.default ≠ some uri ∧
            ∃ declaration ∈ schema.elements, declaration.substitutionGroup ≠ []
  | _ => False

/-! ## Runs that fail for a reason -/

/-- If the run fails, it is with a fault that is allowed. -/
def FailsOnly {ε α : Type} (allowed : ε → Prop) (run : Except ε α) : Prop :=
  ∀ fault, run = .error fault → allowed fault

namespace FailsOnly

variable {ε α β : Type} {allowed : ε → Prop}

theorem ok (value : α) : FailsOnly allowed (.ok value : Except ε α) :=
  fun _ failed => nomatch failed

theorem error {fault : ε} (isAllowed : allowed fault) :
    FailsOnly allowed (.error fault : Except ε α) := by
  intro other failed
  cases failed
  exact isAllowed

theorem bind {run : Except ε α} {next : α → Except ε β} (first : FailsOnly allowed run)
    (rest : ∀ value, run = .ok value → FailsOnly allowed (next value)) :
    FailsOnly allowed (run >>= next) := by
  cases ended : run with
  | error fault => exact .error (first fault ended)
  | ok value => exact rest value ended

theorem map {run : Except ε α} (first : FailsOnly allowed run) (change : α → β) :
    FailsOnly allowed (change <$> run) := by
  cases ended : run with
  | error fault => exact .error (first fault ended)
  | ok value => exact .ok _

theorem mapM {step : α → Except ε β} {values : List α}
    (each : ∀ value ∈ values, FailsOnly allowed (step value)) :
    FailsOnly allowed (values.mapM step) := by
  induction values with
  | nil => exact .ok _
  | cons first rest induction =>
      rw [List.mapM_cons]
      apply (each first List.mem_cons_self).bind
      intro result _
      have later := induction fun value isLater => each value (List.mem_cons_of_mem _ isLater)
      exact later.bind fun _ _ => .ok _

end FailsOnly

/-! ## Names and types -/

namespace SchemaSet

variable {set : SchemaSet} {schema : Schema}

/-- What a declared element refers to is written in its schema. -/
theorem of_mem_elements {component : Component ElementDeclaration}
    (isElement : component ∈ set.elements) :
    component.schema ∈ set.schemas ∧
      component.definition.references ⊆ component.schema.references := by
  have declared := mem_elements_iff.mp isElement
  refine ⟨declared.schema_mem, ?_⟩
  intro reference isReference
  apply List.mem_append_left
  exact List.mem_flatMap.mpr ⟨_, declared.definition_mem, isReference⟩

theorem resolve_failsOnly (isSchema : schema ∈ set.schemas) {reference : Reference}
    (isWritten : reference ∈ schema.references) :
    FailsOnly set.Explains (schema.resolve reference) := by
  rw [Schema.resolve]
  split
  case h_1 => exact .ok _
  case h_2 qualifier isQualifier =>
    split
    case isTrue => exact .ok _
    case isFalse notXml =>
      split
      case h_1 => exact .ok _
      case h_2 notBound =>
        exact .error ⟨schema, isSchema, ⟨reference, isWritten, isQualifier⟩, notXml, notBound⟩

theorem namedType_failsOnly (isSchema : schema ∈ set.schemas) {reference : Reference}
    (isWritten : reference ∈ schema.references) {name : ExpandedName}
    (resolved : schema.resolve reference = .ok name) :
    FailsOnly set.Explains (set.namedType name) := by
  rw [namedType]
  split
  case isTrue => exact .ok _
  case isFalse notBuiltin =>
    split
    case isTrue => exact .ok _
    case isFalse notComplex =>
      split
      case isTrue => exact .ok _
      case isFalse notSimple =>
        refine .error ⟨Bool.not_eq_true _ ▸ notBuiltin, ?_, Bool.not_eq_true _ ▸ notSimple,
          schema, isSchema, reference, isWritten, resolved⟩
        exact Option.not_isSome_iff_eq_none.mp notComplex

/-- The walk along heads goes through declared elements only, whose references are
written in their own schemas. -/
theorem outerType_failsOnly (set : SchemaSet) (seen : List ExpandedName)
    (schema : Schema) (declaration : ElementDeclaration) (isSchema : schema ∈ set.schemas)
    (areWritten : declaration.references ⊆ schema.references) :
    FailsOnly set.Explains (set.outerType seen schema declaration) := by
  induction seen, schema, declaration using outerType.induct set with
  | case1 seen schema declaration reference isTyped fault failed =>
      have isWritten := areWritten (declaration.mem_references_of_typeName isTyped)
      rw [outerType]
      simp only [isTyped, failed]
      exact .error (resolve_failsOnly isSchema isWritten fault failed)
  | case2 seen schema declaration reference isTyped name resolved =>
      have isWritten := areWritten (declaration.mem_references_of_typeName isTyped)
      rw [outerType]
      simp only [isTyped, resolved]
      exact namedType_failsOnly isSchema isWritten resolved
  | case3 seen schema declaration noHead untyped =>
      rw [outerType]
      simp only [untyped, noHead]
      exact .ok _
  | case4 seen schema declaration reference rest heads untyped fault failed =>
      have isHead : reference ∈ declaration.substitutionGroup := by simp [heads]
      have isWritten := areWritten (declaration.mem_references_of_head isHead)
      rw [outerType]
      simp only [untyped, heads, failed]
      exact .error (resolve_failsOnly isSchema isWritten fault failed)
  | case5 seen schema declaration reference rest heads untyped name resolved old =>
      rw [outerType]
      simp only [untyped, heads, resolved, old, dif_pos]
      exact .ok _
  | case6 seen schema declaration reference rest heads untyped name resolved new missing =>
      have isHead : reference ∈ declaration.substitutionGroup := by simp [heads]
      have isWritten := areWritten (declaration.mem_references_of_head isHead)
      rw [outerType_of_head untyped heads resolved new, missing]
      exact .error ⟨missing, schema, isSchema, isWritten, resolved⟩
  | case7 seen schema declaration reference rest heads untyped name resolved new component
      found simple =>
      rw [outerType_of_head untyped heads resolved new, found]
      simp only [simple]
      exact .ok _
  | case8 seen schema declaration reference rest heads untyped name resolved new component
      found definition complex =>
      rw [outerType_of_head untyped heads resolved new, found]
      simp only [complex]
      exact .ok _
  | case9 seen schema declaration reference rest heads untyped name resolved new component
      found noType induction =>
      rcases of_mem_elements (mem_elements_of_element? found) with
        ⟨isElsewhere, areWrittenThere⟩
      rw [outerType_of_head untyped heads resolved new, found]
      simp only [noType]
      exact induction isElsewhere areWrittenThere

theorem elementType_failsOnly {component : Component ElementDeclaration}
    (isElement : component ∈ set.elements) :
    FailsOnly set.Explains (set.elementType component) := by
  rw [elementType]
  split
  case h_1 => exact .ok _
  case h_2 => exact .ok _
  case h_3 =>
    have ⟨isSchema, areWritten⟩ := of_mem_elements isElement
    exact set.outerType_failsOnly _ _ _ isSchema areWritten

end SchemaSet

/-! ## References and substitutes -/

namespace Scope

variable {scope : Scope}

/-- A reference to a declared name can only fail in finding the type. -/
theorem refer_failsOnly {reference : Reference} {name : ExpandedName}
    (explained : scope.set.element? name = none →
      scope.set.Explains (.unresolvedReference reference name)) (occurrence : Occurrence) :
    FailsOnly scope.set.Explains (scope.refer reference name occurrence) := by
  rw [refer]
  split
  case h_1 missing => exact .error (explained missing)
  case h_2 component found =>
    have isElement := SchemaSet.mem_elements_of_element? found
    exact (SchemaSet.elementType_failsOnly isElement).bind fun _ _ => .ok _

end Scope

namespace SchemaSet

variable {set : SchemaSet}

theorem of_mem_substitutes {head : ExpandedName} {component : Component ElementDeclaration}
    (isSubstitute : component ∈ set.substitutes head) :
    component ∈ set.elements ∧ component.definition.substitutionGroup ≠ [] := by
  refine ⟨mem_elements_of_mem_substitutes isSubstitute, ?_⟩
  intro noHeads
  have ⟨declared, _, isListed⟩ := List.mem_flatMap.mp isSubstitute
  have ⟨reference, isHead, same⟩ := List.mem_map.mp isListed
  rw [same, noHeads] at isHead
  exact nomatch isHead

end SchemaSet

namespace Scope

/-- A schema that cannot refer to its own elements declares a member of a substitution
group and binds its own namespace to nothing. -/
theorem selfReference_failsOnly {set : SchemaSet} {head : ExpandedName}
    {component : Component ElementDeclaration}
    (isSubstitute : component ∈ set.substitutes head) :
    FailsOnly set.Explains (selfReference component) := by
  have ⟨isElement, hasHeads⟩ := SchemaSet.of_mem_substitutes isSubstitute
  have declared := SchemaSet.mem_elements_iff.mp isElement
  rw [selfReference]
  split
  case h_1 => exact .ok _
  case h_2 uri isTarget =>
    refine FailsOnly.bind ?_ fun _ _ => .ok _
    rw [Schema.qualifierOf]
    split
    case h_1 => exact .ok _
    case h_2 noQualifier =>
      split
      case isTrue => exact .ok _
      case isFalse notDefault =>
        have unbound : ∀ entry ∈ component.schema.bindings.entries, entry.2 ≠ uri := by
          intro entry isEntry same
          rw [Bindings.qualifierOf, Option.map_eq_none_iff, List.find?_eq_none] at noQualifier
          exact noQualifier entry isEntry (decide_eq_true same)
        exact .error ⟨isTarget, component.schema, declared.schema_mem, isTarget, unbound,
          notDefault, component.definition, declared.definition_mem, hasHeads⟩

variable {scope : Scope}

/-- What stands in for a head is declared, so looking it up does not fail. -/
theorem standIn_failsOnly {head : ExpandedName} {offer : Offer Occurrence}
    (isSubstitute : offer.component ∈ scope.set.substitutes head) :
    FailsOnly scope.set.Explains (scope.standIn offer) := by
  have isElement := (SchemaSet.of_mem_substitutes isSubstitute).1
  have declared := SchemaSet.isSome_element?_of_mem isElement
  refine (selfReference_failsOnly isSubstitute).bind fun reference _ => ?_
  apply refer_failsOnly
  -- The reference is made up, so nothing in a document would explain a missing element.
  intro missing
  rw [Offer.name] at missing
  rw [missing] at declared
  exact nomatch declared

theorem gather_failsOnly (compositor : Compositor) (occurrence : Occurrence)
    (own nested : List Member) :
    FailsOnly scope.set.Explains (scope.gather compositor occurrence own nested) := by
  refine FailsOnly.bind ?_ fun _ _ => .ok _
  rw [expand, spread_eq_mapM]
  apply FailsOnly.mapM
  intro offer isFound
  rcases SchemaSet.exists_of_mem_explore isFound with ⟨_, isSubstitute⟩
  exact standIn_failsOnly isSubstitute

end Scope

/-! ## Compiling contents -/

mutual

theorem Particle.members_failsOnly (scope : Scope) (isSchema : scope.schema ∈ scope.set.schemas) :
    ∀ particle : Particle, particle.references ⊆ scope.schema.references →
      FailsOnly scope.set.Explains (particle.members scope)
  | .element declaration, areWritten => by
      rw [Particle.references] at areWritten
      rw [Particle.members]
      exact (ElementDeclaration.member_failsOnly scope isSchema declaration areWritten).bind
        fun _ _ => .ok _
  | .group compositor group, areWritten => by
      rw [Particle.references] at areWritten
      rw [Particle.members]
      exact ModelGroup.members_failsOnly compositor scope isSchema group areWritten

theorem ModelGroup.members_failsOnly (compositor : Compositor) (scope : Scope)
    (isSchema : scope.schema ∈ scope.set.schemas) :
    ∀ group : ModelGroup, group.references ⊆ scope.schema.references →
      FailsOnly scope.set.Explains (group.members compositor scope)
  | ⟨occurrence, particles⟩, areWritten => by
      rw [ModelGroup.references] at areWritten
      rw [ModelGroup.members]
      exact (Particle.contributions_failsOnly scope isSchema particles areWritten).bind
        fun _ _ => scope.gather_failsOnly compositor occurrence _ _

theorem Particle.contributions_failsOnly (scope : Scope)
    (isSchema : scope.schema ∈ scope.set.schemas) :
    ∀ particles : List Particle,
      Particle.allReferences particles ⊆ scope.schema.references →
        FailsOnly scope.set.Explains (Particle.contributions scope particles)
  | [], _ => by
      rw [Particle.contributions]
      exact .ok _
  | .element declaration :: rest, areWritten => by
      rw [Particle.allReferences, Particle.references, List.append_subset] at areWritten
      rw [Particle.contributions]
      have ofFirst := ElementDeclaration.member_failsOnly scope isSchema declaration areWritten.1
      have ofRest := Particle.contributions_failsOnly scope isSchema rest areWritten.2
      exact ofFirst.bind fun _ _ => ofRest.bind fun _ _ => .ok _
  | .group compositor group :: rest, areWritten => by
      rw [Particle.allReferences, Particle.references, List.append_subset] at areWritten
      rw [Particle.contributions]
      have ofFirst := ModelGroup.members_failsOnly compositor scope isSchema group areWritten.1
      have ofRest := Particle.contributions_failsOnly scope isSchema rest areWritten.2
      exact ofFirst.bind fun _ _ => ofRest.bind fun _ _ => .ok _

theorem ElementDeclaration.member_failsOnly (scope : Scope)
    (isSchema : scope.schema ∈ scope.set.schemas) :
    ∀ declaration : ElementDeclaration, declaration.references ⊆ scope.schema.references →
      FailsOnly scope.set.Explains (declaration.member scope)
  | ⟨.reference reference, typeName, anonymousType, substitutionGroup, occurrence, form⟩,
    areWritten => by
      have isWritten : reference ∈ scope.schema.references :=
        areWritten (ElementDeclaration.mem_references_of_declared rfl)
      rw [ElementDeclaration.member_reference]
      refine (SchemaSet.resolve_failsOnly isSchema isWritten).bind fun name resolved => ?_
      apply Scope.refer_failsOnly
      intro missing
      exact ⟨missing, scope.schema, isSchema, isWritten, resolved⟩
  | ⟨.named localName, typeName, anonymousType, substitutionGroup, occurrence, form⟩,
    areWritten => by
      rw [ElementDeclaration.member_named]
      refine FailsOnly.bind ?_ fun _ _ => .ok _
      exact AnonymousType.localType_failsOnly scope isSchema _ _ _ _ _ _ anonymousType areWritten

theorem AnonymousType.localType_failsOnly (scope : Scope)
    (isSchema : scope.schema ∈ scope.set.schemas) (name : ExpandedName) (declared : Declared)
    (typeName : Option Reference) (substitutionGroup : List Reference)
    (occurrence : Occurrence) (form : Option Form) :
    ∀ anonymousType : Option AnonymousType,
      ElementDeclaration.references
          ⟨declared, typeName, anonymousType, substitutionGroup, occurrence, form⟩ ⊆
        scope.schema.references →
      FailsOnly scope.set.Explains (scope.localType name
        ⟨declared, typeName, anonymousType, substitutionGroup, occurrence, form⟩)
  | none, areWritten => by
      rw [Scope.localType]
      exact scope.set.outerType_failsOnly _ _ _ isSchema areWritten
  | some .simple, _ => by
      rw [Scope.localType]
      exact .ok _
  | some (.complex definition), areWritten => by
      rw [ElementDeclaration.references, AnonymousType.referencesInside,
        List.append_subset] at areWritten
      rw [Scope.localType]
      have inside := ComplexType.members_failsOnly
        ⟨scope.set, scope.schema, .element name⟩ isSchema definition areWritten.2
      exact inside.map _

theorem ComplexType.members_failsOnly (scope : Scope)
    (isSchema : scope.schema ∈ scope.set.schemas) :
    ∀ definition : ComplexType, definition.references ⊆ scope.schema.references →
      FailsOnly scope.set.Explains (definition.members scope)
  | ⟨name, none⟩, _ => by
      rw [ComplexType.members]
      exact .ok _
  | ⟨name, some content⟩, areWritten => by
      rw [ComplexType.references] at areWritten
      rw [ComplexType.members]
      exact Particle.members_failsOnly scope isSchema content areWritten

end

namespace SchemaSet

theorem of_mem_ownedTypes {set : SchemaSet} {owned : OwnedType}
    (isOwned : owned ∈ set.ownedTypes) :
    owned.schema ∈ set.schemas ∧ owned.definition.references ⊆ owned.schema.references := by
  rcases exists_of_mem_ownedTypes isOwned with byElement | byName
  · have ⟨component, isElement, sameSchema, isComplex⟩ := byElement
    have ⟨isSchema, areWritten⟩ := of_mem_elements isElement
    have ofType := ElementDeclaration.references_subset_of_anonymousType isComplex
    rw [← sameSchema]
    exact ⟨isSchema, List.Subset.trans ofType areWritten⟩
  · have ⟨component, isType, sameSchema, sameDefinition⟩ := byName
    have declared := mem_complexTypes_iff.mp isType
    rw [← sameSchema, ← sameDefinition]
    refine ⟨declared.schema_mem, ?_⟩
    intro reference isReference
    apply List.mem_append_right
    exact List.mem_flatMap.mpr ⟨_, declared.definition_mem, isReference⟩

/-- Where content models cannot be compiled, the fault is one of four, and what it says
about the schemas is true. It is never that a substitute is not declared: each element
that lists a head is found under its own name. -/
theorem explains_of_contentModels_eq_error (set : SchemaSet) :
    (∀ fault, set.contentModels = .error fault → set.Explains fault) ∧
      ∀ head, ∀ component ∈ set.substitutes head, (set.element? component.name).isSome := by
  constructor
  · have explained : FailsOnly set.Explains set.contentModels := by
      apply FailsOnly.mapM
      intro owned isOwned
      -- The type stands in its schema, whose bindings give its references their meaning.
      have ⟨isSchema, areWritten⟩ := of_mem_ownedTypes isOwned
      have compiled := ComplexType.members_failsOnly ⟨set, owned.schema, owned.owner⟩ isSchema
        owned.definition areWritten
      exact compiled.bind fun _ _ => .ok _
    exact explained
  · intro head component isSubstitute
    exact isSome_element?_of_mem (mem_elements_of_mem_substitutes isSubstitute)

end SchemaSet

/-! ### A schema that cannot name itself

An element that replaces one of another schema, in a schema that binds its own
namespace to no qualifier. -/

namespace Nameless

def letter (localName : String) (heads : List Reference) : ElementDeclaration :=
  ⟨.named localName, none, none, heads, .unstated, none⟩

/-- Declares the head, and a type whose content refers to it. -/
def first : Schema where
  location := none
  targetNamespace := some "urn:first"
  elementForm := .unqualified
  bindings := .ofList [(some "f", "urn:first")]
  directives := []
  elements := [letter "A" []]
  complexTypes := [
    ⟨some "T", some (.group .all ⟨.unstated, [
      .element ⟨.reference ⟨some "f", "A"⟩, none, none, [], .unstated, none⟩]⟩)⟩]
  simpleTypes := []

def second : Schema where
  location := none
  targetNamespace := some "urn:second"
  elementForm := .unqualified
  bindings := .ofList [(some "f", "urn:first")]
  directives := []
  elements := [letter "B" [⟨some "f", "A"⟩]]
  complexTypes := []
  simpleTypes := []

def set : SchemaSet where
  schemas := [first, second]
  affiliated := by
    intro schema isSchema
    rcases List.mem_cons.mp isSchema with rfl | isSecond
    · exact ⟨[[]], by decide +kernel⟩
    · rw [List.mem_singleton.mp isSecond]
      exact ⟨[[⟨some "urn:first", "A"⟩]], by decide +kernel⟩

theorem explains_nameless :
    set.contentModels = .error (.namespaceWithoutQualifier (some "urn:second") "urn:second") ∧
      set.Explains (.namespaceWithoutQualifier (some "urn:second") "urn:second") := by
  have failed : set.contentModels =
      .error (.namespaceWithoutQualifier (some "urn:second") "urn:second") := by
    decide +kernel
  exact ⟨failed, set.explains_of_contentModels_eq_error.1 _ failed⟩

end Nameless

end SchemaContent
