import SchemaContent.Proofs.BindingOrder
import SchemaContent.Proofs.ExplainedFaults
import SchemaContent.Proofs.MemberOwners
import SchemaContent.Proofs.WiderSets

/-! # What references mean

A member keeps the reference that it comes from, far away from the schema whose bindings
give the reference its meaning. Where a member stands in for another, its reference is
made up by the schema that declares the element. Read in its own schema, each reference
means the name of its member. -/

namespace SchemaContent

/-! ## References to names -/

namespace Schema

variable {schema : Schema}

theorem localName_of_resolve {reference : Reference} {name : ExpandedName}
    (resolved : schema.resolve reference = .ok name) :
    reference.localName = name.localName := by
  rw [resolve] at resolved
  split at resolved
  · cases resolved
    rfl
  · split at resolved
    · cases resolved
      rfl
    · split at resolved
      · cases resolved
        rfl
      · cases resolved

/-- A qualifier that the schema uses for a namespace stands for it, whatever local name
follows. -/
theorem resolve_of_qualifierOf (unbound : schema.bindings.lookup "xml" = none) {uri : String}
    {qualifier : Option String} (found : schema.qualifierOf uri = .ok qualifier)
    (localName : String) :
    schema.resolve ⟨qualifier, localName⟩ = .ok ⟨some uri, localName⟩ := by
  rw [qualifierOf] at found
  split at found
  case h_1 least isLeast =>
    cases found
    have isBound := (Bindings.qualifierOf_least isLeast).1
    have isOther : least ≠ "xml" := by
      rintro rfl
      rw [unbound] at isBound
      cases isBound
    simp only [resolve, if_neg isOther, isBound]
  case h_2 =>
    split at found
    case isTrue isDefault =>
      cases found
      simp only [resolve, isDefault]
    case isFalse => cases found

/-- The qualifier that the schema uses for a namespace, if it uses one, is the least of
all that are bound to it. -/
theorem least_of_qualifierOf {uri qualifier : String}
    (found : schema.qualifierOf uri = .ok (some qualifier)) :
    schema.bindings.lookup qualifier = some uri ∧
      ∀ other, schema.bindings.lookup other = some uri → qualifier ≤ other := by
  rw [qualifierOf] at found
  split at found
  case h_1 least isLeast =>
    cases found
    exact Bindings.qualifierOf_least isLeast
  case h_2 => split at found <;> cases found

end Schema

namespace SchemaSet

variable {set : SchemaSet}

theorem name_of_mem_elements {component : Component ElementDeclaration}
    (isElement : component ∈ set.elements) :
    component.name = component.schema.topLevelName component.definition.name :=
  (Option.some.inj (mem_elements_iff.mp isElement).name).symm

end SchemaSet

/-- The reference by which a schema refers to an element of its own means the element,
unless the schema has no target namespace. -/
theorem Scope.resolve_of_selfReference {set : SchemaSet} {component : Component ElementDeclaration}
    (isElement : component ∈ set.elements)
    (unbound : component.schema.bindings.lookup "xml" = none) {reference : Reference}
    (refersToItself : selfReference component = .ok reference) :
    reference.localName = component.name.localName ∧
      (component.schema.targetNamespace = none ∨
        component.schema.resolve reference = .ok component.name) := by
  rw [SchemaSet.name_of_mem_elements isElement]
  rw [selfReference] at refersToItself
  split at refersToItself
  case h_1 noTarget =>
    cases refersToItself
    exact ⟨rfl, .inl noTarget⟩
  case h_2 uri isTarget =>
    rcases exists_of_bind_eq_ok refersToItself with ⟨qualifier, found, made⟩
    cases made
    have resolved := Schema.resolve_of_qualifierOf unbound found component.definition.name
    rw [← isTarget] at resolved
    exact ⟨rfl, .inr resolved⟩

/-! ## References of members -/

/-- A reference that was met in this schema means this name: it has the local name, the
element is declared, and the name is what the reference resolves to in the schema. If it
is the one that a stand-in is given, that is so in the schema that declares the stand-in,
except where that has no target namespace. -/
structure SchemaSet.Means (set : SchemaSet) (schema : Schema) (reference : Reference)
    (name : ExpandedName) : Prop where
  sameLocalName : reference.localName = name.localName
  isDeclared : (set.element? name).isSome
  resolves : schema.resolve reference = .ok name ∨
    ∃ head, ∃ component ∈ set.substitutes head,
      component.name = name ∧ component.schema ∈ set.schemas ∧
        Scope.selfReference component = .ok reference ∧
          (component.schema.targetNamespace = none ∨
            component.schema.resolve reference = .ok name)

/-- The references of all members, also inside inline types, mean the names of the
members. -/
def SchemaSet.MeansMembers (set : SchemaSet) (schema : Schema) (members : List Member) : Prop :=
  ∀ part, Member.Part members part → ∀ member ∈ part, ∀ reference,
    member.reference = some reference → set.Means schema reference member.name

namespace Scope

variable {scope : Scope} {member : Member}

theorem Arises.means (arises : scope.Arises member)
    (unbound : ∀ schema ∈ scope.set.schemas, schema.bindings.lookup "xml" = none)
    {reference : Reference} (isReference : member.reference = some reference) :
    scope.set.Means scope.schema reference member.name := by
  cases arises with
  | @written written _ resolved referred =>
      have isDeclared := isSome_element?_of_refer referred
      have ⟨_, _, _, _, isMember⟩ := exists_of_refer_eq_ok referred
      rw [isMember] at isReference
      cases isReference
      exact ⟨Schema.localName_of_resolve resolved, isDeclared, .inl resolved⟩
  | @standIn head component made _ isSubstitute isNamed refersToItself referred =>
      have isDeclared := isSome_element?_of_refer referred
      have ⟨_, _, _, _, isMember⟩ := exists_of_refer_eq_ok referred
      rw [isMember] at isReference
      cases isReference
      have isElement := SchemaSet.mem_elements_of_mem_substitutes isSubstitute
      have isSchema := (SchemaSet.mem_elements_iff.mp isElement).schema_mem
      have ⟨sameLocalName, resolves⟩ :=
        resolve_of_selfReference isElement (unbound _ isSchema) refersToItself
      rw [isNamed] at sameLocalName resolves
      exact ⟨sameLocalName, isDeclared,
        .inr ⟨head, component, isSubstitute, isNamed, isSchema, refersToItself, resolves⟩⟩
  | inPlace _ noReference =>
      rw [noReference] at isReference
      cases isReference

theorem meansMembers_of_contributes {set : SchemaSet} {schema : Schema} {owner : Owner}
    (unbound : ∀ schema ∈ set.schemas, schema.bindings.lookup "xml" = none)
    {members : List Member}
    (contributed : ∀ member ∈ members, Contributes ⟨set, schema, owner⟩ member) :
    set.MeansMembers schema members := by
  intro part isPart member isMember reference isReference
  rcases contributes_of_part isPart contributed with ⟨other, ofPart⟩
  rcases ofPart member isMember with ⟨original, _, made, rfl⟩
  exact made.arises.means unbound isReference

inductive Compiles (scope : Scope) : List Member → Prop
  | particle {particle : Particle} {members : List Member}
      (compiled : particle.members scope = .ok members) : Compiles scope members
  | group {compositor : Compositor} {group : ModelGroup} {members : List Member}
      (compiled : group.members compositor scope = .ok members) : Compiles scope members
  | complexType {definition : ComplexType} {members : List Member}
      (compiled : definition.members scope = .ok members) : Compiles scope members

theorem Compiles.contributes {members : List Member} (compiled : scope.Compiles members) :
    ∀ member ∈ members, scope.Contributes member := by
  cases compiled with
  | particle compiled => exact fun _ => Particle.contributes_of_mem_members compiled
  | group compiled => exact ModelGroup.contributes_of_mem_members _ _ _ compiled
  | complexType compiled => exact fun _ => ComplexType.contributes_of_mem_members compiled

end Scope

/-- Where no schema binds the qualifier `xml`, references mean the names of their
members, in all contents that are compiled in a schema of the set and in all content
models. For qualifiers that a schema uses for namespaces are read there as just those
namespaces, and each is the least that is bound. -/
theorem SchemaSet.references_mean_members (set : SchemaSet)
    (unbound : ∀ schema ∈ set.schemas, schema.bindings.lookup "xml" = none) :
    (∀ schema ∈ set.schemas, ∀ owner members, Scope.Compiles ⟨set, schema, owner⟩ members →
        set.MeansMembers schema members) ∧
      (∀ models, set.contentModels = .ok models → ∀ model ∈ models,
        ∃ owned ∈ set.ownedTypes, owned.owner = model.owner ∧ owned.schema ∈ set.schemas ∧
          set.MeansMembers owned.schema model.members) ∧
      ∀ schema : Schema, schema.bindings.lookup "xml" = none →
        ∀ uri qualifier, schema.qualifierOf uri = .ok qualifier →
          (∀ localName, schema.resolve ⟨qualifier, localName⟩ = .ok ⟨some uri, localName⟩) ∧
            ∀ least, qualifier = some least → schema.bindings.lookup least = some uri ∧
              ∀ other, schema.bindings.lookup other = some uri → least ≤ other := by
  refine ⟨?_, ?_, ?_⟩
  · intro schema _ owner members compiled
    exact Scope.meansMembers_of_contributes unbound compiled.contributes
  · intro models compiled model isModel
    rcases exists_of_mem_contentModels compiled isModel with ⟨owned, isOwned, sameOwner, ofType⟩
    refine ⟨owned, isOwned, sameOwner.symm, (of_mem_ownedTypes isOwned).1, ?_⟩
    exact Scope.meansMembers_of_contributes unbound fun _ =>
      ComplexType.contributes_of_mem_members ofType
  · intro schema schemaUnbound uri qualifier found
    refine ⟨Schema.resolve_of_qualifierOf schemaUnbound found, ?_⟩
    rintro least rfl
    exact Schema.least_of_qualifierOf found

/-! ### Stamps

Stand-ins from a schema that binds its own namespace twice and from one that has none. -/

namespace Letters

theorem xml_unbound : ∀ schema ∈ set.schemas, schema.bindings.lookup "xml" = none := by
  decide +kernel

theorem references_of_stamps :
    (∀ schema ∈ set.schemas, schema.bindings.lookup "xml" = none) ∧
      set.contentModels = .ok [letter] ∧
        ∃ schema ∈ set.schemas,
          set.Means schema ⟨some "p", "Stamp"⟩ ⟨some "urn:post", "Stamp"⟩ ∧
            set.Means schema ⟨some "m", "Seal"⟩ ⟨some "urn:mint", "Seal"⟩ ∧
              set.Means schema ⟨none, "Mark"⟩ ⟨none, "Mark"⟩ := by
  have ⟨_, ofModels, _⟩ := set.references_mean_members xml_unbound
  rcases ofModels _ compiled letter List.mem_cons_self with ⟨owned, _, _, isSchema, means⟩
  have underCover : Member.Part letter.members (stamps (.element ⟨none, "cover"⟩)) :=
    .inside List.mem_cons_self rfl (.itself _)
  refine ⟨xml_unbound, compiled, owned.schema, isSchema, ?_, ?_, ?_⟩
  · exact means _ underCover _ (List.mem_of_getElem? (i := 2) rfl) _ rfl
  · exact means _ underCover _ (List.mem_of_getElem? (i := 1) rfl) _ rfl
  · exact means _ underCover _ List.mem_cons_self _ rfl

end Letters

end SchemaContent
