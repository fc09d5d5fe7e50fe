import SchemaContent.ContentModel
import SchemaContent.Proofs.CanonicalOrder
import SchemaContent.Proofs.Expansion
import SchemaContent.Proofs.ProvidedTypes

/-! # Contents at any depth

The content of an owner is a list of members, and each member with an inline type
brings a content of its own. Apart from its bounds, each member was made from one
element declaration or to stand in for a reference, so what holds of those two
holds of all members, and a content inside a content is that of a complex type. -/

namespace SchemaContent

/-- A content is part of another: it is the other itself, or it is part of the
inline type of a member there. -/
inductive Member.Part : List Member → List Member → Prop
  | itself (members : List Member) : Part members members
  | inside {whole inner part : List Member} {member : Member} (isMember : member ∈ whole)
      (isInline : member.type = .inline inner) (isPart : Part inner part) : Part whole part

/-! ## Members as they are made -/

namespace Scope

/-- A member as it is made, before the rule of a group changes its bounds: from an
element declaration, or to stand in for a reference. -/
inductive Makes (scope : Scope) : Member → Prop
  | declared {declaration : ElementDeclaration} {member : Member}
      (made : declaration.member scope = .ok member) : Makes scope member
  | standIn {head : ExpandedName} {offer : Offer Occurrence} {member : Member}
      (isSubstitute : offer.component ∈ scope.set.substitutes head)
      (made : scope.standIn offer = .ok member) : Makes scope member

def Contributes (scope : Scope) (member : Member) : Prop :=
  ∃ original occurrence,
    scope.Makes original ∧ member = { original with occurrence := occurrence }

variable {scope : Scope} {member : Member}

theorem Makes.contributes (made : scope.Makes member) : scope.Contributes member :=
  ⟨member, member.occurrence, made, by cases member; rfl⟩

theorem Contributes.within (contributed : scope.Contributes member)
    (compositor : Compositor) (occurrence : Occurrence) :
    scope.Contributes (member.within compositor occurrence) := by
  obtain ⟨original, bounds, made, rfl⟩ := contributed
  exact ⟨original, bounds.within compositor occurrence, made, rfl⟩

theorem provides_of_refer {reference : Reference} {name : ExpandedName}
    {occurrence : Occurrence} (referred : scope.refer reference name occurrence = .ok member) :
    scope.set.Provides member.type := by
  obtain ⟨component, type, found, typed, rfl⟩ := exists_of_refer_eq_ok referred
  exact SchemaSet.provides_of_elementType found typed

/-- What a member comes from: a reference written in the schema, an element that stands
in for one, or a declaration in place. -/
inductive Arises (scope : Scope) (member : Member) : Prop
  | written {reference : Reference} {occurrence : Occurrence}
      (resolved : scope.schema.resolve reference = .ok member.name)
      (referred : scope.refer reference member.name occurrence = .ok member)
  | standIn {head : ExpandedName} {component : Component ElementDeclaration}
      {reference : Reference} {occurrence : Occurrence}
      (isSubstitute : component ∈ scope.set.substitutes head)
      (isNamed : component.name = member.name)
      (refersToItself : selfReference component = .ok reference)
      (referred : scope.refer reference member.name occurrence = .ok member)
  | inPlace {declaration : ElementDeclaration}
      (typed : scope.localType member.name declaration = .ok member.type)
      (noReference : member.reference = none) (ofOwner : member.owner = scope.owner)

theorem Makes.arises (made : scope.Makes member) : scope.Arises member := by
  cases made with
  | standIn isSubstitute made =>
      obtain ⟨reference, refersToItself, referred⟩ := exists_of_bind_eq_ok made
      have isNamed := name_of_refer referred
      rw [← isNamed] at referred
      exact .standIn isSubstitute isNamed.symm refersToItself referred
  | @declared declaration _ made =>
      obtain ⟨declared, typeName, anonymousType, substitutionGroup, bounds, form⟩ :=
        declaration
      cases declared with
      | reference reference =>
          rw [ElementDeclaration.member_reference] at made
          obtain ⟨name, resolved, referred⟩ := exists_of_bind_eq_ok made
          have isNamed := name_of_refer referred
          rw [← isNamed] at resolved referred
          exact .written resolved referred
      | named localName =>
          rw [ElementDeclaration.member_named] at made
          obtain ⟨type, typed, isMember⟩ := exists_of_bind_eq_ok made
          cases isMember
          exact .inPlace typed rfl rfl

/-- The type of a member is one that the set provides, or it holds the members of
an anonymous complex type, whose owner is the member's own element. -/
theorem Makes.type (made : scope.Makes member) :
    scope.set.Provides member.type ∨
      ∃ (definition : ComplexType) (inner : List Member),
        member.type = .inline inner ∧
          definition.members { scope with owner := .element member.name } = .ok inner := by
  cases made.arises with
  | written _ referred => exact .inl (provides_of_refer referred)
  | standIn _ _ _ referred => exact .inl (provides_of_refer referred)
  | inPlace typed =>
      rw [localType] at typed
      split at typed
      case h_1 =>
        rw [← Except.ok.inj typed]
        exact .inl trivial
      case h_2 definition _ =>
        obtain ⟨inner, compiled, isInline⟩ := exists_of_map_eq_ok typed
        exact .inr ⟨definition, inner, isInline.symm, compiled⟩
      case h_3 => exact .inl (SchemaSet.provides_of_outerType typed)

theorem Contributes.type (contributed : scope.Contributes member) :
    scope.set.Provides member.type ∨
      ∃ (definition : ComplexType) (inner : List Member),
        member.type = .inline inner ∧
          definition.members { scope with owner := .element member.name } = .ok inner := by
  obtain ⟨original, _, made, rfl⟩ := contributed
  exact made.type

/-- What holds of the members that are gathered, and of all that may stand in for some of
them, holds of the members of the group, if it does not depend on bounds. -/
theorem of_mem_gather {Holds : Member → Prop}
    (keeps : ∀ member compositor occurrence, Holds member →
      Holds (member.within compositor occurrence))
    (ofStandIn : ∀ head offer member, offer.component ∈ scope.set.substitutes head →
      scope.standIn offer = .ok member → Holds member)
    {compositor : Compositor} {occurrence : Occurrence} {own nested members : List Member}
    (gathered : scope.gather compositor occurrence own nested = .ok members)
    (ofOwn : ∀ member ∈ own, Holds member) (ofNested : ∀ member ∈ nested, Holds member) :
    ∀ member ∈ members, Holds member := by
  rcases exists_of_bind_eq_ok gathered with ⟨substitutes, expanded, isCanonical⟩
  cases isCanonical
  intro member isMember
  rcases List.mem_append.mp (Member.mem_of_mem_canonical isMember) with isMember | isNested
  · rcases List.mem_append.mp isMember with isDirect | isSubstitute
    · rcases List.mem_map.mp isDirect with ⟨original, isOwn, rfl⟩
      exact keeps original compositor occurrence (ofOwn original isOwn)
    · rw [expand, spread_eq_mapM] at expanded
      rcases exists_of_mem_of_mapM_eq_ok expanded member isSubstitute with ⟨offer, found, made⟩
      rcases SchemaSet.exists_of_mem_explore found with ⟨head, ofHead⟩
      exact ofStandIn head offer member ofHead made
  · rcases List.mem_map.mp isNested with ⟨original, isOriginal, rfl⟩
    exact keeps original compositor occurrence (ofNested original isOriginal)

end Scope

mutual

theorem ModelGroup.contributes_of_mem_members (compositor : Compositor) (scope : Scope) :
    ∀ (group : ModelGroup) {members : List Member},
      group.members compositor scope = .ok members →
        ∀ member ∈ members, scope.Contributes member
  | ⟨occurrence, particles⟩, members, compiled, member, isMember => by
      rw [ModelGroup.members] at compiled
      obtain ⟨⟨own, nested⟩, contributed, gathered⟩ := exists_of_bind_eq_ok compiled
      have ⟨ofOwn, ofNested⟩ :=
        Particle.contributes_of_mem_contributions scope particles contributed
      exact Scope.of_mem_gather
        (fun _ compositor occurrence made => made.within compositor occurrence)
        (fun _ _ _ ofHead standsIn => Scope.Makes.contributes (.standIn ofHead standsIn))
        gathered ofOwn ofNested member isMember

theorem Particle.contributes_of_mem_contributions (scope : Scope) :
    ∀ (particles : List Particle) {contributions : List Member × List Member},
      Particle.contributions scope particles = .ok contributions →
        (∀ member ∈ contributions.1, scope.Contributes member) ∧
          ∀ member ∈ contributions.2, scope.Contributes member
  | [], contributions, contributed => by
      rw [Particle.contributions] at contributed
      cases contributed
      constructor <;> exact fun _ isMember => nomatch isMember
  | .element declaration :: rest, contributions, contributed => by
      rw [Particle.contributions] at contributed
      obtain ⟨first, made, contributed⟩ := exists_of_bind_eq_ok contributed
      obtain ⟨⟨own, nested⟩, later, contributed⟩ := exists_of_bind_eq_ok contributed
      cases contributed
      have ⟨ofOwn, ofNested⟩ := Particle.contributes_of_mem_contributions scope rest later
      refine ⟨?_, ofNested⟩
      intro member isMember
      rcases List.mem_cons.mp isMember with rfl | isLater
      · exact Scope.Makes.contributes (.declared made)
      · exact ofOwn member isLater
  | .group compositor group :: rest, contributions, contributed => by
      rw [Particle.contributions] at contributed
      obtain ⟨members, compiled, contributed⟩ := exists_of_bind_eq_ok contributed
      obtain ⟨⟨own, nested⟩, later, contributed⟩ := exists_of_bind_eq_ok contributed
      cases contributed
      have ⟨ofOwn, ofNested⟩ := Particle.contributes_of_mem_contributions scope rest later
      refine ⟨ofOwn, ?_⟩
      intro member isMember
      rcases List.mem_append.mp isMember with isFirst | isLater
      · exact ModelGroup.contributes_of_mem_members compositor scope group compiled member
          isFirst
      · exact ofNested member isLater

end

theorem Particle.contributes_of_mem_members {scope : Scope} {particle : Particle}
    {members : List Member} (compiled : particle.members scope = .ok members)
    {member : Member} (isMember : member ∈ members) : scope.Contributes member := by
  cases particle with
  | element declaration =>
      rw [Particle.members] at compiled
      obtain ⟨only, made, compiled⟩ := exists_of_bind_eq_ok compiled
      cases compiled
      obtain rfl := List.mem_singleton.mp isMember
      exact Scope.Makes.contributes (.declared made)
  | group compositor group =>
      rw [Particle.members] at compiled
      exact group.contributes_of_mem_members compositor scope compiled member isMember

theorem ComplexType.contributes_of_mem_members {scope : Scope} {definition : ComplexType}
    {members : List Member} (compiled : definition.members scope = .ok members)
    {member : Member} (isMember : member ∈ members) : scope.Contributes member := by
  obtain ⟨name, content⟩ := definition
  cases content with
  | none =>
      rw [ComplexType.members] at compiled
      cases compiled
      cases isMember
  | some particle =>
      rw [ComplexType.members] at compiled
      exact particle.contributes_of_mem_members compiled isMember

/-- What is part of a content is made in the same schema, for an owner of its own. -/
theorem Scope.contributes_of_part {set : SchemaSet} {schema : Schema}
    {whole part : List Member} (isPart : Member.Part whole part) :
    ∀ {owner : Owner}, (∀ member ∈ whole, Contributes ⟨set, schema, owner⟩ member) →
      ∃ other, ∀ member ∈ part, Contributes ⟨set, schema, other⟩ member := by
  induction isPart with
  | itself members => exact fun contributed => ⟨_, contributed⟩
  | inside isMember isInline _ induction =>
      intro owner contributed
      rcases (contributed _ isMember).type with provided | ⟨definition, inner, isInner, ofType⟩
      · rw [isInline] at provided
        cases provided
      · rw [isInline] at isInner
        cases isInner
        exact induction fun _ => ComplexType.contributes_of_mem_members ofType

/-! ## Compiled contents -/

/-- A content that is compiled in a set: that of a particle, a group or a complex
type, in whatever schema and for whatever owner, or one among the content models. -/
inductive SchemaSet.Compiles (set : SchemaSet) : List Member → Prop
  | particle {particle : Particle} {schema : Schema} {owner : Owner}
      {members : List Member} (compiled : particle.members ⟨set, schema, owner⟩ = .ok members) :
      Compiles set members
  | group {compositor : Compositor} {group : ModelGroup} {schema : Schema} {owner : Owner}
      {members : List Member}
      (compiled : group.members compositor ⟨set, schema, owner⟩ = .ok members) :
      Compiles set members
  | complexType {definition : ComplexType} {schema : Schema} {owner : Owner}
      {members : List Member} (compiled : definition.members ⟨set, schema, owner⟩ = .ok members) :
      Compiles set members
  | contentModel {models : List ContentModel} {model : ContentModel}
      (compiled : set.contentModels = .ok models) (isModel : model ∈ models) :
      Compiles set model.members

namespace SchemaSet

theorem exists_of_mem_contentModels {set : SchemaSet} {models : List ContentModel}
    (compiled : set.contentModels = .ok models) {model : ContentModel}
    (isModel : model ∈ models) :
    ∃ owned ∈ set.ownedTypes, model.owner = owned.owner ∧
      owned.definition.members ⟨set, owned.schema, owned.owner⟩ = .ok model.members := by
  obtain ⟨owned, isOwned, made⟩ := exists_of_mem_of_mapM_eq_ok compiled model isModel
  exact ⟨owned, isOwned, OwnedType.of_model made⟩

theorem Compiles.contributes {set : SchemaSet} {members : List Member}
    (compiled : set.Compiles members) {member : Member} (isMember : member ∈ members) :
    ∃ schema owner, Scope.Contributes ⟨set, schema, owner⟩ member := by
  cases compiled with
  | particle compiled => exact ⟨_, _, Particle.contributes_of_mem_members compiled isMember⟩
  | group compiled =>
      exact ⟨_, _, ModelGroup.contributes_of_mem_members _ _ _ compiled member isMember⟩
  | complexType compiled =>
      exact ⟨_, _, ComplexType.contributes_of_mem_members compiled isMember⟩
  | contentModel compiled isModel =>
      obtain ⟨owned, _, _, ofType⟩ := exists_of_mem_contentModels compiled isModel
      exact ⟨_, _, ComplexType.contributes_of_mem_members ofType isMember⟩

/-- A member that holds no content of its own has a type that the set provides. -/
theorem Compiles.provides {set : SchemaSet} {members : List Member}
    (compiled : set.Compiles members) {member : Member} (isMember : member ∈ members)
    (notInline : ∀ inner, member.type ≠ .inline inner) : set.Provides member.type := by
  obtain ⟨schema, owner, contributed⟩ := compiled.contributes isMember
  rcases contributed.type with provided | ⟨_, inner, isInline, _⟩
  · exact provided
  · exact absurd isInline (notInline inner)

/-- What is part of a compiled content is compiled too. -/
theorem Compiles.part {set : SchemaSet} {whole part : List Member}
    (compiled : set.Compiles whole) (isPart : Member.Part whole part) : set.Compiles part := by
  induction isPart with
  | itself members => exact compiled
  | inside isMember isInline _ induction =>
      obtain ⟨schema, owner, contributed⟩ := compiled.contributes isMember
      rcases contributed.type with provided | ⟨definition, inner, isInner, ofType⟩
      · rw [isInline] at provided
        cases provided
      · rw [isInline] at isInner
        cases isInner
        exact induction (.complexType ofType)

end SchemaSet

end SchemaContent
