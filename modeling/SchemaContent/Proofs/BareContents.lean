import SchemaContent.Proofs.CanonicalOrder
import SchemaContent.ContentModel
import SchemaContent.Proofs.Expansion
import SchemaContent.Proofs.ProvidedTypes
import SchemaContent.Proofs.RelatedRuns
import SchemaContent.Proofs.SubstitutionClosure

/-! # Contents without bounds

How particles are combined, and how often they may occur, decides about the bounds
of members and about nothing else: not about which members there are, in which order
they stand and what they look like, nor about which fault is found. Contents are
compared after taking all bounds away. -/

namespace SchemaContent

/-! ## Bare trees -/

mutual

/-- The particle with each group in it made a sequence, and no bounds stated. -/
def Particle.bare : Particle → Particle
  | .element declaration => .element declaration.bare
  | .group _ group => .group .sequence group.bare

def ModelGroup.bare : ModelGroup → ModelGroup
  | ⟨_, particles⟩ => ⟨.unstated, Particle.bareAll particles⟩

def Particle.bareAll : List Particle → List Particle
  | [] => []
  | particle :: rest => particle.bare :: Particle.bareAll rest

def ElementDeclaration.bare : ElementDeclaration → ElementDeclaration
  | ⟨declared, typeName, anonymousType, substitutionGroup, _, form⟩ =>
    ⟨declared, typeName, AnonymousType.bareInside anonymousType, substitutionGroup,
      .unstated, form⟩

def AnonymousType.bareInside : Option AnonymousType → Option AnonymousType
  | none => none
  | some .simple => some .simple
  | some (.complex definition) => some (.complex definition.bare)

def ComplexType.bare : ComplexType → ComplexType
  | ⟨name, none⟩ => ⟨name, none⟩
  | ⟨name, some content⟩ => ⟨name, some content.bare⟩

end

mutual

/-- The member without bounds, and without the bounds inside its type. -/
def Member.bare : Member → Member
  | ⟨name, reference, type, _, owner⟩ => ⟨name, reference, type.bare, .unstated, owner⟩

def MemberType.bare : MemberType → MemberType
  | .builtin name => .builtin name
  | .simple name => .simple name
  | .complex name => .complex name
  | .anonymousSimple => .anonymousSimple
  | .anonymousComplex element => .anonymousComplex element
  | .inline members => .inline (Member.bareAll members)

def Member.bareAll : List Member → List Member
  | [] => []
  | member :: rest => member.bare :: Member.bareAll rest

end

namespace Member

@[simp] theorem name_bare (member : Member) : member.bare.name = member.name := by
  cases member
  rw [bare]

@[simp] theorem reference_bare (member : Member) :
    member.bare.reference = member.reference := by
  cases member
  rw [bare]

/-- What a group does to the bounds of a member is gone with them. -/
@[simp] theorem bare_within (member : Member) (compositor : Compositor)
    (occurrence : Occurrence) :
    (member.within compositor occurrence).bare = member.bare := by
  cases member
  rw [within, bare, bare]

@[simp] theorem within_sequence (member : Member) (occurrence : Occurrence) :
    member.within .sequence occurrence = member := by
  cases member
  rfl

theorem bareAll_eq_map (members : List Member) : bareAll members = members.map bare := by
  induction members with
  | nil => rw [bareAll, List.map_nil]
  | cons member rest induction => rw [bareAll, induction, List.map_cons]

end Member

/-! ## Types -/

/-- A type that is found by names has no bounds in it. -/
theorem SchemaSet.bare_of_provides {set : SchemaSet} {type : MemberType}
    (provided : set.Provides type) : type.bare = type := by
  cases type with
  | inline members => exact False.elim provided
  | _ => rw [MemberType.bare]

/-! ## Expansion -/

namespace Scope

/-- The bounds asked for are all that a referred member has of them. -/
theorem refer_unstated (scope : Scope) (reference : Reference) (name : ExpandedName)
    (occurrence : Occurrence) :
    scope.refer reference name .unstated =
      Member.bare <$> scope.refer reference name occurrence := by
  rw [refer, refer]
  cases found : scope.set.element? name with
  | none => rfl
  | some component =>
      cases typed : scope.set.elementType component with
      | error fault => simp only [typed]; rfl
      | ok type =>
          have sameType := SchemaSet.bare_of_provides
            (SchemaSet.provides_of_elementType found typed)
          simp only [typed]
          change Except.ok _ = Except.ok _
          rw [Member.bare, sameType]

theorem standIn_map_unstated (scope : Scope) (offer : Offer Occurrence) :
    scope.standIn (offer.map fun _ => .unstated) = Member.bare <$> scope.standIn offer := by
  rw [standIn, standIn, Offer.map]
  cases selfReference offer.component with
  | error fault => rfl
  | ok reference => exact scope.refer_unstated reference offer.name offer.mark

theorem heads_bare (members : List Member) :
    heads (withBounds (members.map Member.bare)) =
      (heads (withBounds members)).map (Head.map fun _ => .unstated) := by
  simp only [heads, withBounds, List.map_map, List.filterMap_map, List.map_filterMap,
    Function.comp_def, Option.map_map, Member.name_bare, Member.reference_bare]
  apply List.filterMap_congr
  intro member _
  cases member with
  | mk name reference type occurrence owner =>
      rw [Member.bare]
      rfl

/-- What may stand in for bare members are the bare substitutes. -/
theorem expand_bare (scope : Scope) (direct : List Member) :
    scope.expand (direct.map Member.bare) =
      List.map Member.bare <$> scope.expand direct := by
  have sameNames : (direct.map Member.bare).map (·.name) = direct.map (·.name) := by
    simp only [List.map_map, Function.comp_def, Member.name_bare]
  rw [expand, expand, spread_eq_mapM, spread_eq_mapM, sameNames, heads_bare,
    SchemaSet.explore_map, List.mapM_map, ← mapM_map_eq]
  apply congrArg (List.mapM · _)
  funext offer
  exact scope.standIn_map_unstated offer

/-- In a sequence without bounds, bare members are gathered as they would be in any group
and made bare then. -/
theorem gather_bare (scope : Scope) (compositor : Compositor) (occurrence : Occurrence)
    (own nested : List Member) :
    scope.gather .sequence .unstated (own.map Member.bare) (nested.map Member.bare) =
      List.map Member.bare <$> scope.gather compositor occurrence own nested := by
  have inSequence : ∀ members : List Member,
      members.map (·.within .sequence .unstated) = members := by
    intro members
    simp only [Member.within_sequence, List.map_id']
  have inGroup : ∀ members : List Member,
      (members.map (·.within compositor occurrence)).map Member.bare =
        members.map Member.bare := by
    intro members
    simp only [List.map_map, Function.comp_def, Member.bare_within]
  rw [gather, gather, inSequence, inSequence, ← inGroup own, ← inGroup nested, expand_bare]
  cases scope.expand (own.map (·.within compositor occurrence)) with
  | error fault => rfl
  | ok substitutes =>
      change Except.ok _ = Except.ok _
      rw [← List.map_append, ← List.map_append, Member.distinct_map Member.name_bare,
        Member.sort_map Member.name_bare]

end Scope

/-! ## Compiling bare trees -/

/-- The walk along heads does not look at bounds. -/
theorem SchemaSet.outerType_unstated (set : SchemaSet) (seen : List ExpandedName)
    (schema : Schema) (declared : Declared) (typeName : Option Reference)
    (anonymousType : Option AnonymousType) (substitutionGroup : List Reference)
    (occurrence : Occurrence) (form : Option Form) :
    set.outerType seen schema
        ⟨declared, typeName, anonymousType, substitutionGroup, .unstated, form⟩ =
      set.outerType seen schema
        ⟨declared, typeName, anonymousType, substitutionGroup, occurrence, form⟩ := by
  rw [outerType, outerType]

mutual

/-- The members of a bare particle are the members of the particle, without bounds. -/
theorem Particle.members_bare (scope : Scope) : ∀ particle : Particle,
    particle.bare.members scope = List.map Member.bare <$> particle.members scope
  | .element declaration => by
      rw [Particle.bare, Particle.members, Particle.members,
        ElementDeclaration.member_bare scope declaration]
      cases declaration.member scope <;> rfl
  | .group compositor group => by
      rw [Particle.bare, Particle.members, Particle.members]
      exact ModelGroup.members_bare compositor scope group

theorem ModelGroup.members_bare (compositor : Compositor) (scope : Scope) :
    ∀ group : ModelGroup, group.bare.members .sequence scope =
      List.map Member.bare <$> group.members compositor scope
  | ⟨occurrence, particles⟩ => by
      rw [ModelGroup.bare, ModelGroup.members, ModelGroup.members,
        Particle.contributions_bare scope particles]
      cases Particle.contributions scope particles with
      | error fault => rfl
      | ok contributed => exact scope.gather_bare compositor occurrence _ _

theorem Particle.contributions_bare (scope : Scope) : ∀ particles : List Particle,
    Particle.contributions scope (Particle.bareAll particles) =
      Prod.map (List.map Member.bare) (List.map Member.bare) <$>
        Particle.contributions scope particles
  | [] => by
      rw [Particle.bareAll, Particle.contributions]
      rfl
  | .element declaration :: rest => by
      rw [Particle.bareAll, Particle.bare, Particle.contributions, Particle.contributions,
        ElementDeclaration.member_bare scope declaration, Particle.contributions_bare scope rest]
      cases declaration.member scope with
      | error fault => rfl
      | ok member => cases Particle.contributions scope rest <;> rfl
  | .group compositor group :: rest => by
      rw [Particle.bareAll, Particle.bare, Particle.contributions, Particle.contributions,
        ModelGroup.members_bare compositor scope group, Particle.contributions_bare scope rest]
      cases group.members compositor scope with
      | error fault => rfl
      | ok members =>
          cases Particle.contributions scope rest with
          | error fault => rfl
          | ok contributed =>
              change Except.ok (_, _) = Except.ok (_, _)
              rw [List.map_append]

theorem ElementDeclaration.member_bare (scope : Scope) : ∀ declaration : ElementDeclaration,
    declaration.bare.member scope = Member.bare <$> declaration.member scope
  | ⟨.reference reference, typeName, anonymousType, substitutionGroup, occurrence, form⟩ => by
      rw [ElementDeclaration.bare, ElementDeclaration.member_reference,
        ElementDeclaration.member_reference]
      cases scope.schema.resolve reference with
      | error fault => rfl
      | ok name => exact scope.refer_unstated reference name occurrence
  | ⟨.named localName, typeName, anonymousType, substitutionGroup, occurrence, form⟩ => by
      rw [ElementDeclaration.bare, ElementDeclaration.member_named,
        ElementDeclaration.member_named]
      have sameType := AnonymousType.localType_bare scope
        (scope.localElementName localName form) (.named localName) typeName
        substitutionGroup occurrence form anonymousType
      simp only [sameType]
      cases scope.localType (scope.localElementName localName form)
        ⟨.named localName, typeName, anonymousType, substitutionGroup, occurrence, form⟩ with
      | error fault => rfl
      | ok type =>
          change Except.ok _ = Except.ok _
          rw [Member.bare]

theorem AnonymousType.localType_bare (scope : Scope) (name : ExpandedName)
    (declared : Declared) (typeName : Option Reference) (substitutionGroup : List Reference)
    (occurrence : Occurrence) (form : Option Form) : ∀ anonymousType : Option AnonymousType,
    scope.localType name ⟨declared, typeName, AnonymousType.bareInside anonymousType,
        substitutionGroup, .unstated, form⟩ =
      MemberType.bare <$> scope.localType name
        ⟨declared, typeName, anonymousType, substitutionGroup, occurrence, form⟩
  | none => by
      rw [AnonymousType.bareInside, Scope.localType, Scope.localType]
      simp only [scope.set.outerType_unstated [] scope.schema declared typeName none
        substitutionGroup occurrence form]
      cases typed : scope.set.outerType [] scope.schema
        ⟨declared, typeName, none, substitutionGroup, occurrence, form⟩ with
      | error fault => rfl
      | ok type =>
          change Except.ok _ = Except.ok _
          rw [SchemaSet.bare_of_provides (SchemaSet.provides_of_outerType typed)]
  | some .simple => by
      rw [AnonymousType.bareInside, Scope.localType, Scope.localType]
      change Except.ok _ = Except.ok _
      rw [MemberType.bare]
  | some (.complex definition) => by
      rw [AnonymousType.bareInside, Scope.localType, Scope.localType]
      simp only [ComplexType.members_bare ⟨scope.set, scope.schema, .element name⟩ definition]
      cases definition.members ⟨scope.set, scope.schema, .element name⟩ with
      | error fault => rfl
      | ok members =>
          change Except.ok _ = Except.ok _
          rw [MemberType.bare, Member.bareAll_eq_map]

theorem ComplexType.members_bare (scope : Scope) : ∀ definition : ComplexType,
    definition.bare.members scope = List.map Member.bare <$> definition.members scope
  | ⟨name, none⟩ => by
      rw [ComplexType.bare, ComplexType.members]
      rfl
  | ⟨name, some content⟩ => by
      rw [ComplexType.bare, ComplexType.members, ComplexType.members]
      exact Particle.members_bare scope content

end

/-! ## Trees of one shape -/

/-- Particles that differ in the bounds and the compositors of their parts only, at any
depth, fail with one fault or have members that differ in bounds only, at any depth. A
sequence and an `all` of the same particles have the very same members. -/
theorem Particle.related_members_of_bare_eq (scope : Scope) :
    (∀ first second : Particle, first.bare = second.bare →
      Related Eq (fun members others => Member.bareAll members = Member.bareAll others)
        (first.members scope) (second.members scope)) ∧
    ∀ group : ModelGroup,
      (Particle.group .sequence group).members scope =
        (Particle.group .all group).members scope := by
  constructor
  · intro first second sameShape
    have sameMembers : List.map Member.bare <$> first.members scope =
        List.map Member.bare <$> second.members scope := by
      rw [← first.members_bare, ← second.members_bare, sameShape]
    apply (Related.of_map_eq sameMembers).imp
    intro members others same
    rw [Member.bareAll_eq_map, Member.bareAll_eq_map, same]
  · rintro ⟨occurrence, particles⟩
    rw [Particle.members, Particle.members, ModelGroup.members, ModelGroup.members]
    -- Neither has an effect on bounds, so the two groups gather alike.
    rfl

namespace Ring

/-- A reference, and an element with the same kind of group inside. -/
def box (compositor : Compositor) (occurrence : Occurrence) : Particle :=
  .group compositor ⟨occurrence, [
    .element ⟨.reference (reference "A"), none, none, [], occurrence, none⟩,
    .element ⟨.named "d", none, some (.complex ⟨none, some (.group compositor ⟨occurrence, [
      .element (declaration "e" (some ⟨some "xs", "string"⟩) [])]⟩)⟩), [], .unstated, none⟩]⟩

/-- The members of such a group, where those of references have these bounds and those
of elements the others. -/
def boxed (ofReference ofElement : Occurrence) : List Member := [
  { member "A" with occurrence := ofReference },
  { member "B" with occurrence := ofReference },
  { member "C" with occurrence := ofReference },
  ⟨⟨none, "d"⟩, none, .inline [
    ⟨⟨none, "e"⟩, none, .builtin ⟨some schemaNamespace, "string"⟩, ofElement,
      .element ⟨none, "d"⟩⟩], ofElement, .outside⟩]

theorem related_members_of_boxes :
    (box .choice ⟨some 2, some .unbounded⟩).bare = (box .all .unstated).bare ∧
      (box .choice ⟨some 2, some .unbounded⟩).members scope =
        .ok (boxed ⟨some 2, some .unbounded⟩ ⟨some 0, some .unbounded⟩) ∧
      ∃ others, (box .all .unstated).members scope = .ok others ∧
        Member.bareAll (boxed ⟨some 2, some .unbounded⟩ ⟨some 0, some .unbounded⟩) =
          Member.bareAll others := by
  have sameShape : (box .choice ⟨some 2, some .unbounded⟩).bare =
      (box .all .unstated).bare := by decide +kernel
  have compiled : (box .choice ⟨some 2, some .unbounded⟩).members scope =
      .ok (boxed ⟨some 2, some .unbounded⟩ ⟨some 0, some .unbounded⟩) := by
    decide +kernel
  have related := (Particle.related_members_of_bare_eq scope).1 _ _ sameShape
  exact ⟨sameShape, compiled, related.exists_of_eq_ok compiled⟩

end Ring

end SchemaContent
