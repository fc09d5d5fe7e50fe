import SchemaContent.Proofs.Contents
import SchemaContent.Proofs.DeclarationOrder
import SchemaContent.Proofs.InsertedParticles
import SchemaContent.Proofs.ModelOwners
import SchemaContent.Proofs.ParsedSchemas

/-! # Contents that leave no substitute out

Where a content has an element by reference, it has all elements that may replace it.
An import keeps substitutes away from a head of another namespace; a document cannot
name its own in an import, so in what was read from documents no element of the head's
own namespace is ever left out. -/

namespace SchemaContent

/-! ## Closed contents -/

/-- With each member that has a reference, there is a member for each name that may
replace its own. -/
def SchemaSet.Closed (set : SchemaSet) (members : List Member) : Prop :=
  ∀ member ∈ members, member.reference.isSome → ∀ name, set.Replaces member.name name →
    name ∈ members.map (·.name)

namespace SchemaSet.Closed

variable {set : SchemaSet} {members others : List Member}

theorem append (closed : set.Closed members) (closedOthers : set.Closed others) :
    set.Closed (members ++ others) := by
  intro member isMember hasReference name replaces
  rw [List.map_append, List.mem_append]
  rcases List.mem_append.mp isMember with isFirst | isSecond
  · exact .inl (closed member isFirst hasReference name replaces)
  · exact .inr (closedOthers member isSecond hasReference name replaces)

theorem within (closed : set.Closed members) (compositor : Compositor)
    (occurrence : Occurrence) :
    set.Closed (members.map (·.within compositor occurrence)) := by
  intro member isMember hasReference name replaces
  rcases List.mem_map.mp isMember with ⟨original, isOriginal, rfl⟩
  rw [List.map_map]
  exact closed original isOriginal hasReference name replaces

theorem canonical (closed : set.Closed members) : set.Closed (Member.canonical members) := by
  intro member isMember hasReference name replaces
  rw [Member.mem_names_canonical]
  exact closed member (Member.mem_of_mem_canonical isMember) hasReference name replaces

end SchemaSet.Closed

/-- The direct members of a group together with their substitutes are closed: the
search for substitutes passes all of them. -/
theorem Scope.closed_of_expand {scope : Scope} {direct found : List Member}
    (expanded : scope.expand direct = .ok found) : scope.set.Closed (direct ++ found) := by
  intro member isMember hasReference name replaces
  rw [List.map_append, List.mem_append]
  rcases List.mem_append.mp isMember with isDirect | isFound
  · exact mem_of_reached expanded isDirect hasReference (.step replaces)
  · -- What was found has been a head itself, in the layer after.
    have ⟨_, ofFound⟩ := scope.set.known_of_replaces (direct.map (·.name))
      (heads (withBounds direct))
    have isName : member.name ∈ found.map (·.name) := List.mem_map_of_mem isFound
    rw [names_of_expand expanded] at isName ⊢
    rcases List.mem_map.mp isName with ⟨offer, isOffer, sameName⟩
    exact ofFound offer isOffer name (sameName ▸ replaces)

mutual

theorem ModelGroup.closed_of_members (compositor : Compositor) (scope : Scope) :
    ∀ (group : ModelGroup) {members : List Member},
      group.members compositor scope = .ok members → scope.set.Closed members
  | ⟨occurrence, particles⟩, members, compiled => by
      rw [ModelGroup.members] at compiled
      have ⟨⟨own, nested⟩, contributed, gathered⟩ := exists_of_bind_eq_ok compiled
      have ⟨substitutes, expanded, isCanonical⟩ := exists_of_bind_eq_ok gathered
      cases isCanonical
      have ofNested := Particle.closed_of_contributions scope particles contributed
      exact ((Scope.closed_of_expand expanded).append
        (ofNested.within compositor occurrence)).canonical

/-- The members of the groups among particles are closed. Those of the elements need
not be. -/
theorem Particle.closed_of_contributions (scope : Scope) :
    ∀ (particles : List Particle) {contributions : List Member × List Member},
      Particle.contributions scope particles = .ok contributions →
        scope.set.Closed contributions.2
  | [], contributions, contributed => by
      rw [Particle.contributions] at contributed
      cases contributed
      exact fun _ isMember => nomatch isMember
  | .element declaration :: rest, contributions, contributed => by
      rw [Particle.contributions] at contributed
      have ⟨_, _, contributed⟩ := exists_of_bind_eq_ok contributed
      have ⟨⟨own, nested⟩, later, contributed⟩ := exists_of_bind_eq_ok contributed
      cases contributed
      have ofRest := Particle.closed_of_contributions scope rest later
      exact ofRest
  | .group compositor group :: rest, contributions, contributed => by
      rw [Particle.contributions] at contributed
      have ⟨members, compiled, contributed⟩ := exists_of_bind_eq_ok contributed
      have ⟨⟨own, nested⟩, later, contributed⟩ := exists_of_bind_eq_ok contributed
      cases contributed
      exact (ModelGroup.closed_of_members compositor scope group compiled).append
        (Particle.closed_of_contributions scope rest later)

end

/-! ## Contents inside contents -/

/-- The content is that of a complex type with grouped contents. -/
def SchemaSet.CompilesGrouped (set : SchemaSet) (members : List Member) : Prop :=
  ∃ (definition : ComplexType) (schema : Schema) (owner : Owner),
    definition.Grouped ∧ definition.members ⟨set, schema, owner⟩ = .ok members

/-- The content inside the member, if there is one, is like this. -/
def SchemaSet.HoldsGrouped (set : SchemaSet) (member : Member) : Prop :=
  ∀ inner, member.type = .inline inner → set.CompilesGrouped inner

theorem SchemaSet.holdsGrouped_of_provides {set : SchemaSet} {member : Member}
    (provided : set.Provides member.type) : set.HoldsGrouped member := by
  intro inner isInline
  rw [isInline] at provided
  cases provided

theorem ElementDeclaration.holdsGrouped_of_member {scope : Scope}
    {declaration : ElementDeclaration} {member : Member} (grouped : declaration.Grouped)
    (made : declaration.member scope = .ok member) : scope.set.HoldsGrouped member := by
  cases declaration with
  | mk declared typeName anonymousType substitutionGroup occurrence form =>
      cases declared with
      | reference reference =>
          rw [member_reference] at made
          rcases exists_of_bind_eq_ok made with ⟨_, _, referred⟩
          exact SchemaSet.holdsGrouped_of_provides (Scope.provides_of_refer referred)
      | named localName =>
          rw [member_named] at made
          rcases exists_of_bind_eq_ok made with ⟨type, typed, isMember⟩
          cases isMember
          rw [Scope.localType] at typed
          split at typed
          case h_1 =>
            cases typed
            intro inner isInline
            cases isInline
          case h_2 definition isComplex =>
            rcases exists_of_map_eq_ok typed with ⟨members, compiled, same⟩
            cases same
            intro inner isInline
            cases isInline
            exact ⟨definition, _, _, grouped.of_anonymousType isComplex, compiled⟩
          case h_3 =>
            exact SchemaSet.holdsGrouped_of_provides (SchemaSet.provides_of_outerType typed)

theorem Scope.holdsGrouped_of_standIn {scope : Scope} {offer : Offer Occurrence}
    {member : Member} (made : scope.standIn offer = .ok member) :
    scope.set.HoldsGrouped member := by
  have ⟨_, _, referred⟩ := exists_of_bind_eq_ok made
  exact SchemaSet.holdsGrouped_of_provides (provides_of_refer referred)

mutual

theorem ModelGroup.holdsGrouped_of_members (compositor : Compositor) (scope : Scope) :
    ∀ (group : ModelGroup) {members : List Member}, group.Grouped →
      group.members compositor scope = .ok members →
        ∀ member ∈ members, scope.set.HoldsGrouped member
  | ⟨occurrence, particles⟩, members, grouped, compiled => by
      rw [ModelGroup.members] at compiled
      have ⟨⟨own, nested⟩, contributed, gathered⟩ := exists_of_bind_eq_ok compiled
      have ⟨ofOwn, ofNested⟩ :=
        Particle.holdsGrouped_of_contributions scope particles grouped contributed
      exact Scope.of_mem_gather (fun _ _ _ holds => holds)
        (fun _ _ _ _ made => Scope.holdsGrouped_of_standIn made) gathered ofOwn ofNested

theorem Particle.holdsGrouped_of_contributions (scope : Scope) :
    ∀ (particles : List Particle) {contributions : List Member × List Member},
      Particle.AllGrouped particles →
        Particle.contributions scope particles = .ok contributions →
          (∀ member ∈ contributions.1, scope.set.HoldsGrouped member) ∧
            ∀ member ∈ contributions.2, scope.set.HoldsGrouped member
  | [], contributions, _, contributed => by
      rw [Particle.contributions] at contributed
      cases contributed
      constructor <;> exact fun _ isMember => nomatch isMember
  | .element declaration :: rest, contributions, grouped, contributed => by
      rw [Particle.contributions] at contributed
      have ⟨first, made, contributed⟩ := exists_of_bind_eq_ok contributed
      have ⟨⟨own, nested⟩, later, contributed⟩ := exists_of_bind_eq_ok contributed
      cases contributed
      have ⟨ofOwn, ofNested⟩ :=
        Particle.holdsGrouped_of_contributions scope rest grouped.2 later
      refine ⟨?_, ofNested⟩
      intro member isMember
      rcases List.mem_cons.mp isMember with rfl | isLater
      · exact ElementDeclaration.holdsGrouped_of_member grouped.1 made
      · exact ofOwn member isLater
  | .group compositor group :: rest, contributions, grouped, contributed => by
      rw [Particle.contributions] at contributed
      have ⟨members, compiled, contributed⟩ := exists_of_bind_eq_ok contributed
      have ⟨⟨own, nested⟩, later, contributed⟩ := exists_of_bind_eq_ok contributed
      cases contributed
      have ⟨ofOwn, ofNested⟩ :=
        Particle.holdsGrouped_of_contributions scope rest grouped.2 later
      refine ⟨ofOwn, ?_⟩
      intro member isMember
      rcases List.mem_append.mp isMember with isFirst | isLater
      · exact ModelGroup.holdsGrouped_of_members compositor scope group grouped.1 compiled
          member isFirst
      · exact ofNested member isLater

end

namespace SchemaSet

variable {set : SchemaSet}

theorem CompilesGrouped.closed_and_holds {members : List Member}
    (compiled : set.CompilesGrouped members) :
    set.Closed members ∧ ∀ member ∈ members, set.HoldsGrouped member := by
  have ⟨⟨name, content⟩, schema, owner, grouped, compiled⟩ := compiled
  rw [ComplexType.Grouped.eq_def] at grouped
  cases content with
  | none =>
      rw [ComplexType.members] at compiled
      cases compiled
      constructor <;> exact fun _ isMember => nomatch isMember
  | some particle =>
      rw [ComplexType.members] at compiled
      cases particle with
      | element declaration => exact False.elim grouped
      | group compositor group =>
          rw [Particle.members] at compiled
          exact ⟨group.closed_of_members compositor _ compiled,
            group.holdsGrouped_of_members compositor _ grouped compiled⟩

/-- A grouped content is closed, and so are the contents inside it. -/
theorem CompilesGrouped.closed_part {whole part : List Member}
    (compiled : set.CompilesGrouped whole) (isPart : Member.Part whole part) :
    set.Closed part := by
  induction isPart with
  | itself members => exact compiled.closed_and_holds.1
  | inside isMember isInline _ induction =>
      exact induction (compiled.closed_and_holds.2 _ isMember _ isInline)

/-! ## Schemas read from documents -/

theorem grouped_of_mem_ownedTypes (parsed : ∀ schema ∈ set.schemas, schema.IsParsed)
    {owned : OwnedType} (isOwned : owned ∈ set.ownedTypes) : owned.definition.Grouped := by
  rcases exists_of_mem_ownedTypes isOwned with byElement | byName
  · have ⟨component, isElement, _, isComplex⟩ := byElement
    have declared := mem_elements_iff.mp isElement
    have grouped :=
      (parsed _ declared.schema_mem).grouped_of_mem_elements declared.definition_mem
    exact grouped.of_anonymousType isComplex
  · have ⟨component, isType, _, same⟩ := byName
    have declared := mem_complexTypes_iff.mp isType
    rw [← same]
    exact (parsed _ declared.schema_mem).grouped_of_mem_complexTypes declared.definition_mem

end SchemaSet

/-- The component is an element of the same namespace as `head` and lists it as the head
of a substitution group. -/
structure Component.JoinsWithin (component : Component ElementDeclaration)
    (head : ExpandedName) : Prop where
  sameNamespace : component.schema.targetNamespace = head.uri
  listed : ∃ reference ∈ component.definition.substitutionGroup,
    component.schema.resolve reference = .ok head

namespace SchemaSet

variable {set : SchemaSet}

/-- With each member that has a reference, there is a member for each element of its
namespace that lists it. -/
def ClosedWithinNamespaces (set : SchemaSet) (members : List Member) : Prop :=
  ∀ member ∈ members, member.reference.isSome → ∀ component ∈ set.elements,
    component.JoinsWithin member.name → component.name ∈ members.map (·.name)

/-- No import keeps an element from replacing a head of its own namespace. -/
theorem replaces_of_joinsWithin (parsed : ∀ schema ∈ set.schemas, schema.IsParsed)
    {component : Component ElementDeclaration} (isElement : component ∈ set.elements)
    {head : ExpandedName} (joins : component.JoinsWithin head) :
    set.Replaces head component.name := by
  have declared := mem_elements_iff.mp isElement
  -- An import of the head's namespace would be one of the schema's own.
  have notImported := (parsed _ declared.schema_mem).not_imports_own
  rw [joins.sameNamespace] at notImported
  have ⟨reference, isListed, resolved⟩ := joins.listed
  refine ⟨component, ?_, rfl, notImported⟩
  apply List.mem_flatMap.mpr
  refine ⟨component, isElement, List.mem_map.mpr ⟨reference, ?_, rfl⟩⟩
  exact List.mem_filter.mpr ⟨isListed, by simp [resolved, Except.toOption]⟩

theorem Closed.within_namespaces (parsed : ∀ schema ∈ set.schemas, schema.IsParsed)
    {members : List Member} (closed : set.Closed members) :
    set.ClosedWithinNamespaces members := by
  intro member isMember hasReference component isElement joins
  exact closed member isMember hasReference component.name
    (replaces_of_joinsWithin parsed isElement joins)

/-- In a set of schemas that were read from documents, the members of a group have with
each reference all elements of its namespace that list it, and so has each content of
the content models, at any depth. -/
theorem closedWithinNamespaces_of_parsed (set : SchemaSet)
    (parsed : ∀ schema ∈ set.schemas, schema.IsParsed) :
    (∀ compositor group schema owner members,
      (Particle.group compositor group).members ⟨set, schema, owner⟩ = .ok members →
        set.ClosedWithinNamespaces members) ∧
    ∀ models, set.contentModels = .ok models → ∀ model ∈ models,
      ∀ part, Member.Part model.members part → set.ClosedWithinNamespaces part := by
  constructor
  · intro compositor group schema owner members compiled
    rw [Particle.members] at compiled
    exact (group.closed_of_members compositor _ compiled).within_namespaces parsed
  · intro models compiled model isModel part isPart
    have ⟨owned, isOwned, _, ofType⟩ := exists_of_mem_contentModels compiled isModel
    have grouped : set.CompilesGrouped model.members :=
      ⟨_, _, _, grouped_of_mem_ownedTypes parsed isOwned, ofType⟩
    exact (grouped.closed_part isPart).within_namespaces parsed

end SchemaSet

/-! ### Notes

A document with an element that may be replaced by another one, and a type whose content
refers to it. -/

namespace Notes

def text : String :=
  "<schema xmlns:t='urn:t' targetNamespace='urn:t'>" ++
    "<element name='Note'/>" ++
    "<element name='Memo' substitutionGroup='t:Note'/>" ++
    "<complexType name='Pad'><choice><element ref='t:Note'/></choice></complexType>" ++
  "</schema>"

def name (localName : String) : ExpandedName :=
  ⟨some "urn:t", localName⟩

/-- A reference to the element that may be replaced. -/
def note : ElementDeclaration :=
  ⟨.reference ⟨some "t", "Note"⟩, none, none, [], .unstated, none⟩

def schema : Schema where
  location := none
  targetNamespace := some "urn:t"
  elementForm := .unqualified
  bindings := .ofList [(some "t", "urn:t")]
  directives := []
  elements := [
    ⟨.named "Note", none, none, [], .unstated, none⟩,
    ⟨.named "Memo", none, none, [⟨some "t", "Note"⟩], .unstated, none⟩]
  complexTypes := [
    ⟨some "Pad", some (.group .choice ⟨.unstated, [.element note]⟩)⟩]
  simpleTypes := []

def set : SchemaSet where
  schemas := [schema]
  affiliated := by
    intro member isMember
    rw [List.mem_singleton.mp isMember]
    exact ⟨[[], [name "Note"]], by decide +kernel⟩

theorem parsed : ∀ schema ∈ set.schemas, schema.IsParsed := by
  intro member isMember
  rw [List.mem_singleton.mp isMember]
  exact ⟨text, false, schema, by decide +kernel, rfl⟩

def member (localName : String) (occurrence : Occurrence) (owner : Owner) : Member :=
  ⟨name localName, some ⟨some "t", localName⟩, .builtin anyType, occurrence, owner⟩

def model : ContentModel where
  owner := .complexType (name "Pad")
  members := [
    member "Memo" ⟨some 0, none⟩ (.complexType (name "Pad")),
    member "Note" ⟨some 0, none⟩ (.complexType (name "Pad"))]

theorem closed_notes :
    (∀ schema ∈ set.schemas, schema.IsParsed) ∧ set.contentModels = .ok [model] ∧
      set.ClosedWithinNamespaces model.members := by
  have compiled : set.contentModels = .ok [model] := by decide +kernel
  have ⟨_, closed⟩ := set.closedWithinNamespaces_of_parsed parsed
  exact ⟨parsed, compiled,
    closed _ compiled model List.mem_cons_self _ (.itself model.members)⟩

/-- A reference by itself, outside all groups, has no substitutes beside it. -/
theorem particles_not_always_closed :
    ¬∀ (set : SchemaSet), (∀ schema ∈ set.schemas, schema.IsParsed) →
      ∀ (particle : Particle) (schema : Schema) (owner : Owner) (members : List Member),
        particle.members ⟨set, schema, owner⟩ = .ok members →
          set.ClosedWithinNamespaces members := by
  intro closed
  have compiled : (Particle.element note).members ⟨set, schema, .outside⟩ =
      .ok [member "Note" .unstated .outside] := by decide +kernel
  have closedNote := closed set parsed _ _ _ _ compiled
  have memo : set.elements[1]?.map (·.name) = some (name "Memo") := by decide +kernel
  have ⟨component, isMemo, sameName⟩ := Option.map_eq_some_iff.mp memo
  have joins : component.JoinsWithin (name "Note") := by
    cases isMemo
    exact ⟨rfl, ⟨some "t", "Note"⟩, List.mem_cons_self, by decide +kernel⟩
  have isMember :=
    closedNote _ List.mem_cons_self rfl component (List.mem_of_getElem? isMemo) joins
  rw [sameName] at isMember
  exact absurd isMember (by decide +kernel)

end Notes

end SchemaContent
