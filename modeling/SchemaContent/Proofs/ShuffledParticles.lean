import SchemaContent.Proofs.InsertedParticles
import SchemaContent.Proofs.MemberOrder

/-! # Particles in another order

In which order the particles of a group stand decides which of several declarations a member
is made from, and in which order substitutes are found. Which names the members have, and in
which order these stand, it does not decide. -/

namespace SchemaContent

/-! ## Shuffled trees -/

/-- One tree arises from another by putting the particles of groups into another order, at any
depth and inside anonymous types too. For two groups this means that their particles make
pairs, and that in each pair one particle arises from the other. -/
inductive Particle.Shuffled : Particle → Particle → Prop
  | same (particle : Particle) : Shuffled particle particle
  | inside {declared : Declared} {typeName : Option Reference} {name : Option String}
      {content other : Particle} {substitutionGroup : List Reference} {occurrence : Occurrence}
      {form : Option Form} (shuffled : Shuffled content other) :
      Shuffled
        (.element ⟨declared, typeName, some (.complex ⟨name, some content⟩), substitutionGroup,
          occurrence, form⟩)
        (.element ⟨declared, typeName, some (.complex ⟨name, some other⟩), substitutionGroup,
          occurrence, form⟩)
  | group {compositor : Compositor} {occurrence : Occurrence} {particles others : List Particle}
      (pairs : List (Particle × Particle)) (shuffled : ∀ pair ∈ pairs, Shuffled pair.1 pair.2)
      (perm : (pairs.map (·.1)).Perm particles) (otherPerm : (pairs.map (·.2)).Perm others) :
      Shuffled (.group compositor ⟨occurrence, particles⟩) (.group compositor ⟨occurrence, others⟩)

theorem exists_pair_of_mem {α β : Type} {pairs : List (α × β)} {values : List α} {others : List β}
    (perm : (pairs.map (·.1)).Perm values) (otherPerm : (pairs.map (·.2)).Perm others) :
    (∀ value ∈ values, ∃ other ∈ others, (value, other) ∈ pairs) ∧
      ∀ other ∈ others, ∃ value ∈ values, (value, other) ∈ pairs := by
  constructor
  · intro value isValue
    rcases List.mem_map.mp (perm.mem_iff.mpr isValue) with ⟨⟨_, other⟩, isPair, rfl⟩
    exact ⟨other, otherPerm.mem_iff.mp (List.mem_map_of_mem isPair), isPair⟩
  · intro other isOther
    rcases List.mem_map.mp (otherPerm.mem_iff.mpr isOther) with ⟨⟨value, _⟩, isPair, rfl⟩
    exact ⟨value, perm.mem_iff.mp (List.mem_map_of_mem isPair), isPair⟩

theorem Scope.declaredName_eq (scope : Scope) {declaration peer : ElementDeclaration}
    (sameDeclared : peer.declared = declaration.declared)
    (sameForm : peer.form = declaration.form) :
    scope.declaredName peer = scope.declaredName declaration := by
  rw [declaredName, declaredName, sameDeclared, sameForm]

namespace Particle

theorem Shuffled.symm {particle other : Particle} (shuffled : particle.Shuffled other) :
    other.Shuffled particle := by
  induction shuffled with
  | same particle => exact .same particle
  | inside _ induction => exact .inside induction
  | group pairs _ perm otherPerm induction =>
      refine .group (pairs.map Prod.swap) ?_ ?_ ?_
      · intro pair isPair
        rcases List.mem_map.mp isPair with ⟨swapped, isSwapped, rfl⟩
        exact induction swapped isSwapped
      · rw [List.map_map]
        exact otherPerm
      · rw [List.map_map]
        exact perm

/-- Each particle can make a pair with itself. -/
theorem shuffled_of_perm (compositor : Compositor) (occurrence : Occurrence)
    {particles others : List Particle} (perm : particles.Perm others) :
    (Particle.group compositor ⟨occurrence, particles⟩).Shuffled
      (.group compositor ⟨occurrence, others⟩) := by
  refine .group (particles.map fun particle => (particle, particle)) ?_ ?_ ?_
  · intro pair isPair
    rcases List.mem_map.mp isPair with ⟨particle, _, rfl⟩
    exact .same particle
  · rw [List.map_map]
    exact .of_eq (List.map_id particles)
  · rw [List.map_map]
    exact (List.Perm.of_eq (List.map_id particles)).trans perm

/-- What arises from an element is an element. It declares or refers to the same, and has the
same bounds. -/
theorem Shuffled.exists_element {declaration : ElementDeclaration} {other : Particle}
    (shuffled : (Particle.element declaration).Shuffled other) :
    ∃ peer, other = .element peer ∧ peer.declared = declaration.declared ∧
      peer.occurrence = declaration.occurrence ∧ peer.form = declaration.form := by
  cases shuffled with
  | same => exact ⟨declaration, rfl, rfl, rfl, rfl⟩
  | inside => exact ⟨_, rfl, rfl, rfl, rfl⟩

theorem Shuffled.exists_group {compositor : Compositor} {group : ModelGroup} {other : Particle}
    (shuffled : (Particle.group compositor group).Shuffled other) :
    ∃ peer, other = .group compositor peer := by
  cases shuffled with
  | same => exact ⟨group, rfl⟩
  | group => exact ⟨_, rfl⟩

end Particle

/-! ## Parts of groups that compile -/

namespace Particle

/-- The first particle compiles, and the rest contribute. What is nested comes from one of both. -/
theorem exists_of_contributions_cons {scope : Scope} {first : Particle} {rest : List Particle}
    {own nested : List Member}
    (contributed : contributions scope (first :: rest) = .ok (own, nested)) :
    ∃ members others deeper, first.members scope = .ok members ∧
      contributions scope rest = .ok (others, deeper) ∧ nested ⊆ members ++ deeper := by
  cases first with
  | element declaration =>
      rw [contributions] at contributed
      rcases exists_of_bind_eq_ok contributed with ⟨member, made, contributed⟩
      rcases exists_of_bind_eq_ok contributed with ⟨⟨others, deeper⟩, later, contributed⟩
      cases contributed
      refine ⟨[member], others, nested, ?_, later, List.subset_append_right _ _⟩
      rw [Particle.members, made]
      rfl
  | group compositor group =>
      rw [contributions] at contributed
      rcases exists_of_bind_eq_ok contributed with ⟨members, compiled, contributed⟩
      rcases exists_of_bind_eq_ok contributed with ⟨⟨others, deeper⟩, later, contributed⟩
      cases contributed
      refine ⟨members, own, deeper, ?_, later, List.Subset.refl _⟩
      rw [Particle.members, compiled]

theorem exists_members_of_contributions {scope : Scope} {particles : List Particle}
    {own nested : List Member} (contributed : contributions scope particles = .ok (own, nested)) :
    ∀ particle ∈ particles, ∃ members, particle.members scope = .ok members := by
  induction particles generalizing own nested with
  | nil => nofun
  | cons first rest induction =>
      rcases exists_of_contributions_cons contributed with
        ⟨members, others, deeper, compiled, later, _⟩
      exact List.forall_mem_cons.mpr ⟨⟨members, compiled⟩, induction later⟩

theorem names_of_element {scope : Scope} {declaration : ElementDeclaration}
    {members : List Member}
    (compiled : (Particle.element declaration).members scope = .ok members) :
    ∃ name, scope.declaredName declaration = .ok name ∧ members.map (·.name) = [name] := by
  rw [Particle.members] at compiled
  rcases exists_of_bind_eq_ok compiled with ⟨member, made, compiled⟩
  cases compiled
  exact ⟨member.name, (ElementDeclaration.of_member made).1, rfl⟩

end Particle

/-- All particles of a group that compiles do. -/
theorem ModelGroup.exists_members_of_mem {scope : Scope} {compositor : Compositor}
    {occurrence : Occurrence} {particles : List Particle} {members : List Member}
    (compiled : ModelGroup.members compositor scope ⟨occurrence, particles⟩ = .ok members) :
    ∀ particle ∈ particles, ∃ members, particle.members scope = .ok members := by
  rw [ModelGroup.members] at compiled
  rcases exists_of_bind_eq_ok compiled with ⟨⟨own, nested⟩, contributed, _⟩
  exact Particle.exists_members_of_contributions contributed

/-! ## The same names -/

namespace Particle

/-- If both particles compile, their members have the same names. -/
def SameNames (scope : Scope) (particle other : Particle) : Prop :=
  ∀ members others, particle.members scope = .ok members → other.members scope = .ok others →
    ∀ name, name ∈ members.map (·.name) ↔ name ∈ others.map (·.name)

theorem SameNames.symm {scope : Scope} {particle other : Particle}
    (same : particle.SameNames scope other) : other.SameNames scope particle :=
  fun members others compiled otherCompiled name =>
    (same others members otherCompiled compiled name).symm

/-- Each of the particles has one among the others that arises from it, with the same names. -/
def Covered (scope : Scope) (particles others : List Particle) : Prop :=
  ∀ particle ∈ particles, ∃ other ∈ others,
    particle.Shuffled other ∧ particle.SameNames scope other

theorem covered_of_pairs {scope : Scope} {particles others : List Particle}
    {pairs : List (Particle × Particle)} (shuffled : ∀ pair ∈ pairs, pair.1.Shuffled pair.2)
    (sameNames : ∀ pair ∈ pairs, pair.1.SameNames scope pair.2)
    (perm : (pairs.map (·.1)).Perm particles) (otherPerm : (pairs.map (·.2)).Perm others) :
    Covered scope particles others ∧ Covered scope others particles := by
  have ⟨ofFirst, ofSecond⟩ := exists_pair_of_mem perm otherPerm
  constructor
  · intro particle isParticle
    rcases ofFirst particle isParticle with ⟨other, isOther, isPair⟩
    exact ⟨other, isOther, shuffled _ isPair, sameNames _ isPair⟩
  · intro other isOther
    rcases ofSecond other isOther with ⟨particle, isParticle, isPair⟩
    exact ⟨particle, isParticle, (shuffled _ isPair).symm, (sameNames _ isPair).symm⟩

namespace Covered

variable {scope : Scope} {particles others : List Particle} {name : ExpandedName}
  (covered : Covered scope particles others)

include covered

theorem exists_element {declaration : ElementDeclaration}
    (isParticle : .element declaration ∈ particles) :
    ∃ peer, .element peer ∈ others ∧ peer.declared = declaration.declared ∧
      peer.occurrence = declaration.occurrence ∧ peer.form = declaration.form := by
  rcases covered _ isParticle with ⟨other, isOther, shuffled, _⟩
  rcases shuffled.exists_element with ⟨peer, rfl, sameParts⟩
  exact ⟨peer, isOther, sameParts⟩

theorem declares (declares : scope.Declares particles name) : scope.Declares others name := by
  rcases declares with ⟨declaration, isParticle, declared⟩
  rcases covered.exists_element isParticle with ⟨peer, isPeer, sameDeclared, _, sameForm⟩
  exact ⟨peer, isPeer, (scope.declaredName_eq sameDeclared sameForm).trans declared⟩

theorem refers (refers : scope.Refers particles name) : scope.Refers others name := by
  rcases refers with ⟨declaration, reference, isParticle, isReference, resolved⟩
  rcases covered.exists_element isParticle with ⟨peer, isPeer, sameDeclared, _, _⟩
  exact ⟨peer, reference, isPeer, sameDeclared.trans isReference, resolved⟩

theorem passes (back : Covered scope others particles) (passes : scope.Passes particles name) :
    scope.Passes others name :=
  fun declares => covered.refers (passes (back.declares declares))

theorem nests (compiles : ∀ other ∈ others, ∃ members, other.members scope = .ok members)
    (nests : scope.Nests particles name) : scope.Nests others name := by
  rcases nests with ⟨compositor, group, members, isParticle, compiled, isName⟩
  rcases covered _ isParticle with ⟨other, isOther, shuffled, sameNames⟩
  rcases shuffled.exists_group with ⟨peer, rfl⟩
  rcases compiles _ isOther with ⟨peerMembers, peerCompiled⟩
  have isPeerName := (sameNames members peerMembers (by rw [Particle.members, compiled])
    peerCompiled name).mp isName
  rw [Particle.members] at peerCompiled
  exact ⟨compositor, peer, peerMembers, isOther, peerCompiled, isPeerName⟩

end Covered

end Particle

theorem ModelGroup.name_mem_of_covered {scope : Scope} {compositor : Compositor}
    {occurrence : Occurrence} {particles others : List Particle}
    {members otherMembers : List Member}
    (compiled : ModelGroup.members compositor scope ⟨occurrence, particles⟩ = .ok members)
    (otherCompiled : ModelGroup.members compositor scope ⟨occurrence, others⟩ = .ok otherMembers)
    (covered : Particle.Covered scope particles others)
    (back : Particle.Covered scope others particles) {name : ExpandedName}
    (isName : name ∈ members.map (·.name)) : name ∈ otherMembers.map (·.name) := by
  rw [mem_names_iff compiled] at isName
  rw [mem_names_iff otherCompiled]
  rcases isName with declares | nests | ⟨head, refers, reached⟩
  · exact .inl (covered.declares declares)
  · exact .inr (.inl (covered.nests (exists_members_of_mem otherCompiled) nests))
  · exact .inr (.inr ⟨head, covered.refers refers, reached.mono fun _ => covered.passes back⟩)

namespace Particle

/-- By induction on how one tree arises from the other: groups whose particles are covered by
each other have the same names. -/
theorem Shuffled.sameNames (scope : Scope) {particle other : Particle}
    (shuffled : particle.Shuffled other) : particle.SameNames scope other := by
  induction shuffled with
  | same particle =>
      intro members others compiled otherCompiled name
      rw [compiled] at otherCompiled
      cases otherCompiled
      exact Iff.rfl
  | inside =>
      intro members others compiled otherCompiled name
      rcases names_of_element compiled with ⟨_, declared, names⟩
      rcases names_of_element otherCompiled with ⟨_, otherDeclared, otherNames⟩
      cases declared.symm.trans otherDeclared
      rw [names, otherNames]
  | @group compositor occurrence particles others pairs shuffled perm otherPerm induction =>
      intro members otherMembers compiled otherCompiled name
      rw [Particle.members] at compiled otherCompiled
      have ⟨covered, back⟩ := covered_of_pairs shuffled induction perm otherPerm
      exact ⟨ModelGroup.name_mem_of_covered compiled otherCompiled covered back,
        ModelGroup.name_mem_of_covered otherCompiled compiled back covered⟩

end Particle

/-! ## The same order -/

/-- Each member that has this name stands before each member that has the other. -/
def ExpandedName.StandsBefore (name other : ExpandedName) : Prop :=
  ∀ first second : Member, first.name = name → second.name = other → first.Before second

namespace Member

theorem standsBefore_of_before {first second : Member} (before : first.Before second) :
    first.name.StandsBefore second.name := by
  intro other peer sameFirst sameSecond
  rw [Before, identifier, identifier, sameFirst, sameSecond]
  exact before

variable {members others : List Member} (ascending : members.Pairwise Before)

include ascending

theorem pairwise_names_of_before : (members.map (·.name)).Pairwise ExpandedName.StandsBefore :=
  List.pairwise_map.mpr (ascending.imp standsBefore_of_before)

theorem nodup_names_of_before : (members.map (·.name)).Nodup :=
  List.pairwise_map.mpr (ascending.imp name_ne_of_before)

/-- Members that ascend have their names in an order that the names alone decide. -/
theorem names_eq_of_pairwise_before (othersAscending : others.Pairwise Before)
    (same : ∀ name, name ∈ members.map (·.name) ↔ name ∈ others.map (·.name)) :
    members.map (·.name) = others.map (·.name) := by
  have perm := (List.perm_ext_iff_of_nodup (nodup_names_of_before ascending)
    (nodup_names_of_before othersAscending)).mpr same
  apply List.Perm.eq_of_pairwise ?_ (pairwise_names_of_before ascending)
    (pairwise_names_of_before othersAscending) perm
  intro name other isName isOther before after
  rcases List.mem_map.mp isName with ⟨first, _, rfl⟩
  rcases List.mem_map.mp isOther with ⟨second, _, rfl⟩
  exact absurd (after second first rfl rfl) (not_before_of_before (before first second rfl rfl))

end Member

/-! ## Where members are taken from -/

/-- A tree supplies the members that its elements make, under the rules of the groups around
them, and what may stand in for those that are references. -/
inductive Particle.Supplies (scope : Scope) : Particle → Member → Prop
  | element {declaration : ElementDeclaration} {member : Member}
      (made : declaration.member scope = .ok member) : Supplies scope (.element declaration) member
  | part {compositor : Compositor} {occurrence : Occurrence} {particles : List Particle}
      {particle : Particle} {member : Member} (isParticle : particle ∈ particles)
      (supplied : Supplies scope particle member) :
      Supplies scope (.group compositor ⟨occurrence, particles⟩)
        (member.within compositor occurrence)
  | standIn {compositor : Compositor} {occurrence : Occurrence} {particles : List Particle}
      {declaration : ElementDeclaration} {reference : Reference} {head middle : ExpandedName}
      {component : Component ElementDeclaration} {member : Member}
      (isParticle : .element declaration ∈ particles)
      (isReference : declaration.declared = .reference reference)
      (resolved : scope.schema.resolve reference = .ok head)
      (reached : scope.set.ReplacesThrough (scope.Passes particles) head component.name)
      (isSubstitute : component ∈ scope.set.substitutes middle)
      (made : scope.standIn ⟨component, declaration.occurrence.within compositor occurrence⟩ =
        .ok member) :
      Supplies scope (.group compositor ⟨occurrence, particles⟩) member

theorem Scope.exists_offer_of_mem_expand {scope : Scope} {direct found : List Member}
    (expanded : scope.expand direct = .ok found) {member : Member} (isFound : member ∈ found) :
    ∃ head ∈ direct, ∃ middle component, head.reference.isSome ∧
      scope.set.ReplacesThrough (· ∉ direct.map (·.name)) head.name component.name ∧
      component ∈ scope.set.substitutes middle ∧
      scope.standIn ⟨component, head.occurrence⟩ = .ok member := by
  rw [expand, spread_eq_mapM] at expanded
  rcases exists_of_mem_of_mapM_eq_ok expanded member isFound with ⟨⟨component, mark⟩, isOffer, made⟩
  rcases SchemaSet.reached_of_mem_explore isOffer with ⟨_, isHead, sameMark, reached⟩
  rcases SchemaSet.exists_of_mem_explore isOffer with ⟨middle, isSubstitute⟩
  rcases mem_heads.mp isHead with ⟨entry, isEntry, hasReference, rfl⟩
  rcases List.mem_map.mp isEntry with ⟨head, isDirect, rfl⟩
  cases sameMark
  exact ⟨head, isDirect, middle, component, hasReference, reached, isSubstitute, made⟩

namespace Particle

theorem supplies_of_mem_expand {scope : Scope} {compositor : Compositor} {occurrence : Occurrence}
    {particles : List Particle} {own nested found : List Member}
    (contributed : contributions scope particles = .ok (own, nested))
    (expanded : scope.expand (own.map (·.within compositor occurrence)) = .ok found)
    {member : Member} (isFound : member ∈ found) :
    (Particle.group compositor ⟨occurrence, particles⟩).Supplies scope member := by
  rcases Scope.exists_offer_of_mem_expand expanded isFound with
    ⟨head, isDirect, middle, component, hasReference, reached, isSubstitute, made⟩
  rcases List.mem_map.mp isDirect with ⟨original, isOwn, rfl⟩
  rcases (own_of_contributions contributed).1 original isOwn with
    ⟨declaration, isParticle, makes⟩
  rcases (ElementDeclaration.reference_isSome_iff makes).mp hasReference with
    ⟨reference, isReference⟩
  have ⟨declared, sameBounds⟩ := ElementDeclaration.of_member makes
  rw [scope.declaredName_of_reference isReference] at declared
  refine .standIn isParticle isReference declared ?_ isSubstitute ?_
  · apply reached.mono
    intro name notDirect declares
    rw [declares_iff contributed] at declares
    rw [List.map_map] at notDirect
    exact absurd declares notDirect
  · rw [← sameBounds]
    exact made

mutual

theorem supplies_of_mem_members (scope : Scope) : ∀ (particle : Particle) {members : List Member},
    particle.members scope = .ok members → ∀ member ∈ members, particle.Supplies scope member
  | .element declaration, members, compiled, member, isMember => by
      rw [Particle.members] at compiled
      rcases exists_of_bind_eq_ok compiled with ⟨only, made, compiled⟩
      cases compiled
      rw [List.mem_singleton.mp isMember]
      exact .element made
  | .group compositor ⟨occurrence, particles⟩, members, compiled, member, isMember => by
      rw [Particle.members, ModelGroup.members] at compiled
      rcases exists_of_bind_eq_ok compiled with ⟨⟨own, nested⟩, contributed, gathered⟩
      rcases exists_of_bind_eq_ok gathered with ⟨found, expanded, isCanonical⟩
      cases isCanonical
      rcases List.mem_append.mp (Member.mem_of_mem_canonical isMember) with isMember | isNested
      · rcases List.mem_append.mp isMember with isDirect | isFound
        · rcases List.mem_map.mp isDirect with ⟨original, isOwn, rfl⟩
          rcases (own_of_contributions contributed).1 original isOwn with
            ⟨declaration, isParticle, made⟩
          exact .part isParticle (.element made)
        · exact supplies_of_mem_expand contributed expanded isFound
      · rcases List.mem_map.mp isNested with ⟨original, isOriginal, rfl⟩
        rcases supplies_of_mem_nested scope particles contributed original isOriginal with
          ⟨particle, isParticle, supplied⟩
        exact .part isParticle supplied

theorem supplies_of_mem_nested (scope : Scope) : ∀ (particles : List Particle)
    {own nested : List Member}, contributions scope particles = .ok (own, nested) →
    ∀ member ∈ nested, ∃ particle ∈ particles, particle.Supplies scope member
  | [], own, nested, contributed => by
      rw [contributions] at contributed
      cases contributed
      nofun
  | first :: rest, own, nested, contributed => by
      rcases exists_of_contributions_cons contributed with
        ⟨members, others, deeper, compiled, later, isEither⟩
      intro member isNested
      rcases List.mem_append.mp (isEither isNested) with isFirst | isLater
      · exact ⟨first, List.mem_cons_self,
          supplies_of_mem_members scope first compiled member isFirst⟩
      · rcases supplies_of_mem_nested scope rest later member isLater with
          ⟨particle, isParticle, supplied⟩
        exact ⟨particle, List.mem_cons_of_mem _ isParticle, supplied⟩

end

end Particle

/-- Two members are the same but for the members inside their types, whose contents arise from
each other. -/
inductive Member.Alike (scope : Scope) : Member → Member → Prop
  | same (member : Member) : Alike scope member member
  | inside {name : ExpandedName} {reference : Option Reference} {content other : Particle}
      {inside otherInside : List Member} {occurrence : Occurrence} {owner : Owner}
      (shuffled : content.Shuffled other)
      (compiled : content.members { scope with owner := .element name } = .ok inside)
      (otherCompiled : other.members { scope with owner := .element name } = .ok otherInside) :
      Alike scope ⟨name, reference, .inline inside, occurrence, owner⟩
        ⟨name, reference, .inline otherInside, occurrence, owner⟩

theorem Member.Alike.within {scope : Scope} {member peer : Member} (alike : member.Alike scope peer)
    (compositor : Compositor) (occurrence : Occurrence) :
    (member.within compositor occurrence).Alike scope (peer.within compositor occurrence) := by
  cases alike with
  | same => exact .same _
  | inside shuffled compiled otherCompiled => exact .inside shuffled compiled otherCompiled

/-- If contents arise from each other, so that both elements compile, their members are alike. -/
theorem ElementDeclaration.alike_of_inside {scope : Scope} {declared : Declared}
    {typeName : Option Reference} {typed : Option String} {content other : Particle}
    {substitutionGroup : List Reference} {occurrence : Occurrence} {form : Option Form}
    {member peer : Member} (shuffled : content.Shuffled other)
    (made : ElementDeclaration.member scope ⟨declared, typeName,
      some (.complex ⟨typed, some content⟩), substitutionGroup, occurrence, form⟩ = .ok member)
    (peerMade : ElementDeclaration.member scope ⟨declared, typeName,
      some (.complex ⟨typed, some other⟩), substitutionGroup, occurrence, form⟩ = .ok peer) :
    member.Alike scope peer := by
  cases declared with
  | reference reference =>
      rw [member_reference] at made peerMade
      rw [made] at peerMade
      cases peerMade
      exact .same member
  | named localName =>
      rw [member_named] at made peerMade
      rcases exists_of_bind_eq_ok made with ⟨type, isTyped, made⟩
      rcases exists_of_bind_eq_ok peerMade with ⟨peerType, peerTyped, peerMade⟩
      rcases exists_of_map_eq_ok isTyped with ⟨inside, compiled, rfl⟩
      rcases exists_of_map_eq_ok peerTyped with ⟨peerInside, peerCompiled, rfl⟩
      cases made
      cases peerMade
      rw [ComplexType.members] at compiled peerCompiled
      exact .inside shuffled compiled peerCompiled

/-- A tree that compiles supplies, but for the members inside types, all that is supplied by the
trees that arise from it. -/
theorem Particle.Shuffled.exists_supplied {scope : Scope} {particle other : Particle}
    (shuffled : particle.Shuffled other) : ∀ members, particle.members scope = .ok members →
    ∀ peer, other.Supplies scope peer →
      ∃ member, particle.Supplies scope member ∧ member.Alike scope peer := by
  induction shuffled with
  | same particle => exact fun _ _ peer supplied => ⟨peer, supplied, .same peer⟩
  | inside shuffled =>
      intro members compiled peer supplied
      cases supplied with
      | element peerMade =>
          rw [Particle.members] at compiled
          rcases exists_of_bind_eq_ok compiled with ⟨member, made, _⟩
          exact ⟨member, .element made, ElementDeclaration.alike_of_inside shuffled made peerMade⟩
  | @group compositor occurrence particles others pairs shuffled perm otherPerm induction =>
      intro members compiled peer supplied
      rw [Particle.members] at compiled
      cases supplied with
      | part isOther supplied =>
          rcases (exists_pair_of_mem perm otherPerm).2 _ isOther with
            ⟨particle, isParticle, isPair⟩
          rcases ModelGroup.exists_members_of_mem compiled particle isParticle with
            ⟨inner, innerCompiled⟩
          rcases induction _ isPair inner innerCompiled _ supplied with ⟨member, supplied, alike⟩
          exact ⟨_, .part isParticle supplied, alike.within compositor occurrence⟩
      | standIn isOther isReference resolved reached isSubstitute made =>
          -- What stands in for a reference does so wherever the reference is written.
          have ⟨covered, back⟩ := covered_of_pairs shuffled
            (fun pair isPair => (shuffled pair isPair).sameNames scope) perm otherPerm
          rcases back.exists_element isOther with
            ⟨declaration, isParticle, sameDeclared, sameBounds, _⟩
          refine ⟨peer, .standIn isParticle (sameDeclared.trans isReference) resolved ?_
            isSubstitute ?_, .same peer⟩
          · exact reached.mono fun _ => back.passes covered
          · rw [sameBounds]
            exact made

theorem Member.Alike.name_eq {scope : Scope} {member peer : Member}
    (alike : member.Alike scope peer) : member.name = peer.name := by
  cases alike <;> rfl

/-- If two trees arise from each other and both compile, their members have the same names in the
same order. They may differ in which of several declarations in the tree they are taken from:
the tree supplies all members, and where it supplies one member only of a name, the members of
this name are alike. -/
theorem Particle.Shuffled.names_eq {scope : Scope} {particle other : Particle}
    {members others : List Member} (shuffled : particle.Shuffled other)
    (compiled : particle.members scope = .ok members)
    (otherCompiled : other.members scope = .ok others) :
    members.map (·.name) = others.map (·.name) ∧
      (∀ member ∈ members, particle.Supplies scope member) ∧
      (∀ peer ∈ others, ∃ member, particle.Supplies scope member ∧ member.Alike scope peer) ∧
      ∀ member ∈ members, ∀ peer ∈ others, peer.name = member.name →
        (∀ rival, particle.Supplies scope rival → rival.name = member.name → rival = member) →
          member.Alike scope peer := by
  have ofPeer : ∀ peer ∈ others,
      ∃ member, particle.Supplies scope member ∧ member.Alike scope peer := by
    intro peer isPeer
    exact shuffled.exists_supplied members compiled peer
      (supplies_of_mem_members scope other otherCompiled peer isPeer)
  refine ⟨?_, supplies_of_mem_members scope particle compiled, ofPeer, ?_⟩
  · exact Member.names_eq_of_pairwise_before (pairwise_before_members compiled)
      (pairwise_before_members otherCompiled)
      (shuffled.sameNames scope members others compiled otherCompiled)
  · intro member _ peer isPeer sameName isOnly
    rcases ofPeer peer isPeer with ⟨supplied, isSupplied, alike⟩
    rw [← isOnly supplied isSupplied (alike.name_eq.trans sameName)]
    exact alike

namespace Ring

def manyOfA : Particle :=
  .element ⟨.reference (reference "A"), none, none, [], ⟨some 0, some .unbounded⟩, none⟩

/-- The point with its coordinates in another order. -/
def turnedPoint : Particle :=
  .element ⟨.named "point", none, some (.complex ⟨none, some (.group .sequence ⟨.unstated, [
    localElement "b" .unqualified, localElement "a-b" .unqualified,
    localElement "aB" .unqualified, localElement "aB" .qualified,
    localElement "b" .unqualified]⟩)⟩), [], .unstated, none⟩

def drawing : Particle :=
  .group .sequence ⟨.unstated, [referenceToA, manyOfA, point]⟩

def turnedDrawing : Particle :=
  .group .sequence ⟨.unstated, [turnedPoint, manyOfA, referenceToA]⟩

def many (localName : String) : Member :=
  { member localName with occurrence := ⟨some 0, some .unbounded⟩ }

theorem turnedDrawing_of_drawing : drawing.Shuffled turnedDrawing := by
  have turned : point.Shuffled turnedPoint :=
    .inside (Particle.shuffled_of_perm .sequence .unstated (by decide +kernel))
  refine .group [(referenceToA, referenceToA), (manyOfA, manyOfA), (point, turnedPoint)] ?_ ?_ ?_
  · simp only [List.forall_mem_cons]
    exact ⟨.same _, .same _, turned, nofun⟩
  · exact .refl _
  · exact (List.reverse_perm [referenceToA, manyOfA, turnedPoint]).symm

/-- The bounds of the elements are those of the reference that comes first. -/
theorem names_of_drawings :
    drawing.members scope = .ok [member "A", member "B", member "C", pointMember] ∧
      turnedDrawing.members scope = .ok [many "A", many "B", many "C", pointMember] ∧
      [member "A", member "B", member "C", pointMember].map (·.name) =
        [many "A", many "B", many "C", pointMember].map (·.name) := by
  have compiled : drawing.members scope =
      .ok [member "A", member "B", member "C", pointMember] := by
    decide +kernel
  have otherCompiled : turnedDrawing.members scope =
      .ok [many "A", many "B", many "C", pointMember] := by
    decide +kernel
  exact ⟨compiled, otherCompiled,
    (turnedDrawing_of_drawing.names_eq compiled otherCompiled).1⟩

end Ring

end SchemaContent
