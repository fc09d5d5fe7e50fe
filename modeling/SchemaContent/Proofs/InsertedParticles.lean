import SchemaContent.ContentModel
import SchemaContent.Proofs.CanonicalOrder
import SchemaContent.Proofs.SubstitutionClosure

/-! # Groups with one more particle

Which names the members of a group have can be told from its particles alone: they
are declared, referred to or nested there, or replace a name that is referred to. So
one more particle takes a name away in one case only: it declares an element in
place, and every chain of replacements to the name leads through that element. -/

namespace SchemaContent

/-! ## Names among particles -/

namespace Scope

/-- An element among the particles has this name, declared in place or referred to. -/
def Declares (scope : Scope) (particles : List Particle) (name : ExpandedName) : Prop :=
  ∃ declaration, .element declaration ∈ particles ∧ scope.declaredName declaration = .ok name

/-- An element among the particles is a reference to this name. -/
def Refers (scope : Scope) (particles : List Particle) (name : ExpandedName) : Prop :=
  ∃ declaration reference, .element declaration ∈ particles ∧
    declaration.declared = .reference reference ∧ scope.schema.resolve reference = .ok name

/-- A group among the particles has a member with this name. -/
def Nests (scope : Scope) (particles : List Particle) (name : ExpandedName) : Prop :=
  ∃ compositor group members, .group compositor group ∈ particles ∧
    group.members compositor scope = .ok members ∧ name ∈ members.map (·.name)

/-- A chain of replacements may lead through a name unless the particles declare it
and do not refer to it. -/
def Passes (scope : Scope) (particles : List Particle) (name : ExpandedName) : Prop :=
  scope.Declares particles name → scope.Refers particles name

theorem declaredName_of_reference (scope : Scope) {declaration : ElementDeclaration}
    {reference : Reference} (isReference : declaration.declared = .reference reference) :
    scope.declaredName declaration = scope.schema.resolve reference := by
  rw [declaredName, isReference]

theorem declaredName_of_named (scope : Scope) {declaration : ElementDeclaration}
    {localName : String} (isNamed : declaration.declared = .named localName) :
    scope.declaredName declaration =
      .ok (scope.localElementName localName declaration.form) := by
  rw [declaredName, isNamed]

end Scope

namespace ElementDeclaration

theorem reference_isSome_iff {scope : Scope} {declaration : ElementDeclaration}
    {member : Member} (made : declaration.member scope = .ok member) :
    member.reference.isSome ↔ ∃ reference, declaration.declared = .reference reference := by
  cases declaration with
  | mk declared typeName anonymousType substitutionGroup occurrence form =>
      cases declared with
      | reference reference =>
          rw [member_reference] at made
          rcases exists_of_bind_eq_ok made with ⟨name, _, referred⟩
          rw [Scope.refer] at referred
          split at referred
          · cases referred
          · rcases exists_of_bind_eq_ok referred with ⟨type, _, isMember⟩
            cases isMember
            simp
      | named localName =>
          rw [member_named] at made
          rcases exists_of_bind_eq_ok made with ⟨type, _, isMember⟩
          cases isMember
          simp

end ElementDeclaration

/-! ## What particles contribute -/

namespace Particle

variable {scope : Scope} {particles : List Particle} {own nested : List Member}

theorem own_of_contributions (contributed : contributions scope particles = .ok (own, nested)) :
    (∀ member ∈ own, ∃ declaration, .element declaration ∈ particles ∧
        declaration.member scope = .ok member) ∧
      ∀ declaration, .element declaration ∈ particles →
        ∃ member ∈ own, declaration.member scope = .ok member := by
  induction particles generalizing own nested with
  | nil =>
      rw [contributions] at contributed
      cases contributed
      simp
  | cons particle rest induction =>
      cases particle with
      | element declaration =>
          rw [contributions] at contributed
          rcases exists_of_bind_eq_ok contributed with ⟨first, made, contributed⟩
          rcases exists_of_bind_eq_ok contributed with ⟨⟨others, deeper⟩, later, contributed⟩
          cases contributed
          rcases induction later with ⟨ofMember, ofDeclaration⟩
          constructor
          · intro member isOwn
            rcases List.mem_cons.mp isOwn with rfl | isLater
            · exact ⟨declaration, List.mem_cons_self, made⟩
            · rcases ofMember member isLater with ⟨other, isParticle, makes⟩
              exact ⟨other, List.mem_cons_of_mem _ isParticle, makes⟩
          · intro other isParticle
            rcases List.mem_cons.mp isParticle with same | isLater
            · cases same
              exact ⟨first, List.mem_cons_self, made⟩
            · rcases ofDeclaration other isLater with ⟨member, isOwn, makes⟩
              exact ⟨member, List.mem_cons_of_mem _ isOwn, makes⟩
      | group compositor group =>
          rw [contributions] at contributed
          rcases exists_of_bind_eq_ok contributed with ⟨members, _, contributed⟩
          rcases exists_of_bind_eq_ok contributed with ⟨⟨others, deeper⟩, later, contributed⟩
          cases contributed
          simpa using induction later

theorem declares_iff (contributed : contributions scope particles = .ok (own, nested))
    {name : ExpandedName} :
    scope.Declares particles name ↔ name ∈ own.map (·.name) := by
  rcases own_of_contributions contributed with ⟨ofMember, ofDeclaration⟩
  constructor
  · intro declares
    rcases declares with ⟨declaration, isParticle, declared⟩
    rcases ofDeclaration declaration isParticle with ⟨member, isOwn, made⟩
    have sameName := (ElementDeclaration.of_member made).1
    rw [declared] at sameName
    exact List.mem_map.mpr ⟨member, isOwn, (Except.ok.inj sameName).symm⟩
  · intro isName
    rcases List.mem_map.mp isName with ⟨member, isOwn, rfl⟩
    rcases ofMember member isOwn with ⟨declaration, isParticle, made⟩
    exact ⟨declaration, isParticle, (ElementDeclaration.of_member made).1⟩

theorem refers_iff (contributed : contributions scope particles = .ok (own, nested))
    {name : ExpandedName} :
    scope.Refers particles name ↔
      ∃ member ∈ own, member.reference.isSome ∧ member.name = name := by
  rcases own_of_contributions contributed with ⟨ofMember, ofDeclaration⟩
  constructor
  · intro refers
    rcases refers with ⟨declaration, reference, isParticle, isReference, resolved⟩
    rcases ofDeclaration declaration isParticle with ⟨member, isOwn, made⟩
    have sameName := (ElementDeclaration.of_member made).1
    rw [scope.declaredName_of_reference isReference, resolved] at sameName
    refine ⟨member, isOwn, ?_, (Except.ok.inj sameName).symm⟩
    exact (ElementDeclaration.reference_isSome_iff made).mpr ⟨reference, isReference⟩
  · intro exists_member
    rcases exists_member with ⟨member, isOwn, hasReference, sameName⟩
    rcases ofMember member isOwn with ⟨declaration, isParticle, made⟩
    rcases (ElementDeclaration.reference_isSome_iff made).mp hasReference with
      ⟨reference, isReference⟩
    have resolved := (ElementDeclaration.of_member made).1
    rw [scope.declaredName_of_reference isReference, sameName] at resolved
    exact ⟨declaration, reference, isParticle, isReference, resolved⟩

theorem nests_iff (contributed : contributions scope particles = .ok (own, nested))
    {name : ExpandedName} :
    scope.Nests particles name ↔ name ∈ nested.map (·.name) := by
  induction particles generalizing own nested with
  | nil =>
      rw [contributions] at contributed
      cases contributed
      simp [Scope.Nests]
  | cons particle rest induction =>
      cases particle with
      | element declaration =>
          rw [contributions] at contributed
          rcases exists_of_bind_eq_ok contributed with ⟨first, _, contributed⟩
          rcases exists_of_bind_eq_ok contributed with ⟨⟨others, deeper⟩, later, contributed⟩
          cases contributed
          rw [← induction later]
          simp [Scope.Nests]
      | group compositor group =>
          rw [contributions] at contributed
          rcases exists_of_bind_eq_ok contributed with ⟨members, compiled, contributed⟩
          rcases exists_of_bind_eq_ok contributed with ⟨⟨others, deeper⟩, later, contributed⟩
          cases contributed
          rw [List.map_append, List.mem_append, ← induction later]
          constructor
          · intro nests
            rcases nests with ⟨_, _, inner, isParticle, made, isName⟩
            rcases List.mem_cons.mp isParticle with same | isLater
            · cases same
              rw [compiled] at made
              cases made
              exact .inl isName
            · exact .inr ⟨_, _, inner, isLater, made, isName⟩
          · intro isName
            rcases isName with isFirst | isLater
            · exact ⟨_, _, members, List.mem_cons_self, compiled, isFirst⟩
            · rcases isLater with ⟨_, _, inner, isParticle, made, isName⟩
              exact ⟨_, _, inner, List.mem_cons_of_mem _ isParticle, made, isName⟩

end Particle

/-! ## The names of members -/

theorem Member.mem_names_canonical {name : ExpandedName} {members : List Member} :
    name ∈ (canonical members).map (·.name) ↔ name ∈ members.map (·.name) := by
  have isNamed : ∀ list : List Member,
      name ∈ list.map (·.name) ↔ (named name list).isSome := by
    intro list
    simp [named, List.find?_isSome]
  rw [isNamed, isNamed, named_canonical]

/-- A member of a group is declared or nested among its particles, or it replaces what
they refer to, through names that chains may lead through. -/
theorem ModelGroup.mem_names_iff {scope : Scope} {compositor : Compositor}
    {occurrence : Occurrence} {particles : List Particle} {members : List Member}
    (compiled : ModelGroup.members compositor scope ⟨occurrence, particles⟩ = .ok members)
    {name : ExpandedName} :
    name ∈ members.map (·.name) ↔
      scope.Declares particles name ∨ scope.Nests particles name ∨
        ∃ head, scope.Refers particles head ∧
          scope.set.ReplacesThrough (scope.Passes particles) head name := by
  rw [ModelGroup.members] at compiled
  rcases exists_of_bind_eq_ok compiled with ⟨⟨own, nested⟩, contributed, gathered⟩
  rcases exists_of_bind_eq_ok gathered with ⟨found, expanded, isCanonical⟩
  cases isCanonical
  let direct := own.map (·.within compositor occurrence)
  have directNames : direct.map (·.name) = own.map (·.name) := by
    rw [List.map_map]
    rfl
  have nestedNames :
      (nested.map (·.within compositor occurrence)).map (·.name) = nested.map (·.name) := by
    rw [List.map_map]
    rfl
  change name ∈ (Member.canonical (direct ++ found ++ _)).map (·.name) ↔ _
  rw [Member.mem_names_canonical, List.map_append, List.map_append, List.mem_append,
    List.mem_append, directNames, nestedNames, Particle.declares_iff contributed,
    Particle.nests_iff contributed]
  have ofFound : name ∈ found.map (·.name) → ∃ head, scope.Refers particles head ∧
      scope.set.ReplacesThrough (scope.Passes particles) head name := by
    intro isFound
    rcases List.mem_map.mp isFound with ⟨member, isMember, rfl⟩
    rcases Scope.exists_head_of_mem_expand expanded isMember with
      ⟨head, isDirect, hasReference, _, reached⟩
    rcases List.mem_map.mp isDirect with ⟨original, isOwn, rfl⟩
    refine ⟨original.name, ?_, ?_⟩
    · exact (Particle.refers_iff contributed).mpr ⟨original, isOwn, hasReference, rfl⟩
    · apply reached.mono
      intro middle notDirect declares
      rw [Particle.declares_iff contributed, ← directNames] at declares
      exact absurd declares notDirect
  have ofReached : (∃ head, scope.Refers particles head ∧
      scope.set.ReplacesThrough (scope.Passes particles) head name) →
        name ∈ own.map (·.name) ∨ name ∈ found.map (·.name) := by
    intro isReached
    rcases isReached with ⟨head, refers, reached⟩
    rcases (Particle.refers_iff contributed).mp refers with ⟨original, isOwn, hasReference, rfl⟩
    rw [← directNames]
    apply Scope.mem_of_reached expanded (List.mem_map_of_mem isOwn) hasReference
    apply reached.mono
    intro middle passes isDirect
    rw [directNames, ← Particle.declares_iff contributed] at isDirect
    rcases (Particle.refers_iff contributed).mp (passes isDirect) with
      ⟨peer, isPeer, hasReference, sameName⟩
    exact ⟨_, List.mem_map_of_mem isPeer, sameName, hasReference⟩
  constructor
  · intro isName
    rcases isName with (isOwn | isFound) | isNested
    · exact .inl isOwn
    · exact .inr (.inr (ofFound isFound))
    · exact .inr (.inl isNested)
  · intro isName
    rcases isName with isOwn | isNested | isReached
    · exact .inl (.inl isOwn)
    · exact .inr isNested
    · exact .inl (ofReached isReached)

/-! ## One more particle -/

namespace Scope

/-- The names that are found by way of `hidden` and in no other way: nothing among the
particles has them, and chains lead to them through `hidden` only, to which nothing
refers. -/
structure FoundOnlyThrough (scope : Scope) (particles : List Particle)
    (hidden name : ExpandedName) : Prop where
  notReferred : ¬scope.Refers particles hidden
  different : name ≠ hidden
  notDeclared : ¬scope.Declares particles name
  notNested : ¬scope.Nests particles name
  noOtherChain : ∀ head, scope.Refers particles head →
    ¬scope.set.ReplacesThrough
      (fun middle => scope.Passes particles middle ∧ middle ≠ hidden) head name

/-- The particle declares an element in place, and the name was found only through the
name of that element. -/
def Hides (scope : Scope) (particles : List Particle) (particle : Particle)
    (name : ExpandedName) : Prop :=
  ∃ declaration localName, particle = .element declaration ∧
    declaration.declared = .named localName ∧
      scope.FoundOnlyThrough particles
        (scope.localElementName localName declaration.form) name

variable {scope : Scope} {before after : List Particle} {particle : Particle}
  {name : ExpandedName}

theorem declares_insert :
    scope.Declares (before ++ particle :: after) name ↔
      scope.Declares [particle] name ∨ scope.Declares (before ++ after) name := by
  simp only [Declares, List.mem_append, List.mem_cons, List.not_mem_nil, or_false]
  grind

theorem refers_insert :
    scope.Refers (before ++ particle :: after) name ↔
      scope.Refers [particle] name ∨ scope.Refers (before ++ after) name := by
  simp only [Refers, List.mem_append, List.mem_cons, List.not_mem_nil, or_false]
  grind

theorem nests_insert :
    scope.Nests (before ++ particle :: after) name ↔
      scope.Nests [particle] name ∨ scope.Nests (before ++ after) name := by
  simp only [Nests, List.mem_append, List.mem_cons, List.not_mem_nil, or_false]
  grind

/-- A new particle that refers to whatever it declares stands in the way of no chain. -/
theorem Passes.insert (passes : scope.Passes (before ++ after) name)
    (passesItself : scope.Passes [particle] name) :
    scope.Passes (before ++ particle :: after) name := by
  intro declares
  rw [refers_insert]
  rcases declares_insert.mp declares with declaresNew | declaresOld
  · exact .inl (passesItself declaresNew)
  · exact .inr (passes declaresOld)

theorem declares_named {declaration : ElementDeclaration} {localName : String}
    (isNamed : declaration.declared = .named localName) :
    scope.Declares [.element declaration] name ↔
      name = scope.localElementName localName declaration.form := by
  simp [Declares, scope.declaredName_of_named isNamed, eq_comm]

theorem not_refers_named {declaration : ElementDeclaration} {localName : String}
    (isNamed : declaration.declared = .named localName) :
    ¬scope.Refers [.element declaration] name := by
  simp [Refers, isNamed]

end Scope

namespace ModelGroup

variable {scope : Scope} {compositor : Compositor} {occurrence : Occurrence}
  {before after : List Particle} {particle : Particle} {members more : List Member}

/-- If chains may lead through the new particle as far as it is concerned, all names
are kept. -/
theorem name_mem_of_passes
    (compiled : ModelGroup.members compositor scope ⟨occurrence, before ++ after⟩ = .ok members)
    (compiledMore : ModelGroup.members compositor scope
      ⟨occurrence, before ++ particle :: after⟩ = .ok more)
    {name : ExpandedName} (isName : name ∈ members.map (·.name))
    (passes : ∀ head, scope.Refers (before ++ after) head →
      scope.set.ReplacesThrough (scope.Passes (before ++ after)) head name →
        scope.set.ReplacesThrough
          (scope.Passes (before ++ particle :: after)) head name) :
    name ∈ more.map (·.name) := by
  rw [mem_names_iff compiledMore, Scope.declares_insert, Scope.nests_insert]
  rcases (mem_names_iff compiled).mp isName with declares | nests | ⟨head, refers, reached⟩
  · exact .inl (.inr declares)
  · exact .inr (.inl (.inr nests))
  · have stillRefers : scope.Refers (before ++ particle :: after) head :=
      Scope.refers_insert.mpr (.inr refers)
    exact .inr (.inr ⟨head, stillRefers, passes head refers reached⟩)

/-- What is found only through a new element is not found any more. -/
theorem not_mem_of_hides
    (compiledMore : ModelGroup.members compositor scope
      ⟨occurrence, before ++ particle :: after⟩ = .ok more)
    {name : ExpandedName} (hides : scope.Hides (before ++ after) particle name) :
    name ∉ more.map (·.name) := by
  rcases hides with ⟨declaration, localName, isElement, isNamed, found⟩
  subst isElement
  have refersAsBefore : ∀ head,
      scope.Refers (before ++ .element declaration :: after) head →
        scope.Refers (before ++ after) head := by
    intro head refers
    exact (Scope.refers_insert.mp refers).resolve_left (Scope.not_refers_named isNamed)
  intro isName
  rcases (mem_names_iff compiledMore).mp isName with declares | nests | ⟨head, refers, reached⟩
  · rcases Scope.declares_insert.mp declares with declaresNew | declaresOld
    · exact found.different ((Scope.declares_named isNamed).mp declaresNew)
    · exact found.notDeclared declaresOld
  · rcases Scope.nests_insert.mp nests with nestsNew | nestsOld
    · simp [Scope.Nests] at nestsNew
    · exact found.notNested nestsOld
  · apply found.noOtherChain head (refersAsBefore head refers)
    apply reached.mono
    intro middle passes
    constructor
    · intro declares
      exact refersAsBefore middle (passes (Scope.declares_insert.mpr (.inr declares)))
    · intro isHidden
      have declaresNew := (Scope.declares_named isNamed).mpr isHidden
      have refersNew := refersAsBefore middle (passes (Scope.declares_insert.mpr (.inl declaresNew)))
      exact found.notReferred (isHidden ▸ refersNew)

/-- A name that is lost was found only through an element that the new particle
declares in place. -/
theorem hides_of_not_mem
    (compiled : ModelGroup.members compositor scope ⟨occurrence, before ++ after⟩ = .ok members)
    (compiledMore : ModelGroup.members compositor scope
      ⟨occurrence, before ++ particle :: after⟩ = .ok more)
    {name : ExpandedName} (isName : name ∈ members.map (·.name))
    (isLost : name ∉ more.map (·.name)) : scope.Hides (before ++ after) particle name := by
  -- Chains stay as they are if the particle declares nothing that it does not refer to.
  have blocks : ¬∀ middle, scope.Passes [particle] middle := by
    intro passesItself
    apply isLost
    apply name_mem_of_passes compiled compiledMore isName
    intro head _ reached
    exact reached.mono fun middle passes => passes.insert (passesItself middle)
  cases particle with
  | group compositor group =>
      refine absurd ?_ blocks
      intro middle declares
      simp [Scope.Declares] at declares
  | element declaration =>
      cases isDeclared : declaration.declared with
      | reference reference =>
          refine absurd ?_ blocks
          intro middle declares
          rcases declares with ⟨same, isParticle, declared⟩
          cases List.mem_singleton.mp isParticle
          rw [scope.declaredName_of_reference isDeclared] at declared
          exact ⟨declaration, reference, List.mem_singleton_self _, isDeclared, declared⟩
      | named localName =>
          have passesOthers : ∀ middle,
              middle ≠ scope.localElementName localName declaration.form →
                scope.Passes [.element declaration] middle := by
            intro middle different declares
            exact absurd ((Scope.declares_named isDeclared).mp declares) different
          refine ⟨declaration, localName, rfl, isDeclared, ?_, ?_, ?_, ?_, ?_⟩
          · intro refers
            apply isLost
            apply name_mem_of_passes compiled compiledMore isName
            intro head _ reached
            apply reached.mono
            intro middle passes
            by_cases isHidden : middle = scope.localElementName localName declaration.form
            · intro _
              exact Scope.refers_insert.mpr (.inr (isHidden ▸ refers))
            · exact passes.insert (passesOthers middle isHidden)
          · intro isHidden
            apply isLost
            rw [mem_names_iff compiledMore, Scope.declares_insert]
            exact .inl (.inl ((Scope.declares_named isDeclared).mpr isHidden))
          · intro declares
            apply isLost
            rw [mem_names_iff compiledMore, Scope.declares_insert]
            exact .inl (.inr declares)
          · intro nests
            apply isLost
            rw [mem_names_iff compiledMore, Scope.nests_insert]
            exact .inr (.inl (.inr nests))
          · intro head refers reached
            apply isLost
            rw [mem_names_iff compiledMore]
            refine .inr (.inr ⟨head, Scope.refers_insert.mpr (.inr refers), ?_⟩)
            apply reached.mono
            intro middle passes
            exact passes.1.insert (passesOthers middle passes.2)

/-- A name is lost by putting a particle into a group if, and only if, the particle
declares an element in place and the name was found only through the name of that
element. -/
theorem lost_iff_hidden
    (compiled : ModelGroup.members compositor scope ⟨occurrence, before ++ after⟩ = .ok members)
    (compiledMore : ModelGroup.members compositor scope
      ⟨occurrence, before ++ particle :: after⟩ = .ok more) :
    ∀ name ∈ members.map (·.name),
      name ∉ more.map (·.name) ↔ scope.Hides (before ++ after) particle name := by
  intro name isName
  constructor
  · exact hides_of_not_mem compiled compiledMore isName
  · exact not_mem_of_hides compiledMore

end ModelGroup

namespace Ring

def referenceToA : Particle :=
  .element ⟨.reference (reference "A"), none, none, [], .unstated, none⟩

/-- An element that has the name of a substitute and is declared in place. -/
def localB : Particle :=
  .element ⟨.named "B", some ⟨some "xs", "string"⟩, none, [], .unstated, some .qualified⟩

def membersOfA : List Member :=
  [member "A", member "B", member "C"]

def membersOfAAndB : List Member :=
  [member "A", { member "B" with reference := none }]

/-- `C` replaces `B`, and `B` is not replaced where it is declared in place. -/
theorem localB_hides_C :
    ModelGroup.members .sequence scope ⟨.unstated, [referenceToA]⟩ = .ok membersOfA ∧
      ModelGroup.members .sequence scope ⟨.unstated, [localB, referenceToA]⟩ =
        .ok membersOfAAndB ∧
      name "C" ∈ membersOfA.map (·.name) ∧
      scope.Hides [referenceToA] localB (name "C") := by
  have compiled : ModelGroup.members .sequence scope ⟨.unstated, [referenceToA]⟩ =
      .ok membersOfA := by
    decide +kernel
  have compiledMore : ModelGroup.members .sequence scope
      ⟨.unstated, [localB, referenceToA]⟩ = .ok membersOfAAndB := by
    decide +kernel
  have isMember : name "C" ∈ membersOfA.map (·.name) := by decide +kernel
  refine ⟨compiled, compiledMore, isMember, ?_⟩
  apply (@ModelGroup.lost_iff_hidden scope .sequence .unstated [] [referenceToA] localB
    membersOfA membersOfAAndB compiled compiledMore (name "C") isMember).mp
  decide +kernel

/-- So it is not true that a group keeps all its names whatever is put into it. -/
theorem names_not_always_kept :
    ¬∀ (scope : Scope) (compositor : Compositor) (occurrence : Occurrence)
        (before after : List Particle) (particle : Particle) (members more : List Member),
      ModelGroup.members compositor scope ⟨occurrence, before ++ after⟩ = .ok members →
        ModelGroup.members compositor scope ⟨occurrence, before ++ particle :: after⟩ =
          .ok more →
          ∀ name ∈ members.map (·.name), name ∈ more.map (·.name) := by
  intro kept
  have isKept := kept scope .sequence .unstated [] [referenceToA] localB membersOfA
    membersOfAAndB (by decide +kernel) (by decide +kernel) (name "C") (by decide +kernel)
  exact absurd isKept (by decide +kernel)

end Ring

end SchemaContent
