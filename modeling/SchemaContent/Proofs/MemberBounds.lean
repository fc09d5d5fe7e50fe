import SchemaContent.ContentModel
import SchemaContent.Proofs.OnePass
import SchemaContent.Proofs.SubstitutionClosure

/-! # Where the bounds of a member come from

Each member of a group has its bounds from one element declaration inside the
group: its own, or that of an element it stands in for. Of what encloses the
declaration only the choices count, wherever they stand. -/

namespace SchemaContent

/-! ## Declarations inside a group -/

def Compositor.choices (compositor : Compositor) (occurrence : Occurrence) :
    List Occurrence :=
  match compositor with
  | .choice => [occurrence]
  | _ => []

/-- An element declaration stands inside a group, enclosed by these choices, the
innermost first. What is declared inside anonymous types is not inside the group. -/
inductive ModelGroup.Holds :
    Compositor → ModelGroup → ElementDeclaration → List Occurrence → Prop
  | element {compositor : Compositor} {group : ModelGroup}
      {declaration : ElementDeclaration}
      (inside : .element declaration ∈ group.particles) :
      Holds compositor group declaration (compositor.choices group.occurrence)
  | nested {compositor inner : Compositor} {group part : ModelGroup}
      {declaration : ElementDeclaration} {choices : List Occurrence}
      (inside : .group inner part ∈ group.particles)
      (holds : Holds inner part declaration choices) :
      Holds compositor group declaration
        (choices ++ compositor.choices group.occurrence)

/-! ## Bounds amid choices -/

/-- Declared bounds amid choices: one that is unbounded takes the upper bound away,
and any of them makes the lower bound nought unless it is stated. -/
def Occurrence.amid (declared : Occurrence) (choices : List Occurrence) : Occurrence where
  min := if choices = [] then declared.min else some (declared.min.getD 0)
  max := if ∃ choice ∈ choices, choice.max = some .unbounded then some .unbounded
    else declared.max

@[simp] theorem Occurrence.amid_nil (declared : Occurrence) : declared.amid [] = declared := by
  simp [amid]

/-- The rule of one more group around is that of its choices. -/
theorem Occurrence.within_amid (declared : Occurrence) (choices : List Occurrence)
    (compositor : Compositor) (occurrence : Occurrence) :
    (declared.amid choices).within compositor occurrence =
      declared.amid (choices ++ compositor.choices occurrence) := by
  cases compositor with
  | sequence => simp [within, Compositor.choices]
  | all => simp [within, Compositor.choices]
  | choice =>
      by_cases noChoice : choices = [] <;>
        by_cases isUnbounded : occurrence.max = some .unbounded <;>
        simp [within, Compositor.choices, amid, noChoice, isUnbounded]

/-! ## Tracing members back -/

/-- A member is traced back to a declaration inside a group: it has the declared
name or replaces it, and it has the declared bounds amid the enclosing choices. -/
def Traced (compositor : Compositor) (scope : Scope) (group : ModelGroup)
    (member : Member) : Prop :=
  ∃ declaration choices name,
    group.Holds compositor declaration choices ∧
      scope.declaredName declaration = .ok name ∧
      (name = member.name ∨ scope.set.ReplacesThrough (fun _ => True) name member.name) ∧
      member.occurrence = declaration.occurrence.amid choices

/-- What the flattening of a group consists of: its elements, what may stand in for
them, and what is in the groups inside it, all under the group's own rule. -/
private theorem traced_of_parts {compositor : Compositor} {scope : Scope}
    {occurrence : Occurrence} {particles : List Particle} {own nested : List Member}
    {substitutes : List Member}
    (ofElement : ∀ member ∈ own, ∃ declaration,
      .element declaration ∈ particles ∧ declaration.member scope = .ok member)
    (ofGroup : ∀ member ∈ nested, ∃ inner part,
      .group inner part ∈ particles ∧ Traced inner scope part member)
    (expanded : scope.expand (own.map (·.within compositor occurrence)) = .ok substitutes) :
    ∀ member ∈ own.map (·.within compositor occurrence) ++ substitutes ++
        nested.map (·.within compositor occurrence),
      Traced compositor scope ⟨occurrence, particles⟩ member := by
  have ofDirect : ∀ direct ∈ own.map (·.within compositor occurrence),
      ∃ declaration, .element declaration ∈ particles ∧
        scope.declaredName declaration = .ok direct.name ∧
        direct.occurrence =
          declaration.occurrence.amid (compositor.choices occurrence) := by
    intro direct isDirect
    obtain ⟨member, isOwn, rfl⟩ := List.mem_map.mp isDirect
    obtain ⟨declaration, inside, made⟩ := ofElement member isOwn
    have ⟨declared, sameBounds⟩ := ElementDeclaration.of_member made
    refine ⟨declaration, inside, declared, ?_⟩
    have ruled := declaration.occurrence.within_amid [] compositor occurrence
    rw [Occurrence.amid_nil, List.nil_append] at ruled
    rw [← ruled, ← sameBounds]
    rfl
  intro member isMember
  rcases List.mem_append.mp isMember with isMember | isNested
  · rcases List.mem_append.mp isMember with isDirect | isSubstitute
    · obtain ⟨declaration, inside, declared, bounds⟩ := ofDirect member isDirect
      exact ⟨declaration, _, _, .element inside, declared, .inl rfl, bounds⟩
    · -- Its head is under the group's rule already, and hands its bounds on.
      obtain ⟨head, isDirect, _, sameBounds, reached⟩ :=
        Scope.exists_head_of_mem_expand expanded isSubstitute
      obtain ⟨declaration, inside, declared, bounds⟩ := ofDirect head isDirect
      refine ⟨declaration, _, _, .element inside, declared, .inr ?_, ?_⟩
      · exact reached.mono fun _ _ => trivial
      · rw [← sameBounds]
        exact bounds
  · obtain ⟨part, isPart, rfl⟩ := List.mem_map.mp isNested
    obtain ⟨inner, group, inside, declaration, choices, name, holds, declared, named,
      bounds⟩ := ofGroup part isPart
    refine ⟨declaration, _, name, .nested inside holds, declared, named, ?_⟩
    rw [← Occurrence.within_amid, ← bounds]
    rfl

mutual

private theorem traced_of_flattening (compositor : Compositor) (scope : Scope) :
    ∀ (group : ModelGroup) {flat : List Member},
      group.flattening compositor scope = .ok flat →
        ∀ member ∈ flat, Traced compositor scope group member
  | ⟨occurrence, particles⟩, flat, flattened => by
      rw [ModelGroup.flattening] at flattened
      obtain ⟨⟨own, nested⟩, contributed, flattened⟩ := exists_of_bind_eq_ok flattened
      obtain ⟨substitutes, expanded, flattened⟩ := exists_of_bind_eq_ok flattened
      cases flattened
      have ⟨ofElement, ofGroup⟩ := traced_of_flattenings scope particles contributed
      exact traced_of_parts ofElement ofGroup expanded

private theorem traced_of_flattenings (scope : Scope) :
    ∀ (particles : List Particle) {contributions : List Member × List Member},
      Particle.flattenings scope particles = .ok contributions →
        (∀ member ∈ contributions.1, ∃ declaration,
          .element declaration ∈ particles ∧ declaration.member scope = .ok member) ∧
        (∀ member ∈ contributions.2, ∃ inner part,
          .group inner part ∈ particles ∧ Traced inner scope part member)
  | [], contributions, flattened => by
      rw [Particle.flattenings] at flattened
      cases flattened
      constructor <;> exact fun _ isMember => nomatch isMember
  | .element declaration :: rest, contributions, flattened => by
      rw [Particle.flattenings] at flattened
      obtain ⟨first, made, flattened⟩ := exists_of_bind_eq_ok flattened
      obtain ⟨⟨own, nested⟩, contributed, flattened⟩ := exists_of_bind_eq_ok flattened
      cases flattened
      have ⟨ofElement, ofGroup⟩ := traced_of_flattenings scope rest contributed
      constructor
      · intro member isMember
        rcases List.mem_cons.mp isMember with rfl | isLater
        · exact ⟨declaration, List.mem_cons_self, made⟩
        · obtain ⟨other, inside, made⟩ := ofElement member isLater
          exact ⟨other, List.mem_cons_of_mem _ inside, made⟩
      · intro member isMember
        obtain ⟨inner, part, inside, traced⟩ := ofGroup member isMember
        exact ⟨inner, part, List.mem_cons_of_mem _ inside, traced⟩
  | .group compositor group :: rest, contributions, flattened => by
      rw [Particle.flattenings] at flattened
      obtain ⟨flat, ofFirst, flattened⟩ := exists_of_bind_eq_ok flattened
      obtain ⟨⟨own, nested⟩, contributed, flattened⟩ := exists_of_bind_eq_ok flattened
      cases flattened
      have ⟨ofElement, ofGroup⟩ := traced_of_flattenings scope rest contributed
      constructor
      · intro member isMember
        obtain ⟨declaration, inside, made⟩ := ofElement member isMember
        exact ⟨declaration, List.mem_cons_of_mem _ inside, made⟩
      · intro member isMember
        rcases List.mem_append.mp isMember with isFirst | isLater
        · exact ⟨compositor, group, List.mem_cons_self,
            traced_of_flattening compositor scope group ofFirst member isFirst⟩
        · obtain ⟨inner, part, inside, traced⟩ := ofGroup member isLater
          exact ⟨inner, part, List.mem_cons_of_mem _ inside, traced⟩

end

theorem ModelGroup.Holds.own_choice_mem {group : ModelGroup}
    {declaration : ElementDeclaration} {choices : List Occurrence}
    (holds : group.Holds .choice declaration choices) : group.occurrence ∈ choices := by
  cases holds with
  | element => exact List.mem_singleton_self _
  | nested => exact List.mem_append_right _ (List.mem_singleton_self _)

/-- Each member has its bounds from an element declaration inside the group, which
has its name or a name that it replaces: the upper bound is gone if a choice around
the declaration is unbounded, and the lower bound is nought if there is a choice
around it and none is stated. So a choice leaves no lower bound out, and an
unbounded one no upper bound in force. -/
theorem ModelGroup.bounds_of_mem_members {compositor : Compositor} {scope : Scope}
    {group : ModelGroup} {members : List Member}
    (compiled : group.members compositor scope = .ok members) {member : Member}
    (isMember : member ∈ members) :
    (∃ declaration choices name,
      group.Holds compositor declaration choices ∧
        scope.declaredName declaration = .ok name ∧
        (name = member.name ∨
          scope.set.ReplacesThrough (fun _ => True) name member.name) ∧
        (member.occurrence.max =
          if ∃ choice ∈ choices, choice.max = some .unbounded then some .unbounded
          else declaration.occurrence.max) ∧
        member.occurrence.min =
          match declaration.occurrence.min with
          | some stated => some stated
          | none => if choices = [] then none else some 0) ∧
      (compositor = .choice → member.occurrence.min.isSome) ∧
      (compositor = .choice → group.occurrence.max = some .unbounded →
        member.occurrence.max = some .unbounded) := by
  obtain ⟨flat, flattened, canonical⟩ :=
    (group.members_related compositor scope).exists_of_eq_ok compiled
  have isFlat : member ∈ flat := Member.mem_of_mem_canonical (canonical ▸ isMember)
  obtain ⟨declaration, choices, name, holds, declared, named, bounds⟩ :=
    traced_of_flattening compositor scope group flattened member isFlat
  refine ⟨⟨declaration, choices, name, holds, declared, named, ?_, ?_⟩, ?_, ?_⟩
  · rw [bounds]
    rfl
  · rw [bounds, Occurrence.amid]
    cases declaration.occurrence.min <;> by_cases noChoice : choices = [] <;>
      simp [noChoice]
  · rintro rfl
    have isChoice : choices ≠ [] := List.ne_nil_of_mem holds.own_choice_mem
    rw [bounds, Occurrence.amid, if_neg isChoice]
    rfl
  · rintro rfl isUnbounded
    have unboundedAround : ∃ choice ∈ choices, choice.max = some .unbounded :=
      ⟨_, holds.own_choice_mem, isUnbounded⟩
    rw [bounds, Occurrence.amid]
    exact if_pos unboundedAround

namespace Ring

def choice : ModelGroup where
  occurrence := ⟨none, some .unbounded⟩
  particles := [
    .group .sequence ⟨.unstated, [
      .element ⟨.reference (reference "A"), none, none, [], .unstated, none⟩]⟩,
    .element (declaration "d" (some ⟨some "xs", "string"⟩) [])]

def chosen (localName : String) : Member :=
  { member localName with occurrence := ⟨some 0, some .unbounded⟩ }

/-- What the choice holds: a reference with its substitutes, and the element, which is
unqualified. -/
def choiceMembers : List Member :=
  [chosen "A", chosen "B", chosen "C",
    { chosen "d" with name := ⟨none, "d"⟩, reference := none }]

theorem bounds_of_ring_substitute :
    choice.members .choice scope = .ok choiceMembers ∧
      chosen "C" ∈ choiceMembers ∧
        (∃ declaration choices name,
          choice.Holds .choice declaration choices ∧
            scope.declaredName declaration = .ok name ∧
            (name = Ring.name "C" ∨
              set.ReplacesThrough (fun _ => True) name (Ring.name "C"))) ∧
          (chosen "C").occurrence.min.isSome ∧
            (chosen "C").occurrence.max = some .unbounded := by
  have compiled : choice.members .choice scope = .ok choiceMembers := by decide +kernel
  have isMember : chosen "C" ∈ choiceMembers := by decide +kernel
  have ⟨origin, bounded, unbounded⟩ := ModelGroup.bounds_of_mem_members compiled isMember
  obtain ⟨declaration, choices, name, holds, declared, named, _⟩ := origin
  exact ⟨compiled, isMember, ⟨declaration, choices, name, holds, declared, named⟩,
    bounded rfl, unbounded rfl rfl⟩

end Ring

end SchemaContent
