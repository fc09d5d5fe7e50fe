import SchemaContent.ContentModel
import SchemaContent.Proofs.CanonicalOrder
import SchemaContent.Proofs.RelatedRuns

/-! # Flattening in one pass

A group can be flattened without sorting or dropping anything on the way: its own
elements in document order, then what may stand in for them, then the groups
inside it in document order. The canonical list of that is the list of members,
although the members of each group are made canonical before they are handed to
the group around it. -/

namespace SchemaContent

mutual

/-- What a group contributes, in one pass. Faults are met in document order, and
those of the substitutes last. -/
def ModelGroup.flattening (compositor : Compositor) (scope : Scope) :
    ModelGroup → Except SchemaError (List Member)
  | ⟨occurrence, particles⟩ => do
    let (own, nested) ← Particle.flattenings scope particles
    let direct := own.map (·.within compositor occurrence)
    let substitutes ← scope.expand direct
    return direct ++ substitutes ++ nested.map (·.within compositor occurrence)

def Particle.flattenings (scope : Scope) :
    List Particle → Except SchemaError (List Member × List Member)
  | [] => return ([], [])
  | .element declaration :: rest => do
    let member ← declaration.member scope
    let (own, nested) ← Particle.flattenings scope rest
    return (member :: own, nested)
  | .group compositor group :: rest => do
    let members ← group.flattening compositor scope
    let (own, nested) ← Particle.flattenings scope rest
    return (own, members ++ nested)

end

private def SameContributions (compiled flat : List Member × List Member) : Prop :=
  compiled.1 = flat.1 ∧
    ∀ name, Member.named name compiled.2 = Member.named name flat.2

/-- Taking the canonical list of the groups' contributions first changes nothing
in the canonical list of the whole: a group's own rule leaves names alone, and the
canonical list keeps the first member of each name. -/
private theorem gather_related (scope : Scope) (compositor : Compositor)
    (occurrence : Occurrence) {compiled flat : List Member × List Member}
    (same : SameContributions compiled flat) :
    Related Eq (fun members flattening => members = Member.canonical flattening)
      (scope.gather compositor occurrence compiled.1 compiled.2)
      (do
        let direct := flat.1.map (·.within compositor occurrence)
        let substitutes ← scope.expand direct
        return direct ++ substitutes ++
          flat.2.map (·.within compositor occurrence)) := by
  obtain ⟨sameOwn, sameNamed⟩ := same
  rw [Scope.gather, sameOwn]
  apply Related.bind (Related.refl _)
  intro substitutes _ equal
  subst equal
  apply Related.ok
  apply Member.canonical_eq_of_named_eq
  intro name
  have keepsName : ∀ member : Member,
      (member.within compositor occurrence).name = member.name := fun _ => rfl
  simp only [Member.named_append, Member.named_map keepsName, sameNamed]

mutual

theorem ModelGroup.members_related (compositor : Compositor) (scope : Scope) :
    ∀ group : ModelGroup,
      Related Eq (fun members flattening => members = Member.canonical flattening)
        (group.members compositor scope) (group.flattening compositor scope)
  | ⟨occurrence, particles⟩ => by
      rw [ModelGroup.members, ModelGroup.flattening]
      apply Related.bind (Particle.contributions_related scope particles)
      intro compiled flat same
      exact gather_related scope compositor occurrence same

private theorem Particle.contributions_related (scope : Scope) :
    ∀ particles : List Particle,
      Related Eq SameContributions
        (Particle.contributions scope particles) (Particle.flattenings scope particles)
  | [] => by
      rw [Particle.contributions, Particle.flattenings]
      exact .ok ⟨rfl, fun _ => rfl⟩
  | .element declaration :: rest => by
      rw [Particle.contributions, Particle.flattenings]
      apply Related.bind (Related.refl _)
      intro member _ equal
      subst equal
      apply Related.bind (Particle.contributions_related scope rest)
      intro compiled flat same
      exact .ok ⟨congrArg (member :: ·) same.1, same.2⟩
  | .group compositor group :: rest => by
      rw [Particle.contributions, Particle.flattenings]
      apply Related.bind (group.members_related compositor scope)
      intro members flattening canonical
      apply Related.bind (Particle.contributions_related scope rest)
      intro compiled flat same
      refine .ok ⟨same.1, fun name => ?_⟩
      rw [Member.named_append, Member.named_append, canonical,
        Member.named_canonical, same.2]

end

/-- The members of a group are the canonical list of its flattening in one pass,
and if one of the two fails, both fail with the same fault. -/
theorem ModelGroup.members_eq_canonical_flattening (compositor : Compositor)
    (scope : Scope) (group : ModelGroup) :
    group.members compositor scope =
      Member.canonical <$> group.flattening compositor scope := by
  apply Related.eq
  rw [← id_map (group.members compositor scope)]
  apply Related.map (group.members_related compositor scope)
  intro members flattening canonical
  exact canonical

end SchemaContent
