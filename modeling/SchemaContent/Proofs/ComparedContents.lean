import SchemaContent.ContentModel
import SchemaContent.Proofs.Contents
import SchemaContent.Proofs.Registration

/-! # Contents in two sets

The steps by which a content is compiled do not depend on the set it is compiled in.
Only elements, named types and what groups gather do, as they are looked up there. So
two sets that compare in these compare in all contents, in whatever way runs are
compared as long as it goes through a sequence of steps. -/

namespace SchemaContent

/-- A way to compare runs: each run compares with itself, and what compares step by
step compares as a whole. -/
structure Comparison where
  Holds : ∀ {α : Type}, Except SchemaError α → Except SchemaError α → Prop
  refl : ∀ {α : Type} (run : Except SchemaError α), Holds run run
  bind : ∀ {α β : Type} {run other : Except SchemaError α}
    {next peer : α → Except SchemaError β}, Holds run other →
      (∀ value, run = .ok value → Holds (next value) (peer value)) →
        Holds (run >>= next) (other >>= peer)

/-- An element that both sets find, at whatever place, or that both miss. Where a run
that fails compares with any other, it may be missed in the first set only. -/
inductive Comparison.Element (comparison : Comparison) (set other : SchemaSet)
    (name : ExpandedName) : Prop
  | found {component : Component ElementDeclaration} (position : Nat)
      (isFound : set.element? name = some component)
      (isFoundToo : other.element? name = some (component.placed position))
  | missing (isMissing : set.element? name = none)
      (isMissingToo : other.element? name = none)
  | mended (isMissing : set.element? name = none)
      (mends : ∀ {α : Type} (fault : SchemaError) (run : Except SchemaError α),
        comparison.Holds (.error fault) run)

/-- Two sets compare in what is looked up in them. -/
structure Comparison.Lookups (comparison : Comparison) (set other : SchemaSet) : Prop where
  element : ∀ name, comparison.Element set other name
  namedType : ∀ name, comparison.Holds (set.namedType name) (other.namedType name)

/-- Two sets compare in what groups of a schema gather, too. -/
structure Comparison.Gathers (comparison : Comparison) (set other : SchemaSet)
    (schema : Schema) : Prop extends comparison.Lookups set other where
  gather : ∀ owner compositor occurrence own nested,
    (∀ member ∈ own, Scope.Contributes ⟨set, schema, owner⟩ member) → comparison.Holds
      (Scope.gather ⟨set, schema, owner⟩ compositor occurrence own nested)
      (Scope.gather ⟨other, schema, owner⟩ compositor occurrence own nested)

variable {comparison : Comparison} {set other : SchemaSet} {schema : Schema}

namespace Comparison

theorem map {α β : Type} {run peer : Except SchemaError α} (change : α → β)
    (compared : comparison.Holds run peer) :
    comparison.Holds (change <$> run) (change <$> peer) := by
  rw [map_eq_pure_bind, map_eq_pure_bind]
  exact comparison.bind compared fun value _ => comparison.refl _

theorem mapM {α β : Type} {step peer : α → Except SchemaError β} {values : List α}
    (compared : ∀ value ∈ values, comparison.Holds (step value) (peer value)) :
    comparison.Holds (values.mapM step) (values.mapM peer) := by
  induction values with
  | nil => exact comparison.refl _
  | cons first rest induction =>
      rw [List.mapM_cons, List.mapM_cons]
      apply comparison.bind (compared first List.mem_cons_self)
      intro result _
      apply comparison.bind
        (induction fun value isLater => compared value (List.mem_cons_of_mem _ isLater))
      intro results _
      exact comparison.refl _

end Comparison

/-! ## Types and references -/

namespace Comparison.Lookups

/-- At a head that both sets find, the walks go on in the same way. -/
theorem outerType_of_found (lookups : comparison.Lookups set other)
    {seen : List ExpandedName} {declaration : ElementDeclaration} {reference : Reference}
    {rest : List Reference} {head : ExpandedName} {component : Component ElementDeclaration}
    (untyped : declaration.typeName = none)
    (heads : declaration.substitutionGroup = reference :: rest)
    (resolved : schema.resolve reference = .ok head) (new : head ∉ seen)
    (found : set.element? head = some component)
    (onward : component.definition.anonymousType = none → comparison.Holds
      (set.outerType (head :: seen) component.schema component.definition)
      (other.outerType (head :: seen) component.schema component.definition)) :
    comparison.Holds (set.outerType seen schema declaration)
      (other.outerType seen schema declaration) := by
  rw [SchemaSet.outerType_of_head untyped heads resolved new,
    SchemaSet.outerType_of_head untyped heads resolved new]
  cases lookups.element head with
  | missing isMissing | mended isMissing =>
      rw [isMissing] at found
      cases found
  | found position isFound isFoundToo =>
      cases isFound.symm.trans found
      simp only [isFound, isFoundToo, Component.definition_placed, Component.schema_placed]
      cases anonymous : component.definition.anonymousType with
      | none => exact onward anonymous
      | some type => cases type <;> exact comparison.refl _

/-- The walks along heads meet the same declarations. -/
theorem outerType (lookups : comparison.Lookups set other) (seen : List ExpandedName)
    (schema : Schema) (declaration : ElementDeclaration) :
    comparison.Holds (set.outerType seen schema declaration)
      (other.outerType seen schema declaration) := by
  induction seen, schema, declaration using SchemaSet.outerType.induct set with
  | case1 seen schema declaration reference typed fault failed =>
      rw [SchemaSet.outerType, SchemaSet.outerType]
      simp only [typed, failed]
      exact comparison.refl _
  | case2 seen schema declaration reference typed name resolved =>
      rw [SchemaSet.outerType, SchemaSet.outerType]
      simp only [typed, resolved]
      exact lookups.namedType name
  | case3 seen schema declaration noHead untyped =>
      rw [SchemaSet.outerType, SchemaSet.outerType]
      simp only [untyped, noHead]
      exact comparison.refl _
  | case4 seen schema declaration reference rest heads untyped fault failed =>
      rw [SchemaSet.outerType, SchemaSet.outerType]
      simp only [untyped, heads, failed]
      exact comparison.refl _
  | case5 seen schema declaration reference rest heads untyped name resolved old =>
      rw [SchemaSet.outerType, SchemaSet.outerType]
      simp only [untyped, heads, resolved, old, dif_pos]
      exact comparison.refl _
  | case6 seen schema declaration reference rest heads untyped name resolved new missing =>
      rw [SchemaSet.outerType_of_head untyped heads resolved new,
        SchemaSet.outerType_of_head untyped heads resolved new]
      cases lookups.element name with
      | missing isMissing isMissingToo =>
          rw [isMissing, isMissingToo]
          exact comparison.refl _
      | mended isMissing mends =>
          rw [isMissing]
          exact mends _ _
      | found position isFound =>
          rw [missing] at isFound
          cases isFound
  | case7 seen schema declaration reference rest heads untyped name resolved new component
      found simple =>
      apply lookups.outerType_of_found untyped heads resolved new found
      rw [simple]
      intro noType
      cases noType
  | case8 seen schema declaration reference rest heads untyped name resolved new component
      found definition complex =>
      apply lookups.outerType_of_found untyped heads resolved new found
      rw [complex]
      intro noType
      cases noType
  | case9 seen schema declaration reference rest heads untyped name resolved new component
      found noType induction =>
      apply lookups.outerType_of_found untyped heads resolved new found
      intro _
      exact induction

theorem elementType (lookups : comparison.Lookups set other)
    (component : Component ElementDeclaration) (position : Nat) :
    comparison.Holds (set.elementType component)
      (other.elementType (component.placed position)) := by
  rw [SchemaSet.elementType, SchemaSet.elementType]
  simp only [Component.definition_placed, Component.schema_placed, Component.name_placed]
  split
  · exact comparison.refl _
  · exact comparison.refl _
  · exact lookups.outerType _ _ _

theorem refer (lookups : comparison.Lookups set other) (schema : Schema) (owner : Owner)
    (reference : Reference) (name : ExpandedName) (occurrence : Occurrence) :
    comparison.Holds (Scope.refer ⟨set, schema, owner⟩ reference name occurrence)
      (Scope.refer ⟨other, schema, owner⟩ reference name occurrence) := by
  rw [Scope.refer, Scope.refer]
  cases lookups.element name with
  | missing isMissing isMissingToo =>
      simp only [isMissing, isMissingToo]
      exact comparison.refl _
  | mended isMissing mends =>
      simp only [isMissing]
      exact mends _ _
  | found position isFound isFoundToo =>
      simp only [isFound, isFoundToo]
      exact comparison.bind (lookups.elementType _ position) fun _ _ => comparison.refl _

end Comparison.Lookups

/-! ## Contents

By induction on the tree of the content, whose functions take the same steps in both
sets. -/

mutual

theorem Particle.members_compare (gathers : comparison.Gathers set other schema)
    (owner : Owner) : ∀ particle : Particle, comparison.Holds
      (particle.members ⟨set, schema, owner⟩) (particle.members ⟨other, schema, owner⟩)
  | .element declaration => by
      rw [Particle.members, Particle.members]
      exact comparison.bind (declaration.member_compare gathers owner)
        fun member _ => comparison.refl _
  | .group compositor group => by
      rw [Particle.members, Particle.members]
      exact group.members_compare gathers owner compositor

theorem ModelGroup.members_compare (gathers : comparison.Gathers set other schema)
    (owner : Owner) (compositor : Compositor) : ∀ group : ModelGroup, comparison.Holds
      (group.members compositor ⟨set, schema, owner⟩)
      (group.members compositor ⟨other, schema, owner⟩)
  | ⟨occurrence, particles⟩ => by
      rw [ModelGroup.members, ModelGroup.members]
      apply comparison.bind (Particle.contributions_compare gathers owner particles)
      intro contributed isContributed
      apply gathers.gather
      exact (Particle.contributes_of_mem_contributions _ particles isContributed).1

theorem Particle.contributions_compare (gathers : comparison.Gathers set other schema)
    (owner : Owner) : ∀ particles : List Particle, comparison.Holds
      (Particle.contributions ⟨set, schema, owner⟩ particles)
      (Particle.contributions ⟨other, schema, owner⟩ particles)
  | [] => by
      rw [Particle.contributions, Particle.contributions]
      exact comparison.refl _
  | .element declaration :: rest => by
      rw [Particle.contributions, Particle.contributions]
      apply comparison.bind (declaration.member_compare gathers owner)
      intro member _
      exact comparison.bind (Particle.contributions_compare gathers owner rest)
        fun contributed _ => comparison.refl _
  | .group compositor group :: rest => by
      rw [Particle.contributions, Particle.contributions]
      apply comparison.bind (group.members_compare gathers owner compositor)
      intro members _
      exact comparison.bind (Particle.contributions_compare gathers owner rest)
        fun contributed _ => comparison.refl _

theorem ElementDeclaration.member_compare (gathers : comparison.Gathers set other schema)
    (owner : Owner) : ∀ declaration : ElementDeclaration, comparison.Holds
      (declaration.member ⟨set, schema, owner⟩) (declaration.member ⟨other, schema, owner⟩)
  | ⟨.reference reference, typeName, anonymousType, substitutionGroup, occurrence,
      form⟩ => by
      rw [ElementDeclaration.member_reference, ElementDeclaration.member_reference]
      apply comparison.bind (comparison.refl _)
      intro name _
      exact gathers.refer schema owner reference name occurrence
  | ⟨.named localName, typeName, none, substitutionGroup, occurrence, form⟩ => by
      rw [ElementDeclaration.member_named, ElementDeclaration.member_named]
      exact comparison.bind (gathers.outerType [] schema _) fun type _ => comparison.refl _
  | ⟨.named localName, typeName, some .simple, substitutionGroup, occurrence, form⟩ => by
      rw [ElementDeclaration.member_named, ElementDeclaration.member_named]
      exact comparison.refl _
  | ⟨.named localName, typeName, some (.complex definition), substitutionGroup,
      occurrence, form⟩ => by
      rw [ElementDeclaration.member_named, ElementDeclaration.member_named]
      let name := Scope.localElementName ⟨set, schema, owner⟩ localName form
      have content := definition.members_compare gathers (.element name)
      exact comparison.bind (comparison.map MemberType.inline content)
        fun type _ => comparison.refl _

theorem ComplexType.members_compare (gathers : comparison.Gathers set other schema)
    (owner : Owner) : ∀ definition : ComplexType, comparison.Holds
      (definition.members ⟨set, schema, owner⟩) (definition.members ⟨other, schema, owner⟩)
  | ⟨_, some content⟩ => by
      rw [ComplexType.members, ComplexType.members]
      exact content.members_compare gathers owner
  | ⟨_, none⟩ => by
      rw [ComplexType.members, ComplexType.members]
      exact comparison.refl _

end

theorem OwnedType.model_compare (owned : OwnedType)
    (gathers : comparison.Gathers set other owned.schema) :
    comparison.Holds (owned.model set) (owned.model other) := by
  rw [model, model]
  exact comparison.bind (owned.definition.members_compare gathers owned.owner)
    fun members _ => comparison.refl _

end SchemaContent
