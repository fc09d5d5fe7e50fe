import SchemaContent.Proofs.ComparedContents
import SchemaContent.Proofs.Exploration
import SchemaContent.Proofs.Registration
import SchemaContent.Substitution

/-! # Sets in another order

Two sets of the same schemas tell the same about each name as long as no name is
declared twice. What they declare differs in places only, and places have no
influence on types, references and substitution. -/

namespace SchemaContent

/-- Runs compare if they are the same. -/
def Comparison.equal : Comparison where
  Holds := Eq
  refl _ := rfl
  bind {_ _ run _ _ _} same rest := by
    cases same
    cases run with
    | error fault => rfl
    | ok value => exact rest value rfl

namespace SchemaSet

theorem placed_replacements (set : SchemaSet) (head : ExpandedName) :
    (set.replacements head).map (Component.placed 0) =
      (set.elements.map (Component.placed 0)).flatMap fun component =>
        ((component.definition.substitutionGroup.filter fun reference =>
          (component.schema.resolve reference).toOption = some head).map fun _ =>
            component).filter fun component =>
              !component.schema.importsNamespace head.uri := by
  rw [replacements, substitutes, List.filter_flatMap, List.map_flatMap,
    List.flatMap_map]
  simp only [List.filter_map, List.map_map]
  rfl

/-- The same schemas, added in different orders, where nothing is shadowed. -/
structure Rearranged (set other : SchemaSet) : Prop where
  perm : set.schemas.Perm other.schemas
  distinct : DistinctNames set.schemas

namespace Rearranged

variable {set other : SchemaSet} (same : set.Rearranged other)

include same

/-! ## Lookups -/

theorem elements_perm :
    (set.elements.map (Component.placed 0)).Perm
      (other.elements.map (Component.placed 0)) := by
  rw [elements_eq_declared, elements_eq_declared]
  exact Component.declared_perm _ same.perm

theorem element?_eq (name : ExpandedName) :
    (set.element? name).map (Component.placed 0) =
      (other.element? name).map (Component.placed 0) := by
  have distinctNames := nodup_elements same.distinct
  rw [elements_eq_declared] at distinctNames
  rw [element?, element?, elements_eq_declared, elements_eq_declared]
  exact Component.find?_declared_eq same.perm distinctNames name

theorem complexType?_eq (name : ExpandedName) :
    (set.complexType? name).map (Component.placed 0) =
      (other.complexType? name).map (Component.placed 0) := by
  have distinctNames := nodup_complexTypes same.distinct
  rw [complexTypes_eq_declared] at distinctNames
  rw [complexType?, complexType?, complexTypes_eq_declared, complexTypes_eq_declared]
  exact Component.find?_declared_eq same.perm distinctNames name

theorem hasSimpleType_eq (name : ExpandedName) :
    set.hasSimpleType name = other.hasSimpleType name :=
  same.perm.any_eq

/-! ## Types -/

theorem namedType_eq (name : ExpandedName) :
    set.namedType name = other.namedType name := by
  have sameComplex := congrArg Option.isSome (same.complexType?_eq name)
  rw [Option.isSome_map, Option.isSome_map] at sameComplex
  rw [namedType, namedType, sameComplex, same.hasSimpleType_eq]

theorem exists_of_element? {name : ExpandedName} {component : Component ElementDeclaration}
    (found : set.element? name = some component) :
    ∃ position, other.element? name = some (component.placed position) := by
  have foundAlike := same.element?_eq name
  rw [found, Option.map_some, eq_comm, Option.map_eq_some_iff] at foundAlike
  obtain ⟨peer, otherFound, equal⟩ := foundAlike
  refine ⟨peer.position, ?_⟩
  rw [otherFound, ← Component.eq_placed_of_placed_eq equal.symm]

theorem element?_eq_none {name : ExpandedName} (missing : set.element? name = none) :
    other.element? name = none := by
  have missingAlike := same.element?_eq name
  rw [missing, Option.map_none, eq_comm, Option.map_eq_none_iff] at missingAlike
  exact missingAlike

/-- In both sets the same is found, at places of its own. -/
theorem lookups (comparison : Comparison) : comparison.Lookups set other where
  element name := by
    cases found : set.element? name with
    | none => exact .missing found (same.element?_eq_none found)
    | some component =>
        obtain ⟨position, otherFound⟩ := same.exists_of_element? found
        exact .found position found otherFound
  namedType name := by
    rw [same.namedType_eq]
    exact comparison.refl _

theorem refer_eq (schema : Schema) (owner : Owner) (reference : Reference)
    (name : ExpandedName) (occurrence : Occurrence) :
    Scope.refer ⟨set, schema, owner⟩ reference name occurrence =
      Scope.refer ⟨other, schema, owner⟩ reference name occurrence :=
  (same.lookups .equal).refer schema owner reference name occurrence

/-! ## Substitution -/

theorem replacements_perm (head : ExpandedName) :
    ((set.replacements head).map (Component.placed 0)).Perm
      ((other.replacements head).map (Component.placed 0)) := by
  rw [placed_replacements, placed_replacements]
  exact same.elements_perm.flatMap_right _

end Rearranged

end SchemaSet

end SchemaContent
