import SchemaContent.SchemaSet

/-! # Types that are provided

The type of an element is found by names alone, along the heads of substitution
groups. Whatever name it is found under in the end, the set has a component there. -/

namespace SchemaContent

/-- The set knows the component that this type names, and the type is not given by
its members. -/
def SchemaSet.Provides (set : SchemaSet) : MemberType → Prop
  | .builtin name => name.isBuiltin
  | .simple name => set.hasSimpleType name
  | .complex name => ∃ component, set.complexType? name = some component
  | .anonymousSimple => True
  | .anonymousComplex name => ∃ component definition,
      set.element? name = some component ∧
        component.definition.anonymousType = some (.complex definition)
  | .inline _ => False

namespace SchemaSet

/-! ## The walk along heads -/

theorem outerType_of_head {set : SchemaSet} {seen : List ExpandedName} {schema : Schema}
    {declaration : ElementDeclaration} {reference : Reference} {rest : List Reference}
    {head : ExpandedName} (untyped : declaration.typeName = none)
    (heads : declaration.substitutionGroup = reference :: rest)
    (resolved : schema.resolve reference = .ok head) (new : head ∉ seen) :
    set.outerType seen schema declaration =
      match set.element? head with
      | none => .error (.unresolvedReference reference head)
      | some component =>
        match component.definition.anonymousType with
        | some .simple => .ok .anonymousSimple
        | some (.complex _) => .ok (.anonymousComplex head)
        | none => set.outerType (head :: seen) component.schema component.definition := by
  rw [outerType]
  simp only [untyped, heads, resolved, new, not_false_eq_true, dif_neg]
  split
  · rename_i missing
    rw [missing]
  · rename_i component found
    generalize set.element? head = looked at found
    subst found
    rfl

/-! ## Where it ends -/

variable {set : SchemaSet} {type : MemberType}

theorem provides_anyType (set : SchemaSet) : set.Provides (.builtin anyType) := by
  change anyType.isBuiltin
  decide

theorem provides_of_namedType {name : ExpandedName}
    (named : set.namedType name = .ok type) : set.Provides type := by
  rw [namedType] at named
  split at named
  case isTrue isBuiltin =>
    cases named
    exact isBuiltin
  case isFalse =>
    split at named
    case isTrue isComplex =>
      cases named
      exact Option.isSome_iff_exists.mp isComplex
    case isFalse =>
      split at named
      case isTrue isSimple =>
        cases named
        exact isSimple
      case isFalse => cases named

/-- The walk along heads ends at a type that the set provides. -/
theorem provides_of_outerType {seen : List ExpandedName} {schema : Schema}
    {declaration : ElementDeclaration}
    (typed : set.outerType seen schema declaration = .ok type) : set.Provides type := by
  induction seen, schema, declaration using outerType.induct set with
  | case1 seen schema declaration reference isTyped fault failed =>
      rw [outerType] at typed
      simp only [isTyped, failed] at typed
      cases typed
  | case2 seen schema declaration reference isTyped name resolved =>
      rw [outerType] at typed
      simp only [isTyped, resolved] at typed
      exact provides_of_namedType typed
  | case3 seen schema declaration noHead untyped =>
      rw [outerType] at typed
      simp only [untyped, noHead] at typed
      cases typed
      exact set.provides_anyType
  | case4 seen schema declaration reference rest heads untyped fault failed =>
      rw [outerType] at typed
      simp only [untyped, heads, failed] at typed
      cases typed
  | case5 seen schema declaration reference rest heads untyped name resolved old =>
      rw [outerType] at typed
      simp only [untyped, heads, resolved, old, dif_pos] at typed
      cases typed
      exact set.provides_anyType
  | case6 seen schema declaration reference rest heads untyped name resolved new missing =>
      rw [outerType_of_head untyped heads resolved new, missing] at typed
      cases typed
  | case7 seen schema declaration reference rest heads untyped name resolved new component
      found simple =>
      rw [outerType_of_head untyped heads resolved new, found] at typed
      simp only [simple] at typed
      cases typed
      trivial
  | case8 seen schema declaration reference rest heads untyped name resolved new component
      found definition complex =>
      rw [outerType_of_head untyped heads resolved new, found] at typed
      simp only [complex] at typed
      cases typed
      exact ⟨component, definition, found, complex⟩
  | case9 seen schema declaration reference rest heads untyped name resolved new component
      found noType induction =>
      rw [outerType_of_head untyped heads resolved new, found] at typed
      simp only [noType] at typed
      exact induction typed

theorem provides_of_elementType {name : ExpandedName}
    {component : Component ElementDeclaration} (found : set.element? name = some component)
    (typed : set.elementType component = .ok type) : set.Provides type := by
  rw [elementType] at typed
  split at typed
  case h_1 =>
    cases typed
    trivial
  case h_2 definition complex =>
    cases typed
    rw [name_of_element? found]
    exact ⟨component, definition, found, complex⟩
  case h_3 => exact provides_of_outerType typed

end SchemaSet

end SchemaContent
