import SchemaContent.Name
import SchemaContent.Occurrence

/-! # Particles

What a schema document says about the content of elements: trees of element declarations and model
groups. Names are kept as written; they get their meaning from the document that holds them.
-/

namespace SchemaContent

/-- Whether a declared name belongs to the target namespace or to none. -/
inductive Form where
  | qualified
  | unqualified
deriving DecidableEq, Repr

/-- How the particles of a group are combined. -/
inductive Compositor where
  | sequence
  | choice
  | all
deriving DecidableEq, Repr

/-- What an element declaration declares: an element of its own, or one declared elsewhere. -/
inductive Declared where
  | named (localName : String)
  | reference (reference : Reference)
deriving DecidableEq, Repr

/-- The reference that an element is written as, if it is. -/
def Declared.reference? : Declared → Option Reference
  | .named _ => none
  | .reference written => some written

mutual

/-- A node of a content tree. -/
inductive Particle where
  | element (declaration : ElementDeclaration)
  | group (compositor : Compositor) (group : ModelGroup)

/-- Particles in document order with the bounds of the whole group. -/
structure ModelGroup where
  occurrence : Occurrence
  particles : List Particle

/-- An element declaration as written. -/
structure ElementDeclaration where
  declared : Declared
  typeName : Option Reference
  anonymousType : Option AnonymousType
  substitutionGroup : List Reference
  occurrence : Occurrence
  form : Option Form

/-- A type that is declared inside an element declaration. -/
inductive AnonymousType where
  | simple
  | complex (definition : ComplexType)

/-- A complex type, as far as content goes. It has a name unless it is anonymous, and content unless
it has no model group. -/
structure ComplexType where
  name : Option String
  content : Option Particle

end

namespace ElementDeclaration

/-- The local name of the declared or referenced element. -/
def name (declaration : ElementDeclaration) : String :=
  match declaration.declared with
  | .named localName => localName
  | .reference reference => reference.localName

end ElementDeclaration

/-! ## Equality -/

mutual

def Particle.decEq (first second : Particle) : Decidable (first = second) := by
  cases first <;> cases second
  case element.element declaration other =>
    have := ElementDeclaration.decEq declaration other
    exact decidable_of_iff (declaration = other) (iff_of_eq (Particle.element.injEq ..).symm)
  case group.group compositor group otherCompositor otherGroup =>
    have := ModelGroup.decEq group otherGroup
    exact decidable_of_iff (compositor = otherCompositor ∧ group = otherGroup)
      (iff_of_eq (Particle.group.injEq ..).symm)
  all_goals exact isFalse nofun
termination_by structural first

def Particle.decEqList : (first second : List Particle) → Decidable (first = second)
  | [], [] => isTrue rfl
  | [], _ :: _ => isFalse nofun
  | _ :: _, [] => isFalse nofun
  | particle :: rest, other :: others =>
    have := Particle.decEq particle other
    have := Particle.decEqList rest others
    decidable_of_iff (particle = other ∧ rest = others) (iff_of_eq (List.cons.injEq ..).symm)
termination_by structural first => first

def Particle.decEqOption : (first second : Option Particle) → Decidable (first = second)
  | none, none => isTrue rfl
  | none, some _ => isFalse nofun
  | some _, none => isFalse nofun
  | some particle, some other =>
    have := Particle.decEq particle other
    decidable_of_iff (particle = other) (iff_of_eq (Option.some.injEq ..).symm)
termination_by structural first => first

def ModelGroup.decEq : (first second : ModelGroup) → Decidable (first = second)
  | ⟨occurrence, particles⟩, ⟨otherOccurrence, otherParticles⟩ =>
    have := Particle.decEqList particles otherParticles
    decidable_of_iff (occurrence = otherOccurrence ∧ particles = otherParticles)
      (iff_of_eq (ModelGroup.mk.injEq ..).symm)
termination_by structural first => first

def ElementDeclaration.decEq : (first second : ElementDeclaration) → Decidable (first = second)
  | ⟨declared, typeName, anonymousType, substitutionGroup, occurrence, form⟩,
    ⟨otherDeclared, otherTypeName, otherAnonymousType, otherSubstitutionGroup, otherOccurrence,
      otherForm⟩ =>
    have := AnonymousType.decEqOption anonymousType otherAnonymousType
    decidable_of_iff
      (declared = otherDeclared ∧ typeName = otherTypeName ∧
        anonymousType = otherAnonymousType ∧ substitutionGroup = otherSubstitutionGroup ∧
        occurrence = otherOccurrence ∧ form = otherForm)
      (iff_of_eq (ElementDeclaration.mk.injEq ..).symm)
termination_by structural first => first

def AnonymousType.decEq : (first second : AnonymousType) → Decidable (first = second)
  | .simple, .simple => isTrue rfl
  | .simple, .complex _ => isFalse nofun
  | .complex _, .simple => isFalse nofun
  | .complex definition, .complex other =>
    have := ComplexType.decEq definition other
    decidable_of_iff (definition = other) (iff_of_eq (AnonymousType.complex.injEq ..).symm)
termination_by structural first => first

def AnonymousType.decEqOption : (first second : Option AnonymousType) → Decidable (first = second)
  | none, none => isTrue rfl
  | none, some _ => isFalse nofun
  | some _, none => isFalse nofun
  | some type, some other =>
    have := AnonymousType.decEq type other
    decidable_of_iff (type = other) (iff_of_eq (Option.some.injEq ..).symm)
termination_by structural first => first

def ComplexType.decEq : (first second : ComplexType) → Decidable (first = second)
  | ⟨name, content⟩, ⟨otherName, otherContent⟩ =>
    have := Particle.decEqOption content otherContent
    decidable_of_iff (name = otherName ∧ content = otherContent)
      (iff_of_eq (ComplexType.mk.injEq ..).symm)
termination_by structural first => first

end

instance : DecidableEq Particle := Particle.decEq

instance : DecidableEq ModelGroup := ModelGroup.decEq

instance : DecidableEq ElementDeclaration := ElementDeclaration.decEq

instance : DecidableEq AnonymousType := AnonymousType.decEq

instance : DecidableEq ComplexType := ComplexType.decEq

end SchemaContent
