import SchemaContent.Proofs.Contents

/-! # Whose content a member belongs to

The owner of a content is handed on while the content is compiled: into groups inside
groups, along chains of substitutes, and into the schemas that declare those. Inside an
inline type the element that holds the type takes its place. So each member names the
content that it stands in, at any depth. -/

namespace SchemaContent

namespace Scope

variable {scope : Scope} {member : Member}

theorem owner_of_refer {reference : Reference} {name : ExpandedName}
    {occurrence : Occurrence} (referred : scope.refer reference name occurrence = .ok member) :
    member.owner = scope.owner := by
  rcases exists_of_refer_eq_ok referred with ⟨_, _, _, _, rfl⟩
  rfl

theorem Makes.owner (made : scope.Makes member) : member.owner = scope.owner := by
  cases made.arises with
  | written _ referred => exact owner_of_refer referred
  | standIn _ _ _ referred => exact owner_of_refer referred
  | inPlace _ _ ofOwner => exact ofOwner

theorem Contributes.owner (contributed : scope.Contributes member) :
    member.owner = scope.owner := by
  rcases contributed with ⟨original, _, made, rfl⟩
  exact made.owner

/-- The members of an inline type belong to the element that holds the type. -/
theorem Contributes.owner_of_inline (contributed : scope.Contributes member)
    {inner : List Member} (isInline : member.type = .inline inner) :
    ∀ element ∈ inner, element.owner = .element member.name := by
  rcases contributed.type with provided | ⟨definition, others, isInner, ofType⟩
  · rw [isInline] at provided
    cases provided
  · rw [isInline] at isInner
    cases isInner
    intro element isElement
    exact (ComplexType.contributes_of_mem_members ofType isElement).owner

end Scope

/-- The members of a content model belong to the owner of the model, and the members of
an inline type at any depth to the element that holds the type. -/
theorem SchemaSet.owners_of_members {set : SchemaSet} {models : List ContentModel}
    (compiled : set.contentModels = .ok models) : ∀ model ∈ models,
      (∀ member ∈ model.members, member.owner = model.owner) ∧
        ∀ part, Member.Part model.members part → ∀ member ∈ part, ∀ inner,
          member.type = .inline inner →
            ∀ element ∈ inner, element.owner = .element member.name := by
  intro model isModel
  rcases exists_of_mem_contentModels compiled isModel with ⟨owned, _, sameOwner, ofType⟩
  have contributed : ∀ member ∈ model.members,
      Scope.Contributes ⟨set, owned.schema, owned.owner⟩ member :=
    fun _ => ComplexType.contributes_of_mem_members ofType
  constructor
  · intro member isMember
    rw [sameOwner]
    exact (contributed member isMember).owner
  · intro part isPart member isMember inner isInline
    rcases Scope.contributes_of_part isPart contributed with ⟨owner, ofPart⟩
    exact (ofPart member isMember).owner_of_inline isInline

/-! ### Letters

A content with an inline type inside a choice, and substitutes from two other schemas. -/

namespace Letters

def element (declared : Declared) (anonymousType : Option AnonymousType)
    (heads : List Reference) : ElementDeclaration :=
  ⟨declared, none, anonymousType, heads, .unstated, none⟩

def stamp : Particle :=
  .element (element (.reference ⟨some "p", "Stamp"⟩) none [])

/-- Declares the head, and a type whose content refers to it in two places. -/
def post : Schema where
  location := none
  targetNamespace := some "urn:post"
  elementForm := .unqualified
  bindings := .ofList [(some "p", "urn:post")]
  directives := []
  elements := [element (.named "Stamp") none []]
  complexTypes := [
    ⟨some "Letter", some (.group .sequence ⟨.unstated, [
      .group .all ⟨.unstated, [stamp]⟩,
      .element (element (.named "cover")
        (some (.complex ⟨none, some (.group .all ⟨.unstated, [stamp]⟩)⟩)) [])]⟩)⟩]
  simpleTypes := []

/-- Binds its own namespace twice. -/
def mint : Schema where
  location := none
  targetNamespace := some "urn:mint"
  elementForm := .unqualified
  bindings := .ofList [(some "p", "urn:post"), (some "n", "urn:mint"), (some "m", "urn:mint")]
  directives := []
  elements := [element (.named "Seal") none [⟨some "p", "Stamp"⟩]]
  complexTypes := []
  simpleTypes := []

/-- Has no target namespace, and so no way to refer to its own element. -/
def plain : Schema where
  location := none
  targetNamespace := none
  elementForm := .unqualified
  bindings := .ofList [(none, "urn:post")]
  directives := []
  elements := [element (.named "Mark") none [⟨none, "Stamp"⟩]]
  complexTypes := []
  simpleTypes := []

def set : SchemaSet where
  schemas := [post, mint, plain]
  affiliated := by decide +kernel

def stamps (owner : Owner) : List Member :=
  [⟨⟨none, "Mark"⟩, some ⟨none, "Mark"⟩, .builtin anyType, .unstated, owner⟩,
    ⟨⟨some "urn:mint", "Seal"⟩, some ⟨some "m", "Seal"⟩, .builtin anyType, .unstated, owner⟩,
    ⟨⟨some "urn:post", "Stamp"⟩, some ⟨some "p", "Stamp"⟩, .builtin anyType, .unstated, owner⟩]

def letter : ContentModel where
  owner := .complexType ⟨some "urn:post", "Letter"⟩
  members :=
    ⟨⟨none, "cover"⟩, none, .inline (stamps (.element ⟨none, "cover"⟩)), .unstated,
      .complexType ⟨some "urn:post", "Letter"⟩⟩ ::
    stamps (.complexType ⟨some "urn:post", "Letter"⟩)

theorem compiled : set.contentModels = .ok [letter] := by
  decide +kernel

theorem owners_of_letter :
    set.contentModels = .ok [letter] ∧
      (∀ member ∈ letter.members, member.owner = letter.owner) ∧
        ∀ element ∈ stamps (.element ⟨none, "cover"⟩),
          element.owner = .element ⟨none, "cover"⟩ := by
  have ⟨ofModel, ofInline⟩ :=
    SchemaSet.owners_of_members compiled letter List.mem_cons_self
  refine ⟨compiled, ofModel, ?_⟩
  exact ofInline letter.members (.itself _) _ List.mem_cons_self _ rfl

end Letters

end SchemaContent
