import SchemaContent.Proofs.DeclarationSteps
import SchemaContent.Proofs.NumberedNames
import SchemaContent.Proofs.ReadyEntries

/-! # Fields of members

Each member of a content gets a field in its struct. The fields are drafted first, on the way
through the types of the members, and get their names when all of them are there. -/

namespace SchemaContent.Declarations

def fieldBases (members : List Member) : List String :=
  members.map fun member => fieldBase member.name member.occurrence

theorem isBase_fieldBase (name : ExpandedName) (occurrence : Occurrence) :
    IsBase (fieldBase name occurrence) := by
  have notAtEnd := Text.not_atEnd_snakeCase name.localName
  rw [IsBase, fieldBase]
  split
  · rw [String.toList_append]
    rintro (isFirst | isLast)
    · cases spelled : (Text.snakeCase name.localName).toList with
      | nil =>
          rw [spelled] at isFirst
          cases isFirst
      | cons first rest =>
          rw [spelled] at isFirst notAtEnd
          exact notAtEnd (.inl isFirst)
    · rw [List.getLast?_append] at isLast
      cases isLast
  · rw [String.append_empty]
    exact notAtEnd

/-! ## Fields -/

/-- They are the fields of these members, in order. -/
structure AreFields (fields : List Field) (members : List Member) : Prop where
  suit : List.Forall₂ Field.Suits fields members
  spellings : (fields.map fun field => Except.ok field.name.spelling) =
    (numberApart [] (fieldBases members)).map spelled

theorem drafts_of_draftFields (members : List Member) :
    ∀ {draft after : Draft} {drafts : List DraftField},
      (draftFields members).run draft = .ok (drafts, after) →
      drafts.map (·.base) = fieldBases members ∧
        drafts.map (·.multiplicity) = members.map (multiplicityOf ·.occurrence) := by
  induction members with
  | nil =>
      intro draft after drafts ran
      rw [draftFields] at ran
      cases ran
      exact ⟨rfl, rfl⟩
  | cons member rest induction =>
      intro draft after drafts ran
      rw [run_draftFields_cons] at ran
      rcases exists_of_bind_eq_ok ran with ⟨⟨type, typed⟩, _, ran⟩
      rcases exists_of_bind_eq_ok ran with ⟨⟨others, filled⟩, drafted, ran⟩
      cases ran
      rcases induction drafted with ⟨bases, multiplicities⟩
      rw [List.map_cons, bases, List.map_cons, multiplicities]
      exact ⟨rfl, rfl⟩

/-- Drafts of fields are finished one after the other, each with a variant of its own. -/
theorem areFields_of_finishing (members : List Member) :
    ∀ {drafts : List DraftField} {fields : List Field} (taken : List String),
      drafts.map (·.base) = fieldBases members →
      drafts.map (·.multiplicity) = members.map (multiplicityOf ·.occurrence) →
      (((numberApart taken (fieldBases members)).zip drafts).mapM fun (name, draft) => do
        return (⟨← identifierOf name, draft.multiplicity, draft.type⟩ : Field)) = .ok fields →
      List.Forall₂ Field.Suits fields members ∧
        (fields.map fun field => Except.ok field.name.spelling) =
          (numberApart taken (fieldBases members)).map spelled := by
  induction members with
  | nil =>
      intro drafts fields taken _ _ finished
      cases finished
      exact ⟨.nil, rfl⟩
  | cons member rest induction =>
      intro drafts fields taken bases multiplicities finished
      cases drafts with
      | nil => cases bases
      | cons draft others =>
          rw [fieldBases, List.map_cons, ← fieldBases] at bases ⊢
          rcases List.cons.inj bases with ⟨_, otherBases⟩
          rcases List.cons.inj multiplicities with ⟨multiplicity, otherMultiplicities⟩
          rw [fieldBases, List.map_cons, ← fieldBases, numberApart, List.zip_cons_cons,
            List.mapM_cons] at finished
          rcases exists_of_bind_eq_ok finished with ⟨field, made, finished⟩
          rcases exists_of_bind_eq_ok finished with ⟨laterFields, later, finished⟩
          rcases exists_of_bind_eq_ok made with ⟨identifier, valid, made⟩
          cases made
          cases finished
          rcases induction _ otherBases otherMultiplicities later with ⟨suit, spelledLater⟩
          rcases firstFree_spec taken (numberedVariant_injective
            (fieldBase member.name member.occurrence)) with ⟨_, count, isVariant⟩
          rw [numberApart, List.map_cons, List.map_cons, spelledLater, spelled, valid]
          refine ⟨.cons ⟨multiplicity, count, ?_⟩ suit, rfl⟩
          rw [← isVariant]
          exact valid

theorem areFields_of_finishFields {members : List Member} {draft after : Draft}
    {drafts : List DraftField} {fields : List Field}
    (drafted : (draftFields members).run draft = .ok (drafts, after))
    (finished : finishFields drafts = .ok fields) : AreFields fields members := by
  have ⟨bases, multiplicities⟩ := drafts_of_draftFields members drafted
  rw [finishFields, bases] at finished
  have ⟨suit, spellings⟩ := areFields_of_finishing members [] bases multiplicities finished
  exact ⟨suit, spellings⟩

/-! ## Structs that are ready -/

/-- The struct of a content can be entered as soon as the types of its members are provided. -/
theorem Catalogue.ready_struct {naming : Naming} {models : List ContentModel}
    {catalogue : Catalogue} {model : ContentModel} {place : List Nat} {members : List Member}
    {draft after : Draft} {drafts : List DraftField} {fields : List Field} (name : Identifier)
    (isModel : model ∈ models) (isPart : Member.PartAt model.members place members)
    (drafted : (draftFields members).run draft = .ok (drafts, after))
    (finished : finishFields drafts = .ok fields)
    (provided : catalogue.ProvidesEach naming model.owner place members.zipIdx
      (drafts.map (·.type))) :
    catalogue.Ready naming models (.content model.owner place, .struct name fields) := by
  rw [← types_of_finishFields finished] at provided
  have named := List.forall₂_iff_zip.mp (List.forall₂_map_right_iff.mp provided)
  have suit := (areFields_of_finishFields drafted finished).suit.flip
  rw [← List.zipIdx_map_fst 0 members] at suit
  have suited := List.forall₂_iff_zip.mp (List.forall₂_map_left_iff.mp suit)
  refine .struct isModel isPart (List.forall₂_iff_zip.mpr ⟨named.1, ?_⟩)
  rintro ⟨member, position⟩ field isPair
  have suits : field.Suits member := suited.2 isPair
  exact ⟨suits, suits.wrappedFor, (named.2 isPair).names⟩

end SchemaContent.Declarations
