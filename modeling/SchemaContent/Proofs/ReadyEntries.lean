import SchemaContent.Proofs.Catalogue

/-! # Entries that are ready

Items are entered in a catalogue one after the other. A struct is entered when there is an
alias for each simple type and a struct for each inline content among the types of its
fields; those of owners may come before it or after it. -/

namespace SchemaContent

def Occurrence.Repeats (occurrence : Occurrence) : Prop :=
  occurrence.effectiveMax = .unbounded ∨
    ∃ count, occurrence.effectiveMax = .count count ∧ 1 < count

theorem Occurrence.isRepeated_iff (occurrence : Occurrence) :
    occurrence.isRepeated = true ↔ occurrence.Repeats := by
  rw [isRepeated, Repeats]
  split
  case h_1 isMax => simp [isMax]
  case h_2 count isMax => simp [isMax]

namespace Declarations

/-! ## Fields -/

/-- A field is as its member asks for it, if its name may be varied by a number. -/
def Field.Suits (field : Field) (member : Member) : Prop :=
  field.multiplicity = multiplicityOf member.occurrence ∧
    ∃ count, identifierOf (numberedVariant (fieldBase member.name member.occurrence) count) =
      .ok field.name

/-- The type of the field is printed inside another one as these bounds ask for it. -/
structure Field.WrappedFor (field : Field) (occurrence : Occurrence) : Prop where
  vec : field.multiplicity.wrapper? = some "Vec" ↔ occurrence.Repeats
  option : field.multiplicity.wrapper? = some "Option" ↔
    ¬occurrence.Repeats ∧ occurrence.effectiveMin = 0
  bare : field.multiplicity.wrapper? = none ↔
    ¬occurrence.Repeats ∧ occurrence.effectiveMin ≠ 0

theorem Field.Suits.wrappedFor {field : Field} {member : Member} (suits : field.Suits member) :
    field.WrappedFor member.occurrence := by
  have sameMultiplicity := suits.1
  rw [multiplicityOf] at sameMultiplicity
  split at sameMultiplicity
  case isTrue repeated =>
    have repeats := (Occurrence.isRepeated_iff _).mp repeated
    constructor <;> simp [sameMultiplicity, Multiplicity.wrapper?, repeats]
  case isFalse single =>
    have notRepeats := mt (Occurrence.isRepeated_iff _).mpr single
    have isOptional_iff : member.occurrence.isOptional = true ↔
        member.occurrence.effectiveMin = 0 := beq_iff_eq
    split at sameMultiplicity
    case isTrue optional =>
      have isZero := isOptional_iff.mp optional
      constructor <;> simp [sameMultiplicity, Multiplicity.wrapper?, notRepeats, isZero]
    case isFalse required =>
      have notZero := mt isOptional_iff.mpr required
      constructor <;> simp [sameMultiplicity, Multiplicity.wrapper?, notRepeats, notZero]

/-! ## Entries -/

namespace Catalogue

/-- The entry can be made in this catalogue: it is an alias for a simple type, or a struct
for a content that is in one of the models, with a field for each member, in order. Of the
types of fields only those of owners need not be in the catalogue. -/
inductive Ready (naming : Naming) (models : List ContentModel) (catalogue : Catalogue) :
    Origin × Item → Prop
  | alias (name : ExpandedName) (identifier : Identifier) :
      Ready naming models catalogue (.simpleType name, .alias identifier)
  | struct {model : ContentModel} {place : List Nat} {members : List Member}
      {name : Identifier} {fields : List Field} (isModel : model ∈ models)
      (isPart : Member.PartAt model.members place members)
      (matched : List.Forall₂ (fun (member, position) field =>
        field.Suits member ∧ field.WrappedFor member.occurrence ∧
          catalogue.Names naming model.owner (place ++ [position]) field.type member.type)
        members.zipIdx fields) :
      Ready naming models catalogue (.content model.owner place, .struct name fields)

/-- The later catalogue has come of this one by entries that were ready. -/
inductive Continues (naming : Naming) (models : List ContentModel) (catalogue : Catalogue) :
    Catalogue → Prop
  | here : Continues naming models catalogue catalogue
  | enter {later : Catalogue} {entry : Origin × Item}
      (continues : Continues naming models catalogue later)
      (ready : later.Ready naming models entry) :
      Continues naming models catalogue (later ++ [entry])

variable {naming : Naming} {models : List ContentModel} {catalogue later last : Catalogue}

theorem Continues.trans (first : catalogue.Continues naming models later)
    (second : later.Continues naming models last) : catalogue.Continues naming models last := by
  induction second with
  | here => exact first
  | enter _ ready induction => exact induction.enter ready

theorem Continues.ready (continues : Continues naming models [] catalogue)
    {before after : Catalogue} {entry : Origin × Item}
    (split : catalogue = before ++ entry :: after) : before.Ready naming models entry := by
  induction continues generalizing after with
  | here => cases before <;> cases split
  | @enter later last _ ready induction =>
      rcases List.eq_nil_or_concat after with rfl | ⟨others, other, rfl⟩
      · have ⟨same, sameEntry⟩ := List.append_inj' split rfl
        cases sameEntry
        exact same ▸ ready
      · have regrouped : before ++ entry :: others.concat other =
            (before ++ entry :: others) ++ [other] := by simp
        exact induction (List.append_inj' (split.trans regrouped) rfl).1

end Catalogue

end Declarations

end SchemaContent
