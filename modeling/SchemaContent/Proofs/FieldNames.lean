import SchemaContent.Proofs.ItemReferences

/-! # Names of fields

Members of one content may have names that are written alike in `snake_case`. Their fields
are told apart by numbers, which keeps the names of all fields of a struct apart, but it is
done before the names become identifiers. -/

namespace SchemaContent.Declarations

/-- Fields are told apart unless there are so many members without a word in their names
that one of them gets a number which is the name of another member. -/
theorem AreFields.nodup_iff {fields : List Field} {members : List Member}
    (areFields : AreFields fields members) :
    (fields.map (·.name.spelling)).Nodup ↔
      ∀ number : Nat, 2 ≤ number → number ≤ (fieldBases members).count "" →
        toString number ∉ fieldBases members := by
  have areBases : ∀ base ∈ fieldBases members, IsBase base := by
    intro base isBase
    rcases List.mem_map.mp isBase with ⟨member, _, rfl⟩
    exact isBase_fieldBase member.name member.occurrence
  have valid : ∀ name ∈ numberApart [] (fieldBases members),
      ∃ identifier, identifierOf name = .ok identifier := by
    intro name isName
    have isSpelled : spelled name ∈ (numberApart [] (fieldBases members)).map spelled :=
      List.mem_map_of_mem isName
    rw [← areFields.spellings] at isSpelled
    rcases List.mem_map.mp isSpelled with ⟨field, _, spelledSo⟩
    rcases exists_of_map_eq_ok spelledSo.symm with ⟨identifier, valid, _⟩
    exact ⟨identifier, valid⟩
  rw [← nodup_spelled_iff areBases valid, ← areFields.spellings]
  have injective : Function.Injective (Except.ok : String → Except InvalidIdentifier String) :=
    fun _ _ => Except.ok.inj
  rw [← List.nodup_map_iff injective, List.map_map]
  rfl

/-! ## Structs

Every struct is declared with the fields of an owner's content or of one inside it. -/

/-- Each struct has the fields of such members. -/
def Draft.Declares (draft : Draft) (allowed : List Member → Prop) : Prop :=
  ∀ name fields, .struct name fields ∈ draft.items →
    ∃ members, allowed members ∧ AreFields fields members

theorem Draft.Declares.of_items {draft after : Draft} {allowed : List Member → Prop}
    (declares : draft.Declares allowed) (same : after.items = draft.items) :
    after.Declares allowed := by
  intro name fields isItem
  rw [same] at isItem
  exact declares name fields isItem

theorem Draft.Declares.append {draft : Draft} {allowed : List Member → Prop}
    (declares : draft.Declares allowed) {members : List Member} (isAllowed : allowed members)
    {name : Identifier} {fields : List Field} (areFields : AreFields fields members) :
    Declares { draft with items := draft.items ++ [.struct name fields] } allowed := by
  intro other otherFields isItem
  rcases List.mem_append.mp isItem with isEarlier | isLast
  · exact declares other otherFields isEarlier
  · cases List.mem_singleton.mp isLast
    exact ⟨members, isAllowed, areFields⟩

section Steps

variable {draft after : Draft} {identifier : Identifier}

theorem items_of_takeTypeName {base : String}
    (ran : (takeTypeName base).run draft = .ok (identifier, after)) :
    after.items = draft.items := by
  rw [run_takeTypeName] at ran
  rcases exists_of_bind_eq_ok ran with ⟨_, _, ran⟩
  cases ran
  rfl

theorem items_of_structOf {owner : Owner}
    (ran : (structOf owner).run draft = .ok (identifier, after)) :
    after.items = draft.items := by
  rw [run_structOf] at ran
  split at ran
  · cases ran
    rfl
  · rcases exists_of_bind_eq_ok ran with ⟨_, _, ran⟩
    cases ran
    rfl

theorem items_of_aliasOf {name : ExpandedName}
    (ran : (aliasOf name).run draft = .ok (identifier, after)) :
    after.items = draft.items ∨ after.items = draft.items ++ [.alias identifier] := by
  rw [run_aliasOf] at ran
  split at ran
  · cases ran
    exact .inl rfl
  · rcases exists_of_bind_eq_ok ran with ⟨⟨chosen, named⟩, took, ran⟩
    cases ran
    exact .inr (congrArg (· ++ [.alias identifier]) (items_of_takeTypeName took))

theorem items_of_nameOwners (models : List ContentModel) :
    ∀ {draft after : Draft},
      (models.forM fun model => nameOwner model.owner).run draft = .ok ((), after) →
      after.items = draft.items := by
  induction models with
  | nil =>
      intro draft after ran
      cases ran
      rfl
  | cons model rest induction =>
      intro draft after ran
      rw [run_forM_cons] at ran
      rcases exists_of_bind_eq_ok ran with ⟨⟨_, middle⟩, nameRan, ran⟩
      rw [run_nameOwner] at nameRan
      rcases exists_of_bind_eq_ok nameRan with ⟨⟨identifier, named⟩, took, nameRan⟩
      cases nameRan
      exact (induction ran).trans (items_of_takeTypeName took :)

end Steps

mutual

theorem declares_of_typeOf {allowed : List Member → Prop} :
    ∀ (member : Member) {draft after : Draft} {identifier : Identifier},
      (∀ inner, member.type = .inline inner → ∀ part, Member.Part inner part → allowed part) →
      draft.Declares allowed → (typeOf member).run draft = .ok (identifier, after) →
      after.Declares allowed
  | ⟨name, reference, .builtin builtin, occurrence, owner⟩, draft, after, identifier, _,
      declares, ran => by
      rw [typeOf] at ran
      cases ran
      exact declares
  | ⟨name, reference, .anonymousSimple, occurrence, owner⟩, draft, after, identifier, _,
      declares, ran => by
      rw [typeOf] at ran
      cases ran
      exact declares
  | ⟨name, reference, .complex complex, occurrence, owner⟩, draft, after, identifier, _,
      declares, ran => by
      rw [typeOf] at ran
      exact declares.of_items (items_of_structOf ran)
  | ⟨name, reference, .anonymousComplex element, occurrence, owner⟩, draft, after, identifier,
      _, declares, ran => by
      rw [typeOf] at ran
      exact declares.of_items (items_of_structOf ran)
  | ⟨name, reference, .simple simple, occurrence, owner⟩, draft, after, identifier, _,
      declares, ran => by
      rw [typeOf] at ran
      rcases items_of_aliasOf ran with same | added
      · exact declares.of_items same
      · intro other fields isItem
        rw [added, List.mem_append] at isItem
        exact declares other fields (isItem.resolve_right (by simp))
  | ⟨name, reference, .inline members, occurrence, owner⟩, draft, after, identifier, isAllowed,
      declares, ran => by
      rw [run_typeOf_inline] at ran
      rcases exists_of_bind_eq_ok ran with ⟨⟨chosen, named⟩, took, ran⟩
      rcases exists_of_bind_eq_ok ran with ⟨⟨drafts, filled⟩, drafted, ran⟩
      rcases exists_of_bind_eq_ok ran with ⟨fields, finished, ran⟩
      cases ran
      have inside := isAllowed members rfl
      have namedDeclares := declares.of_items (items_of_takeTypeName took)
      have filledDeclares := declares_of_draftFields members
        (fun member isMember inner isInline part isPart =>
          inside part (.inside isMember isInline isPart)) namedDeclares drafted
      exact filledDeclares.append (inside members (.itself members))
        (areFields_of_finishFields drafted finished)

theorem declares_of_draftFields {allowed : List Member → Prop} :
    ∀ (members : List Member) {draft after : Draft} {drafts : List DraftField},
      (∀ member ∈ members, ∀ inner, member.type = .inline inner →
        ∀ part, Member.Part inner part → allowed part) →
      draft.Declares allowed → (draftFields members).run draft = .ok (drafts, after) →
      after.Declares allowed
  | [], draft, after, drafts, _, declares, ran => by
      rw [draftFields] at ran
      cases ran
      exact declares
  | member :: rest, draft, after, drafts, isAllowed, declares, ran => by
      rw [run_draftFields_cons] at ran
      rcases exists_of_bind_eq_ok ran with ⟨⟨type, typed⟩, typeRan, ran⟩
      rcases exists_of_bind_eq_ok ran with ⟨⟨others, filled⟩, drafted, ran⟩
      cases ran
      have typedDeclares := declares_of_typeOf member (isAllowed member List.mem_cons_self)
        declares typeRan
      exact declares_of_draftFields rest
        (fun other isOther => isAllowed other (List.mem_cons_of_mem _ isOther)) typedDeclares
        drafted

end

theorem declares_of_declareModel {allowed : List Member → Prop} {model : ContentModel}
    (isAllowed : ∀ part, Member.Part model.members part → allowed part) {draft after : Draft}
    (declares : draft.Declares allowed)
    (ran : (declareModel model).run draft = .ok ((), after)) : after.Declares allowed := by
  rw [run_declareModel] at ran
  rcases exists_of_bind_eq_ok ran with ⟨⟨name, looked⟩, structRan, ran⟩
  rcases exists_of_bind_eq_ok ran with ⟨⟨drafts, filled⟩, drafted, ran⟩
  rcases exists_of_bind_eq_ok ran with ⟨fields, finished, ran⟩
  cases ran
  have lookedDeclares := declares.of_items (items_of_structOf structRan)
  have filledDeclares := declares_of_draftFields model.members
    (fun member isMember inner isInline part isPart =>
      isAllowed part (.inside isMember isInline isPart)) lookedDeclares drafted
  exact filledDeclares.append (isAllowed _ (.itself model.members))
    (areFields_of_finishFields drafted finished)

theorem declares_of_declareModels {allowed : List Member → Prop} (models : List ContentModel) :
    ∀ {draft after : Draft},
      (∀ model ∈ models, ∀ part, Member.Part model.members part → allowed part) →
      draft.Declares allowed → (models.forM declareModel).run draft = .ok ((), after) →
      after.Declares allowed := by
  induction models with
  | nil =>
      intro draft after _ declares ran
      cases ran
      exact declares
  | cons model rest induction =>
      intro draft after isAllowed declares ran
      rw [run_forM_cons] at ran
      rcases exists_of_bind_eq_ok ran with ⟨⟨_, middle⟩, modelRan, ran⟩
      have middleDeclares := declares_of_declareModel (isAllowed model List.mem_cons_self)
        declares modelRan
      exact induction (fun other isOther => isAllowed other (List.mem_cons_of_mem _ isOther))
        middleDeclares ran

/-- In a struct, which has the fields of an owner's content or of one inside it at any
depth, no two names are printed alike, unless so many members have names without a word
that one of them gets a number which is all that the name of another member consists of. -/
theorem nodup_fields_iff {models : List ContentModel} {file : String}
    (generated : text models = .ok file) :
    ∃ declared : List Item, items models = .ok declared ∧ file = fileText declared ∧
      ∀ name fields, .struct name fields ∈ declared →
        ∃ model ∈ models, ∃ members, Member.Part model.members members ∧
          List.Forall₂ Field.Suits fields members ∧
          ((fields.map (·.name.spelling)).Nodup ↔
            ∀ number : Nat, 2 ≤ number → number ≤ (fieldBases members).count "" →
              toString number ∉ fieldBases members) := by
  rcases exists_items_of_text generated with ⟨declared, itemsGenerated, rfl⟩
  refine ⟨declared, itemsGenerated, rfl, ?_⟩
  rcases exists_runs_of_items itemsGenerated with ⟨named, draft, nameRan, declareRan, rfl⟩
  have namedDeclares : named.Declares fun members =>
      ∃ model ∈ models, Member.Part model.members members := by
    intro name fields isItem
    rw [items_of_nameOwners models nameRan] at isItem
    cases isItem
  have declares := declares_of_declareModels models
    (fun model isModel part isPart => ⟨model, isModel, isPart⟩) namedDeclares declareRan
  intro name fields isItem
  rcases declares name fields isItem with ⟨members, ⟨model, isModel, isPart⟩, areFields⟩
  exact ⟨model, isModel, members, isPart, areFields.suit, areFields.nodup_iff⟩

end SchemaContent.Declarations

/-! ### Marks

A content with two names that have no words and one that is a number, and another one with
names that are written alike, and with keywords. -/

namespace SchemaContent.Marks

open Declarations

def member (localName : String) (occurrence : Occurrence) : Member :=
  ⟨⟨none, localName⟩, none, .builtin ⟨some schemaNamespace, "string"⟩, occurrence, .outside⟩

def models : List ContentModel :=
  [⟨.complexType ⟨none, "Marks"⟩,
      [member "_" .unstated, member "__" .unstated, member "_2" .unstated]⟩,
    ⟨.complexType ⟨none, "Notes"⟩,
      [member "1st" .unstated, member "_" .unstated, member "Type" .unstated,
        member "type" .unstated, member "item" ⟨none, some .unbounded⟩,
        member "items" ⟨some 0, none⟩]⟩]

def named (text : String) : Identifier :=
  ⟨text, false⟩

def marks : List Field :=
  [⟨named "_empty", .one, named "String"⟩, ⟨named "_2", .one, named "String"⟩,
    ⟨named "_2", .one, named "String"⟩]

def notes : List Field :=
  [⟨named "_1st", .one, named "String"⟩, ⟨named "_empty", .one, named "String"⟩,
    ⟨⟨"type", true⟩, .one, named "String"⟩, ⟨named "type_2", .one, named "String"⟩,
    ⟨named "items", .many, named "String"⟩, ⟨named "items_2", .optional, named "String"⟩]

def declared : List Item :=
  [.struct (named "Marks") marks, .struct (named "Notes") notes]

theorem itemsGenerated : items models = .ok declared := by
  decide +kernel

theorem nodup_fields_iff_of_marks :
    text models = .ok (fileText declared) ∧
      (∃ members, List.Forall₂ Field.Suits marks members ∧
        ∃ number : Nat, 2 ≤ number ∧ number ≤ (fieldBases members).count "" ∧
          toString number ∈ fieldBases members) ∧
      ∃ members, List.Forall₂ Field.Suits notes members ∧
        ∀ number : Nat, 2 ≤ number → number ≤ (fieldBases members).count "" →
          toString number ∉ fieldBases members := by
  have generated := text_of_items itemsGenerated
  rcases nodup_fields_iff generated with ⟨others, sameItems, _, areDistinct⟩
  cases itemsGenerated.symm.trans sameItems
  rcases areDistinct (named "Marks") marks (by decide) with
    ⟨_, _, marked, _, marksSuit, marksDistinct⟩
  rcases areDistinct (named "Notes") notes (by decide) with
    ⟨_, _, noted, _, notesSuit, notesDistinct⟩
  have alike : ¬(marks.map (·.name.spelling)).Nodup := by decide
  have different : (notes.map (·.name.spelling)).Nodup := by decide
  rw [marksDistinct] at alike
  push Not at alike
  exact ⟨generated, ⟨marked, marksSuit, alike⟩, noted, notesSuit, notesDistinct.mp different⟩

/-- The second name without words gets the number that the third name consists of. -/
theorem fields_not_always_distinct :
    ¬∀ (models : List ContentModel) (declared : List Item), items models = .ok declared →
      ∀ name fields, .struct name fields ∈ declared →
        (fields.map (·.name.spelling)).Nodup := by
  intro distinct
  have marksDistinct := distinct models declared itemsGenerated (named "Marks") marks
    List.mem_cons_self
  exact absurd marksDistinct (by decide)

end SchemaContent.Marks
