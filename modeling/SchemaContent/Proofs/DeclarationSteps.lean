import SchemaContent.Proofs.DraftRecords
import SchemaContent.Proofs.ReadyEntries

/-! # Steps that declare items

Each step is run on a draft that is on record. It takes a name and claims it, or finds
one that is claimed, and what it declares it enters. -/

namespace SchemaContent.Declarations

/-! ## Runs

Each step, run on a draft, as a sequence of steps that may fail. -/

section Runs

variable (draft : Draft)

theorem run_takeTypeName (base : String) :
    (takeTypeName base).run draft = do
      let name := firstFree draft.taken (innerVariant base)
      return (← identifierOf name, { draft with taken := name :: draft.taken }) := by
  simp [takeTypeName]

theorem run_nameOwner (owner : Owner) :
    (nameOwner owner).run draft = do
      let (identifier, named) ← (takeTypeName (ownerBase owner)).run draft
      return ((), { named with structs := (owner, identifier) :: named.structs }) := by
  simp [nameOwner]

theorem run_structOf (owner : Owner) :
    (structOf owner).run draft =
      match draft.structs.lookup owner with
      | some known => return (known, draft)
      | none => do
        let base := Text.upperCamelCase ((owner.name?.map (·.localName)).getD "")
        return (← identifierOf base, draft) := by
  unfold structOf
  cases known : draft.structs.lookup owner <;> simp [known]

theorem run_aliasOf (name : ExpandedName) :
    (aliasOf name).run draft =
      match draft.aliases.lookup name with
      | some known => return (known, draft)
      | none => do
        let (identifier, named) ← (takeTypeName (Text.upperCamelCase name.localName)).run draft
        return (identifier, { named with
          items := named.items ++ [.alias identifier]
          aliases := (name, identifier) :: named.aliases }) := by
  unfold aliasOf
  cases known : draft.aliases.lookup name <;> simp [known, declareItem]

theorem run_typeOf_inline (name : ExpandedName) (reference : Option Reference)
    (members : List Member) (occurrence : Occurrence) (owner : Owner) :
    (typeOf ⟨name, reference, .inline members, occurrence, owner⟩).run draft = do
      let (identifier, named) ← (takeTypeName (Text.upperCamelCase name.localName)).run draft
      let (drafts, filled) ← (draftFields members).run named
      let fields ← finishFields drafts
      return (identifier,
        { filled with items := filled.items ++ [.struct identifier fields] }) := by
  simp [typeOf, declareItem]

theorem run_draftFields_cons (member : Member) (rest : List Member) :
    (draftFields (member :: rest)).run draft = do
      let (type, typed) ← (typeOf member).run draft
      let (drafts, filled) ← (draftFields rest).run typed
      return (⟨fieldBase member.name member.occurrence, multiplicityOf member.occurrence,
        type⟩ :: drafts, filled) := by
  simp [draftFields]

theorem run_declareModel (model : ContentModel) :
    (declareModel model).run draft = do
      let (name, named) ← (structOf model.owner).run draft
      let (drafts, filled) ← (draftFields model.members).run named
      let fields ← finishFields drafts
      return ((), { filled with items := filled.items ++ [.struct name fields] }) := by
  simp [declareModel, declareItem]

theorem run_forM_cons {α : Type} (step : α → Step Unit) (first : α) (rest : List α) :
    ((first :: rest).forM step).run draft =
      ((step first).run draft >>= fun (_, middle) => (rest.forM step).run middle) := by
  simp

theorem items_eq (models : List ContentModel) :
    items models = do
      let (_, named) ← (models.forM fun model => nameOwner model.owner).run ⟨[], [], [], []⟩
      let (_, declared) ← (models.forM declareModel).run named
      return declared.items := by
  simp [items, declareModels]

end Runs

/-! ## Names on record -/

variable {structs : List (Owner × Identifier)} {draft after : Draft} {ledger : Ledger}
  {identifier : Identifier}

/-- A name is taken and claimed for whatever it will be the name of. -/
theorem takeTypeName_spec (records : Records structs draft ledger) {base : String}
    (without : '_' ∉ base.toList) (origin : Origin)
    (ran : (takeTypeName base).run draft = .ok (identifier, after)) :
    ∃ name, identifierOf name = .ok identifier ∧
      Records structs after (ledger.claim origin name) := by
  rw [run_takeTypeName] at ran
  rcases exists_of_bind_eq_ok ran with ⟨chosen, valid, ran⟩
  cases ran
  have ⟨isFree, count, isVariant⟩ :=
    firstFree_spec draft.taken (innerVariant_injective base)
  refine ⟨_, valid, records.take isFree ?_ origin⟩
  rw [isVariant]
  exact underscore_not_mem_innerVariant without count

theorem structOf_spec (records : Records structs draft ledger) {owner : Owner}
    (ran : (structOf owner).run draft = .ok (identifier, after)) :
    after = draft ∧ chosenNames structs owner identifier := by
  rw [run_structOf, records.structsKept] at ran
  rw [chosenNames]
  cases known : structs.lookup owner with
  | some name =>
      simp only [known] at ran
      cases ran
      exact ⟨rfl, rfl⟩
  | none =>
      simp only [known] at ran
      rcases exists_of_bind_eq_ok ran with ⟨_, valid, ran⟩
      cases ran
      exact ⟨rfl, valid⟩

/-- The alias of a simple type is there already, or it is declared. -/
theorem aliasOf_spec (records : Records structs draft ledger) {name : ExpandedName}
    (naming : Naming) (models : List ContentModel)
    (ran : (aliasOf name).run draft = .ok (identifier, after)) :
    ∃ later, Records structs after later ∧ ledger.Grows (· = .simpleType name) [] later ∧
      ledger.catalogue.Continues naming models later.catalogue ∧
      (.simpleType name, .alias identifier) ∈ later.catalogue := by
  rw [run_aliasOf] at ran
  cases known : draft.aliases.lookup name with
  | some declared =>
      simp only [known] at ran
      cases ran
      exact ⟨ledger, records, .refl ledger, .here, records.aliases name identifier known⟩
  | none =>
      simp only [known] at ran
      rcases exists_of_bind_eq_ok ran with ⟨⟨chosen, named⟩, took, ran⟩
      have isUnknown : named.aliases.lookup name = none := by
        rw [run_takeTypeName] at took
        rcases exists_of_bind_eq_ok took with ⟨_, _, took⟩
        cases took
        exact known
      cases ran
      have without := Text.underscore_not_mem_upperCamelCase name.localName
      rcases takeTypeName_spec records without (.simpleType name) took with
        ⟨base, valid, claimed⟩
      refine ⟨_, claimed.enterAlias isUnknown List.mem_cons_self valid, ?_, ?_, ?_⟩
      · exact (ledger.grows_claim _ base).trans (Ledger.grows_enterAlias _ name _)
      · exact .enter .here (.alias name _)
      · exact Ledger.mem_enter _ _ _

/-! ## Fields -/

theorem length_numberApart (names : List String) :
    ∀ taken : List String, (numberApart taken names).length = names.length := by
  induction names with
  | nil => exact fun _ => rfl
  | cons first rest induction =>
      intro taken
      rw [numberApart, List.length_cons, induction, List.length_cons]

theorem types_of_finishFields {drafts : List DraftField} {fields : List Field}
    (finished : finishFields drafts = .ok fields) :
    fields.map (·.type) = drafts.map (·.type) := by
  have kept : ∀ (entry : String × DraftField) (field : Field),
      (do return Field.mk (← identifierOf entry.1) entry.2.multiplicity entry.2.type) =
        .ok field →
        field.type = entry.2.type := by
    intro entry field made
    rcases exists_of_bind_eq_ok made with ⟨_, _, made⟩
    cases made
    rfl
  have types : fields.map (·.type) =
      ((numberApart [] (drafts.map (·.base))).zip drafts).map fun entry => entry.2.type :=
    map_eq_of_mapM_eq_ok kept finished
  have sameLength : (numberApart [] (drafts.map (·.base))).length = drafts.length := by
    rw [length_numberApart, List.length_map]
  have forgotten := congrArg (List.map DraftField.type)
    (List.map_snd_zip (Nat.le_of_eq sameLength.symm))
  rw [List.map_map] at forgotten
  rw [types]
  exact forgotten

end SchemaContent.Declarations
