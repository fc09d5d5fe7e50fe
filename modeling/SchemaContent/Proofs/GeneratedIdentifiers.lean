import Mathlib.Data.List.Basic
import SchemaContent.Proofs.ValidIdentifiers

/-! # Identifiers in generated files

Each step of the generation succeeds on names of ASCII characters, and all identifiers it
adds to the draft are valid. So a file is generated for all models with such names, and
there are only valid identifiers in it. -/

namespace SchemaContent

mutual

/-- The local names that the names of fields and types come from: those of members and of
the types they refer to, at any depth. Built-in types have names of their own. -/
def Member.localNames : Member → List String
  | ⟨name, _, type, _, _⟩ => name.localName :: type.localNames

def MemberType.localNames : MemberType → List String
  | .builtin _ => []
  | .simple name => [name.localName]
  | .complex name => [name.localName]
  | .anonymousSimple => []
  | .anonymousComplex element => [element.localName]
  | .inline members => Member.localNamesOf members

def Member.localNamesOf : List Member → List String
  | [] => []
  | member :: rest => member.localNames ++ Member.localNamesOf rest

end

def ContentModel.localNames (model : ContentModel) : List String :=
  (model.owner.name?.map (·.localName)).toList ++ Member.localNamesOf model.members

theorem ContentModel.isAscii_owner {model : ContentModel}
    (ascii : ∀ name ∈ model.localNames, Text.IsAscii name) :
    ∀ name ∈ model.owner.name?, Text.IsAscii name.localName := by
  intro name isName
  apply ascii
  apply List.mem_append_left
  rw [Option.mem_toList, Option.mem_def.mp isName]
  rfl

namespace Declarations

/-! ## Valid drafts -/

/-- The identifiers that are printed for an item. -/
def Item.identifiers : Item → List Identifier
  | .alias name => [name]
  | .struct name fields => name :: fields.flatMap fun field => [field.name, field.type]

def Item.IsValid (item : Item) : Prop :=
  ∀ identifier ∈ item.identifiers, identifier.IsValid

structure DraftField.IsValid (draft : DraftField) : Prop where
  base : IsPlainName draft.base
  type : draft.type.IsValid

/-- All identifiers that have been chosen are valid. -/
structure Draft.IsValid (draft : Draft) : Prop where
  structs : ∀ owner identifier, draft.structs.lookup owner = some identifier →
    identifier.IsValid
  aliases : ∀ name identifier, draft.aliases.lookup name = some identifier →
    identifier.IsValid
  items : ∀ item ∈ draft.items, item.IsValid

/-- The step succeeds on each valid draft, with such a result, and leaves it valid. -/
def Succeeds {α : Type} (step : Step α) (result : α → Prop) : Prop :=
  ∀ draft : Draft, draft.IsValid →
    ∃ value after, step.run draft = .ok (value, after) ∧ result value ∧ after.IsValid

namespace Succeeds

variable {α β : Type} {result : α → Prop} {next : β → Prop}

theorem pure {value : α} (isResult : result value) : Succeeds (Pure.pure value) result :=
  fun draft valid => ⟨value, draft, rfl, isResult, valid⟩

theorem bind {step : Step α} {continuation : α → Step β} (first : Succeeds step result)
    (second : ∀ value, result value → Succeeds (continuation value) next) :
    Succeeds (step >>= continuation) next := by
  intro draft valid
  rcases first draft valid with ⟨value, middle, ran, isResult, middleValid⟩
  rcases second value isResult middle middleValid with ⟨last, after, ranNext, isNext, afterValid⟩
  refine ⟨last, after, ?_, isNext, afterValid⟩
  rw [StateT.run_bind, ran]
  exact ranNext

theorem lift {outcome : Except InvalidIdentifier α}
    (succeeds : ∃ value, outcome = .ok value ∧ result value) :
    Succeeds (liftM outcome) result := by
  rcases succeeds with ⟨value, rfl, isResult⟩
  exact fun draft valid => ⟨value, draft, rfl, isResult, valid⟩

theorem modify {change : Draft → Draft}
    (kept : ∀ draft : Draft, draft.IsValid → (change draft).IsValid) :
    Succeeds (modify change) fun _ => True :=
  fun draft valid => ⟨(), change draft, rfl, trivial, kept draft valid⟩

theorem forM {step : α → Step Unit} {list : List α}
    (each : ∀ item ∈ list, Succeeds (step item) fun _ => True) :
    Succeeds (list.forM step) fun _ => True := by
  induction list with
  | nil => exact pure trivial
  | cons first rest induction =>
      have ⟨ofFirst, ofRest⟩ := List.forall_mem_cons.mp each
      exact ofFirst.bind fun _ _ => induction ofRest

end Succeeds

/-! ## Steps -/

theorem Draft.IsValid.declare {draft : Draft} (valid : draft.IsValid) {item : Item}
    (itemValid : item.IsValid) : Draft.IsValid { draft with items := draft.items ++ [item] } where
  structs := valid.structs
  aliases := valid.aliases
  items := List.forall_mem_append.mpr ⟨valid.items, List.forall_mem_singleton.mpr itemValid⟩

theorem succeeds_takeTypeName {base : String}
    (letters : ∀ character ∈ base.toList, character.isAlphanum) :
    Succeeds (takeTypeName base) Identifier.IsValid := by
  intro draft valid
  have ⟨_, count, isVariant⟩ := firstFree_spec draft.taken (innerVariant_injective base)
  rcases (isPlainName_innerVariant letters count).exists_identifier with
    ⟨identifier, isIdentifier, identifierValid⟩
  simp only [run_takeTypeName, isVariant, isIdentifier]
  exact ⟨identifier, _, rfl, identifierValid, valid.structs, valid.aliases, valid.items⟩

theorem succeeds_structOf {owner : Owner}
    (ascii : ∀ name ∈ owner.name?, Text.IsAscii name.localName) :
    Succeeds (structOf owner) Identifier.IsValid := by
  intro draft valid
  rw [run_structOf]
  cases known : draft.structs.lookup owner with
  | some identifier => exact ⟨identifier, draft, rfl, valid.structs owner identifier known, valid⟩
  | none =>
      have letters : ∀ character ∈ (Text.upperCamelCase
          ((owner.name?.map (·.localName)).getD "")).toList, character.isAlphanum := by
        apply Text.isAlphanum_of_mem_upperCamelCase
        cases named : owner.name? with
        | none => exact nofun
        | some name => exact ascii name named
      rcases (isPlainName_of_alphanum letters).exists_identifier with
        ⟨identifier, isIdentifier, identifierValid⟩
      simp only [isIdentifier]
      exact ⟨identifier, draft, rfl, identifierValid, valid⟩

theorem succeeds_aliasOf {name : ExpandedName} (ascii : Text.IsAscii name.localName) :
    Succeeds (aliasOf name) Identifier.IsValid := by
  intro draft valid
  rw [run_aliasOf]
  cases known : draft.aliases.lookup name with
  | some identifier => exact ⟨identifier, draft, rfl, valid.aliases name identifier known, valid⟩
  | none =>
      rcases succeeds_takeTypeName (Text.isAlphanum_of_mem_upperCamelCase ascii) draft valid with
        ⟨identifier, named, took, identifierValid, namedValid⟩
      simp only [took]
      have aliasValid : (Item.alias identifier).IsValid :=
        List.forall_mem_singleton.mpr identifierValid
      have declared := namedValid.declare aliasValid
      refine ⟨identifier, _, rfl, identifierValid, declared.structs, ?_, declared.items⟩
      intro other found isKnown
      rw [List.lookup_cons] at isKnown
      split at isKnown
      · cases isKnown
        exact identifierValid
      · exact namedValid.aliases other found isKnown

theorem succeeds_declareItem {item : Item} (valid : item.IsValid) :
    Succeeds (declareItem item) fun _ => True :=
  .modify fun _ draftValid => draftValid.declare valid

/-- Fields get variants of their bases as names, each of them valid. -/
theorem exists_fields {drafts : List DraftField} (valid : ∀ draft ∈ drafts, draft.IsValid) :
    ∃ fields, finishFields drafts = .ok fields ∧
      ∀ field ∈ fields, field.name.IsValid ∧ field.type.IsValid := by
  apply exists_mapM_eq_ok
  rintro ⟨name, draft⟩ isPair
  have ⟨isName, isDraft⟩ := List.of_mem_zip isPair
  have ⟨_, _, areVariants⟩ := numberApart_spec (drafts.map (·.base)) []
  rcases exists_of_mem_of_forall₂ areVariants isName with ⟨base, isBase, count, rfl⟩
  rcases List.mem_map.mp isBase with ⟨other, isOther, rfl⟩
  rcases (isPlainName_numberedVariant (valid other isOther).base count).exists_identifier with
    ⟨identifier, isIdentifier, identifierValid⟩
  simp only [isIdentifier]
  exact ⟨_, rfl, identifierValid, (valid draft isDraft).type⟩

theorem isValid_struct {name : Identifier} (nameValid : name.IsValid) {fields : List Field}
    (valid : ∀ field ∈ fields, field.name.IsValid ∧ field.type.IsValid) :
    (Item.struct name fields).IsValid := by
  rw [Item.IsValid, Item.identifiers, List.forall_mem_cons]
  refine ⟨nameValid, ?_⟩
  intro identifier isIdentifier
  rcases List.mem_flatMap.mp isIdentifier with ⟨field, isField, isPart⟩
  have fieldValid := valid field isField
  rcases List.mem_pair.mp isPart with rfl | rfl
  · exact fieldValid.1
  · exact fieldValid.2

theorem isValid_builtinType (name : ExpandedName) :
    Identifier.IsValid ⟨builtinType name, false⟩ := by
  change IsValidSpelling (builtinType name)
  unfold builtinType
  split <;> exact .plain (by decide) (by decide)

/-! ## Members -/

mutual

theorem succeeds_typeOf : ∀ member : Member, (∀ name ∈ member.localNames, Text.IsAscii name) →
    Succeeds (typeOf member) Identifier.IsValid
  | ⟨name, _, .builtin builtin, _, _⟩, _ => by
      rw [typeOf]
      exact .pure (isValid_builtinType builtin)
  | ⟨name, _, .anonymousSimple, _, _⟩, _ => by
      rw [typeOf]
      exact .pure (.plain (by decide) (by decide))
  | ⟨name, _, .complex complex, _, _⟩, ascii => by
      rw [typeOf]
      apply succeeds_structOf
      rintro _ ⟨⟩
      exact ascii _ (List.mem_cons_of_mem _ List.mem_cons_self)
  | ⟨name, _, .anonymousComplex element, _, _⟩, ascii => by
      rw [typeOf]
      apply succeeds_structOf
      rintro _ ⟨⟩
      exact ascii _ (List.mem_cons_of_mem _ List.mem_cons_self)
  | ⟨name, _, .simple simple, _, _⟩, ascii => by
      rw [typeOf]
      exact succeeds_aliasOf (ascii _ (List.mem_cons_of_mem _ List.mem_cons_self))
  | ⟨name, _, .inline members, _, _⟩, ascii => by
      rw [Member.localNames, List.forall_mem_cons] at ascii
      rw [typeOf]
      apply (succeeds_takeTypeName (Text.isAlphanum_of_mem_upperCamelCase ascii.1)).bind
      intro identifier identifierValid
      apply (succeeds_draftFields members ascii.2).bind
      intro drafts draftsValid
      apply (Succeeds.lift (exists_fields draftsValid)).bind
      intro fields fieldsValid
      apply (succeeds_declareItem (isValid_struct identifierValid fieldsValid)).bind
      intro _ _
      exact .pure identifierValid

theorem succeeds_draftFields : ∀ members : List Member,
    (∀ name ∈ Member.localNamesOf members, Text.IsAscii name) →
    Succeeds (draftFields members) fun drafts => ∀ draft ∈ drafts, draft.IsValid
  | [], _ => by
      rw [draftFields]
      exact .pure nofun
  | member :: rest, ascii => by
      rw [Member.localNamesOf, List.forall_mem_append] at ascii
      rw [draftFields]
      apply (succeeds_typeOf member ascii.1).bind
      intro type typeValid
      apply (succeeds_draftFields rest ascii.2).bind
      intro drafts draftsValid
      have memberAscii : Text.IsAscii member.name.localName := by
        cases member
        exact ascii.1 _ List.mem_cons_self
      exact .pure (List.forall_mem_cons.mpr
        ⟨⟨isPlainName_fieldBase memberAscii member.occurrence, typeValid⟩, draftsValid⟩)

end

/-! ## Models -/

theorem succeeds_nameOwner {owner : Owner}
    (ascii : ∀ name ∈ owner.name?, Text.IsAscii name.localName) :
    Succeeds (nameOwner owner) fun _ => True := by
  have letters : ∀ character ∈ (ownerBase owner).toList, character.isAlphanum := by
    rw [ownerBase]
    cases named : owner.name? with
    | none => exact List.all_eq_true.mp (by decide)
    | some name => exact Text.isAlphanum_of_mem_upperCamelCase (ascii name named)
  apply (succeeds_takeTypeName letters).bind
  intro identifier identifierValid
  apply Succeeds.modify
  intro draft valid
  refine ⟨?_, valid.aliases, valid.items⟩
  intro other found isKnown
  rw [List.lookup_cons] at isKnown
  split at isKnown
  · cases isKnown
    exact identifierValid
  · exact valid.structs other found isKnown

theorem succeeds_declareModel {model : ContentModel}
    (ascii : ∀ name ∈ model.localNames, Text.IsAscii name) :
    Succeeds (declareModel model) fun _ => True := by
  apply (succeeds_structOf (ContentModel.isAscii_owner ascii)).bind
  intro identifier identifierValid
  apply (succeeds_draftFields model.members fun name isName =>
    ascii name (List.mem_append_right _ isName)).bind
  intro drafts draftsValid
  apply (Succeeds.lift (exists_fields draftsValid)).bind
  intro fields fieldsValid
  exact succeeds_declareItem (isValid_struct identifierValid fieldsValid)

theorem succeeds_declareModels {models : List ContentModel}
    (ascii : ∀ model ∈ models, ∀ name ∈ model.localNames, Text.IsAscii name) :
    Succeeds (declareModels models) fun _ => True := by
  have named : Succeeds (models.forM fun model => nameOwner model.owner) fun _ => True :=
    .forM fun model isModel => succeeds_nameOwner (ContentModel.isAscii_owner (ascii model isModel))
  apply named.bind
  intro _ _
  exact .forM fun model isModel => succeeds_declareModel (ascii model isModel)

/-- For models whose names are of ASCII characters a file is generated, and all identifiers
in it are valid. -/
theorem exists_valid_text {models : List ContentModel}
    (ascii : ∀ model ∈ models, ∀ name ∈ model.localNames, Text.IsAscii name) :
    ∃ declared, items models = .ok declared ∧ text models = .ok (fileText declared) ∧
      ∀ item ∈ declared, ∀ identifier ∈ item.identifiers, identifier.IsValid := by
  have isStart : Draft.IsValid ⟨[], [], [], []⟩ := ⟨nofun, nofun, nofun⟩
  rcases succeeds_declareModels ascii _ isStart with ⟨_, draft, ran, _, valid⟩
  have generated : items models = .ok draft.items := by
    rw [items, ran]
    rfl
  exact ⟨draft.items, generated, text_of_items generated, valid.items⟩

end Declarations

end SchemaContent

/-! ### Odd names

Names without words, names that begin with digits, keywords, plurals that are keywords, and
names that are made alike. -/

namespace SchemaContent.OddNames

open Declarations

def member (localName : String) (type : MemberType) (occurrence : Occurrence) : Member :=
  ⟨⟨none, localName⟩, none, type, occurrence, .outside⟩

def models : List ContentModel :=
  [⟨.element ⟨none, "self"⟩,
      [member "" (.simple ⟨none, "1st"⟩) .unstated,
        member "!" (.inline [member "self" (.simple ⟨none, "-"⟩) .unstated])
          ⟨none, some .unbounded⟩,
        member "a" (.complex ⟨none, "self"⟩) ⟨none, some (.count 2)⟩,
        member "as" (.anonymousComplex ⟨none, "self"⟩) .unstated,
        member "type" (.builtin ⟨some schemaNamespace, "int"⟩) .unstated,
        member "Type" .anonymousSimple ⟨some 0, none⟩]⟩,
    ⟨.complexType ⟨none, "Self"⟩, []⟩, ⟨.outside, []⟩]

def declared : List Item :=
  let named (text : String) : Identifier := ⟨text, false⟩
  let raw (text : String) : Identifier := ⟨text, true⟩
  [.alias (named "_1st"), .alias (named "Inner"),
    .struct (named "_empty") [⟨named "self_", .one, named "Inner"⟩],
    .struct (named "Self_") [⟨named "_empty", .one, named "_1st"⟩,
      ⟨named "s", .many, named "_empty"⟩, ⟨raw "as", .many, named "Self_"⟩,
      ⟨named "as_2", .one, named "Self_"⟩, ⟨raw "type", .one, named "i32"⟩,
      ⟨named "type_2", .optional, named "String"⟩],
    .struct (named "SelfInner") [], .struct (named "Global") []]

theorem exists_valid_text_of_oddNames :
    (∀ model ∈ models, ∀ name ∈ model.localNames, Text.IsAscii name) ∧
      ∀ item ∈ declared, ∀ identifier ∈ item.identifiers, identifier.IsValid := by
  have ascii : ∀ model ∈ models, ∀ name ∈ model.localNames, Text.IsAscii name := by
    decide +kernel
  have generated : items models = .ok declared := by decide +kernel
  rcases exists_valid_text ascii with ⟨others, sameItems, _, valid⟩
  cases generated.symm.trans sameItems
  exact ⟨ascii, valid⟩

end SchemaContent.OddNames
