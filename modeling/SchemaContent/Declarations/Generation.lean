import SchemaContent.ContentModel
import SchemaContent.Declarations.Item

/-! # Declarations for content models

Every content model becomes a struct with a field for each member. The struct of an inline type stands
before the struct that uses it, and a simple type gets an alias before its first use. The names of the
structs of all models are chosen before any other name.
-/

namespace SchemaContent.Declarations

/-- What has been chosen and declared so far: type names that are taken, the structs of owners, the
aliases of simple types, and the items in order. -/
structure Draft where
  taken : List String
  structs : List (Owner × Identifier)
  aliases : List (ExpandedName × Identifier)
  items : List Item

/-- A step of the generation. It fails with a name that is no identifier. -/
abbrev Step := StateT Draft (Except InvalidIdentifier)

/-- The type that a built-in type becomes; types without a counterpart are kept as text. -/
def builtinType (name : ExpandedName) : String :=
  match name.localName with
  | "boolean" => "bool"
  | "double" => "f64"
  | "float" => "f32"
  | "long" => "i64"
  | "int" => "i32"
  | "short" => "i16"
  | "byte" => "i8"
  | "unsignedLong" => "u64"
  | "unsignedInt" => "u32"
  | "unsignedShort" => "u16"
  | "unsignedByte" => "u8"
  | _ => "String"

def takeTypeName (base : String) : Step Identifier := do
  let draft ← get
  let name := firstFree draft.taken (innerVariant base)
  set { draft with taken := name :: draft.taken }
  identifierOf name

def declareItem (item : Item) : Step Unit :=
  modify fun draft => { draft with items := draft.items ++ [item] }

def ownerBase (owner : Owner) : String :=
  match owner.name? with
  | some name => Text.upperCamelCase name.localName
  | none => "Global"

def nameOwner (owner : Owner) : Step Unit := do
  let name ← takeTypeName (ownerBase owner)
  modify fun draft => { draft with structs := (owner, name) :: draft.structs }

/-- The struct of an owner. One without a content model gets the name it would have. -/
def structOf (owner : Owner) : Step Identifier := do
  match (← get).structs.lookup owner with
  | some name => return name
  | none =>
    identifierOf (Text.upperCamelCase ((owner.name?.map (·.localName)).getD ""))

/-- The alias of a simple type, which is declared when it is first asked for. -/
def aliasOf (name : ExpandedName) : Step Identifier := do
  match (← get).aliases.lookup name with
  | some known => return known
  | none =>
    let identifier ← takeTypeName (Text.upperCamelCase name.localName)
    declareItem (.alias identifier)
    modify fun draft => { draft with aliases := (name, identifier) :: draft.aliases }
    return identifier

def multiplicityOf (occurrence : Occurrence) : Multiplicity :=
  if occurrence.isRepeated then .many
  else if occurrence.isOptional then .optional
  else .one

/-- The name of a member's field, before names are told apart. Repeated members have a plural. -/
def fieldBase (name : ExpandedName) (occurrence : Occurrence) : String :=
  Text.snakeCase name.localName ++ if occurrence.isRepeated then "s" else ""

/-- A field whose name may still be that of another field. -/
structure DraftField where
  base : String
  multiplicity : Multiplicity
  type : Identifier

def finishFields (drafts : List DraftField) :
    Except InvalidIdentifier (List Field) :=
  ((numberApart [] (drafts.map (·.base))).zip drafts).mapM fun (name, draft) => do
    return ⟨← identifierOf name, draft.multiplicity, draft.type⟩

mutual

def typeOf : Member → Step Identifier
  | ⟨name, _, type, _, _⟩ =>
    match type with
    | .builtin builtin => return ⟨builtinType builtin, false⟩
    | .simple simple => aliasOf simple
    | .anonymousSimple => return ⟨"String", false⟩
    | .complex complex => structOf (.complexType complex)
    | .anonymousComplex element => structOf (.element element)
    | .inline members => do
      let identifier ← takeTypeName (Text.upperCamelCase name.localName)
      let drafts ← draftFields members
      declareItem (.struct identifier (← finishFields drafts))
      return identifier

def draftFields : List Member → Step (List DraftField)
  | [] => return []
  | member :: rest => do
    let type ← typeOf member
    let draft : DraftField :=
      ⟨fieldBase member.name member.occurrence, multiplicityOf member.occurrence, type⟩
    return draft :: (← draftFields rest)

end

def declareModel (model : ContentModel) : Step Unit := do
  let name ← structOf model.owner
  let drafts ← draftFields model.members
  declareItem (.struct name (← finishFields drafts))

def declareModels (models : List ContentModel) : Step Unit := do
  models.forM fun model => nameOwner model.owner
  models.forM declareModel

def items (models : List ContentModel) : Except InvalidIdentifier (List Item) := do
  let (_, draft) ← (declareModels models).run ⟨[], [], [], []⟩
  return draft.items

def text (models : List ContentModel) : Except InvalidIdentifier String :=
  fileText <$> items models

theorem text_of_items {models : List ContentModel} {declared : List Item}
    (generated : items models = .ok declared) : text models = .ok (fileText declared) := by
  rw [text, generated]
  rfl

theorem exists_items_of_text {models : List ContentModel} {file : String}
    (generated : text models = .ok file) :
    ∃ declared, items models = .ok declared ∧ fileText declared = file :=
  exists_of_map_eq_ok generated

end SchemaContent.Declarations
