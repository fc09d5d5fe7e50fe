import SchemaContent.Proofs.TakenNames

/-! # Standard names

Built-in types become types that every program knows, and so does the type around a
field that may be absent or repeated. A file relies on the names of these types. No item
is called like a primitive type, since names of items do not begin with small letters,
but nothing keeps items from being called `String`, `Option` or `Vec`. -/

namespace SchemaContent.Declarations

/-- A built-in type is written so in a file, or the type around one. -/
def IsStandard (word : String) : Prop :=
  (∃ builtin, builtinType builtin = word) ∨
    ∃ multiplicity, Multiplicity.wrapper? multiplicity = some word

def capitalTypes : List String := ["String", "Option", "Vec"]

def primitiveTypes : List String :=
  ["bool", "f64", "f32", "i64", "i32", "i16", "i8", "u64", "u32", "u16", "u8"]

/-! ## The words -/

namespace IsStandard

variable {word : String} (isStandard : IsStandard word)

include isStandard

theorem mem : word ∈ capitalTypes ++ primitiveTypes := by
  rcases isStandard with ⟨builtin, rfl⟩ | ⟨multiplicity, isWrapper⟩
  · unfold builtinType
    split <;> decide
  · cases multiplicity <;> cases isWrapper <;> decide

theorem isRoot : IsRoot word := by
  have notLast : ∀ word ∈ capitalTypes ++ primitiveTypes,
      word.toList.getLast? ≠ some 'r' := by
    decide
  exact isRoot_of_getLast? (notLast word isStandard.mem)

theorem identifierOf_eq_ok :
    '_' ∉ word.toList ∧ identifierOf word = .ok ⟨word, false⟩ := by
  have valid : ∀ word ∈ capitalTypes ++ primitiveTypes,
      '_' ∉ word.toList ∧ identifierOf word = .ok ⟨word, false⟩ := by
    decide +kernel
  exact valid word isStandard.mem

end IsStandard

/-! ## Names of items -/

theorem not_isSmallAscii_of_mem_baseNames {models : List ContentModel} {name : String}
    (isBase : name ∈ baseNames models) {first : Char} (isFirst : name.toList.head? = some first) :
    ¬Text.IsSmallAscii first := by
  rcases List.mem_append.mp isBase with isOwner | isMember
  · rcases List.mem_map.mp isOwner with ⟨model, _, rfl⟩
    rw [ownerBase] at isFirst
    split at isFirst
    · exact Text.not_isSmallAscii_of_head_upperCamelCase isFirst
    · cases isFirst
      unfold Text.IsSmallAscii
      decide
  · rcases List.mem_map.mp isMember with ⟨localName, _, rfl⟩
    exact Text.not_isSmallAscii_of_head_upperCamelCase isFirst

theorem mem_capitalTypes {models : List ContentModel} {word : String}
    (isStandard : IsStandard word) (isBase : word ∈ baseNames models) : word ∈ capitalTypes := by
  rcases List.mem_append.mp isStandard.mem with isCapital | isPrimitive
  · exact isCapital
  · have beginsSmall : ∀ word ∈ primitiveTypes, word.toList.head?.any fun first =>
        97 ≤ first.toNat && first.toNat ≤ 122 := by
      decide
    rcases (Option.any_eq_true _ _).mp (beginsSmall word isPrimitive) with
      ⟨first, isFirst, isSmall⟩
    rw [Bool.and_eq_true, decide_eq_true_eq, decide_eq_true_eq] at isSmall
    exact absurd isSmall (not_isSmallAscii_of_mem_baseNames isBase isFirst)

/-- An item is called like a type that the file relies on just if the name is `String`,
`Option` or `Vec` and is asked for: by an owner, or by a simple type or an inline content
at any depth. -/
theorem exists_item_iff_of_isStandard {set : SchemaSet} {models : List ContentModel}
    {file : String} (compiled : set.contentModels = .ok models)
    (generated : text models = .ok file) :
    ∃ declared, items models = .ok declared ∧ file = fileText declared ∧
      ∀ word, IsStandard word →
        ((∃ item ∈ declared, item.name.spelling = word) ↔
          word ∈ capitalTypes ∧ word ∈ baseNames models) := by
  have distinct := (owners_closed compiled).1
  rcases exists_items_of_text generated with ⟨declared, itemsGenerated, rfl⟩
  refine ⟨declared, itemsGenerated, rfl, ?_⟩
  intro word isStandard
  rcases isStandard.identifierOf_eq_ok with ⟨without, valid⟩
  have isAsked := exists_item_iff_mem_baseNames itemsGenerated distinct isStandard.isRoot
    without valid
  rw [and_iff_right_of_imp (mem_capitalTypes isStandard)]
  exact isAsked

end SchemaContent.Declarations

/-! ### Menus

A complex type with the name of the type around its first field, and a simple type with
the name that the alias for it is given as its meaning. -/

namespace SchemaContent.Menus

open Declarations

def element (localName : String) (type : Reference) (occurrence : Occurrence) :
    ElementDeclaration :=
  ⟨.named localName, some type, none, [], occurrence, none⟩

def option : ComplexType where
  name := some "Option"
  content := some (.group .sequence ⟨.unstated, [
    .element (element "label" ⟨some "xs", "string"⟩ ⟨some 0, none⟩),
    .element (element "note" ⟨none, "string"⟩ ⟨none, some .unbounded⟩)]⟩)

def schema : Schema where
  location := none
  targetNamespace := none
  elementForm := .unqualified
  bindings := .ofList [(some "xs", schemaNamespace)]
  directives := []
  elements := []
  complexTypes := [option]
  simpleTypes := ["string"]

def set : SchemaSet where
  schemas := [schema]
  affiliated := by decide +kernel

def models : List ContentModel :=
  [⟨.complexType ⟨none, "Option"⟩,
    [⟨⟨none, "label"⟩, none, .builtin ⟨some schemaNamespace, "string"⟩, ⟨some 0, none⟩,
        .complexType ⟨none, "Option"⟩⟩,
      ⟨⟨none, "note"⟩, none, .simple ⟨none, "string"⟩, ⟨none, some .unbounded⟩,
        .complexType ⟨none, "Option"⟩⟩]⟩]

def declared : List Item :=
  let named (text : String) : Identifier := ⟨text, false⟩
  [.alias (named "String"),
    .struct (named "Option") [⟨named "label", .optional, named "String"⟩,
      ⟨named "notes", .many, named "String"⟩]]

theorem compiled : set.contentModels = .ok models := by
  decide +kernel

theorem itemsGenerated : items models = .ok declared := by
  decide +kernel

theorem exists_item_iff_of_menu :
    set.contentModels = .ok models ∧ text models = .ok (fileText declared) ∧
      (∃ item ∈ declared, item.name.spelling = "Option") ∧
        ¬∃ item ∈ declared, item.name.spelling = "Vec" := by
  have generated := text_of_items itemsGenerated
  rcases exists_item_iff_of_isStandard compiled generated with ⟨others, sameItems, _, isItem⟩
  cases itemsGenerated.symm.trans sameItems
  refine ⟨compiled, generated, ?_, ?_⟩
  · rw [isItem "Option" (.inr ⟨.optional, rfl⟩)]
    decide +kernel
  · rw [isItem "Vec" (.inr ⟨.many, rfl⟩)]
    decide +kernel

/-- The struct of the complex type hides the type around its own field. -/
theorem not_always_unlike_standard :
    ¬∀ (set : SchemaSet) (models : List ContentModel) (declared : List Item),
      set.contentModels = .ok models → items models = .ok declared →
        ∀ item ∈ declared, ¬IsStandard item.name.spelling := by
  intro unlike
  exact unlike set models declared compiled itemsGenerated _
    (List.mem_cons_of_mem _ List.mem_cons_self) (.inr ⟨.optional, rfl⟩)

end SchemaContent.Menus
