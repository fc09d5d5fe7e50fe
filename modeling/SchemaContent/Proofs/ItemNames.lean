import SchemaContent.Proofs.ItemReferences

/-! # Names of items

The names of items are chosen one after the other and written as identifiers only then.
They come from owners, from simple types and from elements with inline types, and a
name that a schema declares may look like one that was varied to be free. In the file
they are told apart all the same. -/

namespace SchemaContent.Declarations

/-- No two items of a file, whether structs of owners, structs of inline contents at any
depth or aliases, have names that are printed alike. -/
theorem nodup_spellings {models : List ContentModel} {file : String}
    (distinct : (models.map (·.owner)).Nodup) (generated : text models = .ok file) :
    ∃ declared : List Item, items models = .ok declared ∧ file = fileText declared ∧
      (declared.map fun item => item.name.spelling).Nodup := by
  rcases exists_items_of_text generated with ⟨declared, itemsGenerated, rfl⟩
  refine ⟨declared, itemsGenerated, rfl, ?_⟩
  rcases exists_ledger itemsGenerated distinct with ⟨_, _, ledger, rfl, records, _⟩
  rw [records.items, List.map_map]
  exact records.distinct_spellings

end SchemaContent.Declarations

/-! ### Namesakes

Names that clash before or after they are varied, and names that are no identifiers. -/

namespace SchemaContent.Namesakes

open Declarations

def member (localName : String) (type : MemberType) : Member :=
  ⟨⟨none, localName⟩, none, type, .unstated, .outside⟩

def models : List ContentModel :=
  [⟨.element ⟨none, "self"⟩,
      [member "Self" (.inline [member "1st" (.inline []), member "1_ST" (.inline [])])]⟩,
    ⟨.complexType ⟨none, "SelfInner"⟩, [member "kind" (.simple ⟨some "urn:t", "self"⟩)]⟩,
    ⟨.element ⟨none, "?"⟩, [member "inner" (.simple ⟨none, "Inner"⟩)]⟩,
    ⟨.element ⟨none, "!"⟩, []⟩]

def named (text : String) : Identifier :=
  ⟨text, false⟩

def declared : List Item :=
  [.struct (named "_1st") [], .struct (named "_1St") [],
    .struct (named "SelfInnerInner")
      [⟨named "_1st", .one, named "_1st"⟩, ⟨named "_1_st", .one, named "_1St"⟩],
    .struct (named "Self_") [⟨named "self_", .one, named "SelfInnerInner"⟩],
    .alias (named "SelfInnerInnerInner"),
    .struct (named "SelfInner") [⟨named "kind", .one, named "SelfInnerInnerInner"⟩],
    .alias (named "InnerInner"),
    .struct (named "_empty") [⟨named "inner", .one, named "InnerInner"⟩],
    .struct (named "Inner") []]

theorem nodup_spellings_of_models :
    (models.map (·.owner)).Nodup ∧ text models = .ok (fileText declared) ∧
      (declared.map fun item => item.name.spelling).Nodup := by
  have distinct : (models.map (·.owner)).Nodup := by decide
  have itemsGenerated : items models = .ok declared := by decide +kernel
  have generated := text_of_items itemsGenerated
  rcases nodup_spellings distinct generated with ⟨others, sameItems, _, areDistinct⟩
  cases itemsGenerated.symm.trans sameItems
  exact ⟨distinct, generated, areDistinct⟩

end SchemaContent.Namesakes
