import Mathlib.Data.List.Basic
import SchemaContent.Proofs.ItemReferences

/-! # The order of items

The file has one struct for each content of the models, at any depth, and one alias for
each simple type in them. Each of them stands where what it needs is already there, so
that the items can be read from first to last. -/

namespace SchemaContent.Declarations

/-! ## Accounts of models -/

def Origin.owner? : Origin → Option Owner
  | .content owner [] => some owner
  | _ => none

/-- An owner's struct has the name that the catalogue gives it. Where the catalogue has
none, the name of the owner is taken as it is. -/
def Catalogue.ownerNames (catalogue : Catalogue) : Naming := fun owner identifier =>
  catalogue.structNames owner identifier ∨
    .content owner [] ∉ catalogue.origins ∧
      identifierOf (Text.upperCamelCase ((owner.name?.map (·.localName)).getD "")) =
        .ok identifier

/-- The catalogue has one entry for each simple type and for each content in the models,
those of contents in order, and each entry was ready when those before it were there. -/
structure Catalogue.Accounts (catalogue : Catalogue) (models : List ContentModel) : Prop where
  once : catalogue.origins.Nodup
  complete : ∀ origin, origin ∈ catalogue.origins ↔ ∃ model ∈ models, origin.OccursIn model
  owners : catalogue.origins.filterMap Origin.owner? = models.map (·.owner)
  contents : catalogue.contents = models.flatMap modelContents
  ready : ∀ before entry after, catalogue = before ++ entry :: after →
    Ready catalogue.ownerNames models before entry

/-! ## Owners' structs -/

mutual

/-- No content inside a member is the own content of an owner. -/
theorem owners_memberContents (owner : Owner) :
    ∀ (member : Member) {place : List Nat}, place ≠ [] →
      (memberContents owner place member).filterMap Origin.owner? = []
  | ⟨_, _, .inline members, _, _⟩, [], isInside => absurd rfl isInside
  | ⟨_, _, .inline members, _, _⟩, first :: rest, _ => by
      rw [memberContents, List.filterMap_append,
        owners_contentsFrom owner members (first :: rest) 0]
      rfl
  | ⟨_, _, .builtin _, _, _⟩, _, _ => rfl
  | ⟨_, _, .simple _, _, _⟩, _, _ => rfl
  | ⟨_, _, .complex _, _, _⟩, _, _ => rfl
  | ⟨_, _, .anonymousSimple, _, _⟩, _, _ => rfl
  | ⟨_, _, .anonymousComplex _, _, _⟩, _, _ => rfl

theorem owners_contentsFrom (owner : Owner) :
    ∀ (members : List Member) (place : List Nat) (position : Nat),
      (contentsFrom owner place position members).filterMap Origin.owner? = []
  | [], place, position => by
      rw [contentsFrom]
      rfl
  | member :: rest, place, position => by
      have isInside : place ++ [position] ≠ [] := by simp
      rw [contentsFrom, List.filterMap_append, owners_memberContents owner member isInside,
        owners_contentsFrom owner rest place (position + 1)]
      rfl

end

theorem owners_modelContents (models : List ContentModel) :
    (models.flatMap modelContents).filterMap Origin.owner? = models.map (·.owner) := by
  induction models with
  | nil => rfl
  | cons model rest induction =>
      rw [List.flatMap_cons, List.filterMap_append, induction, modelContents,
        List.filterMap_append, owners_contentsFrom]
      rfl

theorem owners_of_contents (catalogue : Catalogue) :
    catalogue.contents.filterMap Origin.owner? = catalogue.origins.filterMap Origin.owner? := by
  rw [Catalogue.contents, List.filterMap_filter]
  congr 1
  funext origin
  cases origin <;> rfl

/-! ## Entries -/

theorem Catalogue.Ready.rename {naming other : Naming} {models : List ContentModel}
    {catalogue : Catalogue} {entry : Origin × Item}
    (ready : catalogue.Ready naming models entry)
    (renamed : ∀ owner identifier, naming owner identifier → other owner identifier) :
    catalogue.Ready other models entry := by
  rcases ready with ⟨name, identifier⟩ | ⟨isModel, isPart, matched⟩
  · exact .alias name identifier
  · refine .struct isModel isPart (matched.imp ?_)
    rintro ⟨member, position⟩ field ⟨suits, wrapped, names⟩
    exact ⟨suits, wrapped, names.rename (fun _ _ => renamed _ _) (fun _ _ => renamed _ _)⟩

/-- All that is there in the models is entered. -/
theorem Catalogue.DeclaresModel.mem_origins {structs : List (Owner × Identifier)}
    {catalogue : Catalogue} {model : ContentModel}
    (declares : catalogue.DeclaresModel structs model) {origin : Origin}
    (occurs : origin.OccursIn model) : origin ∈ catalogue.origins := by
  cases origin with
  | simpleType name =>
      rcases occurs with ⟨place, part, isPart, member, isMember, isSimple⟩
      rcases declares.declares place part isPart with ⟨_, fields, _, matched⟩
      rcases List.mem_iff_getElem?.mp isMember with ⟨position, isThere⟩
      have isNumbered : (member, position) ∈ part.zipIdx :=
        List.mem_zipIdx_iff_getElem?.mpr isThere
      rcases exists_of_mem_of_forall₂ matched isNumbered with ⟨field, _, names⟩
      have isEntry : (.simpleType name, .alias field.type) ∈ catalogue := by
        simpa only [isSimple, Catalogue.Names] using names
      exact List.mem_map_of_mem isEntry
  | content owner place =>
      rcases occurs with ⟨rfl, part, isPart⟩
      rcases declares.declares place part isPart with ⟨_, _, isEntry, _⟩
      exact List.mem_map_of_mem isEntry

/-- What is on record when items have been declared accounts for the models. -/
theorem Ledger.Completes.accounts {structs : List (Owner × Identifier)} {draft : Draft}
    {ledger : Ledger} {models : List ContentModel} (completes : ledger.Completes structs models)
    (records : Records structs draft ledger) : ledger.catalogue.Accounts models := by
  have complete : ∀ origin, origin ∈ ledger.catalogue.origins ↔
      ∃ model ∈ models, origin.OccursIn model := by
    intro origin
    constructor
    · exact completes.occurs origin
    · rintro ⟨model, isModel, occurs⟩
      exact (completes.declares model isModel).mem_origins occurs
  have renamed : ∀ owner identifier, chosenNames structs owner identifier →
      ledger.catalogue.ownerNames owner identifier := by
    intro owner identifier chosen
    rw [chosenNames] at chosen
    cases known : structs.lookup owner with
    | some name =>
        have isNamed : (structs.lookup owner).isSome := by rw [known]; rfl
        rcases List.mem_map.mp ((completes.named owner).mp isNamed) with ⟨model, isModel, rfl⟩
        rw [known] at chosen
        rw [chosen]
        exact .inl ((completes.declares model isModel).named name known)
    | none =>
        rw [known] at chosen
        refine .inr ⟨?_, chosen⟩
        intro isOrigin
        rcases completes.occurs _ isOrigin with ⟨model, isModel, isOwner, _⟩
        have isNamed := (completes.named owner).mpr
          (List.mem_map.mpr ⟨model, isModel, isOwner.symm⟩)
        rw [known] at isNamed
        cases isNamed
  refine ⟨records.origins, complete, ?_, completes.inOrder, ?_⟩
  · rw [← owners_of_contents, completes.inOrder, owners_modelContents]
  · intro before entry after split
    exact (completes.entered.ready split).rename renamed

/-- If no two models have the same owner, the file has one struct for each model, in order,
and one for each content inside, one alias for each simple type, and nothing else. The
alias or struct for the type of a member stands before the struct of which that member is
a field, unless it is the struct of an owner. -/
theorem exists_accounts_of_text {models : List ContentModel} {file : String}
    (distinct : (models.map (·.owner)).Nodup) (generated : text models = .ok file) :
    ∃ catalogue : Catalogue, items models = .ok (catalogue.map Prod.snd) ∧
      file = fileText (catalogue.map Prod.snd) ∧ catalogue.Accounts models := by
  rcases exists_items_of_text generated with ⟨declared, itemsGenerated, rfl⟩
  rcases exists_ledger itemsGenerated distinct with
    ⟨structs, draft, ledger, rfl, records, completes⟩
  rw [itemsGenerated, records.items]
  exact ⟨ledger.catalogue, rfl, rfl, completes.accounts records⟩

end SchemaContent.Declarations

/-! ### Orders

Two models that share a simple type, which is first used inside a content. The type of one
member is that of an owner without a model. -/

namespace SchemaContent.Orders

open Declarations

def member (localName : String) (type : MemberType) (occurrence : Occurrence) : Member :=
  ⟨⟨none, localName⟩, none, type, occurrence, .outside⟩

def models : List ContentModel :=
  [⟨.element ⟨none, "order"⟩,
      [member "line" (.inline [
          member "part" (.simple ⟨none, "code"⟩) .unstated,
          member "size" (.inline [member "unit" (.simple ⟨none, "unit"⟩) ⟨some 0, none⟩])
            ⟨none, some (.count 2)⟩])
        ⟨some 0, some .unbounded⟩,
      member "buyer" (.complex ⟨none, "party"⟩) .unstated,
      member "code" (.simple ⟨none, "code"⟩) ⟨none, some (.count 0)⟩]⟩,
    ⟨.complexType ⟨none, "order"⟩,
      [member "total" (.anonymousComplex ⟨none, "order"⟩) .unstated,
        member "unit" (.simple ⟨none, "unit"⟩) ⟨some 0, some (.count 1)⟩]⟩]

def declared : List Item :=
  let named (text : String) : Identifier := ⟨text, false⟩
  [.alias (named "Code"), .alias (named "Unit"),
    .struct (named "Size") [⟨named "unit", .optional, named "Unit"⟩],
    .struct (named "Line") [⟨named "part", .one, named "Code"⟩,
      ⟨named "sizes", .many, named "Size"⟩],
    .struct (named "Order") [⟨named "lines", .many, named "Line"⟩,
      ⟨named "buyer", .one, named "Party"⟩, ⟨named "code", .one, named "Code"⟩],
    .struct (named "OrderInner") [⟨named "total", .one, named "Order"⟩,
      ⟨named "unit", .optional, named "Unit"⟩]]

theorem exists_accounts_of_orders :
    text models = .ok (fileText declared) ∧
      ∃ catalogue : Catalogue, catalogue.map Prod.snd = declared ∧ catalogue.Accounts models := by
  have distinct : (models.map (·.owner)).Nodup := by decide
  have itemsGenerated : items models = .ok declared := by decide +kernel
  have generated := text_of_items itemsGenerated
  rcases exists_accounts_of_text distinct generated with ⟨catalogue, sameItems, _, accounts⟩
  rw [itemsGenerated] at sameItems
  exact ⟨generated, catalogue, (Except.ok.inj sameItems).symm, accounts⟩

end SchemaContent.Orders
