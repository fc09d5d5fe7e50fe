import SchemaContent.Proofs.ItemReferences

/-! # Names that are taken

A name is varied only where it is taken already. So the names that are no variants of
others are taken just if types ask for them: those of owners, simple types and inline
contents. Each name that is taken becomes the name of one item. -/

namespace SchemaContent.Declarations

/-! ## Roots -/

/-- It is no variant of another name. -/
def IsRoot (name : String) : Prop :=
  ∀ base, name ≠ base ++ "Inner"

theorem isRoot_of_getLast? {name : String} (notLast : name.toList.getLast? ≠ some 'r') :
    IsRoot name := by
  rintro base rfl
  rw [String.toList_append, List.getLast?_append] at notLast
  exact notLast rfl

theorem mem_firstFree_cons_iff {name : String} (isRoot : IsRoot name) (taken : List String)
    (base : String) :
    name ∈ firstFree taken (innerVariant base) :: taken ↔ name ∈ taken ∨ name = base := by
  constructor
  · intro isTaken
    rcases List.mem_cons.mp isTaken with isVariant | isEarlier
    · have ⟨_, count, variant⟩ := firstFree_spec taken (innerVariant_injective base)
      rw [variant] at isVariant
      cases count with
      | zero => exact .inr isVariant
      | succ count => exact absurd isVariant (isRoot _)
    · exact .inl isEarlier
  · rintro (isEarlier | rfl)
    · exact List.mem_cons_of_mem _ isEarlier
    · exact mem_firstFree_cons taken (innerVariant name)

/-! ## Bases -/

mutual

/-- The local names that names are made of for the type of a member: that of a simple type,
or those of an element and of what its inline content asks for. -/
def memberTypeNames : Member → List String
  | ⟨name, _, type, _, _⟩ =>
    match type with
    | .simple simple => [simple.localName]
    | .inline members => name.localName :: contentTypeNames members
    | .builtin _ | .complex _ | .anonymousSimple | .anonymousComplex _ => []

def contentTypeNames : List Member → List String
  | [] => []
  | member :: rest => memberTypeNames member ++ contentTypeNames rest

end

/-- The names that are asked for on account of models, before they are varied: for the
owners, and for the simple types and the inline contents at any depth. -/
def baseNames (models : List ContentModel) : List String :=
  models.map (ownerBase ·.owner) ++
    (models.flatMap fun model => contentTypeNames model.members).map Text.upperCamelCase

/-! ## Drafts -/

/-- These names have been asked for, and all but so many of the names that are taken
have become names of items. -/
structure Draft.Serves (draft : Draft) (bases : List String) (waiting : Nat) : Prop where
  roots : ∀ name, IsRoot name → (name ∈ draft.taken ↔ name ∈ bases)
  aliased : ∀ name identifier, draft.aliases.lookup name = some identifier →
    Text.upperCamelCase name.localName ∈ bases
  counted : draft.taken.length = draft.items.length + waiting

variable {draft after : Draft} {bases : List String} {waiting : Nat} {identifier : Identifier}

namespace Draft.Serves

theorem start : Serves ⟨[], [], [], []⟩ [] 0 where
  roots _ _ := Iff.rfl
  aliased := nofun
  counted := rfl

theorem declare (serves : draft.Serves bases (waiting + 1)) (item : Item) :
    Serves { draft with items := draft.items ++ [item] } bases waiting where
  roots := serves.roots
  aliased := serves.aliased
  counted := by
    rw [List.length_append, List.length_singleton, serves.counted]
    omega

variable (serves : draft.Serves bases waiting)

include serves

theorem take (base : String) :
    Serves { draft with taken := firstFree draft.taken (innerVariant base) :: draft.taken }
      (bases ++ [base]) (waiting + 1) where
  roots name isRoot := by
    rw [mem_firstFree_cons_iff isRoot, serves.roots name isRoot, List.mem_append,
      List.mem_singleton]
  aliased name identifier isKnown :=
    List.mem_append_left _ (serves.aliased name identifier isKnown)
  counted := by
    rw [List.length_cons, serves.counted]
    rfl

/-- A name that was asked for already may be asked for again. -/
theorem again {base : String} (isBase : base ∈ bases) : draft.Serves (bases ++ [base]) waiting where
  roots name isRoot := by
    have absorbed : name = base → name ∈ bases := fun same => same ▸ isBase
    rw [serves.roots name isRoot, List.mem_append, List.mem_singleton, or_iff_left_of_imp absorbed]
  aliased name identifier isKnown :=
    List.mem_append_left _ (serves.aliased name identifier isKnown)
  counted := serves.counted

end Draft.Serves

theorem serves_of_takeTypeName (serves : draft.Serves bases waiting) {base : String}
    (ran : (takeTypeName base).run draft = .ok (identifier, after)) :
    after.Serves (bases ++ [base]) (waiting + 1) := by
  rw [run_takeTypeName] at ran
  rcases exists_of_bind_eq_ok ran with ⟨_, _, ran⟩
  cases ran
  exact serves.take base

theorem serves_of_structOf (serves : draft.Serves bases waiting) {owner : Owner}
    (ran : (structOf owner).run draft = .ok (identifier, after)) :
    after.Serves bases waiting := by
  rw [run_structOf] at ran
  split at ran
  · cases ran
    exact serves
  · rcases exists_of_bind_eq_ok ran with ⟨_, _, ran⟩
    cases ran
    exact serves

theorem serves_of_aliasOf (serves : draft.Serves bases waiting) {name : ExpandedName}
    (ran : (aliasOf name).run draft = .ok (identifier, after)) :
    after.Serves (bases ++ [Text.upperCamelCase name.localName]) waiting := by
  rw [run_aliasOf] at ran
  split at ran
  · rename_i known isKnown
    cases ran
    exact serves.again (serves.aliased name identifier isKnown)
  · rcases exists_of_bind_eq_ok ran with ⟨⟨chosen, named⟩, took, ran⟩
    cases ran
    have declared := (serves_of_takeTypeName serves took).declare (.alias identifier)
    refine ⟨declared.roots, ?_, declared.counted⟩
    intro other known isKnown
    rw [List.lookup_cons] at isKnown
    split at isKnown
    · rename_i same
      rw [eq_of_beq same]
      exact List.mem_append_right _ List.mem_cons_self
    · exact declared.aliased other known isKnown

/-! ## Contents -/

mutual

theorem serves_of_typeOf :
    ∀ (member : Member) {draft after : Draft} {bases : List String} {waiting : Nat}
      {identifier : Identifier}, draft.Serves bases waiting →
      (typeOf member).run draft = .ok (identifier, after) →
      after.Serves (bases ++ (memberTypeNames member).map Text.upperCamelCase) waiting
  | ⟨name, reference, .builtin builtin, occurrence, owner⟩, draft, after, bases, waiting,
      identifier, serves, ran => by
      rw [typeOf] at ran
      cases ran
      rw [memberTypeNames, List.map_nil, List.append_nil]
      exact serves
  | ⟨name, reference, .anonymousSimple, occurrence, owner⟩, draft, after, bases, waiting,
      identifier, serves, ran => by
      rw [typeOf] at ran
      cases ran
      rw [memberTypeNames, List.map_nil, List.append_nil]
      exact serves
  | ⟨name, reference, .complex complex, occurrence, owner⟩, draft, after, bases, waiting,
      identifier, serves, ran => by
      rw [typeOf] at ran
      rw [memberTypeNames, List.map_nil, List.append_nil]
      exact serves_of_structOf serves ran
  | ⟨name, reference, .anonymousComplex element, occurrence, owner⟩, draft, after, bases,
      waiting, identifier, serves, ran => by
      rw [typeOf] at ran
      rw [memberTypeNames, List.map_nil, List.append_nil]
      exact serves_of_structOf serves ran
  | ⟨name, reference, .simple simple, occurrence, owner⟩, draft, after, bases, waiting,
      identifier, serves, ran => by
      rw [typeOf] at ran
      exact serves_of_aliasOf serves ran
  | ⟨name, reference, .inline members, occurrence, owner⟩, draft, after, bases, waiting,
      identifier, serves, ran => by
      rw [run_typeOf_inline] at ran
      rcases exists_of_bind_eq_ok ran with ⟨⟨chosen, named⟩, took, ran⟩
      rcases exists_of_bind_eq_ok ran with ⟨⟨drafts, filled⟩, drafted, ran⟩
      rcases exists_of_bind_eq_ok ran with ⟨fields, _, ran⟩
      cases ran
      have filledServes := serves_of_draftFields members (serves_of_takeTypeName serves took)
        drafted
      rw [List.append_assoc] at filledServes
      rw [memberTypeNames]
      exact filledServes.declare (.struct identifier fields)

theorem serves_of_draftFields :
    ∀ (members : List Member) {draft after : Draft} {bases : List String} {waiting : Nat}
      {drafts : List DraftField}, draft.Serves bases waiting →
      (draftFields members).run draft = .ok (drafts, after) →
      after.Serves (bases ++ (contentTypeNames members).map Text.upperCamelCase) waiting
  | [], draft, after, bases, waiting, drafts, serves, ran => by
      rw [draftFields] at ran
      cases ran
      rw [contentTypeNames, List.map_nil, List.append_nil]
      exact serves
  | member :: rest, draft, after, bases, waiting, drafts, serves, ran => by
      rw [run_draftFields_cons] at ran
      rcases exists_of_bind_eq_ok ran with ⟨⟨type, typed⟩, typeRan, ran⟩
      rcases exists_of_bind_eq_ok ran with ⟨⟨others, filled⟩, drafted, ran⟩
      cases ran
      rw [contentTypeNames, List.map_append, ← List.append_assoc]
      exact serves_of_draftFields rest (serves_of_typeOf member serves typeRan) drafted

end

/-! ## Models -/

theorem serves_of_nameOwner (serves : draft.Serves bases waiting) {owner : Owner}
    (ran : (nameOwner owner).run draft = .ok ((), after)) :
    after.Serves (bases ++ [ownerBase owner]) (waiting + 1) := by
  rw [run_nameOwner] at ran
  rcases exists_of_bind_eq_ok ran with ⟨⟨identifier, named⟩, took, ran⟩
  cases ran
  have namedServes := serves_of_takeTypeName serves took
  exact ⟨namedServes.roots, namedServes.aliased, namedServes.counted⟩

theorem serves_of_nameOwners (models : List ContentModel) :
    ∀ {draft after : Draft} {bases : List String} {waiting : Nat},
      draft.Serves bases waiting →
      (models.forM fun model => nameOwner model.owner).run draft = .ok ((), after) →
      after.Serves (bases ++ models.map (ownerBase ·.owner)) (waiting + models.length) := by
  induction models with
  | nil =>
      intro draft after bases waiting serves ran
      cases ran
      rw [List.map_nil, List.append_nil]
      exact serves
  | cons model rest induction =>
      intro draft after bases waiting serves ran
      rw [run_forM_cons] at ran
      rcases exists_of_bind_eq_ok ran with ⟨⟨_, middle⟩, nameRan, ran⟩
      have restServes := induction (serves_of_nameOwner serves nameRan) ran
      rw [List.append_assoc, Nat.add_assoc, Nat.add_comm 1] at restServes
      exact restServes

theorem serves_of_declareModels (models : List ContentModel) :
    ∀ {draft after : Draft} {bases : List String} {waiting : Nat},
      draft.Serves bases (waiting + models.length) →
      (models.forM declareModel).run draft = .ok ((), after) →
      after.Serves (bases ++
        (models.flatMap fun model => contentTypeNames model.members).map Text.upperCamelCase)
        waiting := by
  induction models with
  | nil =>
      intro draft after bases waiting serves ran
      cases ran
      rw [List.flatMap_nil, List.map_nil, List.append_nil]
      exact serves
  | cons model rest induction =>
      intro draft after bases waiting serves ran
      rw [run_forM_cons] at ran
      rcases exists_of_bind_eq_ok ran with ⟨⟨_, middle⟩, modelRan, ran⟩
      rw [run_declareModel] at modelRan
      rcases exists_of_bind_eq_ok modelRan with ⟨⟨name, looked⟩, structRan, modelRan⟩
      rcases exists_of_bind_eq_ok modelRan with ⟨⟨drafts, filled⟩, drafted, modelRan⟩
      rcases exists_of_bind_eq_ok modelRan with ⟨fields, _, modelRan⟩
      cases modelRan
      have filledServes := serves_of_draftFields model.members
        (serves_of_structOf serves structRan) drafted
      rw [List.length_cons, ← Nat.add_assoc] at filledServes
      rw [List.flatMap_cons, List.map_append, ← List.append_assoc]
      exact induction (filledServes.declare (.struct name fields)) ran

/-! ## Items -/

/-- If as many items are declared as names are taken, the names of items are those
names. -/
theorem names_perm_taken {structs : List (Owner × Identifier)} {ledger : Ledger}
    (records : Records structs draft ledger) (counted : draft.taken.length = draft.items.length) :
    ((draft.items.map Item.name).map Except.ok).Perm (draft.taken.map identifierOf) := by
  have distinct : ((draft.items.map Item.name).map Identifier.spelling).Nodup := by
    rw [records.items, List.map_map, List.map_map]
    exact records.distinct_spellings
  have areTaken : (draft.items.map Item.name).map Except.ok ⊆ draft.taken.map identifierOf := by
    rw [records.items, records.taken, List.map_map, List.map_map, List.map_map]
    intro named isNamed
    rcases List.mem_map.mp isNamed with ⟨entry, isEntry, rfl⟩
    rcases records.named entry isEntry with ⟨name, isClaim, valid⟩
    exact List.mem_map.mpr ⟨_, isClaim, valid⟩
  -- They differ and there are as many of them, so no name is left over.
  have subperm := List.subperm_of_subset
    (distinct.of_map.map fun _ _ => Except.ok.inj) areTaken
  apply subperm.perm_of_length_le
  rw [List.length_map, List.length_map, List.length_map]
  exact Nat.le_of_eq counted

/-- A name that is no variant of another is that of an item just if it is asked for. -/
theorem exists_item_iff_mem_baseNames {models : List ContentModel} {declared : List Item}
    (generated : items models = .ok declared) (distinct : (models.map (·.owner)).Nodup)
    {name : String} (isRoot : IsRoot name) (without : '_' ∉ name.toList)
    {identifier : Identifier} (valid : identifierOf name = .ok identifier) :
    (∃ item ∈ declared, item.name.spelling = identifier.spelling) ↔ name ∈ baseNames models := by
  rcases exists_runs_of_items generated with ⟨named, draft, nameRan, declareRan, rfl⟩
  rcases exists_ledger_of_runs nameRan declareRan distinct with ⟨_, ledger, records, _⟩
  have namedServes := serves_of_nameOwners models .start nameRan
  have serves := serves_of_declareModels models namedServes declareRan
  have isAsked : name ∈ draft.taken ↔ name ∈ baseNames models := serves.roots name isRoot
  have same := names_perm_taken records serves.counted
  rw [← isAsked]
  constructor
  · rintro ⟨item, isItem, spelled⟩
    have isName := same.subset (List.mem_map_of_mem (List.mem_map_of_mem isItem))
    rcases List.mem_map.mp isName with ⟨other, isTaken, otherValid⟩
    have sameName := eq_of_spelling_eq (records.plain other isTaken) without otherValid valid
      spelled
    exact sameName ▸ isTaken
  · intro isTaken
    have isName := same.symm.subset (List.mem_map_of_mem isTaken)
    rw [valid] at isName
    rcases List.mem_map.mp isName with ⟨_, isName, named⟩
    cases named
    rcases List.mem_map.mp isName with ⟨item, isItem, rfl⟩
    exact ⟨item, isItem, rfl⟩

end SchemaContent.Declarations
