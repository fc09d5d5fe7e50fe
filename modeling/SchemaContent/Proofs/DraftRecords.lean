import SchemaContent.Proofs.Catalogue
import SchemaContent.Proofs.TypeNames

/-! # Drafts on record

While items are declared, a ledger is kept: each name that is taken is claimed for what
it is the name of, and each item is entered with what it is declared for. Every step
keeps the ledger right, and each name is claimed once, so that in the end the names tell
the items apart. -/

namespace SchemaContent.Declarations

structure Ledger where
  claims : List (Origin × String)
  catalogue : Catalogue

/-- The ledger is right about the draft, in which the structs of owners have these
names. -/
structure Records (structs : List (Owner × Identifier)) (draft : Draft) (ledger : Ledger) :
    Prop where
  structsKept : draft.structs = structs
  taken : draft.taken = ledger.claims.map Prod.snd
  distinct : draft.taken.Nodup
  plain : ∀ name ∈ draft.taken, '_' ∉ name.toList
  items : draft.items = ledger.catalogue.map Prod.snd
  origins : ledger.catalogue.origins.Nodup
  named : ∀ entry ∈ ledger.catalogue, ∃ name,
    (entry.1, name) ∈ ledger.claims ∧ identifierOf name = .ok entry.2.name
  owners : ∀ owner identifier, structs.lookup owner = some identifier → ∃ name,
    (.content owner [], name) ∈ ledger.claims ∧ identifierOf name = .ok identifier
  aliases : ∀ name identifier, draft.aliases.lookup name = some identifier →
    (.simpleType name, .alias identifier) ∈ ledger.catalogue
  noAlias : ∀ name, draft.aliases.lookup name = none →
    .simpleType name ∉ ledger.catalogue.origins

/-- A later ledger holds all that is in this one, and what is new in it is declared for
something that is allowed; its new structs are those for these contents, in order. -/
structure Ledger.Grows (allowed : Origin → Prop) (contents : List Origin)
    (ledger later : Ledger) : Prop where
  claims : ledger.claims ⊆ later.claims
  catalogue : ledger.catalogue ⊆ later.catalogue
  new : ∀ origin ∈ later.catalogue.origins,
    origin ∈ ledger.catalogue.origins ∨ allowed origin
  contents : later.catalogue.contents = ledger.catalogue.contents ++ contents

/-- Owners' structs are named as it is known, or else as their owners are. -/
def chosenNames (structs : List (Owner × Identifier)) : Naming := fun owner identifier =>
  match structs.lookup owner with
  | some known => identifier = known
  | none =>
    identifierOf (Text.upperCamelCase ((owner.name?.map (·.localName)).getD "")) = .ok identifier

def Ledger.claim (ledger : Ledger) (origin : Origin) (name : String) : Ledger :=
  { ledger with claims := (origin, name) :: ledger.claims }

def Ledger.enter (ledger : Ledger) (origin : Origin) (item : Item) : Ledger :=
  { ledger with catalogue := ledger.catalogue ++ [(origin, item)] }

namespace Ledger

variable {allowed wider : Origin → Prop} {contents others : List Origin}
  {ledger later last : Ledger}

namespace Grows

theorem refl (ledger : Ledger) : ledger.Grows allowed [] ledger where
  claims := List.Subset.refl _
  catalogue := List.Subset.refl _
  new _ := .inl
  contents := (List.append_nil _).symm

theorem trans (first : ledger.Grows allowed contents later)
    (second : later.Grows allowed others last) :
    ledger.Grows allowed (contents ++ others) last where
  claims := List.Subset.trans first.claims second.claims
  catalogue := List.Subset.trans first.catalogue second.catalogue
  new origin isOrigin := by
    rcases second.new origin isOrigin with isEarlier | isAllowed
    · exact first.new origin isEarlier
    · exact .inr isAllowed
  contents := by rw [second.contents, first.contents, List.append_assoc]

theorem widen (grows : ledger.Grows allowed contents later)
    (widened : ∀ origin, allowed origin → wider origin) :
    ledger.Grows wider contents later where
  claims := grows.claims
  catalogue := grows.catalogue
  new origin isOrigin := (grows.new origin isOrigin).imp_right (widened origin)
  contents := grows.contents

theorem not_mem (grows : ledger.Grows allowed contents later) {origin : Origin}
    (isNew : origin ∉ ledger.catalogue.origins) (notAllowed : ¬allowed origin) :
    origin ∉ later.catalogue.origins := by
  intro isOrigin
  rcases grows.new origin isOrigin with isEarlier | isAllowed
  · exact isNew isEarlier
  · exact notAllowed isAllowed

end Grows

theorem grows_claim (ledger : Ledger) (origin : Origin) (name : String) :
    ledger.Grows allowed [] (ledger.claim origin name) where
  claims := List.subset_cons_self _ _
  catalogue := List.Subset.refl _
  new _ := .inl
  contents := (List.append_nil _).symm

theorem origins_enter (ledger : Ledger) (origin : Origin) (item : Item) :
    (ledger.enter origin item).catalogue.origins = ledger.catalogue.origins ++ [origin] :=
  List.map_append

theorem grows_enter (ledger : Ledger) {origin : Origin} (item : Item)
    (isAllowed : allowed origin) :
    ledger.Grows allowed ([origin].filter Origin.isContent) (ledger.enter origin item) where
  claims := List.Subset.refl _
  catalogue := List.subset_append_left _ _
  new other isOrigin := by
    rw [origins_enter, List.mem_append, List.mem_singleton] at isOrigin
    rcases isOrigin with isEarlier | rfl
    · exact .inl isEarlier
    · exact .inr isAllowed
  contents := by rw [Catalogue.contents, origins_enter, List.filter_append]; rfl

theorem grows_enterStruct (ledger : Ledger) {owner : Owner} {place : List Nat}
    (name : Identifier) (fields : List Field) (isAllowed : allowed (.content owner place)) :
    ledger.Grows allowed [.content owner place]
      (ledger.enter (.content owner place) (.struct name fields)) :=
  ledger.grows_enter (.struct name fields) isAllowed

theorem grows_enterAlias (ledger : Ledger) (name : ExpandedName) (identifier : Identifier) :
    ledger.Grows (· = .simpleType name) []
      (ledger.enter (.simpleType name) (.alias identifier)) :=
  @grows_enter (· = .simpleType name) ledger (.simpleType name) (.alias identifier) rfl

theorem mem_enter (ledger : Ledger) (origin : Origin) (item : Item) :
    (origin, item) ∈ (ledger.enter origin item).catalogue :=
  List.mem_append_right _ List.mem_cons_self

end Ledger

/-! ## Keeping the record -/

namespace Records

variable {structs : List (Owner × Identifier)} {draft : Draft} {ledger : Ledger}

theorem start : Records [] ⟨[], [], [], []⟩ ⟨[], []⟩ where
  structsKept := rfl
  taken := rfl
  distinct := .nil
  plain := nofun
  items := rfl
  origins := .nil
  named := nofun
  owners _ _ isKnown := nomatch isKnown
  aliases := nofun
  noAlias _ _ := List.not_mem_nil

variable (records : Records structs draft ledger)

include records

theorem take {name : String} (isFree : name ∉ draft.taken) (without : '_' ∉ name.toList)
    (origin : Origin) :
    Records structs { draft with taken := name :: draft.taken } (ledger.claim origin name) where
  structsKept := records.structsKept
  taken := congrArg _ records.taken
  distinct := List.nodup_cons.mpr ⟨isFree, records.distinct⟩
  plain other isTaken := by
    rcases List.mem_cons.mp isTaken with rfl | isEarlier
    · exact without
    · exact records.plain other isEarlier
  items := records.items
  origins := records.origins
  named entry isEntry := by
    rcases records.named entry isEntry with ⟨other, isClaim, valid⟩
    exact ⟨other, List.mem_cons_of_mem _ isClaim, valid⟩
  owners owner identifier isKnown := by
    rcases records.owners owner identifier isKnown with ⟨other, isClaim, valid⟩
    exact ⟨other, List.mem_cons_of_mem _ isClaim, valid⟩
  aliases := records.aliases
  noAlias := records.noAlias

/-- The struct of an owner gets a name that is claimed for it. -/
theorem name {owner : Owner} {base : String} {identifier : Identifier}
    (isClaim : (.content owner [], base) ∈ ledger.claims)
    (valid : identifierOf base = .ok identifier) :
    Records ((owner, identifier) :: structs)
      { draft with structs := (owner, identifier) :: draft.structs } ledger where
  structsKept := congrArg _ records.structsKept
  taken := records.taken
  distinct := records.distinct
  plain := records.plain
  items := records.items
  origins := records.origins
  named := records.named
  owners other known isKnown := by
    rw [List.lookup_cons] at isKnown
    split at isKnown
    · rename_i same
      cases isKnown
      rw [eq_of_beq same]
      exact ⟨base, isClaim, valid⟩
    · exact records.owners other known isKnown
  aliases := records.aliases
  noAlias := records.noAlias

/-- An item is entered under a name that is claimed for it. -/
theorem enter {origin : Origin} {item : Item} {base : String}
    {aliases : List (ExpandedName × Identifier)}
    (isNew : origin ∉ ledger.catalogue.origins) (isClaim : (origin, base) ∈ ledger.claims)
    (valid : identifierOf base = .ok item.name)
    (aliased : ∀ name identifier, aliases.lookup name = some identifier →
      (.simpleType name, .alias identifier) ∈ (ledger.enter origin item).catalogue)
    (noAlias : ∀ name, aliases.lookup name = none →
      .simpleType name ∉ (ledger.enter origin item).catalogue.origins) :
    Records structs { draft with items := draft.items ++ [item], aliases := aliases }
      (ledger.enter origin item) where
  structsKept := records.structsKept
  taken := records.taken
  distinct := records.distinct
  plain := records.plain
  items := by
    rw [Ledger.enter, List.map_append, ← records.items]
    rfl
  origins := by
    rw [Ledger.origins_enter]
    apply List.nodup_append.mpr
    refine ⟨records.origins, List.nodup_singleton _, ?_⟩
    intro other isEarlier same isLast equal
    rw [List.mem_singleton.mp isLast] at equal
    exact isNew (equal ▸ isEarlier)
  named entry isEntry := by
    rcases List.mem_append.mp isEntry with isEarlier | isLast
    · exact records.named entry isEarlier
    · rw [List.mem_singleton.mp isLast]
      exact ⟨base, isClaim, valid⟩
  owners := records.owners
  aliases := aliased
  noAlias := noAlias

theorem enterStruct {owner : Owner} {place : List Nat} {base : String}
    {identifier : Identifier} {fields : List Field}
    (isNew : .content owner place ∉ ledger.catalogue.origins)
    (isClaim : (.content owner place, base) ∈ ledger.claims)
    (valid : identifierOf base = .ok identifier) :
    Records structs { draft with items := draft.items ++ [.struct identifier fields] }
      (ledger.enter (.content owner place) (.struct identifier fields)) := by
  have named : identifierOf base = .ok (Item.struct identifier fields).name := valid
  apply records.enter isNew isClaim named
  · intro name known isKnown
    exact List.mem_append_left _ (records.aliases name known isKnown)
  · intro name isUnknown
    rw [Ledger.origins_enter, List.mem_append, not_or]
    exact ⟨records.noAlias name isUnknown, by simp⟩

theorem enterAlias {name : ExpandedName} {base : String} {identifier : Identifier}
    (isNew : draft.aliases.lookup name = none)
    (isClaim : (.simpleType name, base) ∈ ledger.claims)
    (valid : identifierOf base = .ok identifier) :
    Records structs
      { draft with
        items := draft.items ++ [.alias identifier]
        aliases := (name, identifier) :: draft.aliases }
      (ledger.enter (.simpleType name) (.alias identifier)) := by
  have named : identifierOf base = .ok (Item.alias identifier).name := valid
  apply records.enter (records.noAlias name isNew) isClaim named
  · intro other known isKnown
    rw [List.lookup_cons] at isKnown
    split at isKnown
    · rename_i same
      cases isKnown
      rw [eq_of_beq same]
      exact ledger.mem_enter _ _
    · exact List.mem_append_left _ (records.aliases other known isKnown)
  · intro other isUnknown
    rw [List.lookup_cons] at isUnknown
    split at isUnknown
    · cases isUnknown
    · rename_i different
      rw [Ledger.origins_enter, List.mem_append, not_or]
      refine ⟨records.noAlias other isUnknown, ?_⟩
      simpa using different

/-- Names that are spelled alike are claimed for the same. -/
theorem origin_eq {first second : Origin × Item} (isFirst : first ∈ ledger.catalogue)
    (isSecond : second ∈ ledger.catalogue)
    (same : first.2.name.spelling = second.2.name.spelling) : first.1 = second.1 := by
  rcases records.named first isFirst with ⟨name, isClaim, valid⟩
  rcases records.named second isSecond with ⟨other, isOtherClaim, otherValid⟩
  have isTaken : ∀ {origin name}, (origin, name) ∈ ledger.claims → '_' ∉ name.toList := by
    intro origin name isClaim
    apply records.plain
    rw [records.taken]
    exact List.mem_map_of_mem isClaim
  have sameName := eq_of_spelling_eq (isTaken isClaim) (isTaken isOtherClaim) valid otherValid
    same
  have distinctNames : (ledger.claims.map Prod.snd).Nodup := records.taken ▸ records.distinct
  have sameClaim : (first.1, name) = (second.1, other) :=
    List.inj_on_of_nodup_map distinctNames isClaim isOtherClaim sameName
  exact (Prod.mk.inj sameClaim).1

theorem distinct_spellings :
    (ledger.catalogue.map fun entry => entry.2.name.spelling).Nodup := by
  have distinctOrigins : (ledger.catalogue.map Prod.fst).Nodup := records.origins
  apply List.Nodup.map_on ?_ (distinctOrigins.of_map)
  intro first isFirst second isSecond same
  exact List.inj_on_of_nodup_map distinctOrigins isFirst isSecond
    (records.origin_eq isFirst isSecond same)

end Records

end SchemaContent.Declarations
