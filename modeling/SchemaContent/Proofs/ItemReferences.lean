import SchemaContent.Proofs.MemberFields
import SchemaContent.Proofs.ModelOwners

/-! # References between items

Types are used before and after they are declared, and their names are chosen in three
places: those of owners' structs before all else, those of aliases at their first use,
and those of inline contents on the way. Each field refers to the right item all the
same. -/

namespace SchemaContent.Declarations

variable {structs : List (Owner × Identifier)} {models : List ContentModel}
  {draft after : Draft} {ledger : Ledger}

/-! ## Contents

By induction on members: what is declared on the way lies at the place of the member or
inside it, so that items which were declared for other places stay apart from it. -/

/-- It occurs in the model, and if it is a content, it is the one at this place or one
inside that. -/
def Origin.OccursAt (model : ContentModel) (place : List Nat) (origin : Origin) : Prop :=
  origin.OccursIn model ∧
    ∀ owner other, origin = .content owner other → place <+: other

/-- It occurs in the model, and if it is a content, it is one inside the content at this
place, from this position on. -/
def Origin.OccursFrom (model : ContentModel) (place : List Nat) (position : Nat)
    (origin : Origin) : Prop :=
  origin.OccursIn model ∧
    ∀ owner other, origin = .content owner other →
      ∃ later, position ≤ later ∧ place ++ [later] <+: other

/-- Nothing is declared yet for this place of an owner's model, nor inside it. -/
def Catalogue.NothingAt (catalogue : Catalogue) (owner : Owner) (place : List Nat) : Prop :=
  ∀ other, place <+: other → .content owner other ∉ catalogue.origins

def Catalogue.NothingFrom (catalogue : Catalogue) (owner : Owner) (place : List Nat)
    (position : Nat) : Prop :=
  ∀ later, position ≤ later → catalogue.NothingAt owner (place ++ [later])

theorem last_eq_of_prefix {place other : List Nat} {first second : Nat}
    (isFirst : place ++ [first] <+: other) (isSecond : place ++ [second] <+: other) :
    first = second := by
  have same := List.prefix_of_prefix_length_le isFirst isSecond (by simp)
  simpa using same.eq_of_length (by simp)

theorem Origin.OccursFrom.occursAt {model : ContentModel} {place : List Nat}
    {position : Nat} {origin : Origin} (occurs : origin.OccursFrom model place position) :
    origin.OccursAt model place := by
  refine ⟨occurs.1, ?_⟩
  intro owner other isContent
  rcases occurs.2 owner other isContent with ⟨later, _, isPrefix⟩
  exact (List.prefix_append place [later]).trans isPrefix

theorem Origin.not_occursFrom_self {model : ContentModel} {owner : Owner}
    {place : List Nat} {position : Nat} :
    ¬(Origin.content owner place).OccursFrom model place position := by
  intro occurs
  rcases occurs.2 owner place rfl with ⟨later, _, isPrefix⟩
  have tooLong := isPrefix.length_le
  rw [List.length_append, List.length_singleton] at tooLong
  omega

mutual

theorem typeOf_spec {model : ContentModel} (isModel : model ∈ models) :
    ∀ (member : Member) {place : List Nat} {part : List Member} {position : Nat}
      {draft after : Draft} {ledger : Ledger} {identifier : Identifier},
      Member.PartAt model.members place part → part[position]? = some member →
      Records structs draft ledger →
      ledger.catalogue.NothingAt model.owner (place ++ [position]) →
      (typeOf member).run draft = .ok (identifier, after) →
      ∃ later, Records structs after later ∧
        ledger.Grows (Origin.OccursAt model (place ++ [position]))
          (memberContents model.owner (place ++ [position]) member) later ∧
        ledger.catalogue.Continues (chosenNames structs) models later.catalogue ∧
        later.catalogue.Provides (chosenNames structs) model.owner (place ++ [position])
          identifier member.type
  | ⟨name, reference, .builtin builtin, occurrence, owner⟩, place, part, position, draft,
      after, ledger, identifier, isPart, isMember, records, nothing, ran => by
      rw [typeOf] at ran
      cases ran
      exact ⟨ledger, records, .refl ledger, .here, rfl, nofun⟩
  | ⟨name, reference, .anonymousSimple, occurrence, owner⟩, place, part, position, draft,
      after, ledger, identifier, isPart, isMember, records, nothing, ran => by
      rw [typeOf] at ran
      cases ran
      exact ⟨ledger, records, .refl ledger, .here, rfl, nofun⟩
  | ⟨name, reference, .complex complex, occurrence, owner⟩, place, part, position, draft,
      after, ledger, identifier, isPart, isMember, records, nothing, ran => by
      rw [typeOf] at ran
      have ⟨same, chosen⟩ := structOf_spec records ran
      subst same
      exact ⟨ledger, records, .refl ledger, .here, chosen, nofun⟩
  | ⟨name, reference, .anonymousComplex element, occurrence, owner⟩, place, part, position,
      draft, after, ledger, identifier, isPart, isMember, records, nothing, ran => by
      rw [typeOf] at ran
      have ⟨same, chosen⟩ := structOf_spec records ran
      subst same
      exact ⟨ledger, records, .refl ledger, .here, chosen, nofun⟩
  | ⟨name, reference, .simple simple, occurrence, owner⟩, place, part, position, draft,
      after, ledger, identifier, isPart, isMember, records, nothing, ran => by
      rw [typeOf] at ran
      rcases aliasOf_spec records (chosenNames structs) models ran with
        ⟨later, recorded, grows, continues, isEntry⟩
      refine ⟨later, recorded, grows.widen ?_, continues, isEntry, nofun⟩
      rintro origin rfl
      have occurs : (Origin.simpleType simple).OccursIn model :=
        ⟨place, part, isPart, _, List.mem_of_getElem? isMember, rfl⟩
      exact ⟨occurs, nofun⟩
  | ⟨name, reference, .inline members, occurrence, owner⟩, place, part, position, draft,
      after, ledger, identifier, isPart, isMember, records, nothing, ran => by
      rw [run_typeOf_inline] at ran
      rcases exists_of_bind_eq_ok ran with ⟨⟨chosen, named⟩, took, ran⟩
      rcases exists_of_bind_eq_ok ran with ⟨⟨drafts, filled⟩, drafted, ran⟩
      rcases exists_of_bind_eq_ok ran with ⟨fields, finished, ran⟩
      cases ran
      have isInner := isPart.further isMember rfl
      have without := Text.underscore_not_mem_upperCamelCase name.localName
      let origin := Origin.content model.owner (place ++ [position])
      rcases takeTypeName_spec records without origin took with ⟨base, valid, claimed⟩
      have nothingInside : (ledger.claim origin base).catalogue.NothingFrom model.owner
          (place ++ [position]) 0 := by
        intro later _ other isPrefix
        exact nothing other ((List.prefix_append _ _).trans isPrefix)
      rcases draftFields_spec isModel members [] isInner claimed nothingInside drafted with
        ⟨later, recorded, grows, continues, provided⟩
      have isNew : origin ∉ later.catalogue.origins :=
        grows.not_mem (nothing _ (List.prefix_refl _)) Origin.not_occursFrom_self
      have occurs : origin.OccursAt model (place ++ [position]) := by
        refine ⟨⟨rfl, members, isInner⟩, ?_⟩
        intro owner other same
        have samePlace := (Origin.content.inj same).2
        exact samePlace ▸ List.prefix_refl _
      have growsLast := later.grows_enterStruct identifier fields occurs
      have isEntry := later.mem_enter origin (.struct identifier fields)
      have isReady := Catalogue.ready_struct identifier isModel isInner drafted finished provided
      refine ⟨_, recorded.enterStruct isNew (grows.claims List.mem_cons_self) valid, ?_,
        .enter continues isReady, ?_⟩
      · exact (ledger.grows_claim origin base).trans
          ((grows.widen fun _ => Origin.OccursFrom.occursAt).trans growsLast)
      · refine ⟨⟨fields, isEntry⟩, ?_⟩
        rintro _ ⟨⟩ rest inside isInside
        rw [← types_of_finishFields finished] at provided
        exact Catalogue.declares_of_partAt isEntry (provided.mono growsLast.catalogue) isInside

theorem draftFields_spec {model : ContentModel} (isModel : model ∈ models) :
    ∀ (rest before : List Member) {place : List Nat} {draft after : Draft}
      {ledger : Ledger} {drafts : List DraftField},
      Member.PartAt model.members place (before ++ rest) →
      Records structs draft ledger →
      ledger.catalogue.NothingFrom model.owner place before.length →
      (draftFields rest).run draft = .ok (drafts, after) →
      ∃ later, Records structs after later ∧
        ledger.Grows (Origin.OccursFrom model place before.length)
          (contentsFrom model.owner place before.length rest) later ∧
        ledger.catalogue.Continues (chosenNames structs) models later.catalogue ∧
        later.catalogue.ProvidesEach (chosenNames structs) model.owner place
          (rest.zipIdx before.length) (drafts.map (·.type))
  | [], before, place, draft, after, ledger, drafts, isPart, records, nothing, ran => by
      rw [draftFields] at ran
      cases ran
      exact ⟨ledger, records, .refl ledger, .here, .nil⟩
  | member :: rest, before, place, draft, after, ledger, drafts, isPart, records, nothing,
      ran => by
      rw [run_draftFields_cons] at ran
      rcases exists_of_bind_eq_ok ran with ⟨⟨type, typed⟩, typeRan, ran⟩
      rcases exists_of_bind_eq_ok ran with ⟨⟨others, filled⟩, drafted, ran⟩
      cases ran
      have isMember : (before ++ member :: rest)[before.length]? = some member := by simp
      have nothingHere := nothing before.length (Nat.le_refl _)
      rcases typeOf_spec isModel member isPart isMember records nothingHere typeRan with
        ⟨middle, recorded, grows, continues, provides⟩
      have nextPosition : (before ++ [member]).length = before.length + 1 := List.length_append
      have nothingLater : middle.catalogue.NothingFrom model.owner place
          (before ++ [member]).length := by
        intro later isLater other isPrefix
        apply grows.not_mem (nothing later (by omega) other isPrefix)
        intro occurs
        have same := last_eq_of_prefix (occurs.2 _ other rfl) isPrefix
        omega
      have isPartStill : Member.PartAt model.members place (before ++ [member] ++ rest) := by
        rw [List.append_assoc]
        exact isPart
      rcases draftFields_spec isModel rest (before ++ [member]) isPartStill recorded nothingLater
        drafted with ⟨last, recordedLast, growsLater, continuesLater, provided⟩
      rw [nextPosition] at growsLater provided
      refine ⟨last, recordedLast, ?_, continues.trans continuesLater, ?_⟩
      · rw [contentsFrom]
        apply (grows.widen ?_).trans (growsLater.widen ?_)
        · intro origin occurs
          refine ⟨occurs.1, ?_⟩
          intro owner other isContent
          exact ⟨before.length, Nat.le_refl _, occurs.2 owner other isContent⟩
        · intro origin occurs
          refine ⟨occurs.1, ?_⟩
          intro owner other isContent
          rcases occurs.2 owner other isContent with ⟨later, isLater, isPrefix⟩
          exact ⟨later, by omega, isPrefix⟩
      · rw [List.zipIdx_cons, List.map_cons]
        exact .cons (provides.mono growsLater.catalogue) provided

end

/-! ## Models -/

theorem nameOwner_spec (records : Records structs draft ledger) {owner : Owner}
    (ran : (nameOwner owner).run draft = .ok ((), after)) :
    ∃ identifier later, Records ((owner, identifier) :: structs) after later ∧
      later.catalogue = ledger.catalogue := by
  rw [run_nameOwner] at ran
  rcases exists_of_bind_eq_ok ran with ⟨⟨identifier, named⟩, took, ran⟩
  cases ran
  rcases takeTypeName_spec records (underscore_not_mem_ownerBase owner) (.content owner [])
    took with ⟨base, valid, claimed⟩
  exact ⟨identifier, _, claimed.name List.mem_cons_self valid, rfl⟩

/-- The structs of all owners are named, those and no others, and nothing is declared. -/
theorem nameOwners_spec (models : List ContentModel) :
    ∀ {structs : List (Owner × Identifier)} {draft after : Draft} {ledger : Ledger},
      Records structs draft ledger →
      (models.forM fun model => nameOwner model.owner).run draft = .ok ((), after) →
      ∃ named later, Records named after later ∧ later.catalogue = ledger.catalogue ∧
        ∀ owner, (named.lookup owner).isSome ↔
          (structs.lookup owner).isSome ∨ owner ∈ models.map (·.owner) := by
  induction models with
  | nil =>
      intro structs draft after ledger records ran
      cases ran
      exact ⟨structs, ledger, records, rfl, by simp⟩
  | cons model rest induction =>
      intro structs draft after ledger records ran
      rw [run_forM_cons] at ran
      rcases exists_of_bind_eq_ok ran with ⟨⟨_, middle⟩, nameRan, ran⟩
      rcases nameOwner_spec records nameRan with ⟨identifier, claimed, recorded, same⟩
      rcases induction recorded ran with ⟨named, later, recordedLast, sameLast, known⟩
      refine ⟨named, later, recordedLast, sameLast.trans same, ?_⟩
      intro owner
      rw [known, List.lookup_cons, List.map_cons, List.mem_cons]
      cases same : owner == model.owner with
      | true => simp [eq_of_beq same]
      | false => simp only [ne_of_beq_false same, false_or]

/-- The struct of the model has the name that is known for it, and it and the contents
inside have the right fields. -/
structure Catalogue.DeclaresModel (catalogue : Catalogue)
    (structs : List (Owner × Identifier)) (model : ContentModel) : Prop where
  named : ∀ name, structs.lookup model.owner = some name →
    catalogue.structNames model.owner name
  declares : ∀ place members, Member.PartAt model.members place members →
    catalogue.Declares (chosenNames structs) model.owner place members

theorem Catalogue.DeclaresModel.mono {catalogue later : Catalogue}
    {model : ContentModel} (declared : catalogue.DeclaresModel structs model)
    (grown : catalogue ⊆ later) : later.DeclaresModel structs model where
  named name isKnown := by
    rcases declared.named name isKnown with ⟨fields, isEntry⟩
    exact ⟨fields, grown isEntry⟩
  declares place members isPart := (declared.declares place members isPart).mono grown

theorem declareModel_spec (records : Records structs draft ledger) {model : ContentModel}
    (isModel : model ∈ models) (isNamed : (structs.lookup model.owner).isSome)
    (nothing : ledger.catalogue.NothingAt model.owner [])
    (ran : (declareModel model).run draft = .ok ((), after)) :
    ∃ later, Records structs after later ∧
      ledger.Grows (Origin.OccursIn model) (modelContents model) later ∧
      ledger.catalogue.Continues (chosenNames structs) models later.catalogue ∧
      later.catalogue.DeclaresModel structs model := by
  rcases Option.isSome_iff_exists.mp isNamed with ⟨name, known⟩
  rcases records.owners model.owner name known with ⟨base, isClaim, valid⟩
  rw [run_declareModel] at ran
  rcases exists_of_bind_eq_ok ran with ⟨⟨found, looked⟩, structRan, ran⟩
  rcases exists_of_bind_eq_ok ran with ⟨⟨drafts, filled⟩, drafted, ran⟩
  rcases exists_of_bind_eq_ok ran with ⟨fields, finished, ran⟩
  cases ran
  have ⟨same, chosen⟩ := structOf_spec records structRan
  subst same
  have isFound : found = name := by
    rw [chosenNames, known] at chosen
    exact chosen
  rw [isFound]
  have nothingInside : ledger.catalogue.NothingFrom model.owner [] 0 :=
    fun _ _ other _ => nothing other List.nil_prefix
  rcases draftFields_spec isModel model.members [] (.itself _) records nothingInside drafted with
    ⟨later, recorded, grows, continues, provided⟩
  have isNew : .content model.owner [] ∉ later.catalogue.origins :=
    grows.not_mem (nothing [] List.nil_prefix) Origin.not_occursFrom_self
  have occurs : (Origin.content model.owner []).OccursIn model :=
    ⟨rfl, model.members, .itself _⟩
  have growsLast := later.grows_enterStruct name fields occurs
  have isEntry := later.mem_enter (.content model.owner []) (.struct name fields)
  have isReady := Catalogue.ready_struct name isModel (.itself _) drafted finished provided
  refine ⟨_, recorded.enterStruct isNew (grows.claims isClaim) valid, ?_,
    .enter continues isReady, ?_, ?_⟩
  · exact (grows.widen fun _ occurs => occurs.1).trans growsLast
  · intro other isKnown
    rw [known] at isKnown
    cases isKnown
    exact ⟨fields, isEntry⟩
  · intro place members isPart
    rw [← types_of_finishFields finished] at provided
    exact Catalogue.declares_of_partAt isEntry (provided.mono growsLast.catalogue) isPart

theorem declareModels_spec (some : List ContentModel) :
    ∀ {draft after : Draft} {ledger : Ledger}, Records structs draft ledger → some ⊆ models →
      (some.map (·.owner)).Nodup →
      (∀ model ∈ some, (structs.lookup model.owner).isSome) →
      (∀ model ∈ some, ledger.catalogue.NothingAt model.owner []) →
      (some.forM declareModel).run draft = .ok ((), after) →
      ∃ later, Records structs after later ∧
        ledger.Grows (fun origin => ∃ model ∈ some, origin.OccursIn model)
          (some.flatMap modelContents) later ∧
        ledger.catalogue.Continues (chosenNames structs) models later.catalogue ∧
        ∀ model ∈ some, later.catalogue.DeclaresModel structs model := by
  induction some with
  | nil =>
      intro draft after ledger records _ _ _ _ ran
      cases ran
      exact ⟨ledger, records, .refl ledger, .here, nofun⟩
  | cons model rest induction =>
      intro draft after ledger records among distinct named nothing ran
      have ⟨isModel, restAmong⟩ := List.cons_subset.mp among
      have ⟨isDistinct, restDistinct⟩ := List.nodup_cons.mp distinct
      rw [run_forM_cons] at ran
      rcases exists_of_bind_eq_ok ran with ⟨⟨_, middle⟩, modelRan, ran⟩
      rcases declareModel_spec records isModel (named model List.mem_cons_self)
        (nothing model List.mem_cons_self) modelRan with
        ⟨next, recorded, grows, continues, declared⟩
      have nothingLater : ∀ other ∈ rest, next.catalogue.NothingAt other.owner [] := by
        intro other isOther place isPrefix
        apply grows.not_mem (nothing other (List.mem_cons_of_mem _ isOther) place isPrefix)
        intro occurs
        have isOwner : other.owner ∈ rest.map (·.owner) := List.mem_map_of_mem isOther
        rw [occurs.1] at isOwner
        exact isDistinct isOwner
      rcases induction recorded restAmong restDistinct
        (fun other isOther => named other (List.mem_cons_of_mem _ isOther)) nothingLater ran with
        ⟨last, recordedLast, growsLater, continuesLater, declaredLater⟩
      refine ⟨last, recordedLast, ?_, continues.trans continuesLater, ?_⟩
      · apply (grows.widen ?_).trans (growsLater.widen ?_)
        · exact fun origin occurs => ⟨model, List.mem_cons_self, occurs⟩
        · intro origin occurs
          rcases occurs with ⟨other, isOther, occurs⟩
          exact ⟨other, List.mem_cons_of_mem _ isOther, occurs⟩
      · intro other isModel
        rcases List.mem_cons.mp isModel with rfl | isLater
        · exact declared.mono growsLater.catalogue
        · exact declaredLater other isLater

/-! ## Files -/

/-- The catalogue is right about the items for the models: each is declared for another
type or content that is there in the models, the structs in the order of the contents,
and their names tell them apart. Every content, at any depth, has its struct, with
fields of the right types. -/
structure Catalogue.Describes (catalogue : Catalogue) (models : List ContentModel) :
    Prop where
  distinctOrigins : catalogue.origins.Nodup
  inOrder : catalogue.contents = models.flatMap modelContents
  distinctNames : (catalogue.map fun entry => entry.2.name.spelling).Nodup
  occurs : ∀ origin ∈ catalogue.origins, ∃ model ∈ models, origin.OccursIn model
  declares : ∀ model ∈ models, ∀ place members, Member.PartAt model.members place members →
    catalogue.Declares catalogue.structNames model.owner place members

/-- What is on record when the items for models have been declared: all models have their
structs, and there is nothing on record that is not in the models. -/
structure Ledger.Completes (ledger : Ledger) (structs : List (Owner × Identifier))
    (models : List ContentModel) : Prop where
  inOrder : ledger.catalogue.contents = models.flatMap modelContents
  occurs : ∀ origin ∈ ledger.catalogue.origins, ∃ model ∈ models, origin.OccursIn model
  named : ∀ owner, (structs.lookup owner).isSome ↔ owner ∈ models.map (·.owner)
  entered : Catalogue.Continues (chosenNames structs) models [] ledger.catalogue
  declares : ∀ model ∈ models, ledger.catalogue.DeclaresModel structs model

/-- What is declared is on record if the owners of models are distinct. -/
theorem exists_ledger_of_runs {models : List ContentModel} {named declared : Draft}
    (nameRan : (models.forM fun model => nameOwner model.owner).run ⟨[], [], [], []⟩ =
      .ok ((), named))
    (declareRan : (models.forM declareModel).run named = .ok ((), declared))
    (distinct : (models.map (·.owner)).Nodup) :
    ∃ structs ledger, Records structs declared ledger ∧ ledger.Completes structs models := by
  rcases nameOwners_spec models Records.start nameRan with
    ⟨structs, claimed, recorded, isEmpty, known⟩
  have isNamed : ∀ model ∈ models, (structs.lookup model.owner).isSome :=
    fun model isModel => (known model.owner).mpr (.inr (List.mem_map_of_mem isModel))
  have nothing : ∀ model ∈ models, claimed.catalogue.NothingAt model.owner [] := by
    intro model _ other _
    rw [isEmpty]
    exact List.not_mem_nil
  rcases declareModels_spec models recorded (List.Subset.refl _) distinct isNamed nothing
    declareRan with ⟨later, records, grows, continues, declares⟩
  rw [show claimed.catalogue = [] from isEmpty] at continues
  refine ⟨structs, later, records, ?_, ?_, ?_, continues, declares⟩
  · rw [grows.contents, isEmpty]
    rfl
  · intro origin isOrigin
    rcases grows.new origin isOrigin with isEarlier | occurs
    · rw [isEmpty] at isEarlier
      cases isEarlier
    · exact occurs
  · intro owner
    rw [known owner, or_iff_right]
    exact Bool.false_ne_true

theorem exists_runs_of_items {models : List ContentModel} {items : List Item}
    (generated : Declarations.items models = .ok items) :
    ∃ named declared : Draft,
      (models.forM fun model => nameOwner model.owner).run ⟨[], [], [], []⟩ = .ok ((), named) ∧
        (models.forM declareModel).run named = .ok ((), declared) ∧ declared.items = items := by
  rw [items_eq] at generated
  rcases exists_of_bind_eq_ok generated with ⟨⟨_, named⟩, nameRan, generated⟩
  rcases exists_of_bind_eq_ok generated with ⟨⟨_, declared⟩, declareRan, generated⟩
  cases generated
  exact ⟨named, declared, nameRan, declareRan, rfl⟩

theorem exists_ledger {models : List ContentModel} {items : List Item}
    (generated : Declarations.items models = .ok items)
    (distinct : (models.map (·.owner)).Nodup) :
    ∃ structs draft ledger, draft.items = items ∧ Records structs draft ledger ∧
      ledger.Completes structs models := by
  rcases exists_runs_of_items generated with ⟨named, declared, nameRan, declareRan, same⟩
  rcases exists_ledger_of_runs nameRan declareRan distinct with
    ⟨structs, ledger, records, completes⟩
  exact ⟨structs, declared, ledger, same, records, completes⟩

/-- Items are described by a catalogue if the owners of models are distinct and all types
of owners that members refer to are those of models. -/
theorem exists_describes {models : List ContentModel} {items : List Item}
    (generated : Declarations.items models = .ok items)
    (distinct : (models.map (·.owner)).Nodup)
    (closed : ∀ model ∈ models, ∀ part, Member.Part model.members part → ∀ member ∈ part,
      ∀ name, (member.type = .complex name → .complexType name ∈ models.map (·.owner)) ∧
        (member.type = .anonymousComplex name → .element name ∈ models.map (·.owner))) :
    ∃ catalogue : Catalogue, catalogue.map Prod.snd = items ∧ catalogue.Describes models := by
  rcases exists_ledger generated distinct with ⟨structs, draft, ledger, rfl, records, completes⟩
  -- What was known of owners' structs while items were declared is true of the items.
  have renamed : ∀ owner identifier, owner ∈ models.map (·.owner) →
      chosenNames structs owner identifier → ledger.catalogue.structNames owner identifier := by
    intro owner identifier isOwner isKnown
    rcases Option.isSome_iff_exists.mp ((completes.named owner).mpr isOwner) with ⟨name, isName⟩
    rcases List.mem_map.mp isOwner with ⟨model, isModel, rfl⟩
    rw [chosenNames, isName] at isKnown
    rw [isKnown]
    exact (completes.declares model isModel).named name isName
  refine ⟨ledger.catalogue, records.items.symm, records.origins, completes.inOrder,
    records.distinct_spellings, completes.occurs, ?_⟩
  intro model isModel place members isPart
  rcases (completes.declares model isModel).declares place members isPart with
    ⟨name, fields, isEntry, matched⟩
  refine ⟨name, fields, isEntry, ?_⟩
  have each : ∀ entry ∈ members.zipIdx, entry.1 ∈ members :=
    fun entry isEntry => List.mem_of_getElem? (List.mem_zipIdx_iff_getElem?.mp isEntry)
  apply ((List.forall₂_and_left _ _).mpr ⟨each, matched⟩).imp
  rintro entry field ⟨isMember, names⟩
  have inModels := closed model isModel members isPart.toPart entry.1 isMember
  apply names.rename
  · intro name isComplex
    exact renamed _ _ ((inModels name).1 isComplex)
  · intro name isAnonymous
    exact renamed _ _ ((inModels name).2 isAnonymous)

/-- The owners of content models are distinct, and a type of an owner that a member
refers to is that of a model. -/
theorem owners_closed {set : SchemaSet} {models : List ContentModel}
    (compiled : set.contentModels = .ok models) :
    (models.map (·.owner)).Nodup ∧
      ∀ model ∈ models, ∀ part, Member.Part model.members part → ∀ member ∈ part, ∀ name,
        (member.type = .complex name → .complexType name ∈ models.map (·.owner)) ∧
          (member.type = .anonymousComplex name → .element name ∈ models.map (·.owner)) := by
  have owners : models.map (·.owner) = set.ownedTypes.map (·.owner) :=
    map_eq_of_mapM_eq_ok (fun _ _ isModel => (OwnedType.of_model isModel).1) compiled
  rw [owners]
  refine ⟨set.nodup_owners, ?_⟩
  intro model isModel part isPart member isMember name
  have compiledPart : set.Compiles part :=
    SchemaSet.Compiles.part (.contentModel compiled isModel) isPart
  constructor
  · intro isComplex
    have provided := compiledPart.provides isMember (by simp [isComplex])
    rw [isComplex] at provided
    exact SchemaSet.complexType_mem_owners_iff.mpr provided
  · intro isAnonymous
    have provided := compiledPart.provides isMember (by simp [isAnonymous])
    rw [isAnonymous] at provided
    exact SchemaSet.element_mem_owners_iff.mpr provided

/-- In the file for compiled models every field refers to the right item, wherever the
two stand: to the alias of its simple type, the struct of the owner of its type, or the
struct of its inline content. -/
theorem exists_catalogue_of_text {set : SchemaSet} {models : List ContentModel} {file : String}
    (compiled : set.contentModels = .ok models) (generated : text models = .ok file) :
    ∃ catalogue : Catalogue, items models = .ok (catalogue.map Prod.snd) ∧
      file = fileText (catalogue.map Prod.snd) ∧ catalogue.Describes models := by
  have ⟨distinct, closed⟩ := owners_closed compiled
  rcases exists_items_of_text generated with ⟨items, itemsGenerated, rfl⟩
  rcases exists_describes itemsGenerated distinct closed with ⟨catalogue, rfl, describes⟩
  exact ⟨catalogue, itemsGenerated, rfl, describes⟩

end SchemaContent.Declarations

/-! ### Parcels

Names that clash: the struct of a complex type, the alias of a simple one, and a content
inside another of the same name. -/

namespace SchemaContent.Boxes

open Declarations

def parcel : ElementDeclaration :=
  declaration (.named "Parcel") none (some [
    declaration (.named "parcel") none (some [
      declaration (.named "kind") (some ⟨none, "label"⟩) none,
      declaration (.reference ⟨none, "Parcel"⟩) none none,
      declaration (.named "text") (some ⟨none, "Label"⟩) none])])

def parcels : SchemaSet where
  schemas := [schema [parcel] ["label"]]
  affiliated := by decide +kernel

def inParcel : List Member :=
  [⟨⟨none, "kind"⟩, none, .simple ⟨none, "label"⟩, .unstated, .element ⟨none, "parcel"⟩⟩,
    ⟨⟨none, "Parcel"⟩, some ⟨none, "Parcel"⟩, .anonymousComplex ⟨none, "Parcel"⟩, .unstated,
      .element ⟨none, "parcel"⟩⟩,
    ⟨⟨none, "text"⟩, none, .complex ⟨none, "Label"⟩, .unstated, .element ⟨none, "parcel"⟩⟩]

def parcelModels : List ContentModel :=
  [⟨.element ⟨none, "Parcel"⟩,
      [⟨⟨none, "parcel"⟩, none, .inline inParcel, .unstated, .element ⟨none, "Parcel"⟩⟩]⟩,
    ⟨.complexType ⟨none, "Label"⟩, []⟩]

def parcelItems : List Item :=
  let named (text : String) : Identifier := ⟨text, false⟩
  [.alias (named "LabelInner"),
    .struct (named "ParcelInner") [⟨named "kind", .one, named "LabelInner"⟩,
      ⟨named "parcel", .one, named "Parcel"⟩, ⟨named "text", .one, named "Label"⟩],
    .struct (named "Parcel") [⟨named "parcel", .one, named "ParcelInner"⟩],
    .struct (named "Label") []]

theorem exists_catalogue_of_parcels :
    parcels.contentModels = .ok parcelModels ∧
      text parcelModels = .ok (fileText parcelItems) ∧
      ∃ catalogue : Catalogue, catalogue.map Prod.snd = parcelItems ∧
        catalogue.Describes parcelModels := by
  have compiled : parcels.contentModels = .ok parcelModels := by decide +kernel
  have declared : items parcelModels = .ok parcelItems := by decide +kernel
  have generated := text_of_items declared
  rcases exists_catalogue_of_text compiled generated with ⟨catalogue, sameItems, _, describes⟩
  rw [declared] at sameItems
  exact ⟨compiled, generated, catalogue, (Except.ok.inj sameItems).symm, describes⟩

end SchemaContent.Boxes
