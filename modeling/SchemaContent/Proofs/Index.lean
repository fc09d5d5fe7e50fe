import SchemaContent.Proofs.Acceptance
import SchemaContent.Proofs.RelatedRuns

/-! # Indexed schemas

A set answers by searching through its schemas. An index has its answers ready, in
tables that are brought up to date one after the other with each schema that is
added. A call that fails changes none of them, and one that succeeds makes the tables
hold what a set with one more schema finds by searching. -/

namespace SchemaContent

deriving instance Hashable for ExpandedName

/-- Schemas with tables over them. A component is entered with its site, and under a
head stand the elements that list it, each with the position of its schema. -/
structure Index where
  schemas : List Schema
  elements : Std.HashMap ExpandedName (Nat × Nat)
  complexTypes : Std.HashMap ExpandedName (Nat × Nat)
  simpleTypes : Std.HashSet ExpandedName
  affiliates : Std.HashMap ExpandedName (List (String × Nat))

/-- The heads that the elements of a schema list, in document order, each with the
element that lists it. -/
def Schema.affiliates (schema : Schema) (position : Nat) :
    Except SchemaError (List (ExpandedName × String × Nat)) :=
  (schema.elements.flatMap fun declaration =>
    declaration.substitutionGroup.map fun reference => (reference, declaration.name)).mapM
      fun (reference, name) => do return (← schema.resolve reference, name, position)

namespace Index

def empty : Index := ⟨[], ∅, ∅, ∅, ∅⟩

/-- Enters components with their sites. What is entered under a name already stays. -/
def enter {α : Type} (sites : Std.HashMap ExpandedName (Nat × Nat))
    (components : List (Component α)) : Std.HashMap ExpandedName (Nat × Nat) :=
  components.foldl (fun sites component => sites.insertIfNew component.name component.site)
    sites

/-- Enters elements under the heads that they list, after those that are entered. -/
def affiliate (table : Std.HashMap ExpandedName (List (String × Nat)))
    (affiliates : List (ExpandedName × String × Nat)) :
    Std.HashMap ExpandedName (List (String × Nat)) :=
  affiliates.foldl (fun table (head, affiliate) =>
    table.alter head fun entered => some (entered.getD [] ++ [affiliate])) table

def affiliateOf (head : ExpandedName) : ExpandedName × String × Nat → Option (String × Nat)
  | (listed, affiliate) => if listed = head then some affiliate else none

/-- Adds a schema and answers with the position that it gets. If this fails, the index
is left as far as it has come. -/
def add (schema : Schema) : EStateM SchemaError Index Nat := do
  let position := (← get).schemas.length
  -- Every substitution group has to have a meaning before anything is entered.
  let affiliates ← MonadExcept.ofExcept (schema.affiliates position)
  modify fun index => { index with affiliates := affiliate index.affiliates affiliates }
  modify fun index => { index with
    elements := enter index.elements (schema.elementComponents.map (·.placed position)) }
  modify fun index => { index with
    complexTypes := enter index.complexTypes (schema.typeComponents.map (·.placed position)) }
  modify fun index => { index with
    simpleTypes := index.simpleTypes.insertMany (schema.simpleTypes.map schema.topLevelName) }
  modify fun index => { index with schemas := index.schemas ++ [schema] }
  return position

/-- The answer to a call that adds a schema, and the index that the call leaves. -/
def call (index : Index) (schema : Schema) : Except SchemaError Nat × Index :=
  match (add schema).run index with
  | .ok position next => (.ok position, next)
  | .error fault next => (.error fault, next)

/-- Adds schemas one after the other, whatever the answers are. -/
def addAll (index : Index) : List Schema → List (Except SchemaError Nat) × Index
  | [] => ([], index)
  | schema :: rest =>
    let (answer, next) := index.call schema
    let (answers, last) := addAll next rest
    (answer :: answers, last)

def element? (index : Index) (name : ExpandedName) : Option (Component ElementDeclaration) := do
  let (position, place) ← index.elements[name]?
  let schema ← index.schemas[position]?
  let declaration ← schema.elements[place]?
  return ⟨name, schema, position, place, declaration⟩

def complexType? (index : Index) (name : ExpandedName) : Option (Component ComplexType) := do
  let (position, place) ← index.complexTypes[name]?
  let schema ← index.schemas[position]?
  let definition ← schema.complexTypes[place]?
  return ⟨name, schema, position, place, definition⟩

/-! ## Tables -/

theorem getElem?_enter {α : Type} (components : List (Component α)) (name : ExpandedName) :
    ∀ sites : Std.HashMap ExpandedName (Nat × Nat),
      (enter sites components)[name]? =
        sites[name]?.or
          ((components.find? fun component => component.name = name).map (·.site)) := by
  induction components with
  | nil => simp [enter]
  | cons first rest induction =>
      intro sites
      have entered := induction (sites.insertIfNew first.name first.site)
      rw [enter] at entered
      rw [enter, List.foldl_cons, entered, Std.HashMap.getElem?_insertIfNew, List.find?_cons]
      by_cases same : first.name = name
      · subst same
        cases known : sites[first.name]? with
        | none =>
            have isNew : first.name ∉ sites := by
              rw [Std.HashMap.mem_iff_isSome_getElem?, known]
              nofun
            simp [isNew]
        | some site =>
            have isOld : first.name ∈ sites := by
              rw [Std.HashMap.mem_iff_isSome_getElem?, known]
              rfl
            simp [isOld]
      · simp [same]

theorem getD_affiliate (affiliates : List (ExpandedName × String × Nat))
    (head : ExpandedName) :
    ∀ table : Std.HashMap ExpandedName (List (String × Nat)),
      (affiliate table affiliates).getD head [] =
        table.getD head [] ++ affiliates.filterMap (affiliateOf head) := by
  induction affiliates with
  | nil => simp [affiliate]
  | cons first rest induction =>
      intro table
      obtain ⟨listed, name⟩ := first
      have entered := induction
        (table.alter listed fun entered => some (entered.getD [] ++ [name]))
      rw [affiliate] at entered
      rw [affiliate, List.foldl_cons, entered, Std.HashMap.getD_alter, List.filterMap_cons]
      by_cases same : listed = head
      · subst same
        simp [affiliateOf, Std.HashMap.getD_eq_getD_getElem?]
      · simp [affiliateOf, same]

end Index

/-! ## What one more schema adds -/

/-- The elements of a schema that list a head, once for each time they do. -/
def Schema.listing (schema : Schema) (head : ExpandedName) (position : Nat) :
    List (String × Nat) :=
  schema.elements.flatMap fun declaration =>
    (declaration.substitutionGroup.filter fun reference =>
      schema.resolve reference = .ok head).map fun _ => (declaration.name, position)

theorem Component.declared_append {α : Type} (parts : Schema → List (Component α))
    (schemas : List Schema) (schema : Schema) :
    declared parts (schemas ++ [schema]) =
      declared parts schemas ++ (parts schema).map (placed schemas.length) := by
  simp [declared, List.zipIdx_append]

theorem filterMap_eq_of_mapM_eq_ok {ε α β γ : Type} {step : α → Except ε β}
    {before : α → Option γ} {after : β → Option γ}
    (kept : ∀ value result, step value = .ok result → after result = before value)
    {values : List α} {results : List β} (success : values.mapM step = .ok results) :
    results.filterMap after = values.filterMap before := by
  have picked := congrArg (List.filterMap id) (map_eq_of_mapM_eq_ok kept success)
  rw [List.filterMap_map, List.filterMap_map] at picked
  exact picked

namespace SchemaSet

theorem map_substitutes (set : SchemaSet) (head : ExpandedName) :
    (set.substitutes head).map (fun component => (component.definition.name, component.position)) =
      set.schemas.zipIdx.flatMap fun (schema, position) => schema.listing head position := by
  rw [substitutes, elements, List.map_flatMap, List.flatMap_assoc]
  apply List.flatMap_congr
  rintro ⟨schema, position⟩ _
  change _ = schema.listing head position
  rw [Schema.listing, ← flatMap_zipIdx schema.elements, List.flatMap_map]
  simp only [List.map_map, toOption_eq_some_iff]
  rfl

end SchemaSet

theorem Schema.faultOf?_affiliates (schema : Schema) (position : Nat) :
    faultOf? (schema.affiliates position) = schema.unresolved? := by
  have references : (schema.elements.flatMap fun declaration =>
      declaration.substitutionGroup.map fun reference =>
        (reference, declaration.name)).map Prod.fst =
      schema.elements.flatMap (·.substitutionGroup) := by
    simp [List.map_flatMap, Function.comp_def]
  rw [affiliates, faultOf?_mapM, unresolved?, ← references, List.findSome?_map]
  congr 1
  funext written
  change faultOf? (schema.resolve written.1 >>= _) = faultOf? (schema.resolve written.1)
  cases schema.resolve written.1 <;> rfl

theorem Schema.filterMap_affiliates {schema : Schema} {position : Nat}
    {affiliates : List (ExpandedName × String × Nat)}
    (resolved : schema.affiliates position = .ok affiliates) (head : ExpandedName) :
    affiliates.filterMap (Index.affiliateOf head) = schema.listing head position := by
  have kept : ∀ (written : Reference × String) (affiliate : ExpandedName × String × Nat),
      (do return (← schema.resolve written.1, written.2, position)) = .ok affiliate →
        Index.affiliateOf head affiliate =
          if schema.resolve written.1 = .ok head then some (written.2, position) else none := by
    rintro ⟨reference, name⟩ affiliate isAffiliate
    obtain ⟨listed, isListed, isAffiliate⟩ := exists_of_bind_eq_ok isAffiliate
    cases isAffiliate
    simp [Index.affiliateOf, isListed]
  rw [filterMap_eq_of_mapM_eq_ok kept resolved, listing, List.filterMap_flatMap]
  apply List.flatMap_congr
  intro declaration _
  rw [List.filterMap_map, ← List.filterMap_eq_map', List.filterMap_filter]
  apply List.filterMap_congr
  intro reference _
  simp

/-! ## Tables and searches -/

namespace Index

/-- The tables hold what the set finds by searching. -/
structure Represents (index : Index) (set : SchemaSet) : Prop where
  schemas : index.schemas = set.schemas
  elements : ∀ name, index.elements[name]? = (set.element? name).map (·.site)
  complexTypes : ∀ name, index.complexTypes[name]? = (set.complexType? name).map (·.site)
  simpleTypes : ∀ name, name ∈ index.simpleTypes ↔ set.hasSimpleType name
  affiliates : ∀ head, index.affiliates.getD head [] =
    (set.substitutes head).map fun component => (component.definition.name, component.position)

theorem represents_empty : empty.Represents .empty where
  schemas := rfl
  elements _ := Std.HashMap.getElem?_empty
  complexTypes _ := Std.HashMap.getElem?_empty
  simpleTypes name := by simp [empty, SchemaSet.empty, SchemaSet.hasSimpleType]
  affiliates _ := Std.HashMap.getD_empty

theorem getElem?_enter_declared {α : Type} {parts : Schema → List (Component α)}
    {schemas : List Schema} {sites : Std.HashMap ExpandedName (Nat × Nat)}
    (upToDate : ∀ name, sites[name]? =
      ((Component.declared parts schemas).find? fun component => component.name = name).map
        (·.site)) (schema : Schema) (name : ExpandedName) :
    (enter sites ((parts schema).map (·.placed schemas.length)))[name]? =
      ((Component.declared parts (schemas ++ [schema])).find?
        fun component => component.name = name).map (·.site) := by
  rw [getElem?_enter, upToDate, Component.declared_append, List.find?_append, Option.map_or]

/-- The index with one more schema, when the heads that this one lists are known. -/
def extended (index : Index) (schema : Schema)
    (affiliates : List (ExpandedName × String × Nat)) : Index where
  schemas := index.schemas ++ [schema]
  elements := enter index.elements
    (schema.elementComponents.map (·.placed index.schemas.length))
  complexTypes := enter index.complexTypes
    (schema.typeComponents.map (·.placed index.schemas.length))
  simpleTypes := index.simpleTypes.insertMany (schema.simpleTypes.map schema.topLevelName)
  affiliates := affiliate index.affiliates affiliates

variable {index : Index} {set more : SchemaSet} {schema : Schema}

theorem Represents.extended (represents : index.Represents set)
    {affiliates : List (ExpandedName × String × Nat)}
    (resolved : schema.affiliates index.schemas.length = .ok affiliates)
    (added : more.schemas = set.schemas ++ [schema]) :
    (index.extended schema affiliates).Represents more where
  schemas := by
    rw [Index.extended, represents.schemas, added]
  elements name := by
    rw [SchemaSet.element?, SchemaSet.elements_eq_declared, added, Index.extended,
      represents.schemas]
    apply getElem?_enter_declared
    intro name
    rw [represents.elements, SchemaSet.element?, SchemaSet.elements_eq_declared]
  complexTypes name := by
    rw [SchemaSet.complexType?, SchemaSet.complexTypes_eq_declared, added, Index.extended,
      represents.schemas]
    apply getElem?_enter_declared
    intro name
    rw [represents.complexTypes, SchemaSet.complexType?, SchemaSet.complexTypes_eq_declared]
  simpleTypes name := by
    rw [Index.extended, Std.HashSet.mem_insertMany_list, represents.simpleTypes,
      SchemaSet.hasSimpleType, SchemaSet.hasSimpleType, added, List.any_append]
    simp
  affiliates head := by
    rw [Index.extended, getD_affiliate, represents.affiliates,
      Schema.filterMap_affiliates resolved, SchemaSet.map_substitutes,
      SchemaSet.map_substitutes, added, represents.schemas]
    simp [List.zipIdx_append]

/-! ## One call -/

/-- Whether a schema is added is decided before the first table is changed. -/
theorem call_eq (index : Index) (schema : Schema) :
    index.call schema =
      match schema.affiliates index.schemas.length with
      | .error fault => (.error fault, index)
      | .ok affiliates => (.ok index.schemas.length, index.extended schema affiliates) := by
  rw [call]
  simp only [add, EStateM.run_bind, EStateM.run_get]
  cases schema.affiliates index.schemas.length <;> rfl

theorem fst_call (index : Index) (schema : Schema) :
    (index.call schema).1 = answerAfter index.schemas.length schema := by
  rw [call_eq, answerAfter, ← schema.faultOf?_affiliates index.schemas.length]
  cases schema.affiliates index.schemas.length <;> rfl

/-- A call that fails leaves the index as it is. -/
theorem snd_call_of_error {fault : SchemaError}
    (failed : (index.call schema).1 = .error fault) : (index.call schema).2 = index := by
  rw [call_eq] at failed ⊢
  cases resolved : schema.affiliates index.schemas.length with
  | error fault => rfl
  | ok affiliates =>
      rw [resolved] at failed
      cases failed

theorem call_of_unresolved (index : Index) {fault : SchemaError}
    (unresolved : schema.unresolved? = some fault) :
    index.call schema = (.error fault, index) := by
  have failed : (index.call schema).1 = .error fault := by
    rw [fst_call, answerAfter, unresolved]
  exact Prod.ext failed (snd_call_of_error failed)

/-- A call that succeeds brings the index up to date. -/
theorem exists_snd_call_eq (index : Index) (resolved : schema.unresolved? = none) :
    ∃ affiliates, schema.affiliates index.schemas.length = .ok affiliates ∧
      (index.call schema).2 = index.extended schema affiliates := by
  rw [← schema.faultOf?_affiliates index.schemas.length] at resolved
  rw [call_eq]
  cases found : schema.affiliates index.schemas.length with
  | error fault =>
      rw [found] at resolved
      cases resolved
  | ok affiliates => exact ⟨affiliates, rfl, rfl⟩

theorem schemas_snd_call (index : Index) (resolved : schema.unresolved? = none) :
    (index.call schema).2.schemas = index.schemas ++ [schema] := by
  rcases index.exists_snd_call_eq resolved with ⟨affiliates, _, called⟩
  rw [called, extended]

theorem Represents.call (represents : index.Represents set)
    (resolved : schema.unresolved? = none) (added : more.schemas = set.schemas ++ [schema]) :
    (index.call schema).2.Represents more := by
  rcases index.exists_snd_call_eq resolved with ⟨affiliates, found, called⟩
  rw [called]
  exact represents.extended found added

end Index

end SchemaContent
