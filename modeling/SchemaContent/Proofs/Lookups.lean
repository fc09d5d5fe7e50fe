import SchemaContent.Proofs.Index
import SchemaContent.Proofs.RegistrationOrder

/-! # Lookups

What can be asked of schemas that are read together, and the right answers. They
depend on the schemas alone: on those that were accepted, in their order, and not on
the calls that failed in between. -/

namespace SchemaContent

/-- What can be asked of schemas. The substitutes of a head are given by their local
names, each with the position of its schema. -/
structure Lookups where
  schemas : List Schema
  element? : ExpandedName → Option (Component ElementDeclaration)
  complexType? : ExpandedName → Option (Component ComplexType)
  hasSimpleType : ExpandedName → Bool
  substitutes : ExpandedName → List (String × Nat)

/-- The answers for these schemas. The component that counts under a name is the one
that is declared first, and there is none only if none is declared. -/
structure Lookups.Answer (lookups : Lookups) (schemas : List Schema) : Prop where
  all : lookups.schemas = schemas
  element : ∀ name component, lookups.element? name = some component ↔
    component.FirstIn schemas Schema.elements (fun declaration => some declaration.name) name
  noElement : ∀ name, lookups.element? name = none ↔
    ∀ component : Component ElementDeclaration,
      component.DeclaredIn schemas Schema.elements (fun declaration => some declaration.name) →
        component.name ≠ name
  complexType : ∀ name component, lookups.complexType? name = some component ↔
    component.FirstIn schemas Schema.complexTypes ComplexType.name name
  noComplexType : ∀ name, lookups.complexType? name = none ↔
    ∀ component : Component ComplexType,
      component.DeclaredIn schemas Schema.complexTypes ComplexType.name →
        component.name ≠ name
  simpleType : ∀ name, lookups.hasSimpleType name = true ↔
    ∃ schema ∈ schemas, ∃ localName ∈ schema.simpleTypes, schema.topLevelName localName = name
  substitutes : ∀ head, lookups.substitutes head =
    schemas.zipIdx.flatMap fun (schema, position) => schema.listing head position
  substitute : ∀ head, ∀ substitute ∈ lookups.substitutes head,
    ∃ schema, schemas[substitute.2]? = some schema ∧
      (lookups.element? (schema.topLevelName substitute.1)).isSome

namespace SchemaSet

def lookups (set : SchemaSet) : Lookups where
  schemas := set.schemas
  element? := set.element?
  complexType? := set.complexType?
  hasSimpleType := set.hasSimpleType
  substitutes head := (set.substitutes head).map fun component =>
    (component.definition.name, component.position)

theorem isSome_element?_of_mem {set : SchemaSet} {component : Component ElementDeclaration}
    (declared : component ∈ set.elements) : (set.element? component.name).isSome := by
  rw [element?, List.find?_isSome]
  exact ⟨component, declared, by simp⟩

theorem lookups_answer (set : SchemaSet) : set.lookups.Answer set.schemas where
  all := rfl
  element name component := by
    rw [← Component.find?_declared_eq_some_iff, ← elements_eq_ofParts]
    rfl
  noElement name := by
    rw [← Component.find?_declared_eq_none_iff, ← elements_eq_ofParts]
    rfl
  complexType name component := by
    rw [← Component.find?_declared_eq_some_iff, ← complexTypes_eq_ofParts]
    rfl
  noComplexType name := by
    rw [← Component.find?_declared_eq_none_iff, ← complexTypes_eq_ofParts]
    rfl
  simpleType name := by simp [lookups, hasSimpleType]
  substitutes := set.map_substitutes
  substitute head substitute isSubstitute := by
    obtain ⟨component, isComponent, rfl⟩ := List.mem_map.mp isSubstitute
    have isDeclared := mem_elements_of_mem_substitutes isComponent
    have declared := mem_elements_iff.mp isDeclared
    refine ⟨component.schema, declared.schema, ?_⟩
    rw [Option.some.inj declared.name]
    exact isSome_element?_of_mem isDeclared

end SchemaSet

namespace Index

def lookups (index : Index) : Lookups where
  schemas := index.schemas
  element? := index.element?
  complexType? := index.complexType?
  hasSimpleType name := index.simpleTypes.contains name
  substitutes head := index.affiliates.getD head []

/-- Each site in the tables is that of a component. -/
structure InRange (index : Index) : Prop where
  elements : ∀ name site, index.elements[name]? = some site →
    ∃ component, index.element? name = some component ∧ component.site = site
  complexTypes : ∀ name site, index.complexTypes[name]? = some site →
    ∃ component, index.complexType? name = some component ∧ component.site = site

variable {index : Index} {set : SchemaSet}

theorem Represents.element? (represents : index.Represents set) (name : ExpandedName) :
    index.element? name = set.element? name := by
  rw [Index.element?, represents.elements, represents.schemas]
  cases found : set.element? name with
  | none => rfl
  | some component =>
      have sameName := SchemaSet.name_of_element? found
      have declared := SchemaSet.mem_elements_iff.mp (SchemaSet.mem_elements_of_element? found)
      simp [Component.site, declared.schema, declared.definition, ← sameName]

theorem Represents.complexType? (represents : index.Represents set) (name : ExpandedName) :
    index.complexType? name = set.complexType? name := by
  rw [Index.complexType?, represents.complexTypes, represents.schemas]
  cases found : set.complexType? name with
  | none => rfl
  | some component =>
      have sameName : component.name = name := by simpa using List.find?_some found
      have declared := SchemaSet.mem_complexTypes_iff.mp (List.mem_of_find?_eq_some found)
      simp [Component.site, declared.schema, declared.definition, ← sameName]

theorem Represents.lookups (represents : index.Represents set) :
    index.lookups = set.lookups := by
  have sameSimpleTypes : (fun name => index.simpleTypes.contains name) = set.hasSimpleType := by
    funext name
    rw [Bool.eq_iff_iff, ← represents.simpleTypes, Std.HashSet.mem_iff_contains]
  rw [Index.lookups, SchemaSet.lookups, represents.schemas, funext represents.element?,
    funext represents.complexType?, sameSimpleTypes, funext represents.affiliates]

theorem Represents.inRange (represents : index.Represents set) : index.InRange where
  elements name site entered := by
    rw [represents.elements] at entered
    obtain ⟨component, found, atSite⟩ := Option.map_eq_some_iff.mp entered
    exact ⟨component, (represents.element? name).trans found, atSite⟩
  complexTypes name site entered := by
    rw [represents.complexTypes] at entered
    obtain ⟨component, found, atSite⟩ := Option.map_eq_some_iff.mp entered
    exact ⟨component, (represents.complexType? name).trans found, atSite⟩

end Index

/-! ## Calls -/

namespace Index

theorem addAll_cons (index : Index) (schema : Schema) (rest : List Schema) :
    index.addAll (schema :: rest) =
      ((index.call schema).1 :: ((index.call schema).2.addAll rest).1,
        ((index.call schema).2.addAll rest).2) := rfl

theorem addAll_append (first second : List Schema) : ∀ index : Index,
    index.addAll (first ++ second) =
      ((index.addAll first).1 ++ ((index.addAll first).2.addAll second).1,
        ((index.addAll first).2.addAll second).2) := by
  induction first with
  | nil => exact fun _ => rfl
  | cons schema rest induction =>
      intro index
      rw [List.cons_append, addAll_cons, addAll_cons, induction]
      rfl

/-- Calls that fail might as well not be made. -/
theorem addAll_accepted (schemas : List Schema) : ∀ index : Index,
    (index.addAll schemas).2 = (index.addAll (accepted schemas)).2 := by
  induction schemas with
  | nil => exact fun _ => rfl
  | cons schema rest induction =>
      intro index
      cases unresolved : schema.unresolved? with
      | some fault =>
          rw [accepted_cons_of_unresolved unresolved, addAll_cons,
            index.call_of_unresolved unresolved]
          exact induction index
      | none =>
          rw [accepted_cons_of_resolved unresolved, addAll_cons, addAll_cons]
          exact induction (index.call schema).2

/-- Each call is answered with the fault of its schema, or with the number of schemas that
have been accepted before. -/
theorem getElem?_fst_addAll (schemas : List Schema) : ∀ (index : Index) (place : Nat),
    (index.addAll schemas).1[place]? = schemas[place]?.map
      (answerAfter (index.schemas.length + (accepted (schemas.take place)).length)) := by
  induction schemas with
  | nil => simp [addAll]
  | cons schema rest induction =>
      intro index place
      rw [addAll_cons]
      cases place with
      | zero => simp [fst_call, accepted]
      | succ place =>
          rw [List.getElem?_cons_succ, induction, List.getElem?_cons_succ, List.take_succ_cons]
          cases unresolved : schema.unresolved? with
          | some fault =>
              rw [index.call_of_unresolved unresolved, accepted_cons_of_unresolved unresolved]
          | none =>
              rw [index.schemas_snd_call unresolved, accepted_cons_of_resolved unresolved,
                List.length_append, List.length_singleton, List.length_cons, Nat.add_assoc,
                Nat.add_comm 1]

/-- After calls to an index that represents a set, it represents the set with the accepted
schemas added. -/
theorem represents_snd_addAll (schemas : List Schema) : ∀ (index : Index) (set : SchemaSet),
    index.Represents set → ∃ more, (accepted schemas).foldlM SchemaSet.add set = .ok more ∧
      more.schemas = set.schemas ++ accepted schemas ∧
      (index.addAll schemas).2.Represents more := by
  induction schemas with
  | nil => exact fun index set represents => ⟨set, rfl, (List.append_nil _).symm, represents⟩
  | cons schema rest induction =>
      intro index set represents
      rw [addAll_cons]
      cases unresolved : schema.unresolved? with
      | some fault =>
          rw [accepted_cons_of_unresolved unresolved, index.call_of_unresolved unresolved]
          exact induction index set represents
      | none =>
          rcases set.add_of_resolved unresolved with ⟨next, added, nextSchemas⟩
          rcases induction _ next (represents.call unresolved nextSchemas) with
            ⟨more, built, moreSchemas, laterRepresents⟩
          rw [accepted_cons_of_resolved unresolved]
          refine ⟨more, ?_, ?_, laterRepresents⟩
          · rw [List.foldlM_cons, added]
            exact built
          · rw [moreSchemas, nextSchemas, List.append_assoc, List.singleton_append]

/-- What comes of calls that add schemas to an empty index: each is answered with the
first fault of its schema or else with the position that the schema gets, one that
fails changes nothing, and only the accepted schemas count. -/
structure CountsAccepted (schemas : List Schema) : Prop where
  answers : ∀ place : Nat, (empty.addAll schemas).1[place]? =
    schemas[place]?.map (answerAfter (accepted (schemas.take place)).length)
  positions : ∀ place position : Nat, (empty.addAll schemas).1[place]? = some (.ok position) →
    (accepted schemas)[position]? = schemas[place]?
  unchanged : ∀ (place : Nat) (fault : SchemaError),
    (empty.addAll schemas).1[place]? = some (.error fault) →
      (empty.addAll (schemas.take (place + 1))).2 = (empty.addAll (schemas.take place)).2
  acceptedAlone : (empty.addAll schemas).2 = (empty.addAll (accepted schemas)).2
  lookups : (empty.addAll schemas).2.lookups.Answer (accepted schemas)
  inRange : (empty.addAll schemas).2.InRange

theorem getElem?_fst_addAll_empty (schemas : List Schema) (place : Nat) :
    (empty.addAll schemas).1[place]? =
      schemas[place]?.map (answerAfter (accepted (schemas.take place)).length) := by
  have nothing : empty.schemas.length = 0 := rfl
  rw [getElem?_fst_addAll, nothing, Nat.zero_add]

theorem snd_addAll_take_succ {schemas : List Schema} {place : Nat} {fault : SchemaError}
    (failed : (empty.addAll schemas).1[place]? = some (.error fault)) :
    (empty.addAll (schemas.take (place + 1))).2 = (empty.addAll (schemas.take place)).2 := by
  rw [getElem?_fst_addAll_empty] at failed
  rcases Option.map_eq_some_iff.mp failed with ⟨schema, atPlace, isFault⟩
  have unresolved : schema.unresolved? = some fault := by
    rw [← faultOf?_answerAfter, isFault]
    rfl
  rw [List.take_add_one, atPlace, Option.toList_some, addAll_append, addAll_cons,
    call_of_unresolved _ unresolved]
  rfl

/-- An index counts the schemas that are accepted and gives the answers of the set of
these, whatever calls are made in between, and the two refuse the same schemas. -/
theorem addAll_eq_search (schemas : List Schema) :
    CountsAccepted schemas ∧
      ∃ set, SchemaSet.build (accepted schemas) = .ok set ∧
        (empty.addAll schemas).2.lookups = set.lookups ∧
        ∀ schema, faultOf? ((empty.addAll schemas).2.call schema).1 =
          faultOf? (set.add schema) := by
  rcases represents_snd_addAll schemas empty .empty represents_empty with
    ⟨set, built, isAccepted, represents⟩
  have answersRight := set.lookups_answer
  rw [isAccepted, ← represents.lookups] at answersRight
  refine ⟨?_, set, built, represents.lookups, ?_⟩
  · exact {
      answers := getElem?_fst_addAll_empty schemas
      positions := positions_of_answers (getElem?_fst_addAll_empty schemas)
      unchanged := fun _ _ => snd_addAll_take_succ
      acceptedAlone := addAll_accepted schemas empty
      lookups := answersRight
      inRange := represents.inRange }
  · intro schema
    rw [fst_call, faultOf?_answerAfter, set.faultOf?_add]

end Index

namespace Shapes

/-- An element of this schema is a substitute under a qualifier that is not bound. -/
def triangles : Schema :=
  schema [declaration "Triangle" [reference "Shape", ⟨some "t", "Polygon"⟩]]

/-- The schema of the triangles is rejected, and what comes after it does not notice. -/
theorem addAll_shapes :
    (Index.empty.addAll [base, triangles, circles]).1 =
        [.ok 0, .error (.unboundQualifier "t"), .ok 1] ∧
      (accepted [base, triangles, circles])[1]? = some circles ∧
      (Index.empty.addAll [base, triangles]).2 = (Index.empty.addAll [base]).2 ∧
      (Index.empty.addAll [base, triangles, circles]).2.lookups.substitutes
        ⟨some "urn:shapes", "Shape"⟩ = [("Circle", 1)] := by
  have ⟨counted, _⟩ := Index.addAll_eq_search [base, triangles, circles]
  have answers : (Index.empty.addAll [base, triangles, circles]).1 =
      [.ok 0, .error (.unboundQualifier "t"), .ok 1] := by
    decide +kernel
  have atPosition := counted.positions 2 1 (by rw [answers]; rfl)
  have unnoticed := counted.unchanged 1 (.unboundQualifier "t") (by rw [answers]; rfl)
  have isAccepted : accepted [base, triangles, circles] = [base, circles] := by
    decide +kernel
  refine ⟨answers, atPosition, unnoticed, ?_⟩
  rw [counted.lookups.substitutes, isAccepted]
  decide +kernel

end Shapes

end SchemaContent
