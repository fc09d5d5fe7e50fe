import SchemaContent.Proofs.DeclarationOrder
import SchemaContent.Proofs.RelatedRuns

/-! # Accepted schemas

A schema is accepted unless one of its elements lists a substitution group that has
no meaning in the schema. Its fault is then the first of these, and no matter what is
accepted before it. -/

namespace SchemaContent

/-! ## The first fault -/

/-- The fault of a step, if it fails. -/
def faultOf? {ε α : Type} : Except ε α → Option ε
  | .error fault => some fault
  | .ok _ => none

theorem faultOf?_eq_some_iff {ε α : Type} {run : Except ε α} {fault : ε} :
    faultOf? run = some fault ↔ run = .error fault := by
  cases run <;> simp [faultOf?]

theorem toOption_eq_some_iff {ε α : Type} {run : Except ε α} {value : α} :
    run.toOption = some value ↔ run = .ok value := by
  cases run <;> simp [Except.toOption]

theorem faultOf?_map {ε α β : Type} (change : α → β) (run : Except ε α) :
    faultOf? (change <$> run) = faultOf? run := by
  cases run <;> rfl

/-- Steps along a list fail as the first of them that fails. -/
theorem faultOf?_mapM {ε α β : Type} (step : α → Except ε β) (values : List α) :
    faultOf? (values.mapM step) = values.findSome? fun value => faultOf? (step value) := by
  induction values with
  | nil => rfl
  | cons first rest induction =>
      rw [List.mapM_cons, List.findSome?_cons, ← induction]
      cases step first with
      | error fault => rfl
      | ok result => cases rest.mapM step <;> rfl

namespace Schema

/-- The fault of the first substitution group, in document order, that has no
meaning in the schema. -/
def unresolved? (schema : Schema) : Option SchemaError :=
  (schema.elements.flatMap (·.substitutionGroup)).findSome? fun reference =>
    faultOf? (schema.resolve reference)

theorem faultOf?_affiliations (schema : Schema) :
    faultOf? schema.affiliations = schema.unresolved? := by
  rw [unresolved?, ← faultOf?_mapM, mapM_flatMap, faultOf?_map]
  rfl

end Schema

/-- The schemas that are accepted, in order. -/
def accepted (schemas : List Schema) : List Schema :=
  schemas.filter fun schema => schema.unresolved? = none

theorem accepted_cons_of_unresolved {schema : Schema} {fault : SchemaError}
    (unresolved : schema.unresolved? = some fault) (rest : List Schema) :
    accepted (schema :: rest) = accepted rest := by
  simp [accepted, unresolved]

theorem accepted_cons_of_resolved {schema : Schema} (resolved : schema.unresolved? = none)
    (rest : List Schema) : accepted (schema :: rest) = schema :: accepted rest := by
  simp [accepted, resolved]

theorem SchemaSet.add_of_unresolved (set : SchemaSet) {schema : Schema}
    {fault : SchemaError} (unresolved : schema.unresolved? = some fault) :
    set.add schema = .error fault := by
  rw [← Schema.faultOf?_affiliations, faultOf?_eq_some_iff] at unresolved
  rw [add]
  split
  · rename_i failed
    rw [unresolved] at failed
    cases failed
    rfl
  · rename_i resolved
    rw [unresolved] at resolved
    cases resolved

theorem SchemaSet.add_of_resolved (set : SchemaSet) {schema : Schema}
    (resolved : schema.unresolved? = none) :
    ∃ more, set.add schema = .ok more ∧ more.schemas = set.schemas ++ [schema] := by
  apply set.exists_of_add
  rw [← Schema.faultOf?_affiliations] at resolved
  cases affiliations : schema.affiliations with
  | error fault =>
      rw [affiliations] at resolved
      cases resolved
  | ok names => exact ⟨names, affiliations⟩

theorem SchemaSet.faultOf?_add (set : SchemaSet) (schema : Schema) :
    faultOf? (set.add schema) = schema.unresolved? := by
  cases unresolved : schema.unresolved? with
  | some fault =>
      rw [set.add_of_unresolved unresolved]
      rfl
  | none =>
      obtain ⟨more, added, _⟩ := set.add_of_resolved unresolved
      rw [added]
      rfl

/-! ## Answers -/

/-- The answer to a call: the fault of the schema, or its position after so many
accepted schemas. -/
def answerAfter (count : Nat) (schema : Schema) : Except SchemaError Nat :=
  match schema.unresolved? with
  | some fault => .error fault
  | none => .ok count

theorem faultOf?_answerAfter (count : Nat) (schema : Schema) :
    faultOf? (answerAfter count schema) = schema.unresolved? := by
  rw [answerAfter]
  cases schema.unresolved? <;> rfl

/-- Where calls have accepted a schema, it stands after those accepted before it. -/
theorem getElem?_accepted {schemas : List Schema} {place : Nat} {schema : Schema}
    (atPlace : schemas[place]? = some schema) (resolved : schema.unresolved? = none) :
    (accepted schemas)[(accepted (schemas.take place)).length]? = some schema := by
  obtain ⟨inRange, isSchema⟩ := List.getElem?_eq_some_iff.mp atPlace
  have parts : accepted schemas =
      accepted (schemas.take place) ++ schema :: accepted (schemas.drop (place + 1)) := by
    rw [← accepted_cons_of_resolved resolved, accepted, accepted, accepted,
      ← List.filter_append, ← isSchema, ← List.drop_eq_getElem_cons inRange,
      List.take_append_drop]
  rw [parts, List.getElem?_append_right (Nat.le_refl _), Nat.sub_self]
  rfl

theorem positions_of_answers {answers : List (Except SchemaError Nat)} {schemas : List Schema}
    (answered : ∀ place : Nat, answers[place]? =
      schemas[place]?.map (answerAfter (accepted (schemas.take place)).length))
    (place position : Nat) (isPosition : answers[place]? = some (.ok position)) :
    (accepted schemas)[position]? = schemas[place]? := by
  rw [answered] at isPosition
  obtain ⟨schema, atPlace, isAnswer⟩ := Option.map_eq_some_iff.mp isPosition
  rw [answerAfter] at isAnswer
  split at isAnswer
  · cases isAnswer
  · rename_i resolved
    cases isAnswer
    rw [getElem?_accepted atPlace resolved, atPlace]

end SchemaContent
