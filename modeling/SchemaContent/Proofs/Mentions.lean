import Mathlib.Data.List.Induction
import SchemaContent.Loading
import SchemaContent.Proofs.Acceptance

/-! # Mentions

Which schemas are loaded, and in which order, is told by the mentions of locations. A
queue of them starts with the entry, and what a schema mentions joins the queue when a
mention first leads to the schema. -/

namespace SchemaContent

/-- The locations that a schema mentions, as seen from its document. -/
def Schema.leads (schema : Schema) : List Mention :=
  schema.directives.filterMap fun directive =>
    directive.location.map fun location => ⟨location, schema.location⟩

/-! ## First occurrences -/

theorem eraseDups_snoc_of_mem {α : Type} [DecidableEq α] {values : List α} {value : α}
    (known : value ∈ values) : (values ++ [value]).eraseDups = values.eraseDups := by
  simp [List.eraseDups_append, List.removeAll, known]

theorem eraseDups_snoc_of_not_mem {α : Type} [DecidableEq α] {values : List α} {value : α}
    (new : value ∉ values) :
    (values ++ [value]).eraseDups = values.eraseDups ++ [value] := by
  simp [List.eraseDups_append, List.removeAll, List.eraseDups_cons, new]

theorem nodup_eraseDups {α : Type} [DecidableEq α] (values : List α) :
    values.eraseDups.Nodup := by
  induction values using List.reverseRecOn with
  | nil => exact .nil
  | append_singleton values value induction =>
      by_cases known : value ∈ values
      · rwa [eraseDups_snoc_of_mem known]
      · rw [eraseDups_snoc_of_not_mem known, ← List.concat_eq_append, List.nodup_concat]
        exact ⟨fun old => known (List.mem_eraseDups.mp old), induction⟩

section

variable (resolver : Resolver) (allowDoctype : Bool) (entry : String)

namespace Resolver

/-! ## Reading -/

/-- The schema of a document, as it is loaded: it knows its location, and all its
substitution groups have a meaning in it. -/
def schemaAt (canonical : String) : Except SchemaError Schema := do
  let schema ← Schema.parse (resolver.text canonical) allowDoctype
  match schema.unresolved? with
  | some fault => throw fault
  | none => return { schema with location := some canonical }

/-- The schema that a mention leads to. -/
def read (mention : Mention) : Except SchemaError Schema :=
  match resolver.locate mention.location mention.base with
  | .error cause => .error (.notLoaded mention.location cause)
  | .ok canonical => resolver.schemaAt allowDoctype canonical

/-- The mention leads to a document that can be read, and its schema can be added to
any set. -/
def Loadable (mention : Mention) : Prop :=
  ∃ canonical, resolver.locate mention.location mention.base = .ok canonical ∧
    ∃ schema, Schema.parse (resolver.text canonical) allowDoctype = .ok schema ∧
      ∀ set : SchemaSet, ∃ more,
        set.add { schema with location := some canonical } = .ok more

variable {resolver allowDoctype}

theorem schemaAt_eq_ok_iff {canonical : String} {schema : Schema} :
    resolver.schemaAt allowDoctype canonical = .ok schema ↔
      ∃ parsed, Schema.parse (resolver.text canonical) allowDoctype = .ok parsed ∧
        parsed.unresolved? = none ∧ { parsed with location := some canonical } = schema := by
  rw [schemaAt]
  cases Schema.parse (resolver.text canonical) allowDoctype with
  | error fault => exact ⟨nofun, nofun⟩
  | ok parsed =>
      change (match parsed.unresolved? with | some fault => _ | none => _) = _ ↔ _
      cases unresolved : parsed.unresolved? with
      | some fault => simp [unresolved, throw, throwThe, MonadExceptOf.throw]
      | none => simp [unresolved, pure, Except.pure]

theorem location_of_schemaAt {canonical : String} {schema : Schema}
    (isSchema : resolver.schemaAt allowDoctype canonical = .ok schema) :
    schema.location = some canonical := by
  have ⟨_, _, _, located⟩ := schemaAt_eq_ok_iff.mp isSchema
  rw [← located]

theorem read_of_locate {mention : Mention} {canonical : String}
    (located : resolver.locate mention.location mention.base = .ok canonical) :
    resolver.read allowDoctype mention = resolver.schemaAt allowDoctype canonical := by
  rw [read, located]

theorem read_eq_ok_iff {mention : Mention} {schema : Schema} :
    resolver.read allowDoctype mention = .ok schema ↔
      ∃ canonical, resolver.locate mention.location mention.base = .ok canonical ∧
        resolver.schemaAt allowDoctype canonical = .ok schema := by
  rw [read]
  cases resolver.locate mention.location mention.base <;> simp

theorem loadable_iff {mention : Mention} :
    resolver.Loadable allowDoctype mention ↔
      ∃ schema, resolver.read allowDoctype mention = .ok schema := by
  simp only [Loadable, read_eq_ok_iff, schemaAt_eq_ok_iff]
  constructor
  · rintro ⟨canonical, located, parsed, isParsed, added⟩
    have ⟨more, isMore⟩ := added .empty
    have resolved := SchemaSet.faultOf?_add .empty { parsed with location := some canonical }
    rw [isMore] at resolved
    exact ⟨_, canonical, located, parsed, isParsed, resolved.symm, rfl⟩
  · rintro ⟨_, canonical, located, parsed, isParsed, resolved, _⟩
    refine ⟨canonical, located, parsed, isParsed, fun set => ?_⟩
    have alsoResolved : { parsed with location := some canonical }.unresolved? = none :=
      resolved
    have ⟨more, added, _⟩ := set.add_of_resolved alsoResolved
    exact ⟨more, added⟩

/-! ## The queue -/

variable (resolver allowDoctype)

/-- The mentions that the entry leads to, through documents that can be read. -/
inductive Reached : Mention → Prop
  | entry : Reached ⟨entry, none⟩
  | mentioned {mention next : Mention} {canonical : String} {schema : Schema}
      (reached : Reached mention)
      (located : resolver.locate mention.location mention.base = .ok canonical)
      (parsed : Schema.parse (resolver.text canonical) allowDoctype = .ok schema)
      (isNext : next ∈ schema.mentions canonical) : Reached next

/-- The schemas that these mentions lead to, in the order in which they first do. Those
of different documents differ, as each knows its location. -/
def discovered (row : List Mention) : List Schema :=
  (row.filterMap fun mention => (resolver.read allowDoctype mention).toOption).eraseDups

/-- All that has been on the queue after these mentions: the entry, and what the
schemas mention that they lead to. -/
def queue (row : List Mention) : List Mention :=
  ⟨entry, none⟩ :: (resolver.discovered allowDoctype row).flatMap Schema.leads

/-- Mentions in the order of the queue: each is the next one on it after those
before. -/
inductive InOrder : List Mention → Prop
  | nil : InOrder []
  | snoc {row : List Mention} {mention : Mention} (inOrder : InOrder row)
      (isNext : row ++ [mention] <+: resolver.queue allowDoctype entry row) :
      InOrder (row ++ [mention])

/-- The queue comes to a mention that fails with this fault, after mentions that do
not fail. -/
def FailsFirst (fault : SchemaError) : Prop :=
  ∃ row mention, resolver.InOrder allowDoctype entry (row ++ [mention]) ∧
    (∀ earlier ∈ row, ∃ schema, resolver.read allowDoctype earlier = .ok schema) ∧
    resolver.read allowDoctype mention = .error fault

/-- The schemas of all documents that the entry leads to, in the order in which the
queue first leads to them. -/
structure LoadsAll (schemas : List Schema) : Prop where
  order : ∃ row, resolver.InOrder allowDoctype entry row ∧
    resolver.queue allowDoctype entry row = row ∧
    schemas = resolver.discovered allowDoctype row
  entryFirst : ∃ canonical, resolver.locate entry none = .ok canonical ∧
    schemas.head?.map (·.location) = some (some canonical)
  once : (schemas.map (·.location)).Nodup
  locations : ∀ canonical, some canonical ∈ schemas.map (·.location) ↔
    ∃ mention, resolver.Reached allowDoctype entry mention ∧
      resolver.locate mention.location mention.base = .ok canonical
  parsed : ∀ schema ∈ schemas, ∃ canonical parsed,
    Schema.parse (resolver.text canonical) allowDoctype = .ok parsed ∧
      { parsed with location := some canonical } = schema

variable {resolver allowDoctype entry}

theorem mem_discovered_iff {row : List Mention} {schema : Schema} :
    schema ∈ resolver.discovered allowDoctype row ↔
      ∃ mention ∈ row, resolver.read allowDoctype mention = .ok schema := by
  simp only [discovered, List.mem_eraseDups, List.mem_filterMap, toOption_eq_some_iff]

theorem mem_queue_iff {row : List Mention} {next : Mention} :
    next ∈ resolver.queue allowDoctype entry row ↔
      next = ⟨entry, none⟩ ∨
        ∃ mention ∈ row, ∃ schema, resolver.read allowDoctype mention = .ok schema ∧
          next ∈ schema.leads := by
  simp only [queue, List.mem_cons, List.mem_flatMap, mem_discovered_iff]
  grind

theorem discovered_snoc_of_mem {row : List Mention} {mention : Mention} {schema : Schema}
    (isRead : resolver.read allowDoctype mention = .ok schema)
    (known : schema ∈ resolver.discovered allowDoctype row) :
    resolver.discovered allowDoctype (row ++ [mention]) =
      resolver.discovered allowDoctype row := by
  rw [discovered, List.mem_eraseDups] at known
  rw [discovered, List.filterMap_append, List.filterMap_cons, isRead]
  exact eraseDups_snoc_of_mem known

theorem discovered_snoc_of_not_mem {row : List Mention} {mention : Mention} {schema : Schema}
    (isRead : resolver.read allowDoctype mention = .ok schema)
    (new : schema ∉ resolver.discovered allowDoctype row) :
    resolver.discovered allowDoctype (row ++ [mention]) =
      resolver.discovered allowDoctype row ++ [schema] := by
  rw [discovered, List.mem_eraseDups] at new
  rw [discovered, List.filterMap_append, List.filterMap_cons, isRead]
  exact eraseDups_snoc_of_not_mem new

/-- Two schemas with the same location have been read from the same document. -/
theorem nodup_locations_discovered (row : List Mention) :
    ((resolver.discovered allowDoctype row).map (·.location)).Nodup := by
  apply List.Nodup.map_on ?_ (nodup_eraseDups _)
  intro schema isSchema other isOther sameLocation
  have ⟨_, _, isRead⟩ := mem_discovered_iff.mp isSchema
  have ⟨_, _, otherRead⟩ := mem_discovered_iff.mp isOther
  have ⟨canonical, _, isAt⟩ := read_eq_ok_iff.mp isRead
  have ⟨_, _, otherAt⟩ := read_eq_ok_iff.mp otherRead
  rw [location_of_schemaAt isAt, location_of_schemaAt otherAt] at sameLocation
  cases sameLocation
  exact Except.ok.inj (isAt.symm.trans otherAt)

theorem head?_discovered {row : List Mention} {mention : Mention} {schema : Schema}
    (isRead : resolver.read allowDoctype mention = .ok schema) :
    (resolver.discovered allowDoctype (mention :: row)).head? = some schema := by
  rw [discovered, List.filterMap_cons, isRead]
  exact congrArg List.head? List.eraseDups_cons

/-! ## What is reached -/

theorem reached_of_inOrder {row : List Mention}
    (inOrder : resolver.InOrder allowDoctype entry row) :
    ∀ mention ∈ row, resolver.Reached allowDoctype entry mention := by
  induction inOrder with
  | nil => exact nofun
  | @snoc row mention _ isNext induction =>
      intro other isOther
      rcases List.mem_append.mp isOther with isEarlier | isLast
      · exact induction other isEarlier
      · cases List.mem_singleton.mp isLast
        have isQueued := isNext.subset (List.mem_append_right row List.mem_cons_self)
        rcases mem_queue_iff.mp isQueued with rfl | ⟨earlier, isEarlier, schema, isRead, isLead⟩
        · exact .entry
        · have ⟨canonical, located, isSchema⟩ := read_eq_ok_iff.mp isRead
          rcases schemaAt_eq_ok_iff.mp isSchema with ⟨parsed, isParsed, _, rfl⟩
          exact .mentioned (induction earlier isEarlier) located isParsed isLead

/-- If a row holds all that has been on the queue after it, nothing else is
reached. -/
theorem mem_of_reached {row : List Mention}
    (whole : resolver.queue allowDoctype entry row = row)
    (allRead : ∀ mention ∈ row, ∃ schema, resolver.read allowDoctype mention = .ok schema)
    {mention : Mention} (reached : resolver.Reached allowDoctype entry mention) :
    mention ∈ row := by
  induction reached with
  | entry =>
      rw [← whole]
      exact List.mem_cons_self
  | @mentioned mention next canonical schema _ located parsed isNext induction =>
      have ⟨found, isRead⟩ := allRead mention induction
      rw [← whole, mem_queue_iff]
      refine .inr ⟨mention, induction, found, isRead, ?_⟩
      rw [read, located] at isRead
      rcases schemaAt_eq_ok_iff.mp isRead with ⟨same, sameParsed, _, rfl⟩
      cases parsed.symm.trans sameParsed
      exact isNext

end Resolver

end

end SchemaContent
