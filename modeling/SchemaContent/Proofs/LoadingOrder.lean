import SchemaContent.Proofs.LoadingQueue
import SchemaContent.Proofs.Mentions

/-! # The order of loading

The schemas that have been loaded are those that the mentions taken off the queue lead
to. So loading takes the mentions in the order of the queue, up to its end or to the
first mention that fails. -/

namespace SchemaContent

section

variable (resolver : Resolver) (allowDoctype : Bool) (entry : String)

namespace Loaded

/-- What is loaded after a row of mentions, while others wait. -/
structure Follows (loaded : Loaded) (row waiting : List Mention) : Prop where
  inOrder : resolver.InOrder allowDoctype entry row
  allRead : ∀ mention ∈ row, ∃ schema, resolver.read allowDoctype mention = .ok schema
  schemas : loaded.set.schemas = resolver.discovered allowDoctype row
  locations : ∀ canonical, canonical ∈ loaded.locations ↔
    ∃ mention ∈ row, resolver.locate mention.location mention.base = .ok canonical
  waiting : resolver.queue allowDoctype entry row = row ++ waiting

/-- How a run ends: the queue is empty, or the first mention that fails has come. -/
inductive Ends : Except SchemaError Loaded → Prop
  | ok {loaded : Loaded} {row : List Mention}
      (follows : Follows resolver allowDoctype entry loaded row []) : Ends (.ok loaded)
  | error {fault : SchemaError} (failsFirst : resolver.FailsFirst allowDoctype entry fault) :
      Ends (.error fault)

variable {resolver allowDoctype entry}

theorem follows_nothing :
    Follows resolver allowDoctype entry .nothing [] [⟨entry, none⟩] where
  inOrder := .nil
  allRead := nofun
  schemas := rfl
  locations canonical := by simp [nothing]
  waiting := rfl

variable {loaded : Loaded} {mention : Mention} {row waiting : List Mention}

theorem Follows.isNext
    (follows : Follows resolver allowDoctype entry loaded row (mention :: waiting)) :
    row ++ [mention] <+: resolver.queue allowDoctype entry row :=
  ⟨waiting, by rw [follows.waiting, List.append_assoc, List.singleton_append]⟩

/-- One more mention has been handled, and what it adds to the queue waits. -/
theorem Follows.snoc (follows : Follows resolver allowDoctype entry loaded row (mention :: waiting))
    {more : Loaded} {found : List Mention} {schema : Schema}
    (isRead : resolver.read allowDoctype mention = .ok schema)
    (schemas : more.set.schemas = resolver.discovered allowDoctype (row ++ [mention]))
    (locations : ∀ canonical, canonical ∈ more.locations ↔ canonical ∈ loaded.locations ∨
      resolver.locate mention.location mention.base = .ok canonical)
    (isFound : resolver.queue allowDoctype entry (row ++ [mention]) =
      resolver.queue allowDoctype entry row ++ found) :
    Follows resolver allowDoctype entry more (row ++ [mention]) (waiting ++ found) where
  inOrder := .snoc follows.inOrder follows.isNext
  allRead := by
    intro other isOther
    rcases List.mem_append.mp isOther with isEarlier | isLast
    · exact follows.allRead other isEarlier
    · cases List.mem_singleton.mp isLast
      exact ⟨schema, isRead⟩
  schemas := schemas
  locations canonical := by
    rw [locations, follows.locations]
    simp only [List.mem_append, List.mem_singleton]
    grind
  waiting := by simp [isFound, follows.waiting]

theorem visit_of_mem {canonical : String}
    (located : resolver.locate mention.location mention.base = .ok canonical)
    (known : canonical ∈ loaded.locations) :
    loaded.visit resolver allowDoctype mention = .ok (loaded, []) := by
  rw [visit, located]
  exact if_pos known

variable (allowDoctype) in
theorem visit_of_not_mem {canonical : String}
    (located : resolver.locate mention.location mention.base = .ok canonical)
    (fresh : canonical ∉ loaded.locations) :
    Related Eq
      (fun (more, found) schema => more.set.schemas = loaded.set.schemas ++ [schema] ∧
        more.locations = canonical :: loaded.locations ∧ found = schema.leads)
      (loaded.visit resolver allowDoctype mention) (resolver.schemaAt allowDoctype canonical) := by
  rw [visit, located, Resolver.schemaAt]
  simp only [if_neg fresh]
  cases Schema.parse (resolver.text canonical) allowDoctype with
  | error fault => exact .error rfl
  | ok parsed =>
      have resolution : { parsed with location := some canonical }.unresolved? =
        parsed.unresolved? := rfl
      cases unresolved : parsed.unresolved? with
      | some fault =>
          rw [unresolved] at resolution
          have failed := loaded.set.add_of_unresolved resolution
          simp only [bind, Except.bind, failed, unresolved]
          exact .error rfl
      | none =>
          rw [unresolved] at resolution
          obtain ⟨set, added, isSet⟩ := loaded.set.add_of_resolved resolution
          simp only [bind, Except.bind, added, unresolved]
          exact .ok ⟨isSet, rfl, rfl⟩

theorem Follows.mem_locations_iff
    (follows : Follows resolver allowDoctype entry loaded row waiting) {canonical : String}
    {schema : Schema} (isSchema : resolver.schemaAt allowDoctype canonical = .ok schema) :
    canonical ∈ loaded.locations ↔ schema ∈ resolver.discovered allowDoctype row := by
  rw [follows.locations, Resolver.mem_discovered_iff]
  constructor
  · rintro ⟨earlier, isEarlier, located⟩
    exact ⟨earlier, isEarlier, Resolver.read_eq_ok_iff.mpr ⟨canonical, located, isSchema⟩⟩
  · rintro ⟨earlier, isEarlier, isRead⟩
    have ⟨other, located, isOther⟩ := Resolver.read_eq_ok_iff.mp isRead
    have sameLocation := (Resolver.location_of_schemaAt isOther).symm.trans
      (Resolver.location_of_schemaAt isSchema)
    cases sameLocation
    exact ⟨earlier, isEarlier, located⟩

/-- The mention leads to a document that an earlier one has led to. It has been read
and mentions nothing new. -/
theorem Follows.again
    (follows : Follows resolver allowDoctype entry loaded row (mention :: waiting))
    {canonical : String}
    (located : resolver.locate mention.location mention.base = .ok canonical)
    (known : canonical ∈ loaded.locations) :
    ∃ schema, resolver.read allowDoctype mention = .ok schema ∧
      Follows resolver allowDoctype entry loaded (row ++ [mention]) (waiting ++ []) := by
  have ⟨earlier, isEarlier, sameDocument⟩ := (follows.locations canonical).mp known
  have ⟨schema, isRead⟩ := follows.allRead earlier isEarlier
  rw [Resolver.read_of_locate sameDocument] at isRead
  have isDiscovered := (follows.mem_locations_iff isRead).mp known
  have readAgain := (Resolver.read_of_locate located).trans isRead
  have noneNew := Resolver.discovered_snoc_of_mem readAgain isDiscovered
  refine ⟨schema, readAgain, follows.snoc readAgain ?_ ?_ ?_⟩
  · rw [noneNew, follows.schemas]
  · grind
  · rw [Resolver.queue, noneNew, List.append_nil]
    rfl

/-- The mention is the first that leads to its document. What the document mentions
joins the queue. -/
theorem Follows.first
    (follows : Follows resolver allowDoctype entry loaded row (mention :: waiting))
    {canonical : String}
    (located : resolver.locate mention.location mention.base = .ok canonical)
    (fresh : canonical ∉ loaded.locations) {schema : Schema}
    (isSchema : resolver.schemaAt allowDoctype canonical = .ok schema) {more : Loaded}
    (schemas : more.set.schemas = loaded.set.schemas ++ [schema])
    (locations : more.locations = canonical :: loaded.locations) :
    Follows resolver allowDoctype entry more (row ++ [mention]) (waiting ++ schema.leads) := by
  have isNew := mt (follows.mem_locations_iff isSchema).mpr fresh
  have isRead := (Resolver.read_of_locate located).trans isSchema
  have oneNew := Resolver.discovered_snoc_of_not_mem isRead isNew
  apply follows.snoc isRead
  · rw [schemas, oneNew, follows.schemas]
  · grind
  · rw [Resolver.queue, Resolver.queue, oneNew, List.flatMap_append, List.flatMap_singleton,
      List.cons_append]

/-- One step of the run handles the mention that has waited longest. -/
theorem Follows.visit
    (follows : Follows resolver allowDoctype entry loaded row (mention :: waiting)) :
    Related Eq
      (fun (more, found) _ =>
        Follows resolver allowDoctype entry more (row ++ [mention]) (waiting ++ found))
      (loaded.visit resolver allowDoctype mention) (resolver.read allowDoctype mention) := by
  cases located : resolver.locate mention.location mention.base with
  | error cause =>
      rw [Loaded.visit, Resolver.read, located]
      exact .error rfl
  | ok canonical =>
      by_cases known : canonical ∈ loaded.locations
      · obtain ⟨schema, isRead, handled⟩ := follows.again located known
        rw [visit_of_mem located known, isRead]
        exact .ok handled
      · have visited := visit_of_not_mem allowDoctype located known
        rw [Resolver.read_of_locate located]
        generalize loaded.visit resolver allowDoctype mention = outcome at visited ⊢
        generalize isSchema : resolver.schemaAt allowDoctype canonical = opened at visited ⊢
        cases visited with
        | error same => exact .error same
        | @ok result schema same =>
            rcases result with ⟨more, found⟩
            rcases same with ⟨schemas, locations, rfl⟩
            exact .ok (follows.first located known isSchema schemas locations)

/-- The run goes through the mentions in the order of the queue. -/
theorem Follows.ends {steps : Nat} {outcome : Except SchemaError Loaded}
    (follows : Follows resolver allowDoctype entry loaded row waiting)
    (ran : run resolver allowDoctype steps loaded waiting = some outcome) :
    Ends resolver allowDoctype entry outcome := by
  induction steps generalizing loaded row waiting with
  | zero =>
      cases waiting with
      | nil =>
          cases ran
          exact .ok follows
      | cons mention rest => nomatch ran
  | succ steps induction =>
      cases waiting with
      | nil =>
          cases ran
          exact .ok follows
      | cons mention rest =>
          rw [run] at ran
          have visited := follows.visit
          generalize loaded.visit resolver allowDoctype mention = outcome at visited ran
          generalize isRead : resolver.read allowDoctype mention = read at visited
          cases visited with
          | error same =>
              cases same
              cases ran
              exact .error ⟨row, mention, .snoc follows.inOrder follows.isNext,
                follows.allRead, isRead⟩
          | ok later => exact induction later ran

/-! ## What is loaded -/

theorem Follows.whole (follows : Follows resolver allowDoctype entry loaded row []) :
    resolver.queue allowDoctype entry row = row := by
  rw [follows.waiting, List.append_nil]

theorem Follows.entryFirst (follows : Follows resolver allowDoctype entry loaded row []) :
    ∃ canonical, resolver.locate entry none = .ok canonical ∧
      loaded.set.schemas.head?.map (·.location) = some (some canonical) := by
  have whole := follows.whole
  have isHead : ⟨entry, none⟩ ∈ row := by
    rw [← whole]
    exact List.mem_cons_self
  have ⟨schema, isRead⟩ := follows.allRead _ isHead
  have ⟨canonical, located, isAt⟩ := Resolver.read_eq_ok_iff.mp isRead
  refine ⟨canonical, located, ?_⟩
  rw [follows.schemas, ← whole, Resolver.queue, Resolver.head?_discovered isRead]
  exact congrArg some (Resolver.location_of_schemaAt isAt)

theorem Follows.loadsAll (follows : Follows resolver allowDoctype entry loaded row []) :
    resolver.LoadsAll allowDoctype entry loaded.set.schemas where
  order := ⟨row, follows.inOrder, follows.whole, follows.schemas⟩
  entryFirst := follows.entryFirst
  once := by
    rw [follows.schemas]
    exact Resolver.nodup_locations_discovered row
  locations canonical := by
    rw [follows.schemas, List.mem_map]
    constructor
    · rintro ⟨schema, isSchema, atCanonical⟩
      have ⟨mention, isMention, isRead⟩ := Resolver.mem_discovered_iff.mp isSchema
      have ⟨other, located, isAt⟩ := Resolver.read_eq_ok_iff.mp isRead
      cases (Resolver.location_of_schemaAt isAt).symm.trans atCanonical
      exact ⟨mention, Resolver.reached_of_inOrder follows.inOrder mention isMention, located⟩
    · rintro ⟨mention, reached, located⟩
      have isMention := Resolver.mem_of_reached follows.whole follows.allRead reached
      have ⟨schema, isRead⟩ := follows.allRead mention isMention
      refine ⟨schema, Resolver.mem_discovered_iff.mpr ⟨mention, isMention, isRead⟩, ?_⟩
      rw [Resolver.read_of_locate located] at isRead
      exact Resolver.location_of_schemaAt isRead
  parsed schema isSchema := by
    rw [follows.schemas] at isSchema
    have ⟨_, _, isRead⟩ := Resolver.mem_discovered_iff.mp isSchema
    have ⟨canonical, _, isAt⟩ := Resolver.read_eq_ok_iff.mp isRead
    have ⟨parsed, isParsed, _, same⟩ := Resolver.schemaAt_eq_ok_iff.mp isAt
    exact ⟨canonical, parsed, isParsed, same⟩

/-- The end of a run is reached without a fault if nothing that is reached fails. -/
theorem Ends.exists_ok_iff {outcome : Except SchemaError Loaded}
    (ends : Ends resolver allowDoctype entry outcome) :
    (∃ last, outcome = .ok last) ↔
      ∀ mention, resolver.Reached allowDoctype entry mention →
        resolver.Loadable allowDoctype mention := by
  constructor
  · rintro ⟨last, rfl⟩ mention reached
    cases ends with
    | ok follows =>
        have isMention := Resolver.mem_of_reached follows.whole follows.allRead reached
        exact Resolver.loadable_iff.mpr (follows.allRead mention isMention)
  · intro allLoadable
    cases ends with
    | ok => exact ⟨_, rfl⟩
    | error failsFirst =>
        have ⟨row, mention, inOrder, _, failed⟩ := failsFirst
        have reached := Resolver.reached_of_inOrder inOrder mention
          (List.mem_append_right row List.mem_cons_self)
        have ⟨schema, isRead⟩ := Resolver.loadable_iff.mp (allLoadable mention reached)
        nomatch failed.symm.trans isRead

/-- What has been loaded is what a row of mentions has led to, with none left. -/
theorem exists_follows {set : SchemaSet}
    (success : SchemaSet.load resolver entry allowDoctype = .ok set) :
    ∃ loaded row, loaded.set = set ∧
      Follows resolver allowDoctype entry loaded row [] := by
  rcases exists_of_map_eq_ok success with ⟨loaded, followed, rfl⟩
  have ran := run_follow resolver allowDoctype nothing [⟨entry, none⟩] _ (Nat.le_refl _)
  rw [followed] at ran
  cases follows_nothing.ends ran with
  | ok follows => exact ⟨loaded, _, rfl, follows⟩

end Loaded

namespace SchemaSet

/-- Loading ends after as many steps as there are mentions in the documents, and one.
It succeeds if all mentions that the entry leads to can be loaded. Then the schemas are
those of their documents in the order of the queue, and else the first mention that
fails tells the fault. -/
theorem load_follows_queue :
    (Loaded.run resolver allowDoctype (1 + (resolver.mentionsLeft allowDoctype []).length)
        .nothing [⟨entry, none⟩]).map ((·.set) <$> ·) =
        some (load resolver entry allowDoctype) ∧
      ((∃ set, load resolver entry allowDoctype = .ok set) ↔
        ∀ mention, resolver.Reached allowDoctype entry mention →
          resolver.Loadable allowDoctype mention) ∧
      (∀ set, load resolver entry allowDoctype = .ok set →
        resolver.LoadsAll allowDoctype entry set.schemas) ∧
      ∀ fault, load resolver entry allowDoctype = .error fault →
        resolver.FailsFirst allowDoctype entry fault := by
  have ran : Loaded.run resolver allowDoctype (1 + (resolver.mentionsLeft allowDoctype []).length)
      .nothing [⟨entry, none⟩] =
        some (Loaded.nothing.follow resolver allowDoctype [⟨entry, none⟩]) :=
    Loaded.run_follow resolver allowDoctype .nothing [⟨entry, none⟩] _ (Nat.le_refl _)
  have ends := Loaded.follows_nothing.ends ran
  rw [ran, load]
  generalize Loaded.nothing.follow resolver allowDoctype [⟨entry, none⟩] = outcome at ends
  refine ⟨rfl, ?_, ?_, ?_⟩
  · rw [← ends.exists_ok_iff]
    cases outcome <;> simp
  · intro set isLoaded
    cases ends with
    | ok follows =>
        cases isLoaded
        exact follows.loadsAll
    | error => nomatch isLoaded
  · intro fault failed
    cases ends with
    | ok => nomatch failed
    | error failsFirst =>
        cases failed
        exact failsFirst

end SchemaSet

end

/-! ### An atlas

Two documents that mention each other. One of them mentions itself as well, the other
one a third document. -/

namespace Atlas

def world : String :=
  "<schema><include schemaLocation=\"seas\"/><include schemaLocation=\"lands\"/></schema>"

def seas : String :=
  "<schema><include schemaLocation=\"seas\"/><include schemaLocation=\"world\"/></schema>"

def lands : String :=
  "<schema/>"

def whole : Resolver :=
  .ofDocuments [("lands", lands), ("seas", seas), ("world", world)]

def torn : Resolver :=
  .ofDocuments [("world", world)]

/-- The atlas is loaded as it is read. Where both other documents are missing, the one
that is mentioned first is complained about. -/
theorem load_atlas :
    (∃ set, SchemaSet.load whole "world" false = .ok set ∧
      set.schemas.map (·.location) = [some "world", some "seas", some "lands"] ∧
      whole.LoadsAll false "world" set.schemas) ∧
    torn.FailsFirst false "world" (.notLoaded "seas" (.notFound "seas")) := by
  have locations : (SchemaSet.load whole "world" false).toOption.map
      (fun set => set.schemas.map (·.location)) =
        some [some "world", some "seas", some "lands"] := by
    decide +kernel
  have fault : faultOf? (SchemaSet.load torn "world" false) =
      some (.notLoaded "seas" (.notFound "seas")) := by
    decide +kernel
  have ⟨set, isSet, inOrder⟩ := Option.map_eq_some_iff.mp locations
  have loaded := toOption_eq_some_iff.mp isSet
  have ⟨_, _, loadsAll, _⟩ := SchemaSet.load_follows_queue whole false "world"
  have ⟨_, _, _, failsFirst⟩ := SchemaSet.load_follows_queue torn false "world"
  exact ⟨⟨set, loaded, inOrder, loadsAll set loaded⟩,
    failsFirst _ (faultOf?_eq_some_iff.mp fault)⟩

end Atlas

end SchemaContent
