import SchemaContent.Import.Resolver
import SchemaContent.Schema.Reading
import SchemaContent.SchemaSet
import SchemaContent.Steps

/-! # Loading schemas

A schema is loaded together with all schemas that its directives lead to, layer by layer: first the
entry, then what it mentions, then what those mention. A document is loaded once, whatever locations
lead to it.
-/

namespace SchemaContent

structure Mention where
  location : String
  base : Option String
deriving DecidableEq, Repr

/-- The locations that a schema mentions. A directive without a location asks for nothing. -/
def Schema.mentions (schema : Schema) (canonical : String) : List Mention :=
  schema.directives.filterMap fun directive =>
    directive.location.map fun location => ⟨location, some canonical⟩

/-- The schemas loaded so far, and the canonical locations of their documents. -/
structure Loaded where
  set : SchemaSet
  locations : List String

namespace Loaded

def nothing : Loaded := ⟨.empty, []⟩

/-- Loads the document that a mention means, unless it is loaded already. The result tells what it
mentions in turn. -/
def visit (resolver : Resolver) (allowDoctype : Bool) (loaded : Loaded) (mention : Mention) :
    Except SchemaError (Loaded × List Mention) :=
  match resolver.locate mention.location mention.base with
  | .error cause => .error (.notLoaded mention.location cause)
  | .ok canonical =>
    if canonical ∈ loaded.locations then return (loaded, [])
    else do
      let schema ← Schema.parse (resolver.text canonical) allowDoctype
      let set ← loaded.set.add { schema with location := some canonical }
      return (⟨set, canonical :: loaded.locations⟩, schema.mentions canonical)

/-- Loads the documents of a layer in order. The result tells what they mention, which is the next
layer. -/
def visitAll (resolver : Resolver) (allowDoctype : Bool) (loaded : Loaded) :
    List Mention → Except SchemaError (Loaded × List Mention)
  | [] => return (loaded, [])
  | mention :: rest => do
    let (more, found) ← loaded.visit resolver allowDoctype mention
    let (most, others) ← more.visitAll resolver allowDoctype rest
    return (most, found ++ others)

def Extends (more loaded : Loaded) : Prop :=
  ∀ location ∈ loaded.locations, location ∈ more.locations

def Grows (resolver : Resolver) (more loaded : Loaded) : Prop :=
  ∃ location ∈ resolver.documents.map (·.1),
    location ∉ loaded.locations ∧ location ∈ more.locations

theorem grows_of_visit {resolver : Resolver} {allowDoctype : Bool} {loaded more : Loaded}
    {mention : Mention} {found : List Mention}
    (visited : loaded.visit resolver allowDoctype mention = .ok (more, found)) :
    more.Extends loaded ∧ (found ≠ [] → more.Grows resolver loaded) := by
  simp only [visit] at visited
  split at visited
  · nomatch visited
  · rename_i canonical isLocated
    split at visited
    · cases visited
      exact ⟨fun _ => id, fun nonempty => absurd rfl nonempty⟩
    · rename_i fresh
      obtain ⟨schema, _, visited⟩ := exists_of_bind_eq_ok visited
      obtain ⟨set, _, visited⟩ := exists_of_bind_eq_ok visited
      cases visited
      exact ⟨fun _ => List.mem_cons_of_mem canonical,
        fun _ => ⟨canonical, resolver.located _ _ _ isLocated, fresh, List.mem_cons_self⟩⟩

theorem grows_of_visitAll {resolver : Resolver} {allowDoctype : Bool} {loaded more : Loaded}
    {layer next : List Mention}
    (visited : loaded.visitAll resolver allowDoctype layer = .ok (more, next)) :
    more.Extends loaded ∧ (next ≠ [] → more.Grows resolver loaded) := by
  induction layer generalizing loaded more next with
  | nil =>
    cases visited
    exact ⟨fun _ => id, fun nonempty => absurd rfl nonempty⟩
  | cons mention rest ih =>
    obtain ⟨⟨middle, found⟩, first, visited⟩ := exists_of_bind_eq_ok visited
    obtain ⟨⟨last, others⟩, later, visited⟩ := exists_of_bind_eq_ok visited
    cases visited
    have ⟨middleExtends, middleGrows⟩ := grows_of_visit first
    have ⟨lastExtends, lastGrows⟩ := ih later
    refine ⟨fun location known => lastExtends _ (middleExtends location known), fun nonempty => ?_⟩
    by_cases nothingFound : found = []
    · have othersFound : others ≠ [] := fun noOthers => nonempty (by simp [nothingFound, noOthers])
      obtain ⟨location, isDocument, fresh, known⟩ := lastGrows othersFound
      exact ⟨location, isDocument, fun old => fresh (middleExtends location old), known⟩
    · obtain ⟨location, isDocument, fresh, known⟩ := middleGrows nothingFound
      exact ⟨location, isDocument, fresh, lastExtends location known⟩

def follow (resolver : Resolver) (allowDoctype : Bool) (loaded : Loaded) (layer : List Mention) :
    Except SchemaError Loaded :=
  match _ : loaded.visitAll resolver allowDoctype layer with
  | .error failure => .error failure
  | .ok (more, []) => return more
  | .ok (more, first :: rest) => more.follow resolver allowDoctype (first :: rest)
termination_by unseen (resolver.documents.map (·.1)) loaded.locations
decreasing_by
  have visited : loaded.visitAll resolver allowDoctype layer = .ok (more, first :: rest) := ‹_›
  have ⟨extended, grown⟩ := grows_of_visitAll visited
  obtain ⟨location, isDocument, fresh, known⟩ := grown (List.cons_ne_nil first rest)
  exact unseen_lt extended isDocument fresh known

end Loaded

/-- Loads the document that `entry` means, and all it leads to. The schema of the entry is the first
of the set. -/
def SchemaSet.load (resolver : Resolver) (entry : String) (allowDoctype : Bool) :
    Except SchemaError SchemaSet :=
  (·.set) <$> Loaded.nothing.follow resolver allowDoctype [⟨entry, none⟩]

end SchemaContent
