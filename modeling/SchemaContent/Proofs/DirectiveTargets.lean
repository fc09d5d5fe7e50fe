import SchemaContent.Proofs.LoadingOrder
import SchemaContent.Proofs.Registration

/-! # What directives bring in

An inclusion is meant for a part of the own namespace, and an import for a part of the
namespace that it names. But loading reads each document as it is, whatever directive
leads to it: a component is known under the target namespace that stands in its own
document. So a directive gets what it is meant for only as far as the documents agree. -/

namespace SchemaContent

/-! ## Registered names -/

/-- The kinds of top-level components. -/
inductive ComponentKind where
  | element
  | complexType
  | simpleType

/-- The local names of the components of this kind that a schema declares. -/
def Schema.localNames (schema : Schema) : ComponentKind → List String
  | .element => schema.elements.map (·.name)
  | .complexType => schema.complexTypes.filterMap (·.name)
  | .simpleType => schema.simpleTypes

namespace SchemaSet

/-- Whether a component of this kind is found under the name. -/
def registers (set : SchemaSet) (name : ExpandedName) : ComponentKind → Bool
  | .element => (set.element? name).isSome
  | .complexType => (set.complexType? name).isSome
  | .simpleType => set.hasSimpleType name

variable {set : SchemaSet}

theorem isSome_element?_iff {name : ExpandedName} :
    (set.element? name).isSome ↔ ∃ schema ∈ set.schemas, name ∈ schema.elementNames := by
  rw [← List.mem_flatMap, ← map_name_elements, List.mem_map, element?, List.find?_isSome]
  simp only [decide_eq_true_eq]

theorem isSome_complexType?_iff {name : ExpandedName} :
    (set.complexType? name).isSome ↔ ∃ schema ∈ set.schemas, name ∈ schema.typeNames := by
  rw [← List.mem_flatMap, ← map_name_complexTypes, List.mem_map, complexType?,
    List.find?_isSome]
  simp only [decide_eq_true_eq]

/-- A name is registered if a schema whose target namespace is its own declares it. -/
theorem registers_iff {uri : Option String} {localName : String} {kind : ComponentKind} :
    set.registers ⟨uri, localName⟩ kind ↔
      ∃ schema ∈ set.schemas, schema.targetNamespace = uri ∧
        localName ∈ schema.localNames kind := by
  cases kind with
  | element =>
      rw [registers, isSome_element?_iff]
      simp only [Schema.elementNames, Schema.topLevelName, Schema.localNames, List.mem_map,
        ExpandedName.mk.injEq]
      grind
  | complexType =>
      rw [registers, isSome_complexType?_iff]
      simp only [Schema.typeNames, Schema.topLevelName, Schema.localNames, List.mem_filterMap,
        Option.map_eq_some_iff, ExpandedName.mk.injEq]
      grind
  | simpleType =>
      rw [registers, hasSimpleType]
      simp only [Schema.topLevelName, Schema.localNames, List.any_eq_true, decide_eq_true_eq,
        ExpandedName.mk.injEq]
      grind

/-! ## Directives -/

/-- All components of the schema are found under their local names in this namespace. -/
def Contributes (set : SchemaSet) (part : Schema) (uri : Option String) : Prop :=
  ∀ kind, ∀ localName ∈ part.localNames kind, set.registers ⟨uri, localName⟩ kind

/-- The schema is what the directive of another schema is meant for: part of the same
namespace, whether it says so or names none, or the namespace that is imported. -/
def Honours (set : SchemaSet) (includer : Schema) (directive : Directive) (part : Schema) : Prop :=
  match directive.kind with
  | .including =>
    (part.targetNamespace = includer.targetNamespace ∨ part.targetNamespace = none) ∧
      set.Contributes part includer.targetNamespace
  | .importing => part.targetNamespace = directive.uri

/-- All that the schema declares is declared in schemas of this namespace as well. -/
def Repeats (set : SchemaSet) (part : Schema) (uri : Option String) : Prop :=
  ∀ kind, ∀ localName ∈ part.localNames kind,
    ∃ other ∈ set.schemas, other.targetNamespace = uri ∧ localName ∈ other.localNames kind

theorem contributes_iff_repeats {part : Schema} {uri : Option String} :
    set.Contributes part uri ↔ set.Repeats part uri := by
  simp only [Contributes, Repeats, registers_iff]

theorem contributes_own {part : Schema} (isPart : part ∈ set.schemas) :
    set.Contributes part part.targetNamespace := by
  rw [contributes_iff_repeats]
  exact fun kind localName isDeclared => ⟨part, isPart, rfl, isDeclared⟩

theorem honours_including_iff {includer part : Schema} {directive : Directive}
    (including : directive.kind = .including) (isPart : part ∈ set.schemas) :
    set.Honours includer directive part ↔
      part.targetNamespace = includer.targetNamespace ∨
        part.targetNamespace = none ∧ set.Repeats part includer.targetNamespace := by
  rw [Honours, including, ← contributes_iff_repeats]
  constructor
  · rintro ⟨same | nameless, contributes⟩
    · exact .inl same
    · exact .inr ⟨nameless, contributes⟩
  · rintro (same | ⟨nameless, contributes⟩)
    · exact ⟨.inl same, same ▸ contributes_own isPart⟩
    · exact ⟨.inr nameless, contributes⟩

end SchemaSet

/-! ## Loading -/

section

variable {resolver : Resolver} {allowDoctype : Bool} {entry : String} {set : SchemaSet}

/-- What a loaded schema mentions has been taken off the queue. -/
theorem Loaded.Follows.mention_mem {loaded : Loaded} {row : List Mention}
    (follows : Follows resolver allowDoctype entry loaded row []) {includer : Schema}
    (isLoaded : includer ∈ loaded.set.schemas) {directive : Directive}
    (isDirective : directive ∈ includer.directives) {location : String}
    (located : directive.location = some location) : ⟨location, includer.location⟩ ∈ row := by
  rw [follows.schemas, Resolver.mem_discovered_iff] at isLoaded
  rcases isLoaded with ⟨mention, isMention, isRead⟩
  have isLead : ⟨location, includer.location⟩ ∈ includer.leads := by
    apply List.mem_filterMap.mpr
    exact ⟨directive, isDirective, by rw [located, Option.map_some]⟩
  rw [← follows.whole, Resolver.mem_queue_iff]
  exact .inr ⟨mention, isMention, includer, isRead, isLead⟩

/-- Each directive with a location has brought in one schema, which is the document at the
location as it is. An inclusion gets what it is meant for just if both documents have the
same target namespace, or that of the included one is none and all its components are
declared for the namespace of the other one by further documents. An import gets it just
if the target namespace in the document is the one that is imported. -/
theorem honours_iff_of_load (success : SchemaSet.load resolver entry allowDoctype = .ok set) :
    ∀ includer ∈ set.schemas, ∀ directive ∈ includer.directives, ∀ location,
      directive.location = some location →
      ∃ canonical parsed, resolver.locate location includer.location = .ok canonical ∧
        Schema.parse (resolver.text canonical) allowDoctype = .ok parsed ∧
        (∀ part, part ∈ set.schemas ∧ part.location = some canonical ↔
          part = { parsed with location := some canonical }) ∧
        (set.Honours includer directive { parsed with location := some canonical } ↔
          match directive.kind with
          | .including => parsed.targetNamespace = includer.targetNamespace ∨
              parsed.targetNamespace = none ∧ set.Repeats parsed includer.targetNamespace
          | .importing => parsed.targetNamespace = directive.uri) := by
  rcases Loaded.exists_follows success with ⟨loaded, row, rfl, follows⟩
  intro includer isLoaded directive isDirective location located
  have isMention := follows.mention_mem isLoaded isDirective located
  rcases follows.allRead _ isMention with ⟨part, isRead⟩
  have ⟨canonical, isLocated, isAt⟩ := Resolver.read_eq_ok_iff.mp isRead
  rcases Resolver.schemaAt_eq_ok_iff.mp isAt with ⟨parsed, isParsed, _, rfl⟩
  have isPart : { parsed with location := some canonical } ∈ loaded.set.schemas := by
    rw [follows.schemas, Resolver.mem_discovered_iff]
    exact ⟨_, isMention, isRead⟩
  refine ⟨canonical, parsed, isLocated, isParsed, ?_, ?_⟩
  · intro other
    constructor
    · rintro ⟨isOther, atCanonical⟩
      have once := follows.loadsAll.once
      exact List.inj_on_of_nodup_map once isOther isPart atCanonical
    · rintro rfl
      exact ⟨isPart, rfl⟩
  · split
    · rename_i including
      exact SchemaSet.honours_including_iff including isPart
    · rename_i importing
      rw [SchemaSet.Honours, importing]

end

end SchemaContent

/-! ### Stock

A document that includes one of its own namespace and one of none. -/

namespace SchemaContent.Stock

def main : String :=
  "<schema targetNamespace=\"urn:a\"><include schemaLocation=\"parts\"/>" ++
    "<include schemaLocation=\"common\"/></schema>"

def parts : String :=
  "<schema targetNamespace=\"urn:a\"><complexType name=\"Part\"/></schema>"

def common : String :=
  "<schema><element name=\"Item\"/></schema>"

def resolver : Resolver :=
  .ofDocuments [("common", common), ("main", main), ("parts", parts)]

def directives : List Directive :=
  [⟨.including, none, some "parts"⟩, ⟨.including, none, some "common"⟩]

def schema (location : String) (uri : Option String) : Schema :=
  ⟨some location, uri, .unqualified, .ofList [], [], [], [], []⟩

def item : ElementDeclaration :=
  ⟨.named "Item", none, none, [], .unstated, none⟩

def stock : Schema :=
  { schema "main" (some "urn:a") with directives := directives }

def part : Schema :=
  { schema "parts" (some "urn:a") with complexTypes := [⟨some "Part", none⟩] }

def thing : Schema :=
  { schema "common" none with elements := [item] }

def schemas : List Schema :=
  [stock, part, thing]

theorem exists_load :
    ∃ set, SchemaSet.load resolver "main" false = .ok set ∧ set.schemas = schemas := by
  have isLoaded : (SchemaSet.load resolver "main" false).toOption.map (·.schemas) =
      some schemas := by
    decide +kernel
  rcases Option.map_eq_some_iff.mp isLoaded with ⟨set, isSet, sameSchemas⟩
  exact ⟨set, toOption_eq_some_iff.mp isSet, sameSchemas⟩

theorem locate_included : ∀ location ∈ ["parts", "common"],
    resolver.locate location stock.location = .ok location := by
  have isDocument : ∀ location ∈ ["parts", "common"],
      location ∈ resolver.documents.map (·.1) := by
    decide
  exact fun location isIncluded => if_pos (isDocument location isIncluded)

/-- The inclusion of the other document of the namespace is honoured. That of the document
without a namespace is not, as nothing else declares the element in it. -/
theorem honours_iff_of_stock :
    ∃ set, SchemaSet.load resolver "main" false = .ok set ∧ set.schemas = schemas ∧
      set.Honours stock ⟨.including, none, some "parts"⟩ part ∧
      ¬set.Honours stock ⟨.including, none, some "common"⟩ thing := by
  rcases exists_load with ⟨set, success, isSchemas⟩
  have isStock : stock ∈ set.schemas := by
    rw [isSchemas]
    exact List.mem_cons_self
  refine ⟨set, success, isSchemas, ?_, ?_⟩
  · rcases honours_iff_of_load success stock isStock ⟨.including, none, some "parts"⟩
      (by decide) "parts" rfl with ⟨canonical, parsed, isLocated, _, isPart, honours⟩
    cases isLocated.symm.trans (locate_included "parts" (by decide))
    have samePart : part = { parsed with location := some "parts" } :=
      (isPart part).mp ⟨by rw [isSchemas]; decide, rfl⟩
    rw [samePart, honours]
    exact .inl (congrArg Schema.targetNamespace samePart).symm
  · rcases honours_iff_of_load success stock isStock ⟨.including, none, some "common"⟩
      (by decide) "common" rfl with ⟨canonical, parsed, isLocated, _, isThing, honours⟩
    cases isLocated.symm.trans (locate_included "common" (by decide))
    have sameThing : thing = { parsed with location := some "common" } :=
      (isThing thing).mp ⟨by rw [isSchemas]; decide, rfl⟩
    rw [sameThing, honours]
    rintro (sameNamespace | ⟨_, repeats⟩)
    · exact nomatch (congrArg Schema.targetNamespace sameThing).trans sameNamespace
    · have isDeclared : "Item" ∈ parsed.localNames .element := by
        have sameElements : thing.elements = parsed.elements :=
          (congrArg Schema.elements sameThing :)
        rw [Schema.localNames, ← sameElements]
        decide
      rcases repeats .element "Item" isDeclared with ⟨other, isOther, sameUri, declares⟩
      have noneElse : ∀ other ∈ schemas, other.targetNamespace = some "urn:a" →
          "Item" ∉ other.localNames .element := by
        decide
      rw [isSchemas] at isOther
      exact noneElse other isOther sameUri declares

/-- The element of the document without a namespace is not found in the namespace that the
document is included in. -/
theorem not_always_honoured :
    ¬∀ (resolver : Resolver) (entry : String) (allowDoctype : Bool) (set : SchemaSet),
      SchemaSet.load resolver entry allowDoctype = .ok set →
      ∀ includer ∈ set.schemas, ∀ directive ∈ includer.directives, ∀ location,
        directive.location = some location → ∀ canonical,
        resolver.locate location includer.location = .ok canonical →
        ∀ part ∈ set.schemas, part.location = some canonical →
          set.Honours includer directive part := by
  intro honoured
  rcases exists_load with ⟨set, success, isSchemas⟩
  have honours := honoured resolver "main" false set success stock
    (by rw [isSchemas]; decide) ⟨.including, none, some "common"⟩ (by decide) "common" rfl
    "common" (locate_included "common" (by decide)) thing (by rw [isSchemas]; decide) rfl
  have isFound : set.registers ⟨some "urn:a", "Item"⟩ .element :=
    honours.2 .element "Item" (by decide)
  rw [SchemaSet.registers_iff, isSchemas] at isFound
  exact absurd isFound (by decide)

end SchemaContent.Stock
