import SchemaContent.Proofs.ComparedContents
import SchemaContent.ContentModel
import SchemaContent.Proofs.Expansion
import SchemaContent.Proofs.ExplorationOrder
import SchemaContent.Proofs.ModuleBlocks
import SchemaContent.Proofs.CanonicalOrder
import SchemaContent.Proofs.RelatedRuns

/-! # Content models and the order of registration

The order in which schemas are added decides in which order substitutes are found,
and with it which fault is met first. It decides neither which members a content
has nor anything about them. -/

namespace SchemaContent

instance : Nonempty Member :=
  ⟨⟨⟨none, ""⟩, none, .anonymousSimple, ⟨none, none⟩, .outside⟩⟩

instance : Nonempty ContentModel :=
  ⟨⟨.outside, []⟩⟩

/-! ## Expansion

Bounds do not tell members apart, and are in no order. So direct members are marked with
their ranks, by which the bounds are looked up afterwards. -/

namespace Scope

def boundsAt (direct : List Member) (rank : Nat) : Occurrence :=
  (direct[rank]?.map (·.occurrence)).getD .unstated

theorem expand_eq_mapM_ranked (scope : Scope) (direct : List Member) :
    scope.expand direct =
      ((scope.set.explore (direct.map (·.name)) (heads direct.zipIdx)).map
        (Offer.map (boundsAt direct))).mapM scope.standIn := by
  have agree : ∀ entry ∈ direct.zipIdx, boundsAt direct entry.2 = entry.1.occurrence := by
    intro entry isEntry
    have found := List.mem_zipIdx_iff_getElem?.mp isEntry
    simp only [boundsAt, found, Option.map_some, Option.getD_some]
  have sameNames : direct.zipIdx.map (·.1.name) = direct.map (·.name) := by
    have forgotten := congrArg (List.map Member.name) (List.zipIdx_map_fst 0 direct)
    rwa [List.map_map] at forgotten
  have made := expand_eq_mapM scope direct.zipIdx (boundsAt direct) agree
  rwa [List.zipIdx_map_fst, sameNames] at made

theorem ranked_heads (direct : List Member) : Head.Ranked (heads direct.zipIdx) := by
  have ascending : direct.zipIdx.Pairwise fun first second => first.2 ≤ second.2 := by
    apply List.pairwise_map.mp
    rw [List.zipIdx_map_snd]
    exact List.pairwise_le_range' 1
  apply List.pairwise_filterMap.mpr
  apply ascending.imp
  intro first second before head isFirst later isSecond
  obtain ⟨_, _, rfl⟩ := Option.map_eq_some_iff.mp isFirst
  obtain ⟨_, _, rfl⟩ := Option.map_eq_some_iff.mp isSecond
  exact before

variable {set other : SchemaSet} (same : set.Rearranged other)
  (schema : Schema) (owner : Owner)

theorem expand_eq_mapM_placed (set : SchemaSet) (direct : List Member) :
    expand ⟨set, schema, owner⟩ direct =
      (((set.explore (direct.map (·.name)) (heads direct.zipIdx)).map
        (Offer.placed 0)).map (Offer.map (boundsAt direct))).mapM
          (standIn ⟨set, schema, owner⟩) := by
  rw [expand_eq_mapM_ranked, List.map_map, List.mapM_map, List.mapM_map]
  rfl

include same

theorem standIn_eq (offer : Offer Occurrence) :
    standIn ⟨set, schema, owner⟩ offer = standIn ⟨other, schema, owner⟩ offer := by
  simp only [standIn, same.refer_eq]

/-- The same members stand in for the direct members of a group in both sets. -/
theorem expand_related (direct : List Member) :
    Related (fun _ _ => True)
      (fun found peers => ∀ name, Member.named name found = Member.named name peers)
      (expand ⟨set, schema, owner⟩ direct) (expand ⟨other, schema, owner⟩ direct) := by
  have explored := (same.explore_perm (.refl _) (ranked_heads direct)
    (ranked_heads direct)
    fun name => Iff.refl (name ∈ direct.map (·.name))).map (Offer.map (boundsAt direct))
  rw [expand_eq_mapM_placed schema owner set direct,
    expand_eq_mapM_placed schema owner other direct]
  apply (Related.mapM_of_perm explored fun offer _ =>
    Related.alike_of_eq (standIn_eq same schema owner offer)).imp
  rintro members peers ⟨result, made, rfl, rfl⟩ name
  apply Member.named_eq_of_perm (explored.map result)
  rw [names_of_mapM (mapM_eq_ok_map made), List.map_map, List.map_map]
  exact (set.nodup_explore _ _).1

theorem gather_alike (compositor : Compositor) (occurrence : Occurrence)
    (own nested : List Member) :
    Alike (gather ⟨set, schema, owner⟩ compositor occurrence own nested)
      (gather ⟨other, schema, owner⟩ compositor occurrence own nested) := by
  rw [gather, gather]
  apply Related.bind (expand_related same schema owner _)
  intro substitutes peers sameNamed
  apply Related.ok
  apply Member.canonical_eq_of_named_eq
  intro name
  simp only [Member.named_append, sameNamed]

end Scope

/-! ## Content models -/

/-- Runs compare if they end alike. -/
def Comparison.alike : Comparison where
  Holds := Alike
  refl _ := Related.alike_of_eq rfl
  bind first rest := by
    cases first with
    | error => exact .error trivial
    | ok same =>
        cases same
        exact rest _ rfl

variable {set other : SchemaSet}

theorem SchemaSet.Rearranged.gathers (same : set.Rearranged other) (schema : Schema) :
    Comparison.alike.Gathers set other schema where
  toLookups := same.lookups .alike
  gather owner compositor occurrence own nested _ :=
    Scope.gather_alike same schema owner compositor occurrence own nested

theorem Schema.contentModels_alike (same : set.Rearranged other) (schema : Schema) :
    Alike (schema.contentModels set) (schema.contentModels other) := by
  have alike : ∀ owned ∈ schema.ownedTypes, Alike (owned.model set) (owned.model other) :=
    fun owned _ => owned.model_compare (same.gathers owned.schema)
  apply (Related.mapM_of_perm (.refl _) alike).imp
  rintro models _ ⟨result, _, rfl, rfl⟩
  rfl

namespace SchemaSet

theorem contentModels_related (same : set.Rearranged other) :
    Related (fun _ _ => True)
      (fun models peers => ∃ block : Schema → List ContentModel,
        (∀ schema ∈ set.schemas, schema.contentModels set = .ok (block schema)) ∧
          models = set.schemas.flatMap block ∧ peers = other.schemas.flatMap block)
      set.contentModels other.contentModels := by
  have otherDistinct : DistinctNames other.schemas := same.distinct.of_perm same.perm
  rw [contentModels_eq_flatten same.distinct, contentModels_eq_flatten otherDistinct]
  apply (Related.mapM_of_perm same.perm fun schema _ =>
    schema.contentModels_alike same).map
  rintro blocks otherBlocks ⟨block, made, rfl, rfl⟩
  exact ⟨block, made, List.flatMap_def.symm, List.flatMap_def.symm⟩

/-- Schemas without repeated names can be added in any order: the content models
are compiled for one order if they are for the other, and each schema contributes
the same block of content models, in its place among the schemas. -/
theorem contentModels_of_perm {schemas others : List Schema}
    (permuted : schemas.Perm others) (distinct : DistinctNames schemas)
    (accepted : ∀ schema ∈ schemas, ∃ set more : SchemaSet, set.add schema = .ok more) :
    ∃ set other, build schemas = .ok set ∧ build others = .ok other ∧
      Related (fun _ _ => True)
        (fun models peers => ∃ block : Schema → List ContentModel,
          (∀ schema ∈ schemas,
            (block schema).map (·.owner) = schema.ownedTypes.map (·.owner)) ∧
            models = schemas.flatMap block ∧ peers = others.flatMap block)
        set.contentModels other.contentModels := by
  have affiliated : ∀ schema ∈ schemas, schema.Affiliated := by
    intro schema isSchema
    obtain ⟨_, _, added⟩ := accepted schema isSchema
    exact affiliated_of_add added
  have otherAffiliated : ∀ schema ∈ others, schema.Affiliated :=
    fun schema isOther => affiliated schema (permuted.mem_iff.mpr isOther)
  obtain ⟨set, built, rfl⟩ := exists_of_build affiliated
  obtain ⟨other, otherBuilt, rfl⟩ := exists_of_build otherAffiliated
  refine ⟨set, other, built, otherBuilt, ?_⟩
  apply (contentModels_related ⟨permuted, distinct⟩).imp
  rintro models peers ⟨block, made, isModels, isPeers⟩
  refine ⟨block, ?_, isModels, isPeers⟩
  intro schema isSchema
  exact Schema.owners_of_contentModels (made schema isSchema)

end SchemaSet

namespace Shapes

def reference (localName : String) : Reference :=
  ⟨some "s", localName⟩

def schema (elements : List ElementDeclaration) : Schema where
  location := none
  targetNamespace := some "urn:shapes"
  elementForm := .unqualified
  bindings := .ofList [(some "s", "urn:shapes"), (some "xs", schemaNamespace)]
  directives := []
  elements := elements
  complexTypes := []
  simpleTypes := []

def declaration (localName : String) (heads : List Reference) : ElementDeclaration :=
  ⟨.named localName, none, none, heads, .unstated, none⟩

def drawing : ComplexType :=
  ⟨none, some (.group .sequence ⟨.unstated, [
    .element ⟨.reference (reference "Shape"), none, none, [],
      ⟨none, some .unbounded⟩, none⟩]⟩)⟩

def base : Schema :=
  schema [declaration "Shape" [],
    { declaration "Drawing" [] with anonymousType := some (.complex drawing) }]

def circles : Schema :=
  schema [declaration "Circle" [reference "Shape"],
    declaration "Ellipse" [reference "Circle"]]

def squares : Schema :=
  schema [declaration "Square" [reference "Shape"],
    declaration "Box" [reference "Shape"]]

def member (localName : String) : Member :=
  ⟨⟨some "urn:shapes", localName⟩, some (reference localName), .builtin anyType,
    ⟨none, some .unbounded⟩, .element ⟨some "urn:shapes", "Drawing"⟩⟩

def drawingModel : ContentModel where
  owner := .element ⟨some "urn:shapes", "Drawing"⟩
  members := [member "Box", member "Circle", member "Ellipse", member "Shape",
    member "Square"]

/-- The shapes are found in another order, and the content model is the same. -/
theorem contentModels_of_shapes :
    (SchemaSet.build [base, circles, squares]).bind (·.contentModels) =
        .ok [drawingModel] ∧
      (SchemaSet.build [squares, circles, base]).bind (·.contentModels) =
        .ok [drawingModel] := by
  have compiled : (SchemaSet.build [base, circles, squares]).bind (·.contentModels) =
      .ok [drawingModel] := by
    decide +kernel
  have permuted : [base, circles, squares].Perm [squares, circles, base] := by
    decide +kernel
  have distinct : DistinctNames [base, circles, squares] :=
    ⟨by decide +kernel, by decide +kernel⟩
  have accepted : ∀ schema ∈ [base, circles, squares],
      ∃ set more : SchemaSet, set.add schema = .ok more := by
    intro schema isSchema
    have affiliated : schema.Affiliated := by
      simp only [List.mem_cons, List.not_mem_nil, or_false] at isSchema
      rcases isSchema with rfl | rfl | rfl <;> exact ⟨_, rfl⟩
    obtain ⟨more, added, _⟩ := SchemaSet.exists_of_add .empty affiliated
    exact ⟨.empty, more, added⟩
  obtain ⟨set, other, built, otherBuilt, related⟩ :=
    SchemaSet.contentModels_of_perm permuted distinct accepted
  refine ⟨compiled, ?_⟩
  rw [built] at compiled
  obtain ⟨peers, otherCompiled, block, owners, isModels, isPeers⟩ :=
    related.exists_of_eq_ok compiled
  have circlesEmpty : block circles = [] :=
    List.map_eq_nil_iff.mp (owners circles (by decide +kernel))
  have squaresEmpty : block squares = [] :=
    List.map_eq_nil_iff.mp (owners squares (by decide +kernel))
  simp only [List.flatMap_cons, List.flatMap_nil, circlesEmpty, squaresEmpty,
    List.append_nil, List.nil_append] at isModels isPeers
  rw [otherBuilt]
  exact otherCompiled.trans (congrArg Except.ok (isPeers.trans isModels.symm))

end Shapes

end SchemaContent
