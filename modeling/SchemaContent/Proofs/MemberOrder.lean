import Mathlib.Data.String.Basic
import SchemaContent.Proofs.Contents
import SchemaContent.Proofs.SubstitutionClosure

/-! # The order of members

Canonical order is a strict order in which two members stand side by side only if
they have the same name. Each content that is compiled ascends in it strictly, and
so does each content inside it. -/

namespace SchemaContent

/-- Namespaces in ascending order: having none comes first. -/
def uriBefore : Option String → Option String → Prop
  | none, some _ => True
  | some uri, some other => uri < other
  | _, none => False

theorem compare_uri_eq_lt_iff (uri other : Option String) :
    compare uri other = .lt ↔ uriBefore uri other := by
  cases uri with
  | none =>
      cases other with
      | none => exact iff_of_false nofun id
      | some other => exact iff_of_true rfl trivial
  | some uri =>
      cases other with
      | none => exact iff_of_false nofun id
      | some other => exact compare_lt_iff_lt (α := String)

namespace Member

/-- One member stands before another: its identifier is less; or the identifiers
are the same and its namespace is less; or these are the same too and its local name
is less. -/
def Before (first second : Member) : Prop :=
  first.identifier < second.identifier ∨
    first.identifier = second.identifier ∧
      (uriBefore first.name.uri second.name.uri ∨
        first.name.uri = second.name.uri ∧ first.name.localName < second.name.localName)

variable {first second : Member}

theorem before_iff_canonicalCompare :
    first.Before second ↔ canonicalCompare first second = .lt := by
  have less : ∀ {text other : String}, compare text other = .lt ↔ text < other :=
    compare_lt_iff_lt (α := String)
  simp only [Before, canonicalCompare, compareLex, compareOn, Ordering.then_eq_lt, less,
    compare_uri_eq_lt_iff, Std.compare_eq_iff_eq]

theorem not_before_of_before (before : first.Before second) : ¬second.Before first := by
  rw [before_iff_canonicalCompare] at before ⊢
  exact Std.OrientedCmp.not_lt_of_lt before

theorem before_trichotomy (first second : Member) :
    first.name = second.name ∨ first.Before second ∨ second.Before first := by
  rw [before_iff_canonicalCompare, before_iff_canonicalCompare]
  cases order : canonicalCompare first second with
  | lt => exact .inr (.inl rfl)
  | eq => exact .inl (name_eq_of_canonicalCompare_eq order)
  | gt => exact .inr (.inr (Std.OrientedCmp.lt_of_gt order))

/-- Nothing but the name counts in the order. -/
theorem name_ne_of_before (before : first.Before second) : first.name ≠ second.name := by
  intro same
  have sameIdentifier : first.identifier = second.identifier := by
    rw [identifier, identifier, same]
  have sameUri : compare second.name.uri second.name.uri = .eq := Std.ReflCmp.compare_self
  have notUriBefore : ¬uriBefore second.name.uri second.name.uri := by
    rw [← compare_uri_eq_lt_iff, sameUri]
    decide
  rw [Before, sameIdentifier, same] at before
  rcases before with less | ⟨_, less | ⟨_, less⟩⟩
  · exact String.lt_irrefl _ less
  · exact notUriBefore less
  · exact String.lt_irrefl _ less

theorem before_of_precedes (precedes : first.precedes second)
    (different : first.name ≠ second.name) : first.Before second := by
  rcases before_trichotomy first second with same | before | after
  · exact absurd same different
  · exact before
  · rw [before_iff_canonicalCompare] at after
    have follows : second.precedes first := by
      rw [Member.precedes, after]
      rfl
    exact absurd (name_eq_of_precedes precedes follows) different

theorem pairwise_before_canonical (members : List Member) :
    (canonical members).Pairwise Before := by
  have distinctNames := List.pairwise_map.mp (nodup_canonical members)
  have ordered := pairwise_sort (distinct members)
  exact (ordered.and distinctNames).imp fun both => before_of_precedes both.1 both.2

end Member

/-! ## Compiled contents -/

theorem ModelGroup.pairwise_before_members {compositor : Compositor} {scope : Scope}
    {group : ModelGroup} {members : List Member}
    (compiled : group.members compositor scope = .ok members) :
    members.Pairwise Member.Before := by
  obtain ⟨occurrence, particles⟩ := group
  rw [ModelGroup.members] at compiled
  obtain ⟨⟨own, nested⟩, _, gathered⟩ := exists_of_bind_eq_ok compiled
  obtain ⟨substitutes, _, isCanonical⟩ := exists_of_bind_eq_ok gathered
  cases isCanonical
  exact Member.pairwise_before_canonical _

theorem Particle.pairwise_before_members {scope : Scope} {particle : Particle}
    {members : List Member} (compiled : particle.members scope = .ok members) :
    members.Pairwise Member.Before := by
  cases particle with
  | element declaration =>
      rw [Particle.members] at compiled
      obtain ⟨only, _, compiled⟩ := exists_of_bind_eq_ok compiled
      cases compiled
      exact List.pairwise_singleton _ _
  | group compositor group =>
      rw [Particle.members] at compiled
      exact ModelGroup.pairwise_before_members compiled

theorem ComplexType.pairwise_before_members {scope : Scope} {definition : ComplexType}
    {members : List Member} (compiled : definition.members scope = .ok members) :
    members.Pairwise Member.Before := by
  obtain ⟨name, content⟩ := definition
  cases content with
  | none =>
      rw [ComplexType.members] at compiled
      cases compiled
      exact .nil
  | some particle =>
      rw [ComplexType.members] at compiled
      exact Particle.pairwise_before_members compiled

theorem SchemaSet.Compiles.pairwise_before {set : SchemaSet} {members : List Member}
    (compiled : set.Compiles members) : members.Pairwise Member.Before := by
  cases compiled with
  | particle compiled => exact Particle.pairwise_before_members compiled
  | group compiled => exact ModelGroup.pairwise_before_members compiled
  | complexType compiled => exact ComplexType.pairwise_before_members compiled
  | contentModel compiled isModel =>
      obtain ⟨owned, _, _, ofType⟩ := exists_of_mem_contentModels compiled isModel
      exact ComplexType.pairwise_before_members ofType

/-- Whatever content is compiled, its members and those of each content inside it
ascend strictly. So no name is repeated in any of them, and the order leaves open
nothing: of two members, one stands before the other unless they have one name. -/
theorem SchemaSet.Compiles.part_ascends {set : SchemaSet} {whole part : List Member}
    (compiled : set.Compiles whole) (isPart : Member.Part whole part) :
    part.Pairwise Member.Before ∧ (part.map (·.name)).Nodup ∧
      ∀ first second : Member,
        (first.name = second.name ∨ first.Before second ∨ second.Before first) ∧
          ¬(first.Before second ∧ second.Before first) ∧
            (first.Before second → first.name ≠ second.name) := by
  have ascending := (compiled.part isPart).pairwise_before
  refine ⟨ascending, ?_, ?_⟩
  · exact List.pairwise_map.mpr (ascending.imp Member.name_ne_of_before)
  · intro first second
    exact ⟨Member.before_trichotomy first second,
      fun both => Member.not_before_of_before both.1 both.2, Member.name_ne_of_before⟩

namespace Ring

def localElement (localName : String) (form : Form) : Particle :=
  .element ⟨.named localName, some ⟨some "xs", "int"⟩, none, [], .unstated, some form⟩

/-- An element whose type is declared in it, with three names for one identifier. -/
def point : Particle :=
  .element ⟨.named "point", none, some (.complex ⟨none, some (.group .sequence ⟨.unstated, [
    localElement "b" .unqualified, localElement "aB" .qualified,
    localElement "aB" .unqualified, localElement "a-b" .unqualified,
    localElement "b" .unqualified]⟩)⟩), [], .unstated, none⟩

def coordinate (name : ExpandedName) : Member :=
  ⟨name, none, .builtin ⟨some schemaNamespace, "int"⟩, .unstated, .element ⟨none, "point"⟩⟩

def coordinates : List Member :=
  [coordinate ⟨none, "a-b"⟩, coordinate ⟨none, "aB"⟩, coordinate (name "aB"),
    coordinate ⟨none, "b"⟩]

def pointMember : Member :=
  ⟨⟨none, "point"⟩, none, .inline coordinates, .unstated, .outside⟩

theorem coordinates_ascend :
    point.members scope = .ok [pointMember] ∧ Member.Part [pointMember] coordinates ∧
      coordinates.Pairwise Member.Before ∧ (coordinates.map (·.name)).Nodup := by
  have compiled : point.members scope = .ok [pointMember] := by decide +kernel
  have isPart : Member.Part [pointMember] coordinates :=
    .inside List.mem_cons_self rfl (.itself coordinates)
  have ⟨ascending, distinctNames, _⟩ :=
    SchemaSet.Compiles.part_ascends (.particle compiled) isPart
  exact ⟨compiled, isPart, ascending, distinctNames⟩

end Ring

end SchemaContent
