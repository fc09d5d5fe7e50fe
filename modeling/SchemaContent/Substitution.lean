import SchemaContent.Steps
import SchemaContent.SchemaSet

/-! # Substitution

An element that is written as a reference may be replaced by the members of its substitution group,
and those by the members of theirs. The substitutes of several heads are found breadth first, so that
each takes the bounds of the nearest head, and each name is found once.
-/

namespace SchemaContent

/-- Where a content is being compiled: the set that names are looked up in, the schema whose bindings
give them their meaning, and the owner of the content. -/
structure Scope where
  set : SchemaSet
  schema : Schema
  owner : Owner

namespace Scope

def refer (scope : Scope) (reference : Reference) (name : ExpandedName)
    (occurrence : Occurrence) : Except SchemaError Member :=
  match scope.set.element? name with
  | none => .error (.unresolvedReference reference name)
  | some component => do
    let type ← scope.set.elementType component
    return ⟨name, some reference, type, occurrence, scope.owner⟩

/-- How the schema of a component refers to the component. -/
def selfReference (component : Component ElementDeclaration) : Except SchemaError Reference :=
  match component.schema.targetNamespace with
  | none => .ok ⟨none, component.definition.name⟩
  | some uri => do
    let qualifier ← component.schema.qualifierOf uri
    return ⟨qualifier, component.definition.name⟩

/-- The member that stands in for `head`. It has the bounds of the head. -/
def substitute (scope : Scope) (head : Member) (component : Component ElementDeclaration) :
    Except SchemaError Member := do
  scope.refer (← selfReference component) component.name head.occurrence

/-- Those of the candidates that may stand in for `head` and have not been seen. A schema that
imports the namespace of the head offers no substitutes for it; thus two schemas that import each
other do not expand into one another. -/
def discover (scope : Scope) (head : Member) :
    List (Component ElementDeclaration) → List ExpandedName → Except SchemaError (List Member)
  | [], _ => return []
  | component :: rest, seen =>
    if component.schema.importsNamespace head.name.uri ∨ component.name ∈ seen then
      scope.discover head rest seen
    else do
      let member ← scope.substitute head component
      return member :: (← scope.discover head rest (component.name :: seen))

theorem exists_of_refer_eq_ok {scope : Scope} {reference : Reference} {name : ExpandedName}
    {occurrence : Occurrence} {member : Member}
    (found : scope.refer reference name occurrence = .ok member) :
    ∃ component type, scope.set.element? name = some component ∧
      scope.set.elementType component = .ok type ∧
        member = ⟨name, some reference, type, occurrence, scope.owner⟩ := by
  rw [refer] at found
  split at found
  · nomatch found
  · rename_i component isDeclared
    obtain ⟨type, typed, made⟩ := exists_of_bind_eq_ok found
    cases made
    exact ⟨component, type, isDeclared, typed, rfl⟩

theorem name_of_refer {scope : Scope} {reference : Reference} {name : ExpandedName}
    {occurrence : Occurrence} {member : Member}
    (found : scope.refer reference name occurrence = .ok member) : member.name = name := by
  obtain ⟨_, _, _, _, rfl⟩ := exists_of_refer_eq_ok found
  rfl

theorem mem_of_discover {scope : Scope} {head : Member}
    {candidates : List (Component ElementDeclaration)} {seen : List ExpandedName}
    {found : List Member} (discovered : scope.discover head candidates seen = .ok found)
    {member : Member} (isFound : member ∈ found) :
    member.name ∈ candidates.map (·.name) ∧ member.name ∉ seen := by
  induction candidates generalizing seen found with
  | nil => cases discovered; nomatch isFound
  | cons component rest ih =>
    simp only [discover] at discovered
    split at discovered
    · have ⟨isCandidate, fresh⟩ := ih discovered isFound
      exact ⟨List.mem_cons_of_mem _ isCandidate, fresh⟩
    · rename_i fresh
      rw [not_or] at fresh
      obtain ⟨first, substituted, discovered⟩ := exists_of_bind_eq_ok discovered
      obtain ⟨remaining, others, discovered⟩ := exists_of_bind_eq_ok discovered
      obtain ⟨reference, _, referred⟩ := exists_of_bind_eq_ok substituted
      cases discovered
      rcases List.mem_cons.mp isFound with rfl | later
      · rw [name_of_refer referred]
        exact ⟨List.mem_cons_self, fresh.2⟩
      · have ⟨isCandidate, unseenName⟩ := ih others later
        exact ⟨List.mem_cons_of_mem _ isCandidate,
          fun old => unseenName (List.mem_cons_of_mem _ old)⟩

/-! ## Layers

The substitutes of the direct members make up the first layer, the substitutes of those the second,
and so on, until a layer is empty. -/

/-- The substitutes of one head that have not been seen. Only a member with a reference can be
replaced. -/
def substitutesOf (scope : Scope) (seen : List ExpandedName) (head : Member) :
    Except SchemaError (List Member) :=
  if head.reference.isNone then .ok []
  else scope.discover head (scope.set.substitutes head.name) seen

def nextLayer (scope : Scope) (seen : List ExpandedName) :
    List Member → Except SchemaError (List Member)
  | [] => return []
  | head :: rest => do
    let found ← scope.substitutesOf seen head
    return found ++ (← scope.nextLayer (seen ++ found.map (·.name)) rest)

theorem mem_of_nextLayer {scope : Scope} {seen : List ExpandedName} {layer next : List Member}
    (made : scope.nextLayer seen layer = .ok next) {member : Member} (isNext : member ∈ next) :
    member.name ∈ scope.set.elements.map (·.name) ∧ member.name ∉ seen := by
  induction layer generalizing seen next with
  | nil => cases made; nomatch isNext
  | cons head rest ih =>
    obtain ⟨found, ofHead, made⟩ := exists_of_bind_eq_ok made
    obtain ⟨others, ofRest, made⟩ := exists_of_bind_eq_ok made
    cases made
    rcases List.mem_append.mp isNext with first | later
    · simp only [substitutesOf] at ofHead
      split at ofHead
      · cases ofHead
        nomatch first
      · have ⟨isCandidate, fresh⟩ := mem_of_discover ofHead first
        obtain ⟨component, candidate, same⟩ := List.mem_map.mp isCandidate
        exact ⟨List.mem_map.mpr
          ⟨component, SchemaSet.mem_elements_of_mem_substitutes candidate, same⟩, fresh⟩
    · have ⟨isElement, fresh⟩ := ih ofRest later
      exact ⟨isElement, fun old => fresh (List.mem_append_left _ old)⟩

def spread (scope : Scope) (seen : List ExpandedName) (layer : List Member) :
    Except SchemaError (List Member) :=
  match _ : scope.nextLayer seen layer with
  | .error failure => .error failure
  | .ok [] => return []
  | .ok (first :: rest) => do
    let next := first :: rest
    return next ++ (← scope.spread (seen ++ next.map (·.name)) next)
termination_by unseen (scope.set.elements.map (·.name)) seen
decreasing_by
  have made : scope.nextLayer seen layer = .ok (first :: rest) := ‹_›
  have ⟨isElement, fresh⟩ := mem_of_nextLayer made List.mem_cons_self
  exact unseen_lt (fun _ => List.mem_append_left _) isElement fresh
    (List.mem_append_right _ List.mem_cons_self)

/-- All members that may stand in for one of the direct members of a group. -/
def expand (scope : Scope) (direct : List Member) : Except SchemaError (List Member) :=
  scope.spread (direct.map (·.name)) direct

end Scope

end SchemaContent
