import Mathlib.Data.List.Basic
import SchemaContent.Substitution
import SchemaContent.Proofs.Exploration

/-! # Expansion by exploration

The substitutes of the direct members of a group are what exploring their names
finds, turned into members one after the other. So the order in which names are
found and the faults of single substitutes can be studied apart. -/

namespace SchemaContent

variable {τ : Type}

/-- The members that can be replaced, as heads. -/
def heads (members : List (Member × τ)) : List (Head τ) :=
  members.filterMap fun (member, mark) =>
    member.reference.map fun _ => ⟨member.name, mark⟩

theorem mem_heads {members : List (Member × τ)} {head : Head τ} :
    head ∈ heads members ↔
      ∃ entry ∈ members, entry.1.reference.isSome ∧ head = ⟨entry.1.name, entry.2⟩ := by
  simp only [heads, List.mem_filterMap, Option.map_eq_some_iff, Option.isSome_iff_exists]
  constructor
  · rintro ⟨entry, isEntry, reference, isReference, rfl⟩
    exact ⟨entry, isEntry, ⟨reference, isReference⟩, rfl⟩
  · rintro ⟨entry, isEntry, ⟨reference, isReference⟩, rfl⟩
    exact ⟨entry, isEntry, reference, isReference, rfl⟩

def withBounds (members : List Member) : List (Member × Occurrence) :=
  members.map fun member => (member, member.occurrence)

theorem heads_withBounds {members : List Member}
    (replaceable : ∀ member ∈ members, member.reference.isSome) :
    heads (withBounds members) =
      members.map fun member => ⟨member.name, member.occurrence⟩ := by
  rw [heads, withBounds, List.filterMap_map, ← List.filterMap_eq_map']
  apply List.filterMap_congr
  intro member isMember
  obtain ⟨reference, isReference⟩ :=
    Option.isSome_iff_exists.mp (replaceable member isMember)
  simp only [Function.comp_apply, isReference, Option.map_some]

namespace Scope

/-- The member that an offer makes, with the bounds that it takes over. -/
def standIn (scope : Scope) (offer : Offer Occurrence) : Except SchemaError Member := do
  scope.refer (← selfReference offer.component) offer.name offer.mark

theorem of_standIn {scope : Scope} {offer : Offer Occurrence} {member : Member}
    (made : scope.standIn offer = .ok member) :
    member.name = offer.name ∧ member.occurrence = offer.mark ∧
      member.reference.isSome := by
  obtain ⟨reference, _, referred⟩ := exists_of_bind_eq_ok made
  obtain ⟨_, _, _, _, rfl⟩ := exists_of_refer_eq_ok referred
  exact ⟨rfl, rfl, rfl⟩

variable {scope : Scope} {offers : List (Offer Occurrence)} {members : List Member}

theorem names_of_mapM (made : offers.mapM scope.standIn = .ok members) :
    members.map (·.name) = offers.map Offer.name :=
  map_eq_of_mapM_eq_ok (fun _ _ isMember => (of_standIn isMember).1) made

theorem heads_of_mapM (made : offers.mapM scope.standIn = .ok members) :
    heads (withBounds members) = offers.map Offer.head := by
  rw [heads_withBounds]
  · apply map_eq_of_mapM_eq_ok ?_ made
    intro offer member isMember
    have ⟨sameName, sameBounds, _⟩ := of_standIn isMember
    rw [sameName, sameBounds]
    rfl
  · intro member isMember
    obtain ⟨offer, _, standsIn⟩ := exists_of_mem_of_mapM_eq_ok made member isMember
    exact (of_standIn standsIn).2.2

/-- What is discovered among candidates is made from the fresh ones among those
that the import of the head's namespace does not exclude. -/
theorem discover_eq_mapM (scope : Scope) (head : Member)
    (candidates : List (Component ElementDeclaration)) : ∀ seen : List ExpandedName,
    scope.discover head candidates seen =
      (Offer.fresh seen
        ((candidates.filter fun component =>
          !component.schema.importsNamespace head.name.uri).map
            fun component => ⟨component, head.occurrence⟩)).mapM scope.standIn := by
  induction candidates with
  | nil => exact fun _ => rfl
  | cons component rest induction =>
      intro seen
      rw [discover]
      by_cases imports : component.schema.importsNamespace head.name.uri
      · rw [if_pos (.inl imports), List.filter_cons_of_neg (by simp [imports])]
        exact induction seen
      · rw [List.filter_cons_of_pos (by simp [imports]), List.map_cons]
        by_cases old : component.name ∈ seen
        · rw [if_pos (.inr old), Offer.fresh_cons_of_mem old]
          exact induction seen
        · rw [if_neg (by simp [imports, old]), Offer.fresh_cons_of_not_mem old,
            List.mapM_cons, induction]
          rfl

theorem substitutesOf_eq_mapM (scope : Scope) (seen : List ExpandedName)
    (head : Member) :
    scope.substitutesOf seen head =
      (Offer.fresh seen ((heads (withBounds [head])).flatMap scope.set.offers)).mapM
        scope.standIn := by
  cases isReference : head.reference with
  | none =>
      simp only [substitutesOf, heads, withBounds, isReference, List.map_cons,
        List.map_nil, List.filterMap_cons, List.filterMap_nil, Option.map_none,
        Option.isNone_none, if_true, List.flatMap_nil]
      rfl
  | some reference =>
      have single : heads (withBounds [head]) = [⟨head.name, head.occurrence⟩] := by
        simp [heads, withBounds, isReference]
      rw [substitutesOf, single, isReference, discover_eq_mapM]
      simp only [List.flatMap_cons, List.flatMap_nil, List.append_nil]
      rfl

theorem nextLayer_eq_mapM (scope : Scope) (layer : List Member) :
    ∀ seen : List ExpandedName,
      scope.nextLayer seen layer =
        (Offer.fresh seen ((heads (withBounds layer)).flatMap scope.set.offers)).mapM
          scope.standIn := by
  induction layer with
  | nil => exact fun _ => rfl
  | cons head rest induction =>
      intro seen
      have split : heads (withBounds (head :: rest)) =
          heads (withBounds [head]) ++ heads (withBounds rest) :=
        List.filterMap_append (l := [_])
      rw [nextLayer, split, List.flatMap_append, Offer.fresh_append, List.mapM_append,
        ← substitutesOf_eq_mapM]
      cases found : scope.substitutesOf seen head with
      | error fault => rfl
      | ok members =>
          have made := substitutesOf_eq_mapM scope seen head ▸ found
          rw [← names_of_mapM made, ← induction]
          rfl

theorem spread_nil (scope : Scope) (seen : List ExpandedName) :
    scope.spread seen [] = .ok [] := by
  rw [spread]
  rfl

/-- Spreading in layers: the next layer, and the layers after it. -/
theorem spread_eq_bind (scope : Scope) (seen : List ExpandedName)
    (layer : List Member) :
    scope.spread seen layer = do
      let next ← scope.nextLayer seen layer
      return next ++ (← scope.spread (seen ++ next.map (·.name)) next) := by
  rw [spread]
  split
  · rename_i failed
    rw [failed]
    rfl
  · rename_i empty
    rw [empty]
    change _ = (do return [] ++ (← scope.spread _ []))
    rw [spread_nil]
    rfl
  · rename_i found
    rw [found]
    rfl

theorem spread_eq_mapM (scope : Scope) (seen : List ExpandedName)
    (layer : List Member) :
    scope.spread seen layer =
      (scope.set.explore seen (heads (withBounds layer))).mapM scope.standIn := by
  generalize sameHeads : heads (withBounds layer) = layerHeads
  induction seen, layerHeads using SchemaSet.explore.induct scope.set
    generalizing layer with
  | case1 seen layerHeads empty =>
      rw [spread_eq_bind, nextLayer_eq_mapM, sameHeads, empty,
        SchemaSet.explore_eq_nil _ _ _ empty]
      change (do return [] ++ (← scope.spread _ [])) = _
      rw [spread_nil]
      rfl
  | case2 seen layerHeads first rest offered next induction =>
      rw [spread_eq_bind, nextLayer_eq_mapM, sameHeads, offered,
        SchemaSet.explore_eq_append _ _ _ offered, List.mapM_append]
      cases made : List.mapM scope.standIn (first :: rest) with
      | error fault => rfl
      | ok members =>
          have later := induction members (heads_of_mapM made)
          change (do return members ++ (← scope.spread _ members)) = _
          rw [names_of_mapM made, later]
          rfl

/-- The substitutes of direct members are made from what is found by exploring
their names, whatever marks stand for their bounds. -/
theorem expand_eq_mapM (scope : Scope) (direct : List (Member × τ))
    (bounds : τ → Occurrence)
    (agree : ∀ entry ∈ direct, bounds entry.2 = entry.1.occurrence) :
    scope.expand (direct.map (·.1)) =
      ((scope.set.explore (direct.map (·.1.name)) (heads direct)).map
        (Offer.map bounds)).mapM scope.standIn := by
  have sameHeads : heads (withBounds (direct.map (·.1))) =
      (heads direct).map (Head.map bounds) := by
    rw [heads, withBounds, heads, List.map_map, List.filterMap_map, List.map_filterMap]
    apply List.filterMap_congr
    intro entry isEntry
    simp only [Function.comp_apply, Option.map_map, ← agree entry isEntry]
    rfl
  rw [expand, spread_eq_mapM, sameHeads, SchemaSet.explore_map, List.map_map]
  rfl

end Scope

end SchemaContent
