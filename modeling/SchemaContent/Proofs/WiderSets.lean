import SchemaContent.Proofs.ComparedContents
import SchemaContent.Proofs.Lookups
import SchemaContent.Proofs.SubstitutionClosure

/-! # Wider sets

A set is wider than another if all that is found in that one is found in it too, under
the same names. New substitutes are the exception that is allowed, as long as none of
them has a name that is not offered to the same head already. Contents are the same in a
wider set. -/

namespace SchemaContent

/-- A run that ends as it did before. Where runs can be mended, one that failed before
may end in any way. -/
inductive Kept (mends : Prop) {α : Type} :
    Except SchemaError α → Except SchemaError α → Prop
  | same (run : Except SchemaError α) : Kept mends run run
  | mended (canMend : mends) (fault : SchemaError) (run : Except SchemaError α) :
      Kept mends (.error fault) run

def Comparison.kept (mends : Prop) : Comparison where
  Holds := Kept mends
  refl := .same
  bind {_ _ run _ _ _} first rest := by
    cases first with
    | same =>
        cases run with
        | error fault => exact .same _
        | ok value => exact rest value rfl
    | mended canMend fault => exact .mended canMend fault _

theorem Kept.eq_ok {mends : Prop} {α : Type} {run other : Except SchemaError α} {value : α}
    (kept : Kept mends run other) (success : run = .ok value) : other = .ok value := by
  cases kept with
  | same => exact success
  | mended => cases success

theorem Kept.eq {α : Type} {run other : Except SchemaError α} (kept : Kept False run other) :
    other = run := by
  cases kept with
  | same => rfl
  | mended impossible => exact impossible.elim

/-! ## References to elements -/

namespace Scope

variable {scope : Scope} {member : Member}

theorem isSome_element?_of_refer {reference : Reference} {name : ExpandedName}
    {occurrence : Occurrence} (referred : scope.refer reference name occurrence = .ok member) :
    (scope.set.element? member.name).isSome := by
  rcases exists_of_refer_eq_ok referred with ⟨component, type, found, _, rfl⟩
  exact Option.isSome_iff_exists.mpr ⟨component, found⟩

theorem Makes.isSome_element? (made : scope.Makes member)
    (isReference : member.reference.isSome) : (scope.set.element? member.name).isSome := by
  cases made.arises with
  | written _ referred => exact isSome_element?_of_refer referred
  | standIn _ _ _ referred => exact isSome_element?_of_refer referred
  | inPlace _ noReference =>
      rw [noReference] at isReference
      cases isReference

/-- A member with a reference refers to an element that is found. -/
theorem Contributes.isSome_element? (contributed : scope.Contributes member)
    (isReference : member.reference.isSome) : (scope.set.element? member.name).isSome := by
  rcases contributed with ⟨original, _, made, rfl⟩
  exact made.isSome_element? isReference

end Scope

/-! ## What is found in a wider set -/

namespace SchemaSet

/-- What the set finds is found in `more`. Where runs can be mended, more names may be
found there. -/
structure Widens (mends : Prop) (set more : SchemaSet) : Prop where
  element? : ∀ name, more.element? name = set.element? name ∨
    mends ∧ set.element? name = none
  namedType : ∀ name, Kept mends (set.namedType name) (more.namedType name)
  replacements : ∀ head, (set.element? head).isSome → ∃ extra,
    more.replacements head = set.replacements head ++ extra ∧
      ∀ component ∈ extra, set.Replaces head component.name

namespace Widens

variable {mends : Prop} {set more : SchemaSet} (wider : set.Widens mends more)

include wider

theorem lookups : (Comparison.kept mends).Lookups set more where
  element name := by
    rcases wider.element? name with same | ⟨canMend, missing⟩
    · cases found : set.element? name with
      | none => exact .missing found (same.trans found)
      | some component => exact .found component.position found (same.trans found)
    · exact .mended missing (.mended canMend)
  namedType := wider.namedType

variable (schema : Schema) (owner : Owner)

theorem standIn (offer : Offer Occurrence) :
    Kept mends (Scope.standIn ⟨set, schema, owner⟩ offer)
      (Scope.standIn ⟨more, schema, owner⟩ offer) :=
  (Comparison.kept mends).bind (.same _) fun reference _ =>
    wider.lookups.refer schema owner reference offer.name offer.mark

/-! ## Substitution -/

variable {τ : Type}

theorem exists_offers {head : Head τ} (isElement : (set.element? head.name).isSome) :
    ∃ extra, more.offers head = set.offers head ++ extra ∧
      ∀ offer ∈ extra, ∃ other ∈ set.offers head, other.name = offer.name := by
  rcases wider.replacements head.name isElement with ⟨extra, offered, known⟩
  refine ⟨extra.map fun component => ⟨component, head.mark⟩, ?_, ?_⟩
  · rw [offers, offers, offered, List.map_append]
  · intro offer isExtra
    rcases List.mem_map.mp isExtra with ⟨component, fromExtra, rfl⟩
    exact exists_offer_of_replaces (known component fromExtra)

/-- Nothing is offered afresh that was not before, as the first offer of a name counts. -/
theorem fresh_offers {heads : List (Head τ)}
    (areElements : ∀ head ∈ heads, (set.element? head.name).isSome) :
    ∀ seen : List ExpandedName, Offer.fresh seen (heads.flatMap more.offers) =
      Offer.fresh seen (heads.flatMap set.offers) := by
  induction heads with
  | nil => exact fun _ => rfl
  | cons first rest induction =>
      intro seen
      rcases wider.exists_offers (areElements first List.mem_cons_self) with ⟨extra, offered, known⟩
      have later := induction fun head isLater => areElements head (List.mem_cons_of_mem _ isLater)
      have nothingNew : Offer.fresh
          (seen ++ (Offer.fresh seen (set.offers first)).map Offer.name) extra = [] := by
        apply Offer.fresh_eq_nil
        intro offer isExtra
        rcases known offer isExtra with ⟨other, isOffer, sameName⟩
        rw [← sameName]
        exact List.mem_append.mpr (Offer.name_mem_of_mem seen isOffer)
      rw [List.flatMap_cons, List.flatMap_cons, offered, List.append_assoc,
        Offer.fresh_append, Offer.fresh_append extra, nothingNew, List.map_nil,
        List.append_nil, List.nil_append, later, ← Offer.fresh_append]

theorem explore {heads : List (Head τ)} (seen : List ExpandedName)
    (areElements : ∀ head ∈ heads, (set.element? head.name).isSome) :
    more.explore seen heads = set.explore seen heads := by
  induction seen, heads using SchemaSet.explore.induct set with
  | case1 seen heads empty =>
      have emptyToo := (wider.fresh_offers areElements seen).trans empty
      rw [explore_eq_nil _ _ _ empty, explore_eq_nil _ _ _ emptyToo]
  | case2 seen heads first rest offered next induction =>
      have offeredToo := (wider.fresh_offers areElements seen).trans offered
      rw [explore_eq_append _ _ _ offered, explore_eq_append _ _ _ offeredToo, induction]
      intro head isNext
      rcases List.mem_map.mp isNext with ⟨offer, isOffer, rfl⟩
      have isFresh : offer ∈ Offer.fresh seen (heads.flatMap set.offers) := offered ▸ isOffer
      rcases List.mem_map.mp (mem_elements_of_mem_fresh isFresh) with
        ⟨component, declared, sameName⟩
      have isElement := isSome_element?_of_mem declared
      rw [sameName] at isElement
      exact isElement

theorem expand {direct : List Member}
    (areElements : ∀ member ∈ direct, member.reference.isSome →
      (set.element? member.name).isSome) :
    Kept mends (Scope.expand ⟨set, schema, owner⟩ direct)
      (Scope.expand ⟨more, schema, owner⟩ direct) := by
  have explored : more.explore (direct.map (·.name)) (heads (withBounds direct)) =
      set.explore (direct.map (·.name)) (heads (withBounds direct)) := by
    apply wider.explore
    intro head isHead
    rcases mem_heads.mp isHead with ⟨entry, isEntry, isReference, rfl⟩
    rcases List.mem_map.mp isEntry with ⟨member, isMember, rfl⟩
    exact areElements member isMember isReference
  rw [Scope.expand, Scope.expand, Scope.spread_eq_mapM, Scope.spread_eq_mapM, explored]
  exact (Comparison.kept mends).mapM fun offer _ => wider.standIn schema owner offer

theorem gather (compositor : Compositor) (occurrence : Occurrence) {own : List Member}
    (nested : List Member)
    (contributed : ∀ member ∈ own, Scope.Contributes ⟨set, schema, owner⟩ member) :
    Kept mends (Scope.gather ⟨set, schema, owner⟩ compositor occurrence own nested)
      (Scope.gather ⟨more, schema, owner⟩ compositor occurrence own nested) := by
  rw [Scope.gather, Scope.gather]
  refine (Comparison.kept mends).bind (wider.expand schema owner ?_) fun _ _ => .same _
  intro member isDirect isReference
  rcases List.mem_map.mp isDirect with ⟨original, isOwn, rfl⟩
  exact (contributed original isOwn).isSome_element? isReference

omit owner in
/-- Contents compare in a wider set. -/
theorem gathers : (Comparison.kept mends).Gathers set more schema where
  toLookups := wider.lookups
  gather owner compositor occurrence _ nested :=
    wider.gather schema owner compositor occurrence nested

end Widens

end SchemaSet

end SchemaContent
