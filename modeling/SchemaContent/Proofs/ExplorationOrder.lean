import Mathlib.Data.List.Perm.Basic
import SchemaContent.Proofs.Rearrangement

/-! # Exploration in another order

Heads are explored in an order, and that order is kept by what is offered to them:
an earlier head's offers come before a later one's. Among the offers of one head
the order is that of the set, and this alone changes with the set. So in each layer
a name is offered first by the same head, whichever way the set was built. -/

namespace SchemaContent

/-! ## Fresh offers by rank -/

namespace Offer

variable {τ : Type}

def placed (position : Nat) (offer : Offer τ) : Offer τ :=
  ⟨offer.component.placed position, offer.mark⟩

@[simp] theorem name_placed (position : Nat) (offer : Offer τ) :
    (offer.placed position).name = offer.name := rfl

/-- Offers in the order of their heads, which are marked with their rank. -/
def Ranked (offers : List (Offer Nat)) : Prop :=
  offers.Pairwise fun first second => first.mark ≤ second.mark

/-- A name stands for one component in these offers. -/
def Unambiguous (offers : List (Offer τ)) : Prop :=
  ∀ first ∈ offers, ∀ second ∈ offers,
    first.name = second.name → first.component = second.component

variable {offers others : List (Offer Nat)} {seen otherSeen : List ExpandedName}
  {offer : Offer Nat}

theorem mark_le_of_mem_fresh (ranked : Ranked offers) :
    ∀ {seen : List ExpandedName}, offer ∈ fresh seen offers →
      ∀ rival ∈ offers, rival.name = offer.name → offer.mark ≤ rival.mark := by
  induction offers with
  | nil => exact fun isFresh => nomatch isFresh
  | cons first rest induction =>
      intro seen isFresh rival isRival sameName
      have ⟨firstLeast, restRanked⟩ := List.pairwise_cons.mp ranked
      have isNew := not_mem_seen_of_mem_fresh isFresh
      by_cases old : first.name ∈ seen
      · rw [fresh_cons_of_mem old] at isFresh
        rcases List.mem_cons.mp isRival with rfl | isLater
        · exact absurd (sameName ▸ old) isNew
        · exact induction restRanked isFresh rival isLater sameName
      · rw [fresh_cons_of_not_mem old] at isFresh
        rcases List.mem_cons.mp isFresh with rfl | isLaterFresh
        · rcases List.mem_cons.mp isRival with rfl | isLater
          · exact Nat.le_refl _
          · exact firstLeast rival isLater
        · rcases List.mem_cons.mp isRival with rfl | isLater
          · have notSeenAgain := not_mem_seen_of_mem_fresh isLaterFresh
            rw [← sameName] at notSeenAgain
            exact absurd List.mem_cons_self notSeenAgain
          · exact induction restRanked isLaterFresh rival isLater sameName

/-- Which offers are fresh can be told without regard to their order: those of the
least rank for a name that has not been seen. -/
theorem mem_fresh_iff (ranked : Ranked offers) (unambiguous : Unambiguous offers) :
    offer ∈ fresh seen offers ↔
      offer ∈ offers ∧ offer.name ∉ seen ∧
        ∀ rival ∈ offers, rival.name = offer.name → offer.mark ≤ rival.mark := by
  constructor
  · intro isFresh
    exact ⟨(fresh_sublist offers seen).subset isFresh, not_mem_seen_of_mem_fresh isFresh,
      mark_le_of_mem_fresh ranked isFresh⟩
  · rintro ⟨isOffer, isNew, least⟩
    rcases name_mem_of_mem seen isOffer with old | found
    · exact absurd old isNew
    · -- The fresh offer of this name is of the same component, and neither of the
      -- two has the greater rank.
      obtain ⟨winner, isFresh, sameName⟩ := List.mem_map.mp found
      have isWinner := (fresh_sublist offers seen).subset isFresh
      have sameComponent := unambiguous winner isWinner offer isOffer sameName
      have sameMark : winner.mark = offer.mark := by
        apply Nat.le_antisymm
        · exact mark_le_of_mem_fresh ranked isFresh offer isOffer sameName.symm
        · exact least winner isWinner sameName
      have same : winner = offer := by
        cases winner
        cases offer
        simp only at sameComponent sameMark
        rw [sameComponent, sameMark]
      exact same ▸ isFresh

theorem fresh_perm (same : offers.Perm others)
    (ranked : Ranked offers) (otherRanked : Ranked others)
    (unambiguous : Unambiguous offers)
    (sameSeen : ∀ name, name ∈ seen ↔ name ∈ otherSeen) :
    (fresh seen offers).Perm (fresh otherSeen others) := by
  have otherUnambiguous : Unambiguous others := by
    intro first isFirst second isSecond
    exact unambiguous first (same.mem_iff.mpr isFirst) second (same.mem_iff.mpr isSecond)
  apply (List.perm_ext_iff_of_nodup (List.Nodup.of_map _ (nodup_fresh offers seen))
    (List.Nodup.of_map _ (nodup_fresh others otherSeen))).mpr
  intro offer
  rw [mem_fresh_iff ranked unambiguous, mem_fresh_iff otherRanked otherUnambiguous]
  simp only [same.mem_iff, sameSeen]

end Offer

/-! ## Exploration -/

def Head.Ranked (heads : List (Head Nat)) : Prop :=
  heads.Pairwise fun first second => first.mark ≤ second.mark

namespace SchemaSet

variable {set : SchemaSet} {heads : List (Head Nat)}

theorem mark_of_mem_offers {τ : Type} {head : Head τ} {offer : Offer τ}
    (isOffer : offer ∈ set.offers head) : offer.mark = head.mark := by
  obtain ⟨_, _, rfl⟩ := List.mem_map.mp isOffer
  rfl

theorem ranked_offers (ranked : Head.Ranked heads) :
    Offer.Ranked (heads.flatMap set.offers) := by
  apply List.pairwise_flatMap.mpr
  constructor
  · intro head _
    apply List.pairwise_of_forall_mem_list
    intro first isFirst second isSecond
    apply Nat.le_of_eq
    rw [mark_of_mem_offers isFirst, mark_of_mem_offers isSecond]
  · apply ranked.imp
    intro head later before first isFirst second isSecond
    rw [mark_of_mem_offers isFirst, mark_of_mem_offers isSecond]
    exact before

theorem ranked_fresh (set : SchemaSet) (ranked : Head.Ranked heads)
    (seen : List ExpandedName) :
    Head.Ranked ((Offer.fresh seen (heads.flatMap set.offers)).map Offer.head) :=
  List.pairwise_map.mpr ((ranked_offers ranked).sublist (Offer.fresh_sublist _ seen))

/-- What is offered to any heads, its places disregarded, is known by its names. -/
theorem unambiguous_offers (distinct : DistinctNames set.schemas) :
    Offer.Unambiguous ((heads.flatMap set.offers).map (Offer.placed 0)) := by
  have isElement : ∀ offer ∈ (heads.flatMap set.offers).map (Offer.placed 0),
      offer.component ∈ set.elements.map (Component.placed 0) := by
    intro offer isOffer
    obtain ⟨original, isOriginal, rfl⟩ := List.mem_map.mp isOffer
    obtain ⟨head, _, ofHead⟩ := List.mem_flatMap.mp isOriginal
    obtain ⟨component, isReplacement, rfl⟩ := List.mem_map.mp ofHead
    apply List.mem_map_of_mem
    exact mem_elements_of_mem_substitutes (List.mem_filter.mp isReplacement).1
  have distinctNames :
      ((set.elements.map (Component.placed 0)).map (·.name)).Nodup := by
    rw [List.map_map]
    exact nodup_elements distinct
  intro first isFirst second isSecond sameName
  exact List.inj_on_of_nodup_map distinctNames
    (isElement first isFirst) (isElement second isSecond) sameName

namespace Rearranged

variable {other : SchemaSet} (same : set.Rearranged other) {otherHeads : List (Head Nat)}
  {seen otherSeen : List ExpandedName}

include same

theorem offers_perm (sameHeads : heads.Perm otherHeads) :
    ((heads.flatMap set.offers).map (Offer.placed 0)).Perm
      ((otherHeads.flatMap other.offers).map (Offer.placed 0)) := by
  have marked : ∀ (some : SchemaSet) (head : Head Nat),
      (some.offers head).map (Offer.placed 0) =
        ((some.replacements head.name).map (Component.placed 0)).map
          fun component => ⟨component, head.mark⟩ := by
    intro some head
    rw [offers, List.map_map, List.map_map]
    rfl
  rw [List.map_flatMap, List.map_flatMap]
  apply sameHeads.flatMap
  intro head _
  rw [marked, marked]
  exact (same.replacements_perm head.name).map _

theorem fresh_offers_perm (sameHeads : heads.Perm otherHeads)
    (ranked : Head.Ranked heads) (otherRanked : Head.Ranked otherHeads)
    (sameSeen : ∀ name, name ∈ seen ↔ name ∈ otherSeen) :
    ((Offer.fresh seen (heads.flatMap set.offers)).map (Offer.placed 0)).Perm
      ((Offer.fresh otherSeen (otherHeads.flatMap other.offers)).map
        (Offer.placed 0)) := by
  rw [← Offer.fresh_map (Offer.name_placed 0), ← Offer.fresh_map (Offer.name_placed 0)]
  apply Offer.fresh_perm (same.offers_perm sameHeads) ?_ ?_
    (unambiguous_offers same.distinct) sameSeen
  · exact List.pairwise_map.mpr (ranked_offers ranked)
  · exact List.pairwise_map.mpr (ranked_offers otherRanked)

/-- Exploring finds the same offers in both sets. They may come in different orders
within a layer, but what an offer takes over from its head is the same. -/
theorem explore_perm (sameHeads : heads.Perm otherHeads)
    (ranked : Head.Ranked heads) (otherRanked : Head.Ranked otherHeads)
    (sameSeen : ∀ name, name ∈ seen ↔ name ∈ otherSeen) :
    ((set.explore seen heads).map (Offer.placed 0)).Perm
      ((other.explore otherSeen otherHeads).map (Offer.placed 0)) := by
  induction seen, heads using explore.induct set generalizing otherSeen otherHeads with
  | case1 seen heads empty =>
      have sameFresh := same.fresh_offers_perm sameHeads ranked otherRanked sameSeen
      rw [empty] at sameFresh
      have otherEmpty := List.map_eq_nil_iff.mp sameFresh.nil_eq.symm
      rw [explore_eq_nil _ _ _ empty, explore_eq_nil _ _ _ otherEmpty]
  | @case2 seen heads first rest offered next induction =>
      have sameFresh := same.fresh_offers_perm sameHeads ranked otherRanked sameSeen
      generalize otherOffered :
        Offer.fresh otherSeen (otherHeads.flatMap other.offers) = otherNext at sameFresh
      rw [offered] at sameFresh
      rw [explore_eq_append _ _ _ offered, explore_eq_append _ _ _ otherOffered,
        List.map_append, List.map_append]
      apply sameFresh.append
      -- Names and heads do not depend on places, so what holds of the layers before
      -- holds of these.
      have sameNext := sameFresh.map Offer.head
      have sameNames := sameFresh.map Offer.name
      rw [List.map_map, List.map_map] at sameNext sameNames
      have rankedNext := ranked_fresh set ranked seen
      have rankedOther := ranked_fresh other otherRanked otherSeen
      rw [offered] at rankedNext
      rw [otherOffered] at rankedOther
      apply induction sameNext
      · exact rankedNext
      · exact rankedOther
      · intro name
        rw [List.mem_append, List.mem_append, sameSeen]
        exact or_congr_right sameNames.mem_iff

end Rearranged

end SchemaSet

end SchemaContent
