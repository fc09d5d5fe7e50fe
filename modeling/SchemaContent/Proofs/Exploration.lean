import SchemaContent.SchemaSet
import SchemaContent.Steps

/-! # Exploring substitution groups

Which elements may stand in for a list of heads, and in which order they are
found, is a matter of names alone: it does not depend on their types, nor on how
they are referred to. Heads carry marks, which are handed on to what is found and
never looked at. -/

namespace SchemaContent

/-! ## Heads and offers -/

/-- A name whose substitution group is explored, and a mark that its substitutes
take over from it, such as its bounds. -/
structure Head (τ : Type) where
  name : ExpandedName
  mark : τ

/-- An element that stands in for a head, and the mark it takes over. -/
structure Offer (τ : Type) where
  component : Component ElementDeclaration
  mark : τ

variable {τ σ : Type}

namespace Offer

def name (offer : Offer τ) : ExpandedName :=
  offer.component.name

def head (offer : Offer τ) : Head τ :=
  ⟨offer.name, offer.mark⟩

def map (change : τ → σ) (offer : Offer τ) : Offer σ :=
  ⟨offer.component, change offer.mark⟩

@[simp] theorem name_map (change : τ → σ) (offer : Offer τ) :
    (offer.map change).name = offer.name := rfl

end Offer

def Head.map (change : τ → σ) (head : Head τ) : Head σ :=
  ⟨head.name, change head.mark⟩

namespace SchemaSet

/-- The elements that may stand in for `head` directly: those that list it, except
in schemas that import its namespace. -/
def replacements (set : SchemaSet) (head : ExpandedName) :
    List (Component ElementDeclaration) :=
  (set.substitutes head).filter fun component =>
    !component.schema.importsNamespace head.uri

def offers (set : SchemaSet) (head : Head τ) : List (Offer τ) :=
  (set.replacements head.name).map fun component => ⟨component, head.mark⟩

theorem name_mem_elements_of_mem_offers {set : SchemaSet} {head : Head τ}
    {offer : Offer τ} (isOffer : offer ∈ set.offers head) :
    offer.name ∈ set.elements.map (·.name) := by
  obtain ⟨component, isReplacement, rfl⟩ := List.mem_map.mp isOffer
  have isSubstitute := (List.mem_filter.mp isReplacement).1
  exact List.mem_map_of_mem (mem_elements_of_mem_substitutes isSubstitute)

end SchemaSet

/-! ## Fresh offers -/

namespace Offer

/-- The first offer of each name that has not been seen. -/
def fresh (seen : List ExpandedName) : List (Offer τ) → List (Offer τ)
  | [] => []
  | offer :: rest =>
    if offer.name ∈ seen then fresh seen rest
    else offer :: fresh (offer.name :: seen) rest

theorem fresh_cons_of_mem {seen : List ExpandedName} {offer : Offer τ}
    (old : offer.name ∈ seen) (rest : List (Offer τ)) :
    fresh seen (offer :: rest) = fresh seen rest := by
  rw [fresh, if_pos old]

theorem fresh_cons_of_not_mem {seen : List ExpandedName} {offer : Offer τ}
    (new : offer.name ∉ seen) (rest : List (Offer τ)) :
    fresh seen (offer :: rest) = offer :: fresh (offer.name :: seen) rest := by
  rw [fresh, if_neg new]

theorem fresh_sublist (offers : List (Offer τ)) : ∀ seen : List ExpandedName,
    (fresh seen offers).Sublist offers := by
  induction offers with
  | nil => exact fun _ => .slnil
  | cons offer rest induction =>
      intro seen
      by_cases old : offer.name ∈ seen
      · rw [fresh_cons_of_mem old]
        exact (induction seen).cons offer
      · rw [fresh_cons_of_not_mem old]
        exact (induction _).cons_cons offer

theorem fresh_congr (offers : List (Offer τ)) : ∀ {seen other : List ExpandedName},
    (∀ name, name ∈ seen ↔ name ∈ other) → fresh seen offers = fresh other offers := by
  induction offers with
  | nil => exact fun _ => rfl
  | cons offer rest induction =>
      intro seen other same
      by_cases old : offer.name ∈ seen
      · rw [fresh_cons_of_mem old, fresh_cons_of_mem ((same _).mp old)]
        exact induction same
      · have new : offer.name ∉ other := fun known => old ((same _).mpr known)
        rw [fresh_cons_of_not_mem old, fresh_cons_of_not_mem new]
        apply congrArg
        apply induction
        intro name
        simp only [List.mem_cons, same]

theorem fresh_append (first second : List (Offer τ)) : ∀ seen : List ExpandedName,
    fresh seen (first ++ second) =
      fresh seen first ++ fresh (seen ++ (fresh seen first).map name) second := by
  induction first with
  | nil =>
      intro seen
      simp [fresh]
  | cons offer rest induction =>
      intro seen
      rw [List.cons_append]
      by_cases old : offer.name ∈ seen
      · rw [fresh_cons_of_mem old, fresh_cons_of_mem old]
        exact induction seen
      · rw [fresh_cons_of_not_mem old, fresh_cons_of_not_mem old, induction,
          List.cons_append]
        apply congrArg
        apply congrArg
        apply fresh_congr
        intro name
        simp only [List.map_cons, List.mem_append, List.mem_cons]
        exact or_left_comm

theorem not_mem_seen_of_mem_fresh {offers : List (Offer τ)} {offer : Offer τ} :
    ∀ {seen : List ExpandedName}, offer ∈ fresh seen offers → offer.name ∉ seen := by
  induction offers with
  | nil => exact fun isFresh => nomatch isFresh
  | cons first rest induction =>
      intro seen isFresh
      by_cases old : first.name ∈ seen
      · rw [fresh_cons_of_mem old] at isFresh
        exact induction isFresh
      · rw [fresh_cons_of_not_mem old] at isFresh
        rcases List.mem_cons.mp isFresh with rfl | later
        · exact old
        · exact fun known => induction later (List.mem_cons_of_mem _ known)

/-- Where all names have been seen, nothing is offered afresh. -/
theorem fresh_eq_nil {seen : List ExpandedName} {offers : List (Offer τ)}
    (known : ∀ offer ∈ offers, offer.name ∈ seen) : fresh seen offers = [] := by
  apply List.eq_nil_iff_forall_not_mem.mpr
  intro offer isFresh
  exact not_mem_seen_of_mem_fresh isFresh (known offer ((fresh_sublist _ _).subset isFresh))

theorem nodup_fresh (offers : List (Offer τ)) : ∀ seen : List ExpandedName,
    ((fresh seen offers).map name).Nodup := by
  induction offers with
  | nil => exact fun _ => .nil
  | cons offer rest induction =>
      intro seen
      by_cases old : offer.name ∈ seen
      · rw [fresh_cons_of_mem old]
        exact induction seen
      · rw [fresh_cons_of_not_mem old, List.map_cons]
        refine List.nodup_cons.mpr ⟨?_, induction _⟩
        intro repeated
        obtain ⟨other, isFresh, sameName⟩ := List.mem_map.mp repeated
        exact not_mem_seen_of_mem_fresh isFresh (sameName ▸ List.mem_cons_self)

/-- Each offer is of a name that was seen or is offered afresh. -/
theorem name_mem_of_mem {offers : List (Offer τ)} {offer : Offer τ} :
    ∀ seen : List ExpandedName, offer ∈ offers →
      offer.name ∈ seen ∨ offer.name ∈ (fresh seen offers).map name := by
  induction offers with
  | nil => exact fun _ isOffer => nomatch isOffer
  | cons first rest induction =>
      intro seen isOffer
      by_cases old : first.name ∈ seen
      · rw [fresh_cons_of_mem old]
        rcases List.mem_cons.mp isOffer with rfl | later
        · exact .inl old
        · exact induction seen later
      · rw [fresh_cons_of_not_mem old, List.map_cons]
        rcases List.mem_cons.mp isOffer with rfl | later
        · exact .inr List.mem_cons_self
        · rcases induction (first.name :: seen) later with known | found
          · rcases List.mem_cons.mp known with same | known
            · exact .inr (same ▸ List.mem_cons_self)
            · exact .inl known
          · exact .inr (List.mem_cons_of_mem _ found)

/-- A change that leaves names alone does not make anything fresh. -/
theorem fresh_map {change : Offer τ → Offer σ}
    (keepsName : ∀ offer, (change offer).name = offer.name) (offers : List (Offer τ)) :
    ∀ seen : List ExpandedName,
      fresh seen (offers.map change) = (fresh seen offers).map change := by
  induction offers with
  | nil => exact fun _ => rfl
  | cons offer rest induction =>
      intro seen
      rw [List.map_cons, fresh, fresh, keepsName, induction, induction]
      split <;> rfl

end Offer

/-! ## Exploration -/

namespace SchemaSet

theorem mem_elements_of_mem_fresh {set : SchemaSet} {seen : List ExpandedName}
    {heads : List (Head τ)} {offer : Offer τ}
    (isFresh : offer ∈ Offer.fresh seen (heads.flatMap set.offers)) :
    offer.name ∈ set.elements.map (·.name) := by
  have isOffer := (Offer.fresh_sublist _ seen).subset isFresh
  obtain ⟨head, _, ofHead⟩ := List.mem_flatMap.mp isOffer
  exact name_mem_elements_of_mem_offers ofHead

/-- What is offered to the heads, what is offered to that, and so on, where each
name counts once. -/
def explore (set : SchemaSet) (seen : List ExpandedName) (heads : List (Head τ)) :
    List (Offer τ) :=
  match _ : Offer.fresh seen (heads.flatMap set.offers) with
  | [] => []
  | first :: rest =>
    let next := first :: rest
    next ++ set.explore (seen ++ next.map Offer.name) (next.map Offer.head)
termination_by unseen (set.elements.map (·.name)) seen
decreasing_by
  have isFresh : first ∈ Offer.fresh seen (heads.flatMap set.offers) := by
    rename_i nonempty
    exact nonempty ▸ List.mem_cons_self
  exact unseen_lt (fun _ => List.mem_append_left _) (mem_elements_of_mem_fresh isFresh)
    (Offer.not_mem_seen_of_mem_fresh isFresh)
    (List.mem_append_right _ List.mem_cons_self)

theorem explore_nil (set : SchemaSet) (seen : List ExpandedName) :
    set.explore (τ := τ) seen [] = [] := by
  rw [explore]
  rfl

/-- Exploration in layers: the fresh offers, and what is found from them. -/
theorem explore_eq_append (set : SchemaSet) (seen : List ExpandedName)
    (heads : List (Head τ)) {next : List (Offer τ)}
    (offered : Offer.fresh seen (heads.flatMap set.offers) = next) :
    set.explore seen heads =
      next ++ set.explore (seen ++ next.map Offer.name) (next.map Offer.head) := by
  cases next with
  | nil =>
      rw [explore]
      split
      · exact (explore_nil set _).symm
      · rename_i nonempty
        rw [offered] at nonempty
        cases nonempty
  | cons first rest =>
      rw [explore]
      split
      · rename_i isEmpty
        rw [offered] at isEmpty
        cases isEmpty
      · rename_i nonempty
        rw [offered] at nonempty
        cases nonempty
        rfl

theorem explore_eq_nil (set : SchemaSet) (seen : List ExpandedName)
    (heads : List (Head τ)) (empty : Offer.fresh seen (heads.flatMap set.offers) = []) :
    set.explore seen heads = [] := by
  rw [explore_eq_append _ _ _ empty, List.nil_append]
  exact explore_nil set _

theorem nodup_explore (set : SchemaSet) (seen : List ExpandedName)
    (heads : List (Head τ)) :
    ((set.explore seen heads).map Offer.name).Nodup ∧
      ∀ offer ∈ set.explore seen heads, offer.name ∉ seen := by
  induction seen, heads using explore.induct set with
  | case1 seen heads empty =>
      rw [explore_eq_nil _ _ _ empty]
      exact ⟨.nil, fun offer isFound => nomatch isFound⟩
  | case2 seen heads first rest offered next induction =>
      have ⟨laterDistinct, laterFresh⟩ := induction
      have nextDistinct := Offer.nodup_fresh (heads.flatMap set.offers) seen
      rw [offered] at nextDistinct
      rw [explore_eq_append _ _ _ offered]
      constructor
      · rw [List.map_append]
        apply List.nodup_append.mpr
        refine ⟨nextDistinct, laterDistinct, ?_⟩
        intro name isNext other isLater same
        obtain ⟨offer, isFound, rfl⟩ := List.mem_map.mp isLater
        exact laterFresh offer isFound (List.mem_append_right _ (same ▸ isNext))
      · intro offer isFound
        rcases List.mem_append.mp isFound with isNext | isLater
        · exact Offer.not_mem_seen_of_mem_fresh (offered ▸ isNext)
        · exact fun old => laterFresh offer isLater (List.mem_append_left _ old)

/-- All that exploring finds lists some head. -/
theorem exists_of_mem_explore {set : SchemaSet} {seen : List ExpandedName} {heads : List (Head τ)}
    {offer : Offer τ} (isFound : offer ∈ set.explore seen heads) :
    ∃ head, offer.component ∈ set.substitutes head := by
  induction seen, heads using explore.induct set with
  | case1 seen heads empty =>
      rw [explore_eq_nil _ _ _ empty] at isFound
      exact nomatch isFound
  | case2 seen heads first rest offered next induction =>
      rw [explore_eq_append _ _ _ offered] at isFound
      rcases List.mem_append.mp isFound with isNext | isLater
      · have isFresh : offer ∈ Offer.fresh seen (heads.flatMap set.offers) := by
          rw [offered]
          exact isNext
        have isOffer := (Offer.fresh_sublist _ seen).subset isFresh
        have ⟨head, _, ofHead⟩ := List.mem_flatMap.mp isOffer
        have ⟨component, isReplacement, same⟩ := List.mem_map.mp ofHead
        rw [← same]
        exact ⟨head.name, (List.mem_filter.mp isReplacement).1⟩
      · exact induction isLater

theorem offers_map (set : SchemaSet) (change : τ → σ) (head : Head τ) :
    set.offers (head.map change) = (set.offers head).map (Offer.map change) := by
  simp only [offers, List.map_map]
  rfl

/-- Marks are handed on without being looked at. -/
theorem explore_map (set : SchemaSet) (change : τ → σ) (seen : List ExpandedName)
    (heads : List (Head τ)) :
    set.explore seen (heads.map (Head.map change)) =
      (set.explore seen heads).map (Offer.map change) := by
  have offered : ∀ some : List (Head τ),
      (some.map (Head.map change)).flatMap set.offers =
        (some.flatMap set.offers).map (Offer.map change) := by
    intro some
    simp only [List.flatMap_map, List.map_flatMap, offers_map]
  induction seen, heads using explore.induct set with
  | case1 seen heads empty =>
      have stillEmpty := Offer.fresh_map (Offer.name_map change) (heads.flatMap set.offers) seen
      rw [← offered, empty] at stillEmpty
      rw [explore_eq_nil _ _ _ stillEmpty, explore_eq_nil _ _ _ empty]
      rfl
  | case2 seen heads first rest found next induction =>
      have changed := Offer.fresh_map (Offer.name_map change) (heads.flatMap set.offers) seen
      rw [← offered, found] at changed
      have sameNames : (next.map (Offer.map change)).map Offer.name =
          next.map Offer.name := by
        rw [List.map_map]
        rfl
      have sameHeads : (next.map (Offer.map change)).map Offer.head =
          (next.map Offer.head).map (Head.map change) := by
        rw [List.map_map, List.map_map]
        rfl
      rw [explore_eq_append _ _ _ changed, explore_eq_append _ _ _ found,
        List.map_append, ← induction, ← sameNames, ← sameHeads]

end SchemaSet

end SchemaContent
