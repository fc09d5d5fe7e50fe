import SchemaContent.Proofs.Expansion

/-! # What may stand in for the direct members of a group

The substitutes of a group are found by a worklist that ends, whatever cycles
there are among substitution groups, and they are exactly the elements that can be
reached from a direct reference along heads and their substitutes. -/

namespace SchemaContent

variable {τ : Type}

/-! ## Reachability -/

/-- An element that lists `head` may replace it, unless its schema imports the
namespace of the head. -/
def SchemaSet.Replaces (set : SchemaSet) (head name : ExpandedName) : Prop :=
  ∃ component ∈ set.substitutes head,
    component.name = name ∧ component.schema.importsNamespace head.uri = false

/-- One name replaces another in one or more steps, all names between them being
passable. -/
inductive SchemaSet.ReplacesThrough (set : SchemaSet) (passable : ExpandedName → Prop)
    (head : ExpandedName) : ExpandedName → Prop
  | step {name : ExpandedName} (replaces : set.Replaces head name) :
      ReplacesThrough set passable head name
  | via {middle name : ExpandedName} (reached : ReplacesThrough set passable head middle)
      (passes : passable middle) (replaces : set.Replaces middle name) :
      ReplacesThrough set passable head name

namespace SchemaSet

theorem ReplacesThrough.mono {set : SchemaSet} {passable easier : ExpandedName → Prop}
    (allows : ∀ name, passable name → easier name) {head name : ExpandedName}
    (reached : set.ReplacesThrough passable head name) :
    set.ReplacesThrough easier head name := by
  induction reached with
  | step replaces => exact .step replaces
  | via _ passes replaces induction => exact .via induction (allows _ passes) replaces

theorem ReplacesThrough.after {set : SchemaSet} {passable : ExpandedName → Prop}
    {head middle name : ExpandedName} (replaces : set.Replaces head middle)
    (passes : passable middle) (reached : set.ReplacesThrough passable middle name) :
    set.ReplacesThrough passable head name := by
  induction reached with
  | step last => exact .via (.step replaces) passes last
  | via _ passesLater last induction => exact .via induction passesLater last

theorem replaces_of_mem_offers {set : SchemaSet} {head : Head τ} {offer : Offer τ}
    (isOffer : offer ∈ set.offers head) :
    set.Replaces head.name offer.name ∧ offer.mark = head.mark := by
  obtain ⟨component, isReplacement, rfl⟩ := List.mem_map.mp isOffer
  have ⟨isSubstitute, notImported⟩ := List.mem_filter.mp isReplacement
  exact ⟨⟨component, isSubstitute, rfl, by simpa using notImported⟩, rfl⟩

theorem exists_offer_of_replaces {set : SchemaSet} {head : Head τ} {name : ExpandedName}
    (replaces : set.Replaces head.name name) :
    ∃ offer ∈ set.offers head, offer.name = name := by
  obtain ⟨component, isSubstitute, sameName, notImported⟩ := replaces
  refine ⟨⟨component, head.mark⟩, List.mem_map.mpr ⟨component, ?_, rfl⟩, sameName⟩
  exact List.mem_filter.mpr ⟨isSubstitute, by simp [notImported]⟩

/-! ## What exploring finds -/

/-- All that is found replaces a head whose mark it bears, through names that had
not been seen. -/
theorem reached_of_mem_explore {set : SchemaSet} {seen : List ExpandedName}
    {heads : List (Head τ)} {offer : Offer τ}
    (isFound : offer ∈ set.explore seen heads) :
    ∃ head ∈ heads, head.mark = offer.mark ∧
      set.ReplacesThrough (· ∉ seen) head.name offer.name := by
  have ofFresh : ∀ {seen : List ExpandedName} {heads : List (Head τ)} {offer : Offer τ},
      offer ∈ Offer.fresh seen (heads.flatMap set.offers) →
        ∃ head ∈ heads, head.mark = offer.mark ∧ set.Replaces head.name offer.name := by
    intro seen heads offer isFresh
    have isOffer := (Offer.fresh_sublist _ seen).subset isFresh
    obtain ⟨head, isHead, ofHead⟩ := List.mem_flatMap.mp isOffer
    have ⟨replaces, sameMark⟩ := replaces_of_mem_offers ofHead
    exact ⟨head, isHead, sameMark.symm, replaces⟩
  induction seen, heads using explore.induct set with
  | case1 seen heads empty =>
      rw [explore_eq_nil _ _ _ empty] at isFound
      cases isFound
  | case2 seen heads first rest offered next induction =>
      rw [explore_eq_append _ _ _ offered] at isFound
      rcases List.mem_append.mp isFound with isNext | isLater
      · obtain ⟨head, isHead, sameMark, replaces⟩ := ofFresh (offered ▸ isNext)
        exact ⟨head, isHead, sameMark, .step replaces⟩
      · obtain ⟨_, isNextHead, sameMark, reached⟩ := induction isLater
        obtain ⟨middle, isNext, rfl⟩ := List.mem_map.mp isNextHead
        have isFresh : middle ∈ Offer.fresh seen (heads.flatMap set.offers) := by
          rw [offered]
          exact isNext
        obtain ⟨head, isHead, sameMiddle, replaces⟩ := ofFresh isFresh
        refine ⟨head, isHead, sameMiddle.trans sameMark, ?_⟩
        apply ReplacesThrough.after replaces (Offer.not_mem_seen_of_mem_fresh isFresh)
        exact reached.mono fun name new old => new (List.mem_append_left _ old)

def Known (set : SchemaSet) (seen : List ExpandedName) (heads : List (Head τ))
    (name : ExpandedName) : Prop :=
  name ∈ seen ∨ name ∈ (set.explore seen heads).map Offer.name

/-- Nothing is left out: all that replaces a head, or replaces something found, is
known in the end. -/
theorem known_of_replaces (set : SchemaSet) (seen : List ExpandedName)
    (heads : List (Head τ)) :
    (∀ head ∈ heads, ∀ name, set.Replaces head.name name →
        set.Known seen heads name) ∧
      ∀ offer ∈ set.explore seen heads, ∀ name, set.Replaces offer.name name →
        set.Known seen heads name := by
  have ofHead : ∀ (seen : List ExpandedName) (heads : List (Head τ)),
      ∀ head ∈ heads, ∀ name, set.Replaces head.name name → name ∈ seen ∨
        name ∈ (Offer.fresh seen (heads.flatMap set.offers)).map Offer.name := by
    intro seen heads head isHead name replaces
    obtain ⟨offer, isOffer, rfl⟩ := exists_offer_of_replaces replaces
    exact Offer.name_mem_of_mem seen (List.mem_flatMap.mpr ⟨head, isHead, isOffer⟩)
  induction seen, heads using explore.induct set with
  | case1 seen heads empty =>
      unfold Known
      rw [explore_eq_nil _ _ _ empty]
      constructor
      · intro head isHead name replaces
        exact empty ▸ ofHead seen heads head isHead name replaces
      · intro offer isFound
        cases isFound
  | case2 seen heads first rest offered next induction =>
      obtain ⟨ofNext, ofLater⟩ := induction
      have widen : ∀ name, set.Known (seen ++ next.map Offer.name) (next.map Offer.head)
          name → set.Known seen heads name := by
        intro name known
        unfold Known at known ⊢
        rw [explore_eq_append _ _ _ offered, List.map_append]
        rcases known with known | later
        · rcases List.mem_append.mp known with old | isNext
          · exact .inl old
          · exact .inr (List.mem_append_left _ isNext)
        · exact .inr (List.mem_append_right _ later)
      constructor
      · intro head isHead name replaces
        apply widen
        have known := ofHead seen heads head isHead name replaces
        rw [offered] at known
        exact .inl (List.mem_append.mpr known)
      · intro offer isFound name replaces
        apply widen
        rw [explore_eq_append _ _ _ offered] at isFound
        rcases List.mem_append.mp isFound with isNext | isLater
        · exact ofNext offer.head (List.mem_map_of_mem isNext) name replaces
        · exact ofLater offer isLater name replaces

end SchemaSet

/-! ## The worklist -/

/-- A state of the search for substitutes: the names seen, the members whose
substitutes are still to be found, first in first out, and the members found. -/
structure Worklist where
  seen : List ExpandedName
  queue : List Member
  found : List Member

theorem length_add_unseen_le {α : Type} [DecidableEq α] {candidates seen new : List α}
    (distinct : new.Nodup) (areCandidates : ∀ value ∈ new, value ∈ candidates)
    (areFresh : ∀ value ∈ new, value ∉ seen) :
    new.length + unseen candidates (seen ++ new) ≤ unseen candidates seen := by
  induction new generalizing seen with
  | nil => simp
  | cons first rest induction =>
      have ⟨firstOnce, restDistinct⟩ := List.nodup_cons.mp distinct
      have fewer : unseen candidates (seen ++ [first]) < unseen candidates seen :=
        unseen_lt (fun _ => List.mem_append_left _) (areCandidates first List.mem_cons_self)
          (areFresh first List.mem_cons_self) (List.mem_append_right _ List.mem_cons_self)
      have restFresh : ∀ value ∈ rest, value ∉ seen ++ [first] := by
        intro value isNew old
        rcases List.mem_append.mp old with old | same
        · exact areFresh value (List.mem_cons_of_mem _ isNew) old
        · exact firstOnce (List.mem_singleton.mp same ▸ isNew)
      have later := induction restDistinct
        (fun value isNew => areCandidates value (List.mem_cons_of_mem _ isNew)) restFresh
      rw [List.append_assoc, List.singleton_append] at later
      rw [List.length_cons]
      omega

theorem Scope.nextLayer_nodup (scope : Scope) {seen : List ExpandedName}
    {layer next : List Member} (made : scope.nextLayer seen layer = .ok next) :
    (next.map (·.name)).Nodup := by
  rw [nextLayer_eq_mapM] at made
  rw [names_of_mapM made]
  exact Offer.nodup_fresh _ seen

theorem Scope.nextLayer_names (scope : Scope) {seen : List ExpandedName}
    {layer next : List Member} (made : scope.nextLayer seen layer = .ok next) :
    ∀ name ∈ next.map (·.name),
      name ∈ scope.set.elements.map (·.name) ∧ name ∉ seen := by
  intro name isNext
  obtain ⟨member, isMember, rfl⟩ := List.mem_map.mp isNext
  exact mem_of_nextLayer made isMember

namespace Worklist

def start (direct : List Member) : Worklist :=
  ⟨direct.map (·.name), direct, []⟩

/-- The outcome of the search after at most so many members have been taken off
the queue; none if some are left then. -/
def run (scope : Scope) : Nat → Worklist → Option (Except SchemaError (List Member))
  | _, ⟨_, [], found⟩ => some (.ok found)
  | 0, ⟨_, _ :: _, _⟩ => none
  | steps + 1, ⟨seen, head :: queue, found⟩ =>
    match scope.substitutesOf seen head with
    | .error fault => some (.error fault)
    | .ok more => run scope steps ⟨seen ++ more.map (·.name), queue ++ more, found ++ more⟩

/-- Taking the members of a layer off the queue leaves the next layer behind what
waited behind this one. -/
private theorem run_layer (scope : Scope) (layer : List Member) :
    ∀ (seen : List ExpandedName) (waiting found : List Member) (steps : Nat),
      run scope (layer.length + steps) ⟨seen, layer ++ waiting, found⟩ =
        match scope.nextLayer seen layer with
        | .error fault => some (.error fault)
        | .ok next =>
          run scope steps
            ⟨seen ++ next.map Member.name, waiting ++ next, found ++ next⟩ := by
  induction layer with
  | nil =>
      intro seen waiting found steps
      rw [Scope.nextLayer]
      simp [pure, Except.pure]
  | cons head rest induction =>
      intro seen waiting found steps
      rw [List.length_cons, Nat.succ_add, List.cons_append, run, Scope.nextLayer]
      cases ofHead : scope.substitutesOf seen head with
      | error fault => rfl
      | ok more =>
          change run scope (rest.length + steps) _ = _
          rw [List.append_assoc, induction]
          cases ofRest : scope.nextLayer (seen ++ more.map Member.name) rest with
          | error fault => simp only [bind, Except.bind, ofRest]
          | ok others =>
              simp only [bind, Except.bind, pure, Except.pure, ofRest, List.map_append,
                List.append_assoc]

/-- A search that is allowed one step for each member that waits and for each
element that has not been seen ends, with what spreading finds. -/
private theorem run_spread (scope : Scope) (seen : List ExpandedName)
    (layer : List Member) :
    ∀ (found : List Member) (steps : Nat),
      layer.length + unseen (scope.set.elements.map (·.name)) seen ≤ steps →
        run scope steps ⟨seen, layer, found⟩ =
          some ((found ++ ·) <$> scope.spread seen layer) := by
  induction seen, layer using Scope.spread.induct scope with
  | case1 seen layer fault failed =>
      intro found steps enough
      obtain ⟨rest, rfl⟩ := Nat.exists_eq_add_of_le (Nat.le_of_add_right_le enough)
      have ran := run_layer scope layer seen [] found rest
      rw [List.append_nil, failed] at ran
      rw [ran, Scope.spread_eq_bind, failed]
      rfl
  | case2 seen layer empty =>
      intro found steps enough
      obtain ⟨rest, rfl⟩ := Nat.exists_eq_add_of_le (Nat.le_of_add_right_le enough)
      have ran := run_layer scope layer seen [] found rest
      rw [List.append_nil, empty] at ran
      rw [ran, Scope.spread_eq_bind, empty]
      change run scope rest ⟨seen ++ [], [], found ++ []⟩ =
        some ((found ++ ·) <$> do return [] ++ (← scope.spread (seen ++ []) []))
      rw [run, Scope.spread_nil]
      rfl
  | case3 seen layer first others made next induction =>
      intro found steps enough
      obtain ⟨rest, rfl⟩ := Nat.exists_eq_add_of_le (Nat.le_of_add_right_le enough)
      have ran := run_layer scope layer seen [] found rest
      rw [List.append_nil, made] at ran
      -- Each member of the next layer is an element less that has not been seen,
      -- which pays for the step that takes it off the queue.
      have fewer : (next.map (·.name)).length +
          unseen (scope.set.elements.map (·.name)) (seen ++ next.map (·.name)) ≤
            unseen (scope.set.elements.map (·.name)) seen :=
        length_add_unseen_le (scope.nextLayer_nodup made)
          (fun name isNext => (scope.nextLayer_names made name isNext).1)
          (fun name isNext => (scope.nextLayer_names made name isNext).2)
      rw [List.length_map] at fewer
      have later := induction (found ++ next) rest (by omega)
      rw [ran, Scope.spread_eq_bind, made]
      change run scope rest ⟨seen ++ next.map Member.name, next, found ++ next⟩ =
        some ((found ++ ·) <$> do
          return next ++ (← scope.spread (seen ++ next.map Member.name) next))
      rw [later]
      cases scope.spread (seen ++ next.map Member.name) next with
      | error fault => rfl
      | ok members => simp

end Worklist

/-! ## The closure -/

/-- A path may lead through a name unless it is that of direct members none of
which can be replaced. -/
def Passable (direct : List Member) (name : ExpandedName) : Prop :=
  name ∈ direct.map (·.name) →
    ∃ member ∈ direct, member.name = name ∧ member.reference.isSome

namespace Scope

theorem names_of_expand {scope : Scope} {direct found : List Member}
    (expanded : scope.expand direct = .ok found) :
    found.map (·.name) =
      (scope.set.explore (direct.map (·.name)) (heads (withBounds direct))).map
        Offer.name := by
  rw [expand, spread_eq_mapM] at expanded
  exact names_of_mapM expanded

/-- Each substitute has the bounds of a direct reference that it replaces. -/
theorem exists_head_of_mem_expand {scope : Scope} {direct found : List Member}
    (expanded : scope.expand direct = .ok found) {member : Member}
    (isFound : member ∈ found) :
    ∃ head ∈ direct, head.reference.isSome ∧ head.occurrence = member.occurrence ∧
      scope.set.ReplacesThrough (· ∉ direct.map (·.name)) head.name member.name := by
  rw [expand, spread_eq_mapM] at expanded
  obtain ⟨offer, isOffer, made⟩ := exists_of_mem_of_mapM_eq_ok expanded member isFound
  obtain ⟨sameName, sameBounds, _⟩ := of_standIn made
  obtain ⟨_, isHead, sameMark, reached⟩ := SchemaSet.reached_of_mem_explore isOffer
  obtain ⟨entry, isEntry, hasReference, rfl⟩ := mem_heads.mp isHead
  obtain ⟨head, isDirect, rfl⟩ := List.mem_map.mp isEntry
  exact ⟨head, isDirect, hasReference, sameMark.trans sameBounds.symm, sameName ▸ reached⟩

/-- What a path from a direct reference leads to is direct or found: each name that
the path passes is one whose substitutes are looked up. -/
private theorem known_of_reached {scope : Scope} {direct : List Member} {head : Member}
    (isHead : head ∈ direct) (hasReference : head.reference.isSome) {name : ExpandedName}
    (reached : scope.set.ReplacesThrough (Passable direct) head.name name) :
    scope.set.Known (direct.map (·.name)) (heads (withBounds direct)) name := by
  have ⟨ofHeads, ofFound⟩ := scope.set.known_of_replaces (direct.map (·.name))
    (heads (withBounds direct))
  have ofMember : ∀ member ∈ direct, member.reference.isSome → ∀ name,
      scope.set.Replaces member.name name →
        scope.set.Known (direct.map (·.name)) (heads (withBounds direct)) name := by
    intro member isMember isReference name replaces
    have marked : (member, member.occurrence) ∈ withBounds direct :=
      List.mem_map.mpr ⟨member, isMember, rfl⟩
    exact ofHeads ⟨member.name, member.occurrence⟩
      (mem_heads.mpr ⟨_, marked, isReference, rfl⟩) name replaces
  induction reached with
  | step replaces => exact ofMember head isHead hasReference _ replaces
  | via _ passes replaces induction =>
      rcases induction with isDirect | isFound
      · obtain ⟨member, isMember, rfl, isReference⟩ := passes isDirect
        exact ofMember member isMember isReference _ replaces
      · obtain ⟨offer, isOffer, rfl⟩ := List.mem_map.mp isFound
        exact ofFound offer isOffer _ replaces

theorem mem_of_reached {scope : Scope} {direct found : List Member}
    (expanded : scope.expand direct = .ok found) {head : Member} (isHead : head ∈ direct)
    (hasReference : head.reference.isSome) {name : ExpandedName}
    (reached : scope.set.ReplacesThrough (Passable direct) head.name name) :
    name ∈ direct.map (·.name) ∨ name ∈ found.map (·.name) := by
  rw [names_of_expand expanded]
  exact known_of_reached isHead hasReference reached

/-- The search for substitutes ends after at most one step for each direct member
and each declared element. If it succeeds, it has found, once each, the names that
are not those of direct members and that a path leads to from a direct
reference. -/
theorem expand_finds_reachable (scope : Scope) (direct : List Member) :
    Worklist.run scope (direct.length + scope.set.elements.length) (.start direct) =
        some (scope.expand direct) ∧
      ∀ found, scope.expand direct = .ok found →
        (found.map (·.name)).Nodup ∧
          ∀ name, name ∈ found.map (·.name) ↔
            name ∉ direct.map (·.name) ∧
              ∃ head ∈ direct, head.reference.isSome ∧
                scope.set.ReplacesThrough (Passable direct) head.name name := by
  constructor
  · have atMostAll : unseen (scope.set.elements.map (·.name)) (direct.map (·.name)) ≤
        scope.set.elements.length := by
      rw [← List.length_map (·.name)]
      exact List.countP_le_length
    rw [Worklist.start, Worklist.run_spread scope _ direct [] _ (by omega), expand]
    cases scope.spread (direct.map (·.name)) direct <;> rfl
  · intro found expanded
    obtain ⟨distinctNames, areFresh⟩ := scope.set.nodup_explore (direct.map (·.name))
      (heads (withBounds direct))
    rw [names_of_expand expanded]
    refine ⟨distinctNames, fun name => ⟨?_, ?_⟩⟩
    · intro isFound
      obtain ⟨offer, isOffer, rfl⟩ := List.mem_map.mp isFound
      refine ⟨areFresh offer isOffer, ?_⟩
      obtain ⟨_, isHead, _, reached⟩ := SchemaSet.reached_of_mem_explore isOffer
      obtain ⟨entry, isEntry, hasReference, rfl⟩ := mem_heads.mp isHead
      obtain ⟨member, isMember, rfl⟩ := List.mem_map.mp isEntry
      refine ⟨member, isMember, hasReference, reached.mono ?_⟩
      exact fun name notDirect isDirect => absurd isDirect notDirect
    · rintro ⟨notDirect, head, isHead, hasReference, reached⟩
      exact (known_of_reached isHead hasReference reached).resolve_left notDirect

end Scope

/-! ### A ring of substitution groups

Elements that list each other, one of them twice, and a third one behind them. -/

namespace Ring

def name (localName : String) : ExpandedName :=
  ⟨some "urn:t", localName⟩

def reference (localName : String) : Reference :=
  ⟨some "t", localName⟩

def declaration (localName : String) (typeName : Option Reference)
    (heads : List Reference) : ElementDeclaration :=
  ⟨.named localName, typeName, none, heads, .unstated, none⟩

def schema : Schema where
  location := none
  targetNamespace := some "urn:t"
  elementForm := .unqualified
  bindings := .ofList [(some "t", "urn:t"), (some "xs", schemaNamespace)]
  directives := []
  elements := [
    declaration "A" (some ⟨some "xs", "string"⟩) [reference "B"],
    declaration "B" none [reference "A", reference "A"],
    declaration "C" none [reference "B"]]
  complexTypes := []
  simpleTypes := []

def set : SchemaSet where
  schemas := [schema]
  affiliated := by
    intro member isMember
    obtain rfl := List.mem_singleton.mp isMember
    exact ⟨[[name "B"], [name "A", name "A"], [name "B"]], by decide +kernel⟩

def scope : Scope :=
  ⟨set, schema, .outside⟩

def member (localName : String) : Member :=
  ⟨name localName, some (reference localName), .builtin ⟨some schemaNamespace, "string"⟩,
    .unstated, .outside⟩

theorem expand_finds_ring :
    scope.expand [member "A"] = .ok [member "B", member "C"] ∧
      set.ReplacesThrough (Passable [member "A"]) (name "A") (name "C") := by
  have expanded : scope.expand [member "A"] = .ok [member "B", member "C"] := by
    decide +kernel
  have ⟨_, found⟩ := (Scope.expand_finds_reachable scope [member "A"]).2 _ expanded
  obtain ⟨_, head, isHead, _, reached⟩ := (found (name "C")).mp (by decide +kernel)
  obtain rfl := List.mem_singleton.mp isHead
  exact ⟨expanded, reached⟩

end Ring

end SchemaContent
