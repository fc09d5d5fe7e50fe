import SchemaContent.Proofs.RegistrationOrder
import SchemaContent.Proofs.SubstitutionClosure

/-! # The nearest head

A substitute takes its bounds over from one direct reference. Of all from which it can
be reached this is the one in the fewest steps, and of several that are as near the
first. Steps are counted on paths, and which paths there are depends on which elements
replace which, but not on the order in which a schema set lists them. -/

namespace SchemaContent

/-! ## Steps -/

/-- One name replaces another in so many steps, all names between them being
passable. -/
inductive SchemaSet.ReplacesIn (set : SchemaSet) (passable : ExpandedName → Prop) :
    Nat → ExpandedName → ExpandedName → Prop
  | one {head name : ExpandedName} (replaces : set.Replaces head name) :
      ReplacesIn set passable 1 head name
  | more {steps : Nat} {head middle name : ExpandedName} (replaces : set.Replaces head middle)
      (passes : passable middle) (rest : ReplacesIn set passable steps middle name) :
      ReplacesIn set passable (steps + 1) head name

/-- A head at this distance and of this rank counts before another one: it is nearer,
or it is as near and its rank is not greater. -/
def Sooner (steps rank otherSteps otherRank : Nat) : Prop :=
  steps < otherSteps ∨ steps = otherSteps ∧ rank ≤ otherRank

namespace SchemaSet

variable {set other : SchemaSet} {passable easier stricter starts : ExpandedName → Prop}
  {steps : Nat} {head name : ExpandedName}

namespace ReplacesIn

theorem positive (reached : set.ReplacesIn passable steps head name) : 0 < steps := by
  cases reached <;> omega

theorem mono (allows : ∀ name, passable name → easier name)
    (reached : set.ReplacesIn passable steps head name) :
    set.ReplacesIn easier steps head name := by
  induction reached with
  | one replaces => exact .one replaces
  | more replaces passes _ induction => exact .more replaces (allows _ passes) induction

theorem through (reached : set.ReplacesIn passable steps head name) :
    set.ReplacesThrough passable head name := by
  induction reached with
  | one replaces => exact .step replaces
  | more replaces passes _ induction => exact .after replaces passes induction

/-- Paths are the same in sets in which the same elements replace each other. -/
theorem of_replaces (same : ∀ head name, set.Replaces head name → other.Replaces head name)
    (reached : set.ReplacesIn passable steps head name) :
    other.ReplacesIn passable steps head name := by
  induction reached with
  | one replaces => exact .one (same _ _ replaces)
  | more replaces passes _ induction => exact .more (same _ _ replaces) passes induction

/-- A path may pass names from which one could have started as well. From the last of
these there is a shorter path, which passes none of them. -/
theorem restart (split : ∀ name, passable name → stricter name ∨ starts name)
    (reached : set.ReplacesIn passable steps head name) :
    set.ReplacesIn stricter steps head name ∨
      ∃ start fewer, starts start ∧ fewer < steps ∧
        set.ReplacesIn stricter fewer start name := by
  induction reached with
  | one replaces => exact .inl (.one replaces)
  | @more steps head middle name replaces passes _ induction =>
      rcases induction with fromMiddle | ⟨start, fewer, isStart, isLess, fromStart⟩
      · rcases split middle passes with isStrict | isStart
        · exact .inl (.more replaces isStrict fromMiddle)
        · exact .inr ⟨middle, steps, isStart, Nat.lt_succ_self _, fromMiddle⟩
      · exact .inr ⟨start, fewer, isStart, by omega, fromStart⟩

end ReplacesIn

/-! ## Exploration

Heads are marked with their ranks. By induction on the layers: what is offered afresh
is one step away from its head, and what is found from there one step more. -/

/-- The offer is found in so many steps from a head of its rank, and no other head
counts before that. -/
structure FoundIn (set : SchemaSet) (seen : List ExpandedName) (heads : List (Head Nat))
    (offer : Offer Nat) (steps : Nat) : Prop where
  reached : ∃ head ∈ heads, head.mark = offer.mark ∧
    set.ReplacesIn (· ∉ seen) steps head.name offer.name
  soonest : ∀ rival ∈ heads, ∀ rivalSteps,
    set.ReplacesIn (· ∉ seen) rivalSteps rival.name offer.name →
      Sooner steps offer.mark rivalSteps rival.mark

variable {seen : List ExpandedName} {heads : List (Head Nat)} {offer : Offer Nat}

/-- What replaces a head has been seen, or it is offered afresh, and not from a head of
greater rank. -/
theorem exists_fresh_of_replaces (seen : List ExpandedName) (ranked : Head.Ranked heads)
    {head : Head Nat} (isHead : head ∈ heads) (replaces : set.Replaces head.name name) :
    name ∈ seen ∨ ∃ offer ∈ Offer.fresh seen (heads.flatMap set.offers),
      offer.name = name ∧ offer.mark ≤ head.mark := by
  rcases exists_offer_of_replaces replaces with ⟨rival, ofHead, rfl⟩
  have isRival : rival ∈ heads.flatMap set.offers :=
    List.mem_flatMap.mpr ⟨head, isHead, ofHead⟩
  rcases Offer.name_mem_of_mem seen isRival with old | isFresh
  · exact .inl old
  · have ⟨offer, isOffer, sameName⟩ := List.mem_map.mp isFresh
    have least := Offer.mark_le_of_mem_fresh (ranked_offers ranked) isOffer rival isRival
      sameName.symm
    exact .inr ⟨offer, isOffer, sameName, mark_of_mem_offers ofHead ▸ least⟩

theorem exists_head_of_mem_fresh (isFresh : offer ∈ Offer.fresh seen (heads.flatMap set.offers)) :
    ∃ head ∈ heads, head.mark = offer.mark ∧ set.Replaces head.name offer.name := by
  have ⟨head, isHead, ofHead⟩ := List.mem_flatMap.mp ((Offer.fresh_sublist _ seen).subset isFresh)
  have ⟨replaces, sameMark⟩ := replaces_of_mem_offers ofHead
  exact ⟨head, isHead, sameMark.symm, replaces⟩

theorem foundIn_one (ranked : Head.Ranked heads)
    (isFresh : offer ∈ Offer.fresh seen (heads.flatMap set.offers)) :
    set.FoundIn seen heads offer 1 where
  reached := by
    have ⟨head, isHead, sameMark, replaces⟩ := exists_head_of_mem_fresh isFresh
    exact ⟨head, isHead, sameMark, .one replaces⟩
  soonest rival isRival rivalSteps reached := by
    cases reached with
    | one replaces =>
        have ⟨peer, ofRival, sameName⟩ := exists_offer_of_replaces replaces
        have isPeer : peer ∈ heads.flatMap set.offers :=
          List.mem_flatMap.mpr ⟨rival, isRival, ofRival⟩
        have least := Offer.mark_le_of_mem_fresh (ranked_offers ranked) isFresh peer isPeer
          sameName
        exact .inr ⟨rfl, mark_of_mem_offers ofRival ▸ least⟩
    | more _ _ rest =>
        have := rest.positive
        exact .inl (by omega)

/-- What is found in some steps from the next layer is found in one step more from the
heads before it. -/
theorem FoundIn.succ (ranked : Head.Ranked heads) {next : List (Offer Nat)}
    (offered : Offer.fresh seen (heads.flatMap set.offers) = next)
    (isNew : offer.name ∉ seen ++ next.map Offer.name)
    (found : set.FoundIn (seen ++ next.map Offer.name) (next.map Offer.head) offer steps) :
    set.FoundIn seen heads offer (steps + 1) where
  reached := by
    have ⟨_, isNextHead, sameMark, reached⟩ := found.reached
    rcases List.mem_map.mp isNextHead with ⟨middle, isNext, rfl⟩
    rw [← offered] at isNext
    have ⟨head, isHead, sameMiddle, replaces⟩ := exists_head_of_mem_fresh isNext
    refine ⟨head, isHead, sameMiddle.trans sameMark, .more replaces ?_ ?_⟩
    · exact Offer.not_mem_seen_of_mem_fresh isNext
    · exact reached.mono fun name new old => new (List.mem_append_left _ old)
  soonest rival isRival rivalSteps reached := by
    rw [List.mem_append, not_or] at isNew
    -- The first name on the rival's path is in the next layer, and not of a greater rank.
    cases reached with
    | one replaces =>
        rcases exists_fresh_of_replaces seen ranked isRival replaces with
          old | ⟨peer, isPeer, sameName, _⟩
        · exact absurd old isNew.1
        · rw [offered] at isPeer
          exact absurd (sameName ▸ List.mem_map_of_mem isPeer) isNew.2
    | @more rest _ middle _ replaces passes fromMiddle =>
        rcases exists_fresh_of_replaces seen ranked isRival replaces with
          old | ⟨first, isFirst, rfl, notGreater⟩
        · exact absurd old passes
        rw [offered] at isFirst
        have split : ∀ name, name ∉ seen → name ∉ seen ++ next.map Offer.name ∨
            name ∈ next.map Offer.name := by
          intro name isUnseen
          rw [List.mem_append, not_or]
          by_cases isNext : name ∈ next.map Offer.name
          · exact .inr isNext
          · exact .inl ⟨isUnseen, isNext⟩
        rcases fromMiddle.restart split with direct | ⟨_, fewer, isStart, isLess, fromStart⟩
        · have sooner : Sooner steps offer.mark rest first.mark :=
            found.soonest _ (List.mem_map_of_mem isFirst) _ direct
          unfold Sooner at *
          omega
        · rcases List.mem_map.mp isStart with ⟨start, isNext, rfl⟩
          have sooner := found.soonest _ (List.mem_map_of_mem isNext) _ fromStart
          unfold Sooner at *
          omega

theorem exists_foundIn_of_mem_explore (set : SchemaSet) (seen : List ExpandedName)
    (heads : List (Head Nat)) (ranked : Head.Ranked heads) :
    ∀ offer ∈ set.explore seen heads, ∃ steps, set.FoundIn seen heads offer steps := by
  induction seen, heads using explore.induct set with
  | case1 seen heads empty =>
      intro offer isFound
      rw [explore_eq_nil _ _ _ empty] at isFound
      cases isFound
  | case2 seen heads first rest offered next induction =>
      intro offer isFound
      rw [explore_eq_append _ _ _ offered] at isFound
      rcases List.mem_append.mp isFound with isNext | isLater
      · exact ⟨1, foundIn_one ranked (offered ▸ isNext)⟩
      · have rankedNext := ranked_fresh set ranked seen
        rw [offered] at rankedNext
        rcases induction rankedNext offer isLater with ⟨steps, found⟩
        have isNew := (set.nodup_explore _ _).2 offer isLater
        exact ⟨steps + 1, found.succ ranked offered isNew⟩

/-! ## Direct references -/

/-- The direct member at this position is a reference from which the name is reached in
so many steps. No other reference is nearer, and none before it is as near. -/
structure IsNearest (set : SchemaSet) (direct : List Member) (name : ExpandedName)
    (position steps : Nat) (head : Member) : Prop where
  isDirect : direct[position]? = some head
  isReference : head.reference.isSome
  reaches : set.ReplacesIn (Passable direct) steps head.name name
  soonest : ∀ otherPosition otherSteps other, direct[otherPosition]? = some other →
    other.reference.isSome → set.ReplacesIn (Passable direct) otherSteps other.name name →
      Sooner steps position otherSteps otherPosition

variable {direct : List Member}

theorem IsNearest.eq {position steps otherPosition otherSteps : Nat} {head peer : Member}
    (nearest : set.IsNearest direct name position steps head)
    (same : set.IsNearest direct name otherPosition otherSteps peer) : head = peer := by
  have before := nearest.soonest _ _ _ same.isDirect same.isReference same.reaches
  have after := same.soonest _ _ _ nearest.isDirect nearest.isReference nearest.reaches
  have samePosition : position = otherPosition := by
    unfold Sooner at before after
    omega
  subst samePosition
  exact Option.some.inj (nearest.isDirect.symm.trans same.isDirect)

theorem IsNearest.of_replaces {position : Nat} {head : Member}
    (same : ∀ head name, other.Replaces head name ↔ set.Replaces head name)
    (nearest : set.IsNearest direct name position steps head) :
    other.IsNearest direct name position steps head where
  isDirect := nearest.isDirect
  isReference := nearest.isReference
  reaches := nearest.reaches.of_replaces fun head name => (same head name).mpr
  soonest otherPosition otherSteps peer isPeer isReference reaches :=
    nearest.soonest otherPosition otherSteps peer isPeer isReference
      (reaches.of_replaces fun head name => (same head name).mp)

theorem mem_heads_zipIdx {head : Head Nat} :
    head ∈ SchemaContent.heads direct.zipIdx ↔
      ∃ member, direct[head.mark]? = some member ∧ member.reference.isSome ∧
        member.name = head.name := by
  rw [mem_heads]
  constructor
  · rintro ⟨entry, isEntry, isReference, rfl⟩
    exact ⟨entry.1, List.mem_zipIdx_iff_getElem?.mp isEntry, isReference, rfl⟩
  · rintro ⟨member, isMember, isReference, sameName⟩
    refine ⟨(member, head.mark), List.mem_zipIdx_iff_getElem?.mpr isMember, isReference, ?_⟩
    rw [sameName]

/-- A path that passes direct references does not count before those that start from
them. So the head from which exploring finds a name is the nearest one. -/
theorem FoundIn.isNearest
    (found : set.FoundIn (direct.map (·.name)) (SchemaContent.heads direct.zipIdx) offer steps) :
    ∃ head, set.IsNearest direct offer.name offer.mark steps head := by
  rcases found.reached with ⟨⟨headName, mark⟩, isHead, rfl, reached⟩
  rcases mem_heads_zipIdx.mp isHead with ⟨head, isDirect, isReference, rfl⟩
  refine ⟨head, isDirect, isReference, ?_, ?_⟩
  · exact reached.mono fun name notDirect isDirect => absurd isDirect notDirect
  · intro otherPosition otherSteps other isOther otherReference otherReached
    have split : ∀ name, Passable direct name → name ∉ direct.map (·.name) ∨
        ∃ member ∈ direct, member.name = name ∧ member.reference.isSome := by
      intro name passes
      by_cases isDirect : name ∈ direct.map (·.name)
      · exact .inr (passes isDirect)
      · exact .inl isDirect
    rcases otherReached.restart split with
      aside | ⟨_, fewer, ⟨start, isStart, rfl, startReference⟩, isLess, fromStart⟩
    · exact found.soonest ⟨other.name, otherPosition⟩
        (mem_heads_zipIdx.mpr ⟨other, isOther, otherReference, rfl⟩) _ aside
    · have ⟨position, isAt⟩ := List.mem_iff_getElem?.mp isStart
      have sooner := found.soonest ⟨start.name, position⟩
        (mem_heads_zipIdx.mpr ⟨start, isAt, startReference, rfl⟩) _ fromStart
      unfold Sooner at *
      omega

end SchemaSet

namespace Scope

theorem exists_nearest_of_mem_expand {scope : Scope} {direct found : List Member}
    (expanded : scope.expand direct = .ok found) {member : Member} (isFound : member ∈ found) :
    ∃ position steps head, scope.set.IsNearest direct member.name position steps head ∧
      member.occurrence = head.occurrence := by
  rw [expand_eq_mapM_ranked] at expanded
  have ⟨_, isMarked, standsIn⟩ := exists_of_mem_of_mapM_eq_ok expanded member isFound
  rcases List.mem_map.mp isMarked with ⟨offer, isOffer, rfl⟩
  have ⟨sameName, sameBounds, _⟩ := of_standIn standsIn
  have ⟨steps, foundIn⟩ :=
    scope.set.exists_foundIn_of_mem_explore _ _ (ranked_heads direct) offer isOffer
  have ⟨head, nearest⟩ := foundIn.isNearest
  refine ⟨offer.mark, steps, head, sameName ▸ nearest, ?_⟩
  rw [sameBounds]
  simp only [Offer.map, boundsAt, nearest.isDirect, Option.map_some, Option.getD_some]

/-- Each substitute has the bounds of one direct reference: of those from which a path
leads to it, the one with the shortest path, and the first of these. A path does not
lead through a name that only direct members have which are no references. So the
bounds are the same in all sets in which the same elements replace each other, in
whatever order they are listed. -/
theorem bounds_of_nearest {scope : Scope} {direct found : List Member}
    (expanded : scope.expand direct = .ok found) :
    (∀ member ∈ found, ∃ position steps head,
      scope.set.IsNearest direct member.name position steps head ∧
        member.occurrence = head.occurrence) ∧
      ∀ (other : Scope) (peers : List Member),
        (∀ head name, other.set.Replaces head name ↔ scope.set.Replaces head name) →
          other.expand direct = .ok peers →
            ∀ member ∈ found, ∃ peer ∈ peers,
              peer.name = member.name ∧ peer.occurrence = member.occurrence := by
  refine ⟨fun member isFound => exists_nearest_of_mem_expand expanded isFound, ?_⟩
  intro other peers same otherExpanded member isFound
  have ⟨position, steps, head, nearest, sameBounds⟩ := exists_nearest_of_mem_expand expanded isFound
  have otherNearest := nearest.of_replaces same
  have notDirect := ((scope.expand_finds_reachable direct).2 found expanded).2 member.name
    |>.mp (List.mem_map_of_mem isFound) |>.1
  have isPeer := mem_of_reached otherExpanded
    (List.mem_of_getElem? otherNearest.isDirect) otherNearest.isReference
    otherNearest.reaches.through
  have ⟨peer, isPeer, sameName⟩ := List.mem_map.mp (isPeer.resolve_left notDirect)
  have ⟨_, _, peerHead, peerNearest, peerBounds⟩ :=
    exists_nearest_of_mem_expand otherExpanded isPeer
  rw [sameName] at peerNearest
  exact ⟨peer, isPeer, sameName, by rw [peerBounds, sameBounds, peerNearest.eq otherNearest]⟩

end Scope

/-! ### Colours

Colours that stand in for others, on paths of different lengths. One of the colours is also
the name of an element that is declared in place. -/

theorem SchemaSet.Rearranged.replaces_iff {set other : SchemaSet} (same : set.Rearranged other)
    (head name : ExpandedName) : set.Replaces head name ↔ other.Replaces head name := by
  have ofNames : ∀ some : SchemaSet, some.Replaces head name ↔
      name ∈ ((some.replacements head).map (Component.placed 0)).map (·.name) := by
    intro some
    simp [Replaces, replacements, and_assoc, and_comm]
  rw [ofNames, ofNames]
  exact ((same.replacements_perm head).map _).mem_iff

namespace Colours

def name (localName : String) : ExpandedName :=
  ⟨none, localName⟩

def declaration (localName : String) (heads : List String) : ElementDeclaration :=
  ⟨.named localName, none, none, heads.map (⟨none, ·⟩), .unstated, none⟩

def schema (elements : List ElementDeclaration) : Schema where
  location := none
  targetNamespace := none
  elementForm := .unqualified
  bindings := .ofList []
  directives := []
  elements := elements
  complexTypes := []
  simpleTypes := []

def paints : Schema :=
  schema [declaration "Red" [], declaration "Blue" [], declaration "Gold" ["Red"],
    declaration "Pale" ["Red"]]

def tints : Schema :=
  schema [declaration "Teal" ["Blue", "Red"], declaration "Mint" ["Pale", "Blue"],
    declaration "Leaf" ["Gold", "Mint"]]

def painted : SchemaSet where
  schemas := [paints, tints]
  affiliated := by decide +kernel

def tinted : SchemaSet where
  schemas := [tints, paints]
  affiliated := by decide +kernel

def few : Occurrence := ⟨some 2, some (.count 3)⟩

def many : Occurrence := ⟨some 0, some .unbounded⟩

def member (localName : String) (occurrence : Occurrence) : Member :=
  ⟨name localName, some ⟨none, localName⟩, .builtin anyType, occurrence, .outside⟩

def direct : List Member :=
  [member "Red" few, { member "Gold" .unstated with reference := none }, member "Blue" many]

def found : List Member :=
  [member "Pale" few, member "Teal" few, member "Mint" many, member "Leaf" many]

/-- The mint is as blue as it is pale, and paleness comes from the red; the leaf is golden,
but gold does not stand for a colour here. In the other order of the schemas the bounds
are the same. -/
theorem bounds_of_colours :
    Scope.expand ⟨painted, paints, .outside⟩ direct = .ok found ∧
      (∃ position steps head, painted.IsNearest direct (name "Leaf") position steps head ∧
        head.occurrence = many) ∧
      ∃ peers, Scope.expand ⟨tinted, paints, .outside⟩ direct = .ok peers ∧
        ∃ peer ∈ peers, peer.name = name "Teal" ∧ peer.occurrence = few := by
  have expanded : Scope.expand ⟨painted, paints, .outside⟩ direct = .ok found := by
    decide +kernel
  have otherExpanded : ∃ peers, Scope.expand ⟨tinted, paints, .outside⟩ direct = .ok peers :=
    ⟨[member "Teal" few, member "Pale" few, member "Mint" many, member "Leaf" many],
      by decide +kernel⟩
  have rearranged : painted.Rearranged tinted :=
    ⟨by decide +kernel, by decide +kernel, by decide +kernel⟩
  have ⟨nearest, independent⟩ := Scope.bounds_of_nearest expanded
  rcases nearest (member "Leaf" many) (by decide +kernel) with
    ⟨position, steps, head, isNearest, sameBounds⟩
  rcases otherExpanded with ⟨peers, isPeers⟩
  refine ⟨expanded, ⟨position, steps, head, isNearest, sameBounds.symm⟩, peers, isPeers, ?_⟩
  exact independent _ peers (fun head name => (rearranged.replaces_iff head name).symm) isPeers
    (member "Teal" few) (by decide +kernel)

end Colours

end SchemaContent
