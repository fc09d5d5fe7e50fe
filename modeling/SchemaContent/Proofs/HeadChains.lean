import Mathlib.Data.List.Basic
import SchemaContent.ContentModel
import SchemaContent.Proofs.ProvidedTypes

/-! # Chains of heads

From an element a chain leads to its first head, to the first head of that, and so on, through
schemas with bindings of their own and maybe round and round. The type of an element depends
on this chain alone, wherever the walk along it begins and whatever it has seen by then. -/

namespace SchemaContent

namespace SchemaSet

/-- The type that an element states: the one that is declared inside it, or else the one that
its type attribute names in its schema. -/
def statedType? (set : SchemaSet) (component : Component ElementDeclaration) :
    Option (Except SchemaError MemberType) :=
  match component.definition.anonymousType, component.definition.typeName with
  | some .simple, _ => some (.ok .anonymousSimple)
  | some (.complex _), _ => some (.ok (.anonymousComplex component.name))
  | none, some reference => some do set.namedType (← component.schema.resolve reference)
  | none, none => none

/-- The first head of an element, if it lists one. -/
def firstHead (set : SchemaSet) (component : Component ElementDeclaration) :
    Except SchemaError (Option (Component ElementDeclaration)) :=
  match component.definition.substitutionGroup with
  | [] => .ok none
  | reference :: _ =>
    match component.schema.resolve reference with
    | .error fault => .error fault
    | .ok name =>
      match set.element? name with
      | none => .error (.unresolvedReference reference name)
      | some head => .ok (some head)

/-- Where the chain of first heads leads in so many steps, whatever types are stated on it. -/
def headAfter? (set : SchemaSet) (start : Component ElementDeclaration) :
    Nat → Option (Component ElementDeclaration)
  | 0 => some start
  | count + 1 =>
    match set.headAfter? start count with
    | none => none
    | some component => (set.firstHead component).toOption.join

/-- The chain leads to this element in so many steps, and no type is stated before it. -/
structure LeadsTo (set : SchemaSet) (start : Component ElementDeclaration) (count : Nat)
    (component : Component ElementDeclaration) : Prop where
  reached : set.headAfter? start count = some component
  silent : ∀ earlier < count, ∀ passed, set.headAfter? start earlier = some passed →
    set.statedType? passed = none

/-- What the chain decides on after so many steps: on the first type that is stated, on the most
general type where it ends or comes back to a name that is on it, and on the fault of a head
that has no meaning or is not declared. -/
inductive DecidedAt (set : SchemaSet) (start : Component ElementDeclaration) (count : Nat) :
    Except SchemaError MemberType → Prop
  | stated {component : Component ElementDeclaration} {type : Except SchemaError MemberType}
      (leads : set.LeadsTo start count component)
      (states : set.statedType? component = some type) : DecidedAt set start count type
  | ended {component : Component ElementDeclaration}
      (leads : set.LeadsTo start count component)
      (silent : set.statedType? component = none)
      (noHead : set.firstHead component = .ok none) :
      DecidedAt set start count (.ok (.builtin anyType))
  | returned {component head passed : Component ElementDeclaration} {earlier : Nat}
      (leads : set.LeadsTo start count component)
      (silent : set.statedType? component = none)
      (isHead : set.firstHead component = .ok (some head)) (isEarlier : earlier ≤ count)
      (isPassed : set.headAfter? start earlier = some passed)
      (sameName : passed.name = head.name) : DecidedAt set start count (.ok (.builtin anyType))
  | failed {component : Component ElementDeclaration} {fault : SchemaError}
      (leads : set.LeadsTo start count component)
      (silent : set.statedType? component = none)
      (fails : set.firstHead component = .error fault) : DecidedAt set start count (.error fault)

variable {set : SchemaSet} {start component head : Component ElementDeclaration}

/-! ## Steps along the chain -/

theorem element?_of_firstHead (isHead : set.firstHead component = .ok (some head)) :
    set.element? head.name = some head := by
  rw [firstHead] at isHead
  split at isHead
  · cases isHead
  · split at isHead
    · cases isHead
    · split at isHead
      · cases isHead
      · rename_i found
        cases isHead
        rw [name_of_element? found]
        exact found

theorem headAfter?_succ {count : Nat} (reached : set.headAfter? start count = some component)
    (isHead : set.firstHead component = .ok (some head)) :
    set.headAfter? start (count + 1) = some head := by
  rw [headAfter?, reached]
  simp only [isHead]
  rfl

theorem exists_of_headAfter?_succ {count : Nat}
    (reached : set.headAfter? start (count + 1) = some head) :
    ∃ passed, set.headAfter? start count = some passed ∧
      set.firstHead passed = .ok (some head) := by
  rw [headAfter?] at reached
  split at reached
  · cases reached
  · rename_i passed isPassed
    refine ⟨passed, isPassed, ?_⟩
    cases next : set.firstHead passed with
    | error fault =>
        rw [next] at reached
        cases reached
    | ok found =>
        rw [next] at reached
        exact congrArg Except.ok reached

theorem exists_headAfter?_of_le {earlier count : Nat} (isEarlier : earlier ≤ count) :
    ∀ {component : Component ElementDeclaration}, set.headAfter? start count = some component →
      ∃ passed, set.headAfter? start earlier = some passed := by
  induction isEarlier with
  | refl => exact fun reached => ⟨_, reached⟩
  | step _ induction =>
      intro component reached
      rcases exists_of_headAfter?_succ reached with ⟨passed, isPassed, _⟩
      exact induction isPassed

/-- The chain of an element goes on as that of its first head. -/
theorem headAfter?_of_firstHead (isHead : set.firstHead start = .ok (some head)) (count : Nat) :
    set.headAfter? start (count + 1) = set.headAfter? head count := by
  induction count with
  | zero => exact headAfter?_succ rfl isHead
  | succ count induction => rw [headAfter?, induction, headAfter?]

/-- Where the chain comes back, it goes on as it went on before. -/
theorem headAfter?_add_of_eq {first second : Nat}
    (same : set.headAfter? start first = set.headAfter? start second) (more : Nat) :
    set.headAfter? start (first + more) = set.headAfter? start (second + more) := by
  induction more with
  | zero => exact same
  | succ more induction =>
      rw [← Nat.add_assoc, ← Nat.add_assoc, headAfter?, induction, headAfter?]

theorem element?_of_headAfter? (declared : set.element? start.name = some start) {count : Nat}
    (reached : set.headAfter? start count = some component) :
    set.element? component.name = some component := by
  cases count with
  | zero =>
      cases reached
      exact declared
  | succ count =>
      rcases exists_of_headAfter?_succ reached with ⟨_, _, isHead⟩
      exact element?_of_firstHead isHead

/-! ## One decision

A chain passes by an element that leaves the decision to its head. A chain which comes back
passes by all its elements, for ever; any other decides where it stops. -/

/-- What an element decides on without its head. -/
def verdict? (set : SchemaSet) (component : Component ElementDeclaration) :
    Option (Except SchemaError MemberType) :=
  match set.statedType? component, set.firstHead component with
  | some type, _ => some type
  | none, .error fault => some (.error fault)
  | none, .ok none => some (.ok (.builtin anyType))
  | none, .ok (some _) => none

/-- In so many steps the chain leads to an element that leaves the decision to its head. -/
def PassesBy (set : SchemaSet) (start : Component ElementDeclaration) (count : Nat) : Prop :=
  ∃ passed, set.headAfter? start count = some passed ∧ set.verdict? passed = none

theorem verdict?_of_firstHead (silent : set.statedType? component = none)
    (isHead : set.firstHead component = .ok (some head)) : set.verdict? component = none := by
  rw [verdict?, silent, isHead]

theorem LeadsTo.passesBy {count : Nat} (leads : set.LeadsTo start count component) :
    ∀ earlier < count, set.PassesBy start earlier := by
  intro earlier isEarlier
  rcases exists_headAfter?_of_le isEarlier leads.reached with ⟨next, isNext⟩
  rcases exists_of_headAfter?_succ isNext with ⟨passed, isPassed, isHead⟩
  have silent := leads.silent earlier isEarlier passed isPassed
  exact ⟨passed, isPassed, verdict?_of_firstHead silent isHead⟩

theorem passesBy_of_returned (declared : set.element? start.name = some start)
    {passed : Component ElementDeclaration} {earlier count : Nat}
    (leads : set.LeadsTo start count component) (silent : set.statedType? component = none)
    (isHead : set.firstHead component = .ok (some head)) (isEarlier : earlier ≤ count)
    (isPassed : set.headAfter? start earlier = some passed)
    (sameName : passed.name = head.name) (position : Nat) : set.PassesBy start position := by
  have same : passed = head := by
    have foundPassed := element?_of_headAfter? declared isPassed
    rw [sameName, element?_of_firstHead isHead] at foundPassed
    exact (Option.some.inj foundPassed).symm
  subst same
  have returns : set.headAfter? start (count + 1) = set.headAfter? start earlier :=
    (headAfter?_succ leads.reached isHead).trans isPassed.symm
  induction position using Nat.strongRecOn with
  | ind position induction =>
      rcases Nat.lt_trichotomy position count with isBefore | rfl | isAfter
      · exact leads.passesBy position isBefore
      · exact ⟨component, leads.reached, verdict?_of_firstHead silent isHead⟩
      · have around := headAfter?_add_of_eq returns (position - (count + 1))
        rw [show count + 1 + (position - (count + 1)) = position by omega] at around
        rcases induction (earlier + (position - (count + 1))) (by omega) with
          ⟨next, reached, leaves⟩
        exact ⟨next, around.trans reached, leaves⟩

theorem DecidedAt.stops_or_returns (declared : set.element? start.name = some start)
    {count : Nat} {result : Except SchemaError MemberType}
    (decided : set.DecidedAt start count result) :
    (∃ last, set.LeadsTo start count last ∧ set.verdict? last = some result) ∨
      (∀ position, set.PassesBy start position) ∧ result = .ok (.builtin anyType) := by
  cases decided with
  | stated leads states => exact .inl ⟨_, leads, by rw [verdict?, states]⟩
  | ended leads silent noHead => exact .inl ⟨_, leads, by rw [verdict?, silent, noHead]⟩
  | returned leads silent isHead isEarlier isPassed sameName =>
      exact .inr ⟨passesBy_of_returned declared leads silent isHead isEarlier isPassed sameName,
        rfl⟩
  | failed leads silent fails => exact .inl ⟨_, leads, by rw [verdict?, silent, fails]⟩

theorem LeadsTo.not_passesBy {count : Nat} {result : Except SchemaError MemberType}
    (leads : set.LeadsTo start count component) (decides : set.verdict? component = some result) :
    ¬set.PassesBy start count := by
  rintro ⟨passed, isPassed, leaves⟩
  rw [leads.reached] at isPassed
  cases isPassed
  rw [decides] at leaves
  cases leaves

/-- A chain decides on one type or fault only. -/
theorem DecidedAt.unique (declared : set.element? start.name = some start)
    {count other : Nat} {result peer : Except SchemaError MemberType}
    (first : set.DecidedAt start count result) (second : set.DecidedAt start other peer) :
    result = peer := by
  rcases first.stops_or_returns declared with ⟨last, leads, decides⟩ | ⟨passes, isAny⟩
  · rcases second.stops_or_returns declared with ⟨_, otherLeads, otherDecides⟩ | ⟨passes, _⟩
    · have sameCount : count = other := by
        rcases Nat.lt_trichotomy count other with isBefore | same | isAfter
        · exact absurd (otherLeads.passesBy count isBefore) (leads.not_passesBy decides)
        · exact same
        · exact absurd (leads.passesBy other isAfter) (otherLeads.not_passesBy otherDecides)
      subst sameCount
      have sameLast := leads.reached.symm.trans otherLeads.reached
      cases sameLast
      exact Option.some.inj (decides.symm.trans otherDecides)
    · exact absurd (passes count) (leads.not_passesBy decides)
  · rcases second.stops_or_returns declared with ⟨_, otherLeads, otherDecides⟩ | ⟨_, isOtherAny⟩
    · exact absurd (passes other) (otherLeads.not_passesBy otherDecides)
    · rw [isAny, isOtherAny]

/-! ## The walk

By induction on the walk: all names it has seen are on the chain, and each step sees one
more of the declared names. -/

theorem leadsTo_start (set : SchemaSet) (start : Component ElementDeclaration) :
    set.LeadsTo start 0 start where
  reached := rfl
  silent _ isEarlier := absurd isEarlier (Nat.not_lt_zero _)

theorem LeadsTo.next {count : Nat} (leads : set.LeadsTo start count component)
    (silent : set.statedType? component = none)
    (isHead : set.firstHead component = .ok (some head)) :
    set.LeadsTo start (count + 1) head where
  reached := headAfter?_succ leads.reached isHead
  silent earlier isEarlier passed isPassed := by
    rcases Nat.lt_succ_iff_lt_or_eq.mp isEarlier with isBefore | rfl
    · exact leads.silent earlier isBefore passed isPassed
    · rw [leads.reached] at isPassed
      cases isPassed
      exact silent

theorem statedType?_of_simple (isSimple : component.definition.anonymousType = some .simple) :
    set.statedType? component = some (.ok .anonymousSimple) := by
  rw [statedType?, isSimple]

theorem statedType?_of_complex {definition : ComplexType}
    (isComplex : component.definition.anonymousType = some (.complex definition)) :
    set.statedType? component = some (.ok (.anonymousComplex component.name)) := by
  rw [statedType?, isComplex]

theorem statedType?_eq_none (noType : component.definition.anonymousType = none)
    (untyped : component.definition.typeName = none) : set.statedType? component = none := by
  rw [statedType?, noType, untyped]

theorem firstHead_of_resolve {reference : Reference} {rest : List Reference}
    {name : ExpandedName} (heads : component.definition.substitutionGroup = reference :: rest)
    (resolved : component.schema.resolve reference = .ok name)
    (found : set.element? name = some head) : set.firstHead component = .ok (some head) := by
  simp only [firstHead, heads, resolved, found]

/-- A name that is declared and has not been seen is one less to be seen. -/
theorem unseen_head_lt {name : ExpandedName} {seen : List ExpandedName}
    (found : set.element? name = some head) (new : name ∉ seen) :
    unseen (set.elements.map (·.name)) (name :: seen) <
      unseen (set.elements.map (·.name)) seen := by
  have isDeclared : name ∈ set.elements.map (·.name) :=
    List.mem_map.mpr ⟨head, mem_elements_of_element? found, name_of_element? found⟩
  exact unseen_lt (fun _ => List.mem_cons_of_mem name) isDeclared new List.mem_cons_self

/-- All names that have been seen are on the chain, up to this step. -/
def OnChain (set : SchemaSet) (start : Component ElementDeclaration) (count : Nat)
    (seen : List ExpandedName) : Prop :=
  ∀ name ∈ seen, ∃ earlier ≤ count, ∃ passed,
    set.headAfter? start earlier = some passed ∧ passed.name = name

theorem OnChain.cons {count : Nat} {seen : List ExpandedName}
    (areOnChain : set.OnChain start count seen)
    (reached : set.headAfter? start (count + 1) = some head) :
    set.OnChain start (count + 1) (head.name :: seen) := by
  intro name isSeen
  rcases List.mem_cons.mp isSeen with rfl | isOld
  · exact ⟨count + 1, Nat.le_refl _, head, reached, rfl⟩
  · rcases areOnChain name isOld with ⟨earlier, isEarlier, passed⟩
    exact ⟨earlier, Nat.le_succ_of_le isEarlier, passed⟩

/-- Whatever the walk has seen of the chain, it comes to what the chain decides on. -/
theorem exists_decidedAt_outerType (declared : set.element? start.name = some start)
    (seen : List ExpandedName) (schema : Schema) (declaration : ElementDeclaration) :
    ∀ {count : Nat} {component : Component ElementDeclaration}, component.schema = schema →
      component.definition = declaration → declaration.anonymousType = none →
      set.LeadsTo start count component → set.OnChain start count seen →
      ∃ later ≤ count + unseen (set.elements.map (·.name)) seen,
        set.DecidedAt start later (set.outerType seen schema declaration) := by
  induction seen, schema, declaration using outerType.induct set with
  | case1 seen schema declaration reference isTyped fault failed =>
      rintro count component rfl rfl noType leads areOnChain
      refine ⟨count, Nat.le_add_right _ _, .stated leads ?_⟩
      rw [statedType?, outerType]
      simp only [noType, isTyped, failed]
      rfl
  | case2 seen schema declaration reference isTyped name resolved =>
      rintro count component rfl rfl noType leads areOnChain
      refine ⟨count, Nat.le_add_right _ _, .stated leads ?_⟩
      rw [statedType?, outerType]
      simp only [noType, isTyped, resolved]
      rfl
  | case3 seen schema declaration noHead untyped =>
      rintro count component rfl rfl noType leads areOnChain
      refine ⟨count, Nat.le_add_right _ _, ?_⟩
      rw [outerType]
      simp only [untyped, noHead]
      exact .ended leads (statedType?_eq_none noType untyped) (by simp only [firstHead, noHead])
  | case4 seen schema declaration reference rest heads untyped fault failed =>
      rintro count component rfl rfl noType leads areOnChain
      refine ⟨count, Nat.le_add_right _ _, ?_⟩
      rw [outerType]
      simp only [untyped, heads, failed]
      exact .failed leads (statedType?_eq_none noType untyped)
        (by simp only [firstHead, heads, failed])
  | case5 seen schema declaration reference rest heads untyped name resolved old =>
      rintro count component rfl rfl noType leads areOnChain
      refine ⟨count, Nat.le_add_right _ _, ?_⟩
      rcases areOnChain name old with ⟨earlier, isEarlier, passed, isPassed, sameName⟩
      have found := element?_of_headAfter? declared isPassed
      rw [sameName] at found
      rw [outerType]
      simp only [untyped, heads, resolved, old, dif_pos]
      exact .returned leads (statedType?_eq_none noType untyped)
        (firstHead_of_resolve heads resolved found) isEarlier isPassed rfl
  | case6 seen schema declaration reference rest heads untyped name resolved new missing =>
      rintro count component rfl rfl noType leads areOnChain
      refine ⟨count, Nat.le_add_right _ _, ?_⟩
      rw [outerType_of_head untyped heads resolved new, missing]
      exact .failed leads (statedType?_eq_none noType untyped)
        (by simp only [firstHead, heads, resolved, missing])
  | case7 seen schema declaration reference rest heads untyped name resolved new head
      found simple =>
      rintro count component rfl rfl noType leads areOnChain
      have fewer := unseen_head_lt found new
      have next := leads.next (statedType?_eq_none noType untyped)
        (firstHead_of_resolve heads resolved found)
      refine ⟨count + 1, by omega, ?_⟩
      rw [outerType_of_head untyped heads resolved new, found]
      simp only [simple]
      exact .stated next (statedType?_of_simple simple)
  | case8 seen schema declaration reference rest heads untyped name resolved new head
      found definition complex =>
      rintro count component rfl rfl noType leads areOnChain
      have fewer := unseen_head_lt found new
      have next := leads.next (statedType?_eq_none noType untyped)
        (firstHead_of_resolve heads resolved found)
      refine ⟨count + 1, by omega, ?_⟩
      rw [outerType_of_head untyped heads resolved new, found, ← name_of_element? found]
      simp only [complex]
      exact .stated next (statedType?_of_complex complex)
  | case9 seen schema declaration reference rest heads untyped name resolved new head
      found headNoType induction =>
      rintro count component rfl rfl noType leads areOnChain
      have fewer := unseen_head_lt found new
      have next := leads.next (statedType?_eq_none noType untyped)
        (firstHead_of_resolve heads resolved found)
      have seenOnChain := areOnChain.cons next.reached
      rw [name_of_element? found] at seenOnChain
      rcases induction rfl rfl headNoType next seenOnChain with ⟨later, isLater, decided⟩
      refine ⟨later, by omega, ?_⟩
      rw [outerType_of_head untyped heads resolved new, found]
      simp only [headNoType]
      exact decided

theorem OnChain.nil (set : SchemaSet) (start : Component ElementDeclaration) (count : Nat) :
    set.OnChain start count [] :=
  nofun

/-- The chain of a declared element decides on its type before it is as long as there are
elements. -/
theorem exists_decidedAt_elementType (declared : set.element? start.name = some start) :
    ∃ count < set.elements.length, set.DecidedAt start count (set.elementType start) := by
  have isElement := mem_elements_of_element? declared
  have begins := leadsTo_start set start
  have notNone : 0 < set.elements.length := List.length_pos_of_mem isElement
  rw [elementType]
  split
  · rename_i isSimple
    exact ⟨0, notNone, .stated begins (statedType?_of_simple isSimple)⟩
  · rename_i isComplex
    exact ⟨0, notNone, .stated begins (statedType?_of_complex isComplex)⟩
  · rename_i noType
    have onChain : set.OnChain start 0 [start.name] := by
      intro name isSeen
      exact ⟨0, Nat.le_refl _, start, rfl, (List.mem_singleton.mp isSeen).symm⟩
    rcases exists_decidedAt_outerType declared [start.name] _ _ rfl rfl noType begins onChain with
      ⟨count, isAtMost, decided⟩
    have fewer := unseen_head_lt declared (List.not_mem_nil (a := start.name))
    have atMost : unseen (set.elements.map (·.name)) [] ≤ (set.elements.map (·.name)).length :=
      List.countP_le_length
    rw [List.length_map] at atMost
    exact ⟨count, by omega, decided⟩

/-- What the chain of an element decides on is what the chain of its first head does. -/
theorem DecidedAt.of_head (silent : set.statedType? start = none)
    (isHead : set.firstHead start = .ok (some head)) {count : Nat}
    {result : Except SchemaError MemberType} (decided : set.DecidedAt head count result) :
    set.DecidedAt start (count + 1) result := by
  have leadsOn : ∀ {last}, set.LeadsTo head count last → set.LeadsTo start (count + 1) last := by
    intro last leads
    refine ⟨(headAfter?_of_firstHead isHead count).trans leads.reached, ?_⟩
    intro earlier isEarlier passed isPassed
    cases earlier with
    | zero =>
        cases isPassed
        exact silent
    | succ earlier =>
        rw [headAfter?_of_firstHead isHead] at isPassed
        exact leads.silent earlier (by omega) passed isPassed
  cases decided with
  | stated leads states => exact .stated (leadsOn leads) states
  | ended leads lastSilent noHead => exact .ended (leadsOn leads) lastSilent noHead
  | returned leads lastSilent isNext isEarlier isPassed sameName =>
      exact .returned (leadsOn leads) lastSilent isNext (Nat.succ_le_succ isEarlier)
        ((headAfter?_of_firstHead isHead _).trans isPassed) sameName
  | failed leads lastSilent fails => exact .failed (leadsOn leads) lastSilent fails

end SchemaSet

namespace ElementDeclaration

/-- The declaration is a reference, and it refers to the element with this name. -/
def RefersTo (declaration : ElementDeclaration) (schema : Schema) (name : ExpandedName) : Prop :=
  ∃ reference, declaration.declared = .reference reference ∧
    schema.resolve reference = .ok name

/-- The type of the member that a declaration stands for. -/
def typeIn (scope : Scope) (declaration : ElementDeclaration) : Except SchemaError MemberType :=
  Member.type <$> declaration.member scope

theorem typeIn_of_refersTo {scope : Scope} {declaration : ElementDeclaration}
    {component : Component ElementDeclaration} {name : ExpandedName}
    (refers : declaration.RefersTo scope.schema name)
    (declared : scope.set.element? name = some component) :
    declaration.typeIn scope = scope.set.elementType component := by
  rcases declaration with ⟨_, typeName, anonymousType, heads, occurrence, form⟩
  rcases refers with ⟨reference, rfl, resolved⟩
  rw [typeIn, member, resolved]
  change Member.type <$> scope.refer reference name occurrence = _
  rw [Scope.refer, declared]
  simp only
  cases scope.set.elementType component <;> rfl

/-- A declaration that is compiled where it is written has not seen its own name, but what its
chain decides on is the same. -/
theorem typeIn_of_named {set : SchemaSet} {component : Component ElementDeclaration}
    (declared : set.element? component.name = some component) {localName : String}
    (isNamed : component.definition.declared = .named localName)
    (notComplex : ∀ definition, component.definition.anonymousType ≠ some (.complex definition))
    (owner : Owner) :
    component.definition.typeIn ⟨set, component.schema, owner⟩ = set.elementType component := by
  have sameType : component.definition.anonymousType = none →
      set.outerType [] component.schema component.definition = set.elementType component := by
    intro noType
    rcases SchemaSet.exists_decidedAt_outerType declared [] _ _ rfl rfl noType
      (SchemaSet.leadsTo_start set component) (.nil set component 0) with ⟨_, _, first⟩
    rcases SchemaSet.exists_decidedAt_elementType declared with ⟨_, _, second⟩
    exact first.unique declared second
  rcases component with
    ⟨name, schema, position, index, ⟨_, typeName, anonymousType, heads, occurrence, form⟩⟩
  cases isNamed
  rcases anonymousType with _ | _ | definition
  · rw [← sameType rfl]
    change Member.type <$> member ⟨set, schema, owner⟩
      ⟨.named localName, typeName, none, heads, occurrence, form⟩ = _
    rw [member]
    cases set.outerType [] schema ⟨.named localName, typeName, none, heads, occurrence, form⟩ <;>
      rfl
  · rfl
  · exact absurd rfl (notComplex definition)

end ElementDeclaration

/-- The type of an element that is referred to is what its chain of first heads decides on,
which takes fewer steps than there are elements. So an element that states no type has that of
its first head, and a declaration has the same type where it is written, unless that is given
by its members there. -/
theorem SchemaSet.type_decided_by_heads {set : SchemaSet} {name : ExpandedName}
    {component : Component ElementDeclaration} (declared : set.element? name = some component)
    {schema : Schema} {declaration : ElementDeclaration} (refers : declaration.RefersTo schema name)
    (owner : Owner) :
    (∀ result, declaration.typeIn ⟨set, schema, owner⟩ = result ↔
      ∃ count < set.elements.length, set.DecidedAt component count result) ∧
    (∀ head, set.statedType? component = none → set.firstHead component = .ok (some head) →
      ∀ (peer : ElementDeclaration) (other : Schema) (otherOwner : Owner),
        peer.RefersTo other head.name →
        declaration.typeIn ⟨set, schema, owner⟩ = peer.typeIn ⟨set, other, otherOwner⟩) ∧
    ∀ localName, component.definition.declared = .named localName →
      (∀ definition, component.definition.anonymousType ≠ some (.complex definition)) →
      ∀ itsOwner, component.definition.typeIn ⟨set, component.schema, itsOwner⟩ =
        declaration.typeIn ⟨set, schema, owner⟩ := by
  have ownName : set.element? component.name = some component := by
    rw [name_of_element? declared]
    exact declared
  have isType : declaration.typeIn ⟨set, schema, owner⟩ = set.elementType component :=
    ElementDeclaration.typeIn_of_refersTo refers declared
  rw [isType]
  rcases exists_decidedAt_elementType ownName with ⟨count, isFew, decided⟩
  refine ⟨?_, ?_, ?_⟩
  · intro result
    constructor
    · rintro rfl
      exact ⟨count, isFew, decided⟩
    · rintro ⟨_, _, isDecided⟩
      exact decided.unique ownName isDecided
  · intro head silent isHead peer other otherOwner refersToHead
    have headDeclared := element?_of_firstHead isHead
    have isHeadType : peer.typeIn ⟨set, other, otherOwner⟩ = set.elementType head :=
      ElementDeclaration.typeIn_of_refersTo refersToHead headDeclared
    rw [isHeadType]
    rcases exists_decidedAt_elementType headDeclared with ⟨_, _, ofHead⟩
    exact decided.unique ownName (ofHead.of_head silent isHead)
  · intro localName isNamed notComplex itsOwner
    exact ElementDeclaration.typeIn_of_named ownName isNamed notComplex itsOwner

/-! ### Vehicles

A car that stands in for a boat, and so for a bus and for a ferry, which stand in for each
other; and a truck that stands in for a ship, whose type nobody declares. -/

namespace Vehicles

def declaration (localName : String) (typeName : Option Reference) (heads : List Reference) :
    ElementDeclaration :=
  ⟨.named localName, typeName, none, heads, .unstated, none⟩

def schema (uri : String) (bindings : List (Option String × String))
    (elements : List ElementDeclaration) : Schema where
  location := none
  targetNamespace := some uri
  elementForm := .qualified
  bindings := .ofList bindings
  directives := []
  elements := elements
  complexTypes := []
  simpleTypes := []

def land : Schema :=
  schema "urn:land" [(some "s", "urn:sea")]
    [declaration "Car" none [⟨some "s", "Boat"⟩, ⟨some "s", "Ship"⟩],
      declaration "Bus" none [⟨some "s", "Ferry"⟩],
      declaration "Truck" none [⟨some "s", "Ship"⟩]]

def sea : Schema :=
  schema "urn:sea" [(some "l", "urn:land"), (none, "urn:sea")]
    [declaration "Boat" none [⟨some "l", "Bus"⟩],
      declaration "Ferry" none [⟨some "l", "Bus"⟩],
      declaration "Ship" (some ⟨some "l", "Hull"⟩) []]

def vehicles : SchemaSet where
  schemas := [land, sea]
  affiliated := by decide +kernel

def car : Component ElementDeclaration :=
  ⟨⟨some "urn:land", "Car"⟩, land, 0, 0,
    declaration "Car" none [⟨some "s", "Boat"⟩, ⟨some "s", "Ship"⟩]⟩

def truck : Component ElementDeclaration :=
  ⟨⟨some "urn:land", "Truck"⟩, land, 0, 2, declaration "Truck" none [⟨some "s", "Ship"⟩]⟩

def boat : Component ElementDeclaration :=
  ⟨⟨some "urn:sea", "Boat"⟩, sea, 1, 0, declaration "Boat" none [⟨some "l", "Bus"⟩]⟩

def reference (qualifier localName : String) : ElementDeclaration :=
  ⟨.reference ⟨some qualifier, localName⟩, none, none, [], .unstated, none⟩

/-- The chain of the car comes to a bus, a ferry and the bus again. -/
theorem type_of_car :
    vehicles.element? car.name = some car ∧ (reference "l" "Car").RefersTo sea car.name ∧
      (∃ count < 6, vehicles.DecidedAt car count (.ok (.builtin anyType))) ∧
      (reference "s" "Boat").typeIn ⟨vehicles, land, .outside⟩ = .ok (.builtin anyType) ∧
      car.definition.typeIn ⟨vehicles, land, .outside⟩ = .ok (.builtin anyType) ∧
      vehicles.element? truck.name = some truck ∧
      ∃ count < 6, vehicles.DecidedAt truck count
        (.error (.unresolvedType ⟨some "urn:land", "Hull"⟩)) := by
  have isCar : vehicles.element? car.name = some car := rfl
  have isTruck : vehicles.element? truck.name = some truck := rfl
  have toCar : (reference "l" "Car").RefersTo sea car.name := ⟨_, rfl, rfl⟩
  have toBoat : (reference "s" "Boat").RefersTo land boat.name := ⟨_, rfl, rfl⟩
  have toTruck : (reference "l" "Truck").RefersTo sea truck.name := ⟨_, rfl, rfl⟩
  have typeOfCar : (reference "l" "Car").typeIn ⟨vehicles, sea, .outside⟩ =
      .ok (.builtin anyType) := by
    decide +kernel
  have typeOfTruck : (reference "l" "Truck").typeIn ⟨vehicles, sea, .outside⟩ =
      .error (.unresolvedType ⟨some "urn:land", "Hull"⟩) := by
    decide +kernel
  have ⟨decided, ofHead, ofItself⟩ := SchemaSet.type_decided_by_heads isCar toCar .outside
  have ⟨failed, _, _⟩ := SchemaSet.type_decided_by_heads isTruck toTruck .outside
  have sameAsBoat := ofHead boat rfl rfl _ land .outside toBoat
  have sameAsCar := ofItself "Car" rfl nofun .outside
  exact ⟨isCar, toCar, (decided _).mp typeOfCar, sameAsBoat.symm.trans typeOfCar,
    sameAsCar.trans typeOfCar, isTruck, (failed _).mp typeOfTruck⟩

end Vehicles

end SchemaContent
