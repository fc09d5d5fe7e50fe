import SchemaContent.Schema.Basic

/-! # Bindings in order

Since qualifiers ascend strictly, each has one namespace, the first qualifier found for a
namespace is the least, and pairs that are bound in their own order stay as they are. -/

namespace SchemaContent.Bindings

/-! ## Looking up -/

theorem lookup_eq_some_iff_of_ascending {entries : List (String × String)}
    (ascending : entries.Pairwise fun first second => first.1 < second.1)
    {qualifier uri : String} :
    entries.lookup qualifier = some uri ↔ (qualifier, uri) ∈ entries := by
  induction entries with
  | nil => simp
  | cons first rest induction =>
      have ⟨firstLeast, restAscending⟩ := List.pairwise_cons.mp ascending
      rw [List.lookup_cons, List.mem_cons]
      by_cases same : qualifier = first.1
      · rw [beq_iff_eq.mpr same]
        constructor
        · intro found
          cases found
          exact .inl (Prod.ext same rfl)
        · rintro (isFirst | isLater)
          · exact congrArg some (Prod.mk.inj isFirst).2.symm
          · -- A later pair has a greater qualifier.
            have less := firstLeast _ isLater
            rw [same] at less
            exact absurd less (String.lt_irrefl _)
      · rw [beq_eq_false_iff_ne.mpr same]
        have notFirst : (qualifier, uri) ≠ first := fun isFirst => same (congrArg Prod.fst isFirst)
        simp only [notFirst, false_or]
        exact induction restAscending

theorem lookup_eq_some_iff {bindings : Bindings} {qualifier uri : String} :
    bindings.lookup qualifier = some uri ↔ (qualifier, uri) ∈ bindings.entries :=
  lookup_eq_some_iff_of_ascending bindings.ascending

theorem qualifierOf_least {bindings : Bindings} {qualifier uri : String}
    (found : bindings.qualifierOf uri = some qualifier) :
    bindings.lookup qualifier = some uri ∧
      ∀ other, bindings.lookup other = some uri → qualifier ≤ other := by
  rcases Option.map_eq_some_iff.mp found with ⟨⟨_, bound⟩, isFirst, rfl⟩
  rcases List.find?_eq_some_iff_append.mp isFirst with
    ⟨isBound, before, after, isSplit, notBefore⟩
  have sameUri : bound = uri := by simpa using isBound
  subst sameUri
  have ascending := bindings.ascending
  rw [isSplit] at ascending
  have ⟨firstLeast, _⟩ := List.pairwise_cons.mp (List.pairwise_append.mp ascending).2.1
  constructor
  · rw [lookup_eq_some_iff, isSplit]
    exact List.mem_append_right _ List.mem_cons_self
  · intro other otherBound
    rw [lookup_eq_some_iff, isSplit, List.mem_append, List.mem_cons] at otherBound
    rcases otherBound with isBefore | isHere | isAfter
    · have notBound := notBefore _ isBefore
      simp at notBound
    · exact (Prod.mk.inj isHere).1 ▸ String.le_refl other
    · exact String.not_lt.mp (String.lt_asymm (firstLeast _ isAfter))

/-- The qualifier of a namespace is the least of all that are bound to it. -/
theorem qualifierOf_eq_some_iff {bindings : Bindings} {qualifier uri : String} :
    bindings.qualifierOf uri = some qualifier ↔
      bindings.lookup qualifier = some uri ∧
        ∀ other, bindings.lookup other = some uri → qualifier ≤ other := by
  refine ⟨qualifierOf_least, ?_⟩
  rintro ⟨isBound, isLeast⟩
  cases found : bindings.qualifierOf uri with
  | none =>
      rw [qualifierOf, Option.map_eq_none_iff, List.find?_eq_none] at found
      have notBound := found _ (lookup_eq_some_iff.mp isBound)
      simp at notBound
  | some other =>
      have ⟨otherBound, otherLeast⟩ := qualifierOf_least found
      rw [String.le_antisymm (isLeast other otherBound) (otherLeast qualifier isBound)]

/-! ## Binding in order -/

/-- A pair whose qualifier is greater than all others is put at the end. -/
theorem insertEntry_of_greatest {qualifier uri : String} {entries : List (String × String)}
    (greatest : ∀ entry ∈ entries, entry.1 < qualifier) :
    insertEntry qualifier uri entries = entries ++ [(qualifier, uri)] := by
  induction entries with
  | nil => rfl
  | cons first rest induction =>
      have less := greatest first List.mem_cons_self
      rw [insertEntry, if_neg (String.lt_asymm less), if_neg]
      · rw [induction fun entry isLater => greatest entry (List.mem_cons_of_mem _ isLater)]
        rfl
      · intro same
        rw [same] at less
        exact String.lt_irrefl _ less

/-- Pairs that ascend after those that are bound already are all put at the end. -/
theorem foldl_bind_of_ascending (entries : List (String × String)) : ∀ bindings : Bindings,
    (bindings.entries ++ entries).Pairwise (fun first second => first.1 < second.1) →
      let bound := (entries.map fun entry => (some entry.1, entry.2)).foldl
        (fun bindings (qualifier, uri) => bindings.bind qualifier uri) bindings
      bound.entries = bindings.entries ++ entries ∧ bound.default = bindings.default := by
  induction entries with
  | nil => exact fun bindings _ => ⟨(List.append_nil _).symm, rfl⟩
  | cons first rest induction =>
      intro bindings ascending
      have greatest : ∀ entry ∈ bindings.entries, entry.1 < first.1 :=
        fun entry isEarlier =>
          (List.pairwise_append.mp ascending).2.2 entry isEarlier first List.mem_cons_self
      have isLast : (bindings.bind (some first.1) first.2).entries =
          bindings.entries ++ [first] := insertEntry_of_greatest greatest
      have stillAscending : ((bindings.bind (some first.1) first.2).entries ++ rest).Pairwise
          fun first second => first.1 < second.1 := by
        rw [isLast, List.append_assoc]
        exact ascending
      have ⟨sameEntries, sameDefault⟩ := induction _ stillAscending
      refine ⟨?_, sameDefault⟩
      rw [isLast, List.append_assoc] at sameEntries
      exact sameEntries

/-- Declarations that make these bindings: that of the default namespace, and those of
qualifiers in their order. -/
def declarations (bindings : Bindings) : List (Option String × String) :=
  bindings.default.toList.map (fun uri => (none, uri)) ++
    bindings.entries.map fun (qualifier, uri) => (some qualifier, uri)

theorem ext {first second : Bindings} (sameEntries : first.entries = second.entries)
    (sameDefault : first.default = second.default) : first = second := by
  cases first
  cases second
  cases sameEntries
  cases sameDefault
  rfl

theorem ofList_declarations (bindings : Bindings) :
    ofList bindings.declarations = bindings := by
  have started : (bindings.default.toList.map fun uri => ((none : Option String), uri)).foldl
      (fun bindings (qualifier, uri) => bindings.bind qualifier uri) empty =
        ⟨[], bindings.default, .nil⟩ := by
    cases bindings.default <;> rfl
  have ⟨sameEntries, sameDefault⟩ :=
    foldl_bind_of_ascending bindings.entries ⟨[], bindings.default, .nil⟩ bindings.ascending
  rw [ofList, declarations, List.foldl_append, started]
  exact ext sameEntries sameDefault

end SchemaContent.Bindings
