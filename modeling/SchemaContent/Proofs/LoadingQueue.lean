import SchemaContent.Loading

/-! # Loading from a queue

Loading layer by layer is loading from a queue: what a document mentions waits behind
the rest of its layer. A document is read at most once, so the queue is empty after as
many steps as there are mentions in the documents, and one for the entry. -/

namespace SchemaContent

theorem length_add_flatMap_unseen_le {α β : Type} [DecidableEq α] (parts : α → List β)
    {candidate : α} {candidates seen : List α} (isCandidate : candidate ∈ candidates)
    (fresh : candidate ∉ seen) :
    (parts candidate).length +
        ((candidates.filter (· ∉ candidate :: seen)).flatMap parts).length ≤
      ((candidates.filter (· ∉ seen)).flatMap parts).length := by
  have othersLeft : candidates.filter (· ∉ candidate :: seen) =
      (candidates.filter (· ∉ seen)).filter fun value => !decide (value = candidate) := by
    rw [List.filter_filter]
    simp [not_or]
  have lengthSplits := ((List.filter_append_perm (· = candidate)
    (candidates.filter (· ∉ seen))).flatMap_right parts).length_eq
  rw [List.flatMap_append, List.length_append, ← othersLeft] at lengthSplits
  have isUnseen : candidate ∈ (candidates.filter (· ∉ seen)).filter (· = candidate) := by
    simp [isCandidate, fresh]
  have counted := (List.sublist_flatten_of_mem
    (List.mem_map_of_mem (f := parts) isUnseen)).length_le
  rw [← List.flatMap_def] at counted
  omega

section

variable (resolver : Resolver) (allowDoctype : Bool)

namespace Resolver

/-- The locations that a document mentions. One that cannot be read mentions none. -/
def mentionsAt (canonical : String) : List Mention :=
  match Schema.parse (resolver.text canonical) allowDoctype with
  | .ok schema => schema.mentions canonical
  | .error _ => []

def mentionsLeft (locations : List String) : List Mention :=
  ((resolver.documents.map (·.1)).filter (· ∉ locations)).flatMap
    (resolver.mentionsAt allowDoctype)

end Resolver

namespace Loaded

/-- What the mentions that wait lead to, after at most so many of them have been taken
off the queue; none if some are left then. -/
def run : Nat → Loaded → List Mention → Option (Except SchemaError Loaded)
  | _, loaded, [] => some (.ok loaded)
  | 0, _, _ :: _ => none
  | steps + 1, loaded, mention :: waiting =>
    match loaded.visit resolver allowDoctype mention with
    | .error fault => some (.error fault)
    | .ok (more, found) => run steps more (waiting ++ found)

variable {resolver allowDoctype} in
theorem found_add_left_le {loaded more : Loaded} {mention : Mention} {found : List Mention}
    (visited : loaded.visit resolver allowDoctype mention = .ok (more, found)) :
    found.length + (resolver.mentionsLeft allowDoctype more.locations).length ≤
      (resolver.mentionsLeft allowDoctype loaded.locations).length := by
  rw [visit] at visited
  split at visited
  · cases visited
  · rename_i canonical isLocated
    split at visited
    · cases visited
      simp
    · rename_i fresh
      obtain ⟨schema, parsed, visited⟩ := exists_of_bind_eq_ok visited
      obtain ⟨set, _, visited⟩ := exists_of_bind_eq_ok visited
      cases visited
      have covered := length_add_flatMap_unseen_le (resolver.mentionsAt allowDoctype)
        (resolver.located _ _ _ isLocated) fresh
      rwa [Resolver.mentionsAt, parsed] at covered

variable {resolver allowDoctype} in
theorem found_add_left_le_of_visitAll {loaded more : Loaded} {layer next : List Mention}
    (visited : loaded.visitAll resolver allowDoctype layer = .ok (more, next)) :
    next.length + (resolver.mentionsLeft allowDoctype more.locations).length ≤
      (resolver.mentionsLeft allowDoctype loaded.locations).length := by
  induction layer generalizing loaded more next with
  | nil =>
      cases visited
      simp
  | cons mention rest induction =>
      obtain ⟨⟨middle, found⟩, first, visited⟩ := exists_of_bind_eq_ok visited
      obtain ⟨⟨last, others⟩, later, visited⟩ := exists_of_bind_eq_ok visited
      cases visited
      have spentFirst := found_add_left_le first
      have spentLater := induction later
      rw [List.length_append]
      omega

/-- After the mentions of a layer, the next layer waits behind what waited already. -/
theorem run_layer (layer : List Mention) :
    ∀ (loaded : Loaded) (waiting : List Mention) (steps : Nat),
      run resolver allowDoctype (layer.length + steps) loaded (layer ++ waiting) =
        match loaded.visitAll resolver allowDoctype layer with
        | .error fault => some (.error fault)
        | .ok (more, next) => run resolver allowDoctype steps more (waiting ++ next) := by
  induction layer with
  | nil =>
      intro loaded waiting steps
      simp [visitAll, pure, Except.pure]
  | cons mention rest induction =>
      intro loaded waiting steps
      rw [List.length_cons, Nat.succ_add, List.cons_append, run, visitAll]
      cases visited : loaded.visit resolver allowDoctype mention with
      | error fault => rfl
      | ok result =>
          obtain ⟨more, found⟩ := result
          change run resolver allowDoctype (rest.length + steps) more _ = _
          rw [List.append_assoc, induction]
          cases later : more.visitAll resolver allowDoctype rest with
          | error fault => simp only [bind, Except.bind, later]
          | ok result => simp only [bind, Except.bind, pure, Except.pure, later,
              List.append_assoc]

theorem follow_nil (loaded : Loaded) : loaded.follow resolver allowDoctype [] = .ok loaded := by
  rw [follow]
  rfl

theorem follow_eq_bind (loaded : Loaded) (layer : List Mention) :
    loaded.follow resolver allowDoctype layer =
      loaded.visitAll resolver allowDoctype layer >>= fun (more, next) =>
        more.follow resolver allowDoctype next := by
  rw [follow]
  split
  · rename_i failed
    rw [failed]
    rfl
  · rename_i more visited
    rw [visited]
    exact (follow_nil resolver allowDoctype more).symm
  · rename_i visited
    rw [visited]
    rfl

/-- With a step for each mention that waits or is left, the queue comes to an end, and
to the same as the layers. -/
theorem run_follow (loaded : Loaded) (layer : List Mention) :
    ∀ steps : Nat,
      layer.length + (resolver.mentionsLeft allowDoctype loaded.locations).length ≤ steps →
        run resolver allowDoctype steps loaded layer =
          some (loaded.follow resolver allowDoctype layer) := by
  induction loaded, layer using Loaded.follow.induct resolver allowDoctype with
  | case1 loaded layer fault failed =>
      intro steps enough
      obtain ⟨rest, rfl⟩ := Nat.exists_eq_add_of_le (Nat.le_of_add_right_le enough)
      have ran := run_layer resolver allowDoctype layer loaded [] rest
      rw [List.append_nil, failed] at ran
      rw [ran, follow_eq_bind, failed]
      rfl
  | case2 loaded layer more visited =>
      intro steps enough
      obtain ⟨rest, rfl⟩ := Nat.exists_eq_add_of_le (Nat.le_of_add_right_le enough)
      have ran := run_layer resolver allowDoctype layer loaded [] rest
      rw [List.append_nil, visited] at ran
      rw [ran, follow_eq_bind, visited]
      change run resolver allowDoctype rest more [] =
        some (more.follow resolver allowDoctype [])
      rw [run, follow_nil]
  | case3 loaded layer more first others visited induction =>
      intro steps enough
      obtain ⟨rest, rfl⟩ := Nat.exists_eq_add_of_le (Nat.le_of_add_right_le enough)
      have ran := run_layer resolver allowDoctype layer loaded [] rest
      rw [List.append_nil, visited] at ran
      have spent := found_add_left_le_of_visitAll visited
      rw [ran, follow_eq_bind, visited]
      exact induction rest (by omega)

end Loaded

end

end SchemaContent
