/-! # Steps

A sequence of steps that may fail succeeds if each of them does, and a success can be taken apart. A
traversal that never visits the same thing twice ends because fewer and fewer candidates are left that
have not been seen.
-/

namespace SchemaContent

/-! ## Steps that may fail -/

section Runs

variable {ε α β : Type}

theorem exists_of_bind_eq_ok {first : Except ε α} {next : α → Except ε β} {result : β}
    (success : (first >>= next) = .ok result) :
    ∃ value, first = .ok value ∧ next value = .ok result := by
  cases first with
  | error => nomatch success
  | ok value => exact ⟨value, rfl, success⟩

theorem exists_of_map_eq_ok {run : Except ε α} {change : α → β} {result : β}
    (success : change <$> run = .ok result) :
    ∃ value, run = .ok value ∧ change value = result := by
  cases run with
  | error => nomatch success
  | ok value => exact ⟨value, rfl, Except.ok.inj success⟩

/-- Each result of steps made along a list is that of an entry. -/
theorem exists_of_mem_of_mapM_eq_ok {step : α → Except ε β} {values : List α} :
    ∀ {results : List β}, values.mapM step = .ok results →
      ∀ result ∈ results, ∃ value ∈ values, step value = .ok result := by
  induction values with
  | nil =>
      intro results success result isResult
      cases success
      nomatch isResult
  | cons first rest induction =>
      intro results success result isResult
      rw [List.mapM_cons] at success
      obtain ⟨firstResult, made, success⟩ := exists_of_bind_eq_ok success
      obtain ⟨others, later, success⟩ := exists_of_bind_eq_ok success
      cases success
      rcases List.mem_cons.mp isResult with rfl | isLater
      · exact ⟨first, List.mem_cons_self, made⟩
      · obtain ⟨value, isValue, makes⟩ := induction later result isLater
        exact ⟨value, List.mem_cons_of_mem _ isValue, makes⟩

theorem exists_of_mapM_eq_ok {step : α → Except ε β} {values : List α} :
    ∀ {results : List β}, values.mapM step = .ok results →
      ∀ value ∈ values, ∃ result, step value = .ok result := by
  induction values with
  | nil => exact fun _ _ isValue => nomatch isValue
  | cons first rest induction =>
      intro results success value isValue
      rw [List.mapM_cons] at success
      obtain ⟨firstResult, made, success⟩ := exists_of_bind_eq_ok success
      obtain ⟨others, later, success⟩ := exists_of_bind_eq_ok success
      rcases List.mem_cons.mp isValue with rfl | isLater
      · exact ⟨firstResult, made⟩
      · exact induction later value isLater

theorem mapM_eq_ok_map {step : α → Except ε β} {result : α → β} {values : List α}
    (made : ∀ value ∈ values, step value = .ok (result value)) :
    values.mapM step = .ok (values.map result) := by
  induction values with
  | nil => rfl
  | cons first rest induction =>
      have later := induction fun value isLater =>
        made value (List.mem_cons_of_mem _ isLater)
      rw [List.mapM_cons, made first List.mem_cons_self, later]
      rfl

theorem exists_mapM_eq_ok {step : α → Except ε β} {property : β → Prop} {values : List α}
    (each : ∀ value ∈ values, ∃ result, step value = .ok result ∧ property result) :
    ∃ results, values.mapM step = .ok results ∧ ∀ result ∈ results, property result := by
  induction values with
  | nil => exact ⟨[], rfl, nofun⟩
  | cons first rest induction =>
      obtain ⟨result, made, holds⟩ := each first List.mem_cons_self
      obtain ⟨results, later, allHold⟩ := induction fun value isLater =>
        each value (List.mem_cons_of_mem _ isLater)
      rw [List.mapM_cons, made, later]
      exact ⟨result :: results, rfl, List.forall_mem_cons.mpr ⟨holds, allHold⟩⟩

/-- What each step keeps of its value is kept along the list. -/
theorem map_eq_of_mapM_eq_ok {γ : Type} {step : α → Except ε β} {before : α → γ}
    {after : β → γ} (kept : ∀ value result, step value = .ok result →
      after result = before value) {values : List α} :
    ∀ {results : List β}, values.mapM step = .ok results →
      results.map after = values.map before := by
  induction values with
  | nil =>
      intro results success
      cases success
      rfl
  | cons first rest induction =>
      intro results success
      rw [List.mapM_cons] at success
      obtain ⟨firstResult, made, success⟩ := exists_of_bind_eq_ok success
      obtain ⟨others, later, success⟩ := exists_of_bind_eq_ok success
      cases success
      rw [List.map_cons, List.map_cons, kept first firstResult made, induction later]

theorem mapM_map_eq {γ : Type} (step : α → Except ε β) (change : β → γ) (values : List α) :
    (values.mapM fun value => change <$> step value) =
      List.map change <$> values.mapM step := by
  induction values with
  | nil => rfl
  | cons first rest induction =>
      rw [List.mapM_cons, List.mapM_cons, induction]
      cases step first with
      | error fault => rfl
      | ok result => cases rest.mapM step <;> rfl

/-- Steps along lists that follow one another are steps along each of them. -/
theorem mapM_flatMap {γ : Type} (step : β → Except ε γ) (parts : α → List β)
    (values : List α) :
    (values.flatMap parts).mapM step =
      List.flatten <$> values.mapM fun value => (parts value).mapM step := by
  induction values with
  | nil => rfl
  | cons first rest induction =>
      rw [List.flatMap_cons, List.mapM_append, List.mapM_cons, induction]
      cases (parts first).mapM step with
      | error fault => rfl
      | ok results =>
          cases rest.mapM fun value => (parts value).mapM step <;> rfl

end Runs

/-! ## What is left to be seen -/

section Unseen

variable {α : Type} [DecidableEq α]

/-- How many entries of `candidates` are not among `seen`. -/
def unseen (candidates seen : List α) : Nat :=
  candidates.countP fun candidate => candidate ∉ seen

theorem unseen_le {candidates seen more : List α} (kept : ∀ value ∈ seen, value ∈ more) :
    unseen candidates more ≤ unseen candidates seen := by
  refine List.countP_mono_left fun candidate _ fresh => ?_
  simp only [decide_eq_true_eq] at fresh ⊢
  exact fun old => fresh (kept candidate old)

theorem unseen_lt {candidates seen more : List α} (kept : ∀ value ∈ seen, value ∈ more)
    {candidate : α} (isCandidate : candidate ∈ candidates) (fresh : candidate ∉ seen)
    (known : candidate ∈ more) :
    unseen candidates more < unseen candidates seen := by
  induction candidates with
  | nil => nomatch isCandidate
  | cons first rest ih =>
    have rest_le : unseen rest more ≤ unseen rest seen := unseen_le kept
    by_cases same : first = candidate
    · subst same
      simp only [unseen, List.countP_cons, fresh, known] at rest_le ⊢
      simp only [not_true_eq_false, not_false_eq_true, decide_true, decide_false, if_true]
      simp only [Bool.false_eq_true, if_false]
      omega
    · have strict := ih (List.mem_of_ne_of_mem (Ne.symm same) isCandidate)
      simp only [unseen, List.countP_cons] at strict ⊢
      by_cases old : first ∈ seen
      · simp only [old, kept first old, not_true_eq_false, decide_false, Bool.false_eq_true,
          if_false]
        omega
      · simp only [old, not_false_eq_true, decide_true, if_true]
        split <;> omega

end Unseen

end SchemaContent
