import Mathlib.Data.List.Forall2
import SchemaContent.Steps

/-! # Runs compared

Two computations that may fail are compared by how they end: with related faults
or with related values. The comparison goes through a sequence of steps, so that
two recursive functions of one shape are compared step by step. -/

namespace SchemaContent

variable {ε φ α β γ δ : Type}

/-- Two runs that fail together, with related faults, or succeed together, with
related values. -/
inductive Related (sameFault : ε → φ → Prop) (sameValue : α → β → Prop) :
    Except ε α → Except φ β → Prop
  | error {fault : ε} {other : φ} (same : sameFault fault other) :
      Related sameFault sameValue (.error fault) (.error other)
  | ok {value : α} {other : β} (same : sameValue value other) :
      Related sameFault sameValue (.ok value) (.ok other)

/-- Two runs that fail together, whatever the faults, or have the same result. -/
abbrev Alike (run other : Except ε α) : Prop :=
  Related (fun _ _ => True) Eq run other

namespace Related

variable {sameFault : ε → φ → Prop} {sameValue : α → β → Prop}
variable {sameResult : γ → δ → Prop}
variable {left : Except ε α} {right : Except φ β}

/-- After related steps, steps that are related for what the first run has led to end
alike. -/
theorem bind_of_eq_ok {next : α → Except ε γ} {other : β → Except φ δ}
    (first : Related sameFault sameValue left right)
    (rest : ∀ value peer, left = .ok value → sameValue value peer →
      Related sameFault sameResult (next value) (other peer)) :
    Related sameFault sameResult (left >>= next) (right >>= other) := by
  cases first with
  | error same => exact .error same
  | ok same => exact rest _ _ rfl same

/-- Related steps after related steps end alike. -/
theorem bind {next : α → Except ε γ} {other : β → Except φ δ}
    (first : Related sameFault sameValue left right)
    (rest : ∀ value peer, sameValue value peer →
      Related sameFault sameResult (next value) (other peer)) :
    Related sameFault sameResult (left >>= next) (right >>= other) :=
  first.bind_of_eq_ok fun value peer _ => rest value peer

theorem map {change : α → γ} {other : β → δ}
    (first : Related sameFault sameValue left right)
    (changed : ∀ value peer, sameValue value peer →
      sameResult (change value) (other peer)) :
    Related sameFault sameResult (change <$> left) (other <$> right) := by
  cases first with
  | error same => exact .error same
  | ok same => exact .ok (changed _ _ same)

theorem refl (run : Except ε α) : Related Eq Eq run run := by
  cases run with
  | error fault => exact .error rfl
  | ok value => exact .ok rfl

theorem exists_of_eq_ok {value : α}
    (related : Related sameFault sameValue left right) (success : left = .ok value) :
    ∃ peer, right = .ok peer ∧ sameValue value peer := by
  cases related with
  | error => cases success
  | ok same =>
      cases success
      exact ⟨_, rfl, same⟩

theorem eq {run other : Except ε α} (related : Related Eq Eq run other) :
    run = other := by
  cases related with
  | error same => exact congrArg _ same
  | ok same => exact congrArg _ same

theorem imp_of_eq_ok {looseValue : α → β → Prop} (related : Related sameFault sameValue left right)
    (loosened : ∀ value peer, left = .ok value → sameValue value peer → looseValue value peer) :
    Related sameFault looseValue left right := by
  cases related with
  | error same => exact .error same
  | ok same => exact .ok (loosened _ _ rfl same)

theorem imp {looseValue : α → β → Prop} (related : Related sameFault sameValue left right)
    (loosened : ∀ value peer, sameValue value peer → looseValue value peer) :
    Related sameFault looseValue left right :=
  related.imp_of_eq_ok fun value peer _ => loosened value peer

theorem anyFault (related : Related sameFault sameValue left right) :
    Related (fun _ _ => True) sameValue left right := by
  cases related with
  | error => exact .error trivial
  | ok same => exact .ok same

/-- Related steps along related lists end alike. -/
theorem mapM {sameEntry : γ → δ → Prop} {step : γ → Except ε α} {other : δ → Except φ β}
    {entries : List γ} {peers : List δ} (matched : List.Forall₂ sameEntry entries peers)
    (steps : ∀ entry peer, sameEntry entry peer →
      Related sameFault sameValue (step entry) (other peer)) :
    Related sameFault (List.Forall₂ sameValue) (entries.mapM step) (peers.mapM other) := by
  induction matched with
  | nil => exact .ok .nil
  | cons head _ induction =>
      rw [List.mapM_cons, List.mapM_cons]
      refine (steps _ _ head).bind ?_
      intro value peer same
      refine induction.bind ?_
      intro values peers matched
      exact .ok (.cons same matched)

/-- Runs with equal ends after a change of their values. -/
theorem of_map_eq {run : Except ε α} {other : Except ε β} {change : α → γ}
    {peerChange : β → γ} (equal : change <$> run = peerChange <$> other) :
    Related Eq (fun value peer => change value = peerChange peer) run other := by
  cases run with
  | error fault =>
      cases other with
      | error otherFault => exact .error (Except.error.inj equal)
      | ok peer => cases equal
  | ok value =>
      cases other with
      | error otherFault => cases equal
      | ok peer => exact .ok (Except.ok.inj equal)

theorem alike_of_eq {run other : Except ε α} (equal : run = other) : Alike run other := by
  subst equal
  cases run with
  | error fault => exact .error trivial
  | ok value => exact .ok rfl

theorem flip (related : Related sameFault sameValue left right) :
    Related (fun fault other => sameFault other fault)
      (fun value peer => sameValue peer value) right left := by
  cases related with
  | error same => exact .error same
  | ok same => exact .ok same

/-! ## Runs in another order -/

private theorem exists_of_mapM_of_perm [Nonempty β] {values others : List α}
    (same : values.Perm others) {step other : α → Except ε β}
    (alike : ∀ value ∈ values, Alike (step value) (other value))
    {results : List β} (success : values.mapM step = .ok results) :
    ∃ result : α → β, (∀ value ∈ values, step value = .ok (result value)) ∧
      results = values.map result ∧ others.mapM other = .ok (others.map result) := by
  have each : ∀ value, ∃ result, value ∈ values → step value = .ok result := by
    intro value
    by_cases isValue : value ∈ values
    · obtain ⟨result, made⟩ := exists_of_mapM_eq_ok success value isValue
      exact ⟨result, fun _ => made⟩
    · exact ⟨Classical.arbitrary β, fun present => absurd present isValue⟩
  choose result made using each
  refine ⟨result, made, ?_, ?_⟩
  · rw [mapM_eq_ok_map made] at success
    exact (Except.ok.inj success).symm
  · apply mapM_eq_ok_map
    intro value isOther
    have isValue := same.mem_iff.mpr isOther
    obtain ⟨peer, otherMade, equal⟩ :=
      (alike value isValue).exists_of_eq_ok (made value isValue)
    rw [otherMade, equal]

/-- Steps along a list and along a permutation of it succeed together, and each
entry has the same result in both. -/
theorem mapM_of_perm [Nonempty β] {values others : List α} (same : values.Perm others)
    {step other : α → Except ε β}
    (alike : ∀ value ∈ values, Alike (step value) (other value)) :
    Related (fun _ _ => True)
      (fun results peers => ∃ result : α → β,
        (∀ value ∈ values, step value = .ok (result value)) ∧
          results = values.map result ∧ peers = others.map result)
      (values.mapM step) (others.mapM other) := by
  cases run : values.mapM step with
  | ok results =>
      obtain ⟨result, made, isResult, otherRun⟩ :=
        exists_of_mapM_of_perm same alike run
      rw [otherRun]
      exact .ok ⟨result, made, isResult, rfl⟩
  | error fault =>
      cases otherRun : others.mapM other with
      | error => exact .error trivial
      | ok peers =>
          -- From right to left, this success would be one of the steps that failed.
          have alikeBack : ∀ value ∈ others, Alike (other value) (step value) := by
            intro value isOther
            have back := (alike value (same.mem_iff.mpr isOther)).flip
            simpa only [eq_comm] using back
          obtain ⟨_, _, _, success⟩ :=
            exists_of_mapM_of_perm same.symm alikeBack otherRun
          rw [run] at success
          cases success

end Related

/-! ## Lists -/

/-- An entry of one of two related lists has its peer in the other. -/
theorem exists_of_mem_of_forall₂ {related : α → β → Prop} {values : List α}
    {peers : List β} (matched : List.Forall₂ related values peers) {value : α}
    (isValue : value ∈ values) : ∃ peer ∈ peers, related value peer := by
  induction matched with
  | nil => cases isValue
  | @cons first peer _ _ head _ induction =>
      rcases List.mem_cons.mp isValue with rfl | isLater
      · exact ⟨peer, List.mem_cons_self, head⟩
      · rcases induction isLater with ⟨other, isOther, holds⟩
        exact ⟨other, List.mem_cons_of_mem _ isOther, holds⟩

end SchemaContent
