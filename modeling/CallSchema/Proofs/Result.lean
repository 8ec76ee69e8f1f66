import Mathlib.Data.List.Forall2
import Mathlib.Data.List.Perm.Basic

/-!
Results of computations that may fail: what a result that is there says about the results that it is
made of.
-/
namespace CallSchema
variable {α β ε : Type}

instance decidableIsOkAnd {p : α → Prop} [DecidablePred p] :
    (result : Except ε α) → Decidable (∃ value, result = .ok value ∧ p value)
  | .ok value => decidable_of_iff (p value) (by simp)
  | .error _ => .isFalse (by simp)

instance decidableIsOk : (result : Except ε α) → Decidable (∃ value, result = .ok value)
  | .ok value => .isTrue ⟨value, rfl⟩
  | .error _ => .isFalse (by simp)

/-- A mapped result comes from a result. -/
theorem exceptMap_eq_ok_iff {result : Except ε α} {f : α → β} {mapped : β} :
    result.map f = .ok mapped ↔ ∃ value, result = .ok value ∧ f value = mapped := by
  cases result <;> simp [Except.map]

/-- Another way of telling errors makes no difference to a result. -/
theorem mapError_eq_ok_iff {δ : Type} {result : Except ε α} {tell : ε → δ} {value : α} :
    result.mapError tell = .ok value ↔ result = .ok value := by
  cases result <;> simp [Except.mapError]

/-- A result after another one comes from both. -/
theorem bind_eq_ok_iff {first : Except ε α} {second : α → Except ε β} {result : β} :
    (first >>= second) = .ok result ↔
      ∃ value, first = .ok value ∧ second value = .ok result := by
  cases first <;> simp [Bind.bind, Except.bind]

/-- A computation after another one succeeds if the first one does and the second one on its
result. -/
theorem bind_isOk_iff {first : Except ε α} {second : α → Except ε β} :
    (∃ result, (first >>= second) = .ok result) ↔
      ∃ value, first = .ok value ∧ ∃ result, second value = .ok result := by
  cases first <;> simp [Bind.bind, Except.bind]

/-- An error after another computation comes from that or from what follows on its result. -/
theorem bind_eq_error_iff {first : Except ε α} {second : α → Except ε β} {error : ε} :
    (first >>= second) = .error error ↔
      first = .error error ∨ ∃ value, first = .ok value ∧ second value = .error error := by
  cases first <;> simp [Bind.bind, Except.bind]

/-- A traversal succeeds with the results of its items, if it does. -/
theorem mapM_eq_ok_iff {each : α → Except ε β} {items : List α} {results : List β} :
    items.mapM each = .ok results ↔
      List.Forall₂ (fun item result => each item = .ok result) items results := by
  induction items generalizing results with
  | nil => cases results <;> simp [pure, Except.pure]
  | cons item rest ih =>
    rw [List.mapM_cons]
    cases first : each item with
    | error => cases results <;> simp [Bind.bind, Except.bind, first]
    | ok value =>
      cases remaining : rest.mapM each with
      | error => cases results <;> simp [Bind.bind, Except.bind, first, ← ih, remaining]
      | ok values =>
        cases results <;>
          simp [Bind.bind, Except.bind, Pure.pure, Except.pure, first, ← ih, remaining]

/-- A traversal is told by what it does with the items that are there. -/
theorem mapM_congr {each other : α → Except ε β} {items : List α}
    (same : ∀ item ∈ items, each item = other item) : items.mapM each = items.mapM other := by
  induction items with
  | nil => rfl
  | cons item rest ih =>
    rw [List.mapM_cons, List.mapM_cons, same item List.mem_cons_self,
      ih fun item member => same item (List.mem_cons_of_mem _ member)]

/-- Where each item has a counterpart, the list of items has a list of them. -/
theorem exists_forall₂ {related : α → β → Prop} {items : List α}
    (each : ∀ item ∈ items, ∃ other, related item other) :
    ∃ others, List.Forall₂ related items others := by
  induction items with
  | nil => exact ⟨[], .nil⟩
  | cons item rest ih =>
    obtain ⟨other, first⟩ := each item List.mem_cons_self
    obtain ⟨others, remaining⟩ := ih fun item member => each item (List.mem_cons_of_mem _ member)
    exact ⟨other :: others, .cons first remaining⟩

/-- Each item of a list has its counterpart in a related list. -/
theorem exists_of_mem_forall₂ {related : α → β → Prop} {items : List α} {others : List β}
    (each : List.Forall₂ related items others) {item : α} (member : item ∈ items) :
    ∃ other ∈ others, related item other := by
  induction each with
  | nil => exact absurd member List.not_mem_nil
  | cons first _ ih =>
    rcases List.mem_cons.mp member with rfl | member
    · exact ⟨_, List.mem_cons_self, first⟩
    · obtain ⟨other, listed, same⟩ := ih member
      exact ⟨other, List.mem_cons_of_mem _ listed, same⟩

/-- Where each item of the second of two related lists has a counterpart, its items can be listed
together with theirs. -/
theorem exists_pairs {γ : Type} {related : α → β → Prop} {kept : α → β × γ → Prop}
    {items : List α} {others : List β} (each : List.Forall₂ related items others)
    (step : ∀ item, ∀ other ∈ others, related item other →
      ∃ counterpart, kept item (other, counterpart)) :
    ∃ pairs : List (β × γ), pairs.map Prod.fst = others ∧ List.Forall₂ kept items pairs := by
  induction each with
  | nil => exact ⟨[], rfl, .nil⟩
  | @cons item other items others first _ ih =>
    obtain ⟨counterpart, head⟩ := step item other List.mem_cons_self first
    obtain ⟨pairs, same, remaining⟩ := ih fun item other member =>
      step item other (List.mem_cons_of_mem _ member)
    exact ⟨(other, counterpart) :: pairs, by rw [List.map_cons, same], .cons head remaining⟩

/-- A traversal succeeds if all its items do. -/
theorem mapM_isOk {each : α → Except ε β} {items : List α}
    (ok : ∀ item ∈ items, ∃ result, each item = .ok result) :
    ∃ results, items.mapM each = .ok results := by
  obtain ⟨results, related⟩ := exists_forall₂ ok
  exact ⟨results, mapM_eq_ok_iff.mpr related⟩

/-- A traversal that succeeds has succeeded on each item. -/
theorem isOk_of_mapM {each : α → Except ε β} {items : List α} {results : List β}
    (ok : items.mapM each = .ok results) {item : α} (member : item ∈ items) :
    ∃ result, each item = .ok result := by
  obtain ⟨result, _, same⟩ := exists_of_mem_forall₂ (mapM_eq_ok_iff.mp ok) member
  exact ⟨result, same⟩

/-- A traversal fails with the error of one of its items. -/
theorem exists_error_of_mapM {each : α → Except ε β} {items : List α} {error : ε}
    (failed : items.mapM each = .error error) : ∃ item ∈ items, each item = .error error := by
  induction items with
  | nil => cases failed
  | cons item rest ih =>
    rw [List.mapM_cons] at failed
    rcases bind_eq_error_iff.mp failed with first | ⟨value, -, others⟩
    · exact ⟨item, List.mem_cons_self, first⟩
    · rcases bind_eq_error_iff.mp others with remaining | ⟨values, -, last⟩
      · obtain ⟨other, listed, same⟩ := ih remaining
        exact ⟨other, List.mem_cons_of_mem _ listed, same⟩
      · cases last

/-- A traversal of items in another order, which goes alike on each, ends with counterparts in
another order. -/
theorem mapM_perm {related : β → β → Prop} {items others : List α} {each other : α → Except ε β}
    {results : List β} (order : items.Perm others)
    (step : ∀ item result, each item = .ok result →
      ∃ counterpart, other item = .ok counterpart ∧ related result counterpart)
    (ok : items.mapM each = .ok results) :
    ∃ counterparts, others.mapM other = .ok counterparts ∧
      ∃ matched, List.Forall₂ related results matched ∧ matched.Perm counterparts := by
  obtain ⟨matched, traversed, paired⟩ : ∃ matched,
      List.Forall₂ (fun item counterpart => other item = .ok counterpart) items matched ∧
        List.Forall₂ related results matched := by
    have all := mapM_eq_ok_iff.mp ok
    clear ok order
    induction all with
    | nil => exact ⟨[], .nil, .nil⟩
    | cons first _ ih =>
      obtain ⟨counterpart, second, same⟩ := step _ _ first
      obtain ⟨matched, traversed, paired⟩ := ih
      exact ⟨counterpart :: matched, .cons second traversed, .cons same paired⟩
  obtain ⟨counterparts, reordered, moved⟩ := List.perm_comp_forall₂ order.symm traversed
  exact ⟨counterparts, mapM_eq_ok_iff.mpr reordered, matched, paired, moved.symm⟩

end CallSchema
