import Mathlib.Data.List.Forall2
import Mathlib.Data.List.Perm.Basic

/-!
# Lists side by side

Two lists of which each element is related to the one at the same place.
-/

set_option autoImplicit false

namespace RecordSync

theorem forall₂_trans {α β γ : Type} {R : α → β → Prop} {S : β → γ → Prop} {T : α → γ → Prop}
    (step : ∀ a b c, R a b → S b c → T a c) {as : List α} {bs : List β} {cs : List γ} (h : List.Forall₂ R as bs)
    (k : List.Forall₂ S bs cs) : List.Forall₂ T as cs := by
  induction h generalizing cs with
  | nil => cases k; exact .nil
  | cons first _ ih =>
    cases k with
    | cons second rest => exact .cons (step _ _ _ first second) (ih rest)

theorem forall₂_split {α β : Type} {R : α → β → Prop} {as : List α} {front back : List β} {b : β}
    (h : List.Forall₂ R as (front ++ b :: back)) :
    ∃ before a after, as = before ++ a :: after ∧ List.Forall₂ R before front ∧ R a b ∧ List.Forall₂ R after back := by
  induction front generalizing as with
  | nil =>
    cases h with
    | cons first rest => exact ⟨[], _, _, rfl, .nil, first, rest⟩
  | cons other front ih =>
    cases h with
    | cons first rest =>
      obtain ⟨before, a, after, rfl, below, here, above⟩ := ih rest
      exact ⟨_ :: before, a, after, rfl, .cons first below, here, above⟩

theorem forall₂_mono {α β : Type} {R S : α → β → Prop} {as : List α} {bs : List β} (h : List.Forall₂ R as bs)
    (weaker : ∀ a ∈ as, ∀ b ∈ bs, R a b → S a b) : List.Forall₂ S as bs := by
  induction h with
  | nil => exact .nil
  | cons first _ ih =>
    exact .cons (weaker _ (.head _) _ (.head _) first) (ih fun a ha b hb => weaker a (.tail _ ha) b (.tail _ hb))

theorem forall₂_exists_right {α β : Type} {R : α → β → Prop} {as : List α} {bs : List β} (h : List.Forall₂ R as bs)
    {a : α} (ha : a ∈ as) : ∃ b ∈ bs, R a b := by
  induction h with
  | nil => cases ha
  | cons first _ ih =>
    rcases List.mem_cons.1 ha with rfl | ha
    · exact ⟨_, .head _, first⟩
    · obtain ⟨b, hb, related⟩ := ih ha
      exact ⟨b, .tail _ hb, related⟩

theorem forall₂_exists {α β : Type} {R : α → β → Prop} {as : List α} {bs : List β} (h : List.Forall₂ R as bs) {b : β}
    (hb : b ∈ bs) : ∃ a ∈ as, R a b := by
  obtain ⟨front, back, rfl⟩ := List.append_of_mem hb
  obtain ⟨before, a, after, rfl, -, here, -⟩ := forall₂_split h
  exact ⟨a, by simp, here⟩

theorem forall₂_of_mapM_some {α β : Type} {f : α → Option β} {inputs : List α} {results : List β}
    (h : inputs.mapM f = some results) : List.Forall₂ (fun input result => f input = some result) inputs results := by
  induction inputs generalizing results with
  | nil =>
    cases h
    exact .nil
  | cons input rest ih =>
    simp only [List.mapM_cons, Option.bind_eq_bind, Option.bind_eq_some_iff] at h
    obtain ⟨first, done, later, others, result⟩ := h
    cases result
    exact .cons done (ih others)

theorem forall₂_map_eq {α β : Type} {f : α → β} {as bs : List α} :
    List.Forall₂ (fun a b => f a = f b) as bs ↔ as.map f = bs.map f := by
  rw [← List.forall₂_eq_eq_eq, List.forall₂_map_left_iff, List.forall₂_map_right_iff]

theorem forall₂_replaced {α : Type} {R : α → α → Prop} (refl : ∀ a, R a a) (front back : List α) {a b : α} (h : R a b) :
    List.Forall₂ R (front ++ a :: back) (front ++ b :: back) := by
  induction front with
  | nil => exact .cons h (List.forall₂_same.2 fun c _ => refl c)
  | cons c rest ih => exact .cons (refl c) ih

/-- To move the elements of one list is to move those of the other along. -/
theorem forall₂_moved {α β : Type} {R : α → β → Prop} {as : List α} {bs others : List β} (h : List.Forall₂ R as bs)
    (perm : bs.Perm others) : ∃ moved, as.Perm moved ∧ List.Forall₂ R moved others := by
  have both : Relation.Comp (List.Forall₂ R) List.Perm as others := ⟨bs, h, perm⟩
  rwa [List.forall₂_comp_perm_eq_perm_comp_forall₂] at both

end RecordSync
