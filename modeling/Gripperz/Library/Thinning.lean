import Mathlib.Data.Set.Function

/-! # Greedy thinning

Items are visited in order. An item that is still there removes all items near it. Every
item has a cell; what is removed are cells, so that items with one cell go together.
-/
namespace Gripperz.Library

/-- Nearness of items: symmetric, and no item is near itself. -/
structure Nearness (α : Type) where
  near : α → α → Prop
  irrefl : ∀ a, ¬ near a a
  symm : ∀ {a b}, near a b → near b a

namespace Nearness
variable {α ρ : Type} (N : Nearness α) (cell : α → ρ) (items : List α)

/-- An item is visited. -/
def visit (removed : Set ρ) (a : α) : Set ρ :=
  {r | r ∈ removed ∨ cell a ∉ removed ∧ ∃ b ∈ items, N.near a b ∧ cell b = r}

/-- The items of a list are visited in order. -/
def thin (removed : Set ρ) (visited : List α) : Set ρ :=
  visited.foldl (N.visit cell items) removed

variable {N cell items} {removed : Set ρ} {visited : List α}

theorem subset_visit (a : α) : removed ⊆ N.visit cell items removed a := fun _ => Or.inl

theorem subset_thin : removed ⊆ N.thin cell items removed visited := by
  induction visited generalizing removed with
  | nil => exact fun _ h => h
  | cons a visited ih => exact (subset_visit a).trans ih

/-- What is removed is near an item visited. -/
theorem mem_thin {r : ρ} (h : r ∈ N.thin cell items removed visited) :
    r ∈ removed ∨ ∃ a ∈ visited, ∃ b ∈ items, N.near a b ∧ cell b = r := by
  induction visited generalizing removed with
  | nil => exact Or.inl h
  | cons a visited ih =>
    rcases ih h with (h | ⟨_, b, hb⟩) | ⟨a', ha', hb⟩
    · exact Or.inl h
    · exact Or.inr ⟨a, by simp, b, hb⟩
    · exact Or.inr ⟨a', by simp [ha'], hb⟩

/-- A visited item that stays has removed all items near it. -/
theorem mem_thin_of_near {a b : α} (ha : a ∈ visited) (hb : b ∈ items) (hnear : N.near a b)
    (stays : cell a ∉ N.thin cell items removed visited) :
    cell b ∈ N.thin cell items removed visited := by
  induction visited generalizing removed with
  | nil => simp at ha
  | cons a' visited ih =>
    rcases List.mem_cons.mp ha with rfl | ha
    · have hrest : N.visit cell items removed a ⊆ N.thin cell items removed (a :: visited) :=
        subset_thin
      have hthere : cell a ∉ removed := fun h => stays (hrest (subset_visit a h))
      exact hrest (Or.inr ⟨hthere, b, hb, hnear, rfl⟩)
    · exact ih ha stays

/-- Nothing is removed when no two items are near each other. -/
theorem thin_of_apart (h : ∀ a ∈ visited, ∀ b ∈ items, ¬ N.near a b) :
    N.thin cell items removed visited = removed := by
  apply Set.Subset.antisymm _ subset_thin
  intro r hr
  rcases mem_thin hr with hr | ⟨a, ha, b, hb, hnear, _⟩
  · exact hr
  · exact absurd hnear (h a ha b hb)

/-- When all items are visited and none is removed at first, something is removed exactly
when two of them are near each other. -/
theorem thin_eq_iff (fresh : ∀ a ∈ items, cell a ∉ removed) :
    N.thin cell items removed items = removed ↔ ∀ a ∈ items, ∀ b ∈ items, ¬ N.near a b := by
  constructor
  · intro h a ha b hb hnear
    have hmem : cell b ∈ N.thin cell items removed items := by
      apply mem_thin_of_near ha hb hnear
      rw [h]
      exact fresh a ha
    rw [h] at hmem
    exact fresh b hb hmem
  · exact thin_of_apart

/-! ## Items with cells of their own -/

/-- Every item removed has an item near it that stays, and which has removed all it is near
to. -/
def Kept (N : Nearness α) (cell : α → ρ) (items : List α) (old removed : Set ρ) : Prop :=
  ∀ b ∈ items, cell b ∈ removed → cell b ∈ old ∨
    ∃ a ∈ items, N.near a b ∧ cell a ∉ removed ∧ ∀ c ∈ items, N.near a c → cell c ∈ removed

theorem Kept.visit {old : Set ρ} (own : Set.InjOn cell {a | a ∈ items})
    (h : Kept N cell items old removed) {x : α} (hx : x ∈ items) :
    Kept N cell items old (N.visit cell items removed x) := by
  intro b hb hmem
  rcases hmem with hold | ⟨hthere, c, hc, hnear, hcell⟩
  · rcases h b hb hold with h | ⟨a, ha, hab, hstays, hall⟩
    · exact Or.inl h
    · refine Or.inr ⟨a, ha, hab, ?_, fun c hc hac => Or.inl (hall c hc hac)⟩
      rintro (hgone | ⟨hthere, c, hc, hxc, hcell⟩)
      · exact hstays hgone
      · rw [own hc ha hcell] at hxc
        exact hthere (hall x hx (N.symm hxc))
  · rw [own hc hb hcell] at hnear
    refine Or.inr ⟨x, hx, hnear, ?_, fun c hc hxc => Or.inr ⟨hthere, c, hc, hxc, rfl⟩⟩
    rintro (hgone | ⟨_, c, hc, hxc, hcell⟩)
    · exact hthere hgone
    · rw [own hc hx hcell] at hxc
      exact N.irrefl x hxc

/-- Every item removed is near one that stays. -/
theorem near_of_mem_thin (own : Set.InjOn cell {a | a ∈ items})
    (hvisited : ∀ a ∈ visited, a ∈ items) {b : α} (hb : b ∈ items)
    (h : cell b ∈ N.thin cell items removed visited) :
    cell b ∈ removed ∨
      ∃ a ∈ items, N.near a b ∧ cell a ∉ N.thin cell items removed visited := by
  have hkept (now : Set ρ) (start : Kept N cell items removed now) :
      Kept N cell items removed (N.thin cell items now visited) := by
    clear h
    induction visited generalizing now with
    | nil => exact start
    | cons a visited ih =>
      apply ih (fun c hc => hvisited c (by simp [hc]))
      exact start.visit own (hvisited a (by simp))
  rcases hkept removed (fun _ _ => Or.inl) b hb h with h | ⟨a, ha, hab, hstays, _⟩
  · exact Or.inl h
  · exact Or.inr ⟨a, ha, hab, hstays⟩

/-! ## What greedy thinning keeps -/

/-- No two items are near each other. -/
def Apart (N : Nearness α) (items : List α) : Prop := ∀ a ∈ items, ∀ b ∈ items, ¬ N.near a b

theorem apart_replicate (n : ℕ) (a : α) : N.Apart (List.replicate n a) := by
  intro b hb c hc
  rw [List.eq_of_mem_replicate hb, List.eq_of_mem_replicate hc]
  exact N.irrefl a

/-- Of any two items near each other at most one is kept, and an item that is not kept is near
one that is. -/
structure Thins (N : Nearness α) (items : List α) (kept : α → Prop) : Prop where
  covered : ∀ b ∈ items, ¬ kept b → ∃ a ∈ items, kept a ∧ N.near a b
  apart : ∀ a ∈ items, ∀ b ∈ items, kept a → kept b → ¬ N.near a b

/-- Greedy thinning of items none of which is removed at first. -/
theorem thins_thin (own : Set.InjOn cell {a | a ∈ items}) (fresh : ∀ a ∈ items, cell a ∉ removed) :
    N.Thins items fun a => cell a ∉ N.thin cell items removed items := by
  constructor
  · intro b hb hgone
    rcases near_of_mem_thin own (fun _ h => h) hb (not_not.mp hgone) with h | ⟨a, ha, hab, hstays⟩
    · exact absurd h (fresh b hb)
    · exact ⟨a, ha, hstays, hab⟩
  · intro a ha b hb hstays hstays' hnear
    exact hstays' (mem_thin_of_near ha hb hnear hstays)

/-- All items are kept exactly when no two of them are near each other. -/
theorem Thins.all_kept_iff {kept : α → Prop} (h : N.Thins items kept) :
    (∀ a ∈ items, kept a) ↔ N.Apart items := by
  constructor
  · intro hall a ha b hb
    exact h.apart a ha b hb (hall a ha) (hall b hb)
  · intro hfar b hb
    by_contra hgone
    obtain ⟨a, ha, _, hnear⟩ := h.covered b hb hgone
    exact hfar a ha b hb hnear

/-! ## First come, first kept -/

section
variable (N : Nearness α) [DecidableRel N.near]

/-- Of the items of a list each is kept that is near none kept before it. -/
def firsts (kept : List α) : List α → List α
  | [] => kept
  | a :: l => firsts (if ∃ b ∈ kept, N.near b a then kept else kept ++ [a]) l

variable {N}

theorem firsts_append (kept l l' : List α) :
    N.firsts kept (l ++ l') = N.firsts (N.firsts kept l) l' := by
  induction l generalizing kept with
  | nil => rfl
  | cons a l ih => exact ih _

theorem mem_firsts_of_mem {kept l : List α} {a : α} (h : a ∈ kept) : a ∈ N.firsts kept l := by
  induction l generalizing kept with
  | nil => exact h
  | cons b l ih =>
    apply ih
    split_ifs
    · exact h
    · exact List.mem_append_left _ h

/-- An item of the list that is near none kept is kept. -/
theorem mem_firsts {kept l : List α} {a : α} (ha : a ∈ l)
    (h : ∀ b ∈ N.firsts kept l, ¬ N.near b a) : a ∈ N.firsts kept l := by
  induction l generalizing kept with
  | nil => cases ha
  | cons c l ih =>
    rcases List.mem_cons.mp ha with rfl | ha
    · rw [firsts]
      apply mem_firsts_of_mem
      rw [if_neg]
      · exact List.mem_append_right _ (List.mem_singleton_self a)
      · rintro ⟨b, hb, hnear⟩
        exact h b (mem_firsts_of_mem hb) hnear
    · exact ih ha h

/-- What is kept is what is near none that is kept. -/
theorem firsts_eq (kept l : List α) :
    N.firsts kept l = kept ++ l.filter fun a => ¬ ∃ b ∈ N.firsts kept l, N.near b a := by
  induction l generalizing kept with
  | nil => simp [firsts]
  | cons a l ih =>
    by_cases hgone : ∃ b ∈ kept, N.near b a
    · have hrest : N.firsts kept (a :: l) = N.firsts kept l := by rw [firsts, if_pos hgone]
      obtain ⟨b, hb, hnear⟩ := hgone
      have hdrop : ¬ ¬ ∃ b ∈ N.firsts kept l, N.near b a :=
        not_not.mpr ⟨b, mem_firsts_of_mem hb, hnear⟩
      rw [hrest, List.filter_cons_of_neg (by simpa using hdrop)]
      exact ih kept
    · have hrest : N.firsts kept (a :: l) = N.firsts (kept ++ [a]) l := by rw [firsts, if_neg hgone]
      have hsplit := ih (kept ++ [a])
      have hstays : ¬ ∃ b ∈ N.firsts (kept ++ [a]) l, N.near b a := by
        rintro ⟨b, hb, hnear⟩
        rw [hsplit] at hb
        rcases List.mem_append.mp hb with hb | hb
        · rcases List.mem_append.mp hb with hb | hb
          · exact hgone ⟨b, hb, hnear⟩
          · rw [List.mem_singleton.mp hb] at hnear
            exact N.irrefl a hnear
        · have hfar := of_decide_eq_true (List.mem_filter.mp hb).2
          exact hfar ⟨a, mem_firsts_of_mem (by simp), N.symm hnear⟩
      rw [hrest, List.filter_cons_of_pos (by simpa using hstays)]
      rwa [List.append_assoc, List.singleton_append] at hsplit

/-- One more of an item makes no difference to the items after it. -/
theorem length_firsts_copy {kept kept' l : List α} (n : ℕ)
    (hnear : ∀ a, (∃ b ∈ kept', N.near b a) ↔ ∃ b ∈ kept, N.near b a)
    (hlength : kept'.length = kept.length + n) :
    (N.firsts kept' l).length = (N.firsts kept l).length + n := by
  induction l generalizing kept kept' with
  | nil => exact hlength
  | cons a l ih =>
    rw [firsts, firsts]
    simp only [hnear a]
    split_ifs
    · exact ih hnear hlength
    · apply ih
      · intro c
        simp only [List.mem_append, or_and_right, exists_or, hnear c]
      · simp only [List.length_append, hlength]
        omega

/-- An item near one that is kept before it changes nothing. -/
theorem firsts_insert_of_near {before after : List α} {a : α}
    (h : ∃ b ∈ N.firsts [] before, N.near b a) :
    N.firsts [] (before ++ a :: after) = N.firsts [] (before ++ after) := by
  rw [firsts_append, firsts_append, firsts, if_pos h]

/-- A copy of an item that is kept is kept. -/
theorem length_firsts_insert {before after : List α} {a : α} (ha : a ∈ before)
    (h : ¬ ∃ b ∈ N.firsts [] before, N.near b a) :
    (N.firsts [] (before ++ a :: after)).length = (N.firsts [] (before ++ after)).length + 1 := by
  rw [firsts_append, firsts_append, firsts, if_neg h]
  apply length_firsts_copy
  · intro c
    simp only [List.mem_append, List.mem_singleton, or_and_right, exists_or, exists_eq_left]
    constructor
    · rintro (h' | hnear)
      · exact h'
      · exact ⟨a, mem_firsts ha fun b hb hnear => h ⟨b, hb, hnear⟩, hnear⟩
    · exact Or.inl
  · simp

end

theorem firsts_map {β : Type} {N : Nearness α} {M : Nearness β} [DecidableRel N.near]
    [DecidableRel M.near] (f : β → α) (h : ∀ a b, M.near a b ↔ N.near (f a) (f b))
    (kept l : List β) : N.firsts (kept.map f) (l.map f) = (M.firsts kept l).map f := by
  induction l generalizing kept with
  | nil => rfl
  | cons a l ih =>
    have hsame : (∃ b ∈ kept.map f, N.near b (f a)) ↔ ∃ b ∈ kept, M.near b a := by
      simp [h]
    rw [List.map_cons, firsts, firsts, ← ih]
    congr 1
    simp only [hsame]
    split_ifs <;> simp

/-- What greedy thinning removes, when every item is its own cell: all that is near a first. -/
theorem thin_eq_firsts [DecidableRel N.near] (hvisited : ∀ a ∈ visited, a ∈ items) :
    N.thin id items ∅ visited = {b | b ∈ items ∧ ∃ a ∈ N.firsts [] visited, N.near a b} := by
  have hrun (kept : List α) (removed : Set α)
      (h : removed = {b | b ∈ items ∧ ∃ a ∈ kept, N.near a b}) :
      N.thin id items removed visited =
        {b | b ∈ items ∧ ∃ a ∈ N.firsts kept visited, N.near a b} := by
    induction visited generalizing kept removed with
    | nil => exact h
    | cons a visited ih =>
      apply ih (fun c hc => hvisited c (List.mem_cons_of_mem a hc))
      subst h
      have ha := hvisited a List.mem_cons_self
      ext b
      simp only [visit, id, Set.mem_ofPred_eq, ha, true_and]
      split_ifs with hgone
      · simp [hgone]
      · simp only [hgone, not_false_eq_true, true_and, List.mem_append, List.mem_singleton,
          or_and_right, exists_or, exists_eq_left]
        constructor
        · rintro (⟨hb, h⟩ | ⟨_, hb, hnear, rfl⟩)
          · exact ⟨hb, Or.inl h⟩
          · exact ⟨hb, Or.inr hnear⟩
        · rintro ⟨hb, h | hnear⟩
          · exact Or.inl ⟨hb, h⟩
          · exact Or.inr ⟨b, hb, hnear, rfl⟩
  exact hrun [] ∅ (by simp)

end Nearness
end Gripperz.Library
