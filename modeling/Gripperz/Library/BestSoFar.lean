import Gripperz.Library.Query

/-! # The best answer of a dialogue

A search that questions an oracle keeps a question whose answer is the least of
all it has heard. `BestSoFar` is that invariant together with what is asked at
all: every question is admissible and the first one is known.
-/
namespace Gripperz.Library

structure BestSoFar {I O : Type} [LE O] (P : I → Prop) (f : I → O) (first x : I) (v : O)
    (now : List (I × O)) : Prop where
  value : v = f x
  asked : (x, f x) ∈ now
  least : ∀ e ∈ now, v ≤ e.2
  admissible : ∀ e ∈ now, P e.1
  begins : [(first, f first)] <+: now

namespace BestSoFar
variable {I O : Type} [LinearOrder O] {P : I → Prop} {f : I → O} {first x y : I} {v : O}
  {now : List (I × O)}

theorem start (hP : P x) : BestSoFar P f x x (f x) [(x, f x)] where
  value := rfl
  asked := List.mem_singleton_self _
  least e he := by rw [List.mem_singleton.mp he]
  admissible e he := by rw [List.mem_singleton.mp he]; exact hP
  begins := List.prefix_refl _

/-- A question that does no better leaves the best one as it was. -/
theorem keep (h : BestSoFar P f first x v now) (hP : P y) (hy : v ≤ f y) :
    BestSoFar P f first x v (now ++ [(y, f y)]) where
  value := h.value
  asked := List.mem_append_left _ h.asked
  least := List.forall_mem_append.mpr ⟨h.least, List.forall_mem_singleton.mpr hy⟩
  admissible := List.forall_mem_append.mpr ⟨h.admissible, List.forall_mem_singleton.mpr hP⟩
  begins := h.begins.trans (List.prefix_append _ _)

/-- A question that does better is the new best one. -/
theorem improve (h : BestSoFar P f first x v now) (hP : P y) (hy : f y < v) :
    BestSoFar P f first y (f y) (now ++ [(y, f y)]) where
  value := rfl
  asked := List.mem_append_right _ (List.mem_singleton_self _)
  least := List.forall_mem_append.mpr
    ⟨fun e he => hy.le.trans (h.least e he), List.forall_mem_singleton.mpr le_rfl⟩
  admissible := List.forall_mem_append.mpr ⟨h.admissible, List.forall_mem_singleton.mpr hP⟩
  begins := h.begins.trans (List.prefix_append _ _)

theorem le_first (h : BestSoFar P f first x v now) : f x ≤ f first := by
  have hmem : (first, f first) ∈ now := h.begins.subset (List.mem_singleton_self _)
  exact h.value ▸ h.least _ hmem

omit [LinearOrder O] in
/-- The questions under other names. -/
theorem rename [LE O] {J : Type} {P' : J → Prop} {f : J → O} {g : I → J}
    (h : BestSoFar P (fun x => f (g x)) first x v now) (hP : ∀ y, P y → P' (g y)) :
    BestSoFar P' f (g first) (g x) v (now.map fun e => (g e.1, e.2)) where
  value := h.value
  asked := List.mem_map.mpr ⟨_, h.asked, rfl⟩
  least e he := by
    obtain ⟨d, hd, rfl⟩ := List.mem_map.mp he
    exact h.least d hd
  admissible e he := by
    obtain ⟨d, hd, rfl⟩ := List.mem_map.mp he
    exact hP _ (h.admissible d hd)
  begins := by simpa using h.begins.map fun e => (g e.1, e.2)

end BestSoFar

/-- The best question so far, and the first one with its answer. -/
structure EarliestSoFar {I O : Type} [LinearOrder O] (P : I → Prop) (f : I → O) (first x : I)
    (v : O) (now : List (I × O)) : Prop extends BestSoFar P f first x v now where
  earliest : ∃ before after, now = before ++ (x, f x) :: after ∧ ∀ e ∈ before, v < e.2

namespace EarliestSoFar
variable {I O : Type} [LinearOrder O] {P : I → Prop} {f : I → O} {first x y : I} {v : O}
  {now : List (I × O)}

theorem start (hP : P x) : EarliestSoFar P f x x (f x) [(x, f x)] where
  toBestSoFar := .start hP
  earliest := ⟨[], [], rfl, nofun⟩

theorem keep (h : EarliestSoFar P f first x v now) (hP : P y) (hy : v ≤ f y) :
    EarliestSoFar P f first x v (now ++ [(y, f y)]) where
  toBestSoFar := h.toBestSoFar.keep hP hy
  earliest := by
    obtain ⟨before, after, rfl, hbefore⟩ := h.earliest
    exact ⟨before, after ++ [(y, f y)], by simp, hbefore⟩

theorem improve (h : EarliestSoFar P f first x v now) (hP : P y) (hy : f y < v) :
    EarliestSoFar P f first y (f y) (now ++ [(y, f y)]) where
  toBestSoFar := h.toBestSoFar.improve hP hy
  earliest := ⟨now, [], rfl, fun e he => hy.trans_le (h.least e he)⟩

/-- All that was asked before the best question was answered worse. -/
theorem lt_of_prefix (h : EarliestSoFar P f first x v now) {past rest : List (I × O)}
    (hnow : now = past ++ rest) (hpast : ∀ e ∈ past, e.1 ≠ x) : ∀ e ∈ past, v < e.2 := by
  obtain ⟨before, after, hx, hbefore⟩ := h.earliest
  rw [hnow, List.append_eq_append_iff] at hx
  rcases hx with ⟨between, rfl, -⟩ | ⟨between, rfl, hafter⟩
  · exact fun e he => hbefore e (List.mem_append_left _ he)
  · cases between with
    | nil => simpa using hbefore
    | cons e between =>
      obtain rfl : (x, f x) = e := (List.cons.inj hafter).1
      exact absurd rfl (hpast (x, f x) (by simp))

end EarliestSoFar

/-! ## Searches -/

/-- What a search has asked is admissible and began with `first`, and what it returns is found
by `Best`. -/
def Searched {I O : Type} (P : I → Prop) (f : I → O) (first : I)
    (Best : I → List (I × O) → Prop) (r : Option I) (now : List (I × O)) : Prop :=
  (∀ e ∈ now, P e.1) ∧ [(first, f first)] <+: now ∧ ∀ x, r = some x → Best x now

/-- A loop that always asks admissible questions, and after each round has the best of them in
its state. -/
theorem searched_doWhile {I O σ : Type} {P : I → Prop} {f : I → O} {first : I}
    {Best : I → List (I × O) → Prop} {body : σ → Query I O σ} {again : σ → Bool} (result : σ → I)
    (Inv Post : σ → List (I × O) → Prop)
    (step : ∀ s past, Inv s past → Query.Holds f (body s) past fun s' now =>
      Post s' now ∧ (again s' = true → Inv s' now))
    (asked : ∀ s now, Inv s now ∨ Post s now → (∀ e ∈ now, P e.1) ∧ [(first, f first)] <+: now)
    (best : ∀ s now, Post s now → Best (result s) now) (fuel : ℕ) (s : σ)
    (past : List (I × O)) (h : Inv s past) :
    Query.Holds f (Query.doWhile body again fuel s >>= fun last => pure (last.map result)) past
      (Searched P f first Best) := by
  rw [Query.holds_bind]
  refine (Query.holds_doWhile Inv Post step fuel s past h).mono ?_
  rintro r now (⟨rfl, t, hinv⟩ | ⟨t, rfl, -, hpost⟩)
  · obtain ⟨hadmissible, hbegins⟩ := asked t now (.inl hinv)
    exact Query.holds_pure.mpr ⟨hadmissible, hbegins, nofun⟩
  · obtain ⟨hadmissible, hbegins⟩ := asked t now (.inr hpost)
    refine Query.holds_pure.mpr ⟨hadmissible, hbegins, fun x hx => ?_⟩
    obtain rfl : result t = x := Option.some.inj hx
    exact best t now hpost

/-- What a search returns is the question it has heard the least answer to. -/
abbrev LeastSoFar {I O : Type} [LE O] (P : I → Prop) (f : I → O) (first : I) :
    Option I → List (I × O) → Prop :=
  Searched P f first fun x now => BestSoFar P f first x (f x) now

theorem LeastSoFar.rename {I J O : Type} [LE O] {P : I → Prop} {P' : J → Prop} {f : J → O}
    {g : I → J} {first : I} {r : Option I} {now : List (I × O)}
    (h : LeastSoFar P (fun x => f (g x)) first r now) (hP : ∀ y, P y → P' (g y)) :
    LeastSoFar P' f (g first) (r.map g) (now.map fun e => (g e.1, e.2)) := by
  obtain ⟨hadmissible, hbegins, hbest⟩ := h
  refine ⟨List.forall_mem_map.mpr fun e he => hP _ (hadmissible e he), ?_, ?_⟩
  · simpa using hbegins.map fun e : I × O => (g e.1, e.2)
  intro y hy
  obtain ⟨x, hx, rfl⟩ := Option.map_eq_some_iff.mp hy
  exact (hbest x hx).rename hP

/-- A search returns the question it heard the least answer to, however many rounds it is
given. -/
def ReturnsLeast {I O : Type} [LE O] (P : I → Prop) (f : I → O) (first : I)
    (p : ℕ → Query I O (Option I)) : Prop :=
  ∀ fuel, Query.Holds f (p fuel) [] (LeastSoFar P f first)

/-- A search returns the first of these questions. -/
def ReturnsEarliest {I O : Type} [LinearOrder O] (P : I → Prop) (f : I → O) (first : I)
    (p : ℕ → Query I O (Option I)) : Prop :=
  ∀ fuel, Query.Holds f (p fuel) [] <|
    Searched P f first fun x now => EarliestSoFar P f first x (f x) now

theorem ReturnsEarliest.returnsLeast {I O : Type} [LinearOrder O] {P : I → Prop} {f : I → O}
    {first : I} {p : ℕ → Query I O (Option I)} (h : ReturnsEarliest P f first p) :
    ReturnsLeast P f first p := fun fuel =>
  (h fuel).mono fun _ _ ⟨hadmissible, hbegins, hbest⟩ =>
    ⟨hadmissible, hbegins, fun x hx => (hbest x hx).toBestSoFar⟩

end Gripperz.Library
