import Gripperz.Optimization.OptimizationManager

/-! # Constrained optimization

Outside its box a constrained function has the value zero. The point returned is in the box as
long as no optimizer can take a point outside for the best one: the search, run without the
constraint, has come to something better than zero before it leaves the box, if it leaves it.
-/
namespace Gripperz.Optimization.OptimizationManager
open Library Math

variable {R : Type} [Field R] [LinearOrder R] {norm2 : Q R → R}

/-- The points an optimization evaluates, in the user's coordinates, and the values to be made
small. -/
def evaluations (m : OptimizationManager norm2) (f : List R → R) (dir : String)
    (guess : List R) (fuel : ℕ) : List (List R × R) :=
  match (m.parameterMap guess).unmap guess with
  | .ok start =>
      ((m.optimizer.minimize start fuel).exec (m.normalized f dir guess)).2.map fun e =>
        (m.point guess e.1, e.2)
  | .error _ => []

/-- The manager with `constrain = false`. -/
def unconstrained (m : OptimizationManager norm2) : OptimizationManager norm2 :=
  { m with constrained := false }

/-- A point of this value is not given up for one outside the ranges, of value zero. Among equal
vertices a simplex may prefer any. -/
def Outdoes (m : OptimizationManager norm2) (v : R) : Prop :=
  v < 0 ∨ v = 0 ∧ ¬ m.optimizer.IsSimplex

/-- Without the constraint, the search leaves the ranges only after it has evaluated a point
inside that outdoes those outside. -/
def LeavesLate (m : OptimizationManager norm2) (f : List R → R) (dir : String)
    (guess : List R) : Prop :=
  ∀ fuel before x v after,
    m.unconstrained.evaluations f dir guess fuel = before ++ (x, v) :: after →
      ¬ InRanges m.ranges x → ∃ e ∈ before, InRanges m.ranges e.1 ∧ m.Outdoes e.2

/-- Optimization ends, when the counter can pass the limit, and always in a point of the ranges
that is at least as good as the guess. -/
structure StaysFeasible (m : OptimizationManager norm2) (f : List R → R) (dir : String)
    (guess : List R) : Prop where
  returns : guess ≠ [] → m.optimizer.CanPassLimit guess.length → ∀ s, ∃ enough, ∀ fuel,
    enough ≤ fuel → ∃ r s', (m.optimize (recorded f) guess dir fuel).run s = .ok (some r, s')
  feasible : ∀ fuel s r s', (m.optimize (recorded f) guess dir fuel).run s = .ok (some r, s') →
    InRanges m.ranges r ∧ if dir = "maximize" then f guess ≤ f r else f r ≤ f guess

/-- The search evaluates a point outside the ranges to zero before anything outdoes it. -/
def TakesOutside (m : OptimizationManager norm2) (f : List R → R) (dir : String)
    (guess : List R) : Prop :=
  ∃ fuel before x after, m.evaluations f dir guess fuel = before ++ (x, 0) :: after ∧
    ¬ InRanges m.ranges x ∧ ∀ e ∈ before, ¬ m.Outdoes e.2

variable [IsStrictOrderedRing R] {m : OptimizationManager norm2} {f : List R → R} {dir : String}
  {guess start : List R}

omit [IsStrictOrderedRing R] in
theorem evaluations_eq (hstart : (m.parameterMap guess).unmap guess = .ok start) (fuel : ℕ) :
    m.evaluations f dir guess fuel =
      ((m.optimizer.minimize start fuel).exec (m.normalized f dir guess)).2.map fun e =>
        (m.point guess e.1, e.2) := by
  rw [evaluations, hstart]

omit [IsStrictOrderedRing R] in
theorem evaluations_of_exec (hstart : (m.parameterMap guess).unmap guess = .ok start)
    {fuel : ℕ} {before after : List (List R × R)} {x : List R} {v : R}
    (hlog : ((m.optimizer.minimize start fuel).exec (m.normalized f dir guess)).2 =
      before ++ (x, v) :: after) :
    m.evaluations f dir guess fuel = before.map (fun e => (m.point guess e.1, e.2)) ++
      (m.point guess x, v) :: after.map fun e => (m.point guess e.1, e.2) := by
  rw [evaluations_eq hstart, hlog, List.map_append, List.map_cons]

theorem signed_le_signed {x y : List R} :
    signed dir f x ≤ signed dir f y ↔ if dir = "maximize" then f y ≤ f x else f x ≤ f y := by
  by_cases hmax : dir = "maximize" <;> simp [signed, hmax]

omit [IsStrictOrderedRing R] in
theorem normalized_of_inRanges {x : List R} (hx : InRanges m.ranges (m.point guess x)) :
    m.normalized f dir guess x = signed dir f (m.point guess x) :=
  if_pos fun _ => hx

omit [IsStrictOrderedRing R] in
theorem normalized_of_not_inRanges (hm : m.constrained = true) {x : List R}
    (hx : ¬ InRanges m.ranges (m.point guess x)) : m.normalized f dir guess x = 0 :=
  if_neg fun hcalls => hx (hcalls hm)

omit [IsStrictOrderedRing R] in
/-- The constrained search and the one without the constraint agree within the ranges. -/
theorem normalized_unconstrained {x : List R} (hx : InRanges m.ranges (m.point guess x)) :
    m.normalized f dir guess x = m.unconstrained.normalized f dir guess x :=
  (normalized_of_inRanges hx).trans (normalized_of_inRanges (m := m.unconstrained) hx).symm

omit [IsStrictOrderedRing R] in
/-- A search that has found something to outdo the points outside returns a point inside. -/
theorem inRanges_of_outdoes (hm : m.constrained = true) {fuel : ℕ} {y : List R}
    (hy : ((m.optimizer.minimize start fuel).exec (m.normalized f dir guess)).1 = some y)
    {past rest : List (List R × R)}
    (hlog : ((m.optimizer.minimize start fuel).exec (m.normalized f dir guess)).2 = past ++ rest)
    (hpast : ∀ e ∈ past, InRanges m.ranges (m.point guess e.1)) {e : List R × R} (he : e ∈ past)
    (houtdoes : m.Outdoes e.2) : InRanges m.ranges (m.point guess y) := by
  by_contra hout
  have hzero : m.normalized f dir guess y = 0 := normalized_of_not_inRanges hm hout
  rcases houtdoes with hneg | ⟨hequal, hfirst⟩
  · have hbest := (m.optimizer.minimize_returnsLeast _ start fuel).2.2 y hy
    have hle := hbest.least e (List.mem_append_right _ (hlog ▸ List.mem_append_left _ he))
    rw [hzero] at hle
    exact absurd hneg (not_lt.mpr hle)
  · have hbest := (m.optimizer.minimize_returnsEarliest hfirst _ start fuel).2.2 y hy
    have hlt := hbest.lt_of_prefix hlog
      (fun d hd heq => hout (heq ▸ hpast d hd)) e he
    rw [hzero, hequal] at hlt
    exact lt_irrefl _ hlt

/-- A search that leaves the ranges late stays feasible. -/
theorem LeavesLate.staysFeasible (hm : m.constrained = true)
    (hproper : ∀ r ∈ m.ranges, r.1 < r.2) (hguess : InRanges m.ranges guess)
    (h : m.LeavesLate f dir guess) : m.StaysFeasible f dir guess := by
  have hfits : m.Fits guess := .inl hguess.length_eq.symm
  have hne : ∀ r ∈ m.ranges, r.1 ≠ r.2 := fun r hr => (hproper r hr).ne
  refine ⟨fun hcoordinate hpass s =>
    (m.optimize_spec dir hfits hne (fun x _ _ => answers_recorded f x) s).2 hcoordinate hpass, ?_⟩
  intro fuel s r s' hrun
  obtain ⟨start, hstart, hlen, hback⟩ := ParameterMapping.map_unmap
    (m.proper_parameterMap guess hne) (m.length_parameterMap hfits).symm
  have hpoint : m.point guess start = guess :=
    Except.ok.inj ((m.map_parameterMap hfits hlen).symm.trans hback)
  obtain ⟨hadmissible, -, hleast⟩ :=
    m.optimizer.minimize_returnsLeast (m.normalized f dir guess) start fuel
  simp only [List.nil_append] at hadmissible hleast
  have heq := m.optimize_eq dir hfits (fun x _ _ => answers_recorded f x) fuel hstart rfl
    (fun x hx => (hadmissible _ (hleast x hx).asked).trans hlen)
    (fun e he => (hadmissible e he).trans hlen) s
  obtain ⟨hresult, -⟩ := Prod.mk.inj (Except.ok.inj (heq.symm.trans hrun))
  obtain ⟨y, hy, rfl⟩ := Option.map_eq_some_iff.mp hresult
  have hin : InRanges m.ranges (m.point guess y) := by
    have hagree (x : List R) (hx : InRanges m.ranges (m.point guess x)) :
        m.normalized f dir guess x = m.unconstrained.normalized f dir guess x :=
      normalized_unconstrained hx
    rcases Query.exec_agree hagree (m.optimizer.minimize start fuel) with
      ⟨hsame, hall⟩ | ⟨past, x, rest, rest', hout, hpast, hlog, hfree⟩
    · rw [← hsame] at hall
      exact hall _ (hleast y hy).asked
    · have hevaluations := evaluations_of_exec (m := m.unconstrained) hstart hfree
      obtain ⟨e, he, -, houtdoes⟩ := h fuel _ _ _ _ hevaluations hout
      obtain ⟨d, hd, rfl⟩ := List.mem_map.mp he
      exact inRanges_of_outdoes hm hy hlog hpast hd houtdoes
  refine ⟨hin, signed_le_signed.mp ?_⟩
  have hle := (hleast y hy).le_first
  rwa [normalized_of_inRanges hin, normalized_of_inRanges (hpoint.symm ▸ hguess), hpoint] at hle

omit [IsStrictOrderedRing R] in
/-- A guess that outdoes the points outside is enough: it is evaluated first. -/
theorem leavesLate_of_outdoes (hproper : ∀ r ∈ m.ranges, r.1 ≠ r.2)
    (hguess : InRanges m.ranges guess) (h : m.Outdoes (signed dir f guess)) :
    m.LeavesLate f dir guess := by
  intro fuel before x v after hevaluations hout
  have hfits : m.Fits guess := .inl hguess.length_eq.symm
  obtain ⟨start, hstart, hlen, hback⟩ := ParameterMapping.map_unmap
    (m.proper_parameterMap guess hproper) (m.length_parameterMap hfits).symm
  have hpoint : m.point guess start = guess :=
    Except.ok.inj ((m.map_parameterMap hfits hlen).symm.trans hback)
  obtain ⟨-, ⟨rest, hrest⟩, -⟩ := m.unconstrained.optimizer.minimize_returnsLeast
    (m.unconstrained.normalized f dir guess) start fuel
  rw [List.nil_append] at hrest
  have hvalue : m.unconstrained.normalized f dir guess start = signed dir f guess := by
    rw [normalized_of_inRanges (m := m.unconstrained) (hpoint.symm ▸ hguess)]
    exact congrArg (signed dir f) hpoint
  have hfirst := evaluations_of_exec (m := m.unconstrained) hstart
    (hrest.symm.trans (List.nil_append _).symm)
  rw [hevaluations, hvalue] at hfirst
  cases before with
  | nil =>
    have hx : x = m.point guess start := congrArg Prod.fst (List.cons.inj hfirst).1
    exact absurd (hx ▸ hpoint.symm ▸ hguess) hout
  | cons e before =>
    obtain rfl : e = (m.point guess start, signed dir f guess) := (List.cons.inj hfirst).1
    exact ⟨_, List.mem_cons_self, hpoint.symm ▸ hguess, h⟩

omit [IsStrictOrderedRing R] in
/-- Otherwise the constrained search takes a point outside. -/
theorem takesOutside_of_not_leavesLate (hm : m.constrained = true)
    (hproper : ∀ r ∈ m.ranges, r.1 ≠ r.2) (hguess : InRanges m.ranges guess)
    (h : ¬ m.LeavesLate f dir guess) : m.TakesOutside f dir guess := by
  simp only [LeavesLate, not_forall, exists_prop, not_exists, not_and] at h
  obtain ⟨fuel, before, x, v, after, hevaluations, hout, hbefore⟩ := h
  have hfits : m.Fits guess := .inl hguess.length_eq.symm
  obtain ⟨start, hstart, -⟩ := ParameterMapping.map_unmap
    (m.proper_parameterMap guess hproper) (m.length_parameterMap hfits).symm
  have hagree (x : List R) (hx : InRanges m.ranges (m.point guess x)) :
      m.normalized f dir guess x = m.unconstrained.normalized f dir guess x :=
    normalized_unconstrained hx
  rcases Query.exec_agree hagree (m.optimizer.minimize start fuel) with
    ⟨-, hall⟩ | ⟨past, y, rest, rest', houty, hpast, hlog, hfree⟩
  · rw [evaluations_eq (m := m.unconstrained) hstart] at hevaluations
    have hmem : (x, v) ∈ before ++ (x, v) :: after := by simp
    rw [← hevaluations] at hmem
    obtain ⟨d, hd, heq⟩ := List.mem_map.mp hmem
    obtain ⟨rfl, -⟩ := Prod.mk.inj heq
    exact absurd (hall d hd) hout
  · rw [evaluations_of_exec (m := m.unconstrained) hstart hfree] at hevaluations
    rw [normalized_of_not_inRanges hm houty] at hlog
    refine ⟨fuel, _, _, _, evaluations_of_exec hstart hlog, houty, ?_⟩
    -- the points before the first one outside are among those before `x`
    have hsub : ∀ e ∈ past.map (fun e => (m.point guess e.1, e.2)), e ∈ before := by
      rcases List.append_eq_append_iff.mp hevaluations with
        ⟨between, rfl, -⟩ | ⟨between, hpastmap, hafter⟩
      · exact fun e he => List.mem_append_left _ he
      · change past.map (fun e => (m.point guess e.1, e.2)) = _ at hpastmap
        cases between with
        | nil =>
          rw [hpastmap, List.append_nil]
          exact fun e he => he
        | cons e between =>
          obtain rfl : (x, v) = e := (List.cons.inj hafter).1
          have hmem : (x, v) ∈ past.map (fun e => (m.point guess e.1, e.2)) :=
            hpastmap ▸ List.mem_append_right _ List.mem_cons_self
          obtain ⟨d, hd, heq⟩ := List.mem_map.mp hmem
          obtain ⟨rfl, -⟩ := Prod.mk.inj heq
          exact absurd (hpast d hd) hout
    intro e he
    obtain ⟨d, hd, rfl⟩ := List.mem_map.mp he
    exact hbefore _ (hsub _ he) (hpast d hd)

namespace Sample

def descent (config : CoordinateDescentOptimizer.Configuration ℚ) (range : Range ℚ) :
    OptimizationManager fun q : Q ℚ => |q.get 0| :=
  ⟨.coordinateDescent config, [range], true⟩

end Sample

end Gripperz.Optimization.OptimizationManager
