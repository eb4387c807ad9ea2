import Mathlib.Algebra.Order.Field.Rat
import Mathlib.Algebra.Order.Group.Unbundled.Abs
import Gripperz.Math.ObjectiveFunction
import Gripperz.Optimization.EvaluationBudget

/-! # The optimization manager

`optimize` wraps the user's function in a callback that fills the log, in a negation
when it is to be maximized, in a box constraint when the manager is constrained, and
in the mapping from the normalized box; it minimizes the result and maps the answer
back to the user's coordinates.
-/
namespace Gripperz.Optimization
open Library Math

variable {σ R : Type} [Field R] [LinearOrder R] {norm2 : Q R → R}

abbrev LogEntry (R : Type) := List R × R

/-- The state of whatever the user's function is connected to, and the log. -/
structure Session (σ R : Type) where
  user : σ
  log : List (LogEntry R)

structure OptimizationManager (norm2 : Q R → R) where
  optimizer : Optimizer norm2 R
  ranges : RangeList R
  constrained : Bool

namespace OptimizationManager

/-- The user's function within a session. -/
def inSession (function : ObjectiveFunction σ R) : ObjectiveFunction (Session σ R) R :=
  fun x s => (function x s.user).map fun answer => (answer.1, { s with user := answer.2 })

def callback (args : List R) (result : R) : StateT (Session σ R) (Except String) Unit :=
  modify fun s => { s with log := s.log ++ [(args, result)] }

/-- The decorated function in the user's coordinates. -/
def objective (m : OptimizationManager norm2) (function : ObjectiveFunction σ R) (dir : String) :
    ObjectiveFunction (Session σ R) R :=
  let called := CallbackFunction (inSession function) callback
  let directed := if dir = "maximize" then RevertedFunction called else called
  if m.constrained then ConstrainedFunction directed (BoxConstraint.isMetBy m.ranges) 0
  else directed

/-- The map from the normalized box. -/
def parameterMap (m : OptimizationManager norm2) (initialGuess : List R) : ParameterMapping R :=
  ⟨if 0 < m.ranges.length then m.ranges.map fun range => ((0, 1), range)
    else initialGuess.map fun _ => ((0, 1), (0, 1))⟩

def optimize (m : OptimizationManager norm2) (function : ObjectiveFunction σ R)
    (initialGuess : List R) (dir : String) (fuel : ℕ) :
    StateT (Session σ R) (Except String) (Option (List R)) := do
  modify fun s => { s with log := [] }
  let mapping := m.parameterMap initialGuess
  let start ← mapping.unmap initialGuess
  let result ← (m.optimizer.minimize start fuel).run
    (MappedFunction (m.objective function dir) mapping)
  (result.mapM mapping.map : Except String (Option (List R)))

/-! ## What the optimizer sees -/

/-- A deterministic function whose state is the record of its calls. -/
def recorded (f : List R → R) : ObjectiveFunction (List (LogEntry R)) R :=
  fun x calls => .ok (f x, calls ++ [(x, f x)])

/-- The value to be made small. -/
def signed (dir : String) (f : List R → R) (x : List R) : R :=
  if dir = "maximize" then -f x else f x

/-- The function is called at `x`. -/
def Calls (m : OptimizationManager norm2) (x : List R) : Prop :=
  m.constrained = true → InRanges m.ranges x

instance (m : OptimizationManager norm2) : DecidablePred m.Calls :=
  fun x => inferInstanceAs (Decidable (m.constrained = true → InRanges m.ranges x))

/-- The decorated function's value. -/
def value (m : OptimizationManager norm2) (f : List R → R) (dir : String) (x : List R) : R :=
  if m.Calls x then signed dir f x else 0

/-- The log entries of the calls made at some points. -/
def entries (m : OptimizationManager norm2) (f : List R → R) (points : List (List R)) :
    List (LogEntry R) :=
  (points.filter fun x => m.Calls x).map fun x => (x, f x)

/-- A session after calls at some points, each of which takes the user's state to `advance` of
it. -/
def advanced (m : OptimizationManager norm2) (f : List R → R) (advance : List R → σ → σ)
    (points : List (List R)) (s : Session σ R) : Session σ R where
  user := (points.filter fun x => m.Calls x).foldl (fun user x => advance x user) s.user
  log := s.log ++ m.entries f points

/-- The ranges, when there are any or the box constrains, are as many as the
coordinates. -/
def Fits (m : OptimizationManager norm2) (x : List R) : Prop :=
  m.ranges.length = x.length ∨ m.ranges = [] ∧ m.constrained = false

section Answering
variable (m : OptimizationManager norm2) {F : ObjectiveFunction σ R} {f : List R → R}
  {advance : List R → σ → σ}

theorem advanced_append (points points' : List (List R)) (s : Session σ R) :
    m.advanced f advance (points ++ points') s =
      m.advanced f advance points' (m.advanced f advance points s) := by
  simp [advanced, entries]

theorem advanced_nil (s : Session σ R) : m.advanced f advance [] s = s := by
  simp [advanced, entries]

theorem advanced_of_calls {x : List R} (h : m.Calls x) :
    m.advanced f advance [x] =
      fun s => { user := advance x s.user, log := s.log ++ [(x, f x)] } := by
  funext s
  simp [advanced, entries, h]

theorem advanced_of_not_calls {x : List R} (h : ¬ m.Calls x) :
    m.advanced f advance [x] = id := by
  funext s
  simp [advanced, entries, h]

/-- The log and the record of the calls grow by the same entries. -/
theorem advanced_recorded (points : List (List R)) (s : Session (List (LogEntry R)) R) :
    m.advanced f (fun x calls => calls ++ [(x, f x)]) points s =
      { user := s.user ++ m.entries f points, log := s.log ++ m.entries f points } := by
  have hfold (called : List (List R)) (calls : List (LogEntry R)) :
      called.foldl (fun user x => user ++ [(x, f x)]) calls =
        calls ++ called.map fun x => (x, f x) := by
    induction called generalizing calls with
    | nil => simp
    | cons x called ih => simp [ih]
  rw [advanced, hfold, entries]

theorem length_of_constrained {x : List R} (hx : m.Fits x) (h : m.constrained = true) :
    x.length = m.ranges.length := by
  rcases hx with hx | ⟨-, hx⟩
  · exact hx.symm
  · rw [h] at hx
    cases hx

theorem answers_objective (dir : String) {x : List R} (hx : m.Fits x)
    (hF : m.Calls x → Answers F x (f x) (advance x)) :
    Answers (m.objective F dir) x (m.value f dir x) (m.advanced f advance [x]) := by
  by_cases hcalls : m.Calls x
  · have hcalled : Answers (CallbackFunction (inSession F) callback) x (f x)
        (m.advanced f advance [x]) := by
      intro s
      have hsession : (inSession F x).run s = .ok (f x, { s with user := advance x s.user }) := by
        change ((F x).run s.user).map _ = _
        rw [hF hcalls s.user]
        rfl
      rw [m.advanced_of_calls hcalls]
      exact run_bind_eq_ok.mpr ⟨_, _, hsession, rfl⟩
    have hdirected : Answers (if dir = "maximize" then
        RevertedFunction (CallbackFunction (inSession F) callback)
        else CallbackFunction (inSession F) callback) x (signed dir f x)
        (m.advanced f advance [x]) := by
      by_cases hmax : dir = "maximize"
      · simpa [hmax, signed] using hcalled.reverted
      · simpa [hmax, signed] using hcalled
    rw [value, if_pos hcalls]
    cases hconstrained : m.constrained with
    | false => simpa [objective, hconstrained] using hdirected
    | true =>
      have hmet := BoxConstraint.isMetBy_of_length (m.length_of_constrained hx hconstrained)
      rw [decide_eq_true (hcalls hconstrained)] at hmet
      simpa [objective, hconstrained] using hdirected.constrained_in hmet
  · obtain ⟨hconstrained, hout⟩ := Classical.not_imp.mp hcalls
    have hmet := BoxConstraint.isMetBy_of_length (m.length_of_constrained hx hconstrained)
    rw [decide_eq_false hout] at hmet
    rw [m.advanced_of_not_calls hcalls, value, if_neg hcalls]
    simpa [objective, hconstrained] using Answers.constrained_out hmet

end Answering

/-! ## Normalized coordinates -/

/-- The normalized vector in the user's coordinates. -/
def point (m : OptimizationManager norm2) (guess x : List R) : List R :=
  List.zipWith (fun p t => mapParameter p t.1 t.2) x (m.parameterMap guess).transforms

theorem length_parameterMap (m : OptimizationManager norm2) {guess : List R} (h : m.Fits guess) :
    (m.parameterMap guess).transforms.length = guess.length := by
  by_cases hpos : 0 < m.ranges.length
  · rcases h with h | ⟨h, -⟩
    · simpa [parameterMap, hpos] using h
    · simp [h] at hpos
  · simp [parameterMap, hpos]

theorem proper_parameterMap (m : OptimizationManager norm2) (guess : List R)
    (h : ∀ r ∈ m.ranges, r.1 ≠ r.2) : (m.parameterMap guess).Proper := by
  intro t ht
  by_cases hpos : 0 < m.ranges.length
  · simp only [parameterMap, if_pos hpos, List.mem_map] at ht
    obtain ⟨r, hr, rfl⟩ := ht
    exact ⟨zero_ne_one, h r hr⟩
  · simp only [parameterMap, if_neg hpos, List.mem_map] at ht
    obtain ⟨x, hx, rfl⟩ := ht
    exact ⟨zero_ne_one, zero_ne_one⟩

theorem length_point (m : OptimizationManager norm2) {guess x : List R} (h : m.Fits guess)
    (hx : x.length = guess.length) : (m.point guess x).length = guess.length := by
  simp [point, m.length_parameterMap h, hx]

theorem map_parameterMap (m : OptimizationManager norm2) {guess x : List R} (h : m.Fits guess)
    (hx : x.length = guess.length) : (m.parameterMap guess).map x = .ok (m.point guess x) :=
  ParameterMapping.apply_of_length _ (hx.trans (m.length_parameterMap h).symm)

theorem Fits.of_length {m : OptimizationManager norm2} {x y : List R} (h : m.Fits x)
    (hy : y.length = x.length) : m.Fits y := by
  rcases h with h | h
  · exact .inl (h.trans hy.symm)
  · exact .inr h

/-- The objective function of normalized coordinates. -/
def normalized (m : OptimizationManager norm2) (f : List R → R) (dir : String)
    (guess x : List R) : R :=
  m.value f dir (m.point guess x)

section Runs
variable (m : OptimizationManager norm2) {F : ObjectiveFunction σ R} {f : List R → R}
  {advance : List R → σ → σ} {guess : List R}

theorem foldl_advanced (points : List (List R × R)) (s : Session σ R) :
    points.foldl (fun s e => m.advanced f advance [m.point guess e.1] s) s =
      m.advanced f advance (points.map fun e => m.point guess e.1) s := by
  induction points generalizing s with
  | nil => exact (m.advanced_nil s).symm
  | cons e points ih =>
    rw [List.foldl_cons, ih, ← advanced_append]
    rfl

/-- `optimize` ends as the optimizer's run against the normalized objective does, and has called
the function at the points evaluated. -/
theorem optimize_eq (dir : String) {start : List R} (hfits : m.Fits guess)
    (hF : ∀ x, x.length = guess.length → m.Calls x → Answers F x (f x) (advance x)) (fuel : ℕ)
    {r : Option (List R)} {now : List (List R × R)}
    (hstart : (m.parameterMap guess).unmap guess = .ok start)
    (hexec : (m.optimizer.minimize start fuel).exec (m.normalized f dir guess) = (r, now))
    (hr : ∀ x, r = some x → x.length = guess.length)
    (hnow : ∀ e ∈ now, e.1.length = guess.length) (s : Session σ R) :
    (m.optimize F guess dir fuel).run s = .ok (r.map (m.point guess),
      m.advanced f advance (now.map fun e => m.point guess e.1) { s with log := [] }) := by
  have hrun := Query.run_eq_exec
    (MappedFunction (m.objective F dir) (m.parameterMap guess)) (m.normalized f dir guess)
    (fun s x => m.advanced f advance [m.point guess x] s) (m.optimizer.minimize start fuel)
    { s with log := [] } fun e he s => by
      rw [hexec] at he
      have hlen := m.length_point hfits (hnow e he)
      exact (m.answers_objective dir (hfits.of_length hlen) (hF _ hlen)).mapped
        (m.map_parameterMap hfits (hnow e he)) s
  rw [hexec, foldl_advanced] at hrun
  refine run_bind_eq_ok.mpr ⟨_, _, rfl, ?_⟩
  refine run_bind_eq_ok.mpr ⟨start, _, run_liftM_eq_ok.mpr ⟨hstart, rfl⟩, ?_⟩
  refine run_bind_eq_ok.mpr ⟨_, _, hrun, ?_⟩
  refine run_liftM_eq_ok.mpr ⟨?_, rfl⟩
  cases r with
  | none => rfl
  | some x =>
    rw [Option.mapM_some, m.map_parameterMap hfits (hr x rfl)]
    rfl

/-- Of a function whose answers do not depend on its state, `optimize` returns the best of the
points at which it has evaluated the decorated function; the log holds the calls among these
evaluations. It ends if the optimizer does. -/
theorem optimize_spec (dir : String) (hfits : m.Fits guess)
    (hproper : ∀ r ∈ m.ranges, r.1 ≠ r.2)
    (hF : ∀ x, x.length = guess.length → m.Calls x → Answers F x (f x) (advance x))
    (s : Session σ R) :
    (∀ fuel, ∃ r now,
      (m.optimize F guess dir fuel).run s =
          .ok (r, m.advanced f advance (now.map Prod.fst) { s with log := [] }) ∧
        (∀ e ∈ now, e.2 = m.value f dir e.1) ∧
        LeastSoFar (fun x => x.length = guess.length) (m.value f dir) guess r now) ∧
    (guess ≠ [] → m.optimizer.CanPassLimit guess.length → ∃ enough, ∀ fuel, enough ≤ fuel →
      ∃ x s', (m.optimize F guess dir fuel).run s = .ok (some x, s')) := by
  obtain ⟨start, hstart, hlen, hback⟩ := ParameterMapping.map_unmap
    (m.proper_parameterMap guess hproper) (m.length_parameterMap hfits).symm
  have hpoint : m.point guess start = guess :=
    Except.ok.inj ((m.map_parameterMap hfits hlen).symm.trans hback)
  have hleast (fuel : ℕ) : LeastSoFar (fun x : List R => x.length = start.length)
      (m.normalized f dir guess) start
      ((m.optimizer.minimize start fuel).exec (m.normalized f dir guess)).1
      ((m.optimizer.minimize start fuel).exec (m.normalized f dir guess)).2 :=
    m.optimizer.minimize_returnsLeast (m.normalized f dir guess) start fuel
  have heq (fuel : ℕ) := m.optimize_eq dir hfits hF fuel hstart rfl
    (fun x hx => ((hleast fuel).1 _ ((hleast fuel).2.2 x hx).asked).trans hlen)
    (fun e he => ((hleast fuel).1 e he).trans hlen) s
  constructor
  · intro fuel
    have hrenamed : LeastSoFar (fun x => x.length = guess.length) (m.value f dir)
        (m.point guess start) _ _ :=
      (hleast fuel).rename (f := m.value f dir) (g := m.point guess) fun y hy =>
        m.length_point hfits (hy.trans hlen)
    rw [hpoint] at hrenamed
    refine ⟨_, _, ?_, ?_, hrenamed⟩
    · rw [heq fuel, List.map_map]
      rfl
    · intro e he
      obtain ⟨d, hd, rfl⟩ := List.mem_map.mp he
      exact Query.exec_answer _ _ d hd
  · intro hguess hpass
    have hne : start ≠ [] := fun h =>
      hguess (List.length_eq_zero_iff.mp (hlen.symm.trans (congrArg List.length h)))
    obtain ⟨enough, hends⟩ := m.optimizer.minimize_ends hne (hlen ▸ hpass)
      (m.normalized f dir guess)
    refine ⟨enough, fun fuel hfuel => ?_⟩
    obtain ⟨x, hx⟩ := hends fuel hfuel
    exact ⟨m.point guess x, _, (heq fuel).trans (by rw [hx]; rfl)⟩

end Runs

omit [Field R] [LinearOrder R] in
theorem answers_recorded (f : List R → R) (x : List R) :
    Answers (recorded f) x (f x) fun calls => calls ++ [(x, f x)] := fun _ => rfl

/-- Without a constraint the log is the record of the user function's calls, in the
user's coordinates and with its own values; the first is at the guess, and a point that is
returned is the best one called at. The optimization ends if the guess has a coordinate and the
optimizer's counter can pass its limit. -/
theorem optimize_unconstrained [IsStrictOrderedRing R] (m : OptimizationManager norm2)
    (hm : m.constrained = false) (f : List R → R) (dir : String) {guess : List R}
    (hsize : m.ranges = [] ∨ m.ranges.length = guess.length)
    (hproper : ∀ r ∈ m.ranges, r.1 < r.2) (s : Session (List (LogEntry R)) R) :
    (∀ fuel, ∃ r calls,
      (m.optimize (recorded f) guess dir fuel).run s =
          .ok (r, { user := s.user ++ calls, log := calls }) ∧
        (∀ e ∈ calls, e.2 = f e.1) ∧ calls.head? = some (guess, f guess) ∧
        ∀ x, r = some x → (x, f x) ∈ calls ∧
          ∀ e ∈ calls, if dir = "maximize" then e.2 ≤ f x else f x ≤ e.2) ∧
    (guess ≠ [] → m.optimizer.CanPassLimit guess.length → ∃ enough, ∀ fuel, enough ≤ fuel →
      ∃ x s', (m.optimize (recorded f) guess dir fuel).run s = .ok (some x, s')) := by
  have hfits : m.Fits guess := hsize.elim (fun h => .inr ⟨h, hm⟩) .inl
  have hvalue (x : List R) : m.value f dir x = signed dir f x := by simp [value, Calls, hm]
  obtain ⟨hspec, hends⟩ := m.optimize_spec dir hfits (fun r hr => (hproper r hr).ne)
    (fun x _ _ => answers_recorded f x) s
  refine ⟨fun fuel => ?_, hends⟩
  obtain ⟨r, now, hrun, hanswer, -, hbegins, hleast⟩ := hspec fuel
  have hentries : m.entries f (now.map Prod.fst) = now.map fun e => (e.1, f e.1) := by
    simp [entries, Calls, hm]
  rw [advanced_recorded, hentries] at hrun
  refine ⟨r, _, hrun, ?_, ?_, ?_⟩
  · intro e he
    obtain ⟨d, hd, rfl⟩ := List.mem_map.mp he
    rfl
  · obtain ⟨rest, hrest⟩ := hbegins
    rw [← hrest]
    rfl
  · intro x hx
    have hbest := hleast x hx
    refine ⟨List.mem_map.mpr ⟨_, hbest.asked, rfl⟩, ?_⟩
    intro e he
    obtain ⟨d, hd, rfl⟩ := List.mem_map.mp he
    have hle := hbest.least d hd
    rw [hanswer d hd, hvalue, hvalue] at hle
    by_cases hmax : dir = "maximize"
    · simpa [signed, hmax] using hle
    · simpa [signed, hmax] using hle

theorem optimize_unconstrained_line :
    ∃ enough, ∀ fuel, enough ≤ fuel → ∃ x s',
      ((⟨.coordinateDescent default, [(0, 2)], false⟩ :
          OptimizationManager fun q : Q ℚ => |q.get 0|).optimize
          (recorded fun x => x.headD 0) [1] "maximize" fuel).run ⟨[], []⟩ = .ok (some x, s') :=
  (optimize_unconstrained ⟨.coordinateDescent default, [(0, 2)], false⟩ rfl
    (fun x => x.headD 0) "maximize" (.inr rfl) (by simp) ⟨[], []⟩).2 (List.cons_ne_nil 1 [])
    (by decide)

/-- From the empty guess coordinate descent does not return, and with the limit `-1` it need not
return from any. -/
theorem not_optimize_unconstrained :
    (¬ ∃ enough, ∀ fuel, enough ≤ fuel → ∃ x s',
      ((⟨.coordinateDescent default, [], false⟩ :
          OptimizationManager fun q : Q ℚ => |q.get 0|).optimize
          (recorded fun x => x.headD 0) [] "minimize" fuel).run ⟨[], []⟩ = .ok (some x, s')) ∧
    ¬ ∃ enough, ∀ fuel, enough ≤ fuel → ∃ x s',
      ((⟨Optimizer.Sample.descent, [], false⟩ : OptimizationManager Optimizer.Sample.length).optimize
          (recorded fun _ => 0) [0] "minimize" fuel).run ⟨[], []⟩ = .ok (some x, s') := by
  constructor
  · rintro ⟨enough, hreturns⟩
    obtain ⟨x, s', hrun⟩ := hreturns enough le_rfl
    exact absurd (congrArg Prod.fst (Except.ok.inj hrun)) nofun
  · rintro ⟨enough, hreturns⟩
    obtain ⟨x, s', hrun⟩ := hreturns enough le_rfl
    obtain ⟨_, _, _, hrun⟩ := run_bind_eq_ok.mp hrun
    obtain ⟨start, _, _, hrun⟩ := run_bind_eq_ok.mp hrun
    obtain ⟨found, _, hminimize, hfound⟩ := run_bind_eq_ok.mp hrun
    obtain ⟨-, rfl⟩ := (CoordinateDescentOptimizer.minimize_never_ends (V := ℚ) ⟨1, 0, 1, 1, -1⟩
      Optimizer.Sample.length_nonneg rfl le_rfl start enough).run _ hminimize
    exact absurd (run_liftM_eq_ok.mp hfound).1 nofun

end OptimizationManager
end Gripperz.Optimization
