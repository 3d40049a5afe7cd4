import PropAMM.Lib.GreedyFill
import PropAMM.Router.Ranking
import PropAMM.Router.Split

/-! # What the waterfall plans

Whatever the quotes answer, the waterfall returns, and its plan is a greedy fill
of a prefix of the candidates with the rest routed to the fallback. `Planned`
records which quotes let each candidate through and why the loop stopped.
-/

namespace PropAMM

open Txn SplitPlanner

theorem clampU128_le (out : Nat) : clampU128 out ≤ maxU128 := by
  unfold clampU128
  split
  · exact Nat.zero_le _
  · omega

theorem clampU128_of_le {out : Nat} (h : out ≤ maxU128) : clampU128 out = out := if_neg (by omega)

/-- Every quote taken at `venue` returns, and its answer is one `P` allows at that size. -/
def Answers (x : Ctx) (venue tokenIn_ tokenOut_ : Address) (P : Nat → Nat → Prop) : Prop :=
  ∀ size s, Returns (tryQuote x venue tokenIn_ tokenOut_ size) s (fun out _ => P size out)

/-- A quote reports its failures as zero, so it always answers something. -/
theorem answers_any (x : Ctx) (venue tokenIn_ tokenOut_ : Address) :
    Answers x venue tokenIn_ tokenOut_ fun _ _ => True := by
  intro size s
  simp only [tryQuote, Returns, wp_bind]
  rw [wp_attempt]
  unfold wp
  split
  · trivial
  · trivial

/-- The part of an order a candidate is given, as a leg. -/
def legOf (p : Candidate × Nat) : Leg := ⟨p.1.venue, p.2, p.1.out * p.2 / p.1.fill⟩

/-- The leg that routes what is left over to the fallback. -/
def remainderLegs (fb : Address) (remaining : Nat) : List Leg :=
  if remaining = 0 then [] else [⟨fb, remaining, 0⟩]

/-- The part of `amountIn` the first `k` candidates are given. -/
def placed (cands : List Candidate) (k amountIn : Nat) : List (Candidate × Nat) :=
  Greedy.fill Candidate.fill (cands.take k) amountIn

theorem map_fst_placed (cands : List Candidate) (k amountIn : Nat) :
    (placed cands k amountIn).map Prod.fst = cands.take k := by
  rw [placed, Greedy.map_fst_fill]

theorem mem_take_of_placed {cands : List Candidate} {k amountIn : Nat} {p : Candidate × Nat}
    (h : p ∈ placed cands k amountIn) : p.1 ∈ cands.take k := by
  rw [← map_fst_placed cands k amountIn]
  exact List.mem_map_of_mem h

theorem length_placed (cands : List Candidate) (k amountIn : Nat) :
    (placed cands k amountIn).length = min k cands.length := by
  rw [← List.length_map (f := Prod.fst), map_fst_placed, List.length_take]

section Waterfall

variable {x : Ctx} {tokenIn_ tokenOut_ : Address} {P : Nat → Nat → Prop} {amountIn : Nat}

/-- `out` is what a quote of an admissible `size` answered, zero when it was unusable. -/
structure Reference (P : Nat → Nat → Prop) (amountIn size out : Nat) : Prop where
  size_pos : 0 < size
  size_le : size ≤ amountIn
  quoted : ∃ q, P size q ∧ out = clampU128 q

theorem Reference.out_le {size out : Nat} (r : Reference P amountIn size out) : out ≤ maxU128 := by
  obtain ⟨q, _, rfl⟩ := r.quoted
  exact clampU128_le q

/-- What the loop maintains of its reference. -/
structure Referenced (P : Nat → Nat → Prop) (amountIn : Nat) (w : Waterfall) : Prop where
  reference : Reference P amountIn w.refSize w.refOut
  remaining_le : w.remaining ≤ amountIn
  /-- A refined reference was taken at a remainder, and remainders only shrink. -/
  refined : w.refined = true → w.remaining ≤ w.refSize

/-- The reference that cut `c` off with `remaining` left. Either it was quoted for at
    least that much, or that much could not be quoted. -/
structure CutBy (P : Nat → Nat → Prop) (amountIn : Nat) (c : Candidate) (remaining size out : Nat) :
    Prop where
  reference : Reference P amountIn size out
  contested : c.out * size ≤ out * c.fill
  fresh : remaining ≤ size ∨ ∃ q, P remaining q ∧ clampU128 q = 0

theorem contested_ok {c : Candidate} {size out : Nat} (priced : Priced c)
    (r : Reference P amountIn size out) (bounded : amountIn ≤ maxU128) :
    contested c size out = .ok (decide (c.out * size ≤ out * c.fill)) := by
  have lhs := checkedMul_ok (mul_fits priced.out_le (Nat.le_trans r.size_le bounded))
  have rhs := checkedMul_ok (mul_fits r.out_le priced.fill_le)
  simp only [contested, lhs, rhs, ok_bind]
  rfl

theorem returns_refineReference
    (quotes : Answers x x.storage.fallbackSwapRouter tokenIn_ tokenOut_ P) {w : Waterfall}
    (held : Referenced P amountIn w) (more : 0 < w.remaining) {s : ChainState} :
    Returns (refineReference x tokenIn_ tokenOut_ w) s (fun w₁ _ =>
      w₁.legs = w.legs ∧ w₁.remaining = w.remaining ∧ Reference P amountIn w₁.refSize w₁.refOut ∧
        (w₁.refSize = w.remaining ∨
          (w₁.refSize = w.refSize ∧ w₁.refOut = w.refOut ∧ ∃ q, P w.remaining q ∧
            clampU128 q = 0))) := by
  simp only [refineReference, Returns, wp_bind]
  refine wp_mono (quotes w.remaining s) ?_ (fun _ _ h => h)
  intro newOut s₁ quoted
  by_cases usable : newOut ≠ 0 ∧ newOut ≤ maxU128
  · rw [if_pos usable]
    refine ⟨rfl, rfl, ⟨more, held.remaining_le, newOut, quoted, ?_⟩, .inl rfl⟩
    exact (clampU128_of_le usable.2).symm
  · rw [if_neg usable]
    refine ⟨rfl, rfl, held.reference, .inr ⟨rfl, rfl, newOut, quoted, ?_⟩⟩
    unfold clampU128
    split <;> omega

theorem returns_cutoff (quotes : Answers x x.storage.fallbackSwapRouter tokenIn_ tokenOut_ P)
    (bounded : amountIn ≤ maxU128) {c : Candidate} (priced : Priced c) {w : Waterfall}
    (held : Referenced P amountIn w) (more : 0 < w.remaining) {s : ChainState} :
    Returns (cutoff x tokenIn_ tokenOut_ c w) s (fun verdict _ =>
      match verdict with
      | none => ∃ size out, CutBy P amountIn c w.remaining size out
      | some w₁ => w₁.legs = w.legs ∧ w₁.remaining = w.remaining ∧ Referenced P amountIn w₁ ∧
          w₁.refOut * c.fill < c.out * w₁.refSize) := by
  simp only [cutoff, Returns, wp_bind, contested_ok priced held.reference bounded, wp_lift_ok]
  by_cases lost : c.out * w.refSize ≤ w.refOut * c.fill
  · rw [if_pos (decide_eq_true lost)]
    by_cases refined : w.refined = true
    · rw [if_pos refined]
      exact ⟨w.refSize, w.refOut, held.reference, lost, .inl (held.refined refined)⟩
    · rw [if_neg refined, wp_bind]
      refine wp_mono (returns_refineReference quotes held more) ?_ (fun _ _ h => h)
      rintro w₁ s₁ ⟨legs, remaining, reference, source⟩
      rw [wp_bind, contested_ok priced reference bounded, wp_lift_ok]
      by_cases still : c.out * w₁.refSize ≤ w₁.refOut * c.fill
      · rw [if_pos (decide_eq_true still)]
        refine ⟨w₁.refSize, w₁.refOut, reference, still, ?_⟩
        rcases source with fresh | ⟨_, _, unusable⟩
        · exact .inl (Nat.le_of_eq fresh.symm)
        · exact .inr unusable
      · rw [if_neg (by simpa using still)]
        refine ⟨legs, remaining, ⟨reference, ?_, ?_⟩, by omega⟩
        · rw [remaining]
          exact held.remaining_le
        · intro _
          -- Keeping the old reference would repeat the comparison that was just lost.
          rcases source with fresh | ⟨size, out, _⟩
          · omega
          · rw [size, out] at still
            exact absurd lost still
  · rw [if_neg (by simpa using lost)]
    exact ⟨rfl, rfl, held, by omega⟩

/-- The loop's state with `c` given what it can take of the remainder. -/
def Waterfall.given (w : Waterfall) (c : Candidate) : Waterfall :=
  { w with
    legs := w.legs ++ [legOf (c, min c.fill w.remaining)]
    remaining := w.remaining - min c.fill w.remaining }

theorem Referenced.given {w : Waterfall} (held : Referenced P amountIn w) (c : Candidate) :
    Referenced P amountIn (w.given c) where
  reference := held.reference
  remaining_le := Nat.le_trans (Nat.sub_le _ _) held.remaining_le
  refined refined := Nat.le_trans (Nat.sub_le _ _) (held.refined refined)

theorem placeLeg_ok {capacity : Nat} {c : Candidate} {w : Waterfall} (priced : Priced c)
    (room : w.legs.length < capacity) : placeLeg capacity c w = .ok (w.given c) := by
  have size : (if c.fill ≥ w.remaining then w.remaining else c.fill) = min c.fill w.remaining := by
    split <;> omega
  have leg_le : min c.fill w.remaining ≤ maxU128 := Nat.le_trans (min_le_left _ _) priced.fill_le
  have fits : min c.fill w.remaining ≤ w.remaining := min_le_right _ _
  simp only [placeLeg, size, proRataMin_ok priced.fill_pos priced.out_le leg_le, ok_bind,
    appendWithin, if_pos room, checkedSub_ok fits, Waterfall.given, legOf]
  rfl

/-- Why the loop stopped after `k` of `rest`, with `used` legs placed before. -/
def Stopped (P : Nat → Nat → Prop) (amountIn used : Nat) (rest : List Candidate)
    (k remaining : Nat) : Prop :=
  k = rest.length ∨ remaining = 0 ∨ used + k = maxLegs ∨
    ∃ c size out, rest[k]? = some c ∧ CutBy P amountIn c remaining size out

theorem Stopped.succ {used k remaining : Nat} {rest : List Candidate} (c : Candidate)
    (stopped : Stopped P amountIn (used + 1) rest k remaining) :
    Stopped P amountIn used (c :: rest) (k + 1) remaining := by
  rcases stopped with ended | exhausted | full | ⟨d, size, out, next, cut⟩
  · exact .inl (congrArg (· + 1) ended)
  · exact .inr (.inl exhausted)
  · exact .inr (.inr (.inl (by omega)))
  · exact .inr (.inr (.inr ⟨d, size, out, next, cut⟩))

/-- From `w` the loop placed the first `k` of `rest` and stopped at `w'`. -/
structure Poured (P : Nat → Nat → Prop) (amountIn : Nat) (w : Waterfall) (rest : List Candidate)
    (k : Nat) (w' : Waterfall) : Prop where
  prefix_le : k ≤ rest.length
  few : w.legs.length + k ≤ maxLegs
  legs_eq : w'.legs = w.legs ++ (placed rest k w.remaining).map legOf
  remaining_eq : w'.remaining = w.remaining - Greedy.assigned (placed rest k w.remaining)
  positive : ∀ p ∈ placed rest k w.remaining, 0 < p.2
  beat : ∀ c ∈ rest.take k, ∃ size out, Reference P amountIn size out ∧ out * c.fill < c.out * size
  stopped : Stopped P amountIn w.legs.length rest k w'.remaining

theorem Poured.zero {w : Waterfall} {rest : List Candidate} (few : w.legs.length ≤ maxLegs)
    (stopped : Stopped P amountIn w.legs.length rest 0 w.remaining) :
    Poured P amountIn w rest 0 w where
  prefix_le := Nat.zero_le _
  few := few
  legs_eq := by simp [placed]
  remaining_eq := by simp [placed]
  positive := by simp [placed]
  beat := by simp
  stopped := stopped

/-- `c` was given its part under the reference of `w₁`, and the loop went on from there. -/
theorem Poured.succ {w w₁ w' : Waterfall} {c : Candidate} {rest : List Candidate} {k : Nat}
    (legs : w₁.legs = w.legs) (remaining : w₁.remaining = w.remaining)
    (some : 0 < min c.fill w.remaining) (reference : Reference P amountIn w₁.refSize w₁.refOut)
    (better : w₁.refOut * c.fill < c.out * w₁.refSize)
    (poured : Poured P amountIn (w₁.given c) rest k w') :
    Poured P amountIn w (c :: rest) (k + 1) w' := by
  have split : placed (c :: rest) (k + 1) w.remaining =
      (c, min c.fill w.remaining) :: placed rest k (w₁.given c).remaining := by
    rw [Waterfall.given, remaining]
    rfl
  have used : (w₁.given c).legs = w.legs ++ [legOf (c, min c.fill w.remaining)] := by
    rw [Waterfall.given, legs, remaining]
  have count : (w₁.given c).legs.length = w.legs.length + 1 := by
    rw [used, List.length_append, List.length_singleton]
  have left : (w₁.given c).remaining = w.remaining - min c.fill w.remaining := by
    rw [Waterfall.given, remaining]
  have few := poured.few
  have stopped := poured.stopped
  rw [count] at few stopped
  refine ⟨Nat.succ_le_succ poured.prefix_le, by omega, ?_, ?_, ?_, ?_, stopped.succ c⟩
  · rw [poured.legs_eq, used, split, List.map_cons, List.append_assoc, List.singleton_append]
  · rw [poured.remaining_eq, left, split, left, Greedy.assigned_cons]
    omega
  · intro p member
    rw [split] at member
    rcases List.mem_cons.mp member with rfl | later
    · exact some
    · exact poured.positive p later
  · intro d member
    rcases List.mem_cons.mp member with rfl | later
    · exact ⟨w₁.refSize, w₁.refOut, reference, better⟩
    · exact poured.beat d later

theorem returns_waterfallLoop (quotes : Answers x x.storage.fallbackSwapRouter tokenIn_ tokenOut_ P)
    (bounded : amountIn ≤ maxU128) (capacity : Nat) (rest : List Candidate)
    (priced : ∀ c ∈ rest, Priced c)
    (w : Waterfall) (held : Referenced P amountIn w) (room : w.legs.length + rest.length < capacity)
    (few : w.legs.length ≤ maxLegs) (s : ChainState) :
    Returns (waterfallLoop x tokenIn_ tokenOut_ capacity rest w) s (fun w' _ =>
      ∃ k, Poured P amountIn w rest k w') := by
  induction rest generalizing w s with
  | nil => exact ⟨0, .zero few (.inl rfl)⟩
  | cons c rest ih =>
      have cP : Priced c := priced c (by simp)
      unfold waterfallLoop
      by_cases more : w.remaining > 0 ∧ w.legs.length < maxLegs
      · rw [if_pos more]
        simp only [Returns, wp_bind]
        refine wp_mono (returns_cutoff quotes bounded cP held more.1) ?_ (fun _ _ h => h)
        intro verdict s₁ outcome
        cases verdict with
        | none =>
            obtain ⟨size, out, cut⟩ := outcome
            exact ⟨0, .zero few (.inr (.inr (.inr ⟨c, size, out, rfl, cut⟩)))⟩
        | some w₁ =>
            obtain ⟨legs, remaining, held₁, better⟩ := outcome
            have count : (w₁.given c).legs.length = w.legs.length + 1 := by
              rw [Waterfall.given, List.length_append, List.length_singleton, legs]
            rw [List.length_cons] at room
            have room₁ : w₁.legs.length < capacity := by
              rw [legs]
              omega
            show wp (lift (placeLeg capacity c w₁) >>= _) s₁ _ _
            rw [placeLeg_ok cP room₁, wp_bind, wp_lift_ok]
            have later : ∀ d ∈ rest, Priced d :=
              fun d member => priced d (List.mem_cons_of_mem c member)
            refine wp_mono (ih later _ (held₁.given c) (by omega) (by omega) s₁) ?_ (fun _ _ h => h)
            rintro w' s' ⟨k, poured⟩
            have positive : 0 < min c.fill w.remaining := lt_min cP.fill_pos more.1
            exact ⟨k + 1, poured.succ legs remaining positive held₁.reference better⟩
      · rw [if_neg more]
        refine ⟨0, .zero few ?_⟩
        rcases Nat.eq_zero_or_pos w.remaining with exhausted | left
        · exact .inr (.inl exhausted)
        · have full : ¬ w.legs.length < maxLegs := fun less => more ⟨left, less⟩
          exact .inr (.inr (.inl (by omega)))

/-- A plan for `cands`: the first `k` are filled greedily, the rest of the order goes
    to the fallback. -/
structure Planned (x : Ctx) (P : Nat → Nat → Prop) (cands : List Candidate) (amountIn k : Nat)
    (legs : List Leg) : Prop where
  prefix_le : k ≤ cands.length
  few : k ≤ maxLegs
  legs_eq : legs = (placed cands k amountIn).map legOf ++
    remainderLegs x.storage.fallbackSwapRouter (amountIn - Greedy.assigned
      (placed cands k amountIn))
  positive : ∀ p ∈ placed cands k amountIn, 0 < p.2
  beat : ∀ c ∈ cands.take k, ∃ size out, Reference P amountIn size out ∧ out * c.fill < c.out * size
  stopped : Stopped P amountIn 0 cands k (amountIn - Greedy.assigned (placed cands k amountIn))

theorem residualLowerBound_le (cands : List Candidate) (amountIn : Nat) :
    residualLowerBound cands amountIn ≤ amountIn := by
  unfold residualLowerBound
  generalize cands.take maxLegs = placeable
  have shrink : ∀ (l : List Candidate) (n : Nat),
      l.foldl (fun residual c => if c.fill ≥ residual then 0 else residual - c.fill) n ≤ n := by
    intro l
    induction l with
    | nil => exact fun n => Nat.le_refl n
    | cons c l ih =>
        intro n
        refine Nat.le_trans (ih _) ?_
        dsimp only
        split
        · exact Nat.zero_le n
        · exact Nat.sub_le n c.fill
  exact shrink placeable amountIn

theorem referenceSize_bounds (cands : List Candidate) (positive : 0 < amountIn) :
    0 < referenceSize cands amountIn ∧ referenceSize cands amountIn ≤ amountIn := by
  have residual := residualLowerBound_le cands amountIn
  unfold referenceSize
  simp only
  split <;> split <;> omega

/-- The waterfall always returns a plan. -/
theorem returns_waterfall (quotes : Answers x x.storage.fallbackSwapRouter tokenIn_ tokenOut_ P)
    (positive : 0 < amountIn) (bounded : amountIn ≤ maxU128) {cands : List Candidate}
    (priced : ∀ c ∈ cands, Priced c) {s : ChainState} :
    Returns (waterfall x cands tokenIn_ tokenOut_ amountIn) s
      (fun legs _ => ∃ k, Planned x P cands amountIn k legs) := by
  unfold waterfall
  by_cases none : cands.length = 0
  · rw [if_pos none]
    have empty : cands = [] := List.length_eq_zero_iff.mp none
    subst empty
    refine ⟨0, Nat.le_refl 0, Nat.zero_le _, ?_, by simp [placed], by simp, .inl rfl⟩
    simp [placed, remainderLegs, Nat.ne_of_gt positive]
  · rw [if_neg none]
    simp only [Returns, wp_bind]
    have size := referenceSize_bounds cands positive
    refine wp_mono (quotes _ s) ?_ (fun _ _ h => h)
    intro refOut s₁ quoted
    have held : Referenced P amountIn
        { refSize := referenceSize cands amountIn, refOut := clampU128 refOut, refined := false,
          remaining := amountIn, legs := [] } :=
      ⟨⟨size.1, size.2, refOut, quoted, rfl⟩, Nat.le_refl _, fun h => absurd h (by simp)⟩
    refine wp_mono (returns_waterfallLoop quotes bounded (cands.length + 1) cands priced _ held
      (by simp) (by simp) s₁) ?_ (fun _ _ h => h)
    rintro w s₂ ⟨k, prefix_le, few, legs, remaining, all, beat, stopped⟩
    simp only [List.nil_append, List.length_nil, Nat.zero_add] at few legs remaining all stopped
    rw [remaining] at stopped
    by_cases left : w.remaining > 0
    · have room : w.legs.length < cands.length + 1 := by
        rw [legs, List.length_map, length_placed]
        omega
      rw [if_pos left, appendWithin, if_pos room, wp_lift_ok]
      refine ⟨k, prefix_le, few, ?_, all, beat, stopped⟩
      rw [remainderLegs, ← remaining, if_neg (by omega), legs]
    · rw [if_neg left, wp_pure]
      refine ⟨k, prefix_le, few, ?_, all, beat, stopped⟩
      rw [remainderLegs, ← remaining, if_pos (by omega), List.append_nil, legs]

end Waterfall

end PropAMM
