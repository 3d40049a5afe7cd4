import Mathlib.Algebra.Order.Floor.Semifield
import Mathlib.Data.Nat.Cast.Order.Field
import Mathlib.Data.Rat.Floor
import PropAMM.Router.PlanValue

/-! # Leg floors

The floor of a leg is a share of a quote taken at another size. A venue that
quotes and delivers one price curve, whose unit rate does not increase, never
delivers less than the floor, so none of its legs is left to the fallback.
-/

namespace PropAMM

open Txn SplitPlanner

/-- The unit rate does not increase with the size. -/
def UnitRateFalls (g : Nat → ℚ) : Prop := ∀ a b, 1 ≤ a → a ≤ b → g b * a ≤ g a * b

/-- A floored share of a floored quote is at most the floored quote of the share. -/
theorem floor_share_le {g : Nat → ℚ} (falls : UnitRateFalls g) {leg fill : Nat} (leg_pos : 1 ≤ leg)
    (le : leg ≤ fill) (out_pos : 0 < ⌊g fill⌋₊) : ⌊g fill⌋₊ * leg / fill ≤ ⌊g leg⌋₊ := by
  have fill_pos : (0 : ℚ) < fill := by exact_mod_cast Nat.lt_of_lt_of_le leg_pos le
  have value_pos : 0 ≤ g fill := (Nat.pos_of_floor_pos out_pos).le
  apply Nat.le_floor
  calc ((⌊g fill⌋₊ * leg / fill : ℕ) : ℚ) ≤ ((⌊g fill⌋₊ * leg : ℕ) : ℚ) / fill := Nat.cast_div_le
    _ = (⌊g fill⌋₊ : ℚ) * leg / fill := by rw [Nat.cast_mul]
    _ ≤ g fill * leg / fill := by
        gcongr
        exact Nat.floor_le value_pos
    _ ≤ g leg * fill / fill := div_le_div_of_nonneg_right (falls leg fill leg_pos le) fill_pos.le
    _ = g leg := mul_div_cancel_right₀ _ fill_pos.ne'

/-- The venue's price is `g`: what it answers to a quote is `g` there, and so is what it
    offers of the order when it has the extension. -/
structure Honest (x : Ctx) (tokenIn_ tokenOut_ : Address) (amountIn : Nat) (venue : Address)
    (g : Nat → ℚ) : Prop where
  falls : UnitRateFalls g
  quotes : ∀ history L size ret L' out, 1 ≤ size → size ≤ amountIn →
    x.env history (.quote venue (resolveToken tokenIn_) (resolveToken tokenOut_) size) L =
      some (ret, L') →
    uintOf ret = some out → out = ⌊g size⌋₊
  offers : ∀ history L ret L' fill out,
    x.env history (.quoteFillable venue tokenIn_ tokenOut_ amountIn) L = some (ret, L') →
    uintPairOf ret = some (fill, out) → 1 ≤ fill → fill ≤ amountIn → out = ⌊g fill⌋₊

/-- What an honest venue reports of a size. A quote that failed reads as zero. -/
def OnCurve (g : Nat → ℚ) (amountIn size out : Nat) : Prop :=
  1 ≤ size → size ≤ amountIn → out ≠ 0 → out = ⌊g size⌋₊

section Floors

variable {x : Ctx} {tokenIn_ tokenOut_ venue : Address} {amountIn : Nat} {g : Nat → ℚ}

theorem Honest.answers (honest : Honest x tokenIn_ tokenOut_ amountIn venue g)
    (other : venue ≠ x.storage.fallbackSwapRouter) :
    Answers x venue tokenIn_ tokenOut_ (OnCurve g amountIn) := by
  intro size s
  have direct : venue ≠ x.selfCall.storage.fallbackSwapRouter := other
  have quoted : Ensures (quoteVenueV1 x.selfCall venue tokenIn_ tokenOut_ size) s
      (fun r _ => OnCurve g amountIn size r.1) := by
    simp only [quoteVenueV1, Ensures, wp_bind, wp_require, wp_pure, implies_true, and_true]
    intro _
    simp only [quoteVenue, if_neg direct, wp_bind, ensures_callExternal, wp_decode,
      implies_true, and_true]
    intro ret L accepted out decoded one_le le _
    exact honest.quotes _ _ size ret L out one_le le accepted.answer decoded
  simp only [tryQuote, Returns, wp_bind]
  apply wp_attempt_of quoted
  intro _ _ _ failed
  exact absurd rfl failed

theorem Honest.reports (honest : Honest x tokenIn_ tokenOut_ amountIn venue g)
    (other : venue ≠ x.storage.fallbackSwapRouter) :
    VenueReports x tokenIn_ tokenOut_ amountIn venue (OnCurve g amountIn) := by
  refine ⟨honest.answers other, fun s => ?_⟩
  simp only [quoteFillableUnchecked, Ensures, wp_bind, wp_require, ensures_callExternal, wp_decode,
    implies_true, and_true]
  intro _ ret L accepted p decoded one_le le _
  exact honest.offers _ _ ret L p.1 p.2 accepted.answer decoded one_le le

/-- No leg of an honest venue is planned with a floor above what it delivers. -/
theorem ensures_planSplit_floors (honest : Honest x tokenIn_ tokenOut_ amountIn venue g)
    (other : venue ≠ x.storage.fallbackSwapRouter) (positive : 1 ≤ amountIn)
    (bounded : amountIn ≤ maxU128) {s : ChainState} :
    Ensures (planSplit x x.storage.getWhitelistedVenues tokenIn_ tokenOut_ amountIn) s
      (fun legs _ =>
      ∀ leg ∈ legs, leg.venue = venue →
        x.storage.isWhitelistedVenue venue ∧ leg.minOut ≤ ⌊g leg.amountIn⌋₊) := by
  have reports : ∀ v ∈ x.storage.getWhitelistedVenues, VenueReports x tokenIn_ tokenOut_ amountIn v
      (fun size out => v = venue → OnCurve g amountIn size out) := by
    intro v _
    by_cases same : v = venue
    · subst same
      exact (honest.reports other).mono fun _ _ reported _ => reported
    · exact reports_any.mono fun _ _ _ mine => absurd mine same
  simp only [planSplit, Ensures, wp_bind, wp_balanceOf]
  refine wp_mono (returns_planLegs (answers_any x _ tokenIn_ tokenOut_) positive bounded) ?_
    (fun _ _ h => h.elim)
  rintro legs s' ⟨cands, s₁, k, run, gathered, distinct, planned⟩
  have curve := (wp_ok (returns_gatherCandidates_of reports) run).2
  simp only [wp_require, wp_pure, implies_true, and_true]
  intro _ leg member mine
  rw [planned.legs_eq] at member
  rcases List.mem_append.mp member with prop | rest
  · obtain ⟨q, used, rfl⟩ := List.mem_map.mp prop
    have origin : q.1 ∈ cands :=
      (sorted_perm cands).mem_iff.mp (List.mem_of_mem_take (mem_take_of_placed used))
    have found := gathered q.1 origin
    have at_venue : q.1.venue = venue := mine
    have quoted : q.1.out = ⌊g q.1.fill⌋₊ :=
      curve q.1 origin at_venue found.fill_pos found.fill_le (Nat.ne_of_gt found.out_pos)
    refine ⟨at_venue ▸ found.member, ?_⟩
    show q.1.out * q.2 / q.1.fill ≤ ⌊g q.2⌋₊
    rw [quoted]
    exact floor_share_le honest.falls (planned.positive q used) (Greedy.le_cap_of_mem_fill _ used)
      (quoted ▸ found.out_pos)
  · -- The remainder goes to the fallback.
    unfold remainderLegs at rest
    split at rest
    · cases rest
    · rw [List.mem_singleton.mp rest] at mine
      exact absurd mine.symm other

/-! ## At execution -/

/-- Where the router runs a leg. -/
def LegExecutes (x : Ctx) (r : LegRun) (leg : Leg) (out : Nat) (s : ChainState) : Prop :=
  Executes x leg.venue r.tokenIn_ r.tokenOut_ leg.amountIn leg.minOut x.self (r.measuredAt x)
    r.deadline out s

theorem LegExecutes.dispatchLeg_ok {r : LegRun} {leg : Leg} {out : Nat} {s : ChainState}
    (executes : LegExecutes x r leg out s) (enough : leg.minOut ≤ out) :
    ∃ s', dispatchLeg x r leg (s.ledger.balance r.tokenOut_ (r.measuredAt x)) s = .ok out s' :=
  (Executes.dispatchVenue_ok_iff executes).mpr enough

/-- A leg that delivers its floor is filled, and leaves nothing to absorb. -/
theorem legLoop_of_executes {r : LegRun} {leg : Leg} {out : Nat} {s : ChainState}
    (other : leg.venue ≠ x.storage.fallbackSwapRouter) (executes : LegExecutes x r leg out s)
    (enough : leg.minOut ≤ out) (rest : List Leg) {delivered : Nat} (fbAmount : Nat)
    (fits : delivered + out < 2 ^ 256) :
    ∃ s', legLoop x r (leg :: rest) delivered fbAmount s = legLoop x r rest (delivered + out)
      fbAmount s' := by
  obtain ⟨s₁, run⟩ := executes.dispatchLeg_ok enough
  have attempted : attempt (dispatchLeg x r leg (s.ledger.balance r.tokenOut_ (r.measuredAt x))) s =
      .ok (some out) s₁ := by
    unfold attempt
    rw [run]
  have added : (lift (checkedAdd delivered out) : RouterM Nat) s₁ = .ok (delivered + out) s₁ := by
    rw [checkedAdd_ok fits]
    rfl
  refine ⟨s₁.emitted (legEvent x r (leg, out)), ?_⟩
  rw [legLoop, if_neg other, bind_of_ok (show balanceOf _ _ s = .ok _ s from rfl),
    bind_of_ok attempted]
  exact bind_of_ok added

/-- Every leg planned for an honest venue has a floor its delivery meets. When it is run
    and delivers, in whatever state and at whatever place of the plan, it is filled and
    nothing of it is added to what Uniswap absorbs. -/
theorem honest_legs_fill (honest : Honest x tokenIn_ tokenOut_ amountIn venue g)
    (other : venue ≠ x.storage.fallbackSwapRouter) (positive : 1 ≤ amountIn)
    (bounded : amountIn ≤ 2 ^ 128 - 1) {s s' : ChainState} {legs : List Leg}
    (plans : planSplit x x.storage.getWhitelistedVenues tokenIn_ tokenOut_ amountIn s =
      .ok legs s') :
    ∀ leg ∈ legs, leg.venue = venue → x.storage.isWhitelistedVenue venue ∧
      leg.minOut ≤ ⌊g leg.amountIn⌋₊ ∧
      ∀ r t, LegExecutes x r leg ⌊g leg.amountIn⌋₊ t →
        (∃ t', dispatchLeg x r leg (t.ledger.balance r.tokenOut_ (r.measuredAt x)) t =
          .ok ⌊g leg.amountIn⌋₊ t') ∧
        ∀ rest delivered fbAmount, delivered + ⌊g leg.amountIn⌋₊ < 2 ^ 256 →
          ∃ t', legLoop x r (leg :: rest) delivered fbAmount t =
            legLoop x r rest (delivered + ⌊g leg.amountIn⌋₊) fbAmount t' := by
  intro leg member mine
  obtain ⟨listed, floor⟩ := wp_ok (ensures_planSplit_floors honest other positive bounded) plans
    leg member mine
  have elsewhere : leg.venue ≠ x.storage.fallbackSwapRouter := by
    rw [mine]
    exact other
  refine ⟨listed, floor, fun r t executes => ⟨?_, fun rest delivered fbAmount fits => ?_⟩⟩
  · exact executes.dispatchLeg_ok floor
  · exact legLoop_of_executes elsewhere executes floor rest fbAmount fits

end Floors

/-! ## Sample -/

theorem Mocks.honest {m : Mocks} {whitelist : EnumerableSet Address} {sender : Address}
    {value amountIn : Nat} {venue : Address} {g : Nat → ℚ} (tokenIn_ tokenOut_ : Address)
    (falls : UnitRateFalls g)
    (quotes : ∀ n q, 1 ≤ n → n ≤ amountIn → m.quote venue n = some q → q < 2 ^ 256 ∧ q = ⌊g n⌋₊)
    (offers : ∀ p, m.quoteFillable venue amountIn = some p →
      p.1 < 2 ^ 256 ∧ p.2 < 2 ^ 256 ∧ p.2 = ⌊g p.1⌋₊) :
    Honest (m.ctx whitelist sender value) tokenIn_ tokenOut_ amountIn venue g where
  falls := falls
  quotes history L size ret L' out one_le le answer decoded := by
    simp only [Mocks.ctx, Mocks.env] at answer
    split at answer
    · cases answer
    · obtain ⟨q, quoted, rest⟩ := Option.map_eq_some_iff.mp answer
      obtain ⟨small, curve⟩ := quotes size q one_le le quoted
      cases rest
      cases decoded
      rw [Mocks.word_toNat small, curve]
  offers history L ret L' fill out answer decoded one_le le := by
    simp only [Mocks.ctx, Mocks.env] at answer
    obtain ⟨p, offered, rest⟩ := Option.map_eq_some_iff.mp answer
    obtain ⟨small, small', curve⟩ := offers p offered
    cases rest
    cases decoded
    rw [Mocks.word_toNat small, Mocks.word_toNat small', curve]

/-- A venue at seven for three up to sixty, behind one at three for one up to fifty. -/
def curveMocks : Mocks :=
  { Mocks.plain fun venue n => some (if venue = 0xA1 then 7 * n / 3 else 3 * n) with
    quoteFillable := fun venue n =>
      if venue = 0xA1 then some (min n 60, 7 * min n 60 / 3) else some (min n 50, 3 * min n 50) }

def curveCtx : Ctx := curveMocks.ctx ⟨[0xA2, 0xA1], by decide⟩ 0xCA 0

/-- The order runs out inside the second leg, whose floor rounds down twice. -/
theorem honest_legs_fill_sample :
      ∃ s', planSplit curveCtx [0xA2, 0xA1] 0x11 0x22 100 (.start (.funded 0)) =
        .ok [⟨0xA2, 50, 150⟩, ⟨0xA1, 50, 116⟩] s' ∧
    ∀ leg ∈ [⟨0xA2, 50, 150⟩, ⟨0xA1, 50, 116⟩], leg.venue = 0xA1 →
    curveCtx.storage.isWhitelistedVenue 0xA1 ∧
      leg.minOut ≤ ⌊((7 * leg.amountIn : ℕ) : ℚ) / (3 : ℕ)⌋₊ ∧
      ∀ r t, LegExecutes curveCtx r leg ⌊((7 * leg.amountIn : ℕ) : ℚ) / (3 : ℕ)⌋₊ t →
        (∃ t', dispatchLeg curveCtx r leg (t.ledger.balance r.tokenOut_ (r.measuredAt curveCtx)) t =
          .ok ⌊((7 * leg.amountIn : ℕ) : ℚ) / (3 : ℕ)⌋₊ t') ∧
        ∀ rest delivered fbAmount, delivered + ⌊((7 * leg.amountIn : ℕ) : ℚ) / (3 : ℕ)⌋₊ < 2 ^ 256 →
          ∃ t', legLoop curveCtx r (leg :: rest) delivered fbAmount t =
            legLoop curveCtx r rest (delivered + ⌊((7 * leg.amountIn : ℕ) : ℚ) / (3 : ℕ)⌋₊)
              fbAmount t' := by
  obtain ⟨s', plans⟩ := exists_ok (a := ([⟨0xA2, 50, 150⟩, ⟨0xA1, 50, 116⟩] : List Leg))
    (m := planSplit curveCtx [0xA2, 0xA1] 0x11 0x22 100) (s := .start (.funded 0))
      (by decide +kernel)
  have honest : Honest curveCtx 0x11 0x22 100 0xA1 fun n => ((7 * n : ℕ) : ℚ) / (3 : ℕ) := by
    apply Mocks.honest
    · intro a b _ _
      push_cast
      exact le_of_eq (by ring)
    · intro n q _ le quoted
      have value : q = 7 * n / 3 := (Option.some.inj quoted).symm
      rw [Nat.floor_div_eq_div, value]
      exact ⟨by omega, rfl⟩
    · intro p offered
      have value : p = (60, 140) := (Option.some.inj offered).symm
      rw [Nat.floor_div_eq_div, value]
      exact ⟨by decide, by decide, by decide⟩
  exact ⟨s', plans, honest_legs_fill honest (by decide) (by decide) (by decide) plans⟩

end PropAMM
