import PropAMM.Lib.Budget
import PropAMM.Router.Delisting
import PropAMM.Router.PlanSafety

/-! # What a call can cost

A tariff charges the operations on other contracts by kind. Whatever they answer or refuse, an
entrypoint's bill is bounded by the size of the whitelist or of the caller's list, and a
split's by constants: the venue count is capped and a blind probe stops halving.
-/

namespace PropAMM

open Txn FrontendFees

structure Tariff where
  /-- A call that quotes, or asks a venue for the extension. -/
  quote : Nat
  /-- A venue's `swap`. -/
  swap : Address → Nat
  /-- The fallback's `exactInputSingle`. -/
  fallback : Nat
  /-- A token operation, or ETH sent along. -/
  payment : Nat

namespace Tariff

variable (τ : Tariff)

def charge : ExtCall → Nat
  | .quote _ _ _ _ | .quoteFillable _ _ _ _ | .supportsInterface _ => τ.quote
  | .quoteExactInputSingle _ _ _ _ _ => τ.quote
  | .swap venue _ _ _ _ _ _ => τ.swap venue
  | .exactInputSingle _ _ _ _ _ _ _ => τ.fallback
  | .safeTransfer _ _ _ | .safeTransferFrom _ _ _ _ | .forceApprove _ _ _ => τ.payment
  | .deposit _ | .withdraw _ | .sendValue _ _ => τ.payment

def bill (calls : List ExtCall) : Nat := (calls.map τ.charge).sum

/-- The bill so far, reverted frames included. -/
def spent (s : ChainState) : Nat := τ.bill s.trace

/-- `B` pays for the swaps of any `k` listed venues. -/
def Covers (st : RouterStorage) (k B : Nat) : Prop :=
  ∀ venues : List Address, venues.Nodup → (∀ v ∈ venues, st.isWhitelistedVenue v) →
    venues.length ≤ k →
    (venues.map τ.swap).sum ≤ B

instance : Counted τ.spent := ⟨fun _ _ => rfl⟩

end Tariff

section Spending

variable {τ : Tariff} {x : Ctx}

theorem spends_call {c : ExtCall} {n : Nat} (k : Nat) (h : τ.charge c ≤ n) :
    Spends τ.spent (n + k) (callExternal x c) fun _ => k := by
  have grown : ∀ s : ChainState, τ.bill (c :: s.trace) = τ.charge c + τ.spent s :=
    fun s => List.sum_cons
  intro s
  apply wp_callExternal
  · intro ret L _
    show τ.bill (c :: s.trace) + k ≤ τ.spent s + (n + k)
    rw [grown]
    omega
  · show τ.bill (c :: s.trace) ≤ τ.spent s + (n + k)
    rw [grown]
    omega

theorem spends_decode {α : Type} {n : Nat} (r : Option α) :
    Spends τ.spent n (decode r) fun _ => n := by
  cases r with
  | none => exact Spends.throw _
  | some a => exact Spends.pure (Nat.le_refl n)

theorem spends_emit {n : Nat} (e : Event) : Spends τ.spent n (emit e) fun _ => n :=
  fun _ => Nat.le_refl _

/-! ## Quoting -/

section Quoting

variable (venue tokenIn tokenOut : Address) (amount k : Nat)

theorem spends_quoteVenue :
    Spends τ.spent (τ.quote + k) (quoteVenue x venue tokenIn tokenOut amount) fun _ => k := by
  unfold quoteVenue UniV3Router.quoteExactIn
  apply Spends.ite
  · intro _
    exact Spends.bind (spends_call k (Nat.le_refl _)) fun _ => spends_decode _
  · intro _
    exact Spends.bind (spends_call k (Nat.le_refl _)) fun _ => spends_decode _

theorem spends_quoteVenueUnchecked :
    Spends τ.spent (τ.quote + k) (quoteVenueUnchecked x venue tokenIn tokenOut amount) fun _ => k :=
  Spends.gate fun _ => spends_quoteVenue venue tokenIn tokenOut amount k

theorem spends_quoteVenueV1 :
    Spends τ.spent (τ.quote + k) (quoteVenueV1 x venue tokenIn tokenOut amount) fun _ => k := by
  apply Spends.gate
  intro _
  exact Spends.bind (spends_quoteVenue venue tokenIn tokenOut amount k) fun _ =>
    Spends.pure (Nat.le_refl k)

theorem spends_pickBestPropAMMLoop (rest : List Address) (best : Nat × Address) :
    Spends τ.spent (rest.length * τ.quote + k)
      (pickBestPropAMMLoop x tokenIn tokenOut amount rest best) fun _ => k := by
  induction rest generalizing best with
  | nil => exact Spends.pure (Nat.le_add_left _ _)
  | cons candidate rest ih =>
      have first :=
        (spends_quoteVenueUnchecked (τ := τ) (x := x.selfCall) candidate tokenIn tokenOut amount 0)
      have step : (candidate :: rest).length * τ.quote + k = τ.quote + 0 +
          (rest.length * τ.quote + k) := by
        rw [List.length_cons]
        ring
      rw [step]
      apply Spends.bind (first.attempt _)
      intro reply
      cases reply with
      | none => exact ih best
      | some amountOut => exact ih _

theorem spends_pickBestPropAMM :
    Spends τ.spent (x.storage.whitelistedVenueCount * τ.quote + k)
      (pickBestPropAMM x tokenIn tokenOut amount) fun _ => k :=
  spends_pickBestPropAMMLoop tokenIn tokenOut amount k _ _

theorem spends_pickBestVenue :
    Spends τ.spent (x.storage.whitelistedVenueCount * τ.quote + (τ.quote + 0 + k))
      (pickBestVenue x tokenIn tokenOut amount) fun _ => k := by
  apply Spends.bind (spends_pickBestPropAMM tokenIn tokenOut amount _)
  intro best
  apply Spends.bind ((spends_quoteVenueUnchecked _ tokenIn tokenOut amount 0).attempt k)
  intro reply
  cases reply with
  | none => exact Spends.pure (Nat.le_refl k)
  | some amountOut => exact Spends.pure (Nat.le_refl k)

theorem spends_pickBestVenueFrom (venues : List Address) :
    Spends τ.spent (venues.length * τ.quote + k)
      (pickBestVenueFrom x venues tokenIn tokenOut amount) fun _ => k := by
  unfold pickBestVenueFrom
  generalize ((0, 0) : Nat × Address) = best
  induction venues generalizing best with
  | nil => exact Spends.pure (Nat.le_add_left _ _)
  | cons venue rest ih =>
      have first := (spends_quoteVenueV1 (τ := τ) (x := x.selfCall) venue tokenIn tokenOut amount 0)
      have step : (venue :: rest).length * τ.quote + k = τ.quote + 0 +
          (rest.length * τ.quote + k) := by
        rw [List.length_cons]
        ring
      rw [step]
      apply Spends.bind (first.attempt _)
      intro reply
      cases reply with
      | none => exact ih best
      | some quoted => exact ih _

/-! ## Planning -/

theorem spends_tryQuote :
    Spends τ.spent (τ.quote + k) (tryQuote x venue tokenIn tokenOut amount) fun _ => k := by
  have quoted :=
    (spends_quoteVenueV1 (τ := τ) (x := x.selfCall) venue tokenIn tokenOut amount 0).attempt k
  apply Spends.bind quoted
  intro reply
  cases reply with
  | none => exact Spends.pure (Nat.le_refl k)
  | some r => exact Spends.pure (Nat.le_refl k)

theorem spends_probeDownLoop (ceiling steps size : Nat) :
    Spends τ.spent (steps * τ.quote + k) (probeDownLoop x venue tokenIn tokenOut ceiling steps size)
      fun _ => k := by
  induction steps generalizing size with
  | zero => exact Spends.pure (Nat.le_add_left _ _)
  | succ steps ih =>
      have step : (steps + 1) * τ.quote + k = τ.quote + (steps * τ.quote + k) := by ring
      have stop : k ≤ steps * τ.quote + k := Nat.le_add_left _ _
      rw [step]
      refine Spends.ite (fun _ => Spends.pure (Nat.le_add_left_of_le stop)) fun _ => ?_
      apply Spends.bind (spends_tryQuote venue tokenIn tokenOut (size / 2) _)
      intro outAt
      refine Spends.ite (fun _ => Spends.pure stop) fun _ => ?_
      exact Spends.ite (fun _ => Spends.pure stop) fun _ => ih _

/-- Two points, and the halvings where they agree. -/
theorem spends_probeBlind :
    Spends τ.spent (τ.quote + (τ.quote + (SplitPlanner.maxSaturationSteps * τ.quote + k)))
      (probeBlind x venue tokenIn tokenOut amount) fun _ => k := by
  have stop : k ≤ SplitPlanner.maxSaturationSteps * τ.quote + k := Nat.le_add_left _ _
  apply Spends.bind (spends_tryQuote venue tokenIn tokenOut amount _)
  intro outFull
  refine Spends.ite (fun _ => Spends.pure (Nat.le_add_left_of_le stop)) fun _ => ?_
  apply Spends.bind (spends_tryQuote venue tokenIn tokenOut (amount / 2) _)
  intro outHalf
  refine Spends.ite (fun _ => Spends.pure stop) fun _ => Spends.ite (fun _ => Spends.pure stop)
    fun _ => ?_
  refine Spends.ite (fun _ => Spends.pure stop) fun _ => Spends.ite (fun _ => ?_) fun _ => ?_
  · exact spends_probeDownLoop venue tokenIn tokenOut k _ _ _
  · apply Spends.bind (Spends.lift _)
    intro saturated
    exact Spends.ite (fun _ => Spends.pure stop) fun _ => Spends.pure stop

theorem spends_supportsInterface :
    Spends τ.spent (τ.quote + k) (supportsInterface x venue) fun _ => k := by
  intro s
  apply wp_supportsInterface
  intro b
  have grown : τ.bill (.supportsInterface venue :: s.trace) = τ.quote + τ.spent s := List.sum_cons
  show τ.bill (.supportsInterface venue :: s.trace) + k ≤ τ.spent s + (τ.quote + k)
  rw [grown]
  omega

/-- The calls a probe makes at most: the interface check and a blind probe. -/
def maxProbeCalls : Nat := SplitPlanner.maxSaturationSteps + 3

theorem spends_probeVenue :
    Spends τ.spent (maxProbeCalls * τ.quote + k) (probeVenue x venue tokenIn tokenOut amount)
      fun _ => k := by
  have step : maxProbeCalls * τ.quote + k
      = τ.quote + (τ.quote + (τ.quote + (SplitPlanner.maxSaturationSteps * τ.quote + k))) := by
    unfold maxProbeCalls
    ring
  have stop : k ≤ SplitPlanner.maxSaturationSteps * τ.quote + k := Nat.le_add_left _ _
  rw [step]
  refine Spends.ite (fun _ => Spends.pure ?_) fun _ => ?_
  · omega
  apply Spends.bind (spends_supportsInterface venue _)
  intro supported
  refine Spends.ite (fun _ => ?_) fun _ => spends_probeBlind venue tokenIn tokenOut amount k
  have offer : Spends τ.spent (τ.quote + 0)
      (quoteFillableUnchecked x.selfCall venue tokenIn tokenOut amount) fun _ => 0 := by
    apply Spends.gate
    intro _
    exact Spends.bind (spends_call 0 (Nat.le_refl _)) fun _ => spends_decode _
  apply Spends.bind (offer.attempt _)
  intro reply
  have rest : k ≤ τ.quote + (SplitPlanner.maxSaturationSteps * τ.quote + k) :=
    Nat.le_add_left_of_le stop
  cases reply with
  | none => exact Spends.pure rest
  | some fillable => exact Spends.ite (fun _ => Spends.pure rest) fun _ => Spends.pure rest

theorem spends_gatherLoop (capacity : Nat) (seen rest : List Address) (tmp : List Candidate) :
    Spends τ.spent (rest.length * (maxProbeCalls * τ.quote) + k)
      (gatherLoop x tokenIn tokenOut amount capacity seen rest tmp) fun _ => k := by
  induction rest generalizing seen tmp with
  | nil => exact Spends.pure (Nat.le_add_left _ _)
  | cons venue rest ih =>
      have step : (venue :: rest).length * (maxProbeCalls * τ.quote) + k
          = maxProbeCalls * τ.quote + (rest.length * (maxProbeCalls * τ.quote) + k) := by
        rw [List.length_cons]
        ring
      rw [step]
      refine Spends.ite (fun _ => (ih _ _).mono (Nat.le_add_left _ _) fun _ => Nat.le_refl k)
        fun _ => ?_
      apply Spends.bind (spends_probeVenue venue tokenIn tokenOut amount _)
      intro probed
      refine Spends.ite (fun _ => ih _ _) fun _ => ?_
      exact Spends.bind (Spends.lift _) fun tmp => ih _ tmp

/-- The re-quotes of the reference that are still to come. -/
def Waterfall.pending (w : Waterfall) : Nat := if w.refined then 0 else 1

theorem spends_refineReference (w : Waterfall) : Spends τ.spent (τ.quote + k)
    (refineReference x tokenIn tokenOut w) fun w' => w'.pending * τ.quote + k := by
  apply Spends.bind (spends_tryQuote _ tokenIn tokenOut w.remaining k)
  intro newOut
  have used : ∀ w' : Waterfall, w'.refined = true → w'.pending * τ.quote + k ≤ k := by
    intro w' refined
    rw [Waterfall.pending, if_pos refined, Nat.zero_mul, Nat.zero_add]
  exact Spends.ite (fun _ => Spends.pure (used _ rfl)) fun _ => Spends.pure (used _ rfl)

/-- The cutoff pays for a quote only where the loop has not paid for one before. -/
theorem spends_cutoff (c : Candidate) (w : Waterfall) : Spends τ.spent (w.pending * τ.quote + k)
    (cutoff x tokenIn tokenOut c w) fun r => r.elim k fun w' => w'.pending * τ.quote + k := by
  apply Spends.bind (Spends.lift _)
  intro lost
  refine Spends.ite (fun _ => ?_) fun _ => Spends.pure (Nat.le_refl _)
  refine Spends.ite (fun _ => Spends.pure (Nat.le_add_left _ _)) fun unrefined => ?_
  have price : w.pending * τ.quote + k = τ.quote + k := by
    rw [Waterfall.pending, if_neg unrefined, Nat.one_mul]
  rw [price]
  apply Spends.bind (spends_refineReference tokenIn tokenOut k w)
  intro w'
  apply Spends.bind (Spends.lift _)
  intro lost'
  exact Spends.ite (fun _ => Spends.pure (Nat.le_add_left _ _)) fun _ => Spends.pure (Nat.le_refl _)

theorem placeLeg_refined {capacity : Nat} {c : Candidate} {w w' : Waterfall}
    (placed : placeLeg capacity c w = .ok w') : w'.refined = w.refined := by
  obtain ⟨minOut, _, placed⟩ := bind_ok placed
  obtain ⟨legs, _, placed⟩ := bind_ok placed
  obtain ⟨remaining, _, placed⟩ := bind_ok placed
  cases placed
  rfl

theorem spends_waterfallLoop (capacity : Nat) (rest : List Candidate) (w : Waterfall) :
    Spends τ.spent (w.pending * τ.quote + k) (waterfallLoop x tokenIn tokenOut capacity rest w)
      fun _ => k := by
  induction rest generalizing w with
  | nil => exact Spends.pure (Nat.le_add_left _ _)
  | cons c rest ih =>
      refine Spends.ite (fun _ => ?_) fun _ => Spends.pure (Nat.le_add_left _ _)
      apply Spends.bind (spends_cutoff tokenIn tokenOut k c w)
      intro verdict
      cases verdict with
      | none => exact Spends.pure (Nat.le_refl k)
      | some w₁ =>
          apply Spends.bind_of (Q := fun w₂ => w₂.refined = w₁.refined) (Spends.lift _)
          · intro s
            apply ensures_iff.mpr
            intro w₂ s' run
            cases placed : placeLeg capacity c w₁ with
            | error e =>
                rw [placed] at run
                cases run
            | ok w₃ =>
                rw [placed] at run
                cases run
                exact placeLeg_refined placed
          · intro w₂ same
            have later := ih w₂
            rw [Waterfall.pending, same] at later
            exact later

theorem spends_waterfall (cands : List Candidate) :
    Spends τ.spent (τ.quote + (1 * τ.quote + k)) (waterfall x cands tokenIn tokenOut amount)
      fun _ => k := by
  refine Spends.ite (fun _ => Spends.pure ?_) fun _ => ?_
  · omega
  apply Spends.bind (spends_tryQuote _ tokenIn tokenOut _ _)
  intro refOut
  apply Spends.bind (spends_waterfallLoop tokenIn tokenOut k _ _ _)
  intro w
  exact Spends.ite (fun _ => Spends.lift _) fun _ => Spends.pure (Nat.le_refl k)

theorem spends_planSplit (venueSet : List Address) :
    Spends τ.spent (venueSet.length * (maxProbeCalls * τ.quote) + (τ.quote + (1 * τ.quote + k)))
      (planSplit x venueSet tokenIn tokenOut amount) fun _ => k := by
  apply Spends.bind (Spends.reads _)
  intro snap
  apply Spends.bind (k := fun _ => k)
  · apply Spends.bind (spends_gatherLoop tokenIn tokenOut amount _ _ _ _ _)
    intro cands
    exact Spends.bind (Spends.lift _) fun sorted =>
      spends_waterfall tokenIn tokenOut amount k sorted
  · intro legs
    apply Spends.bind (Spends.reads _)
    intro balance
    exact Spends.gate fun _ => Spends.pure (Nat.le_refl k)

end Quoting

/-! ## Paying -/

section Paying

variable (k : Nat)

/-- Approve, swap, and reset the approval. -/
theorem spends_swapExactIn (tokenIn tokenOut : Address) (fee amountIn amountOutMinimum : Nat)
    (recipient swapRouter : Address) :
    Spends τ.spent (τ.payment + (τ.fallback + (τ.payment + k)))
      (UniV3Router.swapExactIn x tokenIn tokenOut fee amountIn amountOutMinimum
        recipient swapRouter)
      fun _ => k := by
  apply Spends.bind (spends_call _ (Nat.le_refl _))
  intro _
  apply Spends.bind (spends_call _ (Nat.le_refl _))
  intro ret
  apply Spends.bind (spends_decode _)
  intro amountOut
  exact Spends.bind (spends_call k (Nat.le_refl _)) fun _ => Spends.pure (Nat.le_refl k)

theorem spends_sendETH (target : Address) (amount : Nat) :
    Spends τ.spent (τ.payment + k) (sendETH x target amount) fun _ => k := by
  have sent : Spends τ.spent (τ.payment + 0) (callExternal x (.sendValue target amount))
      fun _ => 0 :=
    spends_call 0 (Nat.le_refl _)
  apply Spends.bind (k := fun _ => k)
  · apply Spends.bind (sent.attempt k)
    intro reply
    cases reply with
    | none => exact Spends.pure (Nat.le_refl k)
    | some ret => exact Spends.pure (Nat.le_refl k)
  · intro ok
    exact Spends.require

/-- The calls that forward ETH: what stays here is only unwrapped. -/
def Ctx.hops (x : Ctx) (target : Address) : Nat := if target = x.self then 1 else 2

theorem spends_forwardETH {n : Nat} {target : Address} (enough : x.hops target ≤ n)
    (tokenOut : Address) (amount : Nat) :
    Spends τ.spent (n * τ.payment + k) (forwardETH x tokenOut target amount) fun _ => k := by
  refine Spends.ite (fun _ => ?_) fun _ => Spends.pure (Nat.le_add_left _ _)
  by_cases here : target = x.self
  · rw [Ctx.hops, if_pos here] at enough
    have paid : τ.payment + k ≤ n * τ.payment + k :=
      Nat.add_le_add_right (Nat.le_mul_of_pos_left _ enough) k
    refine Spends.mono (Spends.bind (spends_call k (Nat.le_refl _)) fun _ => ?_) paid fun _ =>
      Nat.le_refl k
    rw [if_neg (not_not_intro here)]
    exact Spends.pure (Nat.le_refl k)
  · rw [Ctx.hops, if_neg here] at enough
    have paid : τ.payment + (τ.payment + k) ≤ n * τ.payment + k := by
      have := Nat.mul_le_mul_right τ.payment enough
      omega
    refine Spends.mono (Spends.bind (spends_call _ (Nat.le_refl _)) fun _ => ?_) paid fun _ =>
      Nat.le_refl k
    rw [if_pos here]
    exact spends_sendETH k target amount

theorem spends_dispatchVenue {venue : Address} {B : Nat}
    (paid : x.storage.isWhitelistedVenue venue → τ.swap venue ≤ B) (tokenIn tokenOut : Address)
    (amountIn amountOutMin : Nat) (payer recipient : Address) (deadline prevTokenOutBalance : Nat) :
    Spends τ.spent (τ.payment + (B + k))
      (dispatchVenue x venue tokenIn tokenOut amountIn amountOutMin payer
      recipient deadline prevTokenOutBalance) fun _ => k := by
  apply Spends.gate
  intro _
  apply Spends.gate
  intro listed
  have pushed : τ.charge (if payer = x.self then .safeTransfer tokenIn venue amountIn
      else .safeTransferFrom tokenIn payer venue amountIn) ≤ τ.payment := by
    split <;> exact Nat.le_refl _
  apply Spends.bind (spends_call _ pushed)
  intro _
  apply Spends.bind (spends_call k (paid listed))
  intro ret
  apply Spends.bind (spends_decode _)
  intro _
  apply Spends.bind (Spends.reads _)
  intro balance
  apply Spends.bind (Spends.lift _)
  intro amountOut
  exact Spends.gate fun _ => Spends.pure (Nat.le_refl k)

/-- The calls that move an ERC-20 input onto the router. -/
def pulls (tokenIn : Address) : Nat := if tokenIn = ethSentinel then 0 else 1

theorem spends_wrapInput (tokenIn : Address) (amountIn : Nat) :
    Spends τ.spent (τ.payment + k) (wrapInput x tokenIn amountIn) fun _ =>
      pulls tokenIn * τ.payment + k := by
  unfold wrapInput pulls
  split
  · apply Spends.gate
    intro _
    refine Spends.bind (spends_call k (Nat.le_refl _)) fun _ => Spends.pure ?_
    omega
  · apply Spends.gate
    intro _
    apply Spends.pure
    omega

variable {a : SwapArgs}

theorem spends_coreFallback {n : Nat} (enough : x.hops a.recipient ≤ n)
    (tokenIn_ tokenOut_ recipient_ : Address) (prevTokenOutBalance : Nat) :
    Spends τ.spent
      (pulls a.tokenIn * τ.payment + (τ.payment + (τ.fallback + (τ.payment + (n * τ.payment + k)))))
      (coreFallback x a tokenIn_ tokenOut_ recipient_ prevTokenOutBalance) fun _ => k := by
  have swapped : Spends τ.spent (τ.payment + (τ.fallback + (τ.payment + (n * τ.payment + k))))
      (do
        let _ ← UniV3Router.swapExactIn x tokenIn_ tokenOut_
          (x.storage.resolvedFee tokenIn_ tokenOut_) a.amountIn a.amountOutMin recipient_
            x.storage.fallbackSwapRouter
        let balance ← balanceOf tokenOut_ recipient_
        let amountOut ← lift (checkedSub balance prevTokenOutBalance)
        require (amountOut ≥ a.amountOutMin) (.insufficientOutput a.amountOutMin amountOut)
        forwardETH x a.tokenOut a.recipient amountOut
        return (amountOut, x.storage.fallbackSwapRouter) : RouterM (Nat × Address)) fun _ => k := by
    apply Spends.bind (spends_swapExactIn _ _ _ _ _ _ _ _)
    intro _
    apply Spends.bind (Spends.reads _)
    intro balance
    apply Spends.bind (Spends.lift _)
    intro amountOut
    apply Spends.gate
    intro _
    exact Spends.bind (spends_forwardETH k enough _ _) fun _ => Spends.pure (Nat.le_refl k)
  unfold coreFallback pulls
  by_cases wrapped : a.tokenIn = ethSentinel
  · rw [if_pos wrapped, if_neg (not_not_intro wrapped), Nat.zero_mul, Nat.zero_add]
    exact swapped
  · rw [if_neg wrapped, if_pos wrapped, Nat.one_mul]
    exact Spends.bind (spends_call _ (Nat.le_refl _)) fun _ => swapped

theorem spends_coreSwap {venue : Address} {n B : Nat} (enough : x.hops a.recipient ≤ n)
    (paid : x.storage.isWhitelistedVenue venue → τ.swap venue ≤ B) :
    Spends τ.spent ((n + 4) * τ.payment + (B + (τ.fallback + k))) (coreSwap x venue a)
      fun _ => k := by
  have step : (n + 4) * τ.payment + (B + (τ.fallback + k)) = τ.payment + (τ.payment + (B + 0) +
      (τ.payment + (τ.fallback + (τ.payment + (n * τ.payment + k))))) := by ring
  rw [step]
  apply Spends.gate
  intro _
  apply Spends.bind (spends_wrapInput _ _ _)
  intro wrapped
  apply Spends.gate
  intro _
  apply Spends.bind (k := fun _ => pulls a.tokenIn * τ.payment + (τ.payment + (B + 0) +
      (τ.payment + (τ.fallback + (τ.payment + (n * τ.payment + k))))))
  · exact fun _ => Nat.le_refl _
  intro _
  apply Spends.bind (Spends.reads _)
  intro prevTokenOutBalance
  have fallback := spends_coreFallback (τ := τ) k enough wrapped.1 (resolveToken a.tokenOut)
    (measuredAt x a.tokenOut a.recipient) prevTokenOutBalance
  refine Spends.ite (fun _ => ?_) fun _ => fallback.mono ?_ fun _ => Nat.le_refl k
  · have tried := spends_dispatchVenue (τ := τ) (x := x.selfCall) 0 paid wrapped.1
      (resolveToken a.tokenOut) a.amountIn a.amountOutMin wrapped.2
        (measuredAt x a.tokenOut a.recipient) a.deadline prevTokenOutBalance
    have order : pulls a.tokenIn * τ.payment + (τ.payment + (B + 0) +
        (τ.payment + (τ.fallback + (τ.payment + (n * τ.payment + k))))) = τ.payment + (B + 0) +
        (pulls a.tokenIn * τ.payment +
          (τ.payment + (τ.fallback + (τ.payment + (n * τ.payment + k))))) := by
      omega
    rw [order]
    apply Spends.bind (tried.attempt _)
    intro reply
    cases reply with
    | none => exact fallback
    | some amountOut =>
        refine Spends.mono
          (Spends.bind (spends_forwardETH k enough _ _) fun _ => Spends.pure (Nat.le_refl k)) ?_
          fun _ => Nat.le_refl k
        omega
  · omega

theorem spends_validateFee {n : Nat} (fee : FrontendFee) :
    Spends τ.spent n (validateFee fee) fun _ => n :=
  Spends.gate fun _ => Spends.require

/-- The fee and the net are one payment each. -/
theorem spends_skimAndDisburse (tokenOut : Address) (delivered : Nat) (fee : FrontendFee)
    (recipient : Address) (amountOutMin : Nat) : Spends τ.spent (τ.payment + (τ.payment + k))
      (skimAndDisburse x tokenOut delivered fee recipient amountOutMin) fun _ => k := by
  have paid : ∀ n, n ≤ τ.payment + n := fun n => Nat.le_add_left _ _
  apply Spends.bind (Spends.lift _)
  intro feeAmt
  apply Spends.bind (Spends.lift _)
  intro net
  apply Spends.bind (k := fun _ => τ.payment + k)
  · refine Spends.ite (fun _ => Spends.ite (fun _ => ?_) fun _ => ?_) fun _ => Spends.pure (paid _)
    · exact Spends.bind (spends_sendETH _ _ _) fun _ => spends_emit _
    · exact Spends.bind (spends_call _ (Nat.le_refl _)) fun _ => spends_emit _
  intro _
  apply Spends.bind (k := fun _ => τ.payment + k)
  · exact fun _ => Nat.le_refl _
  intro _
  apply Spends.bind (k := fun _ => k)
  · refine Spends.ite (fun _ => Spends.ite (fun _ => ?_) fun _ => Spends.pure (paid k)) fun _ => ?_
    · exact Spends.bind (spends_sendETH k _ _) fun _ => Spends.pure (Nat.le_refl k)
    · apply Spends.bind (Spends.reads _)
      intro prevBalance
      have measured : Spends τ.spent k (do
          let balance ← balanceOf tokenOut recipient
          lift (checkedSub balance prevBalance) : RouterM Nat) fun _ => k :=
        Spends.bind (Spends.reads _) fun _ => Spends.lift _
      refine Spends.ite (fun _ => ?_) fun _ => measured.mono (paid k) fun _ => Nat.le_refl k
      exact Spends.bind (spends_call k (Nat.le_refl _)) fun _ => measured
  · intro out
    exact Spends.gate fun _ => Spends.pure (Nat.le_refl k)

theorem spends_executeSwap {venue : Address} {B : Nat}
    (paid : x.storage.isWhitelistedVenue venue → τ.swap venue ≤ B) :
    Spends τ.spent (6 * τ.payment + (B + (τ.fallback + k))) (executeSwap x venue a) fun _ => k := by
  have enough : x.hops a.recipient ≤ 2 := by
    unfold Ctx.hops
    split <;> decide
  apply Spends.bind (spends_coreSwap k enough paid)
  intro executed
  exact Spends.bind (spends_emit _) fun _ => Spends.pure (Nat.le_refl k)

/-- The proceeds stay on the router until they are disbursed. -/
theorem spends_executeSwapWithFee {venue : Address} {B : Nat}
    (paid : x.storage.isWhitelistedVenue venue → τ.swap venue ≤ B) (grossMin : Nat)
    (fee : FrontendFee) :
    Spends τ.spent (7 * τ.payment + (B + (τ.fallback + k)))
      (executeSwapWithFee x venue a grossMin fee) fun _ => k := by
  have enough : x.hops x.self ≤ 1 := by rw [Ctx.hops, if_pos rfl]
  have order : 7 * τ.payment + (B + (τ.fallback + k))
      = (1 + 4) * τ.payment + (B + (τ.fallback + (τ.payment + (τ.payment + k)))) := by omega
  rw [order]
  apply Spends.bind (spends_coreSwap (a := { a with amountOutMin := grossMin, recipient := x.self })
    _ enough paid)
  intro executed
  apply Spends.bind (spends_skimAndDisburse k _ _ _ _ _)
  intro amountOut
  exact Spends.bind (spends_emit _) fun _ => Spends.pure (Nat.le_refl k)

/-! ## Splitting -/

/-- Running a leg through its venue; the fallback's legs are merged into one. -/
def Tariff.leg (τ : Tariff) (fb : Address) (leg : Leg) : Nat :=
  if leg.venue = fb then 0 else τ.payment + τ.swap leg.venue

theorem spends_legLoop (r : LegRun) (legs : List Leg) (delivered fbAmount : Nat) :
    Spends τ.spent ((legs.map (τ.leg x.storage.fallbackSwapRouter)).sum + k)
      (legLoop x r legs delivered fbAmount) fun _ => k := by
  induction legs generalizing delivered fbAmount with
  | nil => exact Spends.pure (Nat.le_add_left _ _)
  | cons leg legs ih =>
      rw [List.map_cons, List.sum_cons, Nat.add_assoc]
      refine Spends.ite (fun _ => ?_) fun other => ?_
      · refine Spends.mono (Spends.bind (Spends.lift _) fun _ => ih _ _) (Nat.le_add_left _ _)
          fun _ => Nat.le_refl k
      · have price : τ.leg x.storage.fallbackSwapRouter leg = τ.payment + (τ.swap leg.venue + 0) :=
          if_neg other
        rw [price]
        apply Spends.bind (Spends.reads _)
        intro prevBal
        have tried : Spends τ.spent (τ.payment + (τ.swap leg.venue + 0))
            (dispatchLeg x r leg prevBal) fun _ => 0 :=
          spends_dispatchVenue 0 (fun _ => Nat.le_refl _) _ _ _ _ _ _ _ _
        apply Spends.bind (tried.attempt _)
        intro reply
        cases reply with
        | none => exact Spends.bind (Spends.lift _) fun _ => ih _ _
        | some legOut =>
            apply Spends.bind (Spends.lift _)
            intro delivered
            exact Spends.bind (spends_emit _) fun _ => ih _ _

theorem spends_settleRemainder (r : LegRun) (delivered fbAmount : Nat) :
    Spends τ.spent (τ.payment + (τ.fallback + (τ.payment + k)))
      (settleRemainder x r delivered fbAmount) fun _ => k := by
  apply Spends.bind (Spends.reads _)
  intro prevBal
  apply Spends.bind (spends_swapExactIn k _ _ _ _ _ _ _)
  intro _
  apply Spends.bind (Spends.reads _)
  intro balance
  apply Spends.bind (Spends.lift _)
  intro fbOut
  apply Spends.gate
  intro _
  apply Spends.bind (Spends.lift _)
  intro delivered
  exact Spends.bind (spends_emit _) fun _ => Spends.pure (Nat.le_refl k)

theorem spends_executeLegs {r : LegRun} {n : Nat} (enough : x.hops r.payTo ≤ n) (legs : List Leg) :
    Spends τ.spent ((legs.map (τ.leg x.storage.fallbackSwapRouter)).sum +
        (τ.payment + (τ.fallback + (τ.payment + (n * τ.payment + k))))) (executeLegs x r legs)
          fun _ => k := by
  have finish : ∀ delivered, Spends τ.spent (n * τ.payment + k) (do
      require (delivered ≥ r.amountOutMin) (.insufficientOutput r.amountOutMin delivered)
      forwardETH x r.tokenOut r.payTo delivered
      return delivered : RouterM Nat) fun _ => k := by
    intro delivered
    apply Spends.gate
    intro _
    exact Spends.bind (spends_forwardETH k enough _ _) fun _ => Spends.pure (Nat.le_refl k)
  apply Spends.bind (Spends.lift _)
  intro allocated
  apply Spends.gate
  intro _
  apply Spends.gate
  intro _
  apply Spends.bind (k := fun _ => (legs.map (τ.leg x.storage.fallbackSwapRouter)).sum +
        (τ.payment + (τ.fallback + (τ.payment + (n * τ.payment + k)))))
  · exact fun _ => Nat.le_refl _
  intro _
  apply Spends.bind (spends_legLoop _ r legs 0 0)
  intro run
  refine Spends.ite (fun _ => ?_) fun _ => ?_
  · exact Spends.bind (spends_settleRemainder _ r _ _) finish
  · refine Spends.mono (Spends.bind (Spends.pure (Nat.le_refl _)) finish) ?_ fun _ => Nat.le_refl k
    omega

theorem spends_pullSplitFunds (tokenIn tokenOut : Address) (amountIn : Nat) :
    Spends τ.spent (τ.payment + k) (pullSplitFunds x tokenIn tokenOut amountIn) fun _ => k := by
  apply Spends.gate
  intro _
  refine Spends.ite (fun _ => ?_) fun _ => ?_
  · apply Spends.gate
    intro _
    exact Spends.bind (spends_call k (Nat.le_refl _)) fun _ => Spends.pure (Nat.le_refl k)
  · apply Spends.gate
    intro _
    exact Spends.bind (spends_call k (Nat.le_refl _)) fun _ => Spends.pure (Nat.le_refl k)

/-- The legs of a sound plan go to few venues, each of them once. -/
theorem SoundPlan.legs_paid {cands : List Candidate} {amountIn B : Nat} {props legs : List Leg}
    (sound : SoundPlan x cands amountIn props legs) (covers : τ.Covers x.storage maxLegs B) :
    (legs.map (τ.leg x.storage.fallbackSwapRouter)).sum ≤ maxLegs * τ.payment + B := by
  have same : (legs.map (τ.leg x.storage.fallbackSwapRouter)).sum
      = (props.map (τ.leg x.storage.fallbackSwapRouter)).sum := by
    rcases sound.fallback_last with rfl | ⟨remaining, rfl⟩
    · rfl
    · rw [List.map_append, List.sum_append, List.map_singleton, List.sum_singleton,
        Tariff.leg, if_pos rfl, Nat.add_zero]
  have venues : props.map (τ.leg x.storage.fallbackSwapRouter)
      = props.map fun leg => τ.payment + τ.swap leg.venue := by
    apply List.map_congr_left
    intro leg member
    exact if_neg (sound.listed leg member).2
  have swaps : ((props.map Leg.venue).map τ.swap).sum ≤ B := by
    apply covers _ sound.distinct
    · intro v member
      obtain ⟨leg, placed, rfl⟩ := List.mem_map.mp member
      exact (sound.listed leg placed).1
    · rw [List.length_map]
      exact sound.few
  rw [List.map_map] at swaps
  rw [same, venues, List.sum_map_add]
  apply Nat.add_le_add _ swaps
  rw [List.map_const', List.sum_replicate_nat]
  exact Nat.mul_le_mul_right _ sound.few

/-- A validated amount is positive and fits. -/
theorem spends_validated {α : Type} {n amountIn : Nat} {left : α → Nat} {f : PUnit → RouterM α}
    (h : 0 < amountIn → amountIn ≤ maxU128 → Spends τ.spent n (f ⟨⟩) left) :
    Spends τ.spent n (validateSplitParams amountIn >>= f) left := by
  intro s
  simp only [validateSplitParams, wp_bind, wp_require]
  exact ⟨fun positive => ⟨fun bounded => h positive bounded s, fun _ => Nat.le_add_right _ _⟩,
    fun _ => Nat.le_add_right _ _⟩

/-- The whitelist is only planned over while it is small. -/
theorem spends_collected {α : Type} {n : Nat} {left : α → Nat} {f : List Address → RouterM α}
    (h : x.storage.whitelistedVenueCount ≤ maxSplitVenues →
      Spends τ.spent n (f x.storage.getWhitelistedVenues) left) :
    Spends τ.spent n (collectVenues x >>= f) left := by
  intro s
  simp only [collectVenues, wp_bind, wp_require, wp_pure]
  exact ⟨fun few => h few s, fun _ => Nat.le_add_right _ _⟩

theorem spends_splitSwap {n B amountOutMin : Nat} {payTo : Address} (positive : 0 < a.amountIn)
    (bounded : a.amountIn ≤ maxU128) (few : x.storage.whitelistedVenueCount ≤ maxSplitVenues)
    (covers : τ.Covers x.storage maxLegs B) (enough : x.hops payTo ≤ n) :
    Spends τ.spent ((maxSplitVenues * maxProbeCalls + 2) * τ.quote +
      ((n + 8) * τ.payment + (B + (τ.fallback + k))))
      (splitSwap x x.storage.getWhitelistedVenues a amountOutMin payTo) fun _ => k := by
  have probes : x.storage.whitelistedVenueCount * (maxProbeCalls * τ.quote)
      ≤ maxSplitVenues * (maxProbeCalls * τ.quote) := Nat.mul_le_mul_right _ few
  have rest : x.storage.getWhitelistedVenues.length * (maxProbeCalls * τ.quote) +
      (τ.quote + (1 * τ.quote +
      (maxLegs * τ.payment + B + (τ.payment + (τ.fallback + (τ.payment + (n * τ.payment + k))))))) +
        τ.payment
      ≤ (maxSplitVenues * maxProbeCalls + 2) * τ.quote +
        ((n + 8) * τ.payment + (B + (τ.fallback + k))) := by
    have legs : maxLegs * τ.payment = 5 * τ.payment := rfl
    have count : x.storage.getWhitelistedVenues.length = x.storage.whitelistedVenueCount := rfl
    have quotes : (maxSplitVenues * maxProbeCalls + 2) * τ.quote
        = maxSplitVenues * (maxProbeCalls * τ.quote) + 2 * τ.quote := by ring
    have payments : (n + 8) * τ.payment = n * τ.payment + 8 * τ.payment := by ring
    rw [count, quotes, payments, legs]
    omega
  refine Spends.mono ?_ ((Nat.le_of_eq (Nat.add_comm _ _)).trans rest) fun _ => Nat.le_refl k
  apply Spends.bind (spends_pullSplitFunds _ _ _ _)
  intro pulled
  apply Spends.bind_of
    (Q := fun legs => (legs.map (τ.leg x.storage.fallbackSwapRouter)).sum ≤ maxLegs * τ.payment + B)
      (spends_planSplit _ _ _ _ _)
  · intro s
    refine wp_mono (wp_planSplit positive bounded) ?_ (fun _ _ _ => trivial)
    rintro legs s' ⟨_, _, _, _, sound⟩
    exact sound.legs_paid covers
  · intro legs paid
    refine (spends_executeLegs k enough legs).mono ?_ fun _ => Nat.le_refl k
    omega

end Paying

end Spending

/-! ## Entrypoints -/

namespace SwapCall

/-- The quoting calls it makes at most. -/
def quotes (st : RouterStorage) : SwapCall → Nat
  | swapV1 _ | swapWithFeeV1 _ _ => st.whitelistedVenueCount
  | swapViaVenueV1 _ _ | swapViaVenueWithFeeV1 _ _ _ => 0
  | swapViaSelectedVenuesV1 venues _ | swapViaSelectedVenuesWithFeeV1 venues _ _ => venues.length
  | swapSplitV1 _ | swapSplitWithFeeV1 _ _ => maxSplitVenues * maxProbeCalls + 2

/-- The venues it executes on at most. -/
def legs (call : SwapCall) : Nat := if call.isSplit then maxLegs else 1

/-- The token operations and payments it makes at most. -/
def payments (call : SwapCall) : Nat :=
  (if call.isSplit then 10 else 6) + if call.fee?.isSome then 1 else 0

end SwapCall

section Entrypoints

variable {τ : Tariff} {x : Ctx} {B : Nat}

theorem Tariff.Covers.listed {st : RouterStorage} (covers : τ.Covers st 1 B) {venue : Address}
    (listed : st.isWhitelistedVenue venue) : τ.swap venue ≤ B := by
  have single := covers [venue] (List.nodup_singleton venue)
    (fun v member => List.mem_singleton.mp member ▸ listed) (Nat.le_refl 1)
  simpa using single

theorem spends_guarded {α : Type} {n : Nat} {left : α → Nat} {body : Ctx → RouterM α}
    (h : Spends τ.spent n (body x.enter) left) : Spends τ.spent n (guarded x body) left :=
  Spends.gate fun _ => Spends.gate fun _ => h

theorem spends_fst {α : Type} {n : Nat} {m : RouterM (Nat × α)}
    (h : Spends τ.spent n m fun _ => 0) : Spends τ.spent n (Prod.fst <$> m) fun _ => 0 := by
  intro s
  rw [wp_map]
  exact h s

/-- A run of a swap entrypoint stays within its bill. -/
theorem spends_run (call : SwapCall) (covers : τ.Covers x.storage call.legs B) :
    Spends τ.spent
      (call.quotes x.storage * τ.quote + (call.payments * τ.payment + (B + (τ.fallback + 0))))
      (call.run x) fun _ => 0 := by
  cases call with
  | swapV1 a =>
      apply spends_fst
      apply spends_guarded
      apply Spends.bind (spends_pickBestPropAMM _ _ _ _)
      intro best
      exact spends_executeSwap 0 covers.listed
  | swapWithFeeV1 a fee =>
      apply spends_fst
      apply spends_guarded
      apply Spends.bind (spends_validateFee fee)
      intro _
      apply Spends.bind (Spends.lift _)
      intro grossMin
      apply Spends.bind (spends_pickBestPropAMM _ _ _ _)
      intro best
      exact spends_executeSwapWithFee 0 covers.listed _ _
  | swapViaVenueV1 venue a =>
      rw [SwapCall.quotes, Nat.zero_mul, Nat.zero_add]
      apply spends_fst
      apply spends_guarded
      apply Spends.gate
      intro _
      exact spends_executeSwap 0 covers.listed
  | swapViaVenueWithFeeV1 venue a fee =>
      rw [SwapCall.quotes, Nat.zero_mul, Nat.zero_add, SwapCall.run]
      apply spends_guarded
      apply Spends.bind (spends_validateFee fee)
      intro _
      apply Spends.gate
      intro _
      apply Spends.bind (Spends.lift _)
      intro grossMin
      exact Spends.bind (spends_executeSwapWithFee 0 covers.listed _ _) fun _ =>
        Spends.pure (Nat.le_refl 0)
  | swapViaSelectedVenuesV1 venues a =>
      apply spends_fst
      apply spends_guarded
      apply Spends.bind (spends_pickBestVenueFrom _ _ _ _ _)
      intro best
      exact spends_executeSwap 0 covers.listed
  | swapViaSelectedVenuesWithFeeV1 venues a fee =>
      apply spends_fst
      apply spends_guarded
      apply Spends.bind (spends_validateFee fee)
      intro _
      apply Spends.bind (Spends.lift _)
      intro grossMin
      apply Spends.bind (spends_pickBestVenueFrom _ _ _ _ _)
      intro best
      exact spends_executeSwapWithFee 0 covers.listed _ _
  | swapSplitV1 a =>
      have enough : x.enter.hops a.recipient ≤ 2 := by
        unfold Ctx.hops
        split <;> decide
      rw [SwapCall.run]
      apply spends_guarded
      apply Spends.gate
      intro _
      apply spends_validated
      intro positive bounded
      apply spends_collected
      intro few
      exact spends_splitSwap 0 positive bounded few covers enough
  | swapSplitWithFeeV1 a fee =>
      have enough : x.enter.hops x.enter.self ≤ 1 := by rw [Ctx.hops, if_pos rfl]
      rw [SwapCall.run]
      apply spends_guarded
      apply Spends.bind (spends_validateFee fee)
      intro _
      apply Spends.gate
      intro _
      apply spends_validated
      intro positive bounded
      apply spends_collected
      intro few
      apply Spends.bind (Spends.lift _)
      intro grossMin
      have order : (SwapCall.swapSplitWithFeeV1 a fee).payments * τ.payment + (B + (τ.fallback + 0))
          = (1 + 8) * τ.payment + (B + (τ.fallback + (τ.payment + (τ.payment + 0)))) := by
        have eleven : (SwapCall.swapSplitWithFeeV1 a fee).payments = 11 := rfl
        rw [eleven]
        omega
      rw [order]
      apply Spends.bind (spends_splitSwap _ positive bounded few covers enough)
      intro delivered
      exact spends_skimAndDisburse 0 _ _ _ _ _

namespace UserCall

def quotes (st : RouterStorage) : UserCall → Nat
  | quoteV1 _ _ _ => st.whitelistedVenueCount + 1
  | quoteVenueV1 _ _ _ _ => 1
  | quoteSelectedVenuesV1 venues _ _ _ => venues.length
  | quoteVenueUnchecked _ _ _ _ | quoteFillableUnchecked _ _ _ _ | dispatchVenue _ _ _ _
      _ _ _ _ _ => 0
  | swap call => call.quotes st

def payments : UserCall → Nat
  | swap call => call.payments
  | _ => 0

def legs : UserCall → Nat
  | swap call => call.legs
  | _ => 0

/-- The swaps through the fallback it makes at most. -/
def fallbacks : UserCall → Nat
  | swap _ => 1
  | _ => 0

/-- The operations on other contracts it comes to at most. -/
def limit (st : RouterStorage) (call : UserCall) : Nat :=
  call.quotes st + call.payments + call.legs + call.fallbacks

end UserCall

/-- A user's call stays within its bill. -/
theorem spends_userCall (outside : x.sender ≠ x.self) (call : UserCall)
    (covers : τ.Covers x.storage call.legs B) : Spends τ.spent (call.quotes x.storage * τ.quote +
        (call.payments * τ.payment + (B + call.fallbacks * τ.fallback)))
      (call.run x) fun _ => 0 := by
  have paid : ∀ n, n ≤ n + (0 * τ.payment + (B + 0 * τ.fallback)) := fun n => Nat.le_add_right _ _
  cases call with
  | quoteV1 tokenIn tokenOut amount =>
      have order : (x.storage.whitelistedVenueCount + 1) * τ.quote
          = x.storage.whitelistedVenueCount * τ.quote + (τ.quote + 0 + 0) := by ring
      have quoted : Spends τ.spent ((x.storage.whitelistedVenueCount + 1) * τ.quote)
          (quoteV1 x tokenIn tokenOut amount) fun _ => 0 := by
        rw [order]
        apply Spends.bind (spends_pickBestVenue _ _ _ 0)
        intro best
        exact Spends.gate fun _ => Spends.pure (Nat.le_refl 0)
      exact spends_fst (quoted.mono (paid _) fun _ => Nat.le_refl 0)
  | quoteVenueV1 venue tokenIn tokenOut amount =>
      apply spends_fst
      refine (spends_quoteVenueV1 venue tokenIn tokenOut amount 0).mono ?_ fun _ => Nat.le_refl 0
      rw [UserCall.quotes, Nat.one_mul]
      exact paid _
  | quoteSelectedVenuesV1 venues tokenIn tokenOut amountIn =>
      have quoted : Spends τ.spent (venues.length * τ.quote + 0)
          (quoteSelectedVenuesV1 x venues tokenIn tokenOut amountIn) fun _ => 0 := by
        apply Spends.bind (spends_pickBestVenueFrom _ _ _ 0 _)
        intro best
        exact Spends.gate fun _ => Spends.pure (Nat.le_refl 0)
      exact spends_fst (quoted.mono (paid _) fun _ => Nat.le_refl 0)
  | quoteVenueUnchecked venue tokenIn tokenOut amount =>
      exact Spends.gate fun own => absurd own outside
  | quoteFillableUnchecked venue tokenIn_ tokenOut_ amountIn =>
      intro s
      rw [UserCall.run, wp_map]
      exact (Spends.gate fun own => absurd own outside :
        Spends τ.spent _ (quoteFillableUnchecked x venue tokenIn_ tokenOut_ amountIn) fun _ => 0) s
  | dispatchVenue => exact Spends.gate fun own => absurd own outside
  | swap call =>
      rw [UserCall.fallbacks, Nat.one_mul]
      exact spends_run call covers

end Entrypoints

/-! ## What is made -/

section Made

variable {self : Address} {o : UserOp}

theorem UserOp.final_trace (outside : o.sender ≠ self) (st : RouterStorage) :
    (final (o.call.run (o.ctx self st)) o.start).trace = o.made self st ++ o.start.trace := by
  obtain ⟨calls, grown, _⟩ := (gated_userCall (x := o.ctx self st) outside o.call).final o.start
  simp only [UserOp.made]
  rw [grown, List.length_append, Nat.add_sub_cancel, List.take_left]

/-- Whatever the tariff, the calls made are within the bill. -/
theorem UserOp.bill_made (outside : o.sender ≠ self) (st : RouterStorage) {τ : Tariff} {B : Nat}
    (covers : τ.Covers st o.call.legs B) : τ.bill (o.made self st)
      ≤ o.call.quotes st * τ.quote + o.call.payments * τ.payment + B +
        o.call.fallbacks * τ.fallback := by
  have within_bill := (spends_userCall (x := o.ctx self st) outside o.call covers).final o.start
  unfold Tariff.spent at within_bill
  rw [o.final_trace outside, Tariff.bill, List.map_append, List.sum_append] at within_bill
  change τ.bill (o.made self st) + τ.bill o.start.trace ≤ τ.bill o.start.trace
    + (o.call.quotes st * τ.quote +
      (o.call.payments * τ.payment + (B + o.call.fallbacks * τ.fallback))) at within_bill
  omega

theorem sum_map_indicator {α : Type} (p : α → Bool) (l : List α) :
    (l.map fun a => if p a then 1 else 0).sum = l.countP p := by
  induction l with
  | nil => rfl
  | cons a l ih => rw [List.map_cons, List.sum_cons, ih, List.countP_cons, Nat.add_comm]

/-- A tariff that charges one for the calls of a kind bills their number. -/
theorem Tariff.bill_count {τ : Tariff} {p : ExtCall → Bool}
    (counts : ∀ c, τ.charge c = if p c then 1 else 0) (calls : List ExtCall) :
    τ.bill calls = calls.countP p := by
  rw [Tariff.bill, funext counts, sum_map_indicator]

theorem Tariff.covers_of_le_one {τ : Tariff} (le : ∀ v, τ.swap v ≤ 1) (st : RouterStorage)
    (k : Nat) : τ.Covers st k k := by
  intro venues _ _ few
  have bounded := List.sum_le_card_nsmul (venues.map τ.swap) 1 (by simpa using fun v _ => le v)
  rw [List.length_map, Nat.nsmul_eq_mul, Nat.mul_one] at bounded
  exact bounded.trans few

namespace ExtCall

/-- A venue is asked to swap. -/
def isSwap : ExtCall → Bool
  | swap _ _ _ _ _ _ _ => true
  | _ => false

def isSwapAt (v : Address) : ExtCall → Bool
  | swap venue _ _ _ _ _ _ => venue = v
  | _ => false

def isFallbackSwap : ExtCall → Bool
  | exactInputSingle _ _ _ _ _ _ _ => true
  | _ => false

end ExtCall

/-- Whatever its callees answer, a call of a user comes to a bounded number of operations on
    other contracts, reverted ones included; a split's bound does not even depend on the
    whitelist. Balance reads and self-calls are not counted. -/
theorem operations_bounded (self : Address) (st : RouterStorage) (o : UserOp)
    (outside : o.sender ≠ self) : (o.made self st).length ≤ o.call.limit st ∧
      ∀ call, o.call = .swap call → call.isSplit = true → (o.made self st).length ≤ 151 := by
  have counted : (o.made self st).length ≤ o.call.limit st := by
    have charged : ∀ c, (⟨1, fun _ => 1, 1, 1⟩ : Tariff).charge c = if (fun _ => true) c then 1
        else 0 := by
      intro c
      cases c <;> rfl
    have covers := Tariff.covers_of_le_one (τ := ⟨1, fun _ => 1, 1, 1⟩)
      (fun _ => Nat.le_refl 1) st o.call.legs
    have billed := o.bill_made outside st covers
    rw [Tariff.bill_count charged, List.countP_true] at billed
    simpa [UserCall.limit] using billed
  refine ⟨counted, ?_⟩
  intro call shape split
  rw [shape] at counted
  cases call with
  | swapSplitV1 a => exact counted.trans (show 150 ≤ 151 from Nat.le_succ 150)
  | swapSplitWithFeeV1 a fee => exact counted
  | _ => cases split

/-- A split over one venue, with operations to spare. -/
theorem operations_bounded_sample :
    (sampleOp (.swap (sampleSplit 0x22))).sender ≠ 0x50 ∧
      ((sampleOp (.swap (sampleSplit 0x22))).made 0x50
        (deployedStorage.after sampleHistory)).length ≤ 151 := by
  have outside : (sampleOp (.swap (sampleSplit 0x22))).sender ≠ 0x50 := by decide
  exact ⟨outside, (operations_bounded 0x50 _ (sampleOp (.swap (sampleSplit 0x22))) outside).2 _ rfl
    rfl⟩

/-- No user call executes on a venue twice or through the fallback twice, and none executes on
    more venues than it may have legs. -/
theorem executed_once (self : Address) (st : RouterStorage) (o : UserOp)
    (outside : o.sender ≠ self) : (∀ v, (o.made self st).countP (ExtCall.isSwapAt v) ≤ 1) ∧
      (o.made self st).countP ExtCall.isSwap ≤ o.call.legs ∧
      (o.made self st).countP ExtCall.isFallbackSwap ≤ o.call.fallbacks := by
  refine ⟨?_, ?_, ?_⟩
  · intro v
    have charged : ∀ c, (⟨0, fun u => if u = v then 1 else 0, 0, 0⟩ : Tariff).charge c
        = if ExtCall.isSwapAt v c then 1 else 0 := by
      intro c
      cases c <;> simp [Tariff.charge, ExtCall.isSwapAt]
    have covers : (⟨0, fun u => if u = v then 1 else 0, 0, 0⟩ : Tariff).Covers st
        o.call.legs 1 := by
      intro venues distinct _ _
      have count : (venues.map fun u => if u = v then 1 else 0).sum = venues.count v := by
        simpa [List.count_eq_countP] using sum_map_indicator (fun u => u == v) venues
      show (venues.map fun u => if u = v then 1 else 0).sum ≤ 1
      rw [count]
      exact List.nodup_iff_count_le_one.mp distinct v
    have billed := o.bill_made outside st covers
    rw [Tariff.bill_count charged] at billed
    simpa using billed
  · have charged : ∀ c, (⟨0, fun _ => 1, 0, 0⟩ : Tariff).charge c = if ExtCall.isSwap c then 1
        else 0 := by
      intro c
      cases c <;> rfl
    have covers := Tariff.covers_of_le_one (τ := ⟨0, fun _ => 1, 0, 0⟩)
      (fun _ => Nat.le_refl 1) st o.call.legs
    have billed := o.bill_made outside st covers
    rw [Tariff.bill_count charged] at billed
    simpa using billed
  · have charged : ∀ c, (⟨0, fun _ => 0, 1, 0⟩ : Tariff).charge c = if ExtCall.isFallbackSwap c then
        1 else 0 := by
      intro c
      cases c <;> rfl
    have covers : (⟨0, fun _ => 0, 1, 0⟩ : Tariff).Covers st o.call.legs 0 := by
      intro venues _ _ _
      simp
    have billed := o.bill_made outside st covers
    rw [Tariff.bill_count charged] at billed
    simpa using billed

/-- The split of the sample executes on its venue once. -/
theorem executed_once_sample :
    ((sampleOp (.swap (sampleSplit 0x22))).made 0x50 (deployedStorage.after sampleHistory)).countP
        (ExtCall.isSwapAt 0xA1) = 1 ∧
      ((sampleOp (.swap (sampleSplit 0x22))).made 0x50 (deployedStorage.after sampleHistory)).countP
        ExtCall.isFallbackSwap ≤ 1 := by
  have once := executed_once 0x50 (deployedStorage.after sampleHistory)
    (sampleOp (.swap (sampleSplit 0x22))) (by decide)
  exact ⟨by decide +kernel, once.2.2⟩

end Made

end PropAMM
