import PropAMM.Lib.Flow
import PropAMM.Router.Runs

/-! # The calls a successful run is made of

Each part of a successful run is a path of accepted calls, in order. What these
calls move in and out of the router is read off the list, since every amount is
an argument of the call that moves it.
-/

namespace PropAMM

open Flow

def ExtCall.isQuote : ExtCall → Bool
  | supportsInterface _ | quote .. | quoteFillable .. | quoteExactInputSingle .. => true
  | _ => false

/-- An accepted call that is not a quote. -/
structure Acted (x : Ctx) (c : ExtCall) (L L' : Ledger) : Prop where
  acts : c.isQuote = false
  step : Step x c L L'

abbrev Steps (x : Ctx) : List ExtCall → Ledger → Ledger → Prop := Path (Acted x)

theorem Step.acted {x : Ctx} {c : ExtCall} {L L' : Ledger} (h : Step x c L L')
    (acts : c.isQuote = false := by rfl) : Steps x [c] L L' :=
  .single ⟨acts, h⟩

theorem pushCall_acts (x : Ctx) (venue tokenIn : Address) (amountIn : Nat) (payer : Address) :
    (pushCall x venue tokenIn amountIn payer).isQuote = false := by
  unfold pushCall
  split <;> rfl

theorem paymentCall_acts (token target : Address) (amount : Nat) :
    (paymentCall token target amount).isQuote = false := by
  unfold paymentCall
  split <;> rfl

/-! ## Call lists -/

def dispatchCalls (x : Ctx) (venue tokenIn tokenOut : Address) (amountIn amountOutMin : Nat)
    (payer recipient : Address) (deadline : Nat) : List ExtCall :=
  [pushCall x venue tokenIn amountIn payer,
    .swap venue tokenIn tokenOut amountIn amountOutMin recipient deadline]

def exchangeCalls (tokenIn tokenOut : Address) (fee amountIn amountOutMinimum : Nat)
    (recipient swapRouter : Address) : List ExtCall :=
  [.forceApprove tokenIn swapRouter amountIn,
    .exactInputSingle swapRouter tokenIn tokenOut fee recipient amountIn amountOutMinimum,
    .forceApprove tokenIn swapRouter 0]

def forwardCalls (x : Ctx) (tokenOut target : Address) (amount : Nat) : List ExtCall :=
  if tokenOut = ethSentinel then
    .withdraw amount :: if target = x.self then [] else [.sendValue target amount]
  else []

def wrapCalls (tokenIn : Address) (amountIn : Nat) : List ExtCall :=
  if tokenIn = ethSentinel then [.deposit amountIn] else []

/-- Funds taken onto the router itself. -/
def pullCalls (x : Ctx) (tokenIn : Address) (amountIn : Nat) : List ExtCall :=
  if tokenIn = ethSentinel then [.deposit amountIn]
  else [.safeTransferFrom tokenIn x.sender x.self amountIn]

def legCalls (x : Ctx) (r : LegRun) : List (Leg × Nat) → List ExtCall
  | [] => []
  | (leg, _) :: filled =>
    dispatchCalls x leg.venue r.tokenIn_ r.tokenOut_ leg.amountIn leg.minOut x.self (r.measuredAt x)
      r.deadline ++ legCalls x r filled

def absorbCalls (x : Ctx) (r : LegRun) (absorbed delivered : Nat) : List ExtCall :=
  if absorbed = 0 then []
  else exchangeCalls r.tokenIn_ r.tokenOut_ (x.storage.resolvedFee r.tokenIn_ r.tokenOut_) absorbed
    (r.amountOutMin - delivered) (r.measuredAt x) x.storage.fallbackSwapRouter

def paymentCalls (token target : Address) (amount : Nat) : List ExtCall :=
  if amount = 0 then [] else [paymentCall token target amount]

section Steps

variable {x : Ctx} {L L' : Ledger}

theorem Dispatched.steps {venue tokenIn tokenOut payer recipient : Address}
    {amountIn amountOutMin deadline prev out : Nat}
    (h : Dispatched x venue tokenIn tokenOut amountIn amountOutMin payer recipient deadline
      prev L out L') :
    Steps x (dispatchCalls x venue tokenIn tokenOut amountIn amountOutMin payer recipient deadline)
      L L' := by
  obtain ⟨L₁, pushed, swapped⟩ := h.calls
  exact (pushed.acted (pushCall_acts ..)).append swapped.acted

theorem Exchanged.steps {tokenIn tokenOut recipient swapRouter : Address}
    {fee amountIn amountOutMinimum : Nat}
    (h : Exchanged x tokenIn tokenOut fee amountIn amountOutMinimum recipient swapRouter L L') :
    Steps x (exchangeCalls tokenIn tokenOut fee amountIn amountOutMinimum recipient swapRouter) L
      L' := by
  obtain ⟨L₁, L₂, approved, swapped, reset⟩ := h.calls
  exact approved.acted.append (swapped.acted.append reset.acted)

theorem Forwarded.steps {tokenOut target : Address} {amount : Nat}
    (h : Forwarded x tokenOut target amount L L') :
    Steps x (forwardCalls x tokenOut target amount) L L' := by
  unfold Forwarded at h
  unfold forwardCalls
  by_cases eth : tokenOut = ethSentinel
  · rw [if_pos eth] at h ⊢
    obtain ⟨L₁, withdrawn, sent⟩ := h
    by_cases here : target = x.self
    · rw [if_pos here] at sent ⊢
      rw [sent]
      exact withdrawn.acted
    · rw [if_neg here] at sent ⊢
      exact withdrawn.acted.append sent.acted
  · rw [if_neg eth] at h ⊢
    rw [h]
    exact .nil

theorem Wrapped.steps {tokenIn : Address} {amountIn : Nat} (h : Wrapped x tokenIn amountIn L L') :
    Steps x (wrapCalls tokenIn amountIn) L L' := by
  unfold Wrapped at h
  unfold wrapCalls
  by_cases eth : tokenIn = ethSentinel
  · rw [if_pos eth] at h ⊢
    exact h.2.acted
  · rw [if_neg eth] at h ⊢
    rw [h.2]
    exact .nil

theorem Pulled.steps {tokenIn : Address} {amountIn : Nat} (h : Pulled x tokenIn amountIn L L') :
    Steps x (pullCalls x tokenIn amountIn) L L' := by
  unfold Pulled at h
  unfold pullCalls
  by_cases eth : tokenIn = ethSentinel
  · rw [if_pos eth] at h ⊢
    exact h.2.acted
  · rw [if_neg eth] at h ⊢
    exact h.2.acted

theorem LegRuns.steps {r : LegRun} {legs : List Leg} {filled : List (Leg × Nat)} {absorbed : Nat}
    (runs : LegRuns x r legs L filled absorbed L') : Steps x (legCalls x r filled) L L' := by
  induction runs with
  | nil => exact .nil
  | routed _ _ ih => exact ih
  | filled _ run _ ih => exact run.steps.append ih
  | failed _ _ _ ih => exact ih

theorem Absorbed.steps {r : LegRun} {absorbed delivered out : Nat}
    (h : Absorbed x r absorbed delivered L out L') :
    Steps x (absorbCalls x r absorbed delivered) L L' := by
  unfold Absorbed at h
  unfold absorbCalls
  by_cases none : absorbed = 0
  · rw [if_pos none] at h ⊢
    rw [h.2]
    exact .nil
  · rw [if_neg none] at h ⊢
    exact h.1.steps

theorem Paid.steps {token target : Address} {amount : Nat} (h : Paid x token target amount L L') :
    Steps x (paymentCalls token target amount) L L' := by
  unfold Paid at h
  unfold paymentCalls
  by_cases none : amount = 0
  · rw [if_pos none] at h ⊢
    rw [h]
    exact .nil
  · rw [if_neg none] at h ⊢
    exact h.acted (paymentCall_acts ..)

theorem Dispatched.foreign {venue tokenIn tokenOut payer recipient : Address}
    {amountIn amountOutMin deadline prev out : Nat}
    (h : Dispatched x venue tokenIn tokenOut amountIn amountOutMin payer recipient deadline
      prev L out L') :
    venue ≠ x.self := by
  obtain ⟨_, _, swapped⟩ := h.calls
  exact swapped.foreign

theorem LegRuns.foreign {r : LegRun} {legs : List Leg} {filled : List (Leg × Nat)} {absorbed : Nat}
    (runs : LegRuns x r legs L filled absorbed L') :
    ∀ leg ∈ filled.map Prod.fst, leg.venue ≠ x.self := by
  induction runs with
  | nil => simp
  | routed _ _ ih => exact ih
  | filled _ run _ ih =>
      intro leg member
      rcases List.mem_cons.mp member with first | later
      · subst first
        exact Dispatched.foreign run
      · exact ih leg later
  | failed _ _ _ ih => exact ih

end Steps

/-! ## What the router gains -/

/-- What a call brings the router of `token`, deliveries of a swap apart. Amounts are
    moved exactly, except that a transfer to the router may lose some on the way. -/
def routerFlow (x : Ctx) (token : Address) (lost : Nat → Nat) : ExtCall → ℤ
  | .safeTransfer t _ amount => if t = token then -amount else 0
  | .safeTransferFrom t source target amount =>
    if t = token then
      (if target = x.self then (amount : ℤ) - lost amount else 0) -
        if source = x.self then (amount : ℤ) else 0
    else 0
  | .exactInputSingle _ t _ _ _ amount _ => if t = token then -amount else 0
  | .deposit amount => if token = weth then amount else 0
  | .withdraw amount => if token = weth then -amount else 0
  | _ => 0

/-- The total over a list of calls. -/
def routerGain (x : Ctx) (token : Address) (lost : Nat → Nat) (calls : List ExtCall) : ℤ :=
  (calls.map (routerFlow x token lost)).sum

section Gains

variable {x : Ctx} {token : Address} {lost : Nat → Nat}

@[simp] theorem routerGain_nil : routerGain x token lost [] = 0 := rfl

@[simp] theorem routerGain_cons (c : ExtCall) (calls : List ExtCall) :
    routerGain x token lost (c :: calls) = routerFlow x token lost c + routerGain x token
      lost calls := by
  simp [routerGain]

@[simp] theorem routerGain_append (calls calls' : List ExtCall) :
    routerGain x token lost (calls ++ calls') = routerGain x token lost calls + routerGain x token
      lost calls' := by
  simp [routerGain]

theorem routerGain_dispatchCalls {venue tokenIn tokenOut payer recipient : Address}
    {amountIn amountOutMin deadline : Nat} (other : venue ≠ x.self) :
    routerGain x token lost
      (dispatchCalls x venue tokenIn tokenOut amountIn amountOutMin payer recipient deadline) =
      if tokenIn = token ∧ payer = x.self then -(amountIn : ℤ) else 0 := by
  simp only [dispatchCalls, routerGain_cons, routerGain_nil, pushCall]
  by_cases own : payer = x.self
  · simp [own, routerFlow]
  · simp [own, routerFlow, other]

theorem routerGain_exchangeCalls {tokenIn tokenOut recipient swapRouter : Address}
    {fee amountIn amountOutMinimum : Nat} :
    routerGain x token lost
      (exchangeCalls tokenIn tokenOut fee amountIn amountOutMinimum recipient swapRouter) =
      if tokenIn = token then -(amountIn : ℤ) else 0 := by
  simp [exchangeCalls, routerFlow]

theorem routerGain_forwardCalls {tokenOut target : Address} {amount : Nat} :
    routerGain x token lost (forwardCalls x tokenOut target amount) =
      if tokenOut = ethSentinel ∧ token = weth then -(amount : ℤ) else 0 := by
  unfold forwardCalls
  by_cases eth : tokenOut = ethSentinel
  · by_cases here : target = x.self <;> simp [eth, here, routerFlow]
  · simp [eth]

theorem routerGain_wrapCalls {tokenIn : Address} {amountIn : Nat} :
    routerGain x token lost (wrapCalls tokenIn amountIn) =
      if tokenIn = ethSentinel ∧ token = weth then (amountIn : ℤ) else 0 := by
  unfold wrapCalls
  by_cases eth : tokenIn = ethSentinel <;> simp [eth, routerFlow]

/-- Wrapping brings the router what it is to sell, and a transfer all but what is lost. -/
theorem routerGain_pullCalls {tokenIn : Address} {amountIn : Nat} (outside : x.sender ≠ x.self) :
    routerGain x token lost (pullCalls x tokenIn amountIn) =
      if resolveToken tokenIn = token then (amountIn : ℤ) - (if tokenIn = ethSentinel then 0
        else lost amountIn) else 0 := by
  unfold pullCalls
  by_cases eth : tokenIn = ethSentinel
  · subst eth
    simp [routerFlow, resolveToken_sentinel, eq_comm]
  · simp [eth, routerFlow, resolveToken_token eth, outside]

theorem routerGain_legCalls {r : LegRun} {filled : List (Leg × Nat)}
    (others : ∀ leg ∈ filled.map Prod.fst, leg.venue ≠ x.self) :
    routerGain x token lost (legCalls x r filled) = if r.tokenIn_ = token then -(soldBy filled : ℤ)
      else 0 := by
  induction filled with
  | nil => simp [legCalls]
  | cons f filled ih =>
      obtain ⟨leg, out⟩ := f
      have rest := ih fun g member => others g (List.mem_cons_of_mem _ member)
      have here := others leg (by simp)
      rw [legCalls, routerGain_append, routerGain_dispatchCalls here, rest, soldBy_cons]
      by_cases same : r.tokenIn_ = token
      · simp only [same, and_true, if_true]
        omega
      · simp [same]

theorem routerGain_absorbCalls {r : LegRun} {absorbed delivered : Nat} :
    routerGain x token lost (absorbCalls x r absorbed delivered) =
      if r.tokenIn_ = token then -(absorbed : ℤ) else 0 := by
  unfold absorbCalls
  by_cases none : absorbed = 0
  · simp [none]
  · rw [if_neg none, routerGain_exchangeCalls]

theorem routerGain_paymentCalls {tokenOut target : Address} {amount : Nat} :
    routerGain x token lost (paymentCalls tokenOut target amount) =
      if tokenOut ≠ ethSentinel ∧ tokenOut = token then -(amount : ℤ) else 0 := by
  unfold paymentCalls paymentCall
  by_cases none : amount = 0
  · simp [none]
  · by_cases eth : tokenOut = ethSentinel <;> simp [none, eth, routerFlow]

end Gains

end PropAMM
