import PropAMM.Router.Effects
import PropAMM.Router.SplitEvents

/-! # What the calls of a run move

On a chain where every amount is moved exactly, a path of accepted calls moves
what the call list says: the totals here are those of the lists a successful run
is made of, for the router, for any other account and for native ETH.
-/

namespace PropAMM

open Txn FrontendFees Flow

/-! ## What a call moves -/

/-- What a call brings an account other than the router of the input token. -/
def accountFlow (pool : Address → Address) (token who : Address) : ExtCall → ℤ
  | .safeTransfer t target amount => if t = token ∧ target = who then amount else 0
  | .safeTransferFrom t source target amount =>
    if t = token then (if target = who then (amount : ℤ) else 0) - if source = who then (amount : ℤ)
      else 0
    else 0
  | .exactInputSingle swapRouter t _ _ _ amount _ =>
      if t = token ∧ pool swapRouter = who then amount else 0
  | _ => 0

/-- What a call brings the router in native ETH. -/
def nativeFlow (c : ExtCall) : ℤ := c.withdrawn - c.value

def accountGain (pool : Address → Address) (token who : Address) (calls : List ExtCall) : ℤ :=
  (calls.map (accountFlow pool token who)).sum

def nativeGain (calls : List ExtCall) : ℤ := (calls.map nativeFlow).sum

/-- Deliveries of a swap are measured, ETH sent to WETH is wrapped for the sender, and
    the router does not pay itself. -/
def Unpredicted (x : Ctx) (token who : Address) : ExtCall → Prop
  | .swap _ _ tokenOut _ _ recipient _ | .exactInputSingle _ _ tokenOut _ recipient _ _ =>
    tokenOut = token ∧ recipient = who
  | .safeTransfer _ target _ => target = x.self
  | .sendValue target _ => target = weth
  | _ => False

def Predicted (x : Ctx) (token who : Address) (calls : List ExtCall) : Prop :=
  ∀ c ∈ calls, ¬ Unpredicted x token who c

/-- Calls that touch the router's allowances. -/
def ExtCall.approves : ExtCall → Bool
  | forceApprove .. | exactInputSingle .. => true
  | _ => false

/-- Tokens that move exactly the nominal amount, venues that keep what was pushed to
    them, quotes that move nothing, a swap router that pulls what was approved into its
    `pool`, and payees that just keep the ETH they are sent. -/
structure ExactChain (x : Ctx) (tokenIn : Address) (pool : Address → Address) : Prop where
  router : ∀ {c L L'} (token), Step x c L L' → ¬ Unpredicted x token x.self c →
    (L'.balance token x.self : ℤ) = L.balance token x.self + routerFlow x token (fun _ => 0) c
  account : ∀ {c L L'} (who), who ≠ x.self → Step x c L L' → ¬ Unpredicted x tokenIn who c →
    (L'.balance tokenIn who : ℤ) = L.balance tokenIn who + accountFlow pool tokenIn who c
  native : KeepsETH Eq x x.self
  approved : ∀ {token spender amount L L'}, Step x (.forceApprove token spender amount) L L' →
    L'.allowance token x.self spender = amount
  kept : ∀ {c L L'}, Step x c L L' → c.approves = false →
    L'.allowance tokenIn x.self x.storage.fallbackSwapRouter =
      L.allowance tokenIn x.self x.storage.fallbackSwapRouter

/-- From `L` to `L'` everything moved as the calls say. -/
structure Moves (x : Ctx) (tokenIn : Address) (pool : Address → Address) (calls : List ExtCall)
    (L L' : Ledger) : Prop where
  router : ∀ token, Predicted x token x.self calls →
    (L'.balance token x.self : ℤ) = L.balance token x.self + routerGain x token (fun _ => 0) calls
  account : ∀ who, who ≠ x.self → Predicted x tokenIn who calls →
    (L'.balance tokenIn who : ℤ) = L.balance tokenIn who + accountGain pool tokenIn who calls
  native : (L'.native x.self : ℤ) = L.native x.self + nativeGain calls
  allowance : (∀ c ∈ calls, c.approves = false) →
    L'.allowance tokenIn x.self x.storage.fallbackSwapRouter =
      L.allowance tokenIn x.self x.storage.fallbackSwapRouter

section Moves

variable {x : Ctx} {tokenIn : Address} {pool : Address → Address} {calls calls' : List ExtCall}
  {L L₁ L' : Ledger}

theorem predicted_append {token who : Address} :
    Predicted x token who (calls ++ calls') ↔ Predicted x token who calls ∧
    Predicted x token who calls' := by
  simp only [Predicted, List.mem_append, or_imp, forall_and]

theorem Moves.refl (L : Ledger) : Moves x tokenIn pool [] L L where
  router _ _ := by simp
  account _ _ _ := by simp [accountGain]
  native := by simp [nativeGain]
  allowance _ := rfl

theorem Moves.trans (h : Moves x tokenIn pool calls L L₁) (h' : Moves x tokenIn pool calls' L₁ L') :
    Moves x tokenIn pool (calls ++ calls') L L' where
  router token predicted := by
    obtain ⟨first, second⟩ := predicted_append.mp predicted
    rw [h'.router token second, h.router token first, routerGain_append, add_assoc]
  account who other predicted := by
    obtain ⟨first, second⟩ := predicted_append.mp predicted
    rw [h'.account who other second, h.account who other first, accountGain,
      accountGain, accountGain, List.map_append, List.sum_append, add_assoc]
  native := by
    rw [h'.native, h.native, nativeGain, nativeGain, nativeGain, List.map_append,
      List.sum_append, add_assoc]
  allowance keeps :=
    (h'.allowance fun c member => keeps c (List.mem_append_right _ member)).trans
      (h.allowance fun c member => keeps c (List.mem_append_left _ member))

/-- Native ETH leaves with the value of a call and comes back from WETH. -/
theorem ExactChain.nativeStep (chain : ExactChain x tokenIn pool) {c : ExtCall}
    (step : Step x c L L') : (L'.native x.self : ℤ) = L.native x.self + nativeFlow c := by
  have follows := step.native chain.native
  have funded := step.funded
  have foreign : x.self ≠ c.callee := step.foreign.symm
  rw [Ledger.pay_native, if_pos rfl, if_neg foreign, if_pos rfl] at follows
  rw [nativeFlow]
  omega

theorem ExactChain.moves (chain : ExactChain x tokenIn pool) (h : Steps x calls L L') :
    Moves x tokenIn pool calls L L' where
  router token predicted :=
    h.follow_eq (φ := fun L => (L.balance token x.self : ℤ)) fun c member _ _ acted =>
      chain.router token acted.step (predicted c member)
  account who other predicted :=
    h.follow_eq (φ := fun L => (L.balance tokenIn who : ℤ)) fun c member _ _ acted =>
      chain.account who other acted.step (predicted c member)
  native := h.follow_eq (φ := fun L => (L.native x.self : ℤ)) fun _ _ _ _ acted =>
    chain.nativeStep acted.step
  allowance keeps := by
    refine h.keeps (P := fun L₂ => L₂.allowance tokenIn x.self x.storage.fallbackSwapRouter =
      L.allowance tokenIn x.self x.storage.fallbackSwapRouter) ?_ rfl
    intro c member _ _ acted same
    exact (chain.kept acted.step (keeps c member)).trans same

/-- A quote moves nothing. -/
theorem ExactChain.quoteMoves (chain : ExactChain x tokenIn pool) {c : ExtCall}
    (quote : QuoteAllowed x.storage c) (step : Step x c L L') : Moves x tokenIn pool [] L L' := by
  cases c with
  | supportsInterface | quote | quoteFillable | quoteExactInputSingle =>
      constructor
      · intro token _
        exact chain.router token step not_false
      · intro who other _
        exact chain.account who other step not_false
      · exact chain.nativeStep step
      · intro _
        exact chain.kept step rfl
  | _ => exact quote.elim

theorem ExactChain.quotedMoves (chain : ExactChain x tokenIn pool) (h : Quoted x L L') :
    Moves x tokenIn pool [] L L' :=
  h.keeps (K := Moves x tokenIn pool []) Moves.refl (fun h h' => h.trans h') fun quote step =>
    chain.quoteMoves quote step

end Moves

/-! ## Totals of the call lists -/

/-- What the filled legs pushed to `who`. -/
def pushedTo (who : Address) (filled : List (Leg × Nat)) : Nat :=
  (filled.map fun f => if f.1.venue = who then f.1.amountIn else 0).sum

section Totals

variable {x : Ctx} {pool : Address → Address} {token who : Address}

@[simp] theorem accountGain_nil : accountGain pool token who [] = 0 := rfl

@[simp] theorem accountGain_cons (c : ExtCall) (calls : List ExtCall) :
    accountGain pool token who (c :: calls) = accountFlow pool token who c + accountGain pool token
      who calls := by
  simp [accountGain]

@[simp] theorem accountGain_append (calls calls' : List ExtCall) :
    accountGain pool token who (calls ++ calls') =
      accountGain pool token who calls + accountGain pool token who calls' := by
  simp [accountGain]

@[simp] theorem nativeGain_nil : nativeGain [] = 0 := rfl

@[simp] theorem nativeGain_cons (c : ExtCall) (calls : List ExtCall) :
    nativeGain (c :: calls) = nativeFlow c + nativeGain calls := by
  simp [nativeGain]

@[simp] theorem nativeGain_append (calls calls' : List ExtCall) :
    nativeGain (calls ++ calls') = nativeGain calls + nativeGain calls' := by
  simp [nativeGain]

theorem predicted_cons {c : ExtCall} {calls : List ExtCall} :
    Predicted x token who (c :: calls) ↔ ¬ Unpredicted x token who c ∧
    Predicted x token who calls := by
  simp only [Predicted, List.forall_mem_cons]

theorem predicted_nil : Predicted x token who [] := by
  intro c member
  cases member

section Dispatch

variable {venue tokenIn tokenOut payer recipient : Address} {amountIn amountOutMin deadline : Nat}

theorem accountGain_dispatchCalls (other : who ≠ x.self) :
    accountGain pool token who
        (dispatchCalls x venue tokenIn tokenOut amountIn amountOutMin payer recipient deadline) =
      if tokenIn = token then
        (if venue = who then (amountIn : ℤ) else 0) - if payer = who then (amountIn : ℤ) else 0
      else 0 := by
  simp only [dispatchCalls, accountGain_cons, accountGain_nil, pushCall]
  by_cases own : payer = x.self
  · have apart : payer ≠ who := fun same => other (same.symm.trans own)
    by_cases same : tokenIn = token <;> simp [own, same, accountFlow, own ▸ apart]
  · by_cases same : tokenIn = token <;> simp [own, same, accountFlow]

theorem nativeGain_dispatchCalls :
    nativeGain (dispatchCalls x venue tokenIn tokenOut amountIn amountOutMin payer
      recipient deadline) = 0 := by
  simp only [dispatchCalls, nativeGain_cons, nativeGain_nil, pushCall]
  by_cases own : payer = x.self <;> simp [own, nativeFlow, ExtCall.withdrawn, ExtCall.value]

theorem predicted_dispatchCalls (away : venue ≠ x.self)
    (elsewhere : tokenOut = token → recipient ≠ who) :
    Predicted x token who
      (dispatchCalls x venue tokenIn tokenOut amountIn amountOutMin payer recipient deadline) := by
  have pushed : ¬ Unpredicted x token who (pushCall x venue tokenIn amountIn payer) := by
    unfold pushCall
    split
    · exact away
    · exact not_false
  exact predicted_cons.mpr
    ⟨pushed, predicted_cons.mpr ⟨fun both => elsewhere both.1 both.2, predicted_nil⟩⟩

theorem keeps_dispatchCalls :
    ∀ c ∈ dispatchCalls x venue tokenIn tokenOut amountIn amountOutMin payer recipient deadline,
      c.approves = false := by
  intro c member
  simp only [dispatchCalls, List.mem_cons, List.not_mem_nil, or_false] at member
  rcases member with pushed | swapped
  · rw [pushed, pushCall]
    split <;> rfl
  · rw [swapped]
    rfl

end Dispatch

section Exchange

variable {tokenIn tokenOut recipient swapRouter : Address} {fee amountIn amountOutMinimum : Nat}

theorem accountGain_exchangeCalls :
    accountGain pool token who
        (exchangeCalls tokenIn tokenOut fee amountIn amountOutMinimum recipient swapRouter) =
      if tokenIn = token ∧ pool swapRouter = who then (amountIn : ℤ) else 0 := by
  simp [exchangeCalls, accountFlow]

theorem nativeGain_exchangeCalls :
    nativeGain (exchangeCalls tokenIn tokenOut fee amountIn amountOutMinimum recipient swapRouter) =
      0 := by
  simp [exchangeCalls, nativeFlow, ExtCall.withdrawn, ExtCall.value]

theorem predicted_exchangeCalls (elsewhere : tokenOut = token → recipient ≠ who) :
    Predicted x token who
      (exchangeCalls tokenIn tokenOut fee amountIn amountOutMinimum recipient swapRouter) :=
  predicted_cons.mpr ⟨not_false, predicted_cons.mpr ⟨fun both => elsewhere both.1 both.2,
    predicted_cons.mpr ⟨not_false, predicted_nil⟩⟩⟩

end Exchange

section Funds

variable {tokenIn tokenOut target : Address} {amount : Nat}

theorem accountGain_wrapCalls : accountGain pool token who (wrapCalls tokenIn amount) = 0 := by
  unfold wrapCalls
  split <;> simp [accountFlow]

theorem accountGain_pullCalls (other : who ≠ x.self) :
    accountGain pool token who (pullCalls x tokenIn amount) =
      if tokenIn ≠ ethSentinel ∧ tokenIn = token ∧ x.sender = who then -(amount : ℤ) else 0 := by
  unfold pullCalls
  by_cases eth : tokenIn = ethSentinel
  · simp [eth, accountFlow]
  · rw [if_neg eth]
    simp only [accountGain_cons, accountGain_nil, accountFlow, if_neg other.symm, ne_eq, eth,
      not_false_eq_true, true_and]
    by_cases same : tokenIn = token <;> by_cases payer : x.sender = who <;> simp [same, payer]

theorem accountGain_forwardCalls :
    accountGain pool token who (forwardCalls x tokenOut target amount) = 0 := by
  unfold forwardCalls
  split
  · split <;> simp [accountFlow]
  · simp

theorem accountGain_paymentCalls (other : token ≠ resolveToken tokenOut) :
    accountGain pool token who (paymentCalls tokenOut target amount) = 0 := by
  unfold paymentCalls paymentCall
  by_cases eth : tokenOut = ethSentinel
  · rw [if_pos eth]
    split <;> simp [accountFlow]
  · rw [resolveToken_token eth] at other
    rw [if_neg eth]
    split <;> simp [accountFlow, other.symm]

theorem nativeGain_wrapCalls :
    nativeGain (wrapCalls tokenIn amount) = if tokenIn = ethSentinel then -(amount : ℤ) else 0 := by
  unfold wrapCalls
  split <;> simp [nativeFlow, ExtCall.withdrawn, ExtCall.value]

theorem nativeGain_pullCalls :
    nativeGain (pullCalls x tokenIn amount) = if tokenIn = ethSentinel then -(amount : ℤ)
      else 0 := by
  unfold pullCalls
  split <;> simp [nativeFlow, ExtCall.withdrawn, ExtCall.value]

theorem nativeGain_forwardCalls :
    nativeGain (forwardCalls x tokenOut target amount) =
      if tokenOut = ethSentinel ∧ target = x.self then (amount : ℤ) else 0 := by
  unfold forwardCalls
  by_cases eth : tokenOut = ethSentinel
  · by_cases here : target = x.self <;>
      simp [eth, here, nativeFlow, ExtCall.withdrawn, ExtCall.value]
  · simp [eth]

theorem nativeGain_paymentCalls :
    nativeGain (paymentCalls tokenOut target amount) = if tokenOut = ethSentinel then -(amount : ℤ)
      else 0 := by
  unfold paymentCalls paymentCall
  by_cases none : amount = 0
  · simp [none]
  · by_cases eth : tokenOut = ethSentinel <;>
      simp [none, eth, nativeFlow, ExtCall.withdrawn, ExtCall.value]

theorem predicted_wrapCalls : Predicted x token who (wrapCalls tokenIn amount) := by
  unfold wrapCalls
  split
  · exact predicted_cons.mpr ⟨not_false, predicted_nil⟩
  · exact predicted_nil

theorem predicted_pullCalls : Predicted x token who (pullCalls x tokenIn amount) := by
  unfold pullCalls
  split <;> exact predicted_cons.mpr ⟨not_false, predicted_nil⟩

theorem predicted_forwardCalls
    (unwrapped : tokenOut = ethSentinel → target ≠ x.self → target ≠ weth) :
    Predicted x token who (forwardCalls x tokenOut target amount) := by
  unfold forwardCalls
  by_cases eth : tokenOut = ethSentinel
  · rw [if_pos eth]
    by_cases here : target = x.self
    · rw [if_pos here]
      exact predicted_cons.mpr ⟨not_false, predicted_nil⟩
    · rw [if_neg here]
      exact predicted_cons.mpr ⟨not_false, predicted_cons.mpr ⟨unwrapped eth here, predicted_nil⟩⟩
  · rw [if_neg eth]
    exact predicted_nil

theorem predicted_paymentCalls (away : target ≠ x.self)
    (unwrapped : tokenOut = ethSentinel → target ≠ weth) :
    Predicted x token who (paymentCalls tokenOut target amount) := by
  unfold paymentCalls paymentCall
  split
  · exact predicted_nil
  · split
    · rename_i eth
      exact predicted_cons.mpr ⟨unwrapped eth, predicted_nil⟩
    · exact predicted_cons.mpr ⟨away, predicted_nil⟩

end Funds

section Legs

variable {r : LegRun} {filled : List (Leg × Nat)} {absorbed delivered : Nat}

theorem accountGain_legCalls (other : who ≠ x.self) (token_in : r.tokenIn_ = token) :
    accountGain pool token who (legCalls x r filled) = pushedTo who filled := by
  induction filled with
  | nil => rfl
  | cons f filled ih =>
      obtain ⟨leg, out⟩ := f
      have here : pushedTo who ((leg, out) :: filled) =
          (if leg.venue = who then leg.amountIn else 0) + pushedTo who filled := rfl
      rw [legCalls, accountGain_append, accountGain_dispatchCalls other, if_pos token_in,
        if_neg other.symm, ih, here]
      split <;> omega

theorem nativeGain_legCalls : nativeGain (legCalls x r filled) = 0 := by
  induction filled with
  | nil => rfl
  | cons f filled ih => rw [legCalls, nativeGain_append, nativeGain_dispatchCalls, ih, add_zero]

theorem predicted_legCalls (others : ∀ leg ∈ filled.map Prod.fst, leg.venue ≠ x.self)
    (elsewhere : r.tokenOut_ = token → r.measuredAt x ≠ who) :
    Predicted x token who (legCalls x r filled) := by
  induction filled with
  | nil => exact predicted_nil
  | cons f filled ih =>
      have here := others f.1 (by simp)
      have later := ih fun leg member => others leg (List.mem_cons_of_mem _ member)
      exact predicted_append.mpr ⟨predicted_dispatchCalls here elsewhere, later⟩

theorem keeps_legCalls : ∀ c ∈ legCalls x r filled, c.approves = false := by
  induction filled with
  | nil => simp [legCalls]
  | cons f filled ih =>
      intro c member
      rcases List.mem_append.mp member with here | later
      · exact keeps_dispatchCalls c here
      · exact ih c later

theorem accountGain_absorbCalls (token_in : r.tokenIn_ = token) :
    accountGain pool token who (absorbCalls x r absorbed delivered) =
      if pool x.storage.fallbackSwapRouter = who then (absorbed : ℤ) else 0 := by
  unfold absorbCalls
  by_cases none : absorbed = 0
  · simp [none]
  · rw [if_neg none, accountGain_exchangeCalls]
    simp [token_in]

theorem nativeGain_absorbCalls : nativeGain (absorbCalls x r absorbed delivered) = 0 := by
  unfold absorbCalls
  split
  · rfl
  · exact nativeGain_exchangeCalls

theorem predicted_absorbCalls (elsewhere : r.tokenOut_ = token → r.measuredAt x ≠ who) :
    Predicted x token who (absorbCalls x r absorbed delivered) := by
  unfold absorbCalls
  split
  · exact predicted_nil
  · exact predicted_exchangeCalls elsewhere

end Legs

theorem keeps_wrapCalls {tokenIn : Address} {amount : Nat} :
    ∀ c ∈ wrapCalls tokenIn amount, c.approves = false := by
  unfold wrapCalls
  split <;> simp [ExtCall.approves]

theorem keeps_pullCalls {tokenIn : Address} {amount : Nat} :
    ∀ c ∈ pullCalls x tokenIn amount, c.approves = false := by
  unfold pullCalls
  split <;> simp [ExtCall.approves]

theorem keeps_forwardCalls {tokenOut target : Address} {amount : Nat} :
    ∀ c ∈ forwardCalls x tokenOut target amount, c.approves = false := by
  unfold forwardCalls
  split
  · split <;> simp [ExtCall.approves]
  · simp

theorem keeps_paymentCalls {tokenOut target : Address} {amount : Nat} :
    ∀ c ∈ paymentCalls tokenOut target amount, c.approves = false := by
  unfold paymentCalls paymentCall
  split
  · simp
  · split <;> simp [ExtCall.approves]

end Totals

end PropAMM
