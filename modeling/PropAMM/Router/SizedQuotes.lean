import PropAMM.Router.PlanSafety

/-! # Quotes fixed by their size

A contract that answers a request the same whenever it is made. Probing such a
venue computes a function of its quotes.
-/

namespace PropAMM

open Txn SplitPlanner

/-- Whenever the call is made its data decodes to `n`, or it fails where `n` is none.
    A call of the router to itself fails. -/
def AlwaysAnswers {α : Type} (x : Ctx) (c : ExtCall) (dec : List Word → Option α) (n : Option α) :
    Prop :=
  if c.callee = x.self then n = none
  else ∀ history L, ((x.env history c L).bind fun reply => dec reply.1) = n

theorem AlwaysAnswers.foreign {α : Type} {x : Ctx} {c : ExtCall} {dec : List Word → Option α}
    {n : Option α} (foreign : c.callee ≠ x.self)
    (answers : ∀ history L, ((x.env history c L).bind fun reply => dec reply.1) = n) :
    AlwaysAnswers x c dec n := by
  unfold AlwaysAnswers
  rw [if_neg foreign]
  exact answers

/-- A venue, or the fallback, whose quote is a function of the size. -/
structure SizedQuotes (x : Ctx) (venue tokenIn_ tokenOut_ : Address) (q : Nat → Option Nat) :
    Prop where
  direct : venue ≠ x.storage.fallbackSwapRouter → ∀ amount, AlwaysAnswers x
    (.quote venue (resolveToken tokenIn_) (resolveToken tokenOut_) amount) uintOf (q amount)
  fallback : venue = x.storage.fallbackSwapRouter → ∀ amount, AlwaysAnswers x
    (.quoteExactInputSingle x.storage.fallbackQuoter (resolveToken tokenIn_)
      (resolveToken tokenOut_) amount
        (x.storage.resolvedFee (resolveToken tokenIn_) (resolveToken tokenOut_))) quoterOutOf
          (q amount)

/-- Whether the venue ever says it has the `IPropAMMFillable` extension. -/
def Extended (x : Ctx) (venue : Address) (extended : Bool) : Prop :=
  if venue = x.self then extended = false
  else ∀ history L,
    ((x.env history (.supportsInterface venue) L).bind fun reply => reply.1.head?).any
      (· != 0) = extended

section Calls

variable {x : Ctx} {venue tokenIn_ tokenOut_ : Address} {q : Nat → Option Nat} {s : ChainState}

theorem AlwaysAnswers.wp_call {α : Type} {c : ExtCall} {dec : List Word → Option α} {n : Option α}
    (free : c.value = 0) (answers : AlwaysAnswers x c dec n) :
    wp (do let ret ← callExternal x c; decode (dec ret)) s (fun m _ => n = some m)
      (fun _ _ => n = none) := by
  rw [wp_bind]
  unfold wp callExternal
  unfold AlwaysAnswers at answers
  by_cases own : c.callee = x.self
  · rw [if_pos (.inl own)]
    rw [if_pos own] at answers
    exact answers
  · rw [if_neg (by simp [own, free])]
    rw [if_neg own] at answers
    have answer := answers s.trace (s.ledger.pay x.self c.callee c.value)
    cases reply : x.env s.trace c (s.ledger.pay x.self c.callee c.value) with
    | none =>
        rw [reply] at answer
        exact answer.symm
    | some reply' =>
        rw [reply] at answer
        have decoded : dec reply'.1 = n := answer
        show wp (decode (dec reply'.1)) _ _ _
        rw [wp_decode, decoded]
        exact ⟨fun _ some => some, fun none => none⟩

theorem SizedQuotes.wp_quoteVenue (sized : SizedQuotes x venue tokenIn_ tokenOut_ q)
    (amount : Nat) :
    wp (quoteVenue x venue tokenIn_ tokenOut_ amount) s (fun n _ => q amount = some n)
      (fun _ _ => q amount = none) := by
  unfold quoteVenue
  by_cases fb : venue = x.storage.fallbackSwapRouter
  · simp only [if_pos fb]
    exact (sized.fallback fb amount).wp_call rfl
  · simp only [if_neg fb]
    exact (sized.direct fb amount).wp_call rfl

theorem SizedQuotes.selfCall (sized : SizedQuotes x venue tokenIn_ tokenOut_ q) :
    SizedQuotes x.selfCall venue tokenIn_ tokenOut_ q :=
  ⟨sized.direct, sized.fallback⟩

theorem SizedQuotes.answers (sized : SizedQuotes x venue tokenIn_ tokenOut_ q)
    (listed : x.storage.isVenue venue) :
    Answers x venue tokenIn_ tokenOut_ fun size out => out = (q size).getD 0 := by
  intro size s
  have quoted : wp (quoteVenueV1 x.selfCall venue tokenIn_ tokenOut_ size) s
      (fun r _ => q size = some r.1) (fun _ _ => q size = none) := by
    simp only [quoteVenueV1, wp_bind, wp_require, wp_pure]
    exact ⟨fun _ => sized.selfCall.wp_quoteVenue size, fun unlisted => absurd listed unlisted⟩
  simp only [tryQuote, Returns, wp_bind]
  rw [wp_attempt]
  refine wp_mono quoted ?_ ?_
  · intro r s' some
    show r.1 = (q size).getD 0
    rw [some]
    rfl
  · intro e s' none
    show 0 = (q size).getD 0
    rw [none]
    rfl

theorem Extended.returns {extended : Bool} (h : Extended x venue extended) :
    Returns (supportsInterface x venue) s (fun b _ => b = extended) := by
  unfold Extended at h
  show (if venue = x.self then false else _) = extended
  by_cases own : venue = x.self
  · rw [if_pos own] at h ⊢
    exact h.symm
  · rw [if_neg own] at h ⊢
    rw [← h s.trace s.ledger]
    cases x.env s.trace (.supportsInterface venue) s.ledger with
    | none => rfl
    | some reply =>
        obtain ⟨ret, L'⟩ := reply
        cases ret with
        | nil => rfl
        | cons w rest => rfl

end Calls

/-! ## Probes -/

/-- The halving search, as a function of the quotes. -/
def probeDownBy (ask : Nat → Nat) (ceiling : Nat) : (steps size : Nat) → Nat × Nat
  | 0, _ => (0, 0)
  | steps + 1, size =>
    if size / 2 = 0 then (0, 0)
    else if ask (size / 2) = 0 ∨ ask (size / 2) > maxU128 then (0, 0)
    else if ask (size / 2) < ceiling then (size / 2, ask (size / 2))
    else probeDownBy ask ceiling steps (size / 2)

/-- The two-point probe, as a function of the quotes. -/
def probeBy (ask : Nat → Nat) (p : Nat) : Nat × Nat :=
  let outFull := clampU128 (ask p)
  let outHalf := clampU128 (ask (p / 2))
  if p / 2 = 0 then (p, outFull)
  else if outFull = 0 ∧ outHalf = 0 then (0, 0)
  else if outFull = 0 then (p / 2, outHalf)
  else if outHalf = 0 then (p, outFull)
  else if outFull = outHalf then probeDownBy ask outFull maxSaturationSteps (p / 2)
  else if outFull * bps < 2 * outHalf * (bps - saturationToleranceBps) then (p / 2, outHalf)
  else (p, outFull)

section Probes

variable {x : Ctx} {venue tokenIn_ tokenOut_ : Address} {ask : Nat → Nat}
  (answers : Answers x venue tokenIn_ tokenOut_ fun size out => out = ask size)

include answers

theorem returns_probeDownBy (ceiling steps size : Nat) (s : ChainState) :
    Returns (probeDownLoop x venue tokenIn_ tokenOut_ ceiling steps size) s
      (fun r _ => r = probeDownBy ask ceiling steps size) := by
  induction steps generalizing size s with
  | zero => exact rfl
  | succ steps ih =>
      simp only [probeDownLoop, probeDownBy, Returns, wp_ite, wp_bind, wp_pure]
      refine ⟨fun empty => (if_pos empty).symm, fun some => ?_⟩
      rw [if_neg some]
      refine wp_mono (answers (size / 2) s) ?_ (fun _ _ h => h)
      rintro outAt s₁ rfl
      refine ⟨fun dead => (if_pos dead).symm, fun alive => ?_⟩
      rw [if_neg alive]
      refine ⟨fun below => (if_pos below).symm, fun flat => ?_⟩
      rw [if_neg flat]
      exact ih (size / 2) s₁

theorem returns_probeBy (p : Nat) (s : ChainState) :
    Returns (probeBlind x venue tokenIn_ tokenOut_ p) s (fun r _ => r = probeBy ask p) := by
  simp only [probeBlind, probeBy, Returns, wp_ite, wp_bind, wp_pure]
  refine wp_mono (answers p s) ?_ (fun _ _ h => h)
  rintro outFull s₁ rfl
  refine ⟨fun single => (if_pos single).symm, fun two => ?_⟩
  rw [if_neg two]
  refine wp_mono (answers (p / 2) s₁) ?_ (fun _ _ h => h)
  rintro outHalf s₂ rfl
  refine ⟨fun dead => (if_pos dead).symm, fun alive => ?_⟩
  rw [if_neg alive]
  refine ⟨fun oversized => (if_pos oversized).symm, fun full => ?_⟩
  rw [if_neg full]
  refine ⟨fun empty => (if_pos empty).symm, fun half => ?_⟩
  rw [if_neg half]
  refine ⟨fun equal => ?_, fun differ => ?_⟩
  · rw [if_pos equal]
    exact returns_probeDownBy answers _ _ _ s₂
  · rw [if_neg differ, isSaturated_ok (clampU128_le _) (clampU128_le _), wp_lift_ok]
    simp only [decide_eq_true_eq]
    exact ⟨fun saturated => (if_pos saturated).symm, fun band => (if_neg band).symm⟩

end Probes

end PropAMM
