import PropAMM.Lib.FirstMax
import PropAMM.Router.Deployment
import PropAMM.Router.Mocks
import PropAMM.Router.Runs

/-! # Venue selection

The three selection loops are scans for the first maximum over the same quotes.
The ungated loop over the whitelist and the gated one agree as programs; with the
fallback appended, the gated one also agrees with `quoteV1`.
-/

namespace PropAMM

open Txn FirstMax

/-- A contract either always refuses a request or always answers `n`. -/
def Fixed (answer : Option (List Word × Ledger)) (dec : List Word → Option Nat) (n : Option Nat) :
    Prop :=
  match n with
  | none => answer = none
  | some n => ∃ ret L', answer = some (ret, L') ∧ dec ret = some n

/-- For this request, every venue and the fallback reverts or returns a fixed amount. -/
structure FixedQuotes (x : Ctx) (tokenIn tokenOut : Address) (amount : Nat)
    (q : Address → Option Nat) : Prop where
  venue : ∀ v, v ≠ x.storage.fallbackSwapRouter → v ≠ x.self → ∀ history L,
    Fixed (x.env history (.quote v (resolveToken tokenIn) (resolveToken tokenOut) amount) L) uintOf
      (q v)
  fallback : x.storage.fallbackQuoter ≠ x.self → ∀ history L,
    Fixed (x.env history (.quoteExactInputSingle x.storage.fallbackQuoter (resolveToken tokenIn)
      (resolveToken tokenOut) amount
      (x.storage.resolvedFee (resolveToken tokenIn) (resolveToken tokenOut))) L) quoterOutOf
      (q x.storage.fallbackSwapRouter)
  /-- The router itself quotes nothing. -/
  own : x.self ≠ x.storage.fallbackSwapRouter → q x.self = none
  ownQuoter : x.storage.fallbackQuoter = x.self → q x.storage.fallbackSwapRouter = none

/-- The quotes a caller-supplied list can bring out: those of listed venues. -/
def gated (st : RouterStorage) (q : Address → Option Nat) (v : Address) : Option Nat :=
  if st.isVenue v then q v else none

section Quotes

variable {x : Ctx} {tokenIn tokenOut : Address} {amount : Nat} {q : Address → Option Nat}
  {s : ChainState}

theorem wp_fixedCall {c : ExtCall} {dec : List Word → Option Nat} {n : Option Nat}
    (free : c.value = 0) (own : c.callee = x.self → n = none)
    (fixed : c.callee ≠ x.self → ∀ history L, Fixed (x.env history c L) dec n) :
    wp (do let ret ← callExternal x c; decode (dec ret)) s (fun m _ => n = some m)
      (fun _ _ => n = none) := by
  rw [wp_bind]
  unfold wp callExternal
  by_cases foreign : c.callee = x.self
  · rw [if_pos (.inl foreign)]
    exact own foreign
  · rw [if_neg (by simp [foreign, free])]
    have answer := fixed foreign s.trace (s.ledger.pay x.self c.callee c.value)
    cases n with
    | none =>
        rw [show x.env s.trace c (s.ledger.pay x.self c.callee c.value) = none from answer]
    | some n =>
        obtain ⟨ret, L', answer, decoded⟩ := answer
        rw [answer]
        show wp (decode (dec ret)) _ _ _
        rw [decoded]
        rfl

theorem FixedQuotes.wp_quoteVenue (fixed : FixedQuotes x tokenIn tokenOut amount q) (v : Address) :
    wp (quoteVenue x v tokenIn tokenOut amount) s (fun n _ => q v = some n)
      (fun _ _ => q v = none) := by
  unfold quoteVenue
  by_cases fb : v = x.storage.fallbackSwapRouter
  · simp only [if_pos fb]
    rw [fb]
    exact wp_fixedCall rfl fixed.ownQuoter fixed.fallback
  · simp only [if_neg fb]
    apply wp_fixedCall rfl
    · intro own
      have same : v = x.self := own
      rw [same]
      exact fixed.own (same ▸ fb)
    · intro foreign
      exact fixed.venue v fb foreign

theorem FixedQuotes.selfCall (fixed : FixedQuotes x tokenIn tokenOut amount q) :
    FixedQuotes x.selfCall tokenIn tokenOut amount q :=
  ⟨fixed.venue, fixed.fallback, fixed.own, fixed.ownQuoter⟩

/-- One attempted quote, in the shape both loops use. -/
theorem FixedQuotes.returns_attempt (fixed : FixedQuotes x tokenIn tokenOut amount q)
    (v : Address) : Returns (attempt (quoteVenueUnchecked x.selfCall v tokenIn tokenOut amount)) s
      (fun reply _ => reply = q v) := by
  refine wp_attempt.mpr ?_
  simp only [quoteVenueUnchecked, wp_bind, wp_require]
  refine ⟨fun _ => ?_, fun other => absurd rfl other⟩
  refine wp_mono (fixed.selfCall.wp_quoteVenue v) ?_ ?_
  · intro n s' value
    exact value.symm
  · intro e s' value
    exact value.symm

theorem FixedQuotes.returns_pickBestPropAMMLoop (fixed : FixedQuotes x tokenIn tokenOut amount q)
    (rest : List Address) (best : Nat × Address) (s : ChainState) :
    Returns (pickBestPropAMMLoop x tokenIn tokenOut amount rest best) s
      (fun r _ => r = scan q rest best) := by
  induction rest generalizing best s with
  | nil => exact rfl
  | cons candidate rest ih =>
      simp only [pickBestPropAMMLoop, Returns, wp_bind]
      refine wp_mono (fixed.returns_attempt candidate) ?_ (fun _ _ h => h)
      intro reply s₁ value
      have step : scan q (candidate :: rest) best = scan q rest (keep q best candidate) := rfl
      rw [step, keep, ← value]
      cases reply with
      | none => exact ih best s₁
      | some n => exact ih (keepBest best n candidate) s₁

theorem FixedQuotes.returns_pickBestVenueFromLoop (fixed : FixedQuotes x tokenIn tokenOut amount q)
    (rest : List Address) (best : Nat × Address) (s : ChainState) :
    Returns (pickBestVenueFromLoop x tokenIn tokenOut amount rest best) s
      (fun r _ => r = scan (gated x.storage q) rest best) := by
  induction rest generalizing best s with
  | nil => exact rfl
  | cons v rest ih =>
      simp only [pickBestVenueFromLoop, Returns, wp_bind]
      have step : scan (gated x.storage q) (v :: rest) best =
          scan (gated x.storage q) rest (keep (gated x.storage q) best v) := rfl
      have reply : Returns (attempt (quoteVenueV1 x.selfCall v tokenIn tokenOut amount)) s
          (fun reply _ => reply.map Prod.fst = gated x.storage q v) := by
        refine wp_attempt.mpr ?_
        simp only [quoteVenueV1, wp_bind, wp_require, wp_pure]
        unfold gated
        refine ⟨fun listed => ?_, fun unlisted => ?_⟩
        · rw [if_pos (show x.storage.isVenue v from listed)]
          refine wp_mono (fixed.selfCall.wp_quoteVenue v) ?_ ?_
          · intro n s' value
            exact value.symm
          · intro e s' value
            exact value.symm
        · rw [if_neg (show ¬ x.storage.isVenue v from unlisted)]
          rfl
      refine wp_mono reply ?_ (fun _ _ h => h)
      intro reply s₁ value
      rw [step, keep, ← value]
      cases reply with
      | none => exact ih best s₁
      | some quoted => exact ih (keepBest best quoted.1 v) s₁

end Quotes

/-! ## The gated and the ungated loop -/

section Loops

variable {x : Ctx} {tokenIn tokenOut : Address} {amount : Nat}

/-- On a listed venue the gate changes nothing but the shape of the reply. -/
theorem attempt_quoteVenueV1 {v : Address} (listed : x.storage.isVenue v) :
    attempt (quoteVenueV1 x.selfCall v tokenIn tokenOut amount) =
      (Option.map fun n => (n, v)) <$>
        attempt (quoteVenueUnchecked x.selfCall v tokenIn tokenOut amount) := by
  funext s
  have gate : quoteVenueV1 x.selfCall v tokenIn tokenOut amount s =
      EStateM.map (fun n => (n, v)) (quoteVenue x.selfCall v tokenIn tokenOut amount) s := by
    unfold quoteVenueV1 require
    rw [if_pos (show x.selfCall.storage.isVenue v from listed)]
    rfl
  have own : quoteVenueUnchecked x.selfCall v tokenIn tokenOut amount s =
      quoteVenue x.selfCall v tokenIn tokenOut amount s := by
    unfold quoteVenueUnchecked require
    rw [if_pos (show x.selfCall.sender = x.selfCall.self from rfl)]
    rfl
  show attempt _ s = EStateM.map _ (attempt _) s
  unfold EStateM.map attempt
  rw [gate, own]
  unfold EStateM.map
  cases quoteVenue x.selfCall v tokenIn tokenOut amount s <;> rfl

theorem pickBestPropAMMLoop_eq (rest : List Address) (listed : ∀ v ∈ rest, x.storage.isVenue v)
    (best : Nat × Address) :
    pickBestPropAMMLoop x tokenIn tokenOut amount rest best =
      pickBestVenueFromLoop x tokenIn tokenOut amount rest best := by
  induction rest generalizing best with
  | nil => rfl
  | cons v rest ih =>
      have later := ih fun w member => listed w (List.mem_cons_of_mem v member)
      unfold pickBestPropAMMLoop pickBestVenueFromLoop
      rw [attempt_quoteVenueV1 (listed v List.mem_cons_self), bind_map_left]
      congr 1
      funext reply
      cases reply with
      | none => exact later best
      | some n => exact later _

/-- Iterating the whitelist and being handed the whitelist are the same program. -/
theorem pickBestPropAMM_eq :
    pickBestPropAMM x tokenIn tokenOut amount =
      pickBestVenueFrom x x.storage.getWhitelistedVenues tokenIn tokenOut amount :=
  pickBestPropAMMLoop_eq _ (fun _ member => .inl member) _

end Loops

theorem swapV1_eq (x : Ctx) (a : SwapArgs) :
    swapV1 x a = swapViaSelectedVenuesV1 x x.storage.getWhitelistedVenues a := by
  simp only [swapV1, swapViaSelectedVenuesV1, guarded, pickBestPropAMM_eq]
  rfl

theorem swapWithFeeV1_eq (x : Ctx) (a : SwapArgs) (fee : FrontendFee) :
    swapWithFeeV1 x a fee = swapViaSelectedVenuesWithFeeV1 x x.storage.getWhitelistedVenues a
      fee := by
  simp only [swapWithFeeV1, swapViaSelectedVenuesWithFeeV1, guarded, pickBestPropAMM_eq]
  rfl

/-! ## The fallback as a candidate -/

/-- Both return the same, or both find nothing to quote. -/
def SameQuote (r r' : EStateM.Result RouterError ChainState (Nat × Address)) : Prop :=
  (∃ best s s', r = .ok best s ∧ r' = .ok best s') ∨
    ∃ s s', r = .error .noQuotesAvailable s ∧ r' = .error .noQuotesAvailable s'

section Fallback

variable {x : Ctx} {tokenIn tokenOut : Address} {amount : Nat} {q : Address → Option Nat}

/-- The outcome of both quotes, in terms of the scan over the whitelist and the fallback. -/
def quoteOutcome (best : Nat × Address) : Option (Nat × Address) :=
  if best.1 = 0 then none else some best

theorem FixedQuotes.wp_quoteV1 (fixed : FixedQuotes x tokenIn tokenOut amount q)
    (cfg : Configured x.storage) (s : ChainState) : wp (quoteV1 x tokenIn tokenOut amount) s
      (fun r _ =>
        quoteOutcome (scan q (x.storage.getWhitelistedVenues ++ [x.storage.fallbackSwapRouter])
          (0, 0)) = some r)
      (fun e _ => e = .noQuotesAvailable ∧
        quoteOutcome (scan q (x.storage.getWhitelistedVenues ++ [x.storage.fallbackSwapRouter])
          (0, 0)) =
          none) := by
  have unpriced := (chosen_scan (q := q) x.storage.getWhitelistedVenues).zero_iff cfg.venues
  rw [scan_append]
  show wp _ _ (fun r _ => quoteOutcome (keep q (scan q x.storage.getWhitelistedVenues (0, 0))
      x.storage.fallbackSwapRouter) = some r) (fun e _ => e = RouterError.noQuotesAvailable ∧
    quoteOutcome
      (keep q (scan q x.storage.getWhitelistedVenues (0, 0)) x.storage.fallbackSwapRouter) = none)
  generalize picked : scan q x.storage.getWhitelistedVenues (0, 0) = best at unpriced ⊢
  simp only [quoteV1, pickBestVenue, wp_bind]
  refine wp_mono (fixed.returns_pickBestPropAMMLoop _ _ s) ?_ (fun _ _ h => h.elim)
  rintro r s₁ rfl
  rw [picked]
  refine wp_mono (fixed.returns_attempt x.storage.fallbackSwapRouter) ?_ (fun _ _ h => h.elim)
  intro reply s₂ value
  rw [keep, ← value]
  -- The seeded venue only shows when its quote is zero, and then nothing is returned.
  cases reply with
  | none =>
      simp only [wp_pure, wp_require, quoteOutcome]
      refine ⟨fun some => ?_, fun none => ⟨trivial, if_pos (Nat.eq_zero_of_not_pos none)⟩⟩
      have priced : best.1 ≠ 0 := Nat.ne_of_gt some
      rw [if_neg priced, if_neg (fun zero => priced (unpriced.mp zero))]
  | some n =>
      simp only [wp_pure, wp_require, quoteOutcome, keepBest]
      by_cases better : n > best.1
      · simp only [if_pos better]
        refine ⟨fun some => if_neg (Nat.ne_of_gt some), fun none => absurd better ?_⟩
        have zero : n = 0 := Nat.eq_zero_of_not_pos none
        omega
      · simp only [if_neg better]
        refine ⟨fun some => ?_, fun none => ⟨trivial, if_pos (Nat.eq_zero_of_not_pos none)⟩⟩
        have priced : best.1 ≠ 0 := Nat.ne_of_gt some
        rw [if_neg priced, if_neg (fun zero => priced (unpriced.mp zero))]

theorem scan_gated {st : RouterStorage} (l : List Address) (listed : ∀ v ∈ l, st.isVenue v)
    (best : Nat × Address) : scan (gated st q) l best = scan q l best := by
  induction l generalizing best with
  | nil => rfl
  | cons v l ih =>
      have here : keep (gated st q) best v = keep q best v := by
        unfold keep gated
        rw [if_pos (listed v List.mem_cons_self)]
      show scan (gated st q) l (keep (gated st q) best v) = scan q l (keep q best v)
      rw [here]
      exact ih (fun w member => listed w (List.mem_cons_of_mem v member)) _

theorem FixedQuotes.wp_quoteSelectedVenuesV1 (fixed : FixedQuotes x tokenIn tokenOut amount q)
    (cfg : Configured x.storage) (s : ChainState) :
    wp (quoteSelectedVenuesV1 x (x.storage.getWhitelistedVenues ++ [x.storage.fallbackSwapRouter])
        tokenIn tokenOut amount) s
      (fun r _ =>
        quoteOutcome (scan q (x.storage.getWhitelistedVenues ++ [x.storage.fallbackSwapRouter])
          (0, 0)) = some r)
      (fun e _ => e = .noQuotesAvailable ∧
        quoteOutcome (scan q (x.storage.getWhitelistedVenues ++ [x.storage.fallbackSwapRouter])
          (0, 0)) =
          none) := by
  have listed : ∀ v ∈ x.storage.getWhitelistedVenues ++ [x.storage.fallbackSwapRouter],
      x.storage.isVenue v := by
    intro v member
    rcases List.mem_append.mp member with venue | single
    · exact .inl venue
    · exact .inr (List.mem_singleton.mp single)
  have fresh : (0 : Address) ∉ x.storage.getWhitelistedVenues ++
      [x.storage.fallbackSwapRouter] := by
    intro member
    rcases List.mem_append.mp member with venue | single
    · exact cfg.venues venue
    · exact cfg.router (List.mem_singleton.mp single).symm
  have unpriced := (chosen_scan (q := q) (x.storage.getWhitelistedVenues ++
    [x.storage.fallbackSwapRouter])).zero_iff fresh
  simp only [quoteSelectedVenuesV1, pickBestVenueFrom, wp_bind]
  refine wp_mono (fixed.returns_pickBestVenueFromLoop _ _ s) ?_ (fun _ _ h => h.elim)
  rintro r s₁ rfl
  rw [scan_gated _ listed]
  simp only [wp_require, wp_pure, quoteOutcome]
  refine ⟨fun chosen => if_neg fun zero => chosen (unpriced.mpr zero),
    fun none => ⟨trivial, if_pos ?_⟩⟩
  exact unpriced.mp (not_not.mp none)

/-- The selection paths agree, and select the first maximum. -/
theorem selection_agrees (reachable : Reachable x.storage)
    (fixed : FixedQuotes x tokenIn tokenOut amount q) :
    (∀ s s', SameQuote (quoteV1 x tokenIn tokenOut amount s)
      (quoteSelectedVenuesV1 x (x.storage.getWhitelistedVenues ++ [x.storage.fallbackSwapRouter])
        tokenIn tokenOut amount s')) ∧
    (∀ a, swapV1 x a = swapViaSelectedVenuesV1 x x.storage.getWhitelistedVenues a) ∧
    (∀ a fee, swapWithFeeV1 x a fee =
      swapViaSelectedVenuesWithFeeV1 x x.storage.getWhitelistedVenues a fee) ∧
    (∀ s, Returns (pickBestPropAMM x tokenIn tokenOut amount) s
      (fun best _ => Chosen q 0 x.storage.getWhitelistedVenues best)) ∧
    (∀ s best s', quoteV1 x tokenIn tokenOut amount s = .ok best s' →
      Chosen q 0 (x.storage.getWhitelistedVenues ++ [x.storage.fallbackSwapRouter]) best) ∧
    ∀ venues s, Returns (pickBestVenueFrom x venues tokenIn tokenOut amount) s (fun best _ =>
      Chosen (gated x.storage q) 0 venues best ∧
        ∀ s', Returns
          (pickBestVenueFrom x (considered (gated x.storage q) venues) tokenIn tokenOut amount) s'
          (fun best' _ => best' = best)) := by
  have cfg := reachable.configured
  refine ⟨?_, swapV1_eq x, swapWithFeeV1_eq x, ?_, ?_, ?_⟩
  · intro s s'
    have left := fixed.wp_quoteV1 cfg s
    have right := fixed.wp_quoteSelectedVenuesV1 cfg s'
    cases quoted : quoteV1 x tokenIn tokenOut amount s with
    | ok best s₁ =>
        have outcome := wp_ok left quoted
        cases selected : quoteSelectedVenuesV1 x (x.storage.getWhitelistedVenues ++
            [x.storage.fallbackSwapRouter]) tokenIn tokenOut amount s' with
        | ok best' s₂ =>
            have outcome' := wp_ok right selected
            rw [outcome] at outcome'
            cases outcome'
            exact .inl ⟨best, s₁, s₂, rfl, rfl⟩
        | error e s₂ =>
            have outcome' := (wp_error right selected).2
            rw [outcome] at outcome'
            cases outcome'
    | error e s₁ =>
        obtain ⟨rfl, outcome⟩ := wp_error left quoted
        cases selected : quoteSelectedVenuesV1 x (x.storage.getWhitelistedVenues ++
            [x.storage.fallbackSwapRouter]) tokenIn tokenOut amount s' with
        | ok best' s₂ =>
            have outcome' := wp_ok right selected
            rw [outcome] at outcome'
            cases outcome'
        | error e s₂ =>
            obtain ⟨rfl, _⟩ := wp_error right selected
            exact .inr ⟨s₁, s₂, rfl, rfl⟩
  · intro s
    refine wp_mono (fixed.returns_pickBestPropAMMLoop _ _ s) ?_ (fun _ _ h => h)
    rintro best s' rfl
    exact chosen_scan _
  · intro s best s' quoted
    have outcome := wp_ok (fixed.wp_quoteV1 cfg s) quoted
    unfold quoteOutcome at outcome
    split at outcome
    · cases outcome
    · cases outcome
      exact chosen_scan _
  · intro venues s
    refine wp_mono (fixed.returns_pickBestVenueFromLoop _ _ s) ?_ (fun _ _ h => h)
    rintro best s₁ rfl
    refine ⟨chosen_scan _, fun s' => ?_⟩
    refine wp_mono (fixed.returns_pickBestVenueFromLoop _ _ s') ?_ (fun _ _ h => h)
    rintro best s₂ rfl
    exact scan_considered venues (0, 0)

end Fallback

theorem Mocks.fixedQuotes (m : Mocks) (honest : ∀ venue, m.stealAmount venue = 0) (x : Ctx)
    (env : x.env = m.env) (tokenIn tokenOut : Address) (amount : Nat)
    (quotes : ∀ v n, m.quote v amount = some n → n < 2 ^ 256)
    (quoter : ∀ n, m.quoterOut amount = some n → n < 2 ^ 256)
    (foreign : x.storage.fallbackQuoter ≠ x.self) :
    FixedQuotes x tokenIn tokenOut amount fun v =>
      if v = x.storage.fallbackSwapRouter then m.quoterOut amount
      else if v = x.self then none else m.quote v amount := by
  refine ⟨?_, ?_, ?_, fun same => absurd same foreign⟩
  · intro v other away history L
    rw [if_neg other, if_neg away, env]
    simp only [Mocks.env, honest, Nat.not_lt_zero, if_false]
    cases quoted : m.quote v amount with
    | none => rfl
    | some n =>
        have fits := quotes v n quoted
        exact ⟨_, _, rfl, by simpa [uintOf, word] using fits⟩
  · intro _ history L
    rw [if_pos rfl, env]
    cases quoted : m.quoterOut amount with
    | none =>
        show (m.quoterOut amount).map _ = none
        rw [quoted]
        rfl
    | some n =>
        have fits := quoter n quoted
        refine ⟨[word n, 0, 0, 0], L, ?_, by simpa [quoterOutOf, word] using fits⟩
        show (m.quoterOut amount).map (fun q => ([word q, 0, 0, 0], L)) = _
        rw [quoted]
        rfl
  · intro other
    rw [if_neg other, if_pos rfl]

/-- Four venues listed, then the first removed: the last takes its place. -/
def sampleStorage : RouterStorage :=
  (AdminCall.removeVenue 0xA1).run ((AdminCall.addVenue 0xFB).run ((AdminCall.addVenue 0xA3).run
    ((AdminCall.addVenue 0xA2).run ((AdminCall.addVenue 0xA1).run deployedStorage))))

theorem sampleStorage_reachable : Reachable sampleStorage :=
  .step (.step (.step (.step (.step deployedStorage_reachable _) _) _) _) _

example : sampleStorage.getWhitelistedVenues = [0xFB, 0xA2, 0xA3] := by decide +kernel

/-- Two venues tie; the fallback, listed among them, quotes less. -/
def tiedMocks : Mocks := Mocks.plain fun v n => if v = 0xA2 ∨ v = 0xA3 then some (min (2 * n) 7)
    else none

def tiedCtx : Ctx := { tiedMocks.ctx .empty 0xCA 0 with storage := sampleStorage }

theorem selection_agrees_tied :
    SameQuote (quoteV1 tiedCtx 0x11 0x22 5 (.start (.funded 0)))
        (quoteSelectedVenuesV1 tiedCtx (tiedCtx.storage.getWhitelistedVenues ++
          [tiedCtx.storage.fallbackSwapRouter]) 0x11 0x22 5 (.start (.funded 0))) ∧
      result? (quoteV1 tiedCtx 0x11 0x22 5) (.start (.funded 0)) = some (7, 0xA2) := by
  have fixed := tiedMocks.fixedQuotes (fun _ => rfl) tiedCtx rfl 0x11 0x22 5 (by
    intro v n quoted
    simp only [tiedMocks, Mocks.plain] at quoted
    split at quoted
    · cases quoted
      decide
    · cases quoted) (by
    intro n quoted
    cases quoted
    decide) (by decide)
  exact ⟨(selection_agrees sampleStorage_reachable fixed).1 _ _, by decide +kernel⟩

end PropAMM
