import PropAMM.Router.GrossBoundary
import PropAMM.Sdk.Units
import PropAMM.Sdk.VenueQuotes

/-! # From a quote to a swap

The flow every SDK documents: quote, take the slippage off, and swap for at least the
rest. While the market stands still the swap goes where the quote came from, unless a
frontend fee takes more than the slippage gave.
-/

/-! ## Slippage -/

namespace PropAMM.Rust

/-- `BPS_DENOMINATOR` -/
def bpsDenominator : Nat := 10000

/-- `U256::full_mul` -/
def U256.fullMul (a b : U256) : BitVec 512 := a.setWidth 512 * b.setWidth 512

/-- `U256::try_from` of a `U512` -/
def U256.tryFrom (wide : BitVec 512) : Option U256 := checked wide.toNat

def U256.sub (a b : U256) : Fallible U256 := orPanic (if b ≤ a then some (a - b) else none)

def applySlippage (amount : U256) (bps : BitVec 32) : Fallible U256 :=
  if bps.toNat > bpsDenominator then
    .error (.err (.invalidInput s!"slippage bps must be in [0, {bpsDenominator}], got {bps.toNat}"))
  else do
    let fee ← okOr "slippage overflow"
      (U256.tryFrom (U256.fullMul amount (bps.setWidth 256) / BitVec.ofNat 512 bpsDenominator))
    U256.sub amount fee

end PropAMM.Rust

namespace PropAMM.Python

/-- `BPS_DENOMINATOR` -/
def bpsDenominator : Int := 10000

def applySlippage (amount bps : Int) : Except Bindings.Error Int :=
  if bps < 0 ∨ bps > bpsDenominator then
    .error (.invalidInput s!"slippage bps must be an integer in [0, {bpsDenominator}], got {bps}")
  else
    let fee := (amount * bps).fdiv bpsDenominator
    .ok (amount - fee)

end PropAMM.Python

namespace PropAMM.TypeScript

/-- `BPS_DENOMINATOR` -/
def bpsDenominator : Int := 10000

def applySlippage (amount bps : Int) : Except Bindings.Error Int :=
  if bps < 0 ∨ bps > 10000 then
    .error (.invalidInput s!"slippage bps must be an integer in [0, 10000], got {bps}")
  else .ok (amount - (amount * bps).tdiv bpsDenominator)

end PropAMM.TypeScript

theorem PropAMM.Rust.U256.toNat_fullMul (a b : PropAMM.Rust.U256) :
    (fullMul a b).toNat = a.toNat * b.toNat := by
  have doubled : ∀ {w : Nat} (a b : BitVec w), (a.setWidth (w + w) * b.setWidth (w + w)).toNat =
      a.toNat * b.toNat := by
    intro w a b
    have widened : 2 ^ w ≤ 2 ^ (w + w) := Nat.pow_le_pow_right (by decide) (Nat.le_add_right w w)
    rw [BitVec.toNat_mul, BitVec.toNat_setWidth, BitVec.toNat_setWidth,
      Nat.mod_eq_of_lt (Nat.lt_of_lt_of_le a.isLt widened), Nat.mod_eq_of_lt
        (Nat.lt_of_lt_of_le b.isLt widened)]
    apply Nat.mod_eq_of_lt
    rw [Nat.pow_add]
    exact Nat.mul_lt_mul'' a.isLt b.isLt
  exact doubled a b

namespace PropAMM.Bindings

open Txn FirstMax FrontendFees

/-- What is left of `n` when the rounded slippage is taken off. -/
def slipped (n bps : Nat) : Nat := n - feeOf n bps

/-- It is the least amount that loses at most the unrounded slippage. -/
theorem slipped_le_iff {n bps : Nat} (capped : bps ≤ bpsDenominator) (k : Nat) :
    slipped n bps ≤ k ↔ n * (bpsDenominator - bps) ≤ k * bpsDenominator := by
  have split : bpsDenominator * feeOf n bps + n * bps % bpsDenominator = n * bps :=
    Nat.div_add_mod _ _
  have rest : n * bps % bpsDenominator < bpsDenominator := Nat.mod_lt _ (by decide)
  have whole : n * (bpsDenominator - bps) + n * bps = n * bpsDenominator := by
    rw [← Nat.mul_add, Nat.sub_add_cancel capped]
  unfold slipped
  generalize feeOf n bps = fee at split ⊢
  generalize n * bps % bpsDenominator = left at split rest
  generalize n * bps = product at split whole
  generalize n * (bpsDenominator - bps) = target at whole ⊢
  unfold bpsDenominator at *
  omega

theorem feeOf_le_self {n bps : Nat} (capped : bps ≤ bpsDenominator) : feeOf n bps ≤ n := by
  apply Nat.div_le_of_le_mul
  rw [Nat.mul_comm]
  exact Nat.mul_le_mul_right n capped

section Slippage

variable {n bps : Nat} (fits : n < 2 ^ 256) (capped : bps ≤ bpsDenominator)

include fits capped

/-- The product is taken in 512 bits, so it is exact. -/
theorem rust_fee :
    Rust.U256.tryFrom (Rust.U256.fullMul (BitVec.ofNat 256 n) ((BitVec.ofNat 32 bps).setWidth 256) /
    BitVec.ofNat 512 Rust.bpsDenominator) = some (BitVec.ofNat 256 (feeOf n bps)) := by
  have small : bps < 2 ^ 32 := Nat.lt_of_le_of_lt capped (by decide)
  have wide : bps < 2 ^ 256 := Nat.lt_trans small (by decide)
  have exact_fee : (Rust.U256.fullMul (BitVec.ofNat 256 n) ((BitVec.ofNat 32 bps).setWidth 256) /
      BitVec.ofNat 512 Rust.bpsDenominator).toNat = feeOf n bps := by
    have scale : (BitVec.ofNat 512 Rust.bpsDenominator).toNat = bpsDenominator := by decide +kernel
    rw [BitVec.toNat_udiv, scale, Rust.U256.toNat_fullMul, BitVec.toNat_setWidth]
    simp only [BitVec.toNat_ofNat]
    rw [Nat.mod_eq_of_lt fits, Nat.mod_eq_of_lt small, Nat.mod_eq_of_lt wide, feeOf]
  unfold Rust.U256.tryFrom
  rw [exact_fee, Rust.U256.checked_of_lt (Nat.lt_of_le_of_lt (feeOf_le_self capped) fits)]

theorem rust_applySlippage : Rust.applySlippage (BitVec.ofNat 256 n) (BitVec.ofNat 32 bps) =
    .ok (BitVec.ofNat 256 (slipped n bps)) := by
  have small : bps < 2 ^ 32 := Nat.lt_of_le_of_lt capped (by decide)
  have within : ¬ (BitVec.ofNat 32 bps).toNat > Rust.bpsDenominator := by
    rw [BitVec.toNat_ofNat, Nat.mod_eq_of_lt small]
    exact Nat.not_lt_of_le capped
  have part := feeOf_le_self (n := n) capped
  have fee_fits := Nat.lt_of_le_of_lt part fits
  have covered : BitVec.ofNat 256 (feeOf n bps) ≤ BitVec.ofNat 256 n := by
    rw [BitVec.le_def, Rust.U256.toNat_ofNat fee_fits, Rust.U256.toNat_ofNat fits]
    exact part
  unfold Rust.applySlippage
  rw [if_neg within, rust_fee fits capped]
  show Rust.U256.sub _ _ = _
  unfold Rust.U256.sub
  rw [if_pos covered]
  show Except.ok _ = Except.ok _
  rw [BitVec.ofNat_sub_ofNat_of_le _ _ fee_fits part]
  rfl

omit fits in
/-- Over unbounded integers both divisions floor. -/
theorem integers_applySlippage : Python.applySlippage n bps = .ok (slipped n bps : Nat) ∧
    TypeScript.applySlippage n bps = .ok (slipped n bps : Nat) := by
  have part := feeOf_le_self (n := n) capped
  have within : (bps : Int) ≤ 10000 := by exact_mod_cast capped
  have floored : ((n : Int) * bps).fdiv Python.bpsDenominator = (feeOf n bps : Nat) := by
    rw [Python.bpsDenominator, Int.fdiv_eq_ediv_of_nonneg _ (by decide)]
    exact_mod_cast rfl
  have truncated : ((n : Int) * bps).tdiv TypeScript.bpsDenominator = (feeOf n bps : Nat) := by
    rw [TypeScript.bpsDenominator, Int.tdiv_eq_ediv_of_nonneg (by positivity)]
    exact_mod_cast rfl
  unfold Python.applySlippage TypeScript.applySlippage
  rw [if_neg (by unfold Python.bpsDenominator; omega), if_neg (by omega), floored,
    truncated, slipped, Nat.cast_sub part]
  exact ⟨rfl, rfl⟩

end Slippage

/-! ## Where a swap goes -/

namespace SwapOptions

/-- The caller's minimum on the gross basis. -/
def grossMin (opts : SwapOptions) (amountOutMin : Nat) : Checked Nat :=
  match opts.frontendFee.map FrontendFee.onChain with
  | none => .ok amountOutMin
  | some fee => grossUp amountOutMin fee.bps

/-- Execution through a venue, once it is picked. -/
def execute (opts : SwapOptions) (x : Ctx) (venue : Address) (params : SwapArgs) (grossMin : Nat) :
    RouterM Nat :=
  Prod.fst <$> match opts.frontendFee.map FrontendFee.onChain with
    | none => executeSwap x venue params
    | some fee => executeSwapWithFee x venue params grossMin fee

/-- The venues a swap picks from. -/
def candidates (opts : SwapOptions) (st : RouterStorage) : List Address :=
  opts.venues.getD st.getWhitelistedVenues

/-- Where a swap goes while the venues quote `q`. -/
def destination (opts : SwapOptions) (x : Ctx) (q : Address → Option Nat) (grossMin : Nat) :
    Address :=
  match opts.venues with
  | some [venue] => venue
  | _ => orFallback x (scan (gated x.storage q) (opts.candidates x.storage) (0, 0)) grossMin

end SwapOptions

/-- Fees that the SDKs accept, the router accepts. -/
theorem accepted_fee {opts : SwapOptions} (accepted : opts.refusal? = none) {fee : FrontendFee}
    (given : opts.frontendFee = some fee) :
    fee.onChain.bps ≤ FrontendFees.maxFeeBps ∧ fee.recipient ≠ 0 := by
  obtain ⟨_, capped, paid⟩ := (refusal?_eq_none.mp accepted).2 fee given
  refine ⟨?_, paid⟩
  show fee.bps.toNat ≤ 100
  unfold maxFeeBps at capped
  omega

section Routing

variable {x : Ctx} {q : Address → Option Nat} {opts : SwapOptions} {params : SwapArgs}
  {t : ChainState}

theorem require_met {c : Prop} [Decidable c] {e : RouterError} (met : c) :
    (require c e : RouterM PUnit) t = .ok ⟨⟩ t := by
  unfold require
  rw [if_pos met]
  rfl

/-- Past the guards. -/
theorem guarded_admitted {α : Type} {body : Ctx → RouterM α} (running : x.storage.paused = false)
    (idle : x.entered = false) : guarded x body t = body x.enter t := by
  unfold guarded
  rw [bind_of_ok (require_met running), bind_of_ok (require_met idle)]

theorem validateFee_passes {fee : PropAMM.FrontendFee}
    (capped : fee.bps ≤ PropAMM.FrontendFees.maxFeeBps) (paid : fee.recipient ≠ 0) :
    PropAMM.FrontendFees.validateFee fee t = .ok ⟨⟩ t := by
  unfold PropAMM.FrontendFees.validateFee
  rw [bind_of_ok (require_met capped)]
  exact require_met paid

/-- The candidates are quoted and the best of them is returned. -/
theorem picked (fixed : FixedQuotes x params.tokenIn params.tokenOut params.amountIn q)
    (venues : List Address) :
    ∃ t', QuotedFrame x t t' ∧ pickBestVenueFrom x.enter venues params.tokenIn params.tokenOut
      params.amountIn t =
      .ok (scan (gated x.storage q) venues (0, 0)) t' := by
  have entered : FixedQuotes x.enter params.tokenIn params.tokenOut params.amountIn q :=
    ⟨fixed.venue, fixed.fallback, fixed.own, fixed.ownQuoter⟩
  obtain ⟨best, t', run, rfl⟩ := (entered.returns_pickBestVenueFromLoop venues (0, 0) t).exists
  exact ⟨t', (within_pickBestVenueFrom (quotedFrame x).enter venues _ _ _).ok run, run⟩

theorem map_of_run {α β : Type} {f : α → β} {m n : RouterM α} {t' : ChainState} (run : m t = n t') :
    (f <$> m) t = (f <$> n) t' := by
  show EStateM.map f m t = EStateM.map f n t'
  unfold EStateM.map
  rw [run]

theorem map_of_error {α β : Type} {f : α → β} {m : RouterM α} {e : RouterError}
    (failed : m t = .error e t) : (f <$> m) t = .error e t := by
  show EStateM.map f m t = _
  unfold EStateM.map
  rw [failed]

theorem lift_ok {α : Type} {r : Checked α} {a : α} (computed : r = .ok a) :
    (lift r : RouterM α) t = .ok a t := by
  rw [computed]
  rfl

theorem lift_error {α β : Type} {r : Checked α} {e : RouterError} {f : α → RouterM β}
    (computed : r = .error e) : ((lift r : RouterM α) >>= f) t = .error e t := by
  rw [computed]
  rfl

variable (running : x.storage.paused = false) (idle : x.entered = false)

include running idle

section Plain

variable (fixed : FixedQuotes x params.tokenIn params.tokenOut params.amountIn q)

include fixed

theorem swapViaSelectedVenuesV1_routed (venues : List Address) : ∃ t', QuotedFrame x t t' ∧
    swapViaSelectedVenuesV1 x venues params t = executeSwap x.enter
      (orFallback x (scan (gated x.storage q) venues (0, 0)) params.amountOutMin) params t' := by
  obtain ⟨t', quoted, run⟩ := picked (t := t) fixed venues
  refine ⟨t', quoted, ?_⟩
  unfold swapViaSelectedVenuesV1
  rw [guarded_admitted running idle, bind_of_ok run]
  rfl

theorem swapViaSelectedVenuesWithFeeV1_routed {fee : PropAMM.FrontendFee}
    (capped : fee.bps ≤ FrontendFees.maxFeeBps) (paid : fee.recipient ≠ 0) {g : Nat}
    (gross : grossUp params.amountOutMin fee.bps = .ok g)
    (venues : List Address) : ∃ t', QuotedFrame x t t' ∧
      swapViaSelectedVenuesWithFeeV1 x venues params fee t = executeSwapWithFee x.enter
        (orFallback x (scan (gated x.storage q) venues (0, 0)) g) params g fee t' := by
  obtain ⟨t', quoted, run⟩ := picked (t := t) fixed venues
  refine ⟨t', quoted, ?_⟩
  unfold swapViaSelectedVenuesWithFeeV1
  rw [guarded_admitted running idle, bind_of_ok (validateFee_passes capped paid),
    bind_of_ok (lift_ok gross), bind_of_ok run]
  rfl

/-- Once the caller's minimum is on the gross basis, a swap quotes its candidates, and
    goes on as an execution through the destination. -/
theorem run_routed (accepted : opts.refusal? = none)
    (listed : ∀ venue, opts.venues = some [venue] → x.storage.isVenue venue) {g : Nat}
    (gross : opts.grossMin params.amountOutMin = .ok g) : ∃ t', QuotedFrame x t t' ∧
      (opts.call params).run x t = opts.execute x.enter (opts.destination x q g) params g t' := by
  obtain ⟨venues, frontendFee, gasLimit⟩ := opts
  cases frontendFee with
  | none =>
      have same : params.amountOutMin = g := Except.ok.inj gross
      subst same
      match venues, listed with
      | none, _ =>
          obtain ⟨t', quoted, run⟩ := swapViaSelectedVenuesV1_routed (t := t) running idle fixed
            x.storage.getWhitelistedVenues
          exact ⟨t', quoted, map_of_run ((congrFun (swapV1_eq x params) t).trans run)⟩
      | some [venue], listed =>
          have own : swapViaVenueV1 x venue params t = executeSwap x.enter venue params t := by
            have known : x.enter.storage.isVenue venue := listed venue rfl
            unfold swapViaVenueV1
            rw [guarded_admitted running idle, bind_of_ok (require_met known)]
          exact ⟨t, Frame.refl t, map_of_run own⟩
      | some [], _ =>
          obtain ⟨t', quoted, run⟩ := swapViaSelectedVenuesV1_routed (t := t) running idle fixed []
          exact ⟨t', quoted, map_of_run run⟩
      | some (v :: w :: venues), _ =>
          obtain ⟨t', quoted, run⟩ :=
            swapViaSelectedVenuesV1_routed (t := t) running idle fixed (v :: w :: venues)
          exact ⟨t', quoted, map_of_run run⟩
  | some fee =>
      have charged : grossUp params.amountOutMin fee.onChain.bps = .ok g := gross
      obtain ⟨low, paid⟩ := accepted_fee accepted rfl
      match venues, listed with
      | none, _ =>
          obtain ⟨t', quoted, run⟩ :=
            swapViaSelectedVenuesWithFeeV1_routed (t := t) running idle fixed low paid charged
              x.storage.getWhitelistedVenues
          exact ⟨t', quoted,
            map_of_run ((congrFun (swapWithFeeV1_eq x params fee.onChain) t).trans run)⟩
      | some [venue], listed =>
          have own : swapViaVenueWithFeeV1 x venue params fee.onChain t =
              (Prod.fst <$> executeSwapWithFee x.enter venue params g fee.onChain) t := by
            have known : x.enter.storage.isVenue venue := listed venue rfl
            unfold swapViaVenueWithFeeV1
            rw [guarded_admitted running idle, bind_of_ok (validateFee_passes low paid),
              bind_of_ok (require_met known), bind_of_ok (lift_ok charged)]
            rfl
          exact ⟨t, Frame.refl t, own⟩
      | some [], _ =>
          obtain ⟨t', quoted, run⟩ :=
            swapViaSelectedVenuesWithFeeV1_routed (t := t) running idle fixed low paid charged []
          exact ⟨t', quoted, map_of_run run⟩
      | some (v :: w :: venues), _ =>
          obtain ⟨t', quoted, run⟩ :=
            swapViaSelectedVenuesWithFeeV1_routed (t := t) running idle fixed low paid
              charged (v :: w :: venues)
          exact ⟨t', quoted, map_of_run run⟩

end Plain

end Routing

/-! ## The quoted venue -/

/-- A quote of `n` through `v` is kept when it covers the gross minimum, or when `v` was
    the only venue named. Where Uniswap quoted best, a whitelisted venue that covers the minimum
    comes before it. Otherwise Uniswap executes. -/
structure SwapOptions.Keeps (opts : SwapOptions) (st : RouterStorage) (q : Address → Option Nat)
    (n : Nat) (v : Address) (grossMin : Nat) (u : Address) : Prop where
  kept : (grossMin ≤ n ∨ ∃ venue, opts.venues = some [venue]) → u = v ∨
    (opts.venues = none ∧ v = st.fallbackSwapRouter ∧ st.isWhitelistedVenue u ∧
      ∃ p, q u = some p ∧ grossMin ≤ p ∧ p ≤ n)
  dropped : n < grossMin → (∀ venue, opts.venues ≠ some [venue]) → u = st.fallbackSwapRouter

theorem isVenue_of_gated {st : RouterStorage} {q : Address → Option Nat} {w : Address} {n : Nat}
    (quoted : gated st q w = some n) : st.isVenue w := by
  by_contra unlisted
  unfold gated at quoted
  rw [if_neg unlisted] at quoted
  cases quoted

theorem venue_ne_zero {st : RouterStorage} (cfg : Configured st) {w : Address}
    (listed : st.isVenue w) : w ≠ 0 := by
  intro none
  rw [none] at listed
  rcases listed with whitelisted | fallback
  · exact cfg.venues whitelisted
  · exact cfg.router fallback.symm

section Quoted

variable {x : Ctx} {tokenIn tokenOut : Address} {amountIn n : Nat} {v : Address}
  {q : Address → Option Nat} {s s' : ChainState} (cfg : Configured x.storage)
  (fixed : FixedQuotes x tokenIn tokenOut amountIn q)

include cfg fixed

/-- Where selected venues were quoted, the swap's scan finds the same. -/
theorem quoted_selected {venues : List Address}
    (quoted : quoteSelectedVenuesV1 x venues tokenIn tokenOut amountIn s = .ok (n, v) s') :
    scan (gated x.storage q) venues (0, 0) = (n, v) ∧ v ≠ 0 := by
  have head := wp_ok (wp_quoteSelectedVenuesV1 cfg fixed venues) quoted
  have member := mem_ranked.mp (List.mem_of_mem_head? head)
  refine ⟨?_, venue_ne_zero cfg (isVenue_of_gated member.2.1)⟩
  rw [scan_eq_head, head]
  rfl

omit cfg in
theorem quoted_listed {w : Address}
    (quoted : quoteVenueV1 x w tokenIn tokenOut amountIn s = .ok (n, v) s') : x.storage.isVenue w :=
  isVenue_of_gated (wp_ok (wp_quoteVenueV1 fixed w) quoted).2

theorem quoted_all (quoted : quoteV1 x tokenIn tokenOut amountIn s = .ok (n, v) s') :
    keep q (scan q x.storage.getWhitelistedVenues (0, 0)) x.storage.fallbackSwapRouter = (n, v) ∧
    n ≠ 0 := by
  have outcome := wp_ok (fixed.wp_quoteV1 cfg s) quoted
  rw [scan_append] at outcome
  unfold quoteOutcome at outcome
  split at outcome
  · cases outcome
  · rename_i priced
    have same := Option.some.inj outcome
    rw [same] at priced
    exact ⟨same, priced⟩

omit cfg fixed in
/-- A quote that covers the minimum is taken, and any other leaves the swap to Uniswap. -/
theorem orFallback_keeps {opts : SwapOptions} (named : v ≠ 0) (g : Nat)
    (several : ∀ w, opts.venues ≠ some [w]) :
    opts.Keeps x.storage q n v g (orFallback x (n, v) g) := by
  constructor
  · rintro (enough | ⟨w, one⟩)
    · left
      unfold orFallback
      rw [if_neg (not_or.mpr ⟨named, Nat.not_lt_of_le enough⟩)]
    · exact absurd one (several w)
  · intro short _
    unfold orFallback
    rw [if_pos (.inr short)]

omit cfg fixed in
/-- Where Uniswap quoted more than the best whitelisted venue, that venue comes first if it covers
    the minimum. -/
theorem beaten_keeps {frontendFee : Option FrontendFee} {gasLimit : Option Nat}
    {best : Nat × Address} (chosen : Chosen q 0 x.storage.getWhitelistedVenues best)
    (fallback : v = x.storage.fallbackSwapRouter) (less : best.1 < n) (g : Nat) :
    SwapOptions.Keeps ⟨none, frontendFee, gasLimit⟩ x.storage q n v g (orFallback x best g) := by
  unfold orFallback
  by_cases refused : best.2 = 0 ∨ best.1 < g
  · rw [if_pos refused]
    exact ⟨fun _ => .inl fallback.symm, fun _ _ => rfl⟩
  · obtain ⟨named, covers⟩ := not_or.mp refused
    have enough : g ≤ best.1 := Nat.le_of_not_lt covers
    rw [if_neg refused]
    constructor
    · intro _
      rcases chosen with ⟨nothing, _⟩ | ⟨_, value, _, pre, post, split_at, _⟩
      · exact absurd (congrArg Prod.snd nothing) named
      · refine .inr ⟨rfl, fallback, ?_, best.1, value, enough, less.le⟩
        show best.2 ∈ x.storage.getWhitelistedVenues
        rw [split_at]
        exact List.mem_append_right pre List.mem_cons_self
    · intro short _
      exact absurd (Nat.le_trans enough less.le) (Nat.not_le_of_lt short)

theorem destination_keeps {opts : SwapOptions} (some_venue : opts.venues ≠ some []) (g : Nat)
    (quoted : (asked opts.venues tokenIn tokenOut amountIn).run x s = .ok (n, v) s') :
    opts.Keeps x.storage q n v g (opts.destination x q g) := by
  obtain ⟨venues, frontendFee, gasLimit⟩ := opts
  match venues, some_venue, quoted with
  | some [], some_venue, _ => exact absurd rfl some_venue
  | some [w], _, quoted =>
      have own := (wp_ok (wp_quoteVenueV1 fixed w) quoted).1
      exact ⟨fun _ => .inl own.symm, fun _ several => absurd rfl (several w)⟩
  | some (w :: w' :: venues), _, quoted =>
      obtain ⟨found, named⟩ := quoted_selected cfg fixed quoted
      have several : ∀ one : Address, some (w :: w' :: venues) ≠ some [one] := by simp
      have kept : SwapOptions.Keeps ⟨some (w :: w' :: venues), frontendFee, gasLimit⟩
          x.storage q n v g (orFallback x (n, v) g) := orFallback_keeps named g several
      rw [← found] at kept
      exact kept
  | none, _, quoted =>
      obtain ⟨found, priced⟩ := quoted_all cfg fixed quoted
      have several : ∀ one : Address, (none : Option (List Address)) ≠ some [one] := by simp
      have whole : scan (gated x.storage q) x.storage.getWhitelistedVenues (0, 0) =
          scan q x.storage.getWhitelistedVenues (0, 0) :=
            scan_gated _ (fun _ member => .inl member) _
      have chosen : FirstMax.Chosen q (0 : Address) _
        (scan q x.storage.getWhitelistedVenues (0, 0)) := chosen_scan _
      show SwapOptions.Keeps _ _ _ _ _ _
        (orFallback x (scan _ x.storage.getWhitelistedVenues (0, 0)) g)
      rw [whole]
      generalize scan q x.storage.getWhitelistedVenues (0, 0) = best at found chosen ⊢
      -- Uniswap is returned only where it quotes more than every whitelisted venue.
      by_cases ahead : best = (n, v)
      · subst ahead
        have named : v ≠ 0 := fun none => priced ((chosen.zero_iff cfg.venues).mp none)
        exact orFallback_keeps named g several
      · have behind : v = x.storage.fallbackSwapRouter ∧ best.1 < n := by
          unfold keep at found
          split at found
          · split at found
            · cases found
              exact ⟨rfl, by assumption⟩
            · exact absurd found ahead
          · exact absurd found ahead
        exact beaten_keeps chosen behind.1 behind.2 g

end Quoted

/-! ## The flow -/

def SwapOptions.feeBps (opts : SwapOptions) : Nat :=
  (opts.frontendFee.map fun fee => fee.bps.toNat).getD 0

/-- Everything but the call itself is the same. -/
structure SameMarket (x y : Ctx) : Prop where
  env : y.env = x.env
  storage : y.storage = x.storage
  self : y.self = x.self

theorem SameMarket.fixedQuotes {x y : Ctx} {tokenIn tokenOut : Address} {amountIn : Nat}
    {q : Address → Option Nat} (market : SameMarket x y)
    (fixed : FixedQuotes x tokenIn tokenOut amountIn q) :
    FixedQuotes y tokenIn tokenOut amountIn q := by
  obtain ⟨env, storage, self⟩ := market
  constructor
  · rw [env, storage, self]
    exact fixed.venue
  · rw [env, storage, self]
    exact fixed.fallback
  · rw [storage, self]
    exact fixed.own
  · rw [storage, self]
    exact fixed.ownQuoter

theorem SameMarket.destination {x y : Ctx} (market : SameMarket x y) (opts : SwapOptions)
    (q : Address → Option Nat) (g : Nat) : opts.destination y q g = opts.destination x q g := by
  unfold SwapOptions.destination orFallback
  rw [market.storage]

section Flow

variable {opts : SwapOptions} (accepted : opts.refusal? = none)

include accepted

theorem feeBps_le : opts.feeBps ≤ bpsDenominator := by
  unfold SwapOptions.feeBps
  cases given : opts.frontendFee with
  | none => exact Nat.zero_le _
  | some fee => exact Nat.le_trans (accepted_fee accepted given).1 (by decide)

/-- The gross minimum is the least amount that an unrounded fee leaves the minimum of. -/
theorem grossMin_cases (m : Nat) :
    (∃ g, opts.grossMin m = .ok g ∧ ∀ d, g ≤ d ↔
      m * bpsDenominator ≤ d * (bpsDenominator - opts.feeBps)) ∨
      opts.grossMin m = .error (.panicked 0x11) ∧ opts.frontendFee ≠ none ∧
      2 ^ 256 ≤ m * bpsDenominator := by
  obtain ⟨venues, frontendFee, gasLimit⟩ := opts
  cases frontendFee with
  | none =>
      refine .inl ⟨m, rfl, fun d => ?_⟩
      show m ≤ d ↔ m * 10000 ≤ d * 10000
      omega
  | some fee =>
      obtain ⟨low, _⟩ := accepted_fee accepted rfl
      by_cases fits : m * bpsDenominator < 2 ^ 256
      · exact .inl (grossUp_ok fits low)
      · refine .inr ⟨?_, by simp, Nat.le_of_not_lt fits⟩
        show grossUp m fee.bps.toNat = _
        unfold grossUp checkedMul
        rw [if_neg fits]
        rfl

/-- Without a gross minimum there is no swap. -/
theorem run_panics {x : Ctx} {params : SwapArgs} {t : ChainState}
    (running : x.storage.paused = false) (idle : x.entered = false)
    (listed : ∀ venue, opts.venues = some [venue] → x.storage.isVenue venue)
    {e : RouterError} (failed : opts.grossMin params.amountOutMin = .error e) :
    (opts.call params).run x t = .error e t := by
  obtain ⟨venues, frontendFee, gasLimit⟩ := opts
  cases frontendFee with
  | none => cases failed
  | some fee =>
      have charged : grossUp params.amountOutMin fee.onChain.bps = .error e := failed
      obtain ⟨low, paid⟩ := accepted_fee accepted rfl
      have selected : ∀ venues, swapViaSelectedVenuesWithFeeV1 x venues params fee.onChain t =
          .error e t := by
        intro venues
        unfold swapViaSelectedVenuesWithFeeV1
        rw [guarded_admitted running idle, bind_of_ok (validateFee_passes low paid)]
        exact lift_error charged
      match venues, listed with
      | none, _ =>
          have all := congrFun (swapWithFeeV1_eq x params fee.onChain) t
          exact map_of_error (all.trans (selected x.storage.getWhitelistedVenues))
      | some [venue], listed =>
          have known : x.enter.storage.isVenue venue := listed venue rfl
          show swapViaVenueWithFeeV1 x venue params fee.onChain t = _
          unfold swapViaVenueWithFeeV1
          rw [guarded_admitted running idle, bind_of_ok (validateFee_passes low paid),
            bind_of_ok (require_met known)]
          exact lift_error charged
      | some [], _ => exact map_of_error (selected [])
      | some (v :: w :: venues), _ => exact map_of_error (selected (v :: w :: venues))

end Flow

/-- A rounded slippage covers a fee, or it does not. -/
theorem covers_iff {n bps f g : Nat} (capped : bps ≤ bpsDenominator) (room : f ≤ bpsDenominator)
    (least : ∀ d, g ≤ d ↔ slipped n bps * bpsDenominator ≤ d * (bpsDenominator - f)) :
    g ≤ n ↔ n * f ≤ n * bps / bpsDenominator * bpsDenominator := by
  have part : feeOf n bps ≤ n := feeOf_le_self capped
  rw [least, slipped, Nat.sub_mul, Nat.mul_sub]
  have charged : n * f ≤ n * bpsDenominator := Nat.mul_le_mul_left n room
  have taken : feeOf n bps * bpsDenominator ≤ n * bpsDenominator :=
    Nat.mul_le_mul_right bpsDenominator part
  show _ ↔ n * f ≤ feeOf n bps * bpsDenominator
  omega

/-- In a market that stands still, the swap that a caller sends with the slippage taken
    off the quote executes through the quoted venue, unless Uniswap was quoted and a whitelisted
    venue covers the minimum too, or the slippage as rounded does not cover the frontend
    fee. The three SDKs agree on the minimum. -/
theorem quoted_swap_kept {x y : Ctx} {s s' : ChainState} {q : Address → Option Nat}
    {opts : SwapOptions} {params : SwapArgs} {n bps : Nat} {v : Address}
    (reachable : Reachable x.storage)
    (fixed : FixedQuotes x params.tokenIn params.tokenOut params.amountIn q)
    (market : SameMarket x y) (running : y.storage.paused = false) (idle : y.entered = false)
    (accepted : opts.refusal? = none) (capped : bps ≤ bpsDenominator)
    (quoted : (asked opts.venues params.tokenIn params.tokenOut params.amountIn).run x s =
      .ok (n, v) s') :
    ∃ m, Rust.applySlippage (BitVec.ofNat 256 n) (BitVec.ofNat 32 bps) = .ok (BitVec.ofNat 256 m) ∧
      Python.applySlippage n bps = .ok (m : Nat) ∧ TypeScript.applySlippage n bps = .ok (m : Nat) ∧
      (∀ k, m ≤ k ↔ n * (bpsDenominator - bps) ≤ k * bpsDenominator) ∧
      let params := { params with amountOutMin := m }
      (∀ e, opts.grossMin m = .error e → e = .panicked 0x11 ∧ opts.frontendFee ≠ none ∧
        2 ^ 256 ≤ m * bpsDenominator ∧ ∀ t, (opts.call params).run y t = .error e t) ∧
      ∀ g, opts.grossMin m = .ok g →
        (g ≤ n ↔ n * opts.feeBps ≤ n * bps / bpsDenominator * bpsDenominator) ∧
        ∃ u, opts.Keeps y.storage q n v g u ∧ ∀ t, ∃ t', QuotedFrame y t t' ∧
          (opts.call params).run y t = opts.execute y.enter u params g t' := by
  have fits := wp_ok (Abi.QuoteCall.run_fits (x := x)
    (asked opts.venues params.tokenIn params.tokenOut params.amountIn) s) quoted
  have still := market.fixedQuotes fixed
  obtain ⟨some_venue, _⟩ := refusal?_eq_none.mp accepted
  obtain ⟨python, typescript⟩ := integers_applySlippage (n := n) capped
  have listed : ∀ venue, opts.venues = some [venue] → y.storage.isVenue venue := by
    intro venue single
    rw [single] at quoted
    rw [market.storage]
    exact quoted_listed fixed quoted
  refine ⟨slipped n bps, rust_applySlippage fits capped, python, typescript, slipped_le_iff capped,
    ?_, ?_⟩
  · intro e failed
    refine ⟨?_, ?_, ?_, fun t => run_panics accepted running idle listed failed⟩
    all_goals
      rcases grossMin_cases accepted (slipped n bps) with ⟨g, gross, _⟩ | ⟨panics, charged, above⟩
      · cases failed.symm.trans gross
    · cases failed.symm.trans panics
      rfl
    · exact charged
    · exact above
  · intro g gross
    have least : ∀ d, g ≤ d ↔
        slipped n bps * bpsDenominator ≤ d * (bpsDenominator - opts.feeBps) := by
      rcases grossMin_cases accepted (slipped n bps) with ⟨g', ok, least⟩ | ⟨panics, _⟩
      · cases gross.symm.trans ok
        exact least
      · cases gross.symm.trans panics
    refine ⟨covers_iff capped (feeBps_le accepted) least, opts.destination y q g, ?_, fun t => ?_⟩
    · rw [market.destination, market.storage]
      exact destination_keeps reachable.configured fixed some_venue g quoted
    · let sent : SwapArgs := { params with amountOutMin := slipped n bps }
      have asks : FixedQuotes y sent.tokenIn sent.tokenOut sent.amountIn q := still
      have raised : opts.grossMin sent.amountOutMin = .ok g := gross
      exact run_routed running idle asks accepted listed raised

def quotedOptions : SwapOptions := ⟨none, some ⟨50, 0xFE⟩, none⟩

def quotedParams : SwapArgs := ⟨0x11, 0x22, 5, 7, 0xBE, 10⟩

/-- Half a percent of seven is nothing, so it does not cover a fee of half a percent. -/
theorem quoted_swap_kept_sample :
    (∃ s', quoteV1 tiedCtx 0x11 0x22 5 (.start (.funded 0)) = .ok (7, 0xA2) s') ∧
      Python.applySlippage 7 50 = .ok 7 ∧
      ∀ t, ∃ t', QuotedFrame tiedCtx t t' ∧
      (SwapCall.swapWithFeeV1 quotedParams ⟨50, 0xFE⟩).run tiedCtx t =
        (Prod.fst <$> executeSwapWithFee tiedCtx.enter 0xFB quotedParams 8 ⟨50, 0xFE⟩) t' := by
  obtain ⟨s', quoted⟩ := exists_ok (a := ((7, 0xA2) : Nat × Address))
    (m := quoteV1 tiedCtx 0x11 0x22 5) (s := .start (.funded 0)) (by decide +kernel)
  refine ⟨⟨s', quoted⟩, rfl, ?_⟩
  obtain ⟨m, _, kept⟩ := quoted_swap_kept sampleStorage_reachable
    (show FixedQuotes tiedCtx quotedParams.tokenIn quotedParams.tokenOut quotedParams.amountIn
      _ from tied_quotes)
    ⟨rfl, rfl, rfl⟩ (by decide +kernel) rfl (show quotedOptions.refusal? = none from rfl)
    (show 50 ≤ bpsDenominator by decide) quoted
  have seven : m = 7 := by
    have same : (7 : Int) = m := Except.ok.inj kept.1
    omega
  subst seven
  obtain ⟨_, u, keeps, run⟩ := kept.2.2.2.2 8 rfl
  have uniswap : u = 0xFB := keeps.dropped (by decide) fun venue single => by cases single
  subst uniswap
  exact run

end PropAMM.Bindings
