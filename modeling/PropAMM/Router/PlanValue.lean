import PropAMM.Router.PlanSafety

/-! # What a plan promises

A plan promises each placed candidate's rate on its leg and the fallback's quote
on the rest. The references of the waterfall are average rates of a quote whose
unit rate does not increase, so a placed candidate always beats the average over
the whole order.
-/

namespace PropAMM

open Txn SplitPlanner

/-- The fallback quotes `u size` whenever it is asked, up to `amountIn`. -/
structure FallbackQuotes (x : Ctx) (tokenIn_ tokenOut_ : Address) (amountIn : Nat) (u : Nat → Nat) :
    Prop where
  foreign : x.storage.fallbackQuoter ≠ x.self
  answer : ∀ history size L, 1 ≤ size → size ≤ amountIn → ∃ ret L',
    x.env history (.quoteExactInputSingle x.storage.fallbackQuoter (resolveToken tokenIn_)
      (resolveToken tokenOut_) size
      (x.storage.resolvedFee (resolveToken tokenIn_) (resolveToken tokenOut_))) L = some (ret, L') ∧
    quoterOutOf ret = some (u size)
  bounded : ∀ size, 1 ≤ size → size ≤ amountIn → u size ≤ 2 ^ 128 - 1
  /-- The unit rate does not increase. -/
  unit_rate : ∀ a b, 1 ≤ a → a ≤ b → b ≤ amountIn → u b * a ≤ u a * b

/-- A candidate the waterfall accepts for an order of `amountIn`. -/
structure Offered (amountIn : Nat) (c : Candidate) : Prop where
  fill_pos : 1 ≤ c.fill
  fill_le : c.fill ≤ amountIn
  out_pos : 1 ≤ c.out
  out_le : c.out ≤ 2 ^ 128 - 1

theorem Offered.priced {amountIn : Nat} {c : Candidate} (h : Offered amountIn c)
    (bounded : amountIn ≤ maxU128) : Priced c :=
  ⟨h.fill_pos, Nat.le_trans h.fill_le bounded, h.out_pos, h.out_le⟩

/-- The average rate of a candidate's quote. -/
def Candidate.rate (c : Candidate) : ℚ := c.out / c.fill

/-- What the placed candidates promise on their legs. -/
def promise (p : List (Candidate × Nat)) : ℚ := Greedy.worth Candidate.rate p

/-- What `FallbackQuotes` says of one quote. -/
def QuotedAs (amountIn : Nat) (u : Nat → Nat) (size out : Nat) : Prop :=
  1 ≤ size → size ≤ amountIn → out = u size

section Value

variable {x : Ctx} {tokenIn_ tokenOut_ : Address} {amountIn : Nat} {u : Nat → Nat}

theorem FallbackQuotes.answers (quotes : FallbackQuotes x tokenIn_ tokenOut_ amountIn u) :
    Answers x x.storage.fallbackSwapRouter tokenIn_ tokenOut_ (QuotedAs amountIn u) := by
  intro size s
  by_cases admissible : 1 ≤ size ∧ size ≤ amountIn
  · obtain ⟨ret, L', answer, decoded⟩ :=
      quotes.answer s.trace size s.ledger admissible.1 admissible.2
    -- The call itself, followed through the gate and the decoding.
    have listed : x.selfCall.storage.isVenue x.storage.fallbackSwapRouter := .inr rfl
    have called : callExternal x.selfCall (.quoteExactInputSingle x.storage.fallbackQuoter
        (resolveToken tokenIn_) (resolveToken tokenOut_) size
        (x.storage.resolvedFee (resolveToken tokenIn_) (resolveToken tokenOut_))) s =
          .ok ret (s.called (.quoteExactInputSingle x.storage.fallbackQuoter
            (resolveToken tokenIn_) (resolveToken tokenOut_) size
            (x.storage.resolvedFee (resolveToken tokenIn_) (resolveToken tokenOut_))) L') := by
      unfold callExternal
      rw [if_neg (by simp [ExtCall.callee, ExtCall.value, quotes.foreign])]
      simp only [ExtCall.value, Ledger.pay_zero, Ctx.selfCall_env, answer]
    have quoted : wp (quoteVenueV1 x.selfCall x.storage.fallbackSwapRouter tokenIn_ tokenOut_ size)
        s (fun r _ => r.1 = u size) (fun _ _ => False) := by
      simp only [quoteVenueV1, wp_bind, wp_require, wp_pure]
      refine ⟨fun _ => ?_, fun unlisted => absurd listed unlisted⟩
      simp only [quoteVenue, Ctx.selfCall_storage, if_true, UniV3Router.quoteExactIn, wp_bind]
      unfold wp
      rw [called]
      simp only [decoded]
      rfl
    simp only [tryQuote, Returns, wp_bind]
    rw [wp_attempt]
    refine wp_mono quoted ?_ (fun _ _ h => h.elim)
    intro r s' out _ _
    exact out
  · have any := answers_any x x.storage.fallbackSwapRouter tokenIn_ tokenOut_ size s
    refine wp_mono any ?_ (fun _ _ h => h)
    intro out s' _ one_le le
    exact absurd ⟨one_le, le⟩ admissible

/-- A usable reference is the quote at its size. -/
theorem FallbackQuotes.reference (quotes : FallbackQuotes x tokenIn_ tokenOut_ amountIn u)
    {size out : Nat} (r : Reference (QuotedAs amountIn u) amountIn size out) : out = u size := by
  obtain ⟨q, quoted, rfl⟩ := r.quoted
  have answer : q = u size := quoted r.size_pos r.size_le
  rw [answer]
  exact clampU128_of_le (quotes.bounded size r.size_pos r.size_le)

/-- Cross-multiplied comparisons are comparisons of exact rates. -/
theorem ratio_le_ratio {a b c d : Nat} (hb : 0 < b) (hd : 0 < d) (h : a * d ≤ c * b) :
    (a : ℚ) / b ≤ (c : ℚ) / d := by
  rw [div_le_div_iff₀ (by exact_mod_cast hb) (by exact_mod_cast hd)]
  exact_mod_cast h

theorem ratio_lt_ratio {a b c d : Nat} (hb : 0 < b) (hd : 0 < d) (h : a * d < c * b) :
    (a : ℚ) / b < (c : ℚ) / d := by
  rw [div_lt_div_iff₀ (by exact_mod_cast hb) (by exact_mod_cast hd)]
  exact_mod_cast h

/-- The chord: the average over a part is no worse than the average over the whole. -/
theorem FallbackQuotes.average_le (quotes : FallbackQuotes x tokenIn_ tokenOut_ amountIn u)
    {a b : Nat} (ha : 1 ≤ a) (hab : a ≤ b) (hb : b ≤ amountIn) : (u b : ℚ) / b ≤ (u a : ℚ) / a :=
  ratio_le_ratio (by omega) ha (quotes.unit_rate a b ha hab hb)

/-- What the fallback quotes on a remainder, at any rate its average there reaches. -/
theorem mul_remainder_le {ρ : ℚ} {remaining : Nat}
    (average : 1 ≤ remaining → ρ ≤ (u remaining : ℚ) / remaining) :
    ρ * remaining ≤ u remaining := by
  rcases Nat.eq_zero_or_pos remaining with none | some
  · subst none
    simp
  · have positive : (0 : ℚ) < remaining := by exact_mod_cast some
    exact (le_div_iff₀ positive).mp (average some)

/-- A placed candidate beats the fallback's average over the whole order. -/
theorem Planned.rate_gt (quotes : FallbackQuotes x tokenIn_ tokenOut_ amountIn u)
    {cands : List Candidate} {k : Nat} {legs : List Leg} (offered : ∀ c ∈ cands, Offered amountIn c)
    (planned : Planned x (QuotedAs amountIn u) cands amountIn k legs) :
    ∀ p ∈ placed cands k amountIn, (u amountIn : ℚ) / amountIn < p.1.rate := by
  intro p member
  have taken := mem_take_of_placed member
  have fill_pos : 0 < p.1.fill := (offered p.1 (List.mem_of_mem_take taken)).fill_pos
  obtain ⟨size, out, reference, beaten⟩ := planned.beat p.1 taken
  have answer := quotes.reference reference
  subst answer
  calc (u amountIn : ℚ) / amountIn ≤ (u size : ℚ) / size :=
        quotes.average_le reference.size_pos reference.size_le (Nat.le_refl _)
    _ < p.1.rate := ratio_lt_ratio reference.size_pos fill_pos beaten

/-- A planned split is never worse than all-Uniswap. The propAMM legs are those of
    `p`, a prefix of the candidates with what each was given. -/
theorem waterfall_beats_fallback {cands : List Candidate} {s : ChainState} (positive : 1 ≤ amountIn)
    (bounded : amountIn ≤ 2 ^ 128 - 1) (quotes : FallbackQuotes x tokenIn_ tokenOut_ amountIn u)
    (offered : ∀ c ∈ cands, Offered amountIn c) :
    ∃ legs s' p, waterfall x cands tokenIn_ tokenOut_ amountIn s = .ok legs s' ∧
      p.map Prod.fst <+: cands ∧ Greedy.assigned p ≤ amountIn ∧
      legs = p.map legOf ++
        remainderLegs x.storage.fallbackSwapRouter (amountIn - Greedy.assigned p) ∧
      (u amountIn : ℚ) ≤ promise p + u (amountIn - Greedy.assigned p) ∧
      (p ≠ [] → (u amountIn : ℚ) < promise p + u (amountIn - Greedy.assigned p)) := by
  have priced : ∀ c ∈ cands, Priced c := fun c member => (offered c member).priced bounded
  obtain ⟨legs, s', run, k, planned⟩ :=
    (returns_waterfall quotes.answers positive bounded priced (s := s)).exists
  let p := placed cands k amountIn
  have used : Greedy.assigned p ≤ amountIn := Greedy.assigned_fill_le _ _ _
  have beats := planned.rate_gt quotes offered
  -- At the average over the whole order, both parts are worth at least their share.
  let ρ : ℚ := (u amountIn : ℚ) / amountIn
  have rest : ρ * ((amountIn - Greedy.assigned p : ℕ) : ℚ) ≤ u (amountIn - Greedy.assigned p) :=
    mul_remainder_le fun one_le => quotes.average_le one_le (Nat.sub_le _ _) (Nat.le_refl _)
  have whole : (u amountIn : ℚ) =
      ρ * Greedy.assigned p + ρ * ((amountIn - Greedy.assigned p : ℕ) : ℚ) := by
    have amount : (amountIn : ℚ) ≠ 0 := by exact_mod_cast Nat.ne_of_gt positive
    rw [← mul_add, ← Nat.cast_add, Nat.add_sub_cancel' used]
    exact (div_mul_cancel₀ _ amount).symm
  refine ⟨legs, s', p, run, ?_, used, planned.legs_eq, ?_, ?_⟩
  · show (placed cands k amountIn).map Prod.fst <+: cands
    rw [map_fst_placed]
    exact List.take_prefix k cands
  · have share : ρ * Greedy.assigned p ≤ promise p :=
      Greedy.mul_assigned_le_worth fun q member => (beats q member).le
    linarith
  · intro some
    have share : ρ * Greedy.assigned p < promise p :=
      Greedy.mul_assigned_lt_worth some beats planned.positive
    linarith

theorem Candidate.rate_le_of {a b : Candidate} (ha : 0 < a.fill) (hb : 0 < b.fill)
    (h : SplitPlanner.beats b a = false) : b.rate ≤ a.rate :=
  ratio_le_ratio hb ha (rate_le_of_not_beats h)

/-- A candidate that can take the whole order ends the prefix it stands in, and
    leaves nothing over. -/
theorem Planned.ends_with_full {P : Nat → Nat → Prop} {ranked : List Candidate} {k : Nat}
    {legs : List Leg} {best : Candidate} (planned : Planned x P ranked amountIn k legs)
    (whole : best.fill = amountIn)
    (taken : best ∈ ranked.take k) : ∃ pre, ranked.take k = pre ++ [best] ∧
      Greedy.assigned (placed ranked k amountIn) = amountIn := by
  obtain ⟨pre, post, split⟩ := List.append_of_mem taken
  have left := Greedy.assigned_fill_le Candidate.fill pre amountIn
  have shape : placed ranked k amountIn = Greedy.fill Candidate.fill pre amountIn ++
      (best,
        min best.fill (amountIn - Greedy.assigned (Greedy.fill Candidate.fill pre amountIn))) ::
        Greedy.fill Candidate.fill
          post (amountIn - Greedy.assigned (Greedy.fill Candidate.fill pre amountIn) -
          min best.fill (amountIn - Greedy.assigned
            (Greedy.fill Candidate.fill pre amountIn))) := by
    rw [placed, split, Greedy.fill_append, Greedy.fill_cons]
  have exhausted : amountIn - Greedy.assigned (Greedy.fill Candidate.fill pre amountIn) -
      min best.fill (amountIn - Greedy.assigned (Greedy.fill Candidate.fill pre amountIn)) = 0 := by
    omega
  rw [exhausted] at shape
  -- Whatever came after it would have been given nothing.
  cases post with
  | nil =>
      refine ⟨pre, split, ?_⟩
      have total := Greedy.assigned_fill Candidate.fill (ranked.take k) amountIn
      rw [placed, total, split, List.map_append, List.sum_append, List.map_singleton,
        List.sum_singleton]
      omega
  | cons c post =>
      have empty : (c, min c.fill 0) ∈ placed ranked k amountIn := by
        rw [shape, Greedy.fill_cons]
        simp
      have some : 0 < min c.fill 0 := planned.positive _ empty
      omega

/-- Enough of the better candidates fit in the leg limit: fewer than `maxLegs` have a
    strictly better rate than `best`, or the best-ranked `maxLegs` fill the order. -/
def LegsSuffice (cands ranked : List Candidate) (best : Candidate) (amountIn : Nat) : Prop :=
  (cands.filter fun c => best.out * c.fill < c.out * best.fill).length < maxLegs ∨
    amountIn ≤ ((ranked.take maxLegs).map Candidate.fill).sum

/-- The limit is only reached with the order filled, or with `best` placed. -/
theorem LegsSuffice.exhausts {cands : List Candidate} {best : Candidate}
    (suffice : LegsSuffice cands (sorted cands) best amountIn) (whole : best.fill = amountIn)
    (ahead : ∀ c ∈ (sorted cands).take maxLegs, SplitPlanner.beats best c = false)
    (reached : maxLegs ≤ (sorted cands).length) :
    Greedy.assigned (placed (sorted cands) maxLegs amountIn) = amountIn := by
  have total := Greedy.assigned_fill Candidate.fill ((sorted cands).take maxLegs) amountIn
  rcases suffice with few | enough
  · by_contra short
    rw [placed, total] at short
    -- Short of the order, every one of them is strictly better than `best`.
    have strict : ∀ c ∈ (sorted cands).take maxLegs, best.out * c.fill < c.out * best.fill := by
      intro c member
      rcases not_beats_iff.mp (ahead c member) with better | ⟨_, larger⟩
      · exact better
      · have part : c.fill ≤ (((sorted cands).take maxLegs).map Candidate.fill).sum :=
          List.single_le_sum (fun _ _ => Nat.zero_le _) _ (List.mem_map_of_mem member)
        omega
    have kept : ((sorted cands).take maxLegs).filter
        (fun c => best.out * c.fill < c.out * best.fill) = (sorted cands).take maxLegs := by
      rw [List.filter_eq_self]
      intro c member
      exact decide_eq_true (strict c member)
    have fewer := ((List.take_sublist maxLegs (sorted cands)).filter
      (fun c => best.out * c.fill < c.out * best.fill)).length_le
    rw [kept, List.length_take, ((sorted_perm cands).filter _).length_eq] at fewer
    omega
  · rw [placed, total]
    omega

/-- The fallback never stops quoting: what it quotes zero for, it quotes zero below. -/
def NeverDries (u : Nat → Nat) (amountIn : Nat) : Prop :=
  ∀ a b, 1 ≤ a → a ≤ b → b ≤ amountIn → u b = 0 → u a = 0

/-- At the cut, the fallback's average on the remainder is no worse than the rate of
    the candidate that was cut off. -/
theorem CutBy.remainder_ge (quotes : FallbackQuotes x tokenIn_ tokenOut_ amountIn u)
    (lasts : NeverDries u amountIn) {c : Candidate} (offered : Offered amountIn c)
    {remaining size out : Nat}
    (cut : CutBy (QuotedAs amountIn u) amountIn c remaining size out) (le : remaining ≤ amountIn)
    (one_le : 1 ≤ remaining) : c.rate ≤ (u remaining : ℚ) / remaining := by
  have answer := quotes.reference cut.reference
  subst answer
  have lost : c.rate ≤ (u size : ℚ) / size :=
    ratio_le_ratio offered.fill_pos cut.reference.size_pos cut.contested
  by_cases stale : size < remaining
  · rcases cut.fresh with large | ⟨q, quoted, unusable⟩
    · omega
    · -- The remainder could not be quoted, so nothing below it could be either.
      have answer : q = u remaining := quoted one_le le
      rw [answer, clampU128_of_le (quotes.bounded remaining one_le le)] at unusable
      have dry := lasts size remaining cut.reference.size_pos (Nat.le_of_lt stale) le unusable
      have contested := cut.contested
      rw [dry, Nat.zero_mul] at contested
      have some : 0 < c.out * size := Nat.mul_pos offered.out_pos cut.reference.size_pos
      omega
  · exact lost.trans (quotes.average_le one_le (by omega) cut.reference.size_le)

section Full

variable {cands : List Candidate} {k : Nat} {legs : List Leg} {best : Candidate}

/-- Placed legs are worth the rate of `best` when it beats none of them. -/
theorem Planned.worth_ge (offered : ∀ c ∈ sorted cands, Offered amountIn c)
    (best_pos : 0 < best.fill)
    (ahead : ∀ c ∈ (sorted cands).take k, SplitPlanner.beats best c = false) :
    best.rate * Greedy.assigned (placed (sorted cands) k amountIn) ≤ promise
      (placed (sorted cands) k amountIn) := by
  apply Greedy.mul_assigned_le_worth
  intro p placed_here
  have taken := mem_take_of_placed placed_here
  have fill_pos := (offered p.1 (List.mem_of_mem_take taken)).fill_pos
  exact Candidate.rate_le_of fill_pos best_pos (ahead p.1 taken)

/-- Why the loop stopped before `best` decides what the remainder is worth. -/
theorem Planned.average_ge (quotes : FallbackQuotes x tokenIn_ tokenOut_ amountIn u)
    (offered : ∀ c ∈ sorted cands, Offered amountIn c)
    (ranked : (sorted cands).Ranked SplitPlanner.beats)
    (planned : Planned x (QuotedAs amountIn u) (sorted cands) amountIn k legs)
    (best_pos : 0 < best.fill)
    (whole : best.fill = amountIn) (suffice : LegsSuffice cands (sorted cands) best amountIn)
    (lasts : NeverDries u amountIn) (later : best ∈ (sorted cands).drop k)
    (ahead : ∀ c ∈ (sorted cands).take k, SplitPlanner.beats best c = false)
    (one_le : 1 ≤ amountIn - Greedy.assigned (placed (sorted cands) k amountIn)) :
    best.rate ≤ (u (amountIn - Greedy.assigned (placed (sorted cands) k amountIn)) : ℚ) /
      ((amountIn - Greedy.assigned (placed (sorted cands) k amountIn) : ℕ) : ℚ) := by
  rcases planned.stopped with ended | exhausted | limit | ⟨c, size, out, next, cut⟩
  · rw [ended, List.drop_length] at later
    cases later
  · omega
  · rw [Nat.zero_add] at limit
    subst limit
    have filled := suffice.exhausts whole ahead planned.prefix_le
    omega
  · have c_offered := offered c (List.mem_of_getElem? next)
    have tail : (sorted cands).drop k = c :: (sorted cands).drop (k + 1) := by
      obtain ⟨bound, here⟩ := List.getElem?_eq_some_iff.mp next
      rw [List.drop_eq_getElem_cons bound, here]
    have back : (c :: (sorted cands).drop (k + 1)).Ranked SplitPlanner.beats := by
      rw [← tail]
      exact ranked.sublist (List.drop_sublist k _)
    have best_le : best.rate ≤ c.rate := by
      rw [tail] at later
      rcases List.mem_cons.mp later with same | after
      · rw [same]
      · exact Candidate.rate_le_of c_offered.fill_pos best_pos
          ((List.pairwise_cons.mp back).1 best after)
    exact best_le.trans (cut.remainder_ge quotes lasts c_offered (Nat.sub_le _ _) one_le)

/-- The promise of a plan reaches the quote of any candidate that can take the whole
    order, when the leg limit does not bind and the fallback never stops quoting. -/
theorem Planned.promise_ge (quotes : FallbackQuotes x tokenIn_ tokenOut_ amountIn u)
    (positive : 0 < amountIn) (bounded : amountIn ≤ maxU128)
    (offered : ∀ c ∈ cands, Offered amountIn c)
    (planned : Planned x (QuotedAs amountIn u) (sorted cands) amountIn k legs)
    (member : best ∈ cands) (whole : best.fill = amountIn)
    (suffice : LegsSuffice cands (sorted cands) best amountIn) (lasts : NeverDries u amountIn) :
    (best.out : ℚ) ≤ promise (placed (sorted cands) k amountIn) +
      u (amountIn - Greedy.assigned (placed (sorted cands) k amountIn)) := by
  have ranked := sorted_ranked fun c h => (offered c h).priced bounded
  have from_sorted : ∀ c ∈ sorted cands, Offered amountIn c := fun c h =>
    offered c ((sorted_perm cands).mem_iff.mp h)
  have best_pos : 0 < best.fill := (offered best member).fill_pos
  have used : Greedy.assigned (placed (sorted cands) k amountIn) ≤ amountIn :=
    Greedy.assigned_fill_le _ _ _
  have full : (best.out : ℚ) = best.rate * amountIn := by
    have amount : (amountIn : ℚ) ≠ 0 := by exact_mod_cast Nat.ne_of_gt positive
    rw [Candidate.rate, whole]
    exact (div_mul_cancel₀ _ amount).symm
  have halves : (sorted cands).take k ++ (sorted cands).drop k = sorted cands :=
    List.take_append_drop k _
  by_cases taken : best ∈ (sorted cands).take k
  · obtain ⟨pre, shape, exhausted⟩ := planned.ends_with_full whole taken
    have before : (pre ++ [best]).Ranked SplitPlanner.beats := by
      rw [← shape]
      exact ranked.sublist (List.take_sublist k _)
    have worth : best.rate * Greedy.assigned (placed (sorted cands) k amountIn) ≤
        promise (placed (sorted cands) k amountIn) := by
      apply Planned.worth_ge from_sorted best_pos
      rw [shape]
      intro c earlier
      rcases List.mem_append.mp earlier with h | last
      · exact (List.pairwise_append.mp before).2.2 c h best (by simp)
      · rw [List.mem_singleton.mp last]
        exact beats_irrefl best
    rw [exhausted] at worth
    rw [full]
    have rest : (0 : ℚ) ≤ u (amountIn - Greedy.assigned (placed (sorted cands) k amountIn)) :=
      Nat.cast_nonneg _
    exact worth.trans (le_add_of_nonneg_right rest)
  · have later : best ∈ (sorted cands).drop k := by
      rw [← (sorted_perm cands).mem_iff, ← halves] at member
      exact (List.mem_append.mp member).resolve_left taken
    have ahead : ∀ c ∈ (sorted cands).take k, SplitPlanner.beats best c = false := by
      rw [← halves] at ranked
      intro c h
      exact (List.pairwise_append.mp ranked).2.2 c h best later
    have worth := Planned.worth_ge from_sorted best_pos ahead
    have rest :=
      mul_remainder_le fun one_le => planned.average_ge quotes from_sorted ranked best_pos whole
        suffice lasts later ahead one_le
    have whole_order : best.rate * amountIn = best.rate * Greedy.assigned
        (placed (sorted cands) k amountIn) +
          best.rate * ((amountIn - Greedy.assigned (placed (sorted cands) k amountIn) : ℕ) :
            ℚ) := by
      rw [← mul_add, ← Nat.cast_add, Nat.add_sub_cancel' used]
    rw [full, whole_order]
    exact add_le_add worth rest

end Full

/-! ## The promise of a plan -/

/-- What the venue of a leg quoted. -/
def quotedFor (cands : List Candidate) (leg : Leg) : ℚ :=
  match cands.find? fun c => c.venue = leg.venue with
  | some c => c.rate * leg.amountIn
  | none => 0

/-- The propAMM legs at their candidates' rates, and the fallback's quote on the rest. -/
def promised (fb : Address) (cands : List Candidate) (u : Nat → Nat) (amountIn : Nat)
    (legs : List Leg) : ℚ :=
  let props := legs.filter fun leg => leg.venue ≠ fb
  (props.map (quotedFor cands)).sum + u (amountIn - allocatedBy props)

theorem find?_venue {cands : List Candidate} (distinct : (cands.map Candidate.venue).Nodup)
    {c : Candidate} (member : c ∈ cands) : (cands.find? fun d => d.venue = c.venue) = some c := by
  induction cands with
  | nil => cases member
  | cons d cands ih =>
      rw [List.map_cons, List.nodup_cons] at distinct
      rcases List.mem_cons.mp member with rfl | later
      · simp
      · have other : d.venue ≠ c.venue := by
          intro same
          exact distinct.1 (same ▸ List.mem_map_of_mem later)
        rw [List.find?_cons_of_neg (by simpa using other)]
        exact ih distinct.2 later

theorem promised_legOf {cands : List Candidate} (distinct : (cands.map Candidate.venue).Nodup)
    {p : List (Candidate × Nat)} (from_cands : ∀ q ∈ p, q.1 ∈ cands) :
    ((p.map legOf).map (quotedFor cands)).sum = promise p := by
  induction p with
  | nil => rfl
  | cons q p ih =>
      have rest := ih fun r member => from_cands r (List.mem_cons_of_mem q member)
      have found := find?_venue distinct (from_cands q List.mem_cons_self)
      have here : quotedFor cands (legOf q) = q.1.rate * q.2 := by
        rw [quotedFor]
        show (match cands.find? fun c => c.venue = q.1.venue with
          | some c => c.rate * (q.2 : ℚ)
          | none => 0) = _
        rw [found]
      rw [List.map_cons, List.map_cons, List.sum_cons, rest, here, promise, promise,
        Greedy.worth_cons]

theorem promised_planned {fb : Address} {cands : List Candidate}
    (distinct : (cands.map Candidate.venue).Nodup) (other : ∀ c ∈ cands, c.venue ≠ fb)
    {p : List (Candidate × Nat)} (from_cands : ∀ q ∈ p, q.1 ∈ cands) (rest : Nat) :
    promised fb cands u amountIn (p.map legOf ++ remainderLegs fb rest) =
      promise p + u (amountIn - Greedy.assigned p) := by
  have props : (p.map legOf ++ remainderLegs fb rest).filter (fun leg => leg.venue ≠ fb) =
      p.map legOf := by
    rw [List.filter_append]
    have kept : (p.map legOf).filter (fun leg => leg.venue ≠ fb) = p.map legOf := by
      rw [List.filter_eq_self]
      intro leg member
      obtain ⟨q, used, rfl⟩ := List.mem_map.mp member
      exact decide_eq_true (other q.1 (from_cands q used))
    have dropped : (remainderLegs fb rest).filter (fun leg => leg.venue ≠ fb) = [] := by
      unfold remainderLegs
      split <;> simp
    rw [kept, dropped, List.append_nil]
  simp only [promised, props]
  rw [promised_legOf distinct from_cands, allocatedBy_legOf]

/-- A planned split never promises less than a venue that quoted the whole order, as
    long as the leg limit does not bind and the fallback never stops quoting. -/
theorem planSplit_keeps_full_quote {s s₁ s' : ChainState} {cands ranked : List Candidate}
    {legs : List Leg} {best : Candidate} (positive : 1 ≤ amountIn)
    (bounded : amountIn ≤ 2 ^ 128 - 1) (quotes : FallbackQuotes x tokenIn_ tokenOut_ amountIn u)
    (gathers : gatherCandidates x x.storage.getWhitelistedVenues tokenIn_ tokenOut_ amountIn s =
      .ok cands s₁)
    (plans : planSplit x x.storage.getWhitelistedVenues tokenIn_ tokenOut_ amountIn s = .ok legs s')
    (member : best ∈ cands) (whole : best.fill = amountIn)
    (ranks : sortByRateDesc cands = .ok ranked)
    (suffice : LegsSuffice cands ranked best amountIn) (lasts : NeverDries u amountIn) :
    (best.out : ℚ) ≤ promised x.storage.fallbackSwapRouter cands u amountIn legs := by
  have spec : Ensures (planSplit x x.storage.getWhitelistedVenues tokenIn_ tokenOut_ amountIn) s
      (fun legs _ => ∃ cands s₁ k,
        gatherCandidates x x.storage.getWhitelistedVenues tokenIn_ tokenOut_ amountIn s =
          .ok cands s₁ ∧
        (∀ c ∈ cands, Gathered x x.storage.getWhitelistedVenues amountIn c) ∧
        (cands.map Candidate.venue).Nodup ∧
        Planned x (QuotedAs amountIn u) (sorted cands) amountIn k legs) := by
    simp only [planSplit, Ensures, wp_bind, wp_balanceOf]
    refine wp_mono (returns_planLegs quotes.answers positive bounded) ?_ (fun _ _ h => h.elim)
    intro legs s₂ planned
    simp only [wp_require, wp_pure, implies_true, and_true]
    intro _
    exact planned
  obtain ⟨cands', s₂, k, run, gathered, distinct, planned⟩ := wp_ok spec plans
  rw [gathers] at run
  cases run
  have offered : ∀ c ∈ cands, Offered amountIn c := fun c h =>
    ⟨(gathered c h).fill_pos, (gathered c h).fill_le, (gathered c h).out_pos, (gathered c h).out_le⟩
  have priced : ∀ c ∈ cands, Priced c := fun c h => (offered c h).priced bounded
  rw [sortByRateDesc_ok priced] at ranks
  cases ranks
  have origin : ∀ q ∈ placed (sorted cands) k amountIn, q.1 ∈ cands := by
    intro q used
    exact (sorted_perm cands).mem_iff.mp (List.mem_of_mem_take (mem_take_of_placed used))
  rw [planned.legs_eq, promised_planned distinct (fun c h => (gathered c h).other) origin]
  exact planned.promise_ge quotes positive bounded offered member whole suffice lasts

end Value

/-! ## Samples -/

theorem Mocks.fallbackQuotes {m : Mocks} {whitelist : EnumerableSet Address} {sender : Address}
    {value : Nat} {u : Nat → Nat} {amountIn : Nat} (tokenIn_ tokenOut_ : Address)
    (foreign : m.router ≠ 0xFC) (answers : ∀ size, m.quoterOut size = some (u size))
    (bounded : ∀ size, 1 ≤ size → size ≤ amountIn → u size ≤ 2 ^ 128 - 1)
    (unit_rate : ∀ a b, 1 ≤ a → a ≤ b → b ≤ amountIn → u b * a ≤ u a * b) :
    FallbackQuotes (m.ctx whitelist sender value) tokenIn_ tokenOut_ amountIn u := by
  refine ⟨fun same => foreign same.symm, ?_, bounded, unit_rate⟩
  intro history size L one_le le
  refine ⟨[word (u size), 0, 0, 0], L, ?_, ?_⟩
  · show (m.quoterOut size).map (fun q => ([word q, 0, 0, 0], L)) = _
    rw [answers]
    rfl
  · have fits : u size < 2 ^ 256 := by
      have small := bounded size one_le le
      omega
    simpa [quoterOutOf, word] using fits

/-- Five venues fill ten each at four for one; a sixth takes any order at three for one. -/
def limitMocks : Mocks :=
  { Mocks.plain fun _ _ => none with
    quoteFillable := fun venue n =>
      if venue = 0xA6 then some (n, 3 * n) else some (min n 10, 4 * min n 10) }

def limitCtx (venues : EnumerableSet Address) : Ctx := limitMocks.ctx venues 0xCA 0

theorem limit_quotes (venues : EnumerableSet Address) :
    FallbackQuotes (limitCtx venues) 0x11 0x22 1000 fun n => n :=
  Mocks.fallbackQuotes _ _ (by decide) (fun _ => rfl) (fun size _ le => by omega)
    (fun a b _ _ _ => Nat.le_of_eq (Nat.mul_comm b a))

theorem waterfall_beats_fallback_sample : ∃ legs s' p,
    waterfall (limitCtx .empty) [⟨0xA1, 10, 40⟩] 0x11 0x22 1000 (.start (.funded 0)) = .ok legs s' ∧
      p.map Prod.fst <+: [⟨0xA1, 10, 40⟩] ∧ Greedy.assigned p ≤ 1000 ∧
      legs = p.map legOf ++ remainderLegs 0xFB (1000 - Greedy.assigned p) ∧
      ((1000 : ℕ) : ℚ) ≤ promise p + ((1000 - Greedy.assigned p : ℕ) : ℚ) ∧
      (p ≠ [] → ((1000 : ℕ) : ℚ) < promise p + ((1000 - Greedy.assigned p : ℕ) : ℚ)) := by
  have offered : ∀ c ∈ ([⟨0xA1, 10, 40⟩] : List Candidate), Offered 1000 c := by
    intro c member
    rw [List.mem_singleton.mp member]
    exact ⟨by decide, by decide, by decide, by decide⟩
  have beats := waterfall_beats_fallback (s := .start (.funded 0)) (by decide) (by decide)
    (limit_quotes .empty) offered
  exact beats

/-- Beyond ten, this fallback quotes nothing. -/
def dryMocks : Mocks :=
  { Mocks.plain fun _ _ => none with
    quoteFillable := fun _ n => some (n, n / 2)
    quoterOut := fun n => some (if n ≤ 10 then n else 0) }

def dryCtx : Ctx := dryMocks.ctx ⟨[0xA1], by decide⟩ 0xCA 0

theorem dry_quotes : FallbackQuotes dryCtx 0x11 0x22 1000 fun n => if n ≤ 10 then n else 0 := by
  apply Mocks.fallbackQuotes
  · decide
  · intro size
    rfl
  · intro size _ le
    split <;> omega
  · intro a b _ le _
    by_cases small : b ≤ 10
    · rw [if_pos small, if_pos (by omega)]
      exact Nat.le_of_eq (Nat.mul_comm b a)
    · rw [if_neg small, Nat.zero_mul]
      exact Nat.zero_le _

/-- The leg limit can spend all five legs on small fills and route the rest to a worse
    fallback; and a fallback that stops quoting can contest a candidate on a quote of
    a smaller size. -/
theorem full_quote_lost :
    (∃ cands s₁ legs s', FallbackQuotes (limitCtx ⟨[0xA1, 0xA2, 0xA3, 0xA4, 0xA5, 0xA6], by decide⟩)
        0x11 0x22 1000 (fun n => n) ∧
      gatherCandidates (limitCtx ⟨[0xA1, 0xA2, 0xA3, 0xA4, 0xA5, 0xA6], by decide⟩)
        [0xA1, 0xA2, 0xA3, 0xA4, 0xA5, 0xA6] 0x11 0x22 1000 (.start (.funded 0)) = .ok cands s₁ ∧
      planSplit (limitCtx ⟨[0xA1, 0xA2, 0xA3, 0xA4, 0xA5, 0xA6], by decide⟩)
        [0xA1, 0xA2, 0xA3, 0xA4, 0xA5, 0xA6] 0x11 0x22 1000 (.start (.funded 0)) = .ok legs s' ∧
      ⟨0xA6, 1000, 3000⟩ ∈ cands ∧ promised 0xFB cands (fun n => n) 1000 legs < 3000) ∧
    ∃ cands s₁ legs s', FallbackQuotes dryCtx 0x11 0x22 1000 (fun n => if n ≤ 10 then n else 0) ∧
      gatherCandidates dryCtx [0xA1] 0x11 0x22 1000 (.start (.funded 0)) = .ok cands s₁ ∧
      planSplit dryCtx [0xA1] 0x11 0x22 1000 (.start (.funded 0)) = .ok legs s' ∧
      ⟨0xA1, 1000, 500⟩ ∈ cands ∧
      promised 0xFB cands (fun n => if n ≤ 10 then n else 0) 1000 legs < 500 := by
  constructor
  · obtain ⟨s₁, gathers⟩ :=
        exists_ok (a := ([⟨0xA1, 10, 40⟩, ⟨0xA2, 10, 40⟩, ⟨0xA3, 10, 40⟩, ⟨0xA4, 10, 40⟩,
        ⟨0xA5, 10, 40⟩, ⟨0xA6, 1000, 3000⟩] : List Candidate))
      (m := gatherCandidates (limitCtx ⟨[0xA1, 0xA2, 0xA3, 0xA4, 0xA5, 0xA6], by decide⟩)
        [0xA1, 0xA2, 0xA3, 0xA4, 0xA5, 0xA6] 0x11 0x22 1000) (s := .start (.funded 0))
          (by decide +kernel)
    obtain ⟨s', plans⟩ :=
        exists_ok (a := ([⟨0xA1, 10, 40⟩, ⟨0xA2, 10, 40⟩, ⟨0xA3, 10, 40⟩, ⟨0xA4, 10, 40⟩,
        ⟨0xA5, 10, 40⟩, ⟨0xFB, 950, 0⟩] : List Leg))
      (m := planSplit (limitCtx ⟨[0xA1, 0xA2, 0xA3, 0xA4, 0xA5, 0xA6], by decide⟩)
        [0xA1, 0xA2, 0xA3, 0xA4, 0xA5, 0xA6] 0x11 0x22 1000) (s := .start (.funded 0))
          (by decide +kernel)
    exact ⟨_, s₁, _, s', limit_quotes _, gathers, plans, by decide, by decide +kernel⟩
  · obtain ⟨s₁, gathers⟩ := exists_ok (a := ([⟨0xA1, 1000, 500⟩] : List Candidate))
      (m := gatherCandidates dryCtx [0xA1] 0x11 0x22 1000) (s := .start (.funded 0))
        (by decide +kernel)
    obtain ⟨s', plans⟩ := exists_ok (a := ([⟨0xFB, 1000, 0⟩] : List Leg))
      (m := planSplit dryCtx [0xA1] 0x11 0x22 1000) (s := .start (.funded 0)) (by decide +kernel)
    exact ⟨_, s₁, _, s', dry_quotes, gathers, plans, by decide, by decide +kernel⟩

/-- With four small venues the limit leaves room for the venue that takes the order. -/
theorem planSplit_keeps_full_quote_sample : ∃ s₁ s' : ChainState, ∃ legs,
    planSplit (limitCtx ⟨[0xA1, 0xA2, 0xA3, 0xA4, 0xA6], by decide⟩)
        [0xA1, 0xA2, 0xA3, 0xA4, 0xA6] 0x11 0x22 1000 (.start (.funded 0)) = .ok legs s' ∧
      gatherCandidates (limitCtx ⟨[0xA1, 0xA2, 0xA3, 0xA4, 0xA6], by decide⟩)
        [0xA1, 0xA2, 0xA3, 0xA4, 0xA6] 0x11 0x22 1000 (.start (.funded 0)) =
          .ok [⟨0xA1, 10, 40⟩, ⟨0xA2, 10, 40⟩, ⟨0xA3, 10, 40⟩, ⟨0xA4, 10, 40⟩, ⟨0xA6, 1000, 3000⟩]
            s₁ ∧
      ((3000 : ℕ) : ℚ) ≤ promised 0xFB [⟨0xA1, 10, 40⟩, ⟨0xA2, 10, 40⟩, ⟨0xA3, 10, 40⟩,
        ⟨0xA4, 10, 40⟩, ⟨0xA6, 1000, 3000⟩] (fun n => n) 1000 legs := by
  obtain ⟨s₁, gathers⟩ :=
      exists_ok (a := ([⟨0xA1, 10, 40⟩, ⟨0xA2, 10, 40⟩, ⟨0xA3, 10, 40⟩, ⟨0xA4, 10, 40⟩,
      ⟨0xA6, 1000, 3000⟩] : List Candidate))
    (m := gatherCandidates (limitCtx ⟨[0xA1, 0xA2, 0xA3, 0xA4, 0xA6], by decide⟩)
      [0xA1, 0xA2, 0xA3, 0xA4, 0xA6] 0x11 0x22 1000) (s := .start (.funded 0)) (by decide +kernel)
  obtain ⟨s', plans⟩ :=
      exists_ok (a := ([⟨0xA1, 10, 40⟩, ⟨0xA2, 10, 40⟩, ⟨0xA3, 10, 40⟩, ⟨0xA4, 10, 40⟩,
      ⟨0xA6, 960, 2880⟩] : List Leg))
    (m := planSplit (limitCtx ⟨[0xA1, 0xA2, 0xA3, 0xA4, 0xA6], by decide⟩)
      [0xA1, 0xA2, 0xA3, 0xA4, 0xA6] 0x11 0x22 1000) (s := .start (.funded 0)) (by decide +kernel)
  refine ⟨s₁, s', _, plans, gathers, ?_⟩
  have member : (⟨0xA6, 1000, 3000⟩ : Candidate) ∈ ([⟨0xA1, 10, 40⟩, ⟨0xA2, 10, 40⟩, ⟨0xA3, 10, 40⟩,
      ⟨0xA4, 10, 40⟩, ⟨0xA6, 1000, 3000⟩] : List Candidate) := by decide
  have lasts : NeverDries (fun n => n) 1000 := by
    intro a b one_le le _ none
    have zero : b = 0 := none
    omega
  exact planSplit_keeps_full_quote (x := limitCtx ⟨[0xA1, 0xA2, 0xA3, 0xA4, 0xA6], by decide⟩)
    (by decide) (by decide) (limit_quotes _) gathers plans member rfl
    (sortByRateDesc_ok (by
      intro c member
      simp only [List.mem_cons, List.not_mem_nil, or_false] at member
      rcases member with rfl | rfl | rfl | rfl | rfl <;>
        exact ⟨by decide, by decide, by decide, by decide⟩))
    (.inl (by decide)) lasts

end PropAMM
