import PropAMM.Router.PlanValue

/-! # Exact rates

Ranking respects the exact rates, and what the waterfall places of the ranked
candidates is worth as much as any other way to split the same amount among all
of them.
-/

namespace PropAMM

open Txn SplitPlanner

/-- Neither of two candidates is better than the other. -/
def Incomparable (a b : Candidate) : Prop := betterThan a b = .ok false ∧ betterThan b a = .ok false

instance (a b : Candidate) : Decidable (Incomparable a b) := inferInstanceAs (Decidable (_ ∧ _))

section Ranking

variable {a b c : Candidate}

theorem betterThan_iff (ha : Priced a) (hb : Priced b) :
    betterThan a b = .ok true ↔ beats a b = true := by
  rw [betterThan_ok ha hb, Except.ok.injEq]

theorem not_betterThan_iff (ha : Priced a) (hb : Priced b) :
    betterThan a b = .ok false ↔ beats a b = false := by
  rw [betterThan_ok ha hb, Except.ok.injEq]

/-- Only candidates of the same terms are incomparable. -/
theorem incomparable_iff (ha : Priced a) (hb : Priced b) :
    Incomparable a b ↔ a.fill = b.fill ∧ a.out = b.out := by
  rw [Incomparable, not_betterThan_iff ha hb, not_betterThan_iff hb ha]
  constructor
  · rintro ⟨first, second⟩
    exact (terms_of_not_beats ha.fill_pos second first).2
  · rintro ⟨fill, out⟩
    rw [not_beats_iff, not_beats_iff, fill, out]
    omega

theorem rate_lt_iff (ha : Priced a) (hb : Priced b) :
    b.rate < a.rate ↔ b.out * a.fill < a.out * b.fill := by
  have fa : (0 : ℚ) < a.fill := by exact_mod_cast ha.fill_pos
  have fb : (0 : ℚ) < b.fill := by exact_mod_cast hb.fill_pos
  rw [Candidate.rate, Candidate.rate, div_lt_div_iff₀ fb fa]
  exact_mod_cast Iff.rfl

theorem rate_eq_iff (ha : Priced a) (hb : Priced b) :
    b.rate = a.rate ↔ b.out * a.fill = a.out * b.fill := by
  have fa : (a.fill : ℚ) ≠ 0 := by exact_mod_cast Nat.ne_of_gt ha.fill_pos
  have fb : (b.fill : ℚ) ≠ 0 := by exact_mod_cast Nat.ne_of_gt hb.fill_pos
  rw [Candidate.rate, Candidate.rate, div_eq_div_iff fb fa]
  exact_mod_cast Iff.rfl

/-- The comparison is that of the exact rates, and on a tie that of the fills. -/
theorem betterThan_iff_rate (ha : Priced a) (hb : Priced b) :
    betterThan a b = .ok true ↔ b.rate < a.rate ∨ b.rate = a.rate ∧ b.fill < a.fill := by
  rw [betterThan_iff ha hb, beats_iff, rate_lt_iff ha hb, rate_eq_iff ha hb]

theorem betterThan_trans (ha : Priced a) (hb : Priced b) (hc : Priced c)
    (hab : betterThan a b = .ok true) (hbc : betterThan b c = .ok true) :
    betterThan a c = .ok true := by
  rw [betterThan_iff_rate ha hb] at hab
  rw [betterThan_iff_rate hb hc] at hbc
  rw [betterThan_iff_rate ha hc]
  rcases hab with better | ⟨tie, larger⟩
  · rcases hbc with better' | ⟨tie', _⟩
    · exact .inl (better'.trans better)
    · exact .inl (tie'.trans_lt better)
  · rcases hbc with better' | ⟨tie', larger'⟩
    · exact .inl (better'.trans_eq tie)
    · exact .inr ⟨tie'.trans tie, larger'.trans larger⟩

/-- `betterThan` is a strict weak order that refines the exact rates, and sorting by
    it is stable. -/
theorem sortByRateDesc_ranks {cands : List Candidate} (ha : Priced a) (hb : Priced b)
    (hc : Priced c) (priced : ∀ d ∈ cands, Priced d) :
    ((∃ verdict, betterThan a b = .ok verdict) ∧
      (betterThan a b = .ok true ↔ b.rate < a.rate ∨ b.rate = a.rate ∧ b.fill < a.fill) ∧
      betterThan a a = .ok false ∧
      (betterThan a b = .ok true → betterThan b c = .ok true → betterThan a c = .ok true) ∧
      (Incomparable a b → Incomparable b c → Incomparable a c) ∧
      (Incomparable a b → a.fill = b.fill ∧ a.out = b.out)) ∧
    ∃ ranked, sortByRateDesc cands = .ok ranked ∧ ranked.Perm cands ∧
      ranked.Pairwise (fun earlier later => betterThan later earlier = .ok false) ∧
      ∀ d ∈ cands, ranked.filter (fun e => Incomparable d e) =
        cands.filter (fun e => Incomparable d e) := by
  refine ⟨⟨⟨_, betterThan_ok ha hb⟩, betterThan_iff_rate ha hb, ?_, betterThan_trans ha hb hc, ?_,
    (incomparable_iff ha hb).mp⟩, sorted cands, sortByRateDesc_ok priced, sorted_perm cands, ?_, ?_⟩
  · rw [not_betterThan_iff ha ha]
    exact beats_irrefl a
  · rw [incomparable_iff ha hb, incomparable_iff hb hc, incomparable_iff ha hc]
    rintro ⟨fill, out⟩ ⟨fill', out'⟩
    exact ⟨fill.trans fill', out.trans out'⟩
  · refine (sorted_ranked priced).imp_of_mem ?_
    intro earlier later he hl unbeaten
    exact (not_betterThan_iff (priced later ((sorted_perm cands).mem_iff.mp hl))
      (priced earlier ((sorted_perm cands).mem_iff.mp he))).mpr unbeaten
  · intro d member
    apply sorted_filter
    intro e he f hf like_e like_f
    -- Both have the terms of `d`, hence each other's.
    obtain ⟨fill, out⟩ := (incomparable_iff (priced d member) (priced e he)).mp
      (of_decide_eq_true like_e)
    obtain ⟨fill', out'⟩ := (incomparable_iff (priced d member) (priced f hf)).mp
      (of_decide_eq_true like_f)
    have same : Incomparable e f := (incomparable_iff (priced e he) (priced f hf)).mpr
      ⟨fill.symm.trans fill', out.symm.trans out'⟩
    exact (not_betterThan_iff (priced e he) (priced f hf)).mp same.1

end Ranking

/-- Two candidates that tie, and one at the same rate with the larger fill. -/
theorem sortByRateDesc_ranks_sample :
    ((∃ verdict, betterThan ⟨0xA3, 20, 40⟩ ⟨0xA1, 10, 20⟩ = .ok verdict) ∧
      (betterThan ⟨0xA3, 20, 40⟩ ⟨0xA1, 10, 20⟩ = .ok true ↔
        Candidate.rate ⟨0xA1, 10, 20⟩ < Candidate.rate ⟨0xA3, 20, 40⟩ ∨
          Candidate.rate ⟨0xA1, 10, 20⟩ = Candidate.rate ⟨0xA3, 20, 40⟩ ∧ 10 < 20) ∧
      betterThan ⟨0xA3, 20, 40⟩ ⟨0xA3, 20, 40⟩ = .ok false ∧
      (betterThan ⟨0xA3, 20, 40⟩ ⟨0xA1, 10, 20⟩ = .ok true → betterThan ⟨0xA1, 10, 20⟩
        ⟨0xA2, 10, 20⟩ = .ok true →
        betterThan ⟨0xA3, 20, 40⟩ ⟨0xA2, 10, 20⟩ = .ok true) ∧
      (Incomparable ⟨0xA3, 20, 40⟩ ⟨0xA1, 10, 20⟩ → Incomparable ⟨0xA1, 10, 20⟩ ⟨0xA2, 10, 20⟩ →
        Incomparable ⟨0xA3, 20, 40⟩ ⟨0xA2, 10, 20⟩) ∧
      (Incomparable ⟨0xA3, 20, 40⟩ ⟨0xA1, 10, 20⟩ → 20 = 10 ∧ 40 = 20)) ∧
    ∃ ranked, sortByRateDesc [⟨0xA2, 10, 20⟩, ⟨0xA1, 10, 20⟩, ⟨0xA3, 20, 40⟩] = .ok ranked ∧
      ranked.Perm [⟨0xA2, 10, 20⟩, ⟨0xA1, 10, 20⟩, ⟨0xA3, 20, 40⟩] ∧
      ranked.Pairwise (fun earlier later => betterThan later earlier = .ok false) ∧
      ∀ d ∈ [⟨0xA2, 10, 20⟩, ⟨0xA1, 10, 20⟩, ⟨0xA3, 20, 40⟩],
        ranked.filter (fun e => Incomparable d e) =
        [⟨0xA2, 10, 20⟩, ⟨0xA1, 10, 20⟩, ⟨0xA3, 20, 40⟩].filter (fun e => Incomparable d e) := by
  have small (venue : Address) : Priced ⟨venue, 10, 20⟩ := .of_terms (by decide)
  have large : Priced ⟨0xA3, 20, 40⟩ := .of_terms (by decide)
  have priced : ∀ d ∈ ([⟨0xA2, 10, 20⟩, ⟨0xA1, 10, 20⟩, ⟨0xA3, 20, 40⟩] : List Candidate),
      Priced d := by
    intro d member
    simp only [List.mem_cons, List.not_mem_nil, or_false] at member
    rcases member with rfl | rfl | rfl
    · exact small 0xA2
    · exact small 0xA1
    · exact large
  exact sortByRateDesc_ranks large (small 0xA1) (small 0xA2) priced

/-! ## The waterfall -/

section Waterfall

variable {x : Ctx} {tokenIn_ tokenOut_ : Address} {amountIn : Nat}

/-- Ranked candidates stand in the order of their exact rates. -/
theorem sorted_rates {cands : List Candidate} (priced : ∀ c ∈ cands, Priced c) :
    (sorted cands).Pairwise fun a b => b.rate ≤ a.rate := by
  refine (sorted_ranked priced).imp_of_mem ?_
  intro a b ha hb unbeaten
  have priced_a := priced a ((sorted_perm cands).mem_iff.mp ha)
  have priced_b := priced b ((sorted_perm cands).mem_iff.mp hb)
  exact Candidate.rate_le_of priced_a.fill_pos priced_b.fill_pos unbeaten

/-- Whatever the fallback quotes, the propAMM legs are those of `p`, a prefix of the
    ranked candidates with only its last cut short. No other way to split the amount
    they take among all the candidates is worth more. -/
theorem waterfall_optimal {cands : List Candidate} {s : ChainState} (positive : 1 ≤ amountIn)
    (bounded : amountIn ≤ 2 ^ 128 - 1) (offered : ∀ c ∈ cands, Offered amountIn c) :
    ∃ ranked legs s' p, sortByRateDesc cands = .ok ranked ∧
      waterfall x ranked tokenIn_ tokenOut_ amountIn s = .ok legs s' ∧
      legs = p.map legOf ++ remainderLegs
        x.storage.fallbackSwapRouter (amountIn - Greedy.assigned p) ∧
      p.map Prod.fst <+: ranked ∧
      (∀ q ∈ p, 0 < q.2) ∧
      (∀ init last, p = init ++ [last] → (∀ q ∈ init, q.2 = q.1.fill) ∧
        (last.2 = last.1.fill ∨ last.2 < last.1.fill ∧ Greedy.assigned p = amountIn)) ∧
      ∀ other : List (Candidate × ℚ), (other.map Prod.fst).Perm cands →
      Greedy.Within Candidate.fill other →
        Greedy.total other = Greedy.assigned p → Greedy.value Candidate.rate other ≤ promise p := by
  have priced : ∀ c ∈ cands, Priced c := fun c member => (offered c member).priced bounded
  have ranked : ∀ c ∈ sorted cands, Priced c := fun c member =>
    priced c ((sorted_perm cands).mem_iff.mp member)
  obtain ⟨legs, s', run, k, planned⟩ :=
    (returns_waterfall (answers_any x _ tokenIn_ tokenOut_) positive bounded ranked (s := s)).exists
  refine ⟨sorted cands, legs, s', placed (sorted cands) k amountIn, sortByRateDesc_ok priced, run,
    planned.legs_eq, ?_, planned.positive, ?_, ?_⟩
  · rw [map_fst_placed]
    exact List.take_prefix k _
  · intro init last shape
    exact Greedy.full_but_last Candidate.fill planned.positive shape
  · intro other offers within same
    have order : ((sorted cands).take k ++ (sorted cands).drop k).Pairwise fun a b =>
        b.rate ≤ a.rate := by
      rw [List.take_append_drop]
      exact sorted_rates priced
    have all : (other.map Prod.fst).Perm ((sorted cands).take k ++ (sorted cands).drop k) := by
      rw [List.take_append_drop]
      exact offers.trans (sorted_perm cands).symm
    exact Greedy.value_le_worth order planned.positive within all same

theorem waterfall_optimal_sample : ∃ ranked legs s' p,
    sortByRateDesc [⟨0xA2, 600, 600⟩, ⟨0xA1, 500, 2000⟩] = .ok ranked ∧
      waterfall (limitCtx .empty) ranked 0x11 0x22 1000 (.start (.funded 0)) = .ok legs s' ∧
      legs = p.map legOf ++ remainderLegs 0xFB (1000 - Greedy.assigned p) ∧
      p.map Prod.fst <+: ranked ∧
      (∀ q ∈ p, 0 < q.2) ∧
      (∀ init last, p = init ++ [last] → (∀ q ∈ init, q.2 = q.1.fill) ∧
        (last.2 = last.1.fill ∨ last.2 < last.1.fill ∧ Greedy.assigned p = 1000)) ∧
      ∀ other :
      List (Candidate × ℚ), (other.map Prod.fst).Perm [⟨0xA2, 600, 600⟩, ⟨0xA1, 500, 2000⟩] →
        Greedy.Within Candidate.fill other → Greedy.total other = Greedy.assigned p →
        Greedy.value Candidate.rate other ≤ promise p := by
  have offered : ∀ c ∈ ([⟨0xA2, 600, 600⟩, ⟨0xA1, 500, 2000⟩] : List Candidate),
      Offered 1000 c := by
    intro c member
    simp only [List.mem_cons, List.not_mem_nil, or_false] at member
    rcases member with rfl | rfl
    · exact ⟨by decide, by decide, by decide, by decide⟩
    · exact ⟨by decide, by decide, by decide, by decide⟩
  exact waterfall_optimal (x := limitCtx .empty) (s := .start (.funded 0)) (by decide)
    (by decide) offered

end Waterfall

end PropAMM
