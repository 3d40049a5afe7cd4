import PropAMM.Router.Mocks
import PropAMM.Router.Runs
import PropAMM.Router.Waterfall

/-! # No quote can brick a plan

Probing and planning return whatever the quotes do. Every candidate that is
gathered is listed, distinct from the others and within the bounds the planner's
arithmetic needs, so the plan allocates exactly the order.
-/

namespace PropAMM

open Txn SplitPlanner

section Probe

variable {x : Ctx} {venue tokenIn_ tokenOut_ : Address} {amountIn : Nat} {s : ChainState}

theorem isSaturated_ok {outFull outHalf : Nat} (full : outFull ≤ maxU128)
    (half : outHalf ≤ maxU128) : isSaturated outFull outHalf =
      .ok (decide (outFull * bps < 2 * outHalf * (bps - saturationToleranceBps))) := by
  have lhs : outFull * bps < 2 ^ 256 :=
    Nat.lt_of_le_of_lt (Nat.mul_le_mul_right bps full) (by decide)
  have twice : 2 * outHalf < 2 ^ 256 := Nat.lt_of_le_of_lt (Nat.mul_le_mul_left 2 half) (by decide)
  have kept : saturationToleranceBps ≤ bps := by decide
  have rhs : 2 * outHalf * (bps - saturationToleranceBps) < 2 ^ 256 :=
    Nat.lt_of_le_of_lt (Nat.mul_le_mul_right _ (Nat.mul_le_mul_left 2 half)) (by decide)
  simp only [isSaturated, checkedMul_ok lhs, checkedMul_ok twice, checkedSub_ok kept,
    checkedMul_ok rhs, ok_bind]
  rfl

/-- What a probe can learn from a venue: each quote, and each offer for the order, is
    one `P` allows at its size. -/
structure VenueReports (x : Ctx) (tokenIn_ tokenOut_ : Address) (amountIn : Nat) (venue : Address)
    (P : Nat → Nat → Prop) : Prop where
  quotes : Answers x venue tokenIn_ tokenOut_ P
  offers : ∀ s, Ensures (quoteFillableUnchecked x.selfCall venue tokenIn_ tokenOut_ amountIn) s
    (fun p _ => P p.1 p.2)

theorem reports_any : VenueReports x tokenIn_ tokenOut_ amountIn venue fun _ _ => True :=
  ⟨answers_any x venue tokenIn_ tokenOut_, fun _ => ensures_of trivial⟩

theorem VenueReports.mono {P Q : Nat → Nat → Prop}
    (h : VenueReports x tokenIn_ tokenOut_ amountIn venue P)
    (weaker : ∀ size out, P size out → Q size out) :
    VenueReports x tokenIn_ tokenOut_ amountIn venue Q :=
  ⟨fun size s => wp_mono (h.quotes size s) (fun out _ => weaker size out) (fun _ _ h => h),
    fun s => (h.offers s).mono fun p _ => weaker p.1 p.2⟩

/-- The size stays within the request, and a usable result was reported. -/
def WithinReport (P : Nat → Nat → Prop) (limit : Nat) (p : Nat × Nat) : Prop :=
  p.1 ≤ limit ∧ (p.2 ≠ 0 → P p.1 p.2)

variable {P : Nat → Nat → Prop}

theorem withinReport_none (limit : Nat) : WithinReport P limit (0, 0) :=
  ⟨Nat.zero_le _, fun some => absurd rfl some⟩

theorem WithinReport.mono {limit limit' : Nat} {p : Nat × Nat} (h : WithinReport P limit p)
    (le : limit ≤ limit') : WithinReport P limit' p :=
  ⟨Nat.le_trans h.1 le, h.2⟩

theorem withinReport_clamp {limit size out : Nat} (le : size ≤ limit) (reported : P size out) :
    WithinReport P limit (size, clampU128 out) := by
  refine ⟨le, fun usable => ?_⟩
  change clampU128 out ≠ 0 at usable
  show P size (clampU128 out)
  unfold clampU128 at usable ⊢
  split at usable
  · exact absurd rfl usable
  · rename_i small
    rw [if_neg small]
    exact reported

theorem returns_probeDownLoop (quotes : Answers x venue tokenIn_ tokenOut_ P)
    (ceiling steps size : Nat) (s : ChainState) :
    Returns (probeDownLoop x venue tokenIn_ tokenOut_ ceiling steps size) s
      (fun p _ => WithinReport P size p) := by
  induction steps generalizing size s with
  | zero => exact withinReport_none size
  | succ steps ih =>
      have half_le : size / 2 ≤ size := Nat.div_le_self size 2
      simp only [probeDownLoop, Returns, wp_ite, wp_bind, wp_pure]
      refine ⟨fun _ => withinReport_none size, fun _ => ?_⟩
      refine wp_mono (quotes (size / 2) s) ?_ (fun _ _ h => h)
      intro outAt s₁ reported
      refine ⟨fun _ => withinReport_none size,
        fun _ => ⟨fun _ => ⟨half_le, fun _ => reported⟩, fun _ => ?_⟩⟩
      refine wp_mono (ih (size / 2) s₁) ?_ (fun _ _ h => h)
      intro p s₂ within_half
      exact within_half.mono half_le

theorem returns_probeBlind (quotes : Answers x venue tokenIn_ tokenOut_ P) :
    Returns (probeBlind x venue tokenIn_ tokenOut_ amountIn) s
      (fun p _ => WithinReport P amountIn p) := by
  have half_le : amountIn / 2 ≤ amountIn := Nat.div_le_self amountIn 2
  simp only [probeBlind, Returns, wp_ite, wp_bind, wp_pure]
  refine wp_mono (quotes amountIn s) ?_ (fun _ _ h => h)
  intro outFull s₁ reported
  have full := withinReport_clamp (Nat.le_refl amountIn) reported
  refine ⟨fun _ => full, fun _ => ?_⟩
  refine wp_mono (quotes (amountIn / 2) s₁) ?_ (fun _ _ h => h)
  intro outHalf s₂ reported_half
  have half := withinReport_clamp half_le reported_half
  refine ⟨fun _ => withinReport_none _, fun _ => ⟨fun _ => half, fun _ => ⟨fun _ => full, fun _ =>
    ⟨fun _ => ?_, fun _ => ?_⟩⟩⟩⟩
  · refine wp_mono (returns_probeDownLoop quotes _ _ _ s₂) ?_ (fun _ _ h => h)
    intro p s₃ within_half
    exact within_half.mono half_le
  · rw [isSaturated_ok (clampU128_le outFull) (clampU128_le outHalf), wp_lift_ok]
    exact ⟨fun _ => half, fun _ => full⟩

theorem returns_probeVenue (reports : VenueReports x tokenIn_ tokenOut_ amountIn venue P) :
    Returns (probeVenue x venue tokenIn_ tokenOut_ amountIn) s
      (fun p _ => WithinReport P amountIn p) := by
  simp only [probeVenue, Returns, wp_ite, wp_bind, wp_pure]
  refine ⟨fun _ => withinReport_none _, fun _ => wp_supportsInterface fun supported =>
    ⟨fun _ => ?_, fun _ => returns_probeBlind reports.quotes⟩⟩
  -- The extension: a fillable above the request is discarded with its quote.
  rw [wp_attempt]
  refine wp_mono (reports.offers _) ?_ (fun _ s₁ _ => withinReport_none amountIn)
  intro p s₁ reported
  show wp (if p.1 > amountIn then _ else _) s₁ _ _
  simp only [wp_ite, wp_pure]
  exact ⟨fun _ => withinReport_none _, fun honest => ⟨Nat.le_of_not_gt honest, fun _ => reported⟩⟩

end Probe

/-! ## Gathering -/

/-- A candidate gathered from `venueSet` for an order of `amountIn`. -/
structure Gathered (x : Ctx) (venueSet : List Address) (amountIn : Nat) (c : Candidate) : Prop where
  member : c.venue ∈ venueSet
  other : c.venue ≠ x.storage.fallbackSwapRouter
  fill_pos : 0 < c.fill
  fill_le : c.fill ≤ amountIn
  out_pos : 0 < c.out
  out_le : c.out ≤ maxU128

theorem Gathered.priced {x : Ctx} {venueSet : List Address} {amountIn : Nat} {c : Candidate}
    (g : Gathered x venueSet amountIn c) (bounded : amountIn ≤ maxU128) : Priced c :=
  ⟨g.fill_pos, Nat.le_trans g.fill_le bounded, g.out_pos, g.out_le⟩

section Gather

variable {x : Ctx} {tokenIn_ tokenOut_ : Address} {amountIn : Nat} {venueSet : List Address}

/-- What the gathering loop maintains of its scratch array. -/
structure Gathering (x : Ctx) (venueSet : List Address) (amountIn : Nat) (seen : List Address)
    (tmp : List Candidate) : Prop where
  gathered : ∀ c ∈ tmp, Gathered x venueSet amountIn c
  visited : ∀ c ∈ tmp, c.venue ∈ seen
  distinct : (tmp.map Candidate.venue).Nodup

theorem Gathering.skip {seen : List Address} {tmp : List Candidate}
    (held : Gathering x venueSet amountIn seen tmp) (venue : Address) :
    Gathering x venueSet amountIn (venue :: seen) tmp :=
  ⟨held.gathered, fun c member => List.mem_cons_of_mem venue (held.visited c member), held.distinct⟩

theorem Gathering.append {seen : List Address} {tmp : List Candidate}
    (held : Gathering x venueSet amountIn seen tmp) {c : Candidate} (new : c.venue ∉ seen)
    (gathered : Gathered x venueSet amountIn c) :
    Gathering x venueSet amountIn (c.venue :: seen) (tmp ++ [c]) := by
  refine ⟨?_, ?_, ?_⟩
  · intro d member
    rcases List.mem_append.mp member with old | single
    · exact held.gathered d old
    · rw [List.mem_singleton.mp single]
      exact gathered
  · intro d member
    rcases List.mem_append.mp member with old | single
    · exact List.mem_cons_of_mem _ (held.visited d old)
    · rw [List.mem_singleton.mp single]
      exact List.mem_cons_self
  · rw [List.map_append, List.map_singleton]
    refine List.nodup_append.mpr ⟨held.distinct, by simp, ?_⟩
    intro venue member other single
    obtain ⟨d, old, rfl⟩ := List.mem_map.mp member
    rw [List.mem_singleton.mp single]
    intro same
    exact new (same ▸ held.visited d old)

theorem returns_gatherLoop {P : Address → Nat → Nat → Prop}
    (reports : ∀ v ∈ venueSet, VenueReports x tokenIn_ tokenOut_ amountIn v (P v)) {capacity : Nat}
    (seen rest : List Address) (tmp : List Candidate) (covered : ∀ v ∈ rest, v ∈ venueSet)
    (room : tmp.length + rest.length ≤ capacity) (held : Gathering x venueSet amountIn seen tmp)
    (reported : ∀ c ∈ tmp, P c.venue c.fill c.out) (s : ChainState) :
    Returns (gatherLoop x tokenIn_ tokenOut_ amountIn capacity seen rest tmp) s
      (fun cands _ => (∃ seen, Gathering x venueSet amountIn seen cands) ∧
        ∀ c ∈ cands, P c.venue c.fill c.out) := by
  induction rest generalizing seen tmp s with
  | nil => exact ⟨⟨seen, held⟩, reported⟩
  | cons venue rest ih =>
      have covered_rest : ∀ v ∈ rest, v ∈ venueSet :=
        fun v member => covered v (List.mem_cons_of_mem _ member)
      have room_rest : tmp.length + (rest.length + 1) ≤ capacity := room
      have member : venue ∈ venueSet := covered venue List.mem_cons_self
      simp only [gatherLoop, Returns, wp_ite, wp_bind]
      refine ⟨fun _ => ih _ _ covered_rest (by omega) (held.skip venue) reported s, fun fresh => ?_⟩
      refine wp_mono (returns_probeVenue (reports venue member)) ?_ (fun _ _ h => h)
      rintro p s₁ ⟨fill_le, allowed⟩
      refine ⟨fun _ => ih _ _ covered_rest (by omega) (held.skip venue) reported s₁,
        fun usable => ?_⟩
      have stored : appendWithin capacity tmp ⟨venue, p.1, p.2⟩ =
          .ok (tmp ++ [⟨venue, p.1, p.2⟩]) :=
        if_pos (by omega)
      rw [stored, wp_lift_ok]
      have gathered : Gathered x venueSet amountIn ⟨venue, p.1, p.2⟩ := by
        refine ⟨member, fun same => fresh (.inr same), ?_, fill_le, ?_, ?_⟩
        · exact Nat.pos_of_ne_zero fun zero => usable (.inl zero)
        · exact Nat.pos_of_ne_zero fun zero => usable (.inr (.inl zero))
        · exact Nat.le_of_not_gt fun large => usable (.inr (.inr large))
      refine ih _ _ covered_rest ?_ (held.append (fun old => fresh (.inl old)) gathered) ?_ s₁
      · rw [List.length_append, List.length_singleton]
        omega
      · intro c found
        rcases List.mem_append.mp found with old | single
        · exact reported c old
        · rw [List.mem_singleton.mp single]
          exact allowed fun zero => usable (.inr (.inl zero))

/-- Gathering always returns, with candidates for pairwise distinct venues of the set
    that are as their venues reported them. -/
theorem returns_gatherCandidates_of {P : Address → Nat → Nat → Prop}
    (reports : ∀ v ∈ venueSet, VenueReports x tokenIn_ tokenOut_ amountIn v (P v))
    {s : ChainState} :
    Returns (gatherCandidates x venueSet tokenIn_ tokenOut_ amountIn) s (fun cands _ =>
      ((∀ c ∈ cands, Gathered x venueSet amountIn c) ∧ (cands.map Candidate.venue).Nodup) ∧
        ∀ c ∈ cands, P c.venue c.fill c.out) := by
  refine wp_mono (returns_gatherLoop reports [] venueSet [] (fun _ member => member)
    (by simp) ⟨by simp, by simp, by simp⟩ (by simp) s) ?_ (fun _ _ h => h)
  rintro cands s₁ ⟨⟨_, held⟩, reported⟩
  exact ⟨⟨held.gathered, held.distinct⟩, reported⟩

theorem returns_gatherCandidates {s : ChainState} :
    Returns (gatherCandidates x venueSet tokenIn_ tokenOut_ amountIn) s (fun cands _ =>
      (∀ c ∈ cands, Gathered x venueSet amountIn c) ∧ (cands.map Candidate.venue).Nodup) :=
  wp_mono (returns_gatherCandidates_of fun _ _ => reports_any) (fun _ _ h => h.1) (fun _ _ h => h)

/-- The quote phase: the plan made of the candidates it gathered. -/
theorem returns_planLegs {P : Nat → Nat → Prop}
    (quotes : Answers x x.storage.fallbackSwapRouter tokenIn_ tokenOut_ P) (positive : 0 < amountIn)
    (bounded : amountIn ≤ maxU128) {s : ChainState} :
    Returns (planLegs x venueSet tokenIn_ tokenOut_ amountIn) s (fun legs _ => ∃ cands s₁ k,
      gatherCandidates x venueSet tokenIn_ tokenOut_ amountIn s = .ok cands s₁ ∧
      (∀ c ∈ cands, Gathered x venueSet amountIn c) ∧ (cands.map Candidate.venue).Nodup ∧
      Planned x P (sorted cands) amountIn k legs) := by
  have gathering : Returns (gatherCandidates x venueSet tokenIn_ tokenOut_ amountIn) s
    (fun cands _ =>
      (∀ c ∈ cands, Gathered x venueSet amountIn c) ∧ (cands.map Candidate.venue).Nodup) :=
    returns_gatherCandidates
  obtain ⟨cands, s₁, run, gathered, distinct⟩ := gathering.exists
  have priced : ∀ c ∈ cands, Priced c := fun c member => (gathered c member).priced bounded
  have priced_sorted : ∀ c ∈ sorted cands, Priced c := fun c member =>
    priced c ((sorted_perm cands).mem_iff.mp member)
  simp only [planLegs, Returns, wp_bind]
  unfold wp
  rw [run]
  simp only [sortByRateDesc_ok priced]
  refine wp_mono (returns_waterfall quotes positive bounded priced_sorted (s := s₁)) ?_
    (fun _ _ h => h)
  rintro legs s₂ ⟨k, planned⟩
  exact ⟨cands, s₁, k, rfl, gathered, distinct, planned⟩

end Gather

/-! ## Sound plans -/

/-- A propAMM leg of the plan: part of what its candidate can fill, for a floor in
    proportion to its quote. -/
structure SoundLeg (cands : List Candidate) (leg : Leg) : Prop where
  candidate : ∃ c ∈ cands, leg.venue = c.venue ∧ leg.amountIn ≤ c.fill ∧
    leg.minOut = c.out * leg.amountIn / c.fill ∧ leg.minOut ≤ c.out

/-- `props` are the legs that go to propAMM venues, followed by at most one leg for
    the fallback. -/
structure SoundPlan (x : Ctx) (cands : List Candidate) (amountIn : Nat) (props legs : List Leg) :
    Prop where
  fallback_last : legs = props ∨
    ∃ remaining, legs = props ++ [⟨x.storage.fallbackSwapRouter, remaining, 0⟩]
  positive : ∀ leg ∈ legs, 0 < leg.amountIn
  allocated : allocatedBy legs = amountIn
  few : props.length ≤ maxLegs
  distinct : (props.map Leg.venue).Nodup
  listed : ∀ leg ∈ props, x.storage.isWhitelistedVenue leg.venue ∧
    leg.venue ≠ x.storage.fallbackSwapRouter
  sound : ∀ leg ∈ props, SoundLeg cands leg

theorem allocatedBy_legOf (p : List (Candidate × Nat)) :
    allocatedBy (p.map legOf) = Greedy.assigned p := by
  induction p with
  | nil => rfl
  | cons q p ih => rw [List.map_cons, allocatedBy_cons, ih]; rfl

theorem allocatedBy_remainderLegs (fb : Address) (n : Nat) :
    allocatedBy (remainderLegs fb n) = n := by
  unfold remainderLegs
  split
  · rename_i none
    exact none.symm
  · simp

theorem venues_placed (cands : List Candidate) (k amountIn : Nat) :
    ((placed cands k amountIn).map legOf).map Leg.venue = (cands.take k).map Candidate.venue := by
  have shape : Leg.venue ∘ legOf = Candidate.venue ∘ Prod.fst := rfl
  rw [List.map_map, shape, ← List.map_map, map_fst_placed]

theorem Planned.sound {x : Ctx} {P : Nat → Nat → Prop} {cands : List Candidate} {amountIn k : Nat}
    {legs : List Leg} {venueSet : List Address}
    (planned : Planned x P (sorted cands) amountIn k legs)
    (gathered : ∀ c ∈ cands, Gathered x venueSet amountIn c)
    (distinct : (cands.map Candidate.venue).Nodup)
    (listed : ∀ v ∈ venueSet, x.storage.isWhitelistedVenue v) :
    SoundPlan x cands amountIn ((placed (sorted cands) k amountIn).map legOf) legs := by
  have left := Greedy.assigned_fill_le Candidate.fill ((sorted cands).take k) amountIn
  -- Every placed candidate is one that was gathered.
  have origin : ∀ p ∈ placed (sorted cands) k amountIn, p.1 ∈ cands := by
    intro p member
    exact (sorted_perm cands).mem_iff.mp (List.mem_of_mem_take (mem_take_of_placed member))
  refine ⟨?_, ?_, ?_, ?_, ?_, ?_, ?_⟩
  · rw [planned.legs_eq]
    unfold remainderLegs
    split
    · exact .inl (List.append_nil _)
    · exact .inr ⟨_, rfl⟩
  · rw [planned.legs_eq]
    intro leg member
    rcases List.mem_append.mp member with prop | rest
    · obtain ⟨p, used, rfl⟩ := List.mem_map.mp prop
      exact planned.positive p used
    · unfold remainderLegs at rest
      split at rest
      · cases rest
      · rw [List.mem_singleton.mp rest]
        rename_i some
        exact Nat.pos_of_ne_zero some
  · rw [planned.legs_eq, allocatedBy_append, allocatedBy_legOf, allocatedBy_remainderLegs]
    unfold placed at *
    omega
  · rw [List.length_map, length_placed]
    exact (min_le_left _ _).trans planned.few
  · rw [venues_placed]
    have all : ((sorted cands).map Candidate.venue).Nodup :=
      ((sorted_perm cands).map Candidate.venue).nodup_iff.mpr distinct
    exact all.sublist ((List.take_sublist k _).map _)
  · intro leg member
    obtain ⟨p, used, rfl⟩ := List.mem_map.mp member
    have g := gathered p.1 (origin p used)
    exact ⟨listed _ g.member, g.other⟩
  · intro leg member
    obtain ⟨p, used, rfl⟩ := List.mem_map.mp member
    have g := gathered p.1 (origin p used)
    have fits : p.2 ≤ p.1.fill := Greedy.le_cap_of_mem_fill Candidate.fill used
    refine ⟨p.1, origin p used, rfl, fits, rfl, ?_⟩
    exact Nat.div_le_of_le_mul (by rw [Nat.mul_comm]; exact Nat.mul_le_mul_right _ fits)

/-- Planning returns a sound plan, or the balance bracket reports a loss. -/
theorem wp_planSplit {x : Ctx} {tokenIn_ tokenOut_ : Address} {amountIn : Nat} {s : ChainState}
    (positive : 0 < amountIn) (bounded : amountIn ≤ maxU128) :
    wp (planSplit x x.storage.getWhitelistedVenues tokenIn_ tokenOut_ amountIn) s
      (fun legs _ => ∃ cands s₁ props,
        gatherCandidates x x.storage.getWhitelistedVenues tokenIn_ tokenOut_ amountIn s =
          .ok cands s₁ ∧
          SoundPlan x cands amountIn props legs)
      (fun e s' => e = .quoteBalanceInvariantViolated ∧
        s'.ledger.balance tokenIn_ x.self < s.ledger.balance tokenIn_ x.self) := by
  simp only [planSplit, wp_bind, wp_balanceOf]
  refine wp_mono (returns_planLegs (answers_any x _ tokenIn_ tokenOut_) positive bounded) ?_
    (fun _ _ h => h.elim)
  rintro legs s' ⟨cands, s₁, k, run, gathered, distinct, planned⟩
  simp only [wp_require, wp_pure]
  refine ⟨fun _ => ?_, fun lost => ⟨trivial, Nat.lt_of_not_ge lost⟩⟩
  exact ⟨cands, s₁, _, run, planned.sound gathered distinct fun _ member => member⟩

/-- A rejected plan, which only an allocation that does not add up can raise. -/
def NotMismatch (e : RouterError) : Prop :=
  ∀ amountIn allocated, e ≠ .splitAllocationMismatch amountIn allocated

def RouterError.isMismatch : RouterError → Bool
  | splitAllocationMismatch _ _ => true
  | _ => false

theorem notMismatch {e : RouterError} (other : e.isMismatch = false) : NotMismatch e := by
  rintro amountIn allocated rfl
  cases other

section Mismatch

variable {x : Ctx}

theorem raises_settleRemainder (r : LegRun) (delivered fbAmount : Nat) :
    Raises NotMismatch (settleRemainder x r delivered fbAmount) := by
  apply Raises.bind (Raises.reads _)
  intro _
  apply Raises.bind (excused_swapExactIn (notMismatch rfl) _ _ _ _ _ _ _)
  intro _
  apply Raises.bind (Raises.reads _)
  intro _
  apply Raises.bind (excused_sub (notMismatch rfl) _ _)
  intro _
  apply Raises.bind
  · exact Raises.require (notMismatch rfl)
  intro _
  refine Raises.bind (excused_add (notMismatch rfl) _ _) fun _ => Raises.bind (excused_emit _)
    fun _ => Raises.pure _

theorem raises_runLegs (r : LegRun) (legs : List Leg) : Raises NotMismatch (runLegs x r legs) := by
  apply Raises.bind
  · exact fun _ => trivial
  intro _
  apply Raises.bind (excused_legLoop (notMismatch rfl) r legs 0 0)
  intro p
  have finish : ∀ delivered, Raises NotMismatch (do
      require (delivered ≥ r.amountOutMin) (.insufficientOutput r.amountOutMin delivered)
      forwardETH x r.tokenOut r.payTo delivered
      return delivered) := by
    intro delivered
    apply Raises.bind
    · exact Raises.require (notMismatch rfl)
    intro _
    exact Raises.bind (excused_forwardETH (notMismatch rfl) (fun _ => notMismatch rfl) _ _) fun _ =>
      Raises.pure _
  exact Raises.ite (Raises.bind (raises_settleRemainder r _ _) finish)
    (Raises.bind (Raises.pure _) finish)

/-- The allocation check passes on a plan that adds up. -/
theorem raises_executeLegs {r : LegRun} {legs : List Leg} (allocated : allocatedBy legs = r.totalIn)
    (some : 0 < r.totalIn) : Raises NotMismatch (executeLegs x r legs) := by
  have nonempty : legs.length > 0 := by
    cases legs with
    | nil =>
        rw [allocatedBy_nil] at allocated
        omega
    | cons leg legs => exact Nat.succ_pos _
  apply Raises.bind_of (Q := fun n => n = r.totalIn)
  · apply Raises.lift
    have quiet : ∀ (l : List Leg) (n : Nat) (e : RouterError), allocate l n = .error e →
        NotMismatch e := by
      intro l
      induction l with
      | nil =>
          intro n e failed
          cases failed
      | cons leg l ih =>
          intro n e failed
          unfold allocate checkedAdd at failed
          split at failed
          · exact ih _ e failed
          · cases failed
            exact notMismatch rfl
    exact quiet legs 0
  · intro s
    apply wp_allocate
    rw [Nat.zero_add, allocated]
  · intro n total s
    simp only [wp_bind, wp_require]
    exact ⟨fun _ => ⟨fun _ => raises_runLegs r legs s, fun wrong => absurd total wrong⟩,
      fun none => absurd nonempty none⟩

theorem raises_pullSplitFunds (tokenIn tokenOut : Address) (amountIn : Nat) :
    Raises NotMismatch (pullSplitFunds x tokenIn tokenOut amountIn) := by
  refine Raises.bind (Raises.require (notMismatch rfl)) fun _ => Raises.ite ?_ ?_
  · apply Raises.bind
    · exact Raises.require (notMismatch rfl)
    intro _
    exact Raises.bind (excused_call (notMismatch rfl) _) fun _ => Raises.pure _
  · apply Raises.bind
    · exact Raises.require (notMismatch rfl)
    intro _
    exact Raises.bind (excused_call (notMismatch rfl) _) fun _ => Raises.pure _

theorem raises_splitSwap {a : SwapArgs} (positive : 0 < a.amountIn) (bounded : a.amountIn ≤ maxU128)
    (amountOutMin : Nat) (payTo : Address) :
    Raises NotMismatch (splitSwap x x.storage.getWhitelistedVenues a amountOutMin payTo) := by
  apply Raises.bind (raises_pullSplitFunds _ _ _)
  intro p
  apply Raises.bind_of (Q := fun legs => allocatedBy legs = a.amountIn)
  · intro s
    refine wp_mono (wp_planSplit positive bounded) (fun _ _ _ => trivial) ?_
    rintro e s' ⟨rfl, _⟩ _ _ h
    cases h
  · intro s
    refine wp_mono (wp_planSplit positive bounded) ?_ (fun _ _ _ => trivial)
    rintro legs s' ⟨_, _, _, _, sound⟩
    exact sound.allocated
  · intro legs allocated
    exact raises_executeLegs allocated positive

theorem raises_guarded {α : Type} {body : Ctx → RouterM α} (h : Raises NotMismatch (body x.enter)) :
    Raises NotMismatch (guarded x body) := by
  apply Raises.bind
  · exact Raises.require (notMismatch rfl)
  intro _
  exact Raises.bind (Raises.require (notMismatch rfl)) fun _ => h

/-- A validated amount is positive and fits. -/
theorem raises_validated {α : Type} {amountIn : Nat} {m : PUnit → RouterM α}
    (h : 0 < amountIn → amountIn ≤ maxU128 → Raises NotMismatch (m ⟨⟩)) :
    Raises NotMismatch (validateSplitParams amountIn >>= m) := by
  intro s
  simp only [validateSplitParams, wp_bind, wp_require]
  refine ⟨fun positive => ⟨fun bounded => h positive bounded s, fun _ => ?_⟩, fun _ => ?_⟩
  · exact notMismatch rfl
  · exact notMismatch rfl

theorem raises_swapSplitV1 (a : SwapArgs) : Raises NotMismatch (swapSplitV1 x a) := by
  apply raises_guarded
  apply Raises.bind
  · exact Raises.require (notMismatch rfl)
  intro _
  apply raises_validated
  intro positive bounded
  apply Raises.bind_of (Q := fun venueSet => venueSet = x.enter.storage.getWhitelistedVenues)
  · exact Raises.bind (Raises.require (notMismatch rfl)) fun _ => Raises.pure _
  · intro s
    exact ensures_collectVenues rfl
  · rintro venueSet rfl
    exact raises_splitSwap positive bounded _ _

theorem raises_skimAndDisburse (tokenOut : Address) (delivered : Nat) (fee : FrontendFee)
    (recipient : Address) (amountOutMin : Nat) :
    Raises NotMismatch
      (FrontendFees.skimAndDisburse x tokenOut delivered fee recipient amountOutMin) := by
  have fees :
      Raises NotMismatch (lift (FrontendFees.feeAmount delivered fee.bps) : RouterM Nat) := by
    intro s
    simp only [wp_feeAmount]
    exact ⟨fun _ => trivial, fun _ => notMismatch rfl⟩
  apply Raises.bind fees
  intro feeAmt
  apply Raises.bind (excused_sub (notMismatch rfl) _ _)
  intro net
  refine Raises.bind ?_ fun _ => Raises.bind (fun _ => trivial) fun _ => Raises.bind ?_ fun out =>
    ?_
  · refine Raises.ite (Raises.ite ?_ ?_) (Raises.pure _)
    · exact Raises.bind (excused_sendETH (notMismatch rfl) _ _) fun _ => excused_emit _
    · exact Raises.bind (excused_call (notMismatch rfl) _) fun _ => excused_emit _
  · refine Raises.ite (Raises.ite ?_ (Raises.pure _))
      (Raises.bind (Raises.reads _) fun _ => Raises.ite ?_ ?_)
    · exact Raises.bind (excused_sendETH (notMismatch rfl) _ _) fun _ => Raises.pure _
    · apply Raises.bind (excused_call (notMismatch rfl) _)
      intro _
      apply Raises.bind (Raises.reads _)
      intro _
      exact excused_sub (notMismatch rfl) _ _
    · exact Raises.bind (Raises.reads _) fun _ => excused_sub (notMismatch rfl) _ _
  · exact Raises.bind (Raises.require (notMismatch rfl)) fun _ => Raises.pure _

theorem raises_swapSplitWithFeeV1 (a : SwapArgs) (fee : FrontendFee) :
    Raises NotMismatch (swapSplitWithFeeV1 x a fee) := by
  apply raises_guarded
  refine Raises.bind ?_ fun _ => Raises.bind (Raises.require (notMismatch rfl)) fun _ => ?_
  · apply Raises.bind
    · exact Raises.require (notMismatch rfl)
    intro _
    exact Raises.require (notMismatch rfl)
  apply raises_validated
  intro positive bounded
  apply Raises.bind_of (Q := fun venueSet => venueSet = x.enter.storage.getWhitelistedVenues)
  · exact Raises.bind (Raises.require (notMismatch rfl)) fun _ => Raises.pure _
  · intro s
    exact ensures_collectVenues rfl
  · rintro venueSet rfl
    refine Raises.bind ?_ fun grossMin => ?_
    · intro s
      cases gross : FrontendFees.grossUp a.amountOutMin fee.bps with
      | ok grossMin => trivial
      | error e =>
          -- Only the compiler's own checks can fail here.
          show NotMismatch e
          unfold FrontendFees.grossUp checkedMul checkedSub FrontendFees.ceilDiv at gross
          intro _ _ h
          subst h
          revert gross
          split
          · rw [ok_bind]
            split
            · rw [ok_bind]
              split <;> simp
            · simp [bind, Except.bind]
          · simp [bind, Except.bind]
    · apply Raises.bind (raises_splitSwap positive bounded _ _)
      intro delivered
      exact raises_skimAndDisburse _ _ _ _ _

end Mismatch

/-- The quote calls a plan makes do not lower the router's balance of `token`. -/
def QuotesSpare (x : Ctx) (token : Address) : Prop :=
  ∀ c L L', QuoteAllowed x.storage c → Step x c L L' →
    L.balance token x.self ≤ L'.balance token x.self

theorem Quoted.spare {x : Ctx} {token : Address} {L L' : Ledger} (quoted : Quoted x L L')
    (spares : QuotesSpare x token) : L.balance token x.self ≤ L'.balance token x.self := by
  apply quoted.keeps (K := fun L L' => L.balance token x.self ≤ L'.balance token x.self)
  · intro L
    exact Nat.le_refl _
  · intro L L' L'' first second
    exact Nat.le_trans first second
  · intro c L L' allowed step
    exact spares c L L' allowed step

/-- Whatever the quotes answer, short of taking the router's `tokenIn`, a plan is
    returned and it is sound; and no split ever fails its allocation check. -/
theorem planSplit_sound {x : Ctx} {tokenIn_ tokenOut_ : Address} {amountIn : Nat} {s : ChainState}
    (positive : 1 ≤ amountIn) (bounded : amountIn ≤ 2 ^ 128 - 1) (spares : QuotesSpare x tokenIn_) :
    (∃ cands s₁ legs s' props,
      gatherCandidates x x.storage.getWhitelistedVenues tokenIn_ tokenOut_ amountIn s =
        .ok cands s₁ ∧
        planSplit x x.storage.getWhitelistedVenues tokenIn_ tokenOut_ amountIn s = .ok legs s' ∧
          SoundPlan x cands amountIn props legs) ∧
      ∀ (a : SwapArgs) (fee : FrontendFee) (total allocated : Nat) (s s' : ChainState),
        swapSplitV1 x a s ≠ .error (.splitAllocationMismatch total allocated) s' ∧
          swapSplitWithFeeV1 x a fee s ≠ .error (.splitAllocationMismatch total allocated) s' := by
  constructor
  · cases run : planSplit x x.storage.getWhitelistedVenues tokenIn_ tokenOut_ amountIn s with
    | ok legs s' =>
        obtain ⟨cands, s₁, props, gathered, sound⟩ := wp_ok (wp_planSplit positive bounded) run
        exact ⟨cands, s₁, legs, s', props, gathered, rfl, sound⟩
    | error e s' =>
        have kept :=
          (within_planSplit (quotedFrame x) x.storage.getWhitelistedVenues tokenIn_ tokenOut_
          amountIn s)
        have quoted := wp_error (E := fun _ s' => QuotedFrame x s s') kept run
        have lost := (wp_error (wp_planSplit positive bounded) run).2
        exact absurd (quoted.1.spare spares) (Nat.not_le_of_lt lost)
  · intro a fee total allocated s s'
    constructor
    · intro run
      exact (raises_swapSplitV1 a).ne run total allocated rfl
    · intro run
      exact (raises_swapSplitWithFeeV1 a fee).ne run total allocated rfl

theorem Mocks.quotesSpare (m : Mocks) (honest : ∀ venue, m.stealAmount venue = 0)
    (whitelist : EnumerableSet Address) (sender : Address) (value : Nat) (token : Address) :
    QuotesSpare (m.ctx whitelist sender value) token := by
  rintro c L L' allowed ⟨_, _, history, ret, answer⟩
  change m.env history c _ = some (ret, L') at answer
  cases c with
  | quote venue tokenIn tokenOut amountIn =>
      simp only [Mocks.env, honest, Nat.not_lt_zero, if_false] at answer
      obtain ⟨q, _, rest⟩ := Option.map_eq_some_iff.mp answer
      cases rest
      simp [Ledger.debit, ExtCall.value]
  | quoteFillable venue tokenIn tokenOut amountIn =>
      obtain ⟨q, _, rest⟩ := Option.map_eq_some_iff.mp answer
      cases rest
      simp [ExtCall.value]
  | quoteExactInputSingle quoter tokenIn tokenOut amountIn fee =>
      obtain ⟨q, _, rest⟩ := Option.map_eq_some_iff.mp answer
      cases rest
      simp [ExtCall.value]
  | supportsInterface venue =>
      cases answer
      simp [ExtCall.value]
  | safeTransfer | safeTransferFrom | forceApprove | deposit | withdraw | sendValue | swap
  | exactInputSingle => cases allowed

/-- One venue answers the largest word, one reverts, and the fallback itself is listed. -/
def hostileMocks : Mocks := Mocks.plain fun venue n =>
  if venue = 0xA1 then some (2 * n) else if venue = 0xA2 then some (2 ^ 256 - 1) else none

def hostileCtx : Ctx := hostileMocks.ctx ⟨[0xA2, 0xFB, 0xA1, 0xA3], by decide⟩ 0xCA 0

theorem planSplit_sound_hostile :
    ∃ cands s₁ legs s' props,
      gatherCandidates hostileCtx hostileCtx.storage.getWhitelistedVenues 0x11 0x22 100
        (.start (.funded 100)) = .ok cands s₁ ∧
      planSplit hostileCtx hostileCtx.storage.getWhitelistedVenues 0x11 0x22 100
        (.start (.funded 100)) = .ok legs s' ∧
      SoundPlan hostileCtx cands 100 props legs :=
  (planSplit_sound (by decide) (by decide) (hostileMocks.quotesSpare (fun _ => rfl) _ _ _ _)).1

end PropAMM
