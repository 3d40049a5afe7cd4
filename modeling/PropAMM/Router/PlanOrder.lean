import PropAMM.Lib.Agree
import PropAMM.Router.Probing

/-! # Plans do not depend on the whitelist's order

Candidates are a function of the venue, so permuting the whitelist permutes them,
and ranking brings equal terms back to equal places. The waterfall reads nothing
of a candidate but its terms.
-/

namespace PropAMM

open Txn SplitPlanner

/-- How a contract answers: whether it has the extension, and each request by its size. -/
structure Replies where
  extended : Bool
  fillable : Nat → Option (Nat × Nat)
  quote : Nat → Option Nat

/-- The venue answers that way whenever it is asked. -/
structure Answering (x : Ctx) (tokenIn_ tokenOut_ venue : Address) (r : Replies) : Prop where
  extended : Extended x venue r.extended
  fillable : ∀ amount, AlwaysAnswers x (.quoteFillable venue tokenIn_ tokenOut_ amount) uintPairOf
    (r.fillable amount)
  quotes : SizedQuotes x venue tokenIn_ tokenOut_ r.quote

/-- A probe, as a function of the answers. -/
def Replies.probe (r : Replies) (amountIn : Nat) : Nat × Nat :=
  if r.extended then
    match r.fillable amountIn with
    | some offered => if offered.1 > amountIn then (0, 0) else offered
    | none => (0, 0)
  else probeBy (fun n => (r.quote n).getD 0) amountIn

/-- The candidate a venue makes, as a function of its answers. -/
def Replies.candidate (r : Replies) (amountIn : Nat) (venue : Address) : Option Candidate :=
  if (r.probe amountIn).1 = 0 ∨ (r.probe amountIn).2 = 0 ∨ (r.probe amountIn).2 > maxU128 then none
  else some ⟨venue, (r.probe amountIn).1, (r.probe amountIn).2⟩

section Gathering

variable {x : Ctx} {tokenIn_ tokenOut_ : Address} {amountIn : Nat}

theorem Answering.returns_probeVenue {venue : Address} {r : Replies}
    (answering : Answering x tokenIn_ tokenOut_ venue r) (listed : x.storage.isVenue venue)
    (s : ChainState) :
    Returns (probeVenue x venue tokenIn_ tokenOut_ amountIn) s
      (fun t _ => t = r.probe amountIn) := by
  simp only [probeVenue, Replies.probe, Returns, wp_ite, wp_bind]
  refine ⟨fun unlisted => absurd listed unlisted, fun _ => ?_⟩
  refine wp_mono answering.extended.returns ?_ (fun _ _ h => h)
  rintro supported s₁ rfl
  refine ⟨fun extended => ?_, fun plain => ?_⟩
  · rw [if_pos extended]
    have offer : wp (quoteFillableUnchecked x.selfCall venue tokenIn_ tokenOut_ amountIn) s₁
        (fun t _ => r.fillable amountIn = some t) (fun _ _ => r.fillable amountIn = none) := by
      simp only [quoteFillableUnchecked, wp_bind, wp_require]
      refine ⟨fun _ => ?_, fun other => absurd rfl other⟩
      have fixed : AlwaysAnswers x.selfCall (.quoteFillable venue tokenIn_ tokenOut_ amountIn)
          uintPairOf (r.fillable amountIn) := answering.fillable amountIn
      have answered := fixed.wp_call (s := s₁) rfl
      rw [wp_bind] at answered
      exact answered
    rw [wp_attempt]
    refine wp_mono offer ?_ ?_
    · rintro t s₂ some
      rw [some]
      simp only [wp_ite, wp_pure]
      exact ⟨fun excess => (if_pos excess).symm, fun honest => (if_neg honest).symm⟩
    · rintro e s₂ none
      rw [none]
      rfl
  · rw [if_neg plain]
    exact returns_probeBy (answering.quotes.answers listed) amountIn s₁

variable {r : Address → Replies}

/-- What the gathering loop makes of the venues still to come. -/
def candidatesOf (r : Address → Replies) (fb : Address) (amountIn : Nat) (venues : List Address) :
    List Candidate :=
  venues.filterMap fun v => if v = fb then none else (r v).candidate amountIn v

theorem candidatesOf_cons (fb v : Address) (rest : List Address) :
    candidatesOf r fb amountIn (v :: rest) =
      (if v = fb then none else (r v).candidate amountIn v).toList ++ candidatesOf r fb
        amountIn rest := by
  unfold candidatesOf
  rw [List.filterMap_cons]
  cases if v = fb then none else (r v).candidate amountIn v <;> rfl

theorem returns_gatherLoopOf {capacity : Nat} (seen rest : List Address) (tmp : List Candidate)
    (listed : ∀ v ∈ rest, x.storage.isVenue v)
    (answering : ∀ v ∈ rest, Answering x tokenIn_ tokenOut_ v (r v))
    (fresh : ∀ v ∈ rest, v ∉ seen) (distinct : rest.Nodup)
    (room : tmp.length + rest.length ≤ capacity)
    (s : ChainState) : Returns (gatherLoop x tokenIn_ tokenOut_ amountIn capacity seen rest tmp) s
      (fun cands _ => cands = tmp ++ candidatesOf r x.storage.fallbackSwapRouter
        amountIn rest) := by
  induction rest generalizing seen tmp s with
  | nil => exact (List.append_nil tmp).symm
  | cons v rest ih =>
      obtain ⟨new, distinct_rest⟩ := List.nodup_cons.mp distinct
      have later := fun seen' tmp' s' fresh' room' => ih seen' tmp'
        (fun w member => listed w (List.mem_cons_of_mem v member))
        (fun w member => answering w (List.mem_cons_of_mem v member)) fresh' distinct_rest room' s'
      have fresh_rest : ∀ w ∈ rest, w ∉ v :: seen := by
        intro w member again
        rcases List.mem_cons.mp again with same | old
        · exact new (same ▸ member)
        · exact fresh w (List.mem_cons_of_mem v member) old
      have unseen : v ∉ seen := fresh v List.mem_cons_self
      rw [List.length_cons] at room
      simp only [gatherLoop, candidatesOf_cons, Returns, wp_ite, wp_bind]
      refine ⟨fun skipped => ?_, fun kept => ?_⟩
      · rw [if_pos (skipped.resolve_left unseen)]
        exact later _ tmp s fresh_rest (by omega)
      · rw [if_neg fun fb => kept (.inr fb)]
        refine wp_mono
          ((answering v List.mem_cons_self).returns_probeVenue (listed v List.mem_cons_self) s) ?_
            (fun _ _ h => h)
        rintro t s₁ rfl
        unfold Replies.candidate
        refine ⟨fun dead => ?_, fun usable => ?_⟩
        · rw [if_pos dead]
          exact later _ tmp s₁ fresh_rest (by omega)
        · rw [if_neg usable]
          simp only [appendWithin, if_pos (show tmp.length < capacity by omega), wp_lift_ok]
          refine wp_mono (later _ (tmp ++ _) s₁ fresh_rest ?_) ?_ (fun _ _ h => h)
          · rw [List.length_append, List.length_singleton]
            omega
          · rintro cands s₂ rfl
            rw [List.append_assoc]
            rfl

theorem returns_gatherCandidatesOf {venues : List Address}
    (listed : ∀ v ∈ venues, x.storage.isVenue v)
    (answering : ∀ v ∈ venues, Answering x tokenIn_ tokenOut_ v (r v)) (distinct : venues.Nodup)
    (s : ChainState) :
    Returns (gatherCandidates x venues tokenIn_ tokenOut_ amountIn) s
      (fun cands _ => cands = candidatesOf r x.storage.fallbackSwapRouter amountIn venues) :=
  returns_gatherLoopOf [] venues [] listed answering (fun _ _ => List.not_mem_nil) distinct
    (by simp) s

end Gathering

/-! ## Ranking -/

/-- No two candidates have both equal rates and equal fills. -/
def Untied (cands : List Candidate) : Prop :=
  ∀ c ∈ cands, ∀ d ∈ cands, c.out * d.fill = d.out * c.fill → c.fill = d.fill → c = d

/-- What the waterfall reads of a candidate, and the venue too where `T` holds. -/
structure SameTerms (T : Prop) (c d : Candidate) : Prop where
  fill : c.fill = d.fill
  out : c.out = d.out
  venue : T → c.venue = d.venue

theorem SameTerms.refl (T : Prop) (c : Candidate) : SameTerms T c c := ⟨rfl, rfl, fun _ => rfl⟩

/-- Permuted candidates are ranked into the same terms. -/
theorem sorted_sameTerms {cands cands' : List Candidate} (perm : cands.Perm cands')
    (priced : ∀ c ∈ cands, Priced c) :
    List.Forall₂ (SameTerms (Untied cands)) (sorted cands) (sorted cands') := by
  have priced' : ∀ c ∈ cands', Priced c := fun c member => priced c (perm.mem_iff.mpr member)
  have ranked : (sorted cands).Pairwise fun c d => beats d c = false := sorted_ranked priced
  have ranked' : (sorted cands').Pairwise fun c d => beats d c = false := sorted_ranked priced'
  have perm_sorted : (sorted cands).Perm (sorted cands') :=
    (sorted_perm cands).trans (perm.trans (sorted_perm cands').symm)
  have back : ∀ c ∈ sorted cands, c ∈ cands := fun c member => (sorted_perm cands).mem_iff.mp member
  by_cases untied : Untied cands
  · have same : sorted cands = sorted cands' := by
      apply List.Perm.eq_of_pairwise ?_ ranked ranked' perm_sorted
      intro c d member member' first second
      have inside := back c member
      have inside' := back d (perm_sorted.mem_iff.mpr member')
      obtain ⟨rate, fill, _⟩ := terms_of_not_beats (priced c inside).fill_pos first second
      exact untied c inside d inside' rate fill
    rw [same]
    exact List.forall₂_same.mpr fun c _ => .refl _ c
  · -- With ties the venues may differ, so only the terms are compared.
    let terms : Candidate → Nat × Nat := fun c => (c.fill, c.out)
    have ranked_terms : ∀ l : List Candidate, (l.Pairwise fun c d => beats d c = false) →
        (l.map terms).Pairwise fun p q => beats ⟨0, q.1, q.2⟩ ⟨0, p.1, p.2⟩ = false :=
      fun l ranked => List.pairwise_map.mpr ranked
    have same : (sorted cands).map terms = (sorted cands').map terms := by
      apply List.Perm.eq_of_pairwise ?_ (ranked_terms _ ranked) (ranked_terms _ ranked')
        (perm_sorted.map terms)
      intro p q member member' first second
      obtain ⟨c, inside, rfl⟩ := List.mem_map.mp member
      obtain ⟨d, inside', rfl⟩ := List.mem_map.mp member'
      obtain ⟨_, fill, out⟩ := terms_of_not_beats (priced c (back c inside)).fill_pos first second
      exact Prod.ext fill out
    have equal : List.Forall₂ Eq ((sorted cands).map terms) ((sorted cands').map terms) := by
      rw [same]
      exact List.forall₂_same.mpr fun _ _ => rfl
    rw [List.forall₂_map_left_iff, List.forall₂_map_right_iff] at equal
    refine equal.imp ?_
    intro c d pair
    exact ⟨congrArg Prod.fst pair, congrArg Prod.snd pair, fun none => absurd none untied⟩

/-! ## The waterfall -/

structure SameLeg (T : Prop) (l l' : Leg) : Prop where
  amountIn : l.amountIn = l'.amountIn
  minOut : l.minOut = l'.minOut
  venue : T → l.venue = l'.venue

structure SameProgress (T : Prop) (w w' : Waterfall) : Prop where
  refSize : w.refSize = w'.refSize
  refOut : w.refOut = w'.refOut
  refined : w.refined = w'.refined
  remaining : w.remaining = w'.remaining
  legs : List.Forall₂ (SameLeg T) w.legs w'.legs

section Waterfall

variable {T : Prop} {x x' : Ctx} {tokenIn_ tokenOut_ : Address} {amountIn capacity : Nat}
  {u : Nat → Nat}
  (answers : Answers x x.storage.fallbackSwapRouter tokenIn_ tokenOut_ fun size out => out = u size)
  (answers' : Answers x' x'.storage.fallbackSwapRouter tokenIn_ tokenOut_ fun size out =>
    out = u size)

theorem contested_sameTerms {c d : Candidate} (terms : SameTerms T c d) (size out : Nat) :
    contested c size out = contested d size out := by
  unfold contested
  rw [terms.fill, terms.out]

include answers answers'

theorem agree_refineReference {w w' : Waterfall} (same : SameProgress T w w') :
    Agree (SameProgress T) (refineReference x tokenIn_ tokenOut_ w)
      (refineReference x' tokenIn_ tokenOut_ w') := by
  unfold refineReference
  apply Agree.bind (Agree.of_returns (R := Eq) (answers w.remaining) (answers' w'.remaining)
    (by rw [same.remaining]))
  rintro out _ rfl
  apply Agree.ite Iff.rfl
  · exact Agree.pure ⟨same.remaining, rfl, rfl, same.remaining, same.legs⟩
  · exact Agree.pure ⟨same.refSize, same.refOut, rfl, same.remaining, same.legs⟩

theorem agree_cutoff {c d : Candidate} {w w' : Waterfall} (terms : SameTerms T c d)
    (same : SameProgress T w w') :
    Agree (Option.Rel (SameProgress T)) (cutoff x tokenIn_ tokenOut_ c w)
      (cutoff x' tokenIn_ tokenOut_ d w') := by
  unfold cutoff
  rw [contested_sameTerms terms, same.refSize, same.refOut]
  apply Agree.bind (Agree.lift (.refl _))
  rintro b _ rfl
  apply Agree.ite Iff.rfl
  · apply Agree.ite (by rw [same.refined])
    · exact Agree.pure .none
    · apply Agree.bind (agree_refineReference answers answers' same)
      intro v v' refined
      rw [contested_sameTerms terms, refined.refSize, refined.refOut]
      apply Agree.bind (Agree.lift (.refl _))
      rintro b _ rfl
      apply Agree.ite Iff.rfl
      · exact Agree.pure .none
      · exact Agree.pure (.some refined)
  · exact Agree.pure (.some same)

omit answers answers'

theorem alike_appendWithin {legs legs' : List Leg} {l l' : Leg}
    (same : List.Forall₂ (SameLeg T) legs legs') (last : SameLeg T l l') :
    Alike (List.Forall₂ (SameLeg T)) (appendWithin capacity legs l)
      (appendWithin capacity legs' l') := by
  unfold appendWithin
  rw [same.length_eq]
  split
  · exact .ok (List.rel_append same (.cons last .nil))
  · exact .error

theorem agree_placeLeg {c d : Candidate} {w w' : Waterfall} (terms : SameTerms T c d)
    (same : SameProgress T w w') :
    Agree (σ := ChainState) (SameProgress T) (lift (placeLeg capacity c w))
      (lift (placeLeg capacity d w')) := by
  apply Agree.lift
  unfold placeLeg
  rw [terms.fill, terms.out, same.remaining]
  apply Alike.bind (.refl _)
  rintro minOut _ rfl
  apply Alike.bind (R := List.Forall₂ (SameLeg T))
  · exact alike_appendWithin same.legs ⟨rfl, rfl, terms.venue⟩
  · intro legs legs' placed
    apply Alike.bind (.refl _)
    rintro remaining _ rfl
    exact .ok ⟨same.refSize, same.refOut, same.refined, rfl, placed⟩

include answers answers'

theorem agree_waterfallLoop {cands cands' : List Candidate}
    (terms : List.Forall₂ (SameTerms T) cands cands') {w w' : Waterfall}
    (same : SameProgress T w w') :
    Agree (SameProgress T) (waterfallLoop x tokenIn_ tokenOut_ capacity cands w)
      (waterfallLoop x' tokenIn_ tokenOut_ capacity cands' w') := by
  induction terms generalizing w w' with
  | nil => exact Agree.pure same
  | cons here rest ih =>
      simp only [waterfallLoop]
      apply Agree.ite (by rw [same.remaining, same.legs.length_eq])
      · apply Agree.bind (agree_cutoff answers answers' here same)
        intro o o' cut
        cases cut with
        | none => exact Agree.pure same
        | some same' =>
            apply Agree.bind (agree_placeLeg here same')
            intro v v' placed
            exact ih placed
      · exact Agree.pure same

omit answers answers' in
theorem residualLowerBound_sameTerms {cands cands' : List Candidate}
    (terms : List.Forall₂ (SameTerms T) cands cands') :
    residualLowerBound cands amountIn = residualLowerBound cands' amountIn := by
  have fills : cands.map Candidate.fill = cands'.map Candidate.fill := by
    induction terms with
    | nil => rfl
    | cons here rest ih => rw [List.map_cons, List.map_cons, here.fill, ih]
  have folded : ∀ l : List Candidate, l.foldl (fun residual c => if c.fill ≥ residual then 0
      else residual - c.fill)
      amountIn = (l.map Candidate.fill).foldl (fun residual fill => if fill ≥ residual then 0
        else residual - fill)
      amountIn := fun l => by rw [List.foldl_map]
  unfold residualLowerBound
  rw [folded, folded, List.map_take, List.map_take, fills]

theorem agree_waterfall (router : x.storage.fallbackSwapRouter = x'.storage.fallbackSwapRouter)
    {cands cands' : List Candidate} (terms : List.Forall₂ (SameTerms T) cands cands') :
    Agree (List.Forall₂ (SameLeg T)) (waterfall x cands tokenIn_ tokenOut_ amountIn)
      (waterfall x' cands' tokenIn_ tokenOut_ amountIn) := by
  have size : referenceSize cands amountIn = referenceSize cands' amountIn := by
    unfold referenceSize
    rw [residualLowerBound_sameTerms terms]
  unfold waterfall
  apply Agree.ite (by rw [terms.length_eq])
  · exact Agree.pure (.cons ⟨rfl, rfl, fun _ => router⟩ .nil)
  · apply Agree.bind (Agree.of_returns (R := Eq) (answers _) (answers' _) (by rw [size]))
    rintro out _ rfl
    rw [size, terms.length_eq]
    apply Agree.bind (agree_waterfallLoop answers answers' terms ⟨rfl, rfl, rfl, rfl, .nil⟩)
    intro w w' same
    apply Agree.ite (by rw [same.remaining])
    · exact Agree.lift (alike_appendWithin same.legs ⟨same.remaining, rfl, fun _ => router⟩)
    · exact Agree.pure same.legs

end Waterfall

/-! ## Two whitelists -/

section Plans

variable {x x' : Ctx} {tokenIn_ tokenOut_ : Address} {amountIn : Nat} {r : Address → Replies}
  {u : Nat → Option Nat}

theorem candidatesOf_priced {venues : List Address} (listed : ∀ v ∈ venues, x.storage.isVenue v)
    (answering : ∀ v ∈ venues, Answering x tokenIn_ tokenOut_ v (r v)) (distinct : venues.Nodup)
    (bounded : amountIn ≤ maxU128) :
    ∀ c ∈ candidatesOf r x.storage.fallbackSwapRouter amountIn venues, Priced c := by
  have start := ChainState.start (.funded 0)
  have gathered : Returns (gatherCandidates x venues tokenIn_ tokenOut_ amountIn) start
    (fun cands _ =>
      (∀ c ∈ cands, Gathered x venues amountIn c) ∧ (cands.map Candidate.venue).Nodup) :=
    returns_gatherCandidates
  obtain ⟨cands, _, run, offers, _⟩ := gathered.exists
  have same :=
    wp_ok (Q := fun cands _ => cands = candidatesOf r x.storage.fallbackSwapRouter amountIn venues)
      (returns_gatherCandidatesOf listed answering distinct start) run
  rw [← same]
  exact fun c member => (offers c member).priced bounded

theorem agree_planLegs {venues venues' : List Address} (permuted : venues.Perm venues')
    (distinct : venues.Nodup)
    (router : x.storage.fallbackSwapRouter = x'.storage.fallbackSwapRouter)
    (bounded : amountIn ≤ maxU128)
    (listed : ∀ v ∈ venues, x.storage.isVenue v) (listed' : ∀ v ∈ venues, x'.storage.isVenue v)
    (answering : ∀ v ∈ venues, Answering x tokenIn_ tokenOut_ v (r v))
    (answering' : ∀ v ∈ venues, Answering x' tokenIn_ tokenOut_ v (r v))
    (fallback : SizedQuotes x x.storage.fallbackSwapRouter tokenIn_ tokenOut_ u)
    (fallback' : SizedQuotes x' x'.storage.fallbackSwapRouter tokenIn_ tokenOut_ u) :
    Agree
      (List.Forall₂
        (SameLeg (Untied (candidatesOf r x.storage.fallbackSwapRouter amountIn venues))))
      (planLegs x venues tokenIn_ tokenOut_ amountIn)
        (planLegs x' venues' tokenIn_ tokenOut_ amountIn) := by
  have listed_perm : ∀ v ∈ venues', x'.storage.isVenue v := fun v member =>
    listed' v (permuted.mem_iff.mpr member)
  have answering_perm : ∀ v ∈ venues', Answering x' tokenIn_ tokenOut_ v (r v) := fun v member =>
    answering' v (permuted.mem_iff.mpr member)
  have distinct' : venues'.Nodup := permuted.nodup_iff.mp distinct
  have priced := candidatesOf_priced listed answering distinct bounded
  have priced' := candidatesOf_priced listed_perm answering_perm distinct' bounded
  have perm : (candidatesOf r x.storage.fallbackSwapRouter amountIn venues).Perm
      (candidatesOf r x'.storage.fallbackSwapRouter amountIn venues') := by
    rw [router]
    exact permuted.filterMap _
  unfold planLegs
  apply Agree.bind (Agree.of_returns
    (R := fun cands cands' => cands = candidatesOf r x.storage.fallbackSwapRouter amountIn venues ∧
      cands' = candidatesOf r x'.storage.fallbackSwapRouter amountIn venues')
    (returns_gatherCandidatesOf listed answering distinct)
    (returns_gatherCandidatesOf listed_perm answering_perm distinct') ⟨rfl, rfl⟩)
  rintro cands cands' ⟨rfl, rfl⟩
  rw [sortByRateDesc_ok priced, sortByRateDesc_ok priced']
  apply Agree.bind (Agree.lift (.ok (sorted_sameTerms perm priced)))
  intro ranked ranked' terms
  exact agree_waterfall (fallback.answers (.inr rfl)) (fallback'.answers (.inr rfl)) router terms

omit r u in
/-- A returned plan is the one of the quote phase. -/
theorem planLegs_of_planSplit {venues : List Address} {s s' : ChainState} {legs : List Leg}
    (run : planSplit x venues tokenIn_ tokenOut_ amountIn s = .ok legs s') :
    ∃ s₁, planLegs x venues tokenIn_ tokenOut_ amountIn s = .ok legs s₁ := by
  obtain ⟨snap, s₁, read, run⟩ := exists_of_bind_ok run
  cases read
  obtain ⟨legs₁, s₂, planned, run⟩ := exists_of_bind_ok run
  obtain ⟨balance, s₃, read, run⟩ := exists_of_bind_ok run
  cases read
  obtain ⟨_, s₄, _, run⟩ := exists_of_bind_ok run
  cases run
  exact ⟨s₂, planned⟩

/-- Planning returns, unless the balance bracket reports that a quote took `tokenIn`. -/
def PlansOrReports (x : Ctx) (tokenIn_ tokenOut_ : Address) (amountIn : Nat) : Prop :=
  ∀ s, wp (planSplit x x.storage.getWhitelistedVenues tokenIn_ tokenOut_ amountIn) s
    (fun _ _ => True) (fun e s' => e = .quoteBalanceInvariantViolated ∧
      s'.ledger.balance tokenIn_ x.self < s.ledger.balance tokenIn_ x.self)

omit r u in
theorem plansOrReports (positive : 1 ≤ amountIn) (bounded : amountIn ≤ maxU128) :
    PlansOrReports x tokenIn_ tokenOut_ amountIn :=
  fun _ => wp_mono (wp_planSplit positive bounded) (fun _ _ _ => trivial) (fun _ _ h => h)

/-- Two whitelists of the same venues, all of whose answers depend on the size only,
    give the same amounts and floors, and without ties the same venues. -/
theorem plan_order_free
    (permuted : x.storage.getWhitelistedVenues.Perm x'.storage.getWhitelistedVenues)
    (router : x.storage.fallbackSwapRouter = x'.storage.fallbackSwapRouter)
    (positive : 1 ≤ amountIn) (bounded : amountIn ≤ 2 ^ 128 - 1)
    (answering : ∀ v ∈ x.storage.getWhitelistedVenues, Answering x tokenIn_ tokenOut_ v (r v))
    (answering' : ∀ v ∈ x.storage.getWhitelistedVenues, Answering x' tokenIn_ tokenOut_ v (r v))
    (fallback : SizedQuotes x x.storage.fallbackSwapRouter tokenIn_ tokenOut_ u)
    (fallback' : SizedQuotes x' x'.storage.fallbackSwapRouter tokenIn_ tokenOut_ u) :
    PlansOrReports x tokenIn_ tokenOut_ amountIn ∧ PlansOrReports x' tokenIn_ tokenOut_ amountIn ∧
    ∀ s s₁ t t₁ legs legs',
      planSplit x x.storage.getWhitelistedVenues tokenIn_ tokenOut_ amountIn s = .ok legs s₁ →
      planSplit x' x'.storage.getWhitelistedVenues tokenIn_ tokenOut_ amountIn t = .ok legs' t₁ →
      legs.map (fun l => (l.amountIn, l.minOut)) = legs'.map (fun l => (l.amountIn, l.minOut)) ∧
      ∀ cands s₂, gatherCandidates x x.storage.getWhitelistedVenues tokenIn_ tokenOut_ amountIn s =
        .ok cands s₂ →
        Untied cands → legs = legs' := by
  have distinct := x.storage.whitelistedVenues.nodup
  have listed : ∀ v ∈ x.storage.getWhitelistedVenues, x.storage.isVenue v :=
    fun v member => .inl member
  have listed' : ∀ v ∈ x.storage.getWhitelistedVenues, x'.storage.isVenue v := fun v member =>
    .inl (permuted.mem_iff.mp member)
  refine ⟨plansOrReports positive bounded, plansOrReports positive bounded, ?_⟩
  intro s s₁ t t₁ legs legs' run run'
  obtain ⟨_, planned⟩ := planLegs_of_planSplit run
  obtain ⟨_, planned'⟩ := planLegs_of_planSplit run'
  have same :=
    (agree_planLegs permuted distinct router bounded listed listed' answering answering' fallback
    fallback').ok planned planned'
  constructor
  · have pairs : List.Forall₂ Eq (legs.map fun l => (l.amountIn, l.minOut))
        (legs'.map fun l => (l.amountIn, l.minOut)) := by
      rw [List.forall₂_map_left_iff, List.forall₂_map_right_iff]
      exact same.imp fun l l' leg => Prod.ext leg.amountIn leg.minOut
    exact List.forall₂_eq_eq_eq ▸ pairs
  · intro cands s₂ gathered untied
    have value :=
      wp_ok (Q := fun cands _ => cands = candidatesOf r x.storage.fallbackSwapRouter amountIn
      x.storage.getWhitelistedVenues) (returns_gatherCandidatesOf listed answering distinct s)
        gathered
    rw [← value] at same
    have equal : List.Forall₂ Eq legs legs' := same.imp fun l l' leg => by
      cases l
      cases l'
      cases leg.amountIn
      cases leg.minOut
      cases leg.venue untied
      rfl
    exact List.forall₂_eq_eq_eq ▸ equal

end Plans

theorem Mocks.answering (m : Mocks) (honest : ∀ venue, m.stealAmount venue = 0) (x : Ctx)
    (env : x.env = m.env) (plain : ∀ venue amount, m.quoteFillable venue amount = none)
    (venue tokenIn_ tokenOut_ : Address)
    (other : venue ≠ x.storage.fallbackSwapRouter) (foreign : venue ≠ x.self)
    (fits : ∀ amount n, m.quote venue amount = some n → n < 2 ^ 256) :
    Answering x tokenIn_ tokenOut_ venue ⟨false, fun _ => none, m.quote venue⟩ := by
  refine ⟨?_, fun amount => .foreign foreign ?_,
    m.sizedQuotes honest x env _ _ _ other foreign fits⟩
  · unfold Extended
    rw [if_neg foreign, env]
    intro history L
    simp [Mocks.env, plain]
  · intro history L
    rw [env]
    simp [Mocks.env, plain]

theorem Mocks.sizedFallback (m : Mocks) (x : Ctx) (env : x.env = m.env)
    (tokenIn_ tokenOut_ : Address) (foreign : x.storage.fallbackQuoter ≠ x.self) :
    SizedQuotes x x.storage.fallbackSwapRouter tokenIn_ tokenOut_
      fun n => (m.quoterOut n).map (· % 2 ^ 256) := by
  refine ⟨fun other => absurd rfl other, fun _ amount => .foreign foreign ?_⟩
  intro history L
  rw [env]
  simp only [Mocks.env]
  cases m.quoterOut amount with
  | none => rfl
  | some n => simp [quoterOutOf, word]

/-- Two venues, one of which fills 70. -/
def pairMocks : Mocks := Mocks.plain fun v n =>
  if v = 0xB1 then some (2 * min n 70) else some (3 * min n 20)

def pairCtx (venues : EnumerableSet Address) : Ctx := pairMocks.ctx venues 0xCA 0

theorem pair_answering (venues : EnumerableSet Address) : ∀ v ∈ [0xB1, 0xB2],
    Answering (pairCtx venues) 0x11 0x22 v ⟨false, fun _ => none, pairMocks.quote v⟩ := by
  intro v member
  apply pairMocks.answering (fun _ => rfl) (pairCtx venues) rfl (fun _ _ => rfl)
  · show v ≠ 0xFB
    rcases List.mem_pair.mp member with rfl | rfl <;> decide
  · show v ≠ 0x50
    rcases List.mem_pair.mp member with rfl | rfl <;> decide
  · intro amount n quoted
    simp only [pairMocks, Mocks.plain] at quoted
    split at quoted
    · cases quoted
      omega
    · cases quoted
      omega

def pairCtx₁ : Ctx := pairCtx ⟨[0xB1, 0xB2], by decide⟩

def pairCtx₂ : Ctx := pairCtx ⟨[0xB2, 0xB1], by decide⟩

theorem plan_order_free_pair : ∃ legs legs' s₁ t₁,
    planSplit pairCtx₁ pairCtx₁.storage.getWhitelistedVenues 0x11 0x22 100 (.start (.funded 0)) =
      .ok legs s₁ ∧
    planSplit pairCtx₂ pairCtx₂.storage.getWhitelistedVenues 0x11 0x22 100 (.start (.funded 0)) =
      .ok legs' t₁ ∧
    legs.map (fun l => (l.amountIn, l.minOut)) = legs'.map (fun l => (l.amountIn, l.minOut)) := by
  have planned : ∀ x ∈ [pairCtx₁, pairCtx₂],
      result? (planSplit x x.storage.getWhitelistedVenues 0x11 0x22 100) (.start (.funded 0)) =
        some [⟨0xB2, 12, 36⟩, ⟨0xB1, 50, 100⟩, ⟨0xFB, 38, 0⟩] := by decide +kernel
  obtain ⟨s₁, run⟩ := exists_ok (planned pairCtx₁ (by simp))
  obtain ⟨t₁, run'⟩ := exists_ok (planned pairCtx₂ (by simp))
  obtain ⟨_, _, same⟩ := @plan_order_free pairCtx₁ pairCtx₂ 0x11 0x22 100
    (fun v => ⟨false, fun _ => none, pairMocks.quote v⟩) _ (List.Perm.swap 0xB2 0xB1 []) rfl
      (by decide)
    (by decide) (pair_answering _) (pair_answering _)
      (pairMocks.sizedFallback pairCtx₁ rfl 0x11 0x22 (by decide))
    (pairMocks.sizedFallback pairCtx₂ rfl 0x11 0x22 (by decide))
  exact ⟨_, _, s₁, t₁, run, run', (same _ _ _ _ _ _ run run').1⟩

end PropAMM
