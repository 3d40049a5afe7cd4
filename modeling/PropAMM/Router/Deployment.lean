import PropAMM.Router.Config

/-! # Reachable configurations

A deployment runs `initialize` once and then any sequence of administrative
calls, each of which either succeeds or leaves the storage alone. Calls that fail
the `restricted` check are among the latter.
-/

namespace PropAMM

inductive AdminCall where
  | addVenue (venue : Address)
  | removeVenue (venue : Address)
  | setFallbackSwapRouter (newRouter : Address)
  | setFallbackQuoter (newQuoter : Address)
  | setFallbackFee (fee : Nat)
  | setPairFee (tokenA tokenB : Address) (fee : Nat)
  | setPairFees (tokenA tokenB : List Address) (fees : List Nat)
  | pause (account : Address)
  | unpause (account : Address)
  deriving DecidableEq, Repr

namespace AdminCall

def apply (st : RouterStorage) : AdminCall → Mutation
  | addVenue venue => PropAMM.addVenue st venue
  | removeVenue venue => PropAMM.removeVenue st venue
  | setFallbackSwapRouter newRouter => PropAMM.setFallbackSwapRouter st newRouter
  | setFallbackQuoter newQuoter => PropAMM.setFallbackQuoter st newQuoter
  | setFallbackFee fee => PropAMM.setFallbackFee st fee
  | setPairFee tokenA tokenB fee => PropAMM.setPairFee st tokenA tokenB fee
  | setPairFees tokenA tokenB fees => PropAMM.setPairFees st tokenA tokenB fees
  | pause account => PropAMM.pause st account
  | unpause account => PropAMM.unpause st account

/-- The storage after the call. -/
def run (st : RouterStorage) (c : AdminCall) : RouterStorage :=
  match c.apply st with
  | .ok (st', _) => st'
  | .error _ => st

theorem run_induction {P : RouterStorage → Prop} {st : RouterStorage} (h : P st) (c : AdminCall)
    (step : ∀ st' events, c.apply st = .ok (st', events) → P st') : P (c.run st) := by
  unfold run
  cases applied : c.apply st with
  | ok r => exact step r.1 r.2 applied
  | error e => exact h

end AdminCall

inductive Reachable : RouterStorage → Prop
  | deployed {fallbackSwapRouter fallbackQuoter authority st events}
      (h : initializeRouter fallbackSwapRouter fallbackQuoter authority = .ok (st, events)) :
      Reachable st
  | step {st} (h : Reachable st) (c : AdminCall) : Reachable (c.run st)

/-- No address that identifies a venue is zero. -/
structure Configured (st : RouterStorage) : Prop where
  router : st.fallbackSwapRouter ≠ 0
  quoter : st.fallbackQuoter ≠ 0
  venues : ¬ st.isWhitelistedVenue 0

/-- Fee writes touch the fee map only. -/
def SameVenues (st st' : RouterStorage) : Prop :=
  st'.fallbackSwapRouter = st.fallbackSwapRouter ∧ st'.fallbackQuoter = st.fallbackQuoter ∧
    st'.whitelistedVenues = st.whitelistedVenues

theorem SameVenues.trans {st st' st'' : RouterStorage} (h : SameVenues st st')
    (h' : SameVenues st' st'') : SameVenues st st'' :=
  ⟨h'.1.trans h.1, h'.2.1.trans h.2.1, h'.2.2.trans h.2.2⟩

theorem SameVenues.configured {st st' : RouterStorage} (same : SameVenues st st')
    (h : Configured st) : Configured st' := by
  obtain ⟨router, quoter, venues⟩ := same
  refine ⟨by rw [router]; exact h.router, by rw [quoter]; exact h.quoter, ?_⟩
  intro listed
  unfold RouterStorage.isWhitelistedVenue at listed
  rw [venues] at listed
  exact h.venues listed

section FeeWrites

variable {st st' : RouterStorage} {events : List Event}

theorem sameVenues_setPairFeeUnchecked {tokenA tokenB : Address} {fee : Nat}
    (h : setPairFeeUnchecked st tokenA tokenB fee = .ok (st', events)) : SameVenues st st' := by
  unfold setPairFeeUnchecked at h
  split at h
  · cases h
    exact ⟨rfl, rfl, rfl⟩
  · cases h

/-- The bind of two mutations succeeds through the result of the first. -/
theorem bind_ok {α β : Type} {m : Checked α} {f : α → Checked β} {b : β} (h : (m >>= f) = .ok b) :
    ∃ a, m = .ok a ∧ f a = .ok b := by
  cases m with
  | ok a => exact ⟨a, rfl, h⟩
  | error e => cases h

theorem sameVenues_setPairFeesLoop {entries : List ((Address × Address) × Nat)}
    (h : setPairFeesLoop st entries = .ok (st', events)) : SameVenues st st' := by
  induction entries generalizing st events with
  | nil =>
      cases h
      exact ⟨rfl, rfl, rfl⟩
  | cons entry rest ih =>
      obtain ⟨⟨st₁, e₁⟩, first, h⟩ := bind_ok h
      obtain ⟨⟨st₂, e₂⟩, second, h⟩ := bind_ok h
      cases h
      exact (sameVenues_setPairFeeUnchecked first).trans (ih second)

theorem sameVenues_seedDefaultPairFees (h : seedDefaultPairFees st = .ok (st', events)) :
    SameVenues st st' := by
  obtain ⟨⟨st₁, e₁⟩, first, h⟩ := bind_ok h
  obtain ⟨⟨st₂, e₂⟩, second, h⟩ := bind_ok h
  obtain ⟨⟨st₃, e₃⟩, third, h⟩ := bind_ok h
  cases h
  have two := (sameVenues_setPairFeeUnchecked first).trans (sameVenues_setPairFeeUnchecked second)
  exact two.trans (sameVenues_setPairFeeUnchecked third)

end FeeWrites

theorem initializeRouter_ok {fallbackSwapRouter fallbackQuoter authority : Address}
    {st : RouterStorage} {events : List Event}
    (h : initializeRouter fallbackSwapRouter fallbackQuoter authority = .ok (st, events)) :
    fallbackSwapRouter ≠ 0 ∧ fallbackQuoter ≠ 0 ∧ seedDefaultPairFees
      { RouterStorage.blank with fallbackSwapRouter, fallbackQuoter, fallbackFee := 3000 } =
        .ok (st, events) := by
  unfold initializeRouter at h
  by_cases router : fallbackSwapRouter = 0
  · simp only [if_pos router] at h
    cases h
  by_cases quoter : fallbackQuoter = 0
  · simp only [if_neg router, if_pos quoter] at h
    cases h
  by_cases manager : authority = 0
  · simp only [if_neg router, if_neg quoter, if_pos manager] at h
    cases h
  simp only [if_neg router, if_neg quoter, if_neg manager] at h
  exact ⟨router, quoter, h⟩

theorem configured_initialize {fallbackSwapRouter fallbackQuoter authority : Address}
    {st : RouterStorage} {events : List Event}
    (h : initializeRouter fallbackSwapRouter fallbackQuoter authority = .ok (st, events)) :
    Configured st := by
  obtain ⟨router, quoter, seeded⟩ := initializeRouter_ok h
  apply (sameVenues_seedDefaultPairFees seeded).configured
  refine ⟨router, quoter, ?_⟩
  intro listed
  cases listed

/-- What a successful administrative call changes: the whitelist, one of the fallback
    addresses, or none of these. -/
theorem apply_cases {st st' : RouterStorage} {events : List Event} {c : AdminCall}
    (applied : c.apply st = .ok (st', events)) :
    (∃ venue venues, c = .addVenue venue ∧ venue ≠ 0 ∧ st.whitelistedVenues.add venue =
      some venues ∧
      st' = { st with whitelistedVenues := venues }) ∨
    (∃ venue venues, c = .removeVenue venue ∧ st.whitelistedVenues.remove venue = some venues ∧
      st' = { st with whitelistedVenues := venues }) ∨
    (∃ newRouter, c = .setFallbackSwapRouter newRouter ∧ newRouter ≠ 0 ∧
      st' = { st with fallbackSwapRouter := newRouter }) ∨
    (∃ newQuoter, c = .setFallbackQuoter newQuoter ∧ newQuoter ≠ 0 ∧
      st' = { st with fallbackQuoter := newQuoter }) ∨
    SameVenues st st' := by
  cases c with
  | addVenue venue =>
      simp only [AdminCall.apply, addVenue] at applied
      split at applied
      · cases applied
      · rename_i nonzero
        split at applied
        · rename_i venues added
          cases applied
          exact .inl ⟨venue, venues, rfl, nonzero, added, rfl⟩
        · cases applied
  | removeVenue venue =>
      simp only [AdminCall.apply, removeVenue] at applied
      split at applied
      · rename_i venues removed
        cases applied
        exact .inr (.inl ⟨venue, venues, rfl, removed, rfl⟩)
      · cases applied
  | setFallbackSwapRouter newRouter =>
      simp only [AdminCall.apply, setFallbackSwapRouter] at applied
      split at applied
      · cases applied
      · rename_i nonzero
        cases applied
        exact .inr (.inr (.inl ⟨newRouter, rfl, nonzero, rfl⟩))
  | setFallbackQuoter newQuoter =>
      simp only [AdminCall.apply, setFallbackQuoter] at applied
      split at applied
      · cases applied
      · rename_i nonzero
        cases applied
        exact .inr (.inr (.inr (.inl ⟨newQuoter, rfl, nonzero, rfl⟩)))
  | setFallbackFee fee =>
      simp only [AdminCall.apply, setFallbackFee] at applied
      split at applied <;> cases applied
      exact .inr (.inr (.inr (.inr ⟨rfl, rfl, rfl⟩)))
  | setPairFee tokenA tokenB fee =>
      exact .inr (.inr (.inr (.inr (sameVenues_setPairFeeUnchecked applied))))
  | setPairFees tokenA tokenB fees =>
      simp only [AdminCall.apply, setPairFees] at applied
      split at applied
      · exact .inr (.inr (.inr (.inr (sameVenues_setPairFeesLoop applied))))
      · cases applied
  | pause account =>
      simp only [AdminCall.apply, pause] at applied
      split at applied <;> cases applied
      exact .inr (.inr (.inr (.inr ⟨rfl, rfl, rfl⟩)))
  | unpause account =>
      simp only [AdminCall.apply, unpause] at applied
      split at applied <;> cases applied
      exact .inr (.inr (.inr (.inr ⟨rfl, rfl, rfl⟩)))

theorem configured_apply {st st' : RouterStorage} {events : List Event} (h : Configured st)
    (c : AdminCall) (applied : c.apply st = .ok (st', events)) : Configured st' := by
  obtain ⟨venue, venues, rfl, nonzero, added, rfl⟩ | ⟨venue, venues, rfl, removed, rfl⟩ |
    ⟨newRouter, rfl, nonzero, rfl⟩ | ⟨newQuoter, rfl, nonzero, rfl⟩ | same := apply_cases applied
  · refine ⟨h.router, h.quoter, ?_⟩
    intro listed
    rcases (EnumerableSet.mem_add added).mp listed with old | zero
    · exact h.venues old
    · exact nonzero zero.symm
  · refine ⟨h.router, h.quoter, ?_⟩
    intro listed
    exact h.venues ((EnumerableSet.mem_remove removed).mp listed).1
  · exact ⟨nonzero, h.quoter, h.venues⟩
  · exact ⟨h.router, nonzero, h.venues⟩
  · exact same.configured h

theorem Reachable.configured {st : RouterStorage} (h : Reachable st) : Configured st := by
  induction h with
  | deployed h => exact configured_initialize h
  | step _ c ih =>
      exact c.run_induction ih (fun st' events applied => configured_apply ih c applied)

/-- A fresh deployment. -/
def deployedStorage : RouterStorage :=
  match initializeRouter 0xFB 0xFC 0xAD with
  | .ok (st, _) => st
  | .error _ => .blank

theorem deployedStorage_reachable : Reachable deployedStorage :=
  @Reachable.deployed 0xFB 0xFC 0xAD _ _ rfl

end PropAMM
