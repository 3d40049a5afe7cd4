import Mathlib.Data.Sym.Sym2
import PropAMM.Lib.WriteLog
import PropAMM.Router.Deployment

/-! # The fallback fee of a pair

The sorted key of `_pairFee` makes it a map on unordered pairs. Seen that way
every configuration call is a list of writes, so a pair's fee is the one written
last, and the global fee where that is zero or missing.
-/

namespace PropAMM

theorem pairKey_comm (tokenA tokenB : Address) : pairKey tokenA tokenB = pairKey tokenB tokenA := by
  unfold pairKey
  by_cases before : tokenA < tokenB
  · rw [if_pos before, if_neg (BitVec.lt_asymm before)]
  · by_cases after : tokenB < tokenA
    · rw [if_neg before, if_pos after]
    · have same : tokenA = tokenB :=
        BitVec.le_antisymm (BitVec.not_lt.mp after) (BitVec.not_lt.mp before)
      rw [same]

theorem pairKey_eq_iff {tokenA tokenB a b : Address} :
    pairKey tokenA tokenB = pairKey a b ↔ s(tokenA, tokenB) = s(a, b) := by
  have back : ∀ x y : Address, s((pairKey x y).1, (pairKey x y).2) = s(x, y) := by
    intro x y
    unfold pairKey
    split
    · rfl
    · exact Sym2.eq_swap
  constructor
  · intro same
    rw [← back tokenA, ← back a, same]
  · intro same
    rcases Sym2.eq_iff.mp same with ⟨rfl, rfl⟩ | ⟨rfl, rfl⟩
    · rfl
    · exact pairKey_comm _ _

/-- The fee stored for an unordered pair. -/
def RouterStorage.feeOn (st : RouterStorage) : Sym2 Address → Nat :=
  Sym2.lift ⟨st.getPairFee, fun a b => congrArg st.pairFee (pairKey_comm a b)⟩

@[simp] theorem RouterStorage.feeOn_mk (st : RouterStorage) (a b : Address) :
    st.feeOn s(a, b) = st.getPairFee a b := rfl

/-- Every fee is below 100%; a zero one stands for no override. -/
def feeBound : Nat := 1000000

theorem resolvedFee_eq (st : RouterStorage) (a b : Address) :
    st.resolvedFee a b = if st.feeOn s(a, b) = 0 then st.fallbackFee else st.feeOn s(a, b) := rfl

/-! ## What a call writes -/

/-- The entries of a batch, by unordered pair. -/
def entryWrites (entries : List ((Address × Address) × Nat)) : List (Sym2 Address × Nat) :=
  entries.map fun e => (s(e.1.1, e.1.2), e.2)

/-- The fees a configuration call names, in order. -/
def AdminCall.feeWrites : AdminCall → List (Sym2 Address × Nat)
  | setPairFee tokenA tokenB fee => [(s(tokenA, tokenB), fee)]
  | setPairFees tokenA tokenB fees => entryWrites ((tokenA.zip tokenB).zip fees)
  | _ => []

/-- The global fee a configuration call names. -/
def AdminCall.fallbackFee? : AdminCall → Option Nat
  | setFallbackFee fee => some fee
  | _ => none

/-- The stored fees differ by the writes of `log`, each of them valid. -/
structure WritesFees (st st' : RouterStorage) (log : List (Sym2 Address × Nat)) : Prop where
  fees : st'.feeOn = WriteLog.run st.feeOn log
  valid : ∀ w ∈ log, w.2 < feeBound

theorem WritesFees.none {st st' : RouterStorage} (same : st'.pairFee = st.pairFee) :
    WritesFees st st' [] := by
  refine ⟨?_, fun w member => absurd member List.not_mem_nil⟩
  funext k
  induction k with
  | _ a b => exact congrFun same (pairKey a b)

theorem WritesFees.trans {st st' st'' : RouterStorage} {log log' : List (Sym2 Address × Nat)}
    (h : WritesFees st st' log) (h' : WritesFees st' st'' log') :
    WritesFees st st'' (log ++ log') := by
  refine ⟨?_, ?_⟩
  · rw [WriteLog.run_append, ← h.fees, h'.fees]
  · intro w member
    rcases List.mem_append.mp member with first | second
    · exact h.valid w first
    · exact h'.valid w second

section Writes

variable {st st' : RouterStorage} {events : List Event}

theorem setPairFeeUnchecked_ok {tokenA tokenB : Address} {fee : Nat}
    (h : setPairFeeUnchecked st tokenA tokenB fee = .ok (st', events)) :
    WritesFees st st' [(s(tokenA, tokenB), fee)] ∧ st'.fallbackFee = st.fallbackFee := by
  unfold setPairFeeUnchecked at h
  split at h
  · rename_i valid
    cases h
    refine ⟨⟨?_, ?_⟩, rfl⟩
    · funext k
      induction k with
      | _ a b =>
          rw [WriteLog.run_cons, WriteLog.run_nil, Function.update_apply]
          simp only [RouterStorage.feeOn_mk, RouterStorage.getPairFee, pairKey_eq_iff]
    · intro w member
      rw [List.mem_singleton.mp member]
      exact valid
  · cases h

theorem setPairFeesLoop_ok {entries : List ((Address × Address) × Nat)}
    (h : setPairFeesLoop st entries = .ok (st', events)) :
    WritesFees st st' (entryWrites entries) ∧ st'.fallbackFee = st.fallbackFee := by
  induction entries generalizing st events with
  | nil =>
      cases h
      exact ⟨.none rfl, rfl⟩
  | cons entry rest ih =>
      obtain ⟨⟨st₁, e₁⟩, first, h⟩ := bind_ok h
      obtain ⟨⟨st₂, e₂⟩, second, h⟩ := bind_ok h
      cases h
      obtain ⟨writes, same⟩ := setPairFeeUnchecked_ok first
      obtain ⟨writes', same'⟩ := ih second
      exact ⟨writes.trans writes', same'.trans same⟩

/-- A call that names no global fee keeps it. -/
theorem fees_unset {c : AdminCall} (writes : WritesFees st st' c.feeWrites)
    (same : st'.fallbackFee = st.fallbackFee) (unset : c.fallbackFee? = none) :
    WritesFees st st' c.feeWrites ∧ st'.fallbackFee = c.fallbackFee?.getD st.fallbackFee ∧
      ∀ fee ∈ c.fallbackFee?, fee ≠ 0 ∧ fee < feeBound := by
  rw [unset]
  exact ⟨writes, same, fun _ set => absurd set (Option.not_mem_none _)⟩

/-- A successful call makes the writes it names, and sets the global fee it names; all valid. -/
theorem apply_fees {c : AdminCall} (applied : c.apply st = .ok (st', events)) :
    WritesFees st st' c.feeWrites ∧ st'.fallbackFee = c.fallbackFee?.getD st.fallbackFee ∧
      ∀ fee ∈ c.fallbackFee?, fee ≠ 0 ∧ fee < feeBound := by
  cases c with
  | setPairFee tokenA tokenB fee =>
      obtain ⟨writes, same⟩ := setPairFeeUnchecked_ok applied
      exact fees_unset writes same rfl
  | setPairFees tokenA tokenB fees =>
      simp only [AdminCall.apply, setPairFees] at applied
      split at applied
      · obtain ⟨writes, same⟩ := setPairFeesLoop_ok applied
        exact fees_unset writes same rfl
      · cases applied
  | setFallbackFee fee =>
      simp only [AdminCall.apply, setFallbackFee] at applied
      split at applied
      · rename_i valid
        cases applied
        refine ⟨.none rfl, rfl, ?_⟩
        intro named set
        cases set
        exact valid
      · cases applied
  | addVenue venue =>
      simp only [AdminCall.apply, addVenue] at applied
      split at applied
      · cases applied
      · split at applied <;> cases applied
        exact fees_unset (.none rfl) rfl rfl
  | removeVenue venue =>
      simp only [AdminCall.apply, removeVenue] at applied
      split at applied <;> cases applied
      exact fees_unset (.none rfl) rfl rfl
  | setFallbackSwapRouter newRouter =>
      simp only [AdminCall.apply, setFallbackSwapRouter] at applied
      split at applied <;> cases applied
      exact fees_unset (.none rfl) rfl rfl
  | setFallbackQuoter newQuoter =>
      simp only [AdminCall.apply, setFallbackQuoter] at applied
      split at applied <;> cases applied
      exact fees_unset (.none rfl) rfl rfl
  | pause account =>
      simp only [AdminCall.apply, pause] at applied
      split at applied <;> cases applied
      exact fees_unset (.none rfl) rfl rfl
  | unpause account =>
      simp only [AdminCall.apply, unpause] at applied
      split at applied <;> cases applied
      exact fees_unset (.none rfl) rfl rfl

end Writes

/-! ## Runs -/

/-- The storage after a sequence of calls, the failed ones changing nothing. -/
def AdminCall.runAll (st : RouterStorage) (calls : List AdminCall) : RouterStorage :=
  calls.foldl (fun st c => c.run st) st

/-- Those calls that succeed. -/
def succeeded (st : RouterStorage) : List AdminCall → List AdminCall
  | [] => []
  | c :: calls =>
      match c.apply st with
      | .ok (st', _) => c :: succeeded st' calls
      | .error _ => succeeded st calls

/-- The pair fees they write. -/
def committed (st : RouterStorage) (calls : List AdminCall) : List (Sym2 Address × Nat) :=
  (succeeded st calls).flatMap AdminCall.feeWrites

/-- The global fees they set. -/
def fallbackFeesSet (st : RouterStorage) (calls : List AdminCall) : List Nat :=
  (succeeded st calls).filterMap AdminCall.fallbackFee?

/-- The writes of `_seedDefaultPairFees`. -/
def seeded : List (Sym2 Address × Nat) :=
  [(s(usdt, usdc), 100), (s(usdt, weth), 500), (s(usdc, weth), 500)]

/-- No fee in use is zero or past the bound. -/
structure FeesBounded (st : RouterStorage) : Prop where
  pairs : ∀ pair, st.feeOn pair < feeBound
  positive : 0 < st.fallbackFee
  bounded : st.fallbackFee < feeBound

theorem FeesBounded.of_writes {st st' : RouterStorage} {log : List (Sym2 Address × Nat)}
    (h : FeesBounded st) (writes : WritesFees st st' log) (positive : 0 < st'.fallbackFee)
    (bounded : st'.fallbackFee < feeBound) : FeesBounded st' := by
  refine ⟨?_, positive, bounded⟩
  intro pair
  rw [writes.fees]
  exact WriteLog.run_induction (P := fun fee => fee < feeBound) h.pairs writes.valid pair

theorem seedDefaultPairFees_ok {st st' : RouterStorage} {events : List Event}
    (h : seedDefaultPairFees st = .ok (st', events)) :
    WritesFees st st' seeded ∧ st'.fallbackFee = st.fallbackFee := by
  obtain ⟨⟨st₁, e₁⟩, first, h⟩ := bind_ok h
  obtain ⟨⟨st₂, e₂⟩, second, h⟩ := bind_ok h
  obtain ⟨⟨st₃, e₃⟩, third, h⟩ := bind_ok h
  cases h
  obtain ⟨stables, same₁⟩ := setPairFeeUnchecked_ok first
  obtain ⟨tether, same₂⟩ := setPairFeeUnchecked_ok second
  obtain ⟨circle, same₃⟩ := setPairFeeUnchecked_ok third
  exact ⟨(stables.trans tether).trans circle, same₃.trans (same₂.trans same₁)⟩

theorem initialize_fees {fallbackSwapRouter fallbackQuoter authority : Address} {st : RouterStorage}
    {events : List Event}
    (h : initializeRouter fallbackSwapRouter fallbackQuoter authority = .ok (st, events)) :
    st.feeOn = WriteLog.run (fun _ => 0) seeded ∧ st.fallbackFee = 3000 ∧ FeesBounded st := by
  obtain ⟨writes, same⟩ := seedDefaultPairFees_ok (initializeRouter_ok h).2.2
  have blank : RouterStorage.feeOn
      { RouterStorage.blank with fallbackSwapRouter, fallbackQuoter, fallbackFee := 3000 } =
        fun _ => 0 := by
    funext k
    induction k with
    | _ a b => rfl
  have fees : st.feeOn = WriteLog.run (fun _ => 0) seeded := by rw [writes.fees, blank]
  refine ⟨fees, same, ?_, ?_, ?_⟩
  · intro pair
    rw [fees]
    exact WriteLog.run_induction (P := fun fee => fee < feeBound)
      (fun _ => Nat.succ_pos _) writes.valid pair
  · rw [same]
    exact Nat.succ_pos _
  · rw [same]
    exact (by decide : 3000 < feeBound)

theorem FeesBounded.run {st : RouterStorage} (h : FeesBounded st) (c : AdminCall) :
    FeesBounded (c.run st) := by
  apply c.run_induction h
  intro st' events applied
  obtain ⟨writes, set, valid⟩ := apply_fees applied
  cases named : c.fallbackFee? with
  | none =>
      rw [named] at set
      exact h.of_writes writes (by rw [set]; exact h.positive) (by rw [set]; exact h.bounded)
  | some fee =>
      obtain ⟨nonzero, small⟩ := valid fee named
      rw [named] at set
      exact h.of_writes writes (by rw [set]; exact Nat.pos_of_ne_zero nonzero)
        (by rw [set]; exact small)

theorem FeesBounded.runAll {st : RouterStorage} (h : FeesBounded st) (calls : List AdminCall) :
    FeesBounded (AdminCall.runAll st calls) := by
  induction calls generalizing st with
  | nil => exact h
  | cons c calls ih => exact ih (h.run c)

theorem AdminCall.run_ok {st st' : RouterStorage} {c : AdminCall} {events : List Event}
    (applied : c.apply st = .ok (st', events)) : c.run st = st' := by
  simp only [AdminCall.run, applied]

theorem AdminCall.run_error {st : RouterStorage} {c : AdminCall} {e : RouterError}
    (refused : c.apply st = .error e) : c.run st = st := by
  simp only [AdminCall.run, refused]

theorem feeOn_runAll (st : RouterStorage) (calls : List AdminCall) :
    (AdminCall.runAll st calls).feeOn = WriteLog.run st.feeOn (committed st calls) := by
  induction calls generalizing st with
  | nil => rfl
  | cons c calls ih =>
      have rest : AdminCall.runAll st (c :: calls) = AdminCall.runAll (c.run st) calls := rfl
      rw [rest, ih]
      unfold committed
      rw [succeeded]
      cases applied : c.apply st with
      | ok r =>
          obtain ⟨st', events⟩ := r
          dsimp only
          rw [AdminCall.run_ok applied, List.flatMap_cons, WriteLog.run_append,
            (apply_fees applied).1.fees]
      | error e => rw [AdminCall.run_error applied]

theorem fallbackFee_runAll (st : RouterStorage) (calls : List AdminCall) :
    (AdminCall.runAll st calls).fallbackFee =
      (fallbackFeesSet st calls).getLast?.getD st.fallbackFee := by
  induction calls generalizing st with
  | nil => rfl
  | cons c calls ih =>
      have rest : AdminCall.runAll st (c :: calls) = AdminCall.runAll (c.run st) calls := rfl
      rw [rest, ih]
      unfold fallbackFeesSet
      rw [succeeded]
      cases applied : c.apply st with
      | ok r =>
          obtain ⟨st', events⟩ := r
          dsimp only
          rw [AdminCall.run_ok applied, (apply_fees applied).2.1, List.filterMap_cons]
          cases c.fallbackFee? with
          | none => rfl
          | some fee =>
              rw [Option.getD_some, List.getLast?_cons]
              rfl
      | error e => rw [AdminCall.run_error applied]

theorem Reachable.runAll {st : RouterStorage} (h : Reachable st) (calls : List AdminCall) :
    Reachable (AdminCall.runAll st calls) := by
  induction calls generalizing st with
  | nil => exact h
  | cons c calls ih => exact ih (h.step c)

theorem FeesBounded.resolvedFee {st : RouterStorage} (h : FeesBounded st) (a b : Address) :
    0 < st.resolvedFee a b ∧ st.resolvedFee a b < feeBound := by
  rw [resolvedFee_eq]
  split
  · exact ⟨h.positive, h.bounded⟩
  · rename_i set
    exact ⟨Nat.pos_of_ne_zero set, h.pairs _⟩

/-! ## Other pairs and batches -/

/-- A call that neither names the pair nor sets the global fee leaves the pair's fee. -/
theorem resolvedFee_run (st : RouterStorage) {c : AdminCall} {a b : Address}
    (other : ∀ w ∈ c.feeWrites, w.1 ≠ s(a, b)) (pairwise : ∀ fee, c ≠ .setFallbackFee fee) :
    (c.run st).resolvedFee a b = st.resolvedFee a b := by
  unfold AdminCall.run
  cases applied : c.apply st with
  | error e => rfl
  | ok r =>
      obtain ⟨writes, set, _⟩ := apply_fees applied
      have unnamed : c.fallbackFee? = none := by
        cases c with
        | setFallbackFee fee => exact absurd rfl (pairwise fee)
        | _ => rfl
      rw [unnamed, Option.getD_none] at set
      rw [resolvedFee_eq, resolvedFee_eq, set, writes.fees, WriteLog.run_of_forall_ne other]

/-- The calls a batch stands for. -/
def singleCalls (entries : List ((Address × Address) × Nat)) : List AdminCall :=
  entries.map fun e => .setPairFee e.1.1 e.1.2 e.2

theorem setPairFeesLoop_valid {st : RouterStorage} {entries : List ((Address × Address) × Nat)}
    (valid : ∀ e ∈ entries, e.2 < feeBound) :
    ∃ events, setPairFeesLoop st entries = .ok (AdminCall.runAll st (singleCalls entries),
      events) := by
  induction entries generalizing st with
  | nil => exact ⟨[], rfl⟩
  | cons entry rest ih =>
      have here : entry.2 < 1000000 := valid entry List.mem_cons_self
      obtain ⟨st₁, e₁, first⟩ : ∃ st₁ e₁,
          setPairFeeUnchecked st entry.1.1 entry.1.2 entry.2 = .ok (st₁, e₁) := by
        unfold setPairFeeUnchecked
        rw [if_pos here]
        exact ⟨_, _, rfl⟩
      have single : (AdminCall.setPairFee entry.1.1 entry.1.2 entry.2).run st = st₁ := by
        simp only [AdminCall.run, AdminCall.apply, setPairFee, first]
      obtain ⟨e₂, second⟩ := @ih st₁ fun e member => valid e (List.mem_cons_of_mem entry member)
      refine ⟨e₁ ++ e₂, ?_⟩
      have unfolded : AdminCall.runAll st (singleCalls (entry :: rest)) =
          AdminCall.runAll ((AdminCall.setPairFee entry.1.1 entry.1.2 entry.2).run st)
            (singleCalls rest) := rfl
      rw [unfolded, single]
      simp only [setPairFeesLoop, first, bind, Except.bind, second]
      rfl

/-- One invalid entry fails the whole batch. -/
theorem setPairFees_run (st : RouterStorage) (tokenA tokenB : List Address) (fees : List Nat) :
    (AdminCall.setPairFees tokenA tokenB fees).run st =
      if tokenA.length = tokenB.length ∧ tokenB.length = fees.length ∧
        ∀ fee ∈ fees, fee < feeBound then
        AdminCall.runAll st (singleCalls ((tokenA.zip tokenB).zip fees))
      else st := by
  by_cases lengths : tokenA.length = tokenB.length ∧ tokenB.length = fees.length
  · have batch : (AdminCall.setPairFees tokenA tokenB fees).apply st =
        setPairFeesLoop st ((tokenA.zip tokenB).zip fees) := if_pos lengths
    have pairs : fees.length ≤ (tokenA.zip tokenB).length := by
      rw [List.length_zip]
      omega
    by_cases valid : ∀ fee ∈ fees, fee < feeBound
    · rw [if_pos ⟨lengths.1, lengths.2, valid⟩]
      obtain ⟨events, ok⟩ := @setPairFeesLoop_valid st ((tokenA.zip tokenB).zip fees)
        fun e member => valid e.2 (List.of_mem_zip (a := e.1) (b := e.2) member).2
      simp only [AdminCall.run, batch, ok]
    · rw [if_neg fun all => valid all.2.2]
      unfold AdminCall.run
      cases applied : (AdminCall.setPairFees tokenA tokenB fees).apply st with
      | error e => rfl
      | ok r =>
          refine absurd (fun fee member => ?_) valid
          rw [batch] at applied
          have writes := (setPairFeesLoop_ok applied).1.valid
          rw [← List.map_snd_zip pairs] at member
          obtain ⟨e, entry, rfl⟩ := List.mem_map.mp member
          exact writes (s(e.1.1, e.1.2), e.2) (List.mem_map.mpr ⟨e, entry, rfl⟩)
  · rw [if_neg fun all => lengths ⟨all.1, all.2.1⟩]
    have rejected : (AdminCall.setPairFees tokenA tokenB fees).apply st =
        .error .arrayLengthMismatch :=
      if_neg lengths
    simp only [AdminCall.run, rejected]

/-- After `initialize` and any calls, a pair's fee is symmetric, the one last written
    unless that is missing or zero, valid, untouched by calls about other pairs, and
    batches write their entries one by one or not at all. The global fee is the one last
    set, or 0.3%. -/
theorem pair_fees {fallbackSwapRouter fallbackQuoter authority : Address} {st : RouterStorage}
    {events : List Event}
    (deployed : initializeRouter fallbackSwapRouter fallbackQuoter authority = .ok (st, events))
    (calls : List AdminCall) :
    let now := AdminCall.runAll st calls
    (∀ a b, now.resolvedFee a b = now.resolvedFee b a) ∧
    (∀ a b fee, WriteLog.last (seeded ++ committed st calls) s(a, b) = some fee → fee ≠ 0 →
      now.resolvedFee a b = fee) ∧
    (∀ a b, (∀ fee, WriteLog.last (seeded ++ committed st calls) s(a, b) = some fee → fee = 0) →
      now.resolvedFee a b = now.fallbackFee) ∧
    (∀ a b, 0 < now.resolvedFee a b ∧ now.resolvedFee a b < 1000000) ∧
    (∀ (c : AdminCall) a b, (∀ w ∈ c.feeWrites, w.1 ≠ s(a, b)) → (∀ fee, c ≠ .setFallbackFee fee) →
      (c.run now).resolvedFee a b = now.resolvedFee a b) ∧
    (∀ tokenA tokenB fees, (AdminCall.setPairFees tokenA tokenB fees).run now =
      if tokenA.length = tokenB.length ∧ tokenB.length = fees.length ∧
        ∀ fee ∈ fees, fee < 1000000 then
        AdminCall.runAll now (singleCalls ((tokenA.zip tokenB).zip fees))
      else now) ∧
    (now.fallbackSwapRouter ≠ 0 ∧ now.fallbackQuoter ≠ 0 ∧ ¬ now.isWhitelistedVenue 0) ∧
    now.fallbackFee = (fallbackFeesSet st calls).getLast?.getD 3000 := by
  intro now
  obtain ⟨start, default, bounded⟩ := initialize_fees deployed
  have fees : now.feeOn = WriteLog.run (fun _ => 0) (seeded ++ committed st calls) := by
    rw [WriteLog.run_append, ← start]
    exact feeOn_runAll st calls
  have configured : Configured now := ((Reachable.deployed deployed).runAll calls).configured
  refine ⟨?_, ?_, ?_, (bounded.runAll calls).resolvedFee, ?_, setPairFees_run now,
    ⟨configured.router, configured.quoter, configured.venues⟩, ?_⟩
  · intro a b
    rw [resolvedFee_eq, resolvedFee_eq, Sym2.eq_swap]
  · intro a b fee written nonzero
    rw [resolvedFee_eq, fees, WriteLog.run_eq, written]
    exact if_neg nonzero
  · intro a b cleared
    rw [resolvedFee_eq, fees, WriteLog.run_eq]
    cases written : WriteLog.last (seeded ++ committed st calls) s(a, b) with
    | none => rfl
    | some fee => exact if_pos (cleared fee written)
  · intro c a b other pairwise
    exact resolvedFee_run now other pairwise
  · rw [← default]
    exact fallbackFee_runAll st calls

/-- A deployment whose tether/ether fee is cleared in a batch. -/
theorem pair_fees_deployed :
    let now := AdminCall.runAll deployedStorage [.setPairFees [weth, usdt] [usdt, usdc] [0, 200]]
    now.resolvedFee usdt weth = now.fallbackFee :=
  (@pair_fees 0xFB 0xFC 0xAD _ _ rfl
    [.setPairFees [weth, usdt] [usdt, usdc] [0, 200]]).2.2.1 usdt weth (by
      intro fee written
      have cleared : WriteLog.last (seeded ++ committed deployedStorage
          [.setPairFees [weth, usdt] [usdt, usdc] [0, 200]]) s(usdt, weth) = some 0 := by decide
      rw [show fee = 0 from Option.some.inj (written.symm.trans cleared)])

end PropAMM
