import Mathlib.Order.Monotone.Defs
import PropAMM.Router.SizedQuotes

/-! # Capacity probing

A usable probe is a size the venue quoted, and tells how that quote compares with
those at the order and at half of it. For a saturating venue this keeps the size
below its capacity, but for orders it fills up to the tolerance.
-/

namespace PropAMM

open Txn SplitPlanner

theorem clampU128_eq_of_ne {out : Nat} (usable : clampU128 out ≠ 0) : clampU128 out = out := by
  unfold clampU128 at usable ⊢
  split
  · rename_i large
    exact absurd (if_pos large) usable
  · rfl

theorem clampU128_eq_zero {out : Nat} (dead : clampU128 out = 0) : out = 0 ∨ maxU128 < out := by
  unfold clampU128 at dead
  split at dead
  · rename_i large
    exact .inr large
  · exact .inl dead

/-- What the branch that returned `fill` knows of the quotes. -/
inductive Probed (ask : Nat → Nat) (p fill : Nat) : Prop
  | whole (size : fill = p)
      (why : p / 2 = 0 ∨ clampU128 (ask (p / 2)) = 0 ∨ 198 * ask (p / 2) ≤ 100 * ask p)
  | half (size : fill = p / 2) (why : clampU128 (ask p) = 0 ∨ ask p ≠ ask (p / 2))
  | below (why : ask fill < ask (p / 2))

/-- A usable result: a size up to `p`, with its quote. -/
structure Usable (ask : Nat → Nat) (p fill out : Nat) : Prop where
  fill_pos : fill ≠ 0
  out_pos : out ≠ 0
  fill_le : fill ≤ p
  quoted : out = ask fill
  out_le : out ≤ maxU128
  probed : Probed ask p fill

section Probes

variable {ask : Nat → Nat}

theorem probeDownBy_usable {ceiling steps size fill out : Nat}
    (result : probeDownBy ask ceiling steps size = (fill, out)) (fill_pos : fill ≠ 0) :
    fill ≤ size ∧ out = ask fill ∧ out ≤ maxU128 ∧ out < ceiling := by
  induction steps generalizing size with
  | zero =>
      cases result
      exact absurd rfl fill_pos
  | succ steps ih =>
      have halved : size / 2 ≤ size := Nat.div_le_self size 2
      unfold probeDownBy at result
      split at result
      · cases result
        exact absurd rfl fill_pos
      · split at result
        · cases result
          exact absurd rfl fill_pos
        · rename_i alive
          split at result
          · rename_i below
            cases result
            exact ⟨halved, rfl, by omega, below⟩
          · obtain ⟨within_half, rest⟩ := ih result
            exact ⟨Nat.le_trans within_half halved, rest⟩

theorem probeBy_usable {p fill out : Nat} (result : probeBy ask p = (fill, out))
    (fill_pos : fill ≠ 0) (out_pos : out ≠ 0) : Usable ask p fill out := by
  have halved : p / 2 ≤ p := Nat.div_le_self p 2
  have full_le := clampU128_le (ask p)
  have half_le := clampU128_le (ask (p / 2))
  simp only [probeBy] at result
  by_cases single : p / 2 = 0
  · rw [if_pos single] at result
    cases result
    exact ⟨fill_pos, out_pos, Nat.le_refl p, clampU128_eq_of_ne out_pos, full_le,
      .whole rfl (.inl single)⟩
  rw [if_neg single] at result
  by_cases dead : clampU128 (ask p) = 0 ∧ clampU128 (ask (p / 2)) = 0
  · rw [if_pos dead] at result
    cases result
    exact absurd rfl fill_pos
  rw [if_neg dead] at result
  by_cases oversized : clampU128 (ask p) = 0
  · rw [if_pos oversized] at result
    cases result
    exact ⟨fill_pos, out_pos, halved, clampU128_eq_of_ne out_pos, half_le,
      .half rfl (.inl oversized)⟩
  rw [if_neg oversized] at result
  have full := clampU128_eq_of_ne oversized
  by_cases empty : clampU128 (ask (p / 2)) = 0
  · rw [if_pos empty] at result
    cases result
    exact ⟨fill_pos, out_pos, Nat.le_refl p, full, full_le, .whole rfl (.inr (.inl empty))⟩
  rw [if_neg empty] at result
  have half := clampU128_eq_of_ne empty
  rw [full, half] at result
  by_cases equal : ask p = ask (p / 2)
  · rw [if_pos equal] at result
    obtain ⟨within_half, quoted, bounded, below⟩ := probeDownBy_usable result fill_pos
    rw [quoted, equal] at below
    exact ⟨fill_pos, out_pos, Nat.le_trans within_half halved, quoted, bounded, .below below⟩
  rw [if_neg equal] at result
  by_cases saturated : ask p * bps < 2 * ask (p / 2) * (bps - saturationToleranceBps)
  · rw [if_pos saturated] at result
    cases result
    exact ⟨fill_pos, out_pos, halved, rfl, half ▸ half_le, .half rfl (.inr equal)⟩
  · rw [if_neg saturated] at result
    cases result
    have band : 198 * ask (p / 2) ≤ 100 * ask p := by
      simp only [bps, saturationToleranceBps] at saturated
      omega
    exact ⟨fill_pos, out_pos, Nat.le_refl p, rfl, full ▸ full_le, .whole rfl (.inr (.inr band))⟩

end Probes

/-! ## Saturating venues -/

/-- No size above `c` is quoted, up to the order. -/
def RevertsAbove (q : Nat → Option Nat) (c p : Nat) : Prop := ∀ n, c < n → n ≤ p → q n = none

/-- Up to the order, a size beyond `c` is quoted as if it were `c`. -/
def Saturates (q : Nat → Option Nat) (g : Nat → Nat) (c p : Nat) : Prop :=
  ∀ n, 1 ≤ n → n ≤ p → q n = some (g (min n c))

/-- A constant price, rounded down. -/
def linearPrice (num den : Nat) (n : Nat) : Nat := num * n / den

theorem linearPrice_mono (num den : Nat) : Monotone (linearPrice num den) := by
  intro a b le
  exact Nat.div_le_div_right (Nat.mul_le_mul_left num le)

section Saturating

variable {q : Nat → Option Nat} {g : Nat → Nat} {c p fill out : Nat}

theorem Usable.some (u : Usable (fun n => (q n).getD 0) p fill out) : q fill = some out := by
  have quoted := u.quoted
  cases answer : q fill with
  | none =>
      simp only [answer, Option.getD_none] at quoted
      exact absurd quoted u.out_pos
  | some n =>
      simp only [answer, Option.getD_some] at quoted
      rw [quoted]

theorem Saturates.ask (h : Saturates q g c p) {n : Nat} (one_le : 1 ≤ n) (le : n ≤ p) :
    (q n).getD 0 = g (min n c) := by
  rw [h n one_le le]
  rfl

/-- Beyond the capacity only the whole order is returned, and only inside the tolerance. -/
theorem Usable.le_capacity (u : Usable (fun n => (q n).getD 0) p fill out) (mono : Monotone g)
    (one_le : 1 ≤ c) (saturates : Saturates q g c p) :
    fill ≤ c ∨ fill = p ∧ 198 * g (min (p / 2) c) ≤ 100 * g (min p c) := by
  have fill_pos := Nat.pos_of_ne_zero u.fill_pos
  have fill_le := u.fill_le
  have out_pos := u.out_pos
  have out_le := u.out_le
  have quoted : out = g (min fill c) := u.quoted.trans (saturates.ask fill_pos fill_le)
  have order : (q p).getD 0 = g (min p c) := saturates.ask (by omega) (Nat.le_refl p)
  cases u.probed with
  | whole size why =>
      subst size
      by_cases single : fill / 2 = 0
      · exact .inl (by omega)
      have halved : (q (fill / 2)).getD 0 = g (min (fill / 2) c) :=
        saturates.ask (by omega) (by omega)
      rw [halved, order] at why
      refine .inr ⟨rfl, ?_⟩
      rcases why with zero | empty | band
      · exact absurd zero single
      · have grows : g (min (fill / 2) c) ≤ g (min fill c) := mono (by omega)
        rcases clampU128_eq_zero empty with zero | large
        · omega
        · omega
      · exact band
  | half size why =>
      have halved : (q (p / 2)).getD 0 = g (min (p / 2) c) := saturates.ask (by omega) (by omega)
      rw [halved, order] at why
      by_cases below : fill ≤ c
      · exact .inl below
      · have same : min p c = min (p / 2) c := by omega
        have flat : g (min p c) = out := by rw [same, ← size, quoted]
        rcases why with oversized | differ
        · rcases clampU128_eq_zero oversized with zero | large
          · omega
          · omega
        · exact absurd (congrArg g same) differ
  | below why =>
      by_cases below : fill ≤ c
      · exact .inl below
      · by_cases single : p / 2 = 0
        · exact .inl (by omega)
        have halved : (q (p / 2)).getD 0 = g (min (p / 2) c) := saturates.ask (by omega) (by omega)
        have here : (q fill).getD 0 = g (min fill c) := saturates.ask fill_pos fill_le
        rw [halved, here] at why
        have ceiling : g (min (p / 2) c) ≤ g (min fill c) := mono (by omega)
        omega

/-- At a constant price the tolerance bounds the excess. -/
theorem Usable.le_linear {num den : Nat} (u : Usable (fun n => (q n).getD 0) p fill out)
    (one_le : 1 ≤ c) (den_pos : 0 < den) (saturates : Saturates q (linearPrice num den) c p) :
    fill ≤ c ∨ 99 * num * (fill - 1) ≤ 100 * num * c + 198 * den := by
  rcases u.le_capacity (linearPrice_mono num den) one_le saturates with fits | ⟨rfl, band⟩
  · exact .inl fits
  by_cases fits : fill ≤ c
  · exact .inl fits
  refine .inr ?_
  have capped : min fill c = c := by omega
  have quoted : out = linearPrice num den c := by
    rw [← capped]
    exact u.quoted.trans (saturates.ask (by omega) (Nat.le_refl fill))
  have out_pos := u.out_pos
  have half_lt : fill / 2 < c := by
    by_contra above
    rw [show min (fill / 2) c = c by omega, capped] at band
    omega
  rw [capped, show min (fill / 2) c = fill / 2 by omega] at band
  have full : den * linearPrice num den c ≤ num * c := Nat.mul_div_le _ _
  have half : num * (fill / 2) < den * (linearPrice num den (fill / 2) + 1) :=
    Nat.lt_mul_div_succ _ den_pos
  have rounded : fill - 1 ≤ 2 * (fill / 2) := by omega
  calc 99 * num * (fill - 1) ≤ 99 * num * (2 * (fill / 2)) := Nat.mul_le_mul_left _ rounded
    _ = 198 * (num * (fill / 2)) := by ring
    _ ≤ 198 * (den * (linearPrice num den (fill / 2) + 1)) :=
      Nat.mul_le_mul_left _ (Nat.le_of_lt half)
    _ = den * (198 * linearPrice num den (fill / 2)) + 198 * den := by ring
    _ ≤ den * (100 * linearPrice num den c) + 198 * den :=
      Nat.add_le_add_right (Nat.mul_le_mul_left _ band) _
    _ = 100 * (den * linearPrice num den c) + 198 * den := by ring
    _ ≤ 100 * (num * c) + 198 * den := Nat.add_le_add_right (Nat.mul_le_mul_left _ full) _
    _ = 100 * num * c + 198 * den := by ring

/-- A constant price within capacity doubles with the size, so it is never saturated. -/
theorem probeBy_linear {num den : Nat} (positive : 1 ≤ p) (fits : p ≤ c)
    (saturates : Saturates q (linearPrice num den) c p) (quoted : 1 ≤ linearPrice num den p)
    (bounded : linearPrice num den p ≤ maxU128) :
    probeBy (fun n => (q n).getD 0) p = (p, linearPrice num den p) := by
  have order : (q p).getD 0 = linearPrice num den p := by
    rw [saturates.ask positive (Nat.le_refl p), Nat.min_eq_left fits]
  simp only [probeBy, order, clampU128_of_le bounded]
  by_cases single : p / 2 = 0
  · rw [if_pos single]
  have halved : (q (p / 2)).getD 0 = linearPrice num den (p / 2) := by
    rw [saturates.ask (by omega) (by omega), Nat.min_eq_left (by omega)]
  have doubles : 2 * linearPrice num den (p / 2) ≤ linearPrice num den p := by
    calc 2 * (num * (p / 2) / den) ≤ 2 * (num * (p / 2)) / den := Nat.mul_div_le_mul_div_assoc _ _ _
      _ ≤ num * p / den := Nat.div_le_div_right (by
          rw [Nat.mul_left_comm]
          exact Nat.mul_le_mul_left num (Nat.mul_div_le p 2))
  have half_bounded : linearPrice num den (p / 2) ≤ maxU128 := by omega
  rw [if_neg single, halved, clampU128_of_le half_bounded, if_neg (by omega), if_neg (by omega)]
  by_cases empty : linearPrice num den (p / 2) = 0
  · rw [if_pos empty]
  rw [if_neg empty, if_neg (by omega), if_neg]
  simp only [bps, saturationToleranceBps]
  omega

end Saturating

theorem returns_probeVenueBy {x : Ctx} {venue tokenIn_ tokenOut_ : Address} {q : Nat → Option Nat}
    (listed : x.storage.isVenue venue) (plain : Extended x venue false)
    (sized : SizedQuotes x venue tokenIn_ tokenOut_ q) (p : Nat) (s : ChainState) :
    Returns (probeVenue x venue tokenIn_ tokenOut_ p) s
      (fun r _ => r = probeBy (fun n => (q n).getD 0) p) := by
  simp only [probeVenue, Returns, wp_ite, wp_bind]
  refine ⟨fun unlisted => absurd listed unlisted, fun _ => ?_⟩
  refine wp_mono plain.returns ?_ (fun _ _ h => h)
  rintro supported s₁ rfl
  refine ⟨fun extended => absurd extended (by decide), fun _ => ?_⟩
  exact returns_probeBy (sized.answers listed) p s₁

/-- A probe never returns a size past the capacity of a venue without the extension,
    up to the tolerance. -/
theorem probe_within_capacity {x : Ctx} {venue tokenIn_ tokenOut_ : Address} {q : Nat → Option Nat}
    {p : Nat} (positive : 1 ≤ p) (listed : x.storage.isWhitelistedVenue venue)
    (plain : Extended x venue false) (sized : SizedQuotes x venue tokenIn_ tokenOut_ q)
    (s : ChainState) :
    Returns (probeVenue x venue tokenIn_ tokenOut_ p) s (fun r _ =>
      (r.1 ≠ 0 → r.2 ≠ 0 →
        1 ≤ r.1 ∧ r.1 ≤ p ∧ q r.1 = some r.2 ∧ r.2 ≤ 2 ^ 128 - 1 ∧
        (∀ c, RevertsAbove q c p → r.1 ≤ c) ∧
        (∀ c g, 1 ≤ c → Monotone g → Saturates q g c p →
          r.1 ≤ c ∨ r.1 = p ∧ 198 * g (min (p / 2) c) ≤ 100 * g (min p c)) ∧
        (∀ c num den, 1 ≤ c → 0 < num → 0 < den → Saturates q (linearPrice num den) c p →
          r.1 ≤ c ∨ 99 * num * (r.1 - 1) ≤ 100 * num * c + 198 * den)) ∧
      (∀ c num den, p ≤ c → 0 < num → 0 < den → Saturates q (linearPrice num den) c p →
        1 ≤ linearPrice num den p → linearPrice num den p ≤ 2 ^ 128 - 1 →
        r = (p, linearPrice num den p))) := by
  refine wp_mono (returns_probeVenueBy (.inl listed) plain sized p s) ?_ (fun _ _ h => h)
  rintro r s' rfl
  constructor
  · intro fill_pos out_pos
    have u := probeBy_usable (Prod.eta _).symm fill_pos out_pos
    refine ⟨Nat.pos_of_ne_zero u.fill_pos, u.fill_le, u.some, u.out_le, ?_, ?_, ?_⟩
    · intro c reverts
      by_contra above
      have quoted := u.some
      rw [reverts _ (Nat.lt_of_not_le above) u.fill_le] at quoted
      cases quoted
    · intro c g one_le mono saturates
      exact u.le_capacity mono one_le saturates
    · intro c num den one_le _ den_pos saturates
      exact u.le_linear one_le den_pos saturates
  · intro c num den fits _ _ saturates quoted small
    exact probeBy_linear positive fits saturates quoted small

theorem Mocks.sizedQuotes (m : Mocks) (honest : ∀ venue, m.stealAmount venue = 0) (x : Ctx)
    (env : x.env = m.env) (venue tokenIn_ tokenOut_ : Address)
    (other : venue ≠ x.storage.fallbackSwapRouter) (foreign : venue ≠ x.self)
    (fits : ∀ amount n, m.quote venue amount = some n → n < 2 ^ 256) :
    SizedQuotes x venue tokenIn_ tokenOut_ (m.quote venue) := by
  refine ⟨fun _ amount => .foreign foreign ?_, fun same => absurd same other⟩
  intro history L
  rw [env]
  simp only [Mocks.env, honest, Nat.not_lt_zero, if_false]
  cases quoted : m.quote venue amount with
  | none => rfl
  | some n =>
      show some (word n).toNat = some n
      rw [word_toNat (fits amount n quoted)]

/-- A venue that fills 70 and keeps what it is given beyond. -/
def ceilingMocks : Mocks := Mocks.plain fun v n => if v = 0xA4 then some (min n 70) else none

def ceilingCtx : Ctx := ceilingMocks.ctx ⟨[0xA4], by decide⟩ 0xCA 0

theorem probe_within_capacity_ceiling :
    Returns (probeVenue ceilingCtx 0xA4 0x11 0x22 100) (.start (.funded 100)) (fun r _ =>
      r.1 ≠ 0 → r.2 ≠ 0 → r.1 ≤ 70 ∨ 99 * 1 * (r.1 - 1) ≤ 100 * 1 * 70 + 198 * 1) := by
  have sized := ceilingMocks.sizedQuotes (fun _ => rfl) ceilingCtx rfl 0xA4 0x11 0x22 (by decide)
    (by decide) (by
    intro amount n quoted
    cases quoted
    exact Nat.lt_of_le_of_lt (Nat.min_le_right amount 70) (by decide))
  have linear : Saturates (ceilingMocks.quote 0xA4) (linearPrice 1 1) 70 100 := by
    intro n _ _
    show some (min n 70) = some (1 * min n 70 / 1)
    rw [Nat.one_mul, Nat.div_one]
  have plain : Extended ceilingCtx 0xA4 false := by
    unfold Extended
    rw [if_neg (by decide)]
    exact fun _ _ => rfl
  have listed : ceilingCtx.storage.isWhitelistedVenue 0xA4 := by decide
  refine wp_mono (probe_within_capacity (by decide : 1 ≤ 100) listed plain sized
    (.start (.funded 100))) ?_ (fun _ _ h => h)
  rintro r s' ⟨usable, _⟩ fill_pos out_pos
  obtain ⟨_, _, _, _, _, _, bound⟩ := usable fill_pos out_pos
  exact bound 70 1 1 (by decide) (by decide) (by decide) linear

end PropAMM
