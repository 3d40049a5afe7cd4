import Mathlib.Algebra.BigOperators.Group.List.Basic
import Mathlib.Algebra.Order.Group.Int
import Mathlib.Algebra.Order.Monoid.Defs

/-! # Quantities along a labelled run

A run is a list of labels with the states they lead through. A quantity that
every label moves by a known amount is moved by the run by the sum of these
amounts; bounded instead of known, it is bounded by the sum.
-/

namespace Flow

inductive Path {ι σ : Type*} (step : ι → σ → σ → Prop) : List ι → σ → σ → Prop
  | nil {s} : Path step [] s s
  | cons {i labels s t u} (head : step i s t) (tail : Path step labels t u) : Path
      step (i :: labels) s u

variable {ι σ M : Type*} {step : ι → σ → σ → Prop} {labels labels' : List ι} {s t u : σ}

theorem Path.single {i : ι} (h : step i s t) : Path step [i] s t := .cons h .nil

theorem Path.append (h : Path step labels s t) (h' : Path step labels' t u) :
    Path step (labels ++ labels') s u := by
  induction h with
  | nil => exact h'
  | cons head _ ih => exact .cons head (ih h')

/-- A property every step keeps. -/
theorem Path.keeps (h : Path step labels s t) {P : σ → Prop}
    (kept : ∀ i ∈ labels, ∀ {a b}, step i a b → P a → P b) (start : P s) : P t := by
  induction h with
  | nil => exact start
  | cons head _ ih =>
      have next := kept _ List.mem_cons_self head start
      exact ih (fun i member => kept i (List.mem_cons_of_mem _ member)) next

/-- A quantity every step moves by exactly `δ`. -/
theorem Path.follow_eq [AddMonoid M] (h : Path step labels s t) {φ : σ → M} {δ : ι → M}
    (law : ∀ i ∈ labels, ∀ {a b}, step i a b → φ b = φ a + δ i) :
    φ t = φ s + (labels.map δ).sum := by
  induction h with
  | nil => simp
  | cons head _ ih =>
      have first := law _ List.mem_cons_self head
      have rest := ih fun i member => law i (List.mem_cons_of_mem _ member)
      rw [rest, first, List.map_cons, List.sum_cons, add_assoc]

/-- A quantity every step moves by at least `δ`. -/
theorem Path.follow_le [AddMonoid M] [PartialOrder M] [AddRightMono M] (h : Path step labels s t)
    {φ : σ → M} {δ : ι → M} (law : ∀ i ∈ labels, ∀ {a b}, step i a b → φ a + δ i ≤ φ b) :
    φ s + (labels.map δ).sum ≤ φ t := by
  induction h with
  | nil => simp
  | @cons i rest s t u head tail ih =>
      have first := law i List.mem_cons_self head
      have later := ih fun j member => law j (List.mem_cons_of_mem _ member)
      rw [List.map_cons, List.sum_cons]
      calc φ s + (δ i + (rest.map δ).sum) = φ s + δ i + (rest.map δ).sum := (add_assoc ..).symm
        _ ≤ φ t + (rest.map δ).sum := add_le_add_left first _
        _ ≤ φ u := later

end Flow
