import Mathlib.Data.List.Induction
import Mathlib.Data.List.Nodup
import Mathlib.Logic.Function.Basic

/-! # Write logs

A map read through the writes made to it, oldest first: a key holds what was
last written to it, or what it held before the first write.
-/

namespace WriteLog

variable {κ ν : Type} [DecidableEq κ]

/-- The map after the writes. -/
def run (m : κ → ν) (log : List (κ × ν)) : κ → ν :=
  log.foldl (fun m w => Function.update m w.1 w.2) m

/-- The last value written to `k`. -/
def last (log : List (κ × ν)) (k : κ) : Option ν :=
  (log.reverse.find? fun w => w.1 = k).map Prod.snd

@[simp] theorem run_nil (m : κ → ν) : run m [] = m := rfl

theorem run_cons (m : κ → ν) (w : κ × ν) (log : List (κ × ν)) :
    run m (w :: log) = run (Function.update m w.1 w.2) log := rfl

theorem run_append (m : κ → ν) (log log' : List (κ × ν)) :
    run m (log ++ log') = run (run m log) log' :=
  List.foldl_append

theorem last_concat (log : List (κ × ν)) (w : κ × ν) (k : κ) :
    last (log ++ [w]) k = if w.1 = k then some w.2 else last log k := by
  unfold last
  rw [List.reverse_append, List.reverse_singleton, List.singleton_append]
  by_cases same : w.1 = k
  · rw [List.find?_cons_of_pos (by simpa using same), if_pos same]
    rfl
  · rw [List.find?_cons_of_neg (by simpa using same), if_neg same]

@[simp] theorem last_nil (k : κ) : last ([] : List (κ × ν)) k = none := rfl

theorem last_append (log log' : List (κ × ν)) (k : κ) :
    last (log ++ log') k = (last log' k).or (last log k) := by
  unfold last
  rw [List.reverse_append, List.find?_append]
  cases log'.reverse.find? fun w => w.1 = k <;> rfl

/-- Keys moved along an injection. -/
theorem last_map {κ' : Type} [DecidableEq κ'] {g : κ → κ'} (inj : Function.Injective g)
    (log : List (κ × ν)) (k : κ) : last (log.map fun w => (g w.1, w.2)) (g k) = last log k := by
  induction log using List.reverseRecOn with
  | nil => rfl
  | append_singleton log w ih =>
      rw [List.map_append, List.map_singleton, last_concat, last_concat, ih]
      by_cases same : w.1 = k
      · rw [if_pos same, if_pos (congrArg g same)]
      · rw [if_neg same, if_neg fun mapped => same (inj mapped)]

theorem last_map_snd {ν' : Type} (f : κ → ν → ν') (log : List (κ × ν)) (k : κ) :
    last (log.map fun w => (w.1, f w.1 w.2)) k = (last log k).map (f k) := by
  induction log using List.reverseRecOn with
  | nil => rfl
  | append_singleton log w ih =>
      rw [List.map_append, List.map_singleton, last_concat, last_concat, ih]
      split
      · rename_i same
        rw [Option.map_some, same]
      · rfl

theorem last_eq_none {log : List (κ × ν)} {k : κ} (other : ∀ w ∈ log, w.1 ≠ k) :
    last log k = none := by
  unfold last
  rw [List.find?_eq_none.mpr]
  · rfl
  · intro w member
    simpa using other w (List.mem_reverse.mp member)

theorem mem_of_last {log : List (κ × ν)} {k : κ} {v : ν} (written : last log k = some v) :
    (k, v) ∈ log := by
  unfold last at written
  obtain ⟨w, found, rfl⟩ := Option.map_eq_some_iff.mp written
  have key : w.1 = k := by simpa using List.find?_some found
  rw [← key]
  exact List.mem_reverse.mp (List.mem_of_find?_eq_some found)

/-- With every key written once, the last value is the only one. -/
theorem last_eq_some_iff {log : List (κ × ν)} (once : (log.map Prod.fst).Nodup) {k : κ} {v : ν} :
    last log k = some v ↔ (k, v) ∈ log := by
  refine ⟨mem_of_last, fun member => ?_⟩
  cases written : last log k with
  | none =>
      unfold last at written
      have absent := List.find?_eq_none.mp (Option.map_eq_none_iff.mp written) (k, v)
        (List.mem_reverse.mpr member)
      simp at absent
  | some w =>
      have pair := List.inj_on_of_nodup_map once (mem_of_last written) member rfl
      exact congrArg (fun w => some w.2) pair

theorem run_eq (m : κ → ν) (log : List (κ × ν)) (k : κ) :
    run m log k = (last log k).getD (m k) := by
  induction log using List.reverseRecOn with
  | nil => rfl
  | append_singleton log w ih =>
      rw [run_append, run_cons, run_nil, last_concat]
      by_cases same : w.1 = k
      · rw [if_pos same, ← same, Function.update_self]
        rfl
      · rw [if_neg same, Function.update_of_ne (Ne.symm same), ih]

/-- A key no write names keeps its value. -/
theorem run_of_forall_ne {m : κ → ν} {log : List (κ × ν)} {k : κ} (other : ∀ w ∈ log, w.1 ≠ k) :
    run m log k = m k := by
  induction log generalizing m with
  | nil => rfl
  | cons w log ih =>
      have here : w.1 ≠ k := other w List.mem_cons_self
      rw [run_cons, ih fun v member => other v (List.mem_cons_of_mem w member),
        Function.update_of_ne here.symm]

/-- What holds of all values before and of all values written holds after. -/
theorem run_induction {P : ν → Prop} {m : κ → ν} {log : List (κ × ν)} (before : ∀ k, P (m k))
    (written : ∀ w ∈ log, P w.2) (k : κ) : P (run m log k) := by
  induction log generalizing m with
  | nil => exact before k
  | cons w log ih =>
      rw [run_cons]
      apply ih
      · intro k
        by_cases same : k = w.1
        · rw [same, Function.update_self]
          exact written w List.mem_cons_self
        · rw [Function.update_of_ne same]
          exact before k
      · intro v member
        exact written v (List.mem_cons_of_mem w member)

end WriteLog
