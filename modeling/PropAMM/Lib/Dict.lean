import PropAMM.Lib.Keyed
import PropAMM.Lib.WriteLog

/-! # Dictionaries

A finite map as the list of its entries, in the order in which the keys were
first inserted. A hash map is one whose entries are visited in any order: a
permutation of them. Merging a nested map into another is a list of writes, so
what it leaves is read through `WriteLog.last`.
-/

/-- Each key stands once. -/
structure Dict (κ ν : Type) where
  entries : List (κ × ν)
  nodup : (entries.map Prod.fst).Nodup
  deriving DecidableEq

namespace Dict

variable {κ ν : Type} [DecidableEq κ]

/-- Overwrite the key's entry in place, or append one. -/
def upsert (k : κ) (v : ν) : List (κ × ν) → List (κ × ν)
  | [] => [(k, v)]
  | e :: rest => if e.1 = k then (k, v) :: rest else e :: upsert k v rest

/-- An update in place that forgets the old value. -/
theorem upsert_eq (k : κ) (v : ν) (l : List (κ × ν)) :
    upsert k v l = Keyed.updateAt Prod.fst k (k, v) (fun _ => (k, v)) l := by
  induction l with
  | nil => rfl
  | cons e rest ih => rw [upsert, Keyed.updateAt, ih]

theorem nodup_upsert (k : κ) (v : ν) {l : List (κ × ν)} (once : (l.map Prod.fst).Nodup) :
    ((upsert k v l).map Prod.fst).Nodup := by
  rw [upsert_eq]
  apply Keyed.nodup_updateAt
  · rfl
  · intro e named
    rfl
  · exact once

def empty : Dict κ ν := ⟨[], List.nodup_nil⟩

def get? (d : Dict κ ν) (k : κ) : Option ν := WriteLog.last d.entries k

def insert (d : Dict κ ν) (k : κ) (v : ν) : Dict κ ν where
  entries := upsert k v d.entries
  nodup := nodup_upsert k v d.nodup

/-- `extend` / `update` / spread: insert the entries in turn. -/
def insertAll (d : Dict κ ν) (l : List (κ × ν)) : Dict κ ν :=
  l.foldl (fun d e => d.insert e.1 e.2) d

@[simp] theorem get?_empty (k : κ) : (empty : Dict κ ν).get? k = none := rfl

theorem mem_entries {d : Dict κ ν} {k : κ} {v : ν} : (k, v) ∈ d.entries ↔ d.get? k = some v :=
  (WriteLog.last_eq_some_iff d.nodup).symm

theorem mem_upsert {k k' : κ} {v v' : ν} {l : List (κ × ν)} (once : (l.map Prod.fst).Nodup) :
    (k', v') ∈ upsert k v l ↔ if k = k' then v' = v else (k', v') ∈ l := by
  have found : ∀ {m : List (κ × ν)}, (m.map Prod.fst).Nodup →
      (Keyed.at? Prod.fst m k' = some (k', v') ↔ (k', v') ∈ m) := fun once_m =>
    (Keyed.at?_eq_some_iff once_m).trans (and_iff_left rfl)
  have written : Keyed.at? Prod.fst (upsert k v l) k' = if k = k' then some (k, v)
      else Keyed.at? Prod.fst l k' := by
    rw [upsert_eq]
    apply Keyed.at?_updateAt
    · rfl
    · intro e named
      rfl
  rw [← found (nodup_upsert k v once), written]
  split
  · rename_i same
    simp [same, eq_comm]
  · exact found once

theorem get?_insert (d : Dict κ ν) (k : κ) (v : ν) (k' : κ) :
    (d.insert k v).get? k' = if k = k' then some v else d.get? k' := by
  apply Option.ext
  intro w
  rw [← mem_entries]
  show (k', w) ∈ upsert k v d.entries ↔ _
  rw [mem_upsert d.nodup]
  split
  · rw [Option.some_inj, eq_comm]
  · exact mem_entries

theorem get?_insertAll (d : Dict κ ν) (l : List (κ × ν)) (k : κ) :
    (d.insertAll l).get? k = (WriteLog.last l k).or (d.get? k) := by
  induction l using List.reverseRecOn with
  | nil => rfl
  | append_singleton l e ih =>
      have step : d.insertAll (l ++ [e]) = (d.insertAll l).insert e.1 e.2 := List.foldl_concat ..
      rw [step, get?_insert, ih, WriteLog.last_concat]
      split <;> rfl

/-- `d[k] = f(d.get(k, e))` -/
theorem entries_update (d : Dict κ ν) (k : κ) (e : ν) (f : ν → ν) :
    (d.insert k (f ((d.get? k).getD e))).entries =
      Keyed.updateAt Prod.fst k (k, e) (fun entry => (entry.1, f entry.2)) d.entries := by
  have updated : ∀ {l : List (κ × ν)}, (l.map Prod.fst).Nodup →
      upsert k (f ((WriteLog.last l k).getD e)) l =
        Keyed.updateAt Prod.fst k (k, e) (fun entry => (entry.1, f entry.2)) l := by
    intro l once
    induction l with
    | nil => rfl
    | cons entry rest ih =>
        obtain ⟨fresh, later⟩ := List.nodup_cons.mp once
        rw [upsert, Keyed.updateAt]
        by_cases here : entry.1 = k
        · subst here
          have last : WriteLog.last (entry :: rest) entry.1 = some entry.2 :=
            (WriteLog.last_eq_some_iff once).mpr List.mem_cons_self
          rw [if_pos rfl, if_pos rfl, last]
          rfl
        · have skip : WriteLog.last (entry :: rest) k = WriteLog.last rest k := by
            apply Option.ext
            intro v
            rw [WriteLog.last_eq_some_iff once, WriteLog.last_eq_some_iff later, List.mem_cons]
            constructor
            · rintro (same | member)
              · exact absurd (congrArg Prod.fst same).symm here
              · exact member
            · exact .inr
          rw [if_neg here, if_neg here, skip, ih later]
  exact updated d.nodup

/-- Inserting where nothing is. -/
theorem entries_insert_new (d : Dict κ ν) (k : κ) (v : ν) :
    (if d.get? k = none then d.insert k v else d).entries = Keyed.pushNew Prod.fst d.entries
      (k, v) := by
  have appended : ∀ {l : List (κ × ν)}, (∀ entry ∈ l, entry.1 ≠ k) →
      upsert k v l = l ++ [(k, v)] := by
    intro l absent
    induction l with
    | nil => rfl
    | cons entry rest ih =>
        obtain ⟨here, later⟩ := List.forall_mem_cons.mp absent
        rw [upsert, if_neg here, ih later, List.cons_append]
  unfold Keyed.pushNew
  by_cases fresh : d.get? k = none
  · have absent : ∀ entry ∈ d.entries, entry.1 ≠ k := by
      intro entry member same
      have held := mem_entries.mp (show (k, entry.2) ∈ d.entries from same ▸ member)
      rw [fresh] at held
      cases held
    rw [if_pos fresh, if_neg]
    · exact appended absent
    · intro taken
      obtain ⟨entry, member, here⟩ := List.any_eq_true.mp taken
      exact absent entry member (of_decide_eq_true here)
  · obtain ⟨w, held⟩ := Option.ne_none_iff_exists'.mp fresh
    have taken : (d.entries.any fun entry => decide (entry.1 = k)) = true :=
      List.any_eq_true.mpr ⟨(k, w), mem_entries.mpr held, decide_eq_true rfl⟩
    rw [if_neg fresh, if_pos taken]

/-- An order in which a hash map is visited. -/
abbrev Visit (κ ν : Type) := ∀ d : Dict κ ν, { l : List (κ × ν) // l.Perm d.entries }

/-- The order of insertion. -/
def inserted : Visit κ ν := fun d => ⟨d.entries, .refl _⟩

/-- A hash map may be visited in any order. -/
theorem last_perm {d : Dict κ ν} {l : List (κ × ν)} (order : l.Perm d.entries) (k : κ) :
    WriteLog.last l k = d.get? k := by
  have once : (l.map Prod.fst).Nodup := (order.map Prod.fst).nodup_iff.mpr d.nodup
  apply Option.ext
  intro v
  rw [WriteLog.last_eq_some_iff once, order.mem_iff, mem_entries]

/-! ## Nested dictionaries -/

section Nested

variable {ι : Type} [DecidableEq ι]

/-- The value of a nested dictionary at two keys. -/
def at? (d : Dict ι (Dict κ ν)) (i : ι) (k : κ) : Option ν :=
  (d.get? i).bind fun inner => inner.get? k

/-- `d.entry(i).or_default().extend(l)` -/
def extendAt (d : Dict ι (Dict κ ν)) (i : ι) (l : List (κ × ν)) : Dict ι (Dict κ ν) :=
  d.insert i (((d.get? i).getD empty).insertAll l)

theorem at?_extendAt (d : Dict ι (Dict κ ν)) (i : ι) (l : List (κ × ν)) (j : ι) (k : κ) :
    (d.extendAt i l).at? j k = if i = j then (WriteLog.last l k).or (d.at? i k) else d.at? j k := by
  unfold at? extendAt
  rw [get?_insert]
  split
  · rw [Option.bind_some, get?_insertAll]
    cases d.get? i <;> rfl
  · rfl

/-- The writes of a nested list, by both keys. -/
def writes (l : List (ι × List (κ × ν))) : List ((ι × κ) × ν) :=
  l.flatMap fun e => e.2.map fun w => ((e.1, w.1), w.2)

theorem last_block (i j : ι) (l : List (κ × ν)) (k : κ) :
    WriteLog.last (l.map fun w => ((i, w.1), w.2)) (j, k) = if i = j then WriteLog.last l k
      else none := by
  split
  · rename_i same
    subst same
    exact WriteLog.last_map (fun _ _ pair => congrArg Prod.snd pair) l k
  · rename_i other
    apply WriteLog.last_eq_none
    intro w member pair
    obtain ⟨e, _, rfl⟩ := List.mem_map.mp member
    exact other (congrArg Prod.fst pair)

theorem at?_extendAll (d : Dict ι (Dict κ ν)) (l : List (ι × List (κ × ν))) (j : ι) (k : κ) :
    (l.foldl (fun d e => d.extendAt e.1 e.2) d).at? j k = (WriteLog.last (writes l) (j, k)).or
      (d.at? j k) := by
  induction l generalizing d with
  | nil => rfl
  | cons e l ih =>
      have split_writes : writes (e :: l) = (e.2.map fun w => ((e.1, w.1), w.2)) ++ writes l := rfl
      rw [List.foldl_cons, ih, at?_extendAt, split_writes, WriteLog.last_append, last_block]
      cases WriteLog.last (writes l) (j, k) with
      | some v => rfl
      | none =>
          rw [Option.none_or, Option.none_or]
          split
          · rename_i same
            rw [same]
          · rfl

/-- Where no outer key recurs, the last write is the last inner write at its outer key. -/
theorem last_writes {l : List (ι × List (κ × ν))} (once : (l.map Prod.fst).Nodup) (j : ι) (k : κ) :
    WriteLog.last (writes l) (j, k) = (WriteLog.last l j).bind fun w => WriteLog.last w k := by
  induction l using List.reverseRecOn with
  | nil => rfl
  | append_singleton l e ih =>
      rw [List.map_append, List.nodup_append] at once
      have fresh : ∀ w ∈ l, w.1 ≠ e.1 := fun w member =>
        once.2.2 _ (List.mem_map.mpr ⟨w, member, rfl⟩) _ (by simp)
      have parts : writes (l ++ [e]) = writes l ++ e.2.map fun w => ((e.1, w.1), w.2) := by
        simp [writes]
      rw [parts, WriteLog.last_append, last_block, WriteLog.last_concat, ih once.1]
      split
      · rename_i same
        rw [← same, WriteLog.last_eq_none fresh]
        simp
      · simp

/-- A nested hash map, written out in the order of its visits. -/
def visited (outer : Visit ι (Dict κ ν)) (inner : ι → Visit κ ν) (d : Dict ι (Dict κ ν)) :
    List (ι × List (κ × ν)) :=
  (outer d).1.map fun e => (e.1, (inner e.1 e.2).1)

theorem last_visited (outer : Visit ι (Dict κ ν)) (inner : ι → Visit κ ν) (d : Dict ι (Dict κ ν))
    (j : ι) (k : κ) : WriteLog.last (writes (visited outer inner d)) (j, k) = d.at? j k := by
  have keys : (visited outer inner d).map Prod.fst = (outer d).1.map Prod.fst := by
    rw [visited, List.map_map]
    rfl
  have once : ((visited outer inner d).map Prod.fst).Nodup := by
    rw [keys]
    exact ((outer d).2.map Prod.fst).nodup_iff.mpr d.nodup
  rw [last_writes once, visited, WriteLog.last_map_snd fun i e => (inner i e).1,
    last_perm (outer d).2, at?]
  cases d.get? j with
  | none => rfl
  | some e => exact last_perm (inner j e).2 k

/-- Extending an empty map by all of another copies it, in whatever order. -/
theorem at?_copy (outer : Visit ι (Dict κ ν)) (inner : ι → Visit κ ν) (d : Dict ι (Dict κ ν))
    (j : ι) (k : κ) :
    ((outer d).1.foldl (fun d' e => d'.extendAt e.1 (inner e.1 e.2).1) empty).at? j k =
      d.at? j k := by
  have steps : (outer d).1.foldl (fun d' e => d'.extendAt e.1 (inner e.1 e.2).1) empty
      = (visited outer inner d).foldl (fun d' e => d'.extendAt e.1 e.2) empty := by
    rw [visited, List.foldl_map]
  rw [steps, at?_extendAll, last_visited]
  exact Option.or_none

end Nested

end Dict
