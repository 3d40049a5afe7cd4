import PropAMM.Lib.Dict

/-! # Dictionaries restricted to some keys

What insertions leave at the keys that satisfy a predicate, its order included, depends
on the writes to these keys alone. For a nested dictionary built from blocks of writes
this bounds what one source of blocks can change.
-/

namespace Dict

variable {κ ν : Type} [DecidableEq κ]

def restrict (P : κ → Bool) (d : Dict κ ν) : Dict κ ν where
  entries := d.entries.filter fun e => P e.1
  nodup := d.nodup.sublist (List.filter_sublist.map Prod.fst)

omit [DecidableEq κ] in
theorem ext_entries {d d' : Dict κ ν} (h : d.entries = d'.entries) : d = d' := by
  cases d
  cases d'
  cases h
  rfl

omit [DecidableEq κ] in
@[simp] theorem restrict_empty (P : κ → Bool) : (empty : Dict κ ν).restrict P = empty := rfl

theorem filter_upsert (P : κ → Bool) (k : κ) (v : ν) (l : List (κ × ν)) :
    ((upsert k v l).filter fun e => P e.1) =
      if P k then upsert k v (l.filter fun e => P e.1) else l.filter fun e => P e.1 := by
  induction l with
  | nil => by_cases kept : P k = true <;> simp [upsert, kept]
  | cons e rest ih =>
      by_cases same : e.1 = k
      · by_cases kept : P k = true <;> simp [upsert, same, kept]
      · by_cases keptHead : P e.1 = true <;> by_cases kept : P k = true <;>
          simp [upsert, same, keptHead, kept, ih]

theorem restrict_insert (P : κ → Bool) (d : Dict κ ν) (k : κ) (v : ν) :
    (d.insert k v).restrict P = if P k then (d.restrict P).insert k v else d.restrict P := by
  apply ext_entries
  have entries := filter_upsert P k v d.entries
  by_cases kept : P k = true
  · rw [if_pos kept] at entries ⊢
    exact entries
  · rw [if_neg kept] at entries ⊢
    exact entries

theorem restrict_insertAll (P : κ → Bool) (d : Dict κ ν) (l : List (κ × ν)) :
    (d.insertAll l).restrict P = (d.restrict P).insertAll (l.filter fun e => P e.1) := by
  induction l generalizing d with
  | nil => rfl
  | cons e l ih =>
      have step : d.insertAll (e :: l) = (d.insert e.1 e.2).insertAll l := rfl
      rw [step, ih, restrict_insert]
      by_cases kept : P e.1 = true
      · have filtered : (e :: l).filter (fun e => P e.1) = e :: l.filter fun e => P e.1 :=
          List.filter_cons_of_pos kept
        rw [if_pos kept, filtered]
        rfl
      · have filtered : (e :: l).filter (fun e => P e.1) = l.filter fun e => P e.1 :=
          List.filter_cons_of_neg kept
        rw [if_neg kept, filtered]

theorem get?_restrict {P : κ → Bool} (d : Dict κ ν) {k : κ} (kept : P k = true) :
    (d.restrict P).get? k = d.get? k := by
  apply Option.ext
  intro v
  rw [← mem_entries, ← mem_entries]
  show (k, v) ∈ d.entries.filter _ ↔ _
  simp [kept]

/-- One more insertion among others changes nothing at the other keys. -/
theorem restrict_others {α : Type} {f : α → Option (κ × ν)} {a : α} {q : κ} {v : ν}
    (read : f a = some (q, v)) (l r : List α) (d : Dict κ ν) :
    (d.insertAll ((l ++ a :: r).filterMap f)).restrict (fun k => k ≠ q) =
      (d.insertAll ((l ++ r).filterMap f)).restrict fun k => k ≠ q := by
  rw [restrict_insertAll, restrict_insertAll, List.filterMap_append, List.filterMap_append,
    List.filterMap_cons_some read, List.filter_append, List.filter_append,
    List.filter_cons_of_neg (by simp)]

theorem get?_others {α : Type} {f : α → Option (κ × ν)} {a : α} {q : κ} {v : ν}
    (read : f a = some (q, v)) (l r : List α) (d : Dict κ ν) {k : κ} (other : k ≠ q) :
    (d.insertAll ((l ++ a :: r).filterMap f)).get? k = (d.insertAll ((l ++ r).filterMap f)).get?
      k := by
  have same := fun d' : Dict κ ν => @get?_restrict _ _ _ (fun k => decide (k ≠ q)) d' k
    (by simpa using other)
  rw [← same, restrict_others read, same]

/-- The same where the value is read with the key but not from it. -/
theorem get?_others_map {α μ : Type} {f : α → Option (κ × ν)} {a : α} {q : κ} {v : ν}
    (read : f a = some (q, v)) (g : α → μ) (l r : List α) (d : Dict κ μ) {k : κ} (other : k ≠ q) :
    (d.insertAll ((l ++ a :: r).filterMap fun b => (f b).map fun e => (e.1, g b))).get? k =
      (d.insertAll ((l ++ r).filterMap fun b => (f b).map fun e => (e.1, g b))).get? k := by
  have readMap : ((f a).map fun e => (e.1, g a)) = some (q, g a) := by
    rw [read]
    rfl
  exact get?_others (f := fun b => (f b).map fun e => (e.1, g b)) readMap l r d other

theorem mem_of_mem_upsert {k : κ} {v : ν} {l : List (κ × ν)} {e : κ × ν} (h : e ∈ upsert k v l) :
    e = (k, v) ∨ e ∈ l := by
  induction l with
  | nil => exact .inl (List.mem_singleton.mp h)
  | cons f rest ih =>
      unfold upsert at h
      split at h
      · rcases List.mem_cons.mp h with rfl | h
        · exact .inl rfl
        · exact .inr (List.mem_cons_of_mem f h)
      · rcases List.mem_cons.mp h with rfl | h
        · exact .inr List.mem_cons_self
        · exact (ih h).imp_right (List.mem_cons_of_mem f)

theorem mem_of_mem_insertAll {d : Dict κ ν} {l : List (κ × ν)} {e : κ × ν}
    (h : e ∈ (d.insertAll l).entries) : e ∈ d.entries ∨ e ∈ l := by
  induction l generalizing d with
  | nil => exact .inl h
  | cons f l ih =>
      rcases ih h with old | later
      · rcases mem_of_mem_upsert old with rfl | old
        · exact .inr List.mem_cons_self
        · exact .inl old
      · exact .inr (List.mem_cons_of_mem f later)

theorem mem_of_mem_insertAll_filterMap {α : Type} {f : α → Option (κ × ν)} {l : List α} {e : κ × ν}
    (h : e ∈ ((empty : Dict κ ν).insertAll (l.filterMap f)).entries) : ∃ a ∈ l, f a = some e := by
  rcases mem_of_mem_insertAll h with none | listed
  · cases none
  · exact List.mem_filterMap.mp listed

theorem upsert_fresh {k : κ} {l : List (κ × ν)} (fresh : k ∉ l.map Prod.fst) (v : ν) :
    upsert k v l = l ++ [(k, v)] := by
  induction l with
  | nil => rfl
  | cons e rest ih =>
      rw [List.map_cons, List.mem_cons, not_or] at fresh
      rw [upsert, if_neg (Ne.symm fresh.1), ih fresh.2, List.cons_append]

/-- Distinct keys are inserted side by side. -/
theorem entries_insertAll {l : List (κ × ν)} (once : (l.map Prod.fst).Nodup) :
    ((empty : Dict κ ν).insertAll l).entries = l := by
  induction l using List.reverseRecOn with
  | nil => rfl
  | append_singleton l e ih =>
      rw [List.map_append, List.nodup_append] at once
      have step : (empty : Dict κ ν).insertAll (l ++ [e]) = (empty.insertAll l).insert e.1 e.2 :=
        List.foldl_concat ..
      have fresh : e.1 ∉ l.map Prod.fst := fun member => once.2.2 _ member _ (by simp) rfl
      rw [step]
      show upsert e.1 e.2 (empty.insertAll l).entries = _
      rw [ih once.1, upsert_fresh fresh]

/-- The one entry of a key, in whatever order the entries stand. -/
theorem filter_key {d : Dict κ ν} {l : List (κ × ν)} (order : l.Perm d.entries) (k : κ) :
    (l.filter fun e => e.1 = k) = (d.get? k).toList.map fun v => (k, v) := by
  have once : (l.map Prod.fst).Nodup := (order.map Prod.fst).nodup_iff.mpr d.nodup
  rw [← last_perm order]
  clear order
  induction l with
  | nil => rfl
  | cons e rest ih =>
      obtain ⟨fresh, onceRest⟩ := List.nodup_cons.mp (List.map_cons ▸ once)
      have head : WriteLog.last (e :: rest) k =
          (WriteLog.last rest k).or (WriteLog.last [e] k) := WriteLog.last_append [e] rest k
      by_cases same : e.1 = k
      · have absent : WriteLog.last rest k = none := WriteLog.last_eq_none fun w member at_w =>
          fresh (List.mem_map.mpr ⟨w, member, at_w.trans same.symm⟩)
        have single : WriteLog.last [e] k = some e.2 := by
          rw [← List.nil_append [e], WriteLog.last_concat, if_pos same]
        rw [List.filter_cons_of_pos (by simpa using same), ih onceRest, head, absent,
          single, ← same]
        rfl
      · have other : WriteLog.last [e] k = none := WriteLog.last_eq_none (by simpa using same)
        rw [List.filter_cons_of_neg (by simpa using same), ih onceRest, head, other, Option.or_none]

/-- An order of the entries of all keys but one is part of an order of all entries. -/
theorem exists_perm_others {q : κ} {l entries entries' : List (κ × ν)}
    (order : l.Perm entries)
    (others : (entries.filter fun e => e.1 ≠ q) = entries'.filter fun e => e.1 ≠ q) :
    ∃ l' : List (κ × ν), l'.Perm entries' ∧
      (l'.filter fun e => e.1 ≠ q) = l.filter fun e => e.1 ≠ q := by
  refine ⟨(l.filter fun e => e.1 ≠ q) ++ entries'.filter fun e => !decide (e.1 ≠ q), ?_, ?_⟩
  · have front := order.filter fun e => e.1 ≠ q
    rw [others] at front
    exact (front.append_right _).trans (List.filter_append_perm ..)
  · have rest : ((entries'.filter fun e => !decide (e.1 ≠ q)).filter fun e => e.1 ≠ q) = [] := by
      refine List.filter_eq_nil_iff.mpr fun e member => ?_
      simpa using (List.mem_filter.mp member).2
    rw [List.filter_append, rest, List.append_nil, List.filter_filter]
    exact List.filter_congr fun e _ => Bool.and_self _

theorem filterMap_others {α : Type} {f : κ × ν → Option α} {q : κ} {l : List (κ × ν)}
    (silent : ∀ e ∈ l, e.1 = q → f e = none) :
    l.filterMap f = (l.filter fun e => e.1 ≠ q).filterMap f := by
  induction l with
  | nil => rfl
  | cons e l ih =>
      have rest := ih fun d member => silent d (List.mem_cons_of_mem e member)
      by_cases here : e.1 = q
      · rw [List.filterMap_cons_none (silent e List.mem_cons_self here), rest,
          List.filter_cons_of_neg (by simpa using here)]
      · rw [List.filter_cons_of_pos (by simpa using here), List.filterMap_cons, List.filterMap_cons,
          rest]

/-- A visit whose order at some keys does not depend on the other keys. -/
def Stable (visit : Visit κ ν) : Prop :=
  ∀ d P, ((visit d).1.filter fun e => P e.1) = (visit (d.restrict P)).1

omit [DecidableEq κ] in
theorem stable_inserted : Stable (inserted : Visit κ ν) := fun _ _ => rfl

omit [DecidableEq κ] in
theorem visit_empty (visit : Visit κ ν) : (visit empty).1 = [] := List.perm_nil.mp (visit empty).2

/-! ## Blocks of writes -/

section Blocks

variable {ι : Type} [DecidableEq ι]

/-- The inner dictionary of a key, empty where there is none. -/
def cell (d : Dict ι (Dict κ ν)) (i : ι) : Dict κ ν := (d.get? i).getD empty

theorem cell_extendAt (d : Dict ι (Dict κ ν)) (i : ι) (l : List (κ × ν)) (j : ι) :
    (d.extendAt i l).cell j = if i = j then (d.cell j).insertAll l else d.cell j := by
  unfold cell extendAt
  rw [get?_insert]
  split
  · rename_i same
    rw [same]
    rfl
  · rfl

def ofBlocks (blocks : List (ι × List (κ × ν))) : Dict ι (Dict κ ν) :=
  blocks.foldl (fun d b => d.extendAt b.1 b.2) empty

/-- The writes of the blocks at `i` to keys that satisfy `P`. -/
def writesAt (i : ι) (P : κ → Bool) (blocks : List (ι × List (κ × ν))) : List (κ × ν) :=
  blocks.flatMap fun b => if b.1 = i then b.2.filter fun w => P w.1 else []

theorem restrict_cell_extendAll (i : ι) (P : κ → Bool) (blocks : List (ι × List (κ × ν)))
    (d : Dict ι (Dict κ ν)) :
    ((blocks.foldl (fun d b => d.extendAt b.1 b.2) d).cell i).restrict P =
      ((d.cell i).restrict P).insertAll (writesAt i P blocks) := by
  induction blocks generalizing d with
  | nil => rfl
  | cons b blocks ih =>
      have head : writesAt i P (b :: blocks) =
          (if b.1 = i then b.2.filter fun w => P w.1 else []) ++ writesAt i P blocks := rfl
      rw [List.foldl_cons, ih, cell_extendAt, head]
      split
      · rw [restrict_insertAll, insertAll, insertAll, insertAll, List.foldl_append]
      · rfl

theorem restrict_cell_ofBlocks (i : ι) (P : κ → Bool) (blocks : List (ι × List (κ × ν))) :
    ((ofBlocks blocks).cell i).restrict P = empty.insertAll (writesAt i P blocks) :=
  restrict_cell_extendAll i P blocks empty

omit [DecidableEq κ] in
theorem writesAt_append (i : ι) (P : κ → Bool) (l l' : List (ι × List (κ × ν))) :
    writesAt i P (l ++ l') = writesAt i P l ++ writesAt i P l' := List.flatMap_append

omit [DecidableEq κ] in
/-- Where the entries under one key write nothing, the other entries decide. -/
theorem writesAt_congr {π χ : Type} [DecidableEq π] {i : ι} {P : κ → Bool}
    {blocksOf : π × χ → List (ι × List (κ × ν))} {q : π} {entries entries' : List (π × χ)}
    (others : (entries.filter fun e => e.1 ≠ q) = entries'.filter fun e => e.1 ≠ q)
    (silent : ∀ e ∈ entries, e.1 = q → writesAt i P (blocksOf e) = [])
    (silent' : ∀ e ∈ entries', e.1 = q → writesAt i P (blocksOf e) = []) :
    writesAt i P (entries.flatMap blocksOf) = writesAt i P (entries'.flatMap blocksOf) := by
  have drop : ∀ l : List (π × χ), (∀ e ∈ l, e.1 = q → writesAt i P (blocksOf e) = []) →
      writesAt i P (l.flatMap blocksOf) =
        (l.filter fun e => e.1 ≠ q).flatMap fun e => writesAt i P (blocksOf e) := by
    intro l quiet
    induction l with
    | nil => rfl
    | cons e l ih =>
        have rest := ih fun f member => quiet f (List.mem_cons_of_mem e member)
        have head : writesAt i P ((e :: l).flatMap blocksOf) =
            writesAt i P (blocksOf e) ++ writesAt i P (l.flatMap blocksOf) := by
          rw [List.flatMap_cons, writesAt_append]
        rw [head, rest]
        by_cases here : e.1 = q
        · rw [quiet e List.mem_cons_self here, List.filter_cons_of_neg (by simpa using here),
            List.nil_append]
        · rw [List.filter_cons_of_pos (by simpa using here), List.flatMap_cons]
  rw [drop entries silent, drop entries' silent', others]

omit [DecidableEq κ] in
/-- The blocks of a nested dictionary, visited in some order, write at a key what its own
    dictionary holds. -/
theorem writesAt_visited (outer : Visit ι (Dict κ ν)) {inner : Visit κ ν} (stable : Stable inner)
    (d : Dict ι (Dict κ ν)) (i : ι) (P : κ → Bool) :
    writesAt i P ((outer d).1.map fun c => (c.1, (inner c.2).1)) =
      (inner ((d.cell i).restrict P)).1 := by
  have all : ∀ l : List (ι × Dict κ ν), writesAt i P (l.map fun c => (c.1, (inner c.2).1)) =
      (l.filter fun c => c.1 = i).flatMap fun c => (inner (c.2.restrict P)).1 := by
    intro l
    induction l with
    | nil => rfl
    | cons c l ih =>
        have head : writesAt i P ((c :: l).map fun c => (c.1, (inner c.2).1)) =
            (if c.1 = i then (inner c.2).1.filter fun w => P w.1 else []) ++
              writesAt i P (l.map fun c => (c.1, (inner c.2).1)) := rfl
        rw [head, ih, stable]
        by_cases here : c.1 = i
        · rw [if_pos here, List.filter_cons_of_pos (by simpa using here), List.flatMap_cons]
        · rw [if_neg here, List.filter_cons_of_neg (by simpa using here), List.nil_append]
  rw [all, filter_key (outer d).2, cell]
  cases d.get? i with
  | none => exact (visit_empty inner).symm
  | some held => exact List.append_nil _

theorem forall_ofBlocks {K : ι → Prop} {W : κ × ν → Prop} {blocks : List (ι × List (κ × ν))}
    (good : ∀ b ∈ blocks, K b.1 ∧ ∀ w ∈ b.2, W w) :
    ∀ e ∈ (ofBlocks blocks).entries, K e.1 ∧ ∀ w ∈ e.2.entries, W w := by
  induction blocks using List.reverseRecOn with
  | nil =>
      intro e member
      cases member
  | append_singleton blocks b ih =>
      have before := ih fun c member => good c (List.mem_append_left _ member)
      obtain ⟨key, writes⟩ := good b (by simp)
      have step : ofBlocks (blocks ++ [b]) = (ofBlocks blocks).extendAt b.1 b.2 :=
        List.foldl_concat ..
      intro e member
      rw [step] at member
      rcases mem_of_mem_upsert member with rfl | old
      · refine ⟨key, fun w written => ?_⟩
        rcases mem_of_mem_insertAll written with old | new
        · cases held : (ofBlocks blocks).get? b.1 with
          | none =>
              rw [held] at old
              cases old
          | some inner =>
              rw [held] at old
              exact (before (b.1, inner) (mem_entries.mpr held)).2 w old
        · exact writes w new
      · exact before e old

end Blocks

end Dict
