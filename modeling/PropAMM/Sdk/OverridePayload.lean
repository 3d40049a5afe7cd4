import PropAMM.Lib.Blocks
import PropAMM.Sdk.HexText
import PropAMM.Sdk.Pamms

/-! # Override payloads and the overrides made of them

The v2 payload, what makes one of its entries well formed, and the `eth_call` override
as the texts that stand in it.
-/

namespace PropAMM.Overrides

open Text

/-- A v2 payload, whatever stands in its other fields. -/
def payload (fields : List (String × Json)) (venues : List Json) : Json :=
  .obj (("venues", .arr venues) :: fields)

/-- One `slot → value` pair. -/
def WellFormedDiff (field : String × Json) : Prop :=
  (shortWord? field.1).isSome ∧ ∃ value, field.2 = .str value ∧ (shortWord? value).isSome

/-- One `contract → spec` pair. -/
def WellFormedContract (field : String × Json) : Prop :=
  (address? field.1).isSome ∧
    ∃ stateDiff, field.2.get? "stateDiff" = some (.obj stateDiff) ∧
    ∀ d ∈ stateDiff, WellFormedDiff d

/-- An entry of the `venues` list as the payload documents it. -/
structure WellFormed (venue : Json) : Prop where
  quoteAddress : ∃ s, venue.get? "quoteAddress" = some (.str s) ∧ (address? s).isSome
  stateOverride : ∃ contracts, venue.get? "stateOverride" = some (.obj contracts) ∧
    ∀ c ∈ contracts, WellFormedContract c
  /-- The v1 spelling is not used beside it. -/
  state_override : venue.get? "state_override" = none
  context : ∀ key ∈ ["slot", "blockNumber", "timestamp"], ∀ field, venue.get? key = some field →
    ∃ n : Nat, field = .int n

/-- An `eth_call` state override: contracts with their slots and values. -/
abbrev StateOverride := List (String × List (String × String))

/-- The values given for a slot of a contract, in their order. -/
def valuesAt (override : StateOverride) (contract : Address) (slot : Word) : List String :=
  override.flatMap fun e =>
    if address? e.1 = some contract then (e.2.filter fun d => word? d.1 = some slot).map Prod.snd
    else []

/-- Contracts are 20-byte addresses, slots and values 32-byte words. -/
def Typed (override : StateOverride) : Prop :=
  ∀ e ∈ override, (address? e.1).isSome ∧
    ∀ d ∈ e.2, (word? d.1).isSome ∧ (word? d.2).isSome

/-- The slot that a merge zeroes where it keeps no Bebop entry. -/
def defaultSlot : Word := 0x3ca381a3d43d4e593578057c4abe441ad9df02f080defd17d2b6e6190cdcd936

/-- Neither `x` nor another entry of its quote address names the slot, nor is it the one
    that a Bebop entry keeps from its default. -/
def Spared {π χ : Type} (parseVenue : Json → Option (π × χ)) (names : χ → Prop)
    (takesDefault : π → Prop) (venues : List Json) (x : Json) : Prop :=
  ∀ q c, parseVenue x = some (q, c) →
    (∀ venue ∈ venues, ∀ c', parseVenue venue = some (q, c') → ¬ names c') ∧ ¬ takesDefault q

section Merged

variable {κ ν : Type}

/-- Some key under the contract spells the slot. -/
def Names (slotIs : Word → κ → Bool) (contracts : Dict String (Dict κ ν)) (contract : Address)
    (slot : Word) : Prop :=
  ∃ d ∈ (contracts.cell (addressText contract)).entries, slotIs slot d.1 = true

theorem restrict_of_not_names {slotIs : Word → κ → Bool} {contracts : Dict String (Dict κ ν)}
    {contract : Address} {slot : Word} (silent : ¬ Names slotIs contracts contract slot) :
    (contracts.cell (addressText contract)).restrict (slotIs slot) = .empty := by
  apply Dict.ext_entries
  exact List.filter_eq_nil_iff.mpr fun d member named => silent ⟨d, member, named⟩

variable (outer : Dict.Visit String (Dict κ ν)) (inner : Dict.Visit κ ν)

/-- The writes of one entry, contract by contract. -/
def blocks (entry : String × Dict String (Dict κ ν)) : List (String × List (κ × ν)) :=
  (outer entry.2).1.map fun c => (c.1, (inner c.2).1)

/-- Entries whose key is another one, selected by what holds of their keys. -/
theorem filter_others {π α : Type} [DecidableEq π] {q : π} {entries entries' : List (π × α)}
    {selects selects' : π → Bool}
    (others : (entries.filter fun e => e.1 ≠ q) = entries'.filter fun e => e.1 ≠ q)
    (alike : ∀ k, k ≠ q → selects k = selects' k) :
    ((entries.filter fun e => selects e.1).filter fun e => e.1 ≠ q) =
      (entries'.filter fun e => selects' e.1).filter fun e => e.1 ≠ q := by
  have swap : ∀ (s : π → Bool) (l : List (π × α)),
      ((l.filter fun e => s e.1).filter fun e => e.1 ≠ q) =
        (l.filter fun e => e.1 ≠ q).filter fun e => s e.1 := fun _ _ => List.filter_comm ..
  rw [swap, swap, others]
  refine List.filter_congr fun e member => ?_
  have other : e.1 ≠ q := by simpa using (List.mem_filter.mp member).2
  exact alike e.1 other

theorem any_others {π α : Type} [DecidableEq π] {q k : π} (other : k ≠ q) (entries : List (π × α)) :
    (entries.any fun e => e.1 = k) = (entries.filter fun e => e.1 ≠ q).any fun e => e.1 = k := by
  rw [List.any_filter]
  refine List.any_congr rfl fun e => ?_
  by_cases here : e.1 = k
  · simp [here, other]
  · simp [here]

variable {outer inner} [DecidableEq κ]

/-- What holds of the diffs of each entry, and of what is written after them, holds of the
    merged diffs. -/
theorem forall_merged {K : String → Prop} {W : κ × ν → Prop}
    {kept : List (String × Dict String (Dict κ ν))} {extra : List (String × List (κ × ν))}
    (each : ∀ e ∈ kept, ∀ c ∈ e.2.entries, K c.1 ∧ ∀ d ∈ c.2.entries, W d)
    (after : ∀ b ∈ extra, K b.1 ∧ ∀ d ∈ b.2, W d) :
    ∀ e ∈ (Dict.ofBlocks (kept.flatMap (blocks outer inner) ++ extra)).entries,
      K e.1 ∧ ∀ d ∈ e.2.entries, W d := by
  refine Dict.forall_ofBlocks fun b member => ?_
  rcases List.mem_append.mp member with written | last
  · obtain ⟨e, among, block⟩ := List.mem_flatMap.mp written
    obtain ⟨c, visited, rfl⟩ := List.mem_map.mp block
    obtain ⟨key, words⟩ := each e among c ((outer e.2).2.mem_iff.mp visited)
    exact ⟨key, fun d listed => words d ((inner c.2).2.mem_iff.mp listed)⟩
  · exact after b last

/-- Merged entries that agree but for those of one quote address, which do not name the
    slot, agree on it. -/
theorem merged_alike (stable : Dict.Stable inner) {slotIs : Word → κ → Bool} {contract : Address}
    {slot : Word} {q : String} {kept kept' : List (String × Dict String (Dict κ ν))}
    {extra extra' : List (String × List (κ × ν))}
    (others : (kept.filter fun e => e.1 ≠ q) = kept'.filter fun e => e.1 ≠ q)
    (silent : ∀ e ∈ kept, e.1 = q → ¬ Names slotIs e.2 contract slot)
    (silent' : ∀ e ∈ kept', e.1 = q → ¬ Names slotIs e.2 contract slot)
    (alike : Dict.writesAt (addressText contract) (slotIs slot) extra =
      Dict.writesAt (addressText contract) (slotIs slot) extra') :
    ((Dict.ofBlocks (kept.flatMap (blocks outer inner) ++ extra)).cell
      (addressText contract)).restrict (slotIs slot) =
      ((Dict.ofBlocks (kept'.flatMap (blocks outer inner) ++ extra')).cell
        (addressText contract)).restrict (slotIs slot) := by
  have quiet : ∀ e : String × Dict String (Dict κ ν), ¬ Names slotIs e.2 contract slot →
      Dict.writesAt (addressText contract) (slotIs slot) (blocks outer inner e) = [] := by
    intro e absent
    rw [blocks, Dict.writesAt_visited outer stable, restrict_of_not_names absent, Dict.visit_empty]
  rw [Dict.restrict_cell_ofBlocks, Dict.restrict_cell_ofBlocks, Dict.writesAt_append,
    Dict.writesAt_append, alike, Dict.writesAt_congr others
      (fun e member here => quiet e (silent e member here))
      (fun e member here => quiet e (silent' e member here))]

end Merged

section Rendered

variable {κ ν : Type}

/-- `f` renders a contract's diffs as an address and as words, the values at `s` in the
    order in which the language visits the keys that `slotIs s`. -/
structure Renders (f : String × Dict κ ν → Option (String × List (String × String)))
    (visit : Dict.Visit κ ν) (slotIs : Word → κ → Bool) (value : ν → String)
    (e : String × Dict κ ν) : Prop where
  rendered : ∃ a out, e.1 = addressText a ∧ f e = some out ∧ address? out.1 = some a ∧
    (∀ d ∈ out.2, (word? d.1).isSome ∧ (word? d.2).isSome) ∧
    ∀ s, (out.2.filter fun d => word? d.1 = some s).map Prod.snd =
      (visit (e.2.restrict (slotIs s))).1.map fun d => value d.2

variable {f : String × Dict κ ν → Option (String × List (String × String))}
  {visit : Dict.Visit κ ν} {slotIs : Word → κ → Bool} {value : ν → String}

theorem rendered_list {l : List (String × Dict κ ν)}
    (renders : ∀ e ∈ l, Renders f visit slotIs value e) :
    ∃ override, l.mapM f = some override ∧ Typed override ∧
      override.map (fun o => address? o.1) = l.map (fun e => address? e.1) ∧
      ∀ a s, valuesAt override a s = (l.filter fun e => e.1 = addressText a).flatMap fun e =>
        (visit (e.2.restrict (slotIs s))).1.map fun d => value d.2 := by
  induction l with
  | nil =>
      refine ⟨[], rfl, ?_, rfl, fun _ _ => rfl⟩
      intro e member
      cases member
  | cons e l ih =>
      obtain ⟨override, rest, typed, keys, values⟩ :=
        ih fun e' member => renders e' (List.mem_cons_of_mem e member)
      obtain ⟨a, out, key, here, address, words, slots⟩ := (renders e List.mem_cons_self).rendered
      have keyAddress : address? e.1 = some a := by rw [key, address?_addressText]
      refine ⟨out :: override, ?_, ?_, ?_, ?_⟩
      · rw [List.mapM_cons, here, rest]
        rfl
      · intro o member
        rcases List.mem_cons.mp member with rfl | member
        · exact ⟨by rw [address]; rfl, words⟩
        · exact typed o member
      · rw [List.map_cons, List.map_cons, keys, address, keyAddress]
      · intro b s
        have split : valuesAt (out :: override) b s =
            (if address? out.1 = some b then
              (out.2.filter fun d => word? d.1 = some s).map Prod.snd else []) ++
              valuesAt override b s := rfl
        rw [split, values, address, slots]
        by_cases same : a = b
        · rw [if_pos (congrArg some same),
            List.filter_cons_of_pos (by simp [key, same]), List.flatMap_cons]
        · have other : ¬ e.1 = addressText b := fun text =>
            same (addressText_injective (key.symm.trans text))
          rw [if_neg fun h => same (Option.some.inj h),
            List.filter_cons_of_neg (by simpa using other), List.nil_append]

/-- What a merged dictionary gives for a slot is read off the contract's own diffs. -/
theorem rendered_cell (outer : Dict.Visit String (Dict κ ν)) {merged : Dict String (Dict κ ν)}
    (renders : ∀ e ∈ merged.entries, Renders f visit slotIs value e) :
    ∃ override, (outer merged).1.mapM f = some override ∧ Typed override ∧
      override.map (fun o => address? o.1) = (outer merged).1.map (fun e => address? e.1) ∧
      ∀ a s, valuesAt override a s =
        (visit ((merged.cell (addressText a)).restrict (slotIs s))).1.map fun d => value d.2 := by
  obtain ⟨override, out, typed, keys, values⟩ :=
    rendered_list fun e member => renders e ((outer merged).2.mem_iff.mp member)
  refine ⟨override, out, typed, keys, fun a s => ?_⟩
  rw [values, Dict.filter_key (outer merged).2, Dict.cell]
  cases merged.get? (addressText a) with
  | none =>
      show [] = (visit .empty).1.map _
      rw [Dict.visit_empty]
      rfl
  | some inner => exact List.append_nil _

end Rendered

end PropAMM.Overrides
