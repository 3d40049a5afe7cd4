import PropAMM.Sdk.Freshness
import PropAMM.Sdk.PythonOverrides
import PropAMM.Sdk.TypeScriptOverrides

/-! # One entry among others

What one entry of a payload can change in the override made of it: what it names, what
the entry that it takes the place of names, and Bebop's default. In Rust an order of the
hash maps stands for each order.
-/

namespace PropAMM.Rust

open PropAMM.Overrides

namespace Crates

variable (crates : Crates)

/-- Parse, then flatten. -/
def overrides (order : HashOrder) (raw : Json) (options : ToStateOverrideOptions) :
    Except Error StateOverrideSet :=
  (crates.parseOverridesMessage raw).map fun snapshot => toStateOverride order snapshot options

theorem perPamm_parseVenues (venues : List Json) :
    (crates.parseVenues venues).perPamm = Dict.empty.insertAll
      (venues.filterMap crates.parseVenue) ∧
      (crates.parseVenues venues).pricedAddresses = Dict.empty.insertAll
        (venues.filterMap fun venue =>
        (crates.parseVenue venue).map fun e => (e.1, crates.parsePriced venue)) := by
  induction venues using List.reverseRecOn with
  | nil => exact ⟨rfl, rfl⟩
  | append_singleton venues venue ih =>
      have step : crates.parseVenues (venues ++ [venue]) =
          crates.addVenue (crates.parseVenues venues) venue := List.foldl_concat ..
      rw [step, addVenue, List.filterMap_append, List.filterMap_append]
      cases parsed : crates.parseVenue venue with
      | none => simp [parsed, ih]
      | some e => simp [parsed, ih, Dict.insertAll]

theorem mem_perPamm {venues : List Json} {e : Address × ContractDiffs}
    (member : e ∈ (crates.parseVenues venues).perPamm.entries) :
    ∃ venue ∈ venues, crates.parseVenue venue = some e := by
  rw [(crates.perPamm_parseVenues venues).1] at member
  exact Dict.mem_of_mem_insertAll_filterMap member

/-- The slot is not named by the extra entry or another of its quote address. -/
def Spares (venues : List Json) (x : Json) (contract : Address) (slot : Word) : Prop :=
  Spared crates.parseVenue (fun contracts => contracts.at? contract slot ≠ none)
    (fun q => q = bebop ∧ contract = bebop ∧ slot = bebopDefaultSlot) venues x

end Crates

/-! ## Snapshots that differ under one quote address -/

structure AgreeOff (q : Address) (snapshot snapshot' : OverridesSnapshot) : Prop where
  perPamm : (snapshot.perPamm.entries.filter fun e => e.1 ≠ q) =
    snapshot'.perPamm.entries.filter fun e => e.1 ≠ q
  priced : ∀ k, k ≠ q → snapshot.pricedAddresses.get? k = snapshot'.pricedAddresses.get? k

theorem AgreeOff.symm {q : Address} {snapshot snapshot' : OverridesSnapshot}
    (agree : AgreeOff q snapshot snapshot') : AgreeOff q snapshot' snapshot :=
  ⟨agree.perPamm.symm, fun k other => (agree.priced k other).symm⟩

theorem AgreeOff.exists_order {q : Address} {snapshot snapshot' : OverridesSnapshot}
    (agree : AgreeOff q snapshot snapshot') (order : HashOrder) :
    ∃ order' : HashOrder, ((order'.perPamm snapshot'.perPamm).1.filter fun e => e.1 ≠ q) =
      (order.perPamm snapshot.perPamm).1.filter fun e => e.1 ≠ q := by
  obtain ⟨l, perm, same⟩ := Dict.exists_perm_others (order.perPamm snapshot.perPamm).2 agree.perPamm
  have visit : ((HashOrder.visiting l).perPamm snapshot'.perPamm).1 = l :=
    congrArg Subtype.val (dif_pos perm)
  exact ⟨HashOrder.visiting l, by rw [visit, same]⟩

theorem entrySelected_congr {snapshot snapshot' : OverridesSnapshot} {k : Address}
    (priced : snapshot.pricedAddresses.get? k = snapshot'.pricedAddresses.get? k)
    (selected : List Address) :
    entrySelected snapshot k selected = entrySelected snapshot' k selected := by
  unfold entrySelected
  rw [priced]

/-- Where no entry under `q` writes the slot, the order of the others decides its value. -/
theorem AgreeOff.at?_alike {q : Address} {snapshot snapshot' : OverridesSnapshot}
    (agree : AgreeOff q snapshot snapshot') {order order' : HashOrder}
    (visits : ((order'.perPamm snapshot'.perPamm).1.filter fun e => e.1 ≠ q) =
      (order.perPamm snapshot.perPamm).1.filter fun e => e.1 ≠ q)
    {contract : Address} {slot : Word}
    (silent : ∀ e ∈ snapshot.perPamm.entries, e.1 = q → e.2.at? contract slot = none)
    (silent' : ∀ e ∈ snapshot'.perPamm.entries, e.1 = q → e.2.at? contract slot = none)
    (default : ¬ (q = bebop ∧ contract = bebop ∧ slot = bebopDefaultSlot))
    (options : ToStateOverrideOptions) :
    (toStateOverride order snapshot options).at? contract slot =
      (toStateOverride order' snapshot' options).at? contract slot := by
  have kept : ((keptEntries order snapshot options).filter fun e => e.1 ≠ q) =
      (keptEntries order' snapshot' options).filter fun e => e.1 ≠ q := by
    have alike : ∀ k, k ≠ q → (!options.pamms.any fun s => !entrySelected snapshot k s) =
        !options.pamms.any fun s => !entrySelected snapshot' k s := by
      intro k other
      simp only [entrySelected_congr (agree.priced k other)]
    exact filter_others visits.symm alike
  have values : ((keptEntries order snapshot options).filterMap fun e => e.2.at? contract slot) =
      (keptEntries order' snapshot' options).filterMap fun e => e.2.at? contract slot := by
    rw [Dict.filterMap_others (q := q), kept, ← Dict.filterMap_others]
    · intro e member
      exact silent' e
        ((order'.perPamm snapshot'.perPamm).2.mem_iff.mp (List.mem_of_mem_filter member))
    · intro e member
      exact silent e ((order.perPamm snapshot.perPamm).2.mem_iff.mp (List.mem_of_mem_filter member))
  have injected :
      (injectsDefault order snapshot options ∧ contract = bebop ∧ slot = bebopDefaultSlot) ↔
      injectsDefault order' snapshot' options ∧ contract = bebop ∧ slot = bebopDefaultSlot := by
    refine and_congr_left fun here => ?_
    have other : bebop ≠ q := fun same => default ⟨same.symm, here⟩
    unfold injectsDefault
    rw [any_others other, kept, ← any_others other]
  rw [at?_toStateOverride, at?_toStateOverride, values]
  simp only [injected]

namespace Crates

variable (crates : Crates)

theorem agreeOff_parseVenues {l r : List Json} {x : Json} {q : Address} {contracts : ContractDiffs}
    (parsed : crates.parseVenue x = some (q, contracts)) :
    AgreeOff q (crates.parseVenues (l ++ x :: r)) (crates.parseVenues (l ++ r)) := by
  constructor
  · rw [(crates.perPamm_parseVenues (l ++ x :: r)).1, (crates.perPamm_parseVenues (l ++ r)).1]
    exact congrArg Dict.entries (Dict.restrict_others parsed l r .empty)
  · intro k other
    rw [(crates.perPamm_parseVenues (l ++ x :: r)).2, (crates.perPamm_parseVenues (l ++ r)).2]
    exact Dict.get?_others_map parsed crates.parsePriced l r .empty other

/-- Whatever the first payload's override gives for the spared slots under an order of the
    hash maps, the second's gives under another. -/
def Emulated (spares : Address → Word → Prop) (raw raw' : Json) (options : ToStateOverrideOptions) :
    Prop :=
  ∀ order, ∃ order' override override', crates.overrides order raw options = .ok override ∧
    crates.overrides order' raw' options = .ok override' ∧
    ∀ contract slot, spares contract slot → override.at? contract slot = override'.at? contract slot

/-- Whatever one more value is, what it and its quote address do not name is overridden as
without it. -/
theorem extra_entry_isolated (l r : List Json) (x : Json) (fields : List (String × Json))
    (options : ToStateOverrideOptions) :
    crates.Emulated (crates.Spares (l ++ x :: r) x) (payload fields (l ++ x :: r))
        (payload fields (l ++ r)) options ∧
      crates.Emulated (crates.Spares (l ++ x :: r) x) (payload fields (l ++ r))
        (payload fields (l ++ x :: r)) options := by
  have out : ∀ order venues, crates.overrides order (payload fields venues) options =
      .ok (toStateOverride order (crates.parseVenues venues) options) := fun _ _ => rfl
  cases parsed : crates.parseVenue x with
  | none =>
      have same : crates.parseVenues (l ++ x :: r) = crates.parseVenues (l ++ r) := by
        simp only [parseVenues, List.foldl_append, List.foldl_cons, addVenue, parsed]
      constructor
      · intro order
        exact ⟨order, _, _, out order _, out order _, fun _ _ _ => by rw [same]⟩
      · intro order
        exact ⟨order, _, _, out order _, out order _, fun _ _ _ => by rw [same]⟩
  | some e =>
      have agree := crates.agreeOff_parseVenues (l := l) (r := r) parsed
      have silent : ∀ venues, (∀ venue ∈ venues, venue ∈ l ++ x :: r) → ∀ contract slot,
          crates.Spares (l ++ x :: r) x contract slot →
          ∀ f ∈ (crates.parseVenues venues).perPamm.entries, f.1 = e.1 →
          f.2.at? contract slot = none := by
        intro venues among contract slot spares f member here
        obtain ⟨venue, listed, read⟩ := crates.mem_perPamm member
        exact not_not.mp
          ((spares e.1 e.2 parsed).1 venue (among venue listed) f.2 (by rw [read, ← here]))
      have with_x := silent (l ++ x :: r) fun _ listed => listed
      have without_x := silent (l ++ r) fun venue listed =>
        ((List.sublist_cons_self x r).append_left l).subset listed
      constructor
      · intro order
        obtain ⟨order', visits⟩ := agree.exists_order order
        refine ⟨order', _, _, out order _, out order' _, fun contract slot spares => ?_⟩
        exact agree.at?_alike visits (with_x contract slot spares) (without_x contract slot spares)
          (spares e.1 e.2 parsed).2 options
      · intro order
        obtain ⟨order', visits⟩ := agree.symm.exists_order order
        refine ⟨order', _, _, out order _, out order' _, fun contract slot spares => ?_⟩
        exact agree.symm.at?_alike visits (without_x contract slot spares)
          (with_x contract slot spares) (spares e.1 e.2 parsed).2 options

end Crates

end PropAMM.Rust

namespace PropAMM.Overrides

open Text
open Rust.Crates (documented)

/-- Both payloads are flattened without an error, into addresses and words, and alike on the
    slots that are spared. -/
def Contained (spares : Address → Word → Prop) (override override' : Option StateOverride) : Prop :=
  ∃ out out', override = some out ∧ override' = some out' ∧ Typed out ∧
    ∀ contract slot, spares contract slot → valuesAt out contract slot = valuesAt out' contract slot

/-! ## Samples -/

namespace Sample

/-- The address as it is printed, Bebop's in its checksum case. -/
def checksum (a : Address) : String :=
  if a = bebop then "0xB09AAA8933626d7E4C48D65dAd2D77021CFBCA9a" else addressText a

def toChecksumAddress (s : String) : Option String := (address? s).map checksum

def python : Python.Overrides.Library where
  lower s := s
  decimal _ := none
  space _ := false
  toChecksumAddress := toChecksumAddress

theorem address?_checksum (a : Address) : address? (checksum a) = some a := by
  by_cases isBebop : a = bebop
  · rw [isBebop]
    decide +kernel
  · have lowerCase : checksum a = addressText a := if_neg isBebop
    rw [lowerCase, address?_addressText]

theorem python_documented : python.Documented := by
  intro a
  have same : python.toChecksumAddress = toChecksumAddress := rfl
  refine ⟨checksum a, ?_, address?_checksum a⟩
  rw [same, toChecksumAddress, address?_addressText, Option.map_some]

def typescript : TypeScript.Overrides.Library where
  toLowerCase s := s
  padHex s := (shortWord? s).map wordText

theorem typescript_documented : typescript.Documented := by
  intro s w short
  exact ⟨wordText w, congrArg (Option.map wordText) short, word?_wordText w⟩

def contract : String := "0x1111111111111111111111111111111111111111"

def quoteAddress : String := "0x00000000000000000000000000000000000000bb"

def venue (quoteAddress : String) (contracts : List (String × Json)) : Json :=
  .obj [("quoteAddress", .str quoteAddress), ("stateOverride", .obj contracts), ("slot", .int 9)]

def diffs (stateDiff : List (String × Json)) : Json := .obj [("stateDiff", .obj stateDiff)]

/-- An entry that writes `0x2a` to slot 1. -/
def maker : Json :=
  venue "0x00000000000000000000000000000000000000aa" [(contract, diffs [("0x1", .str "0x2a")])]

theorem wellFormed_maker : WellFormed maker where
  quoteAddress := ⟨_, rfl, by decide +kernel⟩
  stateOverride := by
    refine ⟨_, rfl, fun c member => ?_⟩
    rw [List.mem_singleton.mp member]
    refine ⟨by decide +kernel, _, rfl, fun d member => ?_⟩
    rw [List.mem_singleton.mp member]
    exact ⟨by decide +kernel, _, rfl, by decide +kernel⟩
  state_override := rfl
  context := by
    intro key listed field read
    rcases List.mem_cons.mp listed with rfl | listed
    · exact ⟨9, (Option.some.inj read).symm⟩
    · rcases List.mem_pair.mp listed with rfl | rfl
      · cases read
      · cases read

/-- The maker's entry once more, with a value for slot 1 that is no word. -/
def remake : Json :=
  venue "0x00000000000000000000000000000000000000aa"
    [(contract, diffs [("0x1", .str "none"), ("0x2", .str "0x1")])]

def bebopEntry : Json :=
  venue "0xb09aaa8933626d7e4c48d65dad2d77021cfbca9a" [(contract, diffs [("0x2", .str "0x1")])]

/-- Its one contract is no address. -/
def unaddressed : Json :=
  venue quoteAddress [("none", diffs [("0x2", .str "0x1")])]

/-- Its block number is no number. -/
def unnumbered : Json := .obj [
  ("quoteAddress", .str quoteAddress),
  ("stateOverride", .obj [(contract, diffs [("0x2", .str "0x1")])]),
  ("blockNumber", .str "none")]

/-- Of its parts the parsers keep slot 3. -/
def spoiled : Json := .obj [
  ("quoteAddress", .str quoteAddress),
  ("stateOverride", .obj [(contract, diffs [("0x2", .int 5), ("0x3", .str "0x4")]),
    ("none", .int 7)]),
  ("blockNumber", .bool true)]

def rustAll : Rust.ToStateOverrideOptions := ⟨none, false⟩

def pythonAll : Python.Overrides.Options := ⟨none, true⟩

def typescriptAll : TypeScript.Overrides.Options := ⟨none, true⟩

/-- Slot 3 of the contract, as Python keeps it. -/
def pythonKept : Python.Overrides.ContractDiffs :=
  Dict.empty.insert contract (Dict.empty.insert 3 4)

/-- Slot 3 of the contract, as TypeScript keeps it. -/
def typescriptKept : TypeScript.Overrides.ContractDiffs :=
  Dict.empty.insert contract (Dict.empty.insert "0x3" "0x4")

theorem python_spoiled : python.parseVenue spoiled = some (quoteAddress, pythonKept) := by
  decide +kernel

theorem typescript_spoiled :
    typescript.parseVenue spoiled = some (quoteAddress, typescriptKept) := by
  decide +kernel

theorem contract_text : contract = addressText Rust.Stale.contract := by
  decide +kernel

theorem python_sound {q : String} {contracts : Python.Overrides.ContractDiffs}
    (parsed : python.parseVenue spoiled = some (q, contracts)) :
    Python.Overrides.SoundDiffs contracts := by
  rw [python_spoiled] at parsed
  cases parsed
  intro c member
  rw [List.mem_singleton.mp member]
  refine ⟨⟨_, contract_text⟩, fun d written => ?_⟩
  rw [List.mem_singleton.mp written]
  exact ⟨⟨by decide, by decide⟩, by decide, by decide⟩

theorem typescript_sound : typescript.SoundEntry spoiled := by
  intro q contracts parsed
  rw [typescript_spoiled] at parsed
  cases parsed
  refine ⟨⟨rfl, rfl, rfl⟩, by decide, fun c member => ?_⟩
  rw [List.mem_singleton.mp member]
  refine ⟨⟨_, contract_text⟩, fun d written => ?_⟩
  rw [List.mem_singleton.mp written]
  exact ⟨by decide +kernel, by decide +kernel⟩

/-- An entry of another quote address than the maker's spares what it does not name itself. -/
theorem spares_slot {π χ : Type} {parseVenue : Json → Option (π × χ)} {names : χ → Prop}
    {takesDefault : π → Prop} {q : π} {c : χ} (parsed : parseVenue spoiled = some (q, c))
    (other : ∀ c', parseVenue maker ≠ some (q, c')) (silent : ¬ names c)
    (default : ¬ takesDefault q) :
    Spared parseVenue names takesDefault [maker, spoiled] spoiled := by
  intro q' c' read
  rw [parsed] at read
  cases read
  refine ⟨fun venue listed c' read => ?_, default⟩
  rcases List.mem_pair.mp listed with rfl | rfl
  · exact absurd read (other c')
  · rw [parsed] at read
    cases read
    exact silent

end Sample

/-! ## The three SDKs -/

open Sample

/-- Among well-formed entries one more changes no slot but those that it or another entry of
its quote address names, and Bebop's default: in Rust whatever the value is, in Python and
in TypeScript where the parts that the parser keeps are sound. -/
theorem extra_entry_contained (crates : Rust.Crates) {python : Python.Overrides.Library}
    {typescript : TypeScript.Overrides.Library} (checksums : python.Documented)
    (pads : typescript.Documented) {l r : List Json}
    (wellFormed : ∀ venue ∈ l ++ r, WellFormed venue) (x : Json) (fields : List (String × Json)) :
    (∀ options,
        crates.Emulated (crates.Spares (l ++ x :: r) x) (payload fields (l ++ x :: r))
            (payload fields (l ++ r)) options ∧
          crates.Emulated (crates.Spares (l ++ x :: r) x) (payload fields (l ++ r))
            (payload fields (l ++ x :: r)) options) ∧
      (python.parseOverridesMessage (payload fields (l ++ x :: r))).isSome ∧
      ((∀ q contracts, python.parseVenue x = some (q, contracts) →
        Python.Overrides.SoundDiffs contracts) →
        ∀ options, Contained (python.Spares (l ++ x :: r) x)
          (python.overrides (payload fields (l ++ x :: r)) options)
          (python.overrides (payload fields (l ++ r)) options)) ∧
      (typescript.SoundEntry x →
        ∀ options, Contained (typescript.Spares (l ++ x :: r) x)
          (typescript.overrides (payload fields (l ++ x :: r)) options)
          (typescript.overrides (payload fields (l ++ r)) options)) := by
  refine ⟨fun options => ?_, rfl, fun sound options => ?_, fun sound options => ?_⟩
  · exact crates.extra_entry_isolated l r x fields options
  · exact Python.Overrides.Library.extra_entry_isolated checksums wellFormed sound fields options
  · exact TypeScript.Overrides.Library.extra_entry_isolated pads wellFormed sound fields options

theorem extra_entry_contained_spoiled :
    (documented.Emulated (documented.Spares [maker, spoiled] spoiled) (payload [] [maker, spoiled])
          (payload [] [maker]) rustAll
        ∧ documented.Emulated (documented.Spares [maker, spoiled] spoiled) (payload [] [maker])
            (payload [] [maker, spoiled]) rustAll
        ∧ documented.Spares [maker, spoiled] spoiled Rust.Stale.contract 1)
      ∧ (Contained (python.Spares [maker, spoiled] spoiled)
            (python.overrides (payload [] [maker, spoiled]) pythonAll)
            (python.overrides (payload [] [maker]) pythonAll)
        ∧ python.Spares [maker, spoiled] spoiled Rust.Stale.contract 1)
      ∧ (Contained (typescript.Spares [maker, spoiled] spoiled)
            (typescript.overrides (payload [] [maker, spoiled]) typescriptAll)
            (typescript.overrides (payload [] [maker]) typescriptAll)
        ∧ typescript.Spares [maker, spoiled] spoiled Rust.Stale.contract 1) := by
  have wellFormed : ∀ venue ∈ [maker] ++ [], WellFormed venue := by
    intro venue listed
    rw [List.mem_singleton.mp listed]
    exact wellFormed_maker
  obtain ⟨rust, _, ofPython, ofTypescript⟩ :=
    extra_entry_contained documented python_documented typescript_documented wellFormed spoiled []
  refine ⟨⟨(rust rustAll).1, (rust rustAll).2, ?_⟩,
    ⟨ofPython (fun _ _ parsed => python_sound parsed) pythonAll, ?_⟩,
    ofTypescript typescript_sound typescriptAll, ?_⟩
  · refine spares_slot (q := 0xbb) rfl (fun c' read => ?_) (by decide +kernel) (by decide +kernel)
    have key : (documented.parseVenue maker).map Prod.fst ≠ some 0xbb := by decide +kernel
    exact key (by rw [read]; rfl)
  · refine spares_slot python_spoiled (fun c' read => ?_) ?_ (by decide +kernel)
    · have key : (python.parseVenue maker).map Prod.fst ≠ some quoteAddress := by decide +kernel
      exact key (by rw [read]; rfl)
    · unfold Names
      decide +kernel
  · refine spares_slot typescript_spoiled (fun c' read => ?_) ?_ (by decide +kernel)
    · have key : (typescript.parseVenue maker).map Prod.fst ≠ some quoteAddress := by decide +kernel
      exact key (by rw [read]; rfl)
    · unfold Names
      decide +kernel

/-- What an entry leaves out takes the place of what the maker's other entry writes, an entry of
Bebop's keeps its default away, and a contract key or a block number of one entry makes the
whole merge or the whole parser fail. -/
theorem malformed_entry_poisons :
    WellFormed maker
      ∧ ((∃ contracts, documented.parseVenue remake = some (0xaa, contracts) ∧
            contracts.at? Rust.Stale.contract 1 = none)
        ∧ (∃ out, documented.overrides Rust.Stale.order (payload [] [maker]) rustAll = .ok out ∧
            out.at? Rust.Stale.contract 1 = some 0x2a)
        ∧ ∃ out, documented.overrides Rust.Stale.order (payload [] [maker, remake]) rustAll =
          .ok out ∧
            out.at? Rust.Stale.contract 1 = none)
      ∧ ((∃ contracts, documented.parseVenue bebopEntry = some (bebop, contracts) ∧
            contracts.at? bebop defaultSlot = none)
        ∧ (∃ out, documented.overrides Rust.Stale.order (payload [] [maker]) rustAll = .ok out ∧
            out.at? bebop defaultSlot = some 0)
        ∧ ∃ out, documented.overrides Rust.Stale.order (payload [] [maker, bebopEntry]) rustAll =
          .ok out ∧
            out.at? bebop defaultSlot = none)
      ∧ ((python.overrides (payload [] [maker]) pythonAll).isSome
        ∧ python.overrides (payload [] [maker, unaddressed]) pythonAll = none)
      ∧ ((typescript.parseOverridesMessage (payload [] [maker])).isSome
        ∧ typescript.overrides (payload [] [maker, unnumbered]) typescriptAll = none) := by
  refine ⟨wellFormed_maker, ⟨⟨_, rfl, ?_⟩, ⟨_, rfl, ?_⟩, _, rfl, ?_⟩,
    ⟨⟨_, rfl, ?_⟩, ⟨_, rfl, ?_⟩, _, rfl, ?_⟩, ⟨?_, ?_⟩, ?_, ?_⟩
  all_goals decide +kernel

end PropAMM.Overrides
