import PropAMM.Sdk.RustOverrides

/-! # Which cached override reaches a quote

The stream's cache keeps each pAMM's last received entry, and with it no time of
receipt. Where several entries write one slot, the merge emits what the entry
writes that its hash map visits last: any of them.
-/

namespace PropAMM.Rust

open Crates (documented)

/-! ## The cache -/

namespace Crates

variable (crates : Crates)

/-- The entries a frame carries. -/
def carried (frame : Option Json) : Dict Address ContractDiffs :=
  match frame.map crates.parseOverridesMessage with
  | some (.ok snapshot) => snapshot.perPamm
  | _ => .empty

/-- The cache after a stream of frames. -/
def received (frames : List (Option Json)) : OverridesSnapshot :=
  frames.foldl (fun snapshot frame => (crates.applyFrame snapshot frame).1) .default

/-- The frame at `i` is the last that carries an entry of the pAMM, and this is the entry. -/
structure ReceivedAt (frames : List (Option Json)) (pamm : Address) (i : Nat)
    (entry : ContractDiffs) : Prop where
  carried : ∃ frame, frames[i]? = some frame ∧ (crates.carried frame).get? pamm = some entry
  last : ∀ j frame, i < j → frames[j]? = some frame → (crates.carried frame).get? pamm = none

/-- Of the cached entries that write the slot, one received last writes `v` there. -/
def Freshest (frames : List (Option Json)) (contract : Address) (slot v : Word) : Prop :=
  ∃ pamm i entry, crates.ReceivedAt frames pamm i entry ∧ entry.at? contract slot = some v
    ∧ ∀ pamm' j entry', crates.ReceivedAt frames pamm' j entry' → entry'.at? contract slot ≠ none
    → j ≤ i

theorem get?_applyFrame (snapshot : OverridesSnapshot) (frame : Option Json) (pamm : Address) :
    (crates.applyFrame snapshot frame).1.perPamm.get? pamm
      = ((crates.carried frame).get? pamm).or (snapshot.perPamm.get? pamm) := by
  unfold applyFrame carried
  cases frame with
  | none => rfl
  | some value =>
      cases parsed : crates.parseOverridesMessage value with
      | error e => simp [parsed]
      | ok message =>
          simp only [Option.map_some, parsed]
          exact Dict.get?_insertAll ..

theorem receivedAt_concat {frames : List (Option Json)} {frame : Option Json}
    {pamm : Address} {i : Nat} {entry : ContractDiffs} :
    crates.ReceivedAt (frames ++ [frame]) pamm i entry ↔
      i = frames.length ∧ (crates.carried frame).get? pamm = some entry
        ∨ (crates.carried frame).get? pamm = none ∧ crates.ReceivedAt frames pamm i entry := by
  have newest : (frames ++ [frame])[frames.length]? = some frame := List.getElem?_concat_length
  have older : ∀ {j}, j < frames.length → (frames ++ [frame])[j]? = frames[j]? :=
    List.getElem?_append_left
  have bound : ∀ {j f}, (frames ++ [frame])[j]? = some f → j < frames.length ∨
      j = frames.length := by
    intro j f found
    obtain ⟨within, _⟩ := List.getElem?_eq_some_iff.mp found
    rw [List.length_append, List.length_singleton] at within
    omega
  constructor
  · intro received
    obtain ⟨f, found, carries⟩ := received.carried
    cases bound found with
    | inl before =>
        have dropped := received.last _ _ before newest
        refine .inr ⟨dropped, ⟨f, (older before).symm.trans found, carries⟩, ?_⟩
        intro j g later at_j
        have within := (List.getElem?_eq_some_iff.mp at_j).1
        exact received.last j g later ((older within).trans at_j)
    | inr here =>
        subst here
        rw [newest] at found
        cases found
        exact .inl ⟨rfl, carries⟩
  · intro cases
    rcases cases with ⟨rfl, carries⟩ | ⟨dropped, ⟨f, found, carries⟩, last⟩
    · refine ⟨⟨frame, newest, carries⟩, ?_⟩
      intro j g later at_j
      cases bound at_j <;> omega
    · have within := (List.getElem?_eq_some_iff.mp found).1
      refine ⟨⟨f, (older within).trans found, carries⟩, ?_⟩
      intro j g later at_j
      cases bound at_j with
      | inl before => exact last j g later ((older before).symm.trans at_j)
      | inr here =>
          subst here
          rw [newest] at at_j
          cases at_j
          exact dropped

theorem cached_iff (frames : List (Option Json)) (pamm : Address) (entry : ContractDiffs) :
    (crates.received frames).perPamm.get? pamm = some entry ↔
    ∃ i, crates.ReceivedAt frames pamm i entry := by
  induction frames using List.reverseRecOn with
  | nil =>
      constructor
      · intro cached
        cases cached
      · rintro ⟨i, ⟨frame, found, _⟩, _⟩
        cases found
  | append_singleton frames frame ih =>
      have step : crates.received (frames ++ [frame]) =
          (crates.applyFrame (crates.received frames) frame).1 :=
        List.foldl_concat ..
      simp only [step, get?_applyFrame, receivedAt_concat]
      cases carries : (crates.carried frame).get? pamm with
      | none => simp [ih]
      | some newest => simp

end Crates

/-- Some cached entry writes `v` to the slot. -/
def OverridesSnapshot.Writes (snapshot : OverridesSnapshot) (contract : Address) (slot v : Word) :
    Prop :=
  ∃ pamm entry, snapshot.perPamm.get? pamm = some entry ∧ entry.at? contract slot = some v

namespace Crates

variable (crates : Crates)

theorem Freshest.writes {frames : List (Option Json)} {contract : Address} {slot v : Word}
    (freshest : crates.Freshest frames contract slot v) :
    (crates.received frames).Writes contract slot v := by
  obtain ⟨pamm, i, entry, received, written, _⟩ := freshest
  exact ⟨pamm, entry, (crates.cached_iff frames pamm entry).mpr ⟨i, received⟩, written⟩

open Classical in
/-- A slot that some cached entry writes has a freshest writer. -/
theorem exists_freshest {frames : List (Option Json)} {contract : Address} {slot v : Word}
    (written : (crates.received frames).Writes contract slot v) :
    ∃ w, crates.Freshest frames contract slot w := by
  let writtenAt (i : Nat) : Prop :=
    ∃ pamm entry, crates.ReceivedAt frames pamm i entry ∧ entry.at? contract slot ≠ none
  have bounded : ∀ i, writtenAt i → i ≤ frames.length := by
    rintro i ⟨pamm, entry, received, _⟩
    obtain ⟨frame, found, _⟩ := received.carried
    exact (List.getElem?_eq_some_iff.mp found).1.le
  obtain ⟨pamm, entry, cached, at_entry⟩ := written
  obtain ⟨i, received⟩ := (crates.cached_iff frames pamm entry).mp cached
  have here : writtenAt i := ⟨pamm, entry, received, by simp [at_entry]⟩
  obtain ⟨pamm', entry', latest, writes⟩ := Nat.findGreatest_spec (bounded i here) here
  obtain ⟨w, at_latest⟩ := Option.ne_none_iff_exists'.mp writes
  refine ⟨w, pamm', _, entry', latest, at_latest, ?_⟩
  intro other j otherEntry received_other writes_other
  have there : writtenAt j := ⟨other, otherEntry, received_other, writes_other⟩
  exact Nat.le_findGreatest (bounded j there) there

end Crates

/-! ## The merge -/

/-- The override set of all cached entries, with no default added. -/
def emitted (order : HashOrder) (snapshot : OverridesSnapshot) : StateOverrideSet :=
  toStateOverride order snapshot { pamms := none, skipBebopDefault := true }

theorem at?_emitted (order : HashOrder) (snapshot : OverridesSnapshot) (contract : Address)
    (slot : Word) : (emitted order snapshot).at? contract slot
      = ((order.perPamm snapshot.perPamm).1.filterMap fun e => e.2.at? contract slot).getLast? := by
  have kept : keptEntries order snapshot { pamms := none, skipBebopDefault := true }
      = (order.perPamm snapshot.perPamm).1 := List.filter_eq_self.mpr fun _ _ => rfl
  unfold emitted
  rw [at?_toStateOverride, kept]
  exact if_neg fun injected => Bool.false_ne_true injected.1

theorem mem_visit {order : HashOrder} {snapshot : OverridesSnapshot} {contract : Address}
    {slot v : Word} :
    v ∈ ((order.perPamm snapshot.perPamm).1.filterMap fun e => e.2.at? contract slot) ↔
      snapshot.Writes contract slot v := by
  rw [List.mem_filterMap]
  constructor
  · rintro ⟨e, visited, written⟩
    exact ⟨e.1, e.2, Dict.mem_entries.mp ((order.perPamm snapshot.perPamm).2.mem_iff.mp visited),
      written⟩
  · rintro ⟨pamm, entry, cached, written⟩
    exact ⟨_, (order.perPamm snapshot.perPamm).2.mem_iff.mpr (Dict.mem_entries.mpr cached), written⟩

theorem writes_of_emitted {order : HashOrder} {snapshot : OverridesSnapshot} {contract : Address}
    {slot v : Word} (value : (emitted order snapshot).at? contract slot = some v) :
    snapshot.Writes contract slot v := by
  rw [at?_emitted] at value
  exact mem_visit.mp (List.mem_of_getLast? value)

theorem emitted_of_writes {snapshot : OverridesSnapshot} {contract : Address} {slot v : Word}
    (order : HashOrder) (written : snapshot.Writes contract slot v) :
    ∃ w, (emitted order snapshot).at? contract slot = some w := by
  rw [at?_emitted, ← Option.isSome_iff_exists, List.getLast?_isSome]
  exact List.ne_nil_of_mem (mem_visit.mpr written)

open Classical in
/-- Visit the pAMMs in the order `l`, if that is one. -/
noncomputable def HashOrder.visiting (l : List (Address × ContractDiffs)) : HashOrder where
  perPamm d := if order : l.Perm d.entries then ⟨l, order⟩ else Dict.inserted d
  contracts _ := Dict.inserted
  slots _ _ := Dict.inserted
  merged := Dict.inserted
  mergedSlots _ := Dict.inserted

/-- Whatever some cached entry writes, some order emits. -/
theorem exists_order {snapshot : OverridesSnapshot} {contract : Address} {slot v : Word}
    (written : snapshot.Writes contract slot v) :
    ∃ order, (emitted order snapshot).at? contract slot = some v := by
  obtain ⟨pamm, entry, cached, at_entry⟩ := written
  obtain ⟨before, after, entries⟩ := List.append_of_mem (Dict.mem_entries.mpr cached)
  have order : (before ++ after ++ [(pamm, entry)]).Perm snapshot.perPamm.entries := by
    rw [entries, List.append_assoc]
    exact List.perm_append_comm.append_left before
  refine ⟨HashOrder.visiting (before ++ after ++ [(pamm, entry)]), ?_⟩
  have visit :
      ((HashOrder.visiting (before ++ after ++ [(pamm, entry)])).perPamm snapshot.perPamm).1 =
        before ++ after ++ [(pamm, entry)] := congrArg Subtype.val (dif_pos order)
  rw [at?_emitted, visit, List.filterMap_append]
  simp [at_entry]

/-- Every order emits the same value where, and only where, the writers agree. -/
theorem emitted_const_iff {snapshot : OverridesSnapshot} {contract : Address} {slot v : Word}
    (written : snapshot.Writes contract slot v) :
    (∀ order, (emitted order snapshot).at? contract slot = some v) ↔
      ∀ w, snapshot.Writes contract slot w → w = v := by
  constructor
  · intro all w other
    obtain ⟨order, value⟩ := exists_order other
    rw [all order] at value
    exact (Option.some.inj value).symm
  · intro agree order
    obtain ⟨w, value⟩ := emitted_of_writes order written
    rw [value, agree w (writes_of_emitted value)]

/-- The cache holds the last entry received for each pAMM, and the values that can be
emitted for a slot are those its entries write there: the freshest one under every order
of the maps exactly when no cached entry writes another. -/
theorem freshest_override (crates : Crates) (frames : List (Option Json)) :
    let snapshot := crates.received frames
    (∀ pamm entry, snapshot.perPamm.get? pamm = some entry ↔
      ∃ i, crates.ReceivedAt frames pamm i entry)
      ∧ (∀ contract slot v, snapshot.Writes contract slot v ↔
          ∃ order, (emitted order snapshot).at? contract slot = some v)
      ∧ (∀ contract slot v, snapshot.Writes contract slot v
        → ∃ w, crates.Freshest frames contract slot w)
      ∧ (∀ contract slot v, crates.Freshest frames contract slot v →
          ((∀ order, (emitted order snapshot).at? contract slot = some v) ↔
            ∀ w, snapshot.Writes contract slot w → w = v))
      ∧ ((∀ order order' contract slot,
            (emitted order snapshot).at? contract slot = (emitted order' snapshot).at?
              contract slot) ↔
          ∀ contract slot v w, snapshot.Writes contract slot v → snapshot.Writes contract slot w →
          v = w) := by
  refine ⟨crates.cached_iff frames, ?_, ?_, ?_, ?_⟩
  · intro contract slot v
    refine ⟨exists_order, ?_⟩
    rintro ⟨order, value⟩
    exact writes_of_emitted value
  · intro contract slot v written
    exact crates.exists_freshest written
  · intro contract slot v freshest
    exact emitted_const_iff freshest.writes
  · constructor
    · intro same contract slot v w written written'
      obtain ⟨order, value⟩ := exists_order written
      obtain ⟨order', value'⟩ := exists_order written'
      exact Option.some.inj (value.symm.trans ((same order order' contract slot).trans value'))
    · intro agree order order' contract slot
      cases value : (emitted order (crates.received frames)).at? contract slot with
      | some v =>
          have written := writes_of_emitted value
          have const :=
            (emitted_const_iff written).mpr fun w other => agree contract slot w v other written
          exact (const order').symm
      | none =>
          cases value' : (emitted order' (crates.received frames)).at? contract slot with
          | none => rfl
          | some w =>
              obtain ⟨v, value''⟩ := emitted_of_writes order (writes_of_emitted value')
              cases value.symm.trans value''

/-! ## An older value emitted -/

namespace Crates

variable (crates : Crates)

def Decodable (frame : Option Json) : Prop :=
  ∃ value snapshot, frame = some value ∧ crates.parseOverridesMessage value = .ok snapshot

/-- The entries of one payload agree on the slots they share. -/
def AgreeWithin (frame : Option Json) : Prop :=
  ∀ pamm pamm' entry entry' contract slot v v', (crates.carried frame).get? pamm = some entry →
    (crates.carried frame).get? pamm' = some entry' → entry.at? contract slot = some v →
      entry'.at? contract slot = some v' → v = v'

theorem agreeWithin_single {frame : Option Json} {pamm : Address} {entry : ContractDiffs}
    (single : crates.carried frame = Dict.empty.insert pamm entry) : crates.AgreeWithin frame := by
  have only : ∀ {p e}, (crates.carried frame).get? p = some e → e = entry := by
    intro p e carries
    rw [single, Dict.get?_insert] at carries
    split at carries
    · exact (Option.some.inj carries).symm
    · cases carries
  intro pamm₁ pamm₂ entry₁ entry₂ contract slot v v' carries₁ carries₂ at₁ at₂
  rw [only carries₁] at at₁
  rw [only carries₂] at at₂
  exact Option.some.inj (at₁.symm.trans at₂)

end Crates

namespace Stale

def frame (quoteAddress value : String) : Option Json :=
  some (.obj [("venues", .arr [.obj [
    ("quoteAddress", .str quoteAddress),
    ("stateOverride", .obj [("0x1111111111111111111111111111111111111111", .obj [
      ("stateDiff", .obj [("0x1", .str value)])])])]])])

def older : Option Json := frame "0x00000000000000000000000000000000000000aa" "0x2a"
def newer : Option Json := frame "0x00000000000000000000000000000000000000bb" "0x2b"

def contract : Address := 0x1111111111111111111111111111111111111111

/-- The entries visited latest first. -/
def order : HashOrder where
  perPamm d := ⟨d.entries.reverse, List.reverse_perm _⟩
  contracts _ := Dict.inserted
  slots _ _ := Dict.inserted
  merged := Dict.inserted
  mergedSlots _ := Dict.inserted

def entry (value : Word) : ContractDiffs := Dict.empty.insert contract (Dict.empty.insert 1 value)

theorem carried_older : documented.carried older = Dict.empty.insert 0xaa (entry 0x2a) := by
  decide +kernel

theorem carried_newer : documented.carried newer = Dict.empty.insert 0xbb (entry 0x2b) := by
  decide +kernel

end Stale

/-- Two decodable frames, one entry each: the older frame's value is emitted. -/
theorem stale_value_emitted :
    (∀ frame ∈ [Stale.older, Stale.newer], documented.Decodable frame ∧
      documented.AgreeWithin frame)
      ∧ documented.Freshest [Stale.older, Stale.newer] Stale.contract 1 0x2b
      ∧ (emitted Stale.order (documented.received [Stale.older, Stale.newer])).at?
        Stale.contract 1 = some 0x2a := by
  refine ⟨?_, ?_, ?_⟩
  · intro frame member
    rcases List.mem_pair.mp member with rfl | rfl
    · exact ⟨⟨_, _, rfl, rfl⟩, documented.agreeWithin_single Stale.carried_older⟩
    · exact ⟨⟨_, _, rfl, rfl⟩, documented.agreeWithin_single Stale.carried_newer⟩
  · refine ⟨0xbb, 1, Stale.entry 0x2b, ⟨⟨Stale.newer, rfl, ?_⟩, ?_⟩, ?_, ?_⟩
    · rw [Stale.carried_newer, Dict.get?_insert, if_pos rfl]
    · intro j frame later found
      have within := (List.getElem?_eq_some_iff.mp found).1
      simp only [List.length_cons, List.length_nil] at within
      omega
    · decide +kernel
    · intro pamm j entry received _
      obtain ⟨frame, found, _⟩ := received.carried
      have within := (List.getElem?_eq_some_iff.mp found).1
      simp only [List.length_cons, List.length_nil] at within
      omega
  · decide +kernel

end PropAMM.Rust
