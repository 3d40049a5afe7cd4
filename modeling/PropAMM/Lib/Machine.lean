import Mathlib.Data.List.Induction

/-! # Machines that take steps

A machine has a start and a step for each label, `none` where the label is not
enabled. A step gives off events. An invariant is proved once of a step and holds
of every run; a run may be restricted to steps that meet a condition. What must
stand between two events of a trace is proved from what holds while it is due.
-/

structure Machine (σ α ε : Type) where
  start : σ
  step : σ → α → Option (σ × List ε)

namespace Machine

variable {σ α ε : Type} {M : Machine σ α ε}

/-- A run all of whose steps meet `C`: its labels, the state reached, the events given off. -/
inductive RunsWhere (M : Machine σ α ε) (C : σ → α → Prop) : List α → σ → List ε → Prop
  | start : RunsWhere M C [] M.start []
  | step {labels s trace a s' events} :
      RunsWhere M C labels s trace → C s a → M.step s a = some (s', events) →
        RunsWhere M C (labels ++ [a]) s' (trace ++ events)

/-- Any run. -/
abbrev Runs (M : Machine σ α ε) : List α → σ → List ε → Prop := M.RunsWhere fun _ _ => True

/-- The run along given labels, computed. -/
def run (M : Machine σ α ε) (labels : List α) : Option (σ × List ε) :=
  labels.foldlM (fun r a => (M.step r.1 a).map fun next => (next.1, r.2 ++ next.2)) (M.start, [])

theorem runs_of_run {labels : List α} {s : σ} {trace : List ε}
    (ran : M.run labels = some (s, trace)) : M.Runs labels s trace := by
  induction labels using List.reverseRecOn generalizing s trace with
  | nil =>
      cases ran
      exact .start
  | append_singleton labels a ih =>
      unfold run at ran
      rw [List.foldlM_append] at ran
      obtain ⟨r, before, last⟩ := Option.bind_eq_some_iff.mp ran
      rw [List.foldlM_cons] at last
      obtain ⟨r', stepped, done⟩ := Option.bind_eq_some_iff.mp last
      obtain ⟨next, step, rfl⟩ := Option.map_eq_some_iff.mp stepped
      cases done
      exact .step (ih before) trivial step

namespace RunsWhere

variable {C : σ → α → Prop} {labels : List α} {s : σ} {trace : List ε}

/-- What holds at the start and is kept by every step holds of every state reached. -/
theorem invariant {I : σ → Prop} (run : M.RunsWhere C labels s trace) (start : I M.start)
    (keep : ∀ {s a s' events}, I s → C s a → M.step s a = some (s', events) → I s') : I s := by
  induction run with
  | start => exact start
  | step _ meets step ih => exact keep ih meets step

/-- The last step of a run. -/
theorem concat_inv {a : α} (run : M.RunsWhere C (labels ++ [a]) s trace) :
    ∃ s₀ trace₀ events, M.RunsWhere C labels s₀ trace₀ ∧ C s₀ a ∧ M.step s₀ a = some (s, events)
      ∧ trace = trace₀ ++ events := by
  generalize whole : labels ++ [a] = l at run
  cases run with
  | start => simp at whole
  | step run meets step =>
      obtain ⟨same, last⟩ := List.append_inj' whole rfl
      cases same
      cases last
      exact ⟨_, _, _, run, meets, step, rfl⟩

/-- The labels decide the run. -/
theorem det {D : σ → α → Prop} {s' : σ} {trace' : List ε} (run : M.RunsWhere C labels s trace)
    (run' : M.RunsWhere D labels s' trace') : s = s' ∧ trace = trace' := by
  induction run generalizing s' trace' with
  | start =>
      generalize none : ([] : List α) = l at run'
      cases run' with
      | start => exact ⟨rfl, rfl⟩
      | step => simp at none
  | step _ _ step ih =>
      obtain ⟨s₀, trace₀, events, before, _, step', rfl⟩ := run'.concat_inv
      obtain ⟨rfl, rfl⟩ := ih before
      cases step.symm.trans step'
      exact ⟨rfl, rfl⟩

/-- A property holds in every state of a run exactly when every step meets the condition, where
the steps that meet it keep an invariant and the others break the property. -/
theorem always_iff {J P : σ → Prop} (start : J M.start)
    (keep : ∀ {s a s' events}, J s → C s a → M.step s a = some (s', events) → J s')
    (holds : ∀ {s}, J s → P s)
    (breaks : ∀ {s a s' events}, J s → ¬ C s a → M.step s a = some (s', events) → ¬ P s')
    (run : M.Runs labels s trace) :
    (∀ before s' trace', before <+: labels → M.Runs before s' trace' → P s') ↔
    M.RunsWhere C labels s trace := by
  constructor
  · intro always
    induction run with
    | start => exact .start
    | @step labels s trace a s' events run _ step ih =>
        have earlier : M.RunsWhere C labels s trace := by
          apply ih
          intro before s' trace' isPrefix
          exact always before s' trace' (isPrefix.trans (List.prefix_append ..))
        by_cases meets : C s a
        · exact .step earlier meets step
        · have broken := breaks (earlier.invariant start keep) meets step
          exact absurd (always _ _ _ (List.prefix_refl _) (.step run trivial step)) broken
  · intro meets before s' trace' isPrefix ran
    clear run
    induction meets generalizing before s' trace' with
    | start =>
        obtain rfl := List.prefix_nil.mp isPrefix
        obtain ⟨rfl, _⟩ := ran.det (D := C) .start
        exact holds start
    | @step labels s trace a s₁ events run meets step ih =>
        cases List.prefix_concat_iff.mp isPrefix with
        | inl whole =>
            subst whole
            have reached := RunsWhere.step run meets step
            obtain ⟨rfl, _⟩ := ran.det reached
            exact holds (reached.invariant start keep)
        | inr earlier => exact ih before s' trace' earlier ran

end RunsWhere

/-! ## Between two events -/

section Traces

variable {opens closes bad : ε → Prop}

/-- An opening event with no closing event since. -/
def Open (opens closes : ε → Prop) (trace : List ε) : Prop :=
  ∃ before e since, trace = before ++ e :: since ∧ opens e ∧ ∀ x ∈ since, ¬ closes x

/-- Between an opening event and a later bad one a closing event stands. -/
def Separated (opens closes bad : ε → Prop) (trace : List ε) : Prop :=
  ∀ before e between x after, trace = before ++ e :: (between ++ x :: after) → opens e → bad x →
    ∃ y ∈ between, closes y

theorem open_concat {trace : List ε} {e : ε} :
    Open opens closes (trace ++ [e]) ↔ opens e ∨ Open opens closes trace ∧ ¬ closes e := by
  constructor
  · rintro ⟨before, o, since, parts, opening, unclosed⟩
    induction since using List.reverseRecOn with
    | nil =>
        obtain ⟨_, same⟩ := List.append_inj' parts rfl
        cases same
        exact .inl opening
    | append_singleton since last _ =>
        have regrouped : trace ++ [e] = (before ++ o :: since) ++ [last] := by simpa using parts
        obtain ⟨earlier, same⟩ := List.append_inj' regrouped rfl
        cases same
        refine .inr ⟨⟨before, o, since, earlier, opening, ?_⟩, unclosed e (by simp)⟩
        intro x member
        exact unclosed x (List.mem_append_left _ member)
  · intro either
    cases either with
    | inl opening => exact ⟨trace, e, [], rfl, opening, by simp⟩
    | inr earlier =>
        obtain ⟨⟨before, o, since, parts, opening, unclosed⟩, not_closing⟩ := earlier
        refine ⟨before, o, since ++ [e], by simp [parts], opening, ?_⟩
        intro x member
        cases List.mem_append.mp member with
        | inl old => exact unclosed x old
        | inr new =>
            rw [List.mem_singleton.mp new]
            exact not_closing

/-- Events that open nothing leave nothing open that was not. -/
theorem Open.of_append {trace events : List ε} (inert : ∀ e ∈ events, ¬ opens e)
    (due : Open opens closes (trace ++ events)) : Open opens closes trace := by
  induction events using List.reverseRecOn with
  | nil => simpa using due
  | append_singleton events e ih =>
      rw [← List.append_assoc, open_concat] at due
      cases due with
      | inl opening => exact absurd opening (inert e (by simp))
      | inr earlier => exact ih (fun x member => inert x (List.mem_append_left _ member)) earlier.1

theorem not_open_nil : ¬ Open opens closes ([] : List ε) := by
  rintro ⟨before, e, since, parts, _⟩
  simp at parts

theorem separated_nil : Separated opens closes bad ([] : List ε) := by
  intro before e between x after parts
  simp at parts

theorem separated_concat {trace : List ε} {e : ε} (separated : Separated opens closes bad trace)
    (guarded : bad e → ¬ Open opens closes trace) : Separated opens closes bad (trace ++ [e]) := by
  intro before o between x after parts opening isBad
  induction after using List.reverseRecOn with
  | nil =>
      have regrouped : trace ++ [e] = (before ++ o :: between) ++ [x] := by simpa using parts
      obtain ⟨earlier, same⟩ := List.append_inj' regrouped rfl
      cases same
      by_contra none
      refine guarded isBad ⟨before, o, between, earlier, opening, ?_⟩
      intro y member closing
      exact none ⟨y, member, closing⟩
  | append_singleton after last _ =>
      have regrouped : trace ++ [e] = (before ++ o :: (between ++ x :: after)) ++ [last] := by
        simpa using parts
      obtain ⟨earlier, _⟩ := List.append_inj' regrouped rfl
      exact separated before o between x after earlier opening isBad

/-- The events of one step, each bad one after what is due. -/
theorem separated_append {trace events : List ε} (separated : Separated opens closes bad trace)
    (guarded : ∀ before x after, events = before ++ x :: after → bad x →
      ¬ Open opens closes (trace ++ before)) :
    Separated opens closes bad (trace ++ events) := by
  induction events using List.reverseRecOn with
  | nil => simpa using separated
  | append_singleton events e ih =>
      rw [← List.append_assoc]
      apply separated_concat
      · apply ih
        intro before x after parts
        exact guarded before x (after ++ [e]) (by simp [parts])
      · exact guarded events e [] rfl

theorem separated_append_inert {trace events : List ε}
    (separated : Separated opens closes bad trace) (inert : ∀ e ∈ events, ¬ bad e) :
    Separated opens closes bad (trace ++ events) := by
  refine separated_append separated fun before x after parts isBad => ?_
  exact absurd isBad (inert x (by simp [parts]))

end Traces

end Machine
