import ComponentDocs.Document.Writer

/-! Steps taken one after another until one fails: how such a run splits, what it keeps, and
where it ends. -/
namespace ComponentDocs

variable {α σ ε : Type} {step : α → σ → Except ε Unit × σ}

theorem eachStep_append (first second : List α) (state : σ) :
    eachStep step (first ++ second) state =
      match eachStep step first state with
      | (.ok (), next) => eachStep step second next
      | (.error error, next) => (.error error, next) := by
  induction first generalizing state with
  | nil => rfl
  | cons item items ih =>
    rcases outcome : step item state with ⟨⟨⟩ | ⟨⟩, next⟩
    · simp only [List.cons_append, eachStep, outcome]
    · simp only [List.cons_append, eachStep, outcome, ih]

theorem eachStep_singleton (item : α) (state : σ) : eachStep step [item] state = step item state := by
  rcases outcome : step item state with ⟨⟨⟩ | ⟨⟩, next⟩ <;> simp only [eachStep, outcome]

/-- Steps on a part of the state can be taken on the whole. -/
theorem eachStep_embed {τ : Type} (outer : α → τ → Except ε Unit × τ) (embed : σ → τ)
    (agrees : ∀ item state, outer item (embed state) = ((step item state).1, embed (step item state).2))
    (items : List α) (state : σ) :
    eachStep outer items (embed state) =
      ((eachStep step items state).1, embed (eachStep step items state).2) := by
  induction items generalizing state with
  | nil => rfl
  | cons item items ih =>
    rcases outcome : step item state with ⟨⟨⟩ | ⟨⟩, next⟩
    · simp only [eachStep, agrees, outcome]
    · simp only [eachStep, agrees, outcome, ih]

/-- What every step keeps, also one that fails, a run of steps keeps. -/
theorem eachStep_keeps (holds : σ → Prop)
    (keeps : ∀ item state, holds state → holds (step item state).2) (items : List α) {state : σ}
    (before : holds state) : holds (eachStep step items state).2 := by
  induction items generalizing state with
  | nil => exact before
  | cons item items ih =>
    have next := keeps item state before
    rcases outcome : step item state with ⟨⟨⟩ | ⟨⟩, reached⟩
    · simpa only [eachStep, outcome] using next
    · rw [outcome] at next
      simpa only [eachStep, outcome] using ih next

/-- All of some steps succeed and lead from one state to another. -/
inductive Succeeds (step : α → σ → Except ε Unit × σ) : List α → σ → σ → Prop
  | nil (state : σ) : Succeeds step [] state state
  | cons {item : α} {items : List α} {state next last : σ} (taken : step item state = (.ok (), next))
      (others : Succeeds step items next last) : Succeeds step (item :: items) state last

theorem Succeeds.eachStep {items : List α} {state last : σ} (succeeds : Succeeds step items state last) :
    eachStep step items state = (.ok (), last) := by
  induction succeeds with
  | nil => rfl
  | cons taken _ ih => simpa only [ComponentDocs.eachStep, taken] using ih

theorem succeeds_of_eachStep {items : List α} {state last : σ}
    (outcome : eachStep step items state = (.ok (), last)) : Succeeds step items state last := by
  induction items generalizing state with
  | nil =>
    cases outcome
    exact .nil _
  | cons item items ih =>
    rcases first : step item state with ⟨⟨⟩ | ⟨⟩, next⟩
    · simp only [eachStep, first] at outcome
      cases outcome
    · simp only [eachStep, first] at outcome
      exact .cons first (ih outcome)

/-- Steps either all succeed, or succeed up to one that fails and is the last to be taken. -/
theorem eachStep_cases (step : α → σ → Except ε Unit × σ) (items : List α) (state : σ) :
    (∃ last, Succeeds step items state last ∧ eachStep step items state = (.ok (), last)) ∨
      ∃ before item behind reached error failed, items = before ++ item :: behind ∧
        Succeeds step before state reached ∧ step item reached = (.error error, failed) ∧
        eachStep step items state = (.error error, failed) := by
  induction items generalizing state with
  | nil => exact .inl ⟨state, .nil state, rfl⟩
  | cons item items ih =>
    rcases first : step item state with ⟨error | ⟨⟩, next⟩
    · refine .inr ⟨[], item, items, state, error, next, rfl, .nil state, first, ?_⟩
      simp only [eachStep, first]
    · rcases ih next with ⟨last, succeeds, outcome⟩ | ⟨before, failing, behind, reached, error, failed,
        rfl, succeeds, refused, outcome⟩
      · exact .inl ⟨last, .cons first succeeds, by simpa only [eachStep, first] using outcome⟩
      · exact .inr ⟨item :: before, failing, behind, reached, error, failed, rfl,
          .cons first succeeds, refused, by simpa only [eachStep, first] using outcome⟩

end ComponentDocs
