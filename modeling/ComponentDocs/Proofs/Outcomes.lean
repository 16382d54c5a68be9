import Mathlib.Data.List.Forall2

/-! When a computation that may fail succeeds. -/
namespace ComponentDocs

variable {ε ε' ε'' α β : Type}

theorem map_eq_ok_iff {outcome : Except ε α} {change : α → β} {result : β} :
    outcome.map change = .ok result ↔ ∃ value, outcome = .ok value ∧ change value = result := by
  cases outcome with
  | error error => simp [Except.map]
  | ok value => simp [Except.map]

theorem bind_eq_ok_iff {outcome : Except ε α} {next : α → Except ε β} {result : β} :
    outcome >>= next = .ok result ↔ ∃ value, outcome = .ok value ∧ next value = .ok result := by
  cases outcome with
  | error error => simp [bind, Except.bind]
  | ok value => simp [bind, Except.bind]

theorem mapError_eq_ok_iff {outcome : Except ε α} {change : ε → ε'} {result : α} :
    outcome.mapError change = .ok result ↔ outcome = .ok result := by
  cases outcome with
  | error error => simp [Except.mapError]
  | ok value => simp [Except.mapError]

theorem toOption_eq_some_iff {outcome : Except ε α} {result : α} :
    outcome.toOption = some result ↔ outcome = .ok result := by
  cases outcome with
  | error error => simp [Except.toOption]
  | ok value => simp [Except.toOption]

theorem map_map {γ : Type} (outcome : Except ε α) (first : α → β) (second : β → γ) :
    (outcome.map first).map second = outcome.map fun value => second (first value) := by
  cases outcome <;> rfl

/-- A computation for each item succeeds on all of them. -/
theorem mapM_eq_ok_iff {compute : α → Except ε β} {items : List α} {results : List β} :
    items.mapM compute = .ok results ↔
      List.Forall₂ (fun item result => compute item = .ok result) items results := by
  induction items generalizing results with
  | nil => cases results <;> simp [pure, Except.pure]
  | cons item items ih =>
    rw [List.mapM_cons, bind_eq_ok_iff, List.forall₂_cons_left_iff]
    constructor
    · rintro ⟨result, first, rest⟩
      obtain ⟨others, tail, built⟩ := bind_eq_ok_iff.mp rest
      cases built
      exact ⟨result, others, first, ih.mp tail, rfl⟩
    · rintro ⟨result, others, first, rest, rfl⟩
      exact ⟨result, first, bind_eq_ok_iff.mpr ⟨others, ih.mpr rest, rfl⟩⟩

theorem exists_of_mem_mapM {compute : α → Except ε β} {items : List α} {results : List β}
    (computed : items.mapM compute = .ok results) {result : β} (inside : result ∈ results) :
    ∃ item ∈ items, compute item = .ok result := by
  have paired := mapM_eq_ok_iff.mp computed
  clear computed
  induction paired with
  | nil => exact absurd inside List.not_mem_nil
  | @cons item result items results first rest ih =>
    rcases List.mem_cons.mp inside with rfl | behind
    · exact ⟨item, List.mem_cons_self, first⟩
    · obtain ⟨other, there, known⟩ := ih behind
      exact ⟨other, List.mem_cons_of_mem _ there, known⟩

theorem toOption_map {outcome : Except ε α} {change : α → β} :
    (outcome.map change).toOption = outcome.toOption.map change := by
  cases outcome <;> rfl

theorem toOption_bind {outcome : Except ε α} {next : α → Except ε β} :
    (outcome >>= next).toOption = outcome.toOption.bind fun value => (next value).toOption := by
  cases outcome <;> rfl

/-- Where a computation for each item succeeds, another item in one place makes a difference to
the result in that place only. -/
theorem toOption_mapM_replace {compute : α → Except ε β} {before after : List α} {item : α} {results : List β}
    (succeeds : (before ++ item :: after).mapM compute = .ok results) :
    ∃ first rest, before.mapM compute = .ok first ∧ after.mapM compute = .ok rest ∧
      ∀ other, ((before ++ other :: after).mapM compute).toOption =
        (compute other).toOption.map fun result => first ++ result :: rest := by
  induction before generalizing results with
  | nil =>
    rw [List.nil_append, List.mapM_cons, bind_eq_ok_iff] at succeeds
    obtain ⟨_, -, succeeds⟩ := succeeds
    obtain ⟨rest, tail, -⟩ := bind_eq_ok_iff.mp succeeds
    refine ⟨[], rest, rfl, tail, fun other => ?_⟩
    rw [List.nil_append, List.mapM_cons, tail]
    cases compute other <;> rfl
  | cons head before ih =>
    rw [List.cons_append, List.mapM_cons, bind_eq_ok_iff] at succeeds
    obtain ⟨result, here, succeeds⟩ := succeeds
    obtain ⟨_, tail, -⟩ := bind_eq_ok_iff.mp succeeds
    obtain ⟨first, rest, earlier, later, same⟩ := ih tail
    refine ⟨result :: first, rest, by rw [List.mapM_cons, here, earlier]; rfl, later, fun other => ?_⟩
    rw [List.cons_append, List.mapM_cons, here, toOption_bind, Except.toOption, Option.bind_some,
      toOption_bind, same other]
    cases (compute other).toOption <;> rfl

theorem toOption_eq_iff {first : Except ε α} {second : Except ε' α} :
    first.toOption = second.toOption ↔ ∀ result, first = .ok result ↔ second = .ok result := by
  constructor
  · intro same result
    rw [← toOption_eq_some_iff, ← toOption_eq_some_iff, same]
  · intro same
    refine Option.ext fun result => ?_
    rw [toOption_eq_some_iff, toOption_eq_some_iff]
    exact same result

/-- Two computations succeed with related results, or both fail. -/
inductive Alike (related : α → β → Prop) : Except ε α → Except ε' β → Prop
  | both {first : α} {second : β} (holds : related first second) : Alike related (.ok first) (.ok second)
  | neither (error : ε) (error' : ε') : Alike related (.error error) (.error error')

namespace Alike

variable {γ δ : Type} {related : α → β → Prop} {related' : γ → δ → Prop} {first : Except ε α} {second : Except ε' β}

theorem bind {next : α → Except ε γ} {next' : β → Except ε' δ} (alike : Alike related first second)
    (rest : ∀ value value', related value value' → Alike related' (next value) (next' value')) :
    Alike related' (first >>= next) (second >>= next') := by
  cases alike with
  | both holds => exact rest _ _ holds
  | neither error error' => exact .neither error error'

/-- Computations with one result but for their errors. -/
theorem of_mapError (outcome : Except ε α) (change : ε → ε') (change' : ε → ε'') :
    Alike Eq (outcome.mapError change) (outcome.mapError change') := by
  cases outcome with
  | error error => exact .neither _ _
  | ok value => exact .both rfl

theorem ok_iff {first : Except ε α} {second : Except ε' α} (alike : Alike Eq first second) {result : α} :
    first = .ok result ↔ second = .ok result := by
  cases alike with
  | both same => rw [same, Except.ok.injEq, Except.ok.injEq]
  | neither error error' => exact iff_of_false nofun nofun

end Alike

end ComponentDocs
