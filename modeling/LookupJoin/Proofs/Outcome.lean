import Mathlib.Data.List.Perm.Basic
/-!
Results that may be errors, taken apart: a chain of steps, a check of every item of a list and a list of
results succeed exactly when each of their parts does, and fail with the fault of the first that does not; a
change to the faults goes through a chain step by step. The same for results that may be missing.
-/
namespace LookupJoin.Outcome

theorem bind_eq_ok {α β ε : Type} {outcome : Except ε α} {next : α → Except ε β} {result : β} :
    outcome >>= next = .ok result ↔ ∃ value, outcome = .ok value ∧ next value = .ok result := by
  cases outcome <;> simp [bind, Except.bind]

theorem bind_unit_eq_ok {β ε : Type} {check : Except ε Unit} {next : Unit → Except ε β} {result : β} :
    check >>= next = .ok result ↔ check = .ok () ∧ next () = .ok result := by
  rw [bind_eq_ok]
  exact ⟨fun ⟨(), passed, rest⟩ => ⟨passed, rest⟩, fun ⟨passed, rest⟩ => ⟨(), passed, rest⟩⟩

theorem bind_eq_error {α β ε : Type} {outcome : Except ε α} {next : α → Except ε β} {fault : ε} :
    outcome >>= next = .error fault ↔
      outcome = .error fault ∨ ∃ value, outcome = .ok value ∧ next value = .error fault := by
  cases outcome <;> simp [bind, Except.bind]

theorem map_eq_ok {α β ε : Type} {outcome : Except ε α} {convert : α → β} {result : β} :
    outcome.map convert = .ok result ↔ ∃ value, outcome = .ok value ∧ convert value = result := by
  cases outcome <;> simp [Except.map]

theorem map_eq_error {α β ε : Type} {outcome : Except ε α} {convert : α → β} {fault : ε} :
    outcome.map convert = .error fault ↔ outcome = .error fault := by
  cases outcome <;> simp [Except.map]

theorem mapError_eq_ok {β ε ε' : Type} {change : ε → ε'} {outcome : Except ε β} {result : β} :
    outcome.mapError change = .ok result ↔ outcome = .ok result := by
  cases outcome <;> simp [Except.mapError]

theorem mapError_bind_congr {α β ε ε' : Type} {change : ε → ε'} {outcome outcome' : Except ε α}
    {next next' : α → Except ε β} (same : outcome.mapError change = outcome'.mapError change)
    (rest : ∀ value, (next value).mapError change = (next' value).mapError change) :
    (outcome >>= next).mapError change = (outcome' >>= next').mapError change := by
  cases outcome with
  | error fault => cases outcome' <;> simp_all [Except.mapError, bind, Except.bind]
  | ok value => cases outcome' <;> simp_all [Except.mapError, bind, Except.bind]

theorem mapError_map {α β ε ε' : Type} {change : ε → ε'} (outcome : Except ε α) (convert : α → β) :
    (outcome.map convert).mapError change = (outcome.mapError change).map convert := by
  cases outcome <;> rfl

theorem forM_eq_ok {α ε : Type} {check : α → Except ε Unit} {items : List α} :
    items.forM check = .ok () ↔ ∀ item ∈ items, check item = .ok () := by
  induction items with
  | nil => simp [pure, Except.pure]
  | cons item rest ih =>
    rw [List.forM_eq_forM] at ih ⊢
    rw [List.forM_cons, bind_unit_eq_ok, ih, List.forall_mem_cons]

theorem mapM_eq_ok {α β ε : Type} {step : α → Except ε β} {items : List α} {results : List β} :
    items.mapM step = .ok results ↔ List.Forall₂ (fun item result => step item = .ok result) items results := by
  induction items generalizing results with
  | nil => cases results <;> simp [pure, Except.pure]
  | cons item rest ih =>
    rw [List.mapM_cons, List.forall₂_cons_left_iff, bind_eq_ok]
    constructor
    · intro succeeded
      obtain ⟨first, stepped, rest⟩ := succeeded
      obtain ⟨others, mapped, same⟩ := bind_eq_ok.1 rest
      cases same
      exact ⟨first, others, stepped, ih.1 mapped, rfl⟩
    · intro paired
      obtain ⟨first, others, stepped, mapped, rfl⟩ := paired
      exact ⟨first, stepped, bind_eq_ok.2 ⟨others, ih.2 mapped, rfl⟩⟩

theorem forM_eq_error_iff {α ε : Type} {check : α → Except ε Unit} {items : List α} {fault : ε} :
    items.forM check = .error fault ↔
      ∃ before item after, items = before ++ item :: after ∧ (∀ earlier ∈ before, check earlier = .ok ()) ∧
        check item = .error fault := by
  constructor
  · intro failed
    induction items with
    | nil => cases failed
    | cons item rest ih =>
      rw [List.forM_eq_forM, List.forM_cons, bind_eq_error] at failed
      rcases failed with here | ⟨_, passed, later⟩
      · exact ⟨[], item, rest, rfl, nofun, here⟩
      · obtain ⟨before, other, after, rfl, earlier, found⟩ := ih later
        exact ⟨item :: before, other, after, rfl, List.forall_mem_cons.2 ⟨passed, earlier⟩, found⟩
  · intro first
    obtain ⟨before, item, after, rfl, earlier, here⟩ := first
    rw [List.forM_eq_forM, List.forM_append, List.forM_cons, bind_eq_error]
    exact .inr ⟨(), forM_eq_ok.2 earlier, bind_eq_error.2 (.inl here)⟩

theorem exists_of_forM_eq_error {α ε : Type} {check : α → Except ε Unit} {items : List α} {fault : ε}
    (failed : items.forM check = .error fault) : ∃ item ∈ items, check item = .error fault := by
  obtain ⟨before, item, after, rfl, _, here⟩ := forM_eq_error_iff.1 failed
  exact ⟨item, List.mem_append_cons_self, here⟩

theorem mapM_eq_error_iff_forM {α β ε : Type} {step : α → Except ε β} {items : List α} {fault : ε} :
    items.mapM step = .error fault ↔ (items.forM fun item => (step item).map fun _ => ()) = .error fault := by
  induction items with
  | nil => simp [pure, Except.pure]
  | cons item rest ih =>
    rw [List.forM_eq_forM] at ih ⊢
    rw [List.mapM_cons, List.forM_cons, bind_eq_error, bind_eq_error, map_eq_error]
    refine or_congr_right ?_
    cases step item with
    | error fault => simp [Except.map]
    | ok first => simpa [Except.map, bind_eq_error, pure, Except.pure] using ih

theorem mapM_eq_error_iff {α β ε : Type} {step : α → Except ε β} {items : List α} {fault : ε} :
    items.mapM step = .error fault ↔
      ∃ before item after, items = before ++ item :: after ∧
        (∀ earlier ∈ before, ∃ result, step earlier = .ok result) ∧ step item = .error fault := by
  rw [mapM_eq_error_iff_forM, forM_eq_error_iff]
  simp [map_eq_ok, map_eq_error]

theorem exists_mapM_eq_ok {α β ε : Type} {step : α → Except ε β} {items : List α} :
    (∃ results, items.mapM step = .ok results) ↔ ∀ item ∈ items, ∃ result, step item = .ok result := by
  constructor
  · intro succeeds
    obtain ⟨results, mapped⟩ := succeeds
    have paired := mapM_eq_ok.1 mapped
    clear mapped
    induction paired with
    | nil => simp
    | cons stepped _ ih => exact List.forall_mem_cons.2 ⟨⟨_, stepped⟩, ih⟩
  · intro each
    cases mapped : items.mapM step with
    | ok results => exact ⟨results, rfl⟩
    | error fault =>
      obtain ⟨before, item, after, rfl, _, failed⟩ := mapM_eq_error_iff.1 mapped
      obtain ⟨result, stepped⟩ := each item List.mem_append_cons_self
      rw [failed] at stepped
      cases stepped

theorem exists_of_mem_mapM {α β ε : Type} {step : α → Except ε β} {items : List α} {results : List β}
    (mapped : items.mapM step = .ok results) : ∀ result ∈ results, ∃ item ∈ items, step item = .ok result := by
  have paired := mapM_eq_ok.1 mapped
  clear mapped
  induction paired with
  | nil => simp
  | cons stepped _ ih =>
    refine List.forall_mem_cons.2 ⟨⟨_, List.mem_cons_self, stepped⟩, fun result member => ?_⟩
    obtain ⟨item, listed, here⟩ := ih result member
    exact ⟨item, List.mem_cons_of_mem _ listed, here⟩

theorem eq_map_of_mapM {α β ε : Type} {step : α → Except ε β} {value : α → β} {items : List α}
    {results : List β} (mapped : items.mapM step = .ok results)
    (valued : ∀ item ∈ items, ∀ result, step item = .ok result → result = value item) :
    results = items.map value := by
  induction items generalizing results with
  | nil =>
    cases mapM_eq_ok.1 mapped
    rfl
  | cons item rest ih =>
    obtain ⟨first, others, stepped, paired, rfl⟩ := List.forall₂_cons_left_iff.1 (mapM_eq_ok.1 mapped)
    rw [List.map_cons, valued item List.mem_cons_self first stepped,
      ih (mapM_eq_ok.2 paired) fun other member => valued other (List.mem_cons_of_mem _ member)]

theorem exists_mapM_of_perm {α β ε : Type} {step : α → Except ε β} {items items' : List α} {results : List β}
    (order : items.Perm items') (mapped : items.mapM step = .ok results) :
    ∃ results', items'.mapM step = .ok results' ∧ results.Perm results' := by
  obtain ⟨results', stepped, order'⟩ := List.perm_comp_forall₂ order.symm (mapM_eq_ok.1 mapped)
  exact ⟨results', mapM_eq_ok.2 stepped, order'.symm⟩

theorem mapM_eq_some {α β : Type} {step : α → Option β} {items : List α} {results : List β} :
    items.mapM step = some results ↔ List.Forall₂ (fun item result => step item = some result) items results := by
  induction items generalizing results with
  | nil => cases results <;> simp
  | cons item rest ih =>
    simp only [List.mapM_cons, Option.bind_eq_bind, Option.bind_eq_some_iff, Option.pure_def, Option.some.injEq,
      List.forall₂_cons_left_iff, ih]
    constructor
    · intro stepped
      obtain ⟨first, here, others, paired, rfl⟩ := stepped
      exact ⟨first, others, here, paired, rfl⟩
    · intro paired
      obtain ⟨first, others, here, paired, rfl⟩ := paired
      exact ⟨first, here, others, paired, rfl⟩

theorem mapM_eq_none {α β : Type} {step : α → Option β} {items : List α} :
    items.mapM step = none ↔ ∃ item ∈ items, step item = none := by
  induction items with
  | nil => simp
  | cons item rest ih =>
    rw [List.mapM_cons]
    cases stepped : step item with
    | none => simp [stepped]
    | some first => cases mapped : rest.mapM step <;> simp_all

end LookupJoin.Outcome
