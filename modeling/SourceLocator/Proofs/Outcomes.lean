set_option autoImplicit false

namespace SourceLocator

section Outcomes

variable {ε α β : Type}

theorem bind_ok (outcome : Except ε α) (next : α → Except ε β) (result : β) (ok : (outcome >>= next) = .ok result) :
    ∃ value, outcome = .ok value ∧ next value = .ok result := by
  cases outcome with
  | error error => cases ok
  | ok value => exact ⟨value, rfl, ok⟩

theorem map_error_ok {δ : Type} (outcome : Except ε α) (translate : ε → δ) (value : α)
    (ok : outcome.mapError translate = .ok value) : outcome = .ok value := by
  cases outcome with
  | error error => cases ok
  | ok other =>
      cases ok
      rfl

theorem ok_of_option (outcome : Except ε α) (value : α) (given : outcome.toOption = some value) :
    outcome = .ok value := by
  cases outcome with
  | error error => cases given
  | ok other =>
      cases given
      rfl

def errorOf? : Except ε α → Option ε
  | .ok _ => none
  | .error error => some error

theorem error_of_option (outcome : Except ε α) (error : ε) (fails : errorOf? outcome = some error) :
    outcome = .error error := by
  cases outcome with
  | ok value => cases fails
  | error other =>
      cases fails
      rfl

theorem map_all_ok (items : List α) (step : α → Except ε β) (each : ∀ item ∈ items, ∃ result, step item = .ok result) :
    ∃ results, items.mapM step = .ok results := by
  induction items with
  | nil => exact ⟨[], rfl⟩
  | cons item rest ih =>
      obtain ⟨result, here⟩ := each item List.mem_cons_self
      obtain ⟨results, later⟩ := ih fun other member => each other (List.mem_cons_of_mem item member)
      exact ⟨result :: results, by rw [List.mapM_cons, here, later]; rfl⟩

theorem mapped_members (items : List α) (step : α → Except ε β) (results : List β)
    (mapped : items.mapM step = .ok results) :
    (∀ item ∈ items, ∃ result ∈ results, step item = .ok result) ∧
      ∀ result ∈ results, ∃ item ∈ items, step item = .ok result := by
  induction items generalizing results with
  | nil =>
      cases mapped
      exact ⟨nofun, nofun⟩
  | cons item rest ih =>
      rw [List.mapM_cons] at mapped
      obtain ⟨first, here, mapped⟩ := bind_ok _ _ results mapped
      obtain ⟨others, later, same⟩ := bind_ok _ _ results mapped
      cases same
      obtain ⟨forward, backward⟩ := ih others later
      constructor
      · refine List.forall_mem_cons.mpr ⟨⟨first, List.mem_cons_self, here⟩, ?_⟩
        intro other member
        obtain ⟨result, found, stepped⟩ := forward other member
        exact ⟨result, List.mem_cons_of_mem first found, stepped⟩
      · refine List.forall_mem_cons.mpr ⟨⟨item, List.mem_cons_self, here⟩, ?_⟩
        intro result member
        obtain ⟨other, found, stepped⟩ := backward result member
        exact ⟨other, List.mem_cons_of_mem item found, stepped⟩

def Ensures (outcome : Except ε α) (property : α → Prop) : Prop := ∀ value, outcome = .ok value → property value

theorem ensures_ok (value : α) (property : α → Prop) (holds : property value) :
    Ensures (.ok value : Except ε α) property := by
  rintro _ ⟨⟩
  exact holds

theorem ensures_error (error : ε) (property : α → Prop) : Ensures (.error error) property := nofun

theorem ensures_bind (outcome : Except ε α) (next : α → Except ε β) (first : α → Prop) (second : β → Prop)
    (holds : Ensures outcome first) (carries : ∀ value, first value → Ensures (next value) second) :
    Ensures (outcome >>= next) second := by
  intro result ok
  obtain ⟨value, given, later⟩ := bind_ok outcome next result ok
  exact carries value (holds value given) result later

theorem ensures_fold (items : List α) (step : β → α → Except ε β) (invariant : β → Prop)
    (keeps : ∀ state item, invariant state → Ensures (step state item) invariant) (state : β)
    (start : invariant state) : Ensures (items.foldlM step state) invariant := by
  induction items generalizing state with
  | nil => exact ensures_ok state invariant start
  | cons item rest ih =>
      rw [List.foldlM_cons]
      exact ensures_bind _ _ invariant invariant (keeps state item start) fun next held => ih next held

variable {γ δ : Type}

theorem bind_carried (outcome : Except ε α) (carry : α → β) (next : α → Except ε γ) (after : β → Except ε δ)
    (final : γ → δ) (each : ∀ value, after (carry value) = (next value).map final) :
    (outcome.map carry >>= after) = (outcome >>= next).map final := by
  cases outcome with
  | error error => rfl
  | ok value => exact each value

theorem bind_carried_last (outcome : Except ε α) (next : α → Except ε γ) (after : α → Except ε δ) (final : γ → δ)
    (each : ∀ value, after value = (next value).map final) : (outcome >>= after) = (outcome >>= next).map final := by
  cases outcome with
  | error error => rfl
  | ok value => exact each value

theorem bind_same (outcome : Except ε α) (next after : α → Except ε β)
    (each : ∀ value, outcome = .ok value → next value = after value) : (outcome >>= next) = (outcome >>= after) := by
  cases outcome with
  | error error => rfl
  | ok value => exact each value rfl

theorem translated_same (outcome : Except ε α) (carry : α → β) (translate : ε → δ) (next : α → Except δ γ)
    (after : β → Except δ γ) (each : ∀ value, outcome = .ok value → next value = after (carry value)) :
    (outcome.mapError translate >>= next) = ((outcome.map carry).mapError translate >>= after) := by
  cases outcome with
  | error error => rfl
  | ok value => exact each value rfl

theorem fold_carried (items : List α) (step : β → α → Except ε β) (carry : β → β)
    (each : ∀ state item, step (carry state) item = (step state item).map carry) (state : β) :
    items.foldlM step (carry state) = (items.foldlM step state).map carry := by
  induction items generalizing state with
  | nil => rfl
  | cons item rest ih =>
      rw [List.foldlM_cons, List.foldlM_cons, each]
      exact bind_carried _ carry _ _ carry ih

end Outcomes

end SourceLocator
