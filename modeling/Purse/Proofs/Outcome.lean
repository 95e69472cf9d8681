import Purse.Service.Operation

/-!
# Outcomes of services

A service that answered went through every step of its text; one that failed stopped at the first step
that failed. The statements here take a result apart in that way, down to the single calls of the store,
where a fault shows only as an error that leaves the store alone. A unit of work that fails leaves the
store as it found it, whatever its body did. The last section says what a world without faults makes of
the same calls.
-/
namespace Purse
namespace World

variable {α : Type} {call : StoreCall} {w u : World} {a : α}

theorem store_of_attempt_ok {step : Store → Except StoreError (α × Store)}
    (h : attempt call step w = .ok a u) : step w.store = .ok (a, u.store) := by
  unfold attempt at h
  split at h
  · cases h
  · split at h
    · cases h
    · rename_i heq
      cases h
      exact heq

theorem store_of_attempt_error {step : Store → Except StoreError (α × Store)} {error : StoreError}
    (h : attempt call step w = .error error u) : u.store = w.store := by
  unfold attempt at h
  split at h
  · cases h
    rfl
  · split at h <;> cases h
    rfl

theorem of_look_ok {query : Store → Except StoreError α} (h : look call query w = .ok a u) :
    query w.store = .ok a ∧ u.store = w.store := by
  have hs := store_of_attempt_ok h
  cases hq : query w.store with
  | error error => simp [hq, Except.map] at hs
  | ok b =>
      simp only [hq, Except.map, Except.ok.injEq, Prod.mk.injEq] at hs
      exact ⟨by rw [hs.1], hs.2.symm⟩

theorem of_write_ok {change : Store → Except StoreError Store} (h : write call change w = .ok () u) :
    change w.store = .ok u.store := by
  have hs := store_of_attempt_ok h
  cases hc : change w.store with
  | error error => simp [hc, Except.map] at hs
  | ok s =>
      simp only [hc, Except.map, Except.ok.injEq, Prod.mk.injEq, true_and] at hs
      rw [hs]

theorem store_of_look_error {query : Store → Except StoreError α} {error : StoreError}
    (h : look call query w = .error error u) : u.store = w.store :=
  store_of_attempt_error h

theorem store_of_write_error {change : Store → Except StoreError Store} {error : StoreError}
    (h : write call change w = .error error u) : u.store = w.store :=
  store_of_attempt_error h

theorem store_of_commit_ok {base : Store} (h : commit base w = .ok () u) : u.store = w.store := by
  unfold commit at h
  split at h
  · rename_i heq
    cases h
    exact (of_look_ok heq).2
  · cases h

theorem store_of_commit_error {base : Store} {error : StoreError}
    (h : commit base w = .error error u) : u.store = base := by
  unfold commit at h
  split at h <;> cases h
  rfl

/-- Without faults a call does what the store makes of it. -/
theorem attempt_eq_ok {step : Store → Except StoreError (α × Store)} {s t : Store}
    (h : step s = .ok (a, t)) : attempt call step ⟨s, []⟩ = .ok a ⟨t, []⟩ := by
  simp only [attempt, Fault.consult, h]

theorem attempt_eq_error {step : Store → Except StoreError (α × Store)} {s : Store} {error : StoreError}
    (h : step s = .error error) : attempt call step ⟨s, []⟩ = .error error ⟨s, []⟩ := by
  simp only [attempt, Fault.consult, h]

theorem look_eq_ok {query : Store → Except StoreError α} {s : Store} (h : query s = .ok a) :
    look call query ⟨s, []⟩ = .ok a ⟨s, []⟩ :=
  attempt_eq_ok (by rw [h]; rfl)

theorem look_eq_error {query : Store → Except StoreError α} {s : Store} {error : StoreError}
    (h : query s = .error error) : look call query ⟨s, []⟩ = .error error ⟨s, []⟩ :=
  attempt_eq_error (by rw [h]; rfl)

theorem write_eq_ok {change : Store → Except StoreError Store} {s t : Store} (h : change s = .ok t) :
    write call change ⟨s, []⟩ = .ok () ⟨t, []⟩ :=
  attempt_eq_ok (by rw [h]; rfl)

theorem write_eq_error {change : Store → Except StoreError Store} {s : Store} {error : StoreError}
    (h : change s = .error error) : write call change ⟨s, []⟩ = .error error ⟨s, []⟩ :=
  attempt_eq_error (by rw [h]; rfl)

end World

namespace Service

variable {α β : Type} {w u : World} {a : α} {b : β} {error : ServiceError}

theorem bind_eq_ok {x : Service α} {f : α → Service β} :
    (x >>= f) w = .ok b u ↔ ∃ a v, x w = .ok a v ∧ f a v = .ok b u := by
  change EStateM.bind x f w = _ ↔ _
  unfold EStateM.bind
  cases x w with
  | error e v => simp
  | ok c v =>
      constructor
      · intro h
        exact ⟨c, v, rfl, h⟩
      · rintro ⟨_, _, ⟨⟩, h⟩
        exact h

theorem bind_eq_error {x : Service α} {f : α → Service β} :
    (x >>= f) w = .error error u ↔
      x w = .error error u ∨ ∃ a v, x w = .ok a v ∧ f a v = .error error u := by
  change EStateM.bind x f w = _ ↔ _
  unfold EStateM.bind
  cases x w with
  | error e v => simp
  | ok c v =>
      constructor
      · intro h
        exact .inr ⟨c, v, rfl, h⟩
      · intro h
        rcases h with h | ⟨_, _, ⟨⟩, h⟩
        · cases h
        · exact h

theorem map_eq_ok {x : Service α} {f : α → β} :
    (f <$> x) w = .ok b u ↔ ∃ a, x w = .ok a u ∧ f a = b := by
  change EStateM.map f x w = _ ↔ _
  unfold EStateM.map
  cases x w with
  | error e v => simp
  | ok c v =>
      constructor
      · rintro ⟨⟩
        exact ⟨c, rfl, rfl⟩
      · rintro ⟨-, ⟨⟩, rfl⟩
        rfl

theorem map_eq_error {x : Service α} {f : α → β} :
    (f <$> x) w = .error error u ↔ x w = .error error u := by
  change EStateM.map f x w = _ ↔ _
  unfold EStateM.map
  cases x w <;> simp

@[simp] theorem pure_eq_ok {c : α} : (pure a : Service α) w = .ok c u ↔ a = c ∧ w = u := by
  change EStateM.Result.ok a w = _ ↔ _
  simp

@[simp] theorem throw_ne_ok : ((throw error : Service α) w = .ok a u) ↔ False := by
  change EStateM.Result.error error w = _ ↔ _
  simp

@[simp] theorem throw_eq_error {e : ServiceError} :
    (throw error : Service α) w = .error e u ↔ error = e ∧ w = u := by
  change EStateM.Result.error error w = _ ↔ _
  simp

theorem liftStore_eq_ok {x : StoreAction α} : (liftM x : Service α) w = .ok a u ↔ x w = .ok a u := by
  change EStateM.adaptExcept ServiceError.ofStore x w = _ ↔ _
  unfold EStateM.adaptExcept
  cases x w <;> simp

theorem liftStore_eq_error {x : StoreAction α} :
    (liftM x : Service α) w = .error error u ↔
      ∃ cause, x w = .error cause u ∧ ServiceError.ofStore cause = error := by
  change EStateM.adaptExcept ServiceError.ofStore x w = _ ↔ _
  unfold EStateM.adaptExcept
  cases x w with
  | ok c v => simp
  | error cause v =>
      constructor
      · rintro ⟨⟩
        exact ⟨cause, rfl, rfl⟩
      · rintro ⟨-, ⟨⟩, rfl⟩
        rfl

theorem liftLedger_eq_ok {x : Except LedgerError α} :
    (liftM x : Service α) w = .ok a u ↔ x = .ok a ∧ w = u := by
  cases x with
  | error cause =>
      change EStateM.Result.error _ w = _ ↔ _
      simp
  | ok b =>
      change EStateM.Result.ok b w = _ ↔ _
      simp

theorem liftLedger_eq_error {x : Except LedgerError α} :
    (liftM x : Service α) w = .error error u ↔
      (∃ cause, x = .error cause ∧ ServiceError.ofLedger cause = error) ∧ w = u := by
  cases x with
  | error cause =>
      change EStateM.Result.error _ w = _ ↔ _
      simp
  | ok b =>
      change EStateM.Result.ok b w = _ ↔ _
      simp

theorem liftGateway_eq_ok {x : Except GatewayError α} :
    (liftM x : Service α) w = .ok a u ↔ x = .ok a ∧ w = u := by
  cases x with
  | error cause =>
      change EStateM.Result.error _ w = _ ↔ _
      simp
  | ok b =>
      change EStateM.Result.ok b w = _ ↔ _
      simp

/-- What was observed is the outcome itself, and the world is the one that the outcome left. -/
theorem of_observe_ok {x : Service α} {outcome : Except ServiceError α}
    (h : observe x w = .ok outcome u) :
    (∃ a, outcome = .ok a ∧ x w = .ok a u) ∨ ∃ e, outcome = .error e ∧ x w = .error e u := by
  unfold observe at h
  cases hx : x w with
  | ok a v =>
      simp only [hx, EStateM.Result.ok.injEq] at h
      exact .inl ⟨a, h.1.symm, by rw [h.2]⟩
  | error e v =>
      simp only [hx, EStateM.Result.ok.injEq] at h
      exact .inr ⟨e, h.1.symm, by rw [h.2]⟩

theorem observe_ne_error {x : Service α} : observe x w ≠ .error error u := by
  unfold observe
  cases x w <;> simp

theorem observe_eq_ok {x : Service α} : observe x w = .ok (.ok a) u ↔ x w = .ok a u := by
  unfold observe
  cases x w <;> simp

theorem observe_eq_error {x : Service α} : observe x w = .ok (.error error) u ↔ x w = .error error u := by
  unfold observe
  cases x w <;> simp

theorem observe_bind_ok {x : Service α} {f : α → Service β} {v : World} {outcome : Except ServiceError β}
    (hx : observe x w = .ok (.ok a) v) (hf : observe (f a) v = .ok outcome u) :
    observe (x >>= f) w = .ok outcome u := by
  rw [observe_eq_ok] at hx
  cases outcome with
  | ok b => exact observe_eq_ok.2 (bind_eq_ok.2 ⟨a, v, hx, observe_eq_ok.1 hf⟩)
  | error e => exact observe_eq_error.2 (bind_eq_error.2 (.inr ⟨a, v, hx, observe_eq_error.1 hf⟩))

theorem observe_bind_error {x : Service α} {f : α → Service β} (hx : observe x w = .ok (.error error) u) :
    observe (x >>= f) w = .ok (.error error) u :=
  observe_eq_error.2 (bind_eq_error.2 (.inl (observe_eq_error.1 hx)))

/-! ## Services that only look -/

/-- The store that a result leaves. -/
def left : EStateM.Result ServiceError World α → Store
  | .ok _ w => w.store
  | .error _ w => w.store

/-- Whatever happens, the store stays as it is. -/
def ReadsOnly (x : Service α) : Prop := ∀ w, left (x w) = w.store

theorem readsOnly_pure (a : α) : ReadsOnly (pure a) := fun _ => rfl

theorem readsOnly_throw (error : ServiceError) : ReadsOnly (throw error : Service α) := fun _ => rfl

theorem readsOnly_look (call : StoreCall) (query : Store → Except StoreError α) :
    ReadsOnly (liftM (World.look call query)) := by
  intro w
  cases h : (liftM (World.look call query) : Service α) w with
  | ok a u => exact (World.of_look_ok (liftStore_eq_ok.1 h)).2
  | error e u =>
      obtain ⟨cause, hlook, -⟩ := liftStore_eq_error.1 h
      exact World.store_of_look_error hlook

theorem ReadsOnly.of_ok {x : Service α} (hx : ReadsOnly x) (h : x w = .ok a u) :
    u.store = w.store := by
  have hw := hx w
  rw [h] at hw
  exact hw

theorem ReadsOnly.of_error {x : Service α} (hx : ReadsOnly x) (h : x w = .error error u) :
    u.store = w.store := by
  have hw := hx w
  rw [h] at hw
  exact hw

theorem ReadsOnly.bind {x : Service α} {f : α → Service β} (hx : ReadsOnly x)
    (hf : ∀ a, ReadsOnly (f a)) : ReadsOnly (x >>= f) := by
  intro w
  cases h : (x >>= f) w with
  | ok b u =>
      obtain ⟨a, v, hfirst, hrest⟩ := bind_eq_ok.1 h
      exact ((hf a).of_ok hrest).trans (hx.of_ok hfirst)
  | error e u =>
      rcases bind_eq_error.1 h with hfirst | ⟨a, v, hfirst, hrest⟩
      · exact hx.of_error hfirst
      · exact ((hf a).of_error hrest).trans (hx.of_ok hfirst)

theorem ReadsOnly.map {x : Service α} {f : α → β} (hx : ReadsOnly x) : ReadsOnly (f <$> x) := by
  intro w
  cases h : (f <$> x) w with
  | ok b u =>
      obtain ⟨a, h, -⟩ := map_eq_ok.1 h
      exact hx.of_ok h
  | error e u => exact hx.of_error (map_eq_error.1 h)

/-! ## Units of work -/

/-- The answer and the store of a unit of work that did not fail, from the store that it found and the one
that it wrote. -/
def Ending.Leaves (ending : Ending α) (answer : α) (found written left : Store) : Prop :=
  match ending with
  | .discard a => answer = a ∧ left = found
  | .keep a => answer = a ∧ left = written

section UnitOfWork
variable {body : Service (Ending α)}

theorem of_unitOfWork_ok (h : unitOfWork body w = .ok a u) :
    ∃ v ending v', v.store = w.store ∧ body v = .ok ending v' ∧
      ending.Leaves a w.store v'.store u.store := by
  unfold unitOfWork at h
  obtain ⟨base, v, hbegin, h⟩ := bind_eq_ok.1 h
  obtain ⟨hbase, hv⟩ := World.of_look_ok (liftStore_eq_ok.1 hbegin)
  cases hbase
  cases hbody : body v with
  | error e v' => simp [hbody] at h
  | ok ending v' =>
      refine ⟨v, ending, v', hv, hbody, ?_⟩
      cases ending with
      | discard answer =>
          simp only [hbody, EStateM.Result.ok.injEq] at h
          obtain ⟨rfl, rfl⟩ := h
          exact ⟨rfl, rfl⟩
      | keep answer =>
          simp only [hbody] at h
          obtain ⟨⟨⟩, v'', hcommit, h⟩ := bind_eq_ok.1 h
          obtain ⟨rfl, rfl⟩ := pure_eq_ok.1 h
          exact ⟨rfl, World.store_of_commit_ok (liftStore_eq_ok.1 hcommit)⟩

/-- A unit of work that failed has changed nothing. -/
theorem store_of_unitOfWork_error (h : unitOfWork body w = .error error u) :
    u.store = w.store := by
  unfold unitOfWork at h
  rcases bind_eq_error.1 h with hbegin | ⟨base, v, hbegin, h⟩
  · obtain ⟨cause, hbegin, -⟩ := liftStore_eq_error.1 hbegin
    exact World.store_of_look_error hbegin
  · obtain ⟨hbase, hv⟩ := World.of_look_ok (liftStore_eq_ok.1 hbegin)
    cases hbase
    cases hbody : body v with
    | error e v' =>
        simp only [hbody, EStateM.Result.error.injEq] at h
        obtain ⟨-, rfl⟩ := h
        rfl
    | ok ending v' =>
        cases ending with
        | discard answer => simp [hbody] at h
        | keep answer =>
            simp only [hbody] at h
            rcases bind_eq_error.1 h with hcommit | ⟨-, v'', -, h⟩
            · obtain ⟨cause, hcommit, -⟩ := liftStore_eq_error.1 hcommit
              exact World.store_of_commit_error hcommit
            · cases h

/-! ## Without faults -/

/-- A unit of work that keeps what it wrote leaves that. -/
theorem unitOfWork_keep {s t : Store} (h : body ⟨s, []⟩ = .ok (.keep a) ⟨t, []⟩) :
    unitOfWork body ⟨s, []⟩ = .ok a ⟨t, []⟩ := by
  refine bind_eq_ok.2 ⟨s, ⟨s, []⟩, rfl, ?_⟩
  simp only [h]
  rfl

/-- A unit of work that gives up what it wrote leaves a world without faults exactly as it was. -/
theorem unitOfWork_discard {s t : Store} (h : body ⟨s, []⟩ = .ok (.discard a) ⟨t, []⟩) :
    unitOfWork body ⟨s, []⟩ = .ok a ⟨s, []⟩ := by
  refine bind_eq_ok.2 ⟨s, ⟨s, []⟩, rfl, ?_⟩
  simp only [h]
  rfl

/-- So does one that fails. -/
theorem unitOfWork_error {s t : Store} (h : body ⟨s, []⟩ = .error error ⟨t, []⟩) :
    unitOfWork body ⟨s, []⟩ = .error error ⟨s, []⟩ := by
  refine bind_eq_error.2 (.inr ⟨s, ⟨s, []⟩, rfl, ?_⟩)
  simp only [h]
  rfl

end UnitOfWork

theorem look_of_ok {call : StoreCall} {query : Store → Except StoreError α} {s : Store}
    (h : query s = .ok a) : (liftM (World.look call query) : Service α) ⟨s, []⟩ = .ok a ⟨s, []⟩ :=
  liftStore_eq_ok.2 (World.look_eq_ok h)

end Service
end Purse
