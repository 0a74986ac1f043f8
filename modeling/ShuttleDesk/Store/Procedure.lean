/-
  ShuttleDesk/Store/Procedure.lean
  ================================
  What is done to the world, step by step.  A procedure looks at the world, may
  change it, and either answers or stops.  It stops with an error, or because a time
  left the calendar.

  A transaction that stops puts the tables back; ids that were given out stay given
  out.
-/
import ShuttleDesk.Store.World

namespace ShuttleDesk

/-- Why a procedure stops. -/
inductive Stop (ε : Type) where
  | error (e : ε)
  | timeOverflow
  deriving DecidableEq, Repr

/-- What is done to the world, and the answer. -/
def Procedure (ε α : Type) : Type := World → Except (Stop ε) α × World

namespace Procedure

variable {ε ε' α β : Type}

/-- Answers and changes nothing. -/
protected def pure (a : α) : Procedure ε α := fun w => (.ok a, w)

/-- Goes on with the answer; what stops, stops. -/
protected def bind (x : Procedure ε α) (f : α → Procedure ε β) : Procedure ε β := fun w =>
  match x w with
  | (.ok a, w') => f a w'
  | (.error e, w') => (.error e, w')

instance : Monad (Procedure ε) where
  pure := Procedure.pure
  bind := Procedure.bind

@[simp] theorem pure_run (a : α) (w : World) :
    (Pure.pure a : Procedure ε α) w = (.ok a, w) := rfl

theorem bind_run (x : Procedure ε α) (f : α → Procedure ε β) (w : World) :
    (x >>= f) w = match x w with
      | (.ok a, w') => f a w'
      | (.error e, w') => (.error e, w') := rfl

theorem map_run (f : α → β) (x : Procedure ε α) (w : World) :
    (f <$> x) w = match x w with
      | (.ok a, w') => (.ok (f a), w')
      | (.error e, w') => (.error e, w') := rfl

theorem id_map_run (x : Procedure ε α) : id <$> x = x := by
  funext w
  rw [map_run]
  rcases x w with ⟨_ | _, _⟩ <;> rfl

theorem bind_bind {γ : Type} (x : Procedure ε α) (f : α → Procedure ε β) (g : β → Procedure ε γ) :
    x >>= f >>= g = x >>= fun a => f a >>= g := by
  funext w
  simp only [bind_run]
  rcases x w with ⟨_ | _, _⟩ <;> rfl

instance : LawfulMonad (Procedure ε) := .mk' _ id_map_run (fun _ _ => rfl) bind_bind

def fail (e : ε) : Procedure ε α := fun w => (.error (.error e), w)

def overflow : Procedure ε α := fun w => (.error .timeOverflow, w)

def world : Procedure ε World := fun w => (.ok w, w)

def change (f : World → World) : Procedure ε Unit := fun w => (.ok (), f w)

@[simp] theorem fail_run (e : ε) (w : World) :
    (fail e : Procedure ε α) w = (.error (.error e), w) := rfl

@[simp] theorem overflow_run (w : World) :
    (overflow : Procedure ε α) w = (.error .timeOverflow, w) := rfl

@[simp] theorem world_run (w : World) : (world : Procedure ε World) w = (.ok w, w) := rfl

@[simp] theorem change_run (f : World → World) (w : World) :
    (change f : Procedure ε Unit) w = (.ok (), f w) := rfl

def changeTables (f : Tables → Tables) : Procedure ε Unit :=
  change fun w => { w with tables := f w.tables }

@[simp] theorem changeTables_run (f : Tables → Tables) (w : World) :
    (changeTables f : Procedure ε Unit) w = (.ok (), { w with tables := f w.tables }) := rfl

def mapError (f : ε → ε') (x : Procedure ε α) : Procedure ε' α := fun w =>
  match x w with
  | (.ok a, w') => (.ok a, w')
  | (.error (.error e), w') => (.error (.error (f e)), w')
  | (.error .timeOverflow, w') => (.error .timeOverflow, w')

theorem mapError_run (f : ε → ε') (x : Procedure ε α) (w : World) :
    mapError f x w = match x w with
      | (.ok a, w') => (.ok a, w')
      | (.error (.error e), w') => (.error (.error (f e)), w')
      | (.error .timeOverflow, w') => (.error .timeOverflow, w') := rfl

/-- Another view of the error leaves an answer alone. -/
theorem mapError_ok_iff {f : ε → ε'} {x : Procedure ε α} {w w' : World} {a : α} :
    mapError f x w = (.ok a, w') ↔ x w = (.ok a, w') := by
  rw [mapError_run]
  split <;> simp_all

def ofExcept (x : Except ε α) : Procedure ε α :=
  match x with
  | .ok a => Pure.pure a
  | .error e => fail e

@[simp] theorem ofExcept_ok (a : α) :
    (ofExcept (.ok a) : Procedure ε α) = Pure.pure a := rfl

@[simp] theorem ofExcept_error (e : ε) : (ofExcept (.error e) : Procedure ε α) = fail e := rfl

/-- What is there, or an error. -/
def orFail (e : ε) (x : Option α) : Procedure ε α :=
  match x with
  | some a => Pure.pure a
  | none => fail e

@[simp] theorem orFail_some (e : ε) (a : α) : orFail e (some a) = Pure.pure a := rfl

@[simp] theorem orFail_none (e : ε) : (orFail e none : Procedure ε α) = fail e := rfl

/-- Runs as a whole: if it stops, the tables are as before. -/
def transaction (x : Procedure ε α) : Procedure ε α := fun w =>
  match x w with
  | (.ok a, w') => (.ok a, w')
  | (.error e, w') => (.error e, { w' with tables := w.tables })

/-- What stops in a transaction leaves the tables as they were. -/
theorem tables_of_transaction_error {x : Procedure ε α} {w w' : World} {e : Stop ε}
    (h : transaction x w = (.error e, w')) : w'.tables = w.tables := by
  unfold transaction at h
  split at h
  · simp at h
  · simp only [Prod.mk.injEq] at h
    rw [← h.2]

/-- What answers in a transaction answers alike without one. -/
theorem transaction_ok_iff {x : Procedure ε α} {w w' : World} {a : α} :
    transaction x w = (.ok a, w') ↔ x w = (.ok a, w') := by
  unfold transaction
  split <;> simp_all

/-! ### When a procedure answers

A procedure that is put together answers exactly when its parts do, one in the world that
the other leaves.  With these an answer is taken apart step by step. -/

theorem pure_ok_iff {w w' : World} {a b : α} :
    (Pure.pure a : Procedure ε α) w = (.ok b, w') ↔ a = b ∧ w = w' := by simp

theorem bind_ok_iff {x : Procedure ε α} {f : α → Procedure ε β} {w w' : World} {b : β} :
    (x >>= f) w = (.ok b, w') ↔ ∃ a w₁, x w = (.ok a, w₁) ∧ f a w₁ = (.ok b, w') := by
  rw [bind_run]
  rcases x w with ⟨_ | a, w₁⟩
  · simp
  · refine ⟨fun h => ⟨a, w₁, rfl, h⟩, ?_⟩
    rintro ⟨_, _, hx, h⟩
    cases hx
    exact h

theorem map_ok_iff {f : α → β} {x : Procedure ε α} {w w' : World} {b : β} :
    (f <$> x) w = (.ok b, w') ↔ ∃ a, x w = (.ok a, w') ∧ f a = b := by
  rw [map_run]
  rcases x w with ⟨_ | a, w₁⟩
  · simp
  · refine ⟨fun h => ?_, ?_⟩
    · cases h
      exact ⟨a, rfl, rfl⟩
    · rintro ⟨_, hx, rfl⟩
      cases hx
      rfl

theorem ite_ok_iff {p : Prop} [Decidable p] {x y : Procedure ε α} {w w' : World} {a : α} :
    (if p then x else y) w = (.ok a, w') ↔
      (p ∧ x w = (.ok a, w')) ∨ (¬ p ∧ y w = (.ok a, w')) := by
  split <;> simp_all

theorem fail_ok_iff {e : ε} {w w' : World} {a : α} :
    (fail e : Procedure ε α) w = (.ok a, w') ↔ False := by simp

theorem overflow_ok_iff {w w' : World} {a : α} :
    (overflow : Procedure ε α) w = (.ok a, w') ↔ False := by simp

theorem world_ok_iff {w v w' : World} :
    (world : Procedure ε World) w = (.ok v, w') ↔ w = v ∧ w = w' := by simp

theorem changeTables_ok_iff {f : Tables → Tables} {w w' : World} {u : Unit} :
    (changeTables f : Procedure ε Unit) w = (.ok u, w') ↔
      { w with tables := f w.tables } = w' := by simp

theorem ofExcept_ok_iff {x : Except ε α} {w w' : World} {a : α} :
    ofExcept x w = (.ok a, w') ↔ x = .ok a ∧ w = w' := by
  cases x <;> simp

theorem orFail_ok_iff {e : ε} {x : Option α} {w w' : World} {a : α} :
    orFail e x w = (.ok a, w') ↔ x = some a ∧ w = w' := by
  cases x <;> simp

/-! ### When a procedure stops -/

theorem pure_error_iff {w w' : World} {a : α} {s : Stop ε} :
    (Pure.pure a : Procedure ε α) w = (.error s, w') ↔ False := by simp

theorem bind_error_iff {x : Procedure ε α} {f : α → Procedure ε β} {w w' : World} {s : Stop ε} :
    (x >>= f) w = (.error s, w') ↔
      x w = (.error s, w') ∨ ∃ a w₁, x w = (.ok a, w₁) ∧ f a w₁ = (.error s, w') := by
  rw [bind_run]
  rcases x w with ⟨_ | a, w₁⟩
  · simp
  · simp only [Prod.mk.injEq, reduceCtorEq, false_and, false_or]
    refine ⟨fun h => ⟨a, w₁, ⟨rfl, rfl⟩, h⟩, ?_⟩
    rintro ⟨_, _, ⟨hx, rfl⟩, h⟩
    cases hx
    exact h

theorem map_error_iff {f : α → β} {x : Procedure ε α} {w w' : World} {s : Stop ε} :
    (f <$> x) w = (.error s, w') ↔ x w = (.error s, w') := by
  rw [map_run]
  rcases x w with ⟨_ | a, w₁⟩ <;> simp

theorem ite_error_iff {p : Prop} [Decidable p] {x y : Procedure ε α} {w w' : World} {s : Stop ε} :
    (if p then x else y) w = (.error s, w') ↔
      (p ∧ x w = (.error s, w')) ∨ (¬ p ∧ y w = (.error s, w')) := by
  split <;> simp_all

theorem fail_error_iff {e : ε} {w w' : World} {s : Stop ε} :
    (fail e : Procedure ε α) w = (.error s, w') ↔ s = .error e ∧ w = w' := by
  simp [eq_comm]

theorem overflow_error_iff {w w' : World} {s : Stop ε} :
    (overflow : Procedure ε α) w = (.error s, w') ↔ s = .timeOverflow ∧ w = w' := by
  simp [eq_comm]

theorem world_error_iff {w w' : World} {s : Stop ε} :
    (world : Procedure ε World) w = (.error s, w') ↔ False := by simp

theorem changeTables_error_iff {f : Tables → Tables} {w w' : World} {s : Stop ε} :
    (changeTables f : Procedure ε Unit) w = (.error s, w') ↔ False := by simp

theorem orFail_error_iff {e : ε} {x : Option α} {w w' : World} {s : Stop ε} :
    orFail e x w = (.error s, w') ↔ x = none ∧ s = .error e ∧ w = w' := by
  cases x <;> simp [eq_comm]

/-- Another view of the error leaves an overflow of the calendar alone. -/
theorem mapError_error_iff {f : ε → ε'} {x : Procedure ε α} {w w' : World} {s : Stop ε'} :
    mapError f x w = (.error s, w') ↔
      (∃ e, x w = (.error (.error e), w') ∧ s = .error (f e)) ∨
      (x w = (.error .timeOverflow, w') ∧ s = .timeOverflow) := by
  rw [mapError_run]
  rcases x w with ⟨(e | _) | a, w₁⟩
  · constructor
    · intro h
      cases h
      exact .inl ⟨e, rfl, rfl⟩
    · rintro (⟨_, h, rfl⟩ | ⟨h, -⟩) <;> cases h
      rfl
  · simp [eq_comm, and_comm]
  · simp

end Procedure

end ShuttleDesk
