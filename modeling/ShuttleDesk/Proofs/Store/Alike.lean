/-
  ShuttleDesk/Proofs/Store/Alike.lean
  ===================================
  Two worlds and one procedure: when it ends in the same way in both.  A procedure
  that is put together ends alike if its parts do, and after a part that has answered
  only the same answer has to be looked at, each time with the worlds that the part has
  left.  What the worlds have to have in common is asked for statement by statement.
-/
import ShuttleDesk.Proofs.Store.Atomic

namespace ShuttleDesk

namespace Procedure

variable {ε ε' α β : Type} {x : Procedure ε α} {w₁ w₂ : World}

/-- The procedure answers the same in two worlds, or stops for the same reason. -/
def Alike (w₁ w₂ : World) (x : Procedure ε α) : Prop := (x w₁).1 = (x w₂).1

namespace Alike

theorem pure (a : α) : Alike w₁ w₂ (Pure.pure a : Procedure ε α) := rfl

theorem fail (e : ε) : Alike w₁ w₂ (Procedure.fail e : Procedure ε α) := rfl

theorem overflow : Alike w₁ w₂ (Procedure.overflow : Procedure ε α) := rfl

theorem exists_run (hx : Alike w₁ w₂ x) :
    ∃ r v₁ v₂, x w₁ = (r, v₁) ∧ x w₂ = (r, v₂) :=
  ⟨(x w₁).1, (x w₁).2, (x w₂).2, rfl, Prod.ext (Eq.symm hx) rfl⟩

theorem bind {k : α → Procedure ε β} (hx : Alike w₁ w₂ x)
    (hk : ∀ a v₁ v₂, x w₁ = (.ok a, v₁) → x w₂ = (.ok a, v₂) → Alike v₁ v₂ (k a)) :
    Alike w₁ w₂ (x >>= k) := by
  obtain ⟨r, v₁, v₂, h₁, h₂⟩ := hx.exists_run
  unfold Alike
  rw [bind_run, bind_run, h₁, h₂]
  cases r with
  | error e => rfl
  | ok a => exact hk a v₁ v₂ h₁ h₂

/-- After a look the worlds are still the same two. -/
theorem look {k : α → Procedure ε β} (hkeeps : Keeps id x) (hx : Alike w₁ w₂ x)
    (hk : ∀ a, x w₁ = (.ok a, w₁) → Alike w₁ w₂ (k a)) : Alike w₁ w₂ (x >>= k) := by
  refine bind hx ?_
  intro a v₁ v₂ h₁ h₂
  have hv₁ : v₁ = w₁ := by simpa [h₁] using hkeeps w₁
  have hv₂ : v₂ = w₂ := by simpa [h₂] using hkeeps w₂
  subst hv₁ hv₂
  exact hk a h₁

/-- The world that is looked at is another one in each run. -/
theorem world {k : World → Procedure ε β} (h : (k w₁ w₁).1 = (k w₂ w₂).1) :
    Alike w₁ w₂ (Procedure.world >>= k) := h

theorem ite {p : Prop} [Decidable p] {y : Procedure ε α} (hx : Alike w₁ w₂ x)
    (hy : Alike w₁ w₂ y) : Alike w₁ w₂ (if p then x else y) := by
  by_cases h : p
  · rw [if_pos h]
    exact hx
  · rw [if_neg h]
    exact hy

theorem ofExcept (r : Except ε α) : Alike w₁ w₂ (Procedure.ofExcept r) := by
  cases r with
  | error e => exact fail e
  | ok a => exact pure a

theorem orFail (e : ε) (a : Option α) : Alike w₁ w₂ (Procedure.orFail e a) := by
  cases a with
  | none => exact fail e
  | some a => exact pure a

theorem mapError (f : ε → ε') (hx : Alike w₁ w₂ x) : Alike w₁ w₂ (x.mapError f) := by
  obtain ⟨r, v₁, v₂, h₁, h₂⟩ := hx.exists_run
  unfold Alike
  rw [mapError_run, mapError_run, h₁, h₂]
  rcases r with (_ | _) | _ <;> rfl

theorem lift {x : Statement α} (hx : Alike w₁ w₂ x) : Alike w₁ w₂ (liftM x : Operation α) :=
  hx.mapError _

theorem map (f : α → β) (hx : Alike w₁ w₂ x) : Alike w₁ w₂ (f <$> x) := by
  rw [← bind_pure_comp]
  exact bind hx fun a _ _ _ _ => pure (f a)

/-- A transaction ends like what runs in it. -/
theorem transaction (hx : Alike w₁ w₂ x) : Alike w₁ w₂ (Procedure.transaction x) := by
  have hsame : ∀ w, (Procedure.transaction x w).1 = (x w).1 := by
    intro w
    unfold Procedure.transaction
    rcases x w with ⟨_ | _, _⟩ <;> rfl
  unfold Alike at hx ⊢
  rw [hsame, hsame, hx]

end Alike

end Procedure

open Procedure

/-- Clock, store and held requests are the same. -/
structure World.SameAround (w₁ w₂ : World) : Prop where
  now : w₁.now = w₂.now
  isOpen : w₁.isOpen = w₂.isOpen
  heldRequests : w₁.heldRequests = w₂.heldRequests

variable {w₁ w₂ : World}

/-! ### Statements that only look -/

namespace Statement

variable {α : Type}

theorem alike_ensureOpen (h : w₁.SameAround w₂) : Alike w₁ w₂ ensureOpen := by
  apply Alike.world
  rw [h.isOpen]
  by_cases ho : w₂.isOpen = true
  · rw [if_pos ho]
    rfl
  · rw [if_neg ho]
    rfl

theorem alike_query (h : w₁.SameAround w₂) {f : Tables → α} (hf : f w₁.tables = f w₂.tables) :
    Alike w₁ w₂ (query f) := by
  refine .look keeps_ensureOpen (alike_ensureOpen h) fun _ _ => ?_
  apply Alike.world
  rw [hf]
  rfl

theorem alike_setLockTimeout (h : w₁.SameAround w₂) (millis : Int) :
    Alike w₁ w₂ (setLockTimeout millis) :=
  .look keeps_ensureOpen (alike_ensureOpen h) fun _ _ => .ite (.pure _) (.fail _)

theorem alike_checkArguments (h : w₁.SameAround w₂) (args : List Argument) :
    Alike w₁ w₂ (checkArguments args) := by
  refine .look keeps_ensureOpen (alike_ensureOpen h) fun _ _ => ?_
  cases args.findSome? Argument.flaw? with
  | some e => exact .fail e
  | none => exact .pure ()

theorem alike_awaitRequests (h : w₁.SameAround w₂) (ids : List Int) :
    Alike w₁ w₂ (awaitRequests ids) := by
  apply Alike.world
  rw [h.heldRequests]
  by_cases hheld : ids.any w₂.heldRequests.contains = true
  · rw [if_pos hheld]
    rfl
  · rw [if_neg hheld]
    rfl

theorem alike_readableRow? (isReadable : α → Bool) (row : Option α) :
    Alike w₁ w₂ (readableRow? isReadable row) :=
  .ite (.pure _) .overflow

end Statement

open Statement

namespace Requests

theorem alike_countOf (h : w₁.SameAround w₂) {user : Int}
    (hrows : w₁.tables.requestsOf user = w₂.tables.requestsOf user) :
    Alike w₁ w₂ (countOf user) := by
  apply alike_query h
  rw [hrows]

theorem alike_find? (h : w₁.SameAround w₂) {id : Int}
    (hrow : w₁.tables.request? id = w₂.tables.request? id) : Alike w₁ w₂ (find? id) :=
  .look (keeps_query _) (alike_query h hrow) fun _ _ => alike_readableRow? _ _

/-- Of the row that is found, only what is left of it after a test is looked at. -/
theorem lockOwned_eq (id user : Int) :
    lockOwned id user
      = query (fun t => (t.request? id).filter (·.userId == user)) >>= lockFound := by
  funext w
  unfold lockOwned
  rw [bind_run, bind_run]
  by_cases ho : w.isOpen = true
  · rw [query_run ho, query_run ho]
  · rw [query_run_of_closed ho, query_run_of_closed ho]

theorem alike_lockOwned (h : w₁.SameAround w₂) {id user : Int}
    (hrow : (w₁.tables.request? id).filter (·.userId == user)
      = (w₂.tables.request? id).filter (·.userId == user)) :
    Alike w₁ w₂ (lockOwned id user) := by
  rw [lockOwned_eq]
  refine .look (keeps_query _) (alike_query h hrow) fun found _ => ?_
  exact .look (keeps_awaitRequests _) (alike_awaitRequests h _) fun _ _ => alike_readableRow? _ _

/-! ### Statements that write -/

theorem alike_insert (h : w₁.SameAround w₂) {user : Int} (n : NewRequest)
    (hid : w₁.issued.requests = w₂.issued.requests)
    (huser : (w₁.tables.user? user).isNone = (w₂.tables.user? user).isNone) :
    Alike w₁ w₂ (insert user n) := by
  refine .look (keeps_checkArguments _) (alike_checkArguments h _) fun _ _ => ?_
  have hnext : Alike w₁ w₂ nextId := by
    have hrun : ∀ w, (nextId w).1 = .ok (w.issued.requests + 1) := fun _ => rfl
    unfold Alike
    rw [hrun, hrun, hid]
  refine .bind hnext ?_
  intro id v₁ v₂ h₁ h₂
  obtain ⟨-, rfl⟩ := nextId_ok_iff.1 h₁
  obtain ⟨-, rfl⟩ := nextId_ok_iff.1 h₂
  apply Alike.world
  have huser' : (w₁.issueRequest.tables.user? user).isNone
      = (w₂.issueRequest.tables.user? user).isNone := huser
  have hnow : w₁.issueRequest.now = w₂.issueRequest.now := h.now
  rw [huser', hnow]
  exact Alike.ite (.fail _) (.ite (.fail _) (.bind rfl fun _ _ _ _ _ => .ite (.pure _) .overflow))

theorem alike_updateRows (h : w₁.SameAround w₂) {chosen : Tables → Request → Bool}
    (edit : Request → Request)
    (hrows : w₁.tables.requests.filter (chosen w₁.tables)
      = w₂.tables.requests.filter (chosen w₂.tables)) :
    Alike w₁ w₂ (updateRows chosen edit) := by
  apply Alike.world
  rw [hrows, h.now]
  exact Alike.look (keeps_awaitRequests _) (alike_awaitRequests h _) fun _ _ =>
    .bind rfl fun _ _ _ _ _ => .pure _

theorem alike_saveDetails (h : w₁.SameAround w₂) {details : Request}
    (hrow : w₁.tables.request? details.id = w₂.tables.request? details.id)
    (hrows : w₁.tables.requests.filter (·.id == details.id)
      = w₂.tables.requests.filter (·.id == details.id)) :
    Alike w₁ w₂ (saveDetails details) := by
  refine .look (keeps_checkArguments _) (alike_checkArguments h _) fun _ _ => ?_
  refine .ite (.fail _) (.bind (alike_updateRows h _ hrows) ?_)
  intro n v₁ v₂ h₁ h₂
  obtain ⟨-, -, rfl⟩ := updateRows_ok_iff.1 h₁
  obtain ⟨-, -, rfl⟩ := updateRows_ok_iff.1 h₂
  have haround : (w₁.withTables (w₁.tables.editDetails w₁.now details)).SameAround
      (w₂.withTables (w₂.tables.editDetails w₂.now details)) :=
    ⟨h.now, h.isOpen, h.heldRequests⟩
  have hsaved : (w₁.tables.editDetails w₁.now details).request? details.id
      = (w₂.tables.editDetails w₂.now details).request? details.id := by
    have hid : ∀ r, (withDetails details r).id = r.id := fun _ => rfl
    unfold Tables.editDetails
    rw [Tables.request?_editRequests hid, Tables.request?_editRequests hid, hrow, h.now]
  refine .look (keeps_find? _) (alike_find? haround hsaved) ?_
  intro found _
  cases found with
  | none => exact .fail _
  | some r => exact .pure r

end Requests

end ShuttleDesk
