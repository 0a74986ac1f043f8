/-
  ShuttleDesk/Proofs/Store/Contention.lean
  ========================================
  One procedure while another session holds rows, and after it has given them back.
  Only the statements that lock or change rows look at what is held, and all they do
  with it is to wait in vain: so a procedure ends as it does when nothing is held, or it
  fails with the error of a row that could not be had.

  This is kept by putting procedures together.  The error and what has to be held are
  parameters of the relation, and a part that has answered leaves the same rows held.
-/
import ShuttleDesk.Proofs.Store.Atomic

namespace ShuttleDesk

/-- The store is open, and no other session holds a row. -/
structure World.IsCalm (w : World) : Prop where
  isOpen : w.isOpen = true
  heldShifts : w.heldShifts = []
  heldRequests : w.heldRequests = []

/-- The world once other sessions have given back the rows that they hold. -/
def World.released (w : World) : World := { w with heldShifts := [], heldRequests := [] }

/-- The shift is there, and another session holds it. -/
def World.HoldsShift (w : World) (id : Int) : Prop := ∃ s ∈ w.tables.shift? id, s.id ∈ w.heldShifts

/-- The request is there, and another session holds it. -/
def World.HoldsRequest (w : World) (id : Int) : Prop :=
  ∃ r ∈ w.tables.request? id, r.id ∈ w.heldRequests

namespace Procedure

variable {ε ε' α β : Type} {e : ε} {blocked : Prop} {w : World} {x : Procedure ε α}

/-- Nothing but rows is changed, and the procedure ends as it does once the held rows are released,
or with the error because it is blocked. -/
structure Contended (e : ε) (blocked : Prop) (w : World) (x : Procedure ε α) : Prop where
  around : (x w).2.withTables w.tables = w
  outcome : x w.released = ((x w).1, (x w).2.released) ∨ ((x w).1 = .error (.error e) ∧ blocked)

namespace Contended

/-- What leaves the world alone and does not look at what is held. -/
theorem of_same {o : Except (Stop ε) α} (h : x w = (o, w)) (h' : x w.released = (o, w.released)) :
    Contended e blocked w x := by
  constructor
  · rw [h, World.withTables_self]
  · left
    rw [h, h']

theorem pure (a : α) : Contended e blocked w (Pure.pure a : Procedure ε α) := .of_same rfl rfl

theorem fail (f : ε) : Contended e blocked w (Procedure.fail f : Procedure ε α) := .of_same rfl rfl

theorem overflow : Contended e blocked w (Procedure.overflow : Procedure ε α) := .of_same rfl rfl

theorem changeTables (f : Tables → Tables) :
    Contended e blocked w (Procedure.changeTables f : Procedure ε Unit) := ⟨rfl, .inl rfl⟩

/-- The part that comes next is met by the rows that the first part has left. -/
theorem bind {k : α → Procedure ε β} (hx : Contended e blocked w x)
    (hk : ∀ a v, x w = (.ok a, v) → v.withTables w.tables = w → Contended e blocked v (k a)) :
    Contended e blocked w (x >>= k) := by
  obtain ⟨haround, houtcome⟩ := hx
  rcases hrun : x w with ⟨stop | a, v⟩ <;> rw [hrun] at haround houtcome
  case error =>
    have hw : (x >>= k) w = (.error stop, v) := by rw [bind_run, hrun]
    constructor
    · rw [hw]
      exact haround
    · rcases houtcome with h | h
      · left
        rw [hw, bind_run, h]
      · right
        rw [hw]
        cases h.1
        exact ⟨rfl, h.2⟩
  case ok =>
    have hw : (x >>= k) w = k a v := by rw [bind_run, hrun]
    have hreleased : x w.released = (.ok a, v.released) := by
      rcases houtcome with h | ⟨h, -⟩
      · exact h
      · cases h
    have hw' : (x >>= k) w.released = k a v.released := by rw [bind_run, hreleased]
    obtain ⟨haround', houtcome'⟩ := hk a v hrun haround
    constructor
    · rw [hw, ← World.withTables_withTables _ v.tables, haround']
      exact haround
    · rw [hw, hw']
      exact houtcome'

/-- After a look the world is the same. -/
theorem look {k : α → Procedure ε β} (hkeeps : Keeps id x) (hx : Contended e blocked w x)
    (hk : ∀ a, x w = (.ok a, w) → Contended e blocked w (k a)) :
    Contended e blocked w (x >>= k) := by
  refine bind hx ?_
  intro a v hrun _
  have hv : v = w := by simpa [hrun] using hkeeps w
  subst hv
  exact hk a hrun

/-- Of the world that is looked at, what is held must not matter. -/
theorem world {k : World → Procedure ε β} (hsame : k w.released = k w)
    (h : Contended e blocked w (k w)) : Contended e blocked w (Procedure.world >>= k) := by
  obtain ⟨haround, houtcome⟩ := h
  refine ⟨haround, ?_⟩
  have hw : (Procedure.world >>= k) w.released = k w w.released := by
    rw [bind_run, world_run]
    simp only [hsame]
  rw [hw]
  exact houtcome

theorem ite {p : Prop} [Decidable p] {y : Procedure ε α} (hx : Contended e blocked w x)
    (hy : Contended e blocked w y) : Contended e blocked w (if p then x else y) := by
  by_cases h : p
  · rw [if_pos h]
    exact hx
  · rw [if_neg h]
    exact hy

theorem ofExcept (r : Except ε α) : Contended e blocked w (Procedure.ofExcept r) := by
  cases r with
  | error f => exact fail f
  | ok a => exact pure a

theorem orFail (f : ε) (a : Option α) : Contended e blocked w (Procedure.orFail f a) := by
  cases a with
  | none => exact fail f
  | some a => exact pure a

theorem mapError (f : ε → ε') (hx : Contended e blocked w x) :
    Contended (f e) blocked w (x.mapError f) := by
  obtain ⟨haround, houtcome⟩ := hx
  have hrun : ∀ w, x.mapError f w = (match (x w).1 with
      | .ok a => .ok a
      | .error (.error e) => .error (.error (f e))
      | .error .timeOverflow => .error .timeOverflow, (x w).2) := by
    intro w
    rw [mapError_run]
    rcases x w with ⟨(_ | _) | _, _⟩ <;> rfl
  constructor
  · rw [hrun]
    exact haround
  · rw [hrun, hrun]
    rcases houtcome with h | ⟨h, hblocked⟩
    · left
      rw [h]
    · right
      rw [h]
      exact ⟨rfl, hblocked⟩

theorem map (f : α → β) (hx : Contended e blocked w x) : Contended e blocked w (f <$> x) := by
  rw [← bind_pure_comp]
  exact bind hx fun a _ _ _ => pure (f a)

theorem transaction (hx : Contended e blocked w x) :
    Contended e blocked w (Procedure.transaction x) := by
  obtain ⟨haround, houtcome⟩ := hx
  have hrun : ∀ w, Procedure.transaction x w = ((x w).1, match (x w).1 with
      | .ok _ => (x w).2
      | .error _ => (x w).2.withTables w.tables) := by
    intro w
    unfold Procedure.transaction
    rcases x w with ⟨_ | _, _⟩ <;> rfl
  constructor
  · rw [hrun]
    cases (x w).1 <;> exact haround
  · rw [hrun, hrun]
    rcases houtcome with h | h
    · left
      rw [h]
      cases (x w).1 <;> rfl
    · exact .inr h

end Contended

end Procedure

open Procedure

/-! ### Statements that do not wait -/

namespace Statement

variable {α : Type} {blocked : Prop} {w : World}

/-- The statement ends as it does when nothing is held, or it could not have a row. -/
abbrev Waits (blocked : Prop) (w : World) (x : Statement α) : Prop :=
  Contended .lockNotAvailable blocked w x

theorem waits_ensureOpen : Waits blocked w ensureOpen := by
  by_cases ho : w.isOpen = true
  · exact .world rfl (by rw [if_pos ho]; exact .pure ())
  · exact .world rfl (by rw [if_neg ho]; exact .fail _)

theorem waits_query (f : Tables → α) : Waits blocked w (query f) :=
  .look keeps_ensureOpen waits_ensureOpen fun _ _ => .world rfl (.pure _)

theorem waits_setLockTimeout (millis : Int) : Waits blocked w (setLockTimeout millis) :=
  .look keeps_ensureOpen waits_ensureOpen fun _ _ => .ite (.pure _) (.fail _)

theorem waits_checkArguments (args : List Argument) : Waits blocked w (checkArguments args) := by
  refine .look keeps_ensureOpen waits_ensureOpen fun _ _ => ?_
  cases args.findSome? Argument.flaw? with
  | some f => exact .fail f
  | none => exact .pure ()

theorem waits_readableRow? (isReadable : α → Bool) (row : Option α) :
    Waits blocked w (readableRow? isReadable row) :=
  .ite (.pure _) .overflow

/-! ### Statements that wait -/

/-- Waiting for rows is in vain exactly while one of them is held. -/
theorem waits_await {ids : List Int} (held : World → List Int) (hreleased : held w.released = [])
    (h : ∀ id ∈ ids, id ∈ held w → blocked) :
    Waits blocked w (do
      let w ← world
      if ids.any (held w).contains then fail .lockNotAvailable else return ()) := by
  constructor
  · rw [bind_run, world_run]
    by_cases hheld : ids.any (held w).contains = true
    · simp only [if_pos hheld, fail_run, World.withTables_self]
    · simp only [if_neg hheld, pure_run, World.withTables_self]
  · have hfree : ¬ ids.any ([] : List Int).contains = true := by simp
    simp only [bind_run, world_run, hreleased, if_neg hfree, pure_run]
    by_cases hheld : ids.any (held w).contains = true
    · obtain ⟨id, hid, hin⟩ := List.any_eq_true.1 hheld
      right
      simp only [if_pos hheld, fail_run, true_and]
      exact h id hid (List.contains_iff_mem.1 hin)
    · left
      simp only [if_neg hheld, pure_run]

theorem waits_awaitShifts {ids : List Int} (h : ∀ id ∈ ids, id ∈ w.heldShifts → blocked) :
    Waits blocked w (awaitShifts ids) :=
  waits_await World.heldShifts rfl h

theorem waits_awaitShifts_found {α : Type} {found : Option α} {idOf : α → Int}
    (h : ∀ a ∈ found, idOf a ∈ w.heldShifts → blocked) :
    Waits blocked w (awaitShifts (found.toList.map idOf)) := by
  refine waits_awaitShifts ?_
  simpa only [List.forall_mem_map, Option.mem_toList, Option.mem_def] using h

theorem waits_awaitRequests {ids : List Int} (h : ∀ id ∈ ids, id ∈ w.heldRequests → blocked) :
    Waits blocked w (awaitRequests ids) :=
  waits_await World.heldRequests rfl h

end Statement

open Statement

namespace Shifts

variable {blocked : Prop} {w : World} {id : Int}

theorem waits_lock (h : w.HoldsShift id → blocked) : Waits blocked w (lock id) := by
  refine .look (keeps_query _) (waits_query _) fun found hfound => ?_
  obtain ⟨-, rfl, -⟩ := query_ok_iff.1 hfound
  refine .look (keeps_awaitShifts _) (waits_awaitShifts_found ?_) fun _ _ => waits_readableRow? _ _
  exact fun s hs hheld => h ⟨s, hs, hheld⟩

theorem waits_lockWithCapacity (h : w.HoldsShift id → blocked) :
    Waits blocked w (lockWithCapacity id) := by
  refine .look keeps_ensureOpen waits_ensureOpen fun _ _ => .world rfl ?_
  refine .look (keeps_awaitShifts _) (waits_awaitShifts_found ?_) fun _ _ => .pure _
  intro locked hlocked hheld
  obtain ⟨s, hs, hrest⟩ := Option.bind_eq_some_iff.1 hlocked
  obtain ⟨d, -, hlocked⟩ := Option.bind_eq_some_iff.1 hrest
  cases hlocked
  exact h ⟨s, hs, hheld⟩

theorem waits_setStatus (status : ShiftStatus) (h : w.HoldsShift id → blocked) :
    Waits blocked w (setStatus id status) := by
  refine .look keeps_ensureOpen waits_ensureOpen fun _ _ => .world rfl ?_
  refine .look (keeps_awaitShifts _) (waits_awaitShifts_found ?_) fun _ _ => .changeTables _
  exact fun s hs hheld => h ⟨s, hs, hheld⟩

theorem waits_update (patch : ShiftPatch) (h : w.HoldsShift id → blocked) :
    Waits blocked w (update id patch) := by
  refine .look (keeps_checkArguments _) (waits_checkArguments _) fun _ _ => .world rfl ?_
  refine .look (keeps_awaitShifts _) (waits_awaitShifts_found ?_) fun _ _ => ?_
  · exact fun s hs hheld => h ⟨s, hs, hheld⟩
  cases w.tables.shift? id with
  | none => exact .pure _
  | some s =>
    refine .ite (.fail _) (.bind (.changeTables _) fun _ v _ _ => ?_)
    exact .look (keeps_query _) (waits_query _) fun _ _ => waits_readableRow? _ _

end Shifts

namespace Requests

variable {blocked : Prop} {w : World} {id : Int}

theorem waits_lockFound {found : Option Request}
    (h : ∀ r ∈ found, r.id ∈ w.heldRequests → blocked) : Waits blocked w (lockFound found) := by
  refine .look (keeps_awaitRequests _) (waits_awaitRequests ?_) fun _ _ => waits_readableRow? _ _
  intro i hi hheld
  obtain ⟨r, hr, rfl⟩ := List.mem_map.1 hi
  exact h r (Option.mem_toList.1 hr) hheld

theorem waits_lock (h : w.HoldsRequest id → blocked) : Waits blocked w (lock id) := by
  refine .look (keeps_query _) (waits_query _) fun found hfound => waits_lockFound ?_
  obtain ⟨-, rfl, -⟩ := query_ok_iff.1 hfound
  intro r hr hheld
  exact h ⟨r, hr, hheld⟩

theorem waits_lockOwned {user : Int}
    (h : ∀ r ∈ w.tables.request? id, r.userId = user → r.id ∈ w.heldRequests → blocked) :
    Waits blocked w (lockOwned id user) := by
  refine .look (keeps_query _) (waits_query _) fun found hfound => waits_lockFound ?_
  obtain ⟨-, rfl, -⟩ := query_ok_iff.1 hfound
  intro r hr hheld
  obtain ⟨hr, huser⟩ := Option.filter_eq_some_iff.1 hr
  exact h r hr (beq_iff_eq.1 huser) hheld

theorem waits_updateRows {chosen : Tables → Request → Bool} (edit : Request → Request)
    (h : ∀ r ∈ w.tables.requests, chosen w.tables r = true → r.id ∈ w.heldRequests → blocked) :
    Waits blocked w (updateRows chosen edit) := by
  refine .world rfl (.look (keeps_awaitRequests _) (waits_awaitRequests ?_) fun _ _ => ?_)
  · intro i hi hheld
    obtain ⟨r, hr, rfl⟩ := List.mem_map.1 hi
    obtain ⟨hr, hchosen⟩ := List.mem_filter.1 hr
    exact h r hr hchosen hheld
  · exact .bind (.changeTables _) fun _ _ _ _ => .pure _

/-- A row with the id is held if any row with the id is. -/
theorem holdsRequest_of_mem {r : Request} (hr : r ∈ w.tables.requests) (hid : r.id = id)
    (hheld : r.id ∈ w.heldRequests) : w.HoldsRequest id := by
  have hmem : id ∈ w.tables.requestIds := List.mem_map.2 ⟨r, hr, hid⟩
  obtain ⟨row, hrow⟩ := Option.isSome_iff_exists.1 (Tables.request?_isSome_iff.2 hmem)
  refine ⟨row, hrow, ?_⟩
  rw [(Tables.mem_of_request? hrow).2, ← hid]
  exact hheld

theorem waits_setStatus (status : RequestStatus) (h : w.HoldsRequest id → blocked) :
    Waits blocked w (setStatus id status) := by
  refine .look keeps_ensureOpen waits_ensureOpen fun _ _ => ?_
  refine .bind (waits_updateRows _ ?_) fun _ _ _ _ => .pure _
  intro r hr hchosen hheld
  exact h (holdsRequest_of_mem hr (beq_iff_eq.1 hchosen) hheld)

theorem waits_publishOn {shift : Int}
    (h : ∀ r ∈ w.tables.requestsOn shift, r.id ∈ w.heldRequests → blocked) :
    Waits blocked w (publishOn shift) := by
  refine .look keeps_ensureOpen waits_ensureOpen fun _ _ => waits_updateRows _ ?_
  intro r hr hchosen hheld
  exact h r (List.mem_filter.2 ⟨hr, hchosen⟩) hheld

theorem waits_applyRefresh {f : Flight.Refresh}
    (h : ∀ r ∈ w.tables.requests, f.reaches r = true → r.id ∈ w.heldRequests → blocked) :
    Waits blocked w (applyRefresh f) :=
  .look (keeps_checkArguments _) (waits_checkArguments _) fun _ _ => waits_updateRows _ h

theorem waits_find? : Waits blocked w (find? id) :=
  .look (keeps_query _) (waits_query _) fun _ _ => waits_readableRow? _ _

theorem waits_saveDetails {details : Request} (h : w.HoldsRequest details.id → blocked) :
    Waits blocked w (saveDetails details) := by
  refine .look (keeps_checkArguments _) (waits_checkArguments _) fun _ _ => .ite (.fail _) ?_
  refine .bind (waits_updateRows _ ?_) fun _ v _ _ => ?_
  · intro r hr hchosen hheld
    exact h (holdsRequest_of_mem hr (beq_iff_eq.1 hchosen) hheld)
  · refine .look (keeps_find? _) waits_find? fun found _ => ?_
    cases found with
    | none => exact .fail _
    | some r => exact .pure r

end Requests

/-! ### Bindings and staff are written without waiting -/

section Bridges

variable {blocked : Prop} {w : World}

theorem Bindings.waits_insert (shift request : Int) : Waits blocked w (insert shift request) :=
  .look keeps_ensureOpen waits_ensureOpen fun _ _ =>
    .world rfl (.ite (.fail _) (.ite (.fail _) (.ite (.fail _) (.changeTables _))))

theorem Bindings.waits_delete (shift request : Int) : Waits blocked w (delete shift request) :=
  .look keeps_ensureOpen waits_ensureOpen fun _ _ =>
    .world rfl (.bind (.changeTables _) fun _ _ _ _ => .pure _)

theorem Staffings.waits_insert (shift staff : Int) : Waits blocked w (insert shift staff) :=
  .look keeps_ensureOpen waits_ensureOpen fun _ _ =>
    .world rfl (.ite (.pure _) (.ite (.fail _) (.bind (.changeTables _) fun _ _ _ _ => .pure _)))

theorem Staffings.waits_delete (shift staff : Int) : Waits blocked w (delete shift staff) :=
  .look keeps_ensureOpen waits_ensureOpen fun _ _ =>
    .world rfl (.bind (.changeTables _) fun _ _ _ _ => .pure _)

end Bridges

/-! ### Nothing is held -/

namespace World.IsCalm

variable {w : World}

theorem awaitShifts_run (h : w.IsCalm) (ids : List Int) : awaitShifts ids w = (.ok (), w) :=
  awaitShifts_ok_iff.2 ⟨by simp [h.heldShifts], rfl⟩

theorem awaitRequests_run (h : w.IsCalm) (ids : List Int) : awaitRequests ids w = (.ok (), w) :=
  awaitRequests_ok_iff.2 ⟨by simp [h.heldRequests], rfl⟩

theorem areFree (h : w.IsCalm) (chosen : Request → Bool) : Requests.AreFree w chosen := by
  intro r _ _
  simp [h.heldRequests]

end World.IsCalm

theorem Statement.readableRow?_run {α : Type} {w : World} (isReadable : α → Bool)
    (row : Option α) :
    readableRow? isReadable row w =
      (if row.all isReadable then .ok row else .error .timeOverflow, w) := by
  by_cases h : row.all isReadable = true
  · rw [readableRow?, if_pos h, if_pos h, pure_run]
  · rw [readableRow?, if_neg h, if_neg h, overflow_run]

end ShuttleDesk
