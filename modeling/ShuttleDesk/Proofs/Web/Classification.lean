/-
  ShuttleDesk/Proofs/Web/Classification.lean
  ==========================================
  How errors are told apart.  Errors of the desk are answered by their kind: one that
  another try may resolve, a mistake of the caller, which is answered with its own text,
  and anything else.  What the store says of its errors is in their texts, but in no answer.

  Refusals and errors of the store may also be answered without becoming errors of the
  desk.  That gives another answer for a sender who is turned away and for a conflict in
  the store, and the same status and code for everything else.
-/
import Mathlib.Tactic.SplitIfs
import ShuttleDesk.Web.Handler

namespace ShuttleDesk

/-! ### Errors of the store -/

/-- The connection was waited for in vain, or the database gave up on a conflict. -/
def StorageError.IsConflict (s : StorageError) : Prop :=
  s = .poolTimedOut ∨ ∃ state constraint, s = .database (some state) constraint ∧
    (state = "55P03" ∨ state = "40P01" ∨ state = "40001")

theorem StorageError.isTransient_iff {s : StorageError} : s.isTransient = true ↔ s.IsConflict := by
  cases s with
  | database state constraint =>
    cases state <;> simp [isTransient, IsConflict, transientStates]
  | _ => simp [isTransient, IsConflict]

namespace DeskError

theorem ofStorage_of_isConflict {s : StorageError} (h : s.IsConflict) :
    ofStorage s = transient s :=
  if_pos (StorageError.isTransient_iff.2 h)

theorem ofStorage_of_not_isConflict {s : StorageError} (h : ¬ s.IsConflict) :
    ofStorage s = database s :=
  if_neg (mt StorageError.isTransient_iff.1 h)

/-- The error in words, with what the store says of its own errors. -/
def text (wording : StorageError → String) : DeskError → String
  | transient cause => "Transient database failure, safe to retry: " ++ wording cause
  | database cause => "Database error: " ++ wording cause
  | e => e.message?.getD ""

end DeskError

namespace Web
namespace Failure

/-! ### Answers -/

theorem isShown_iff {constraint : String} :
    isShown constraint = true ↔ ∃ rest, constraint = "uq_" ++ rest := by
  rw [isShown, List.isPrefixOf_iff_prefix]
  constructor
  · rintro ⟨rest, h⟩
    refine ⟨String.ofList rest, String.toList_inj.1 (h.symm.trans ?_)⟩
    rw [String.toList_append, String.toList_ofList (l := rest)]
  · rintro ⟨rest, rfl⟩
    exact ⟨rest.toList, String.toList_append.symm⟩

/-- What an error of the store is answered with. -/
theorem ofStorage_cases (s : StorageError) :
    (s = .rowNotFound ∧ ofStorage s = ⟨404, "NOT_FOUND", "Resource not found"⟩) ∨
    (∃ rest, s = .duplicate ("uq_" ++ rest) ∧ ofStorage s =
      ⟨409, "CONFLICT", "Duplicate value violates unique constraint: " ++ ("uq_" ++ rest)⟩) ∨
    ofStorage s = internal := by
  unfold ofStorage
  split
  · exact .inl ⟨rfl, rfl⟩
  · split_ifs with h
    · obtain ⟨rfl, hshown⟩ := h
      obtain ⟨rest, rfl⟩ := isShown_iff.1 hshown
      exact .inr (.inl ⟨rest, rfl, rfl⟩)
    · exact .inr (.inr rfl)
  · exact .inr (.inr rfl)

theorem ofStorage_status (s : StorageError) :
    (ofStorage s).status = 404 ∨ (ofStorage s).status = 409 ∨ (ofStorage s).status = 500 := by
  rcases ofStorage_cases s with ⟨-, h⟩ | ⟨rest, -, h⟩ | h
  · exact .inl (congrArg status h)
  · exact .inr (.inl (congrArg status h))
  · exact .inr (.inr (congrArg status h))

theorem ofStorage_of_isConflict {s : StorageError} (h : s.IsConflict) : ofStorage s = internal := by
  rcases ofStorage_cases s with ⟨rfl, -⟩ | ⟨rest, rfl, -⟩ | hinternal
  · simp [StorageError.IsConflict] at h
  · simp [StorageError.IsConflict, StorageError.duplicate, StorageError.uniqueState] at h
  · exact hinternal

/-- The answer to an error that is given with all its words: they are told where the error is not
one of the store. -/
def ofDeskIn (wording : StorageError → String) (e : DeskError) : Failure :=
  match e with
  | .transient _ => ⟨503, e.code, "The resource is busy, please retry"⟩
  | .database cause => ofStorage cause
  | _ => ⟨400, e.code, e.text wording⟩

theorem ofDeskIn_eq (wording : StorageError → String) (e : DeskError) :
    ofDeskIn wording e = ofDesk e := by
  cases e <;> rfl

/-- A mistake of the caller is answered with its own text. -/
theorem ofDeskIn_of_isCallerError {wording : StorageError → String} {e : DeskError}
    (h : e.isCallerError = true) :
    ofDeskIn wording e = ⟨400, e.code, e.text wording⟩ ∧ e.isRetryable = false := by
  cases e with
  | transient cause => cases h
  | database cause => cases h
  | _ => exact ⟨rfl, rfl⟩

end Failure

open Failure

/-- An error of the desk is answered by its kind.  What the store says of an error is in no answer,
and of what it says about one only the name of a unique constraint that was made to be shown. -/
theorem classification_coherent (e : DeskError) (wording : StorageError → String) :
    let f := ofDeskIn wording e
    (Exit.failed e).response = f.response ∧
    (e.isRetryable = true ↔ f.status = 503 ∧ f.code = "RETRYABLE") ∧
    (e.isCallerError = true ↔ f.status = 400 ∧ f.code = e.code ∧ f.message = e.text wording) ∧
    (e.isRetryable = true ∨ e.isCallerError = true ∨
      f.status = 404 ∨ f.status = 409 ∨ f.status = 500) ∧
    (∀ s, (DeskError.ofStorage s = .transient s ↔ s.IsConflict) ∧
      (DeskError.ofStorage s = .database s ↔ ¬ s.IsConflict)) ∧
    (∀ wording', ofDeskIn wording' e = f) ∧
    (e.isCallerError = true ∨
      f.message = "The resource is busy, please retry" ∨ f.message = "Resource not found" ∨
      f.message = "An internal error occurred" ∨
      ∃ rest, e = .database (.duplicate ("uq_" ++ rest)) ∧
        f.message = "Duplicate value violates unique constraint: " ++ ("uq_" ++ rest)) := by
  intro f
  have hconversion : ∀ s, (DeskError.ofStorage s = .transient s ↔ s.IsConflict) ∧
      (DeskError.ofStorage s = .database s ↔ ¬ s.IsConflict) := by
    intro s
    by_cases h : s.IsConflict
    · simp [DeskError.ofStorage_of_isConflict h, h]
    · simp [DeskError.ofStorage_of_not_isConflict h, h]
  have hwording : ∀ wording', ofDeskIn wording' e = f := fun wording' =>
    (ofDeskIn_eq wording' e).trans (ofDeskIn_eq wording e).symm
  have hresponse : (Exit.failed e).response = f.response := by
    rw [Exit.response, ← ofDeskIn_eq wording]
  -- a conflict, another error of the store, or a mistake of the caller
  by_cases hcaller : e.isCallerError = true
  · obtain ⟨hf, hretryable⟩ : f = _ ∧ _ := ofDeskIn_of_isCallerError hcaller
    refine ⟨hresponse, ?_, ?_, .inr (.inl hcaller), hconversion, hwording, .inl hcaller⟩
    · simp [hretryable, hf]
    · simp [hcaller, hf]
  · cases e with
    | transient cause =>
      have hstatus : f.status = 503 := rfl
      refine ⟨hresponse, ?_, ?_, .inl rfl, hconversion, hwording, .inr (.inl rfl)⟩
      · exact ⟨fun _ => ⟨hstatus, rfl⟩, fun _ => rfl⟩
      · exact ⟨nofun, fun h => by omega⟩
    | database cause =>
      have hstatus : f.status = 404 ∨ f.status = 409 ∨ f.status = 500 := ofStorage_status cause
      refine ⟨hresponse, ?_, ?_, .inr (.inr hstatus), hconversion, hwording, ?_⟩
      · exact ⟨nofun, fun h => by omega⟩
      · exact ⟨nofun, fun h => by omega⟩
      · rcases ofStorage_cases cause with ⟨-, h⟩ | ⟨rest, rfl, h⟩ | h
        · exact .inr (.inr (.inl (congrArg message h)))
        · exact .inr (.inr (.inr (.inr ⟨rest, rfl, congrArg message h⟩)))
        · exact .inr (.inr (.inr (.inl (congrArg message h))))
    | _ => exact absurd rfl hcaller

/-! ### Two ways to an answer -/

/-- What programs tell answers by. -/
def Failure.kind (f : Failure) : Nat × String := (f.status, f.code)

theorem kind_ofRefusal (r : Refusal) :
    (∃ reason, r = .validation reason) ∧ (ofDesk (.ofRefusal r)).kind = (ofRefusal r).kind ∨
    (¬ ∃ reason, r = .validation reason) ∧ (ofDesk (.ofRefusal r)).kind = (400, "INVALID_STATE") ∧
      ((ofRefusal r).kind = (401, "UNAUTHORIZED") ∨ (ofRefusal r).kind = (403, "FORBIDDEN")) := by
  cases r with
  | validation reason => exact .inl ⟨⟨reason, rfl⟩, rfl⟩
  | unauthorized reason => exact .inr ⟨nofun, rfl, .inl rfl⟩
  | forbidden reason => exact .inr ⟨nofun, rfl, .inr rfl⟩

theorem kind_ofStorage (s : StorageError) :
    ¬ s.IsConflict ∧ (ofDesk (.ofStorage s)).kind = (ofStorage s).kind ∨
    s.IsConflict ∧ (ofDesk (.ofStorage s)).kind = (503, "RETRYABLE") ∧
      (ofStorage s).kind = (500, "INTERNAL_ERROR") := by
  by_cases h : s.IsConflict
  · rw [DeskError.ofStorage_of_isConflict h, ofStorage_of_isConflict h]
    exact .inr ⟨h, rfl, rfl⟩
  · rw [DeskError.ofStorage_of_not_isConflict h]
    exact .inl ⟨h, rfl⟩

/-- A refusal or an error of the store that becomes an error of the desk first is answered with the
status and the code of its direct answer, unless a sender is turned away or the store is in
conflict. -/
theorem kind_eq_iff (r : Refusal) (s : StorageError) :
    ((ofDesk (.ofRefusal r)).kind = (ofRefusal r).kind ↔ ∃ reason, r = .validation reason) ∧
    ((ofDesk (.ofStorage s)).kind = (ofStorage s).kind ↔ ¬ s.IsConflict) ∧
    -- and these are the answers that differ
    ((∃ reason, r = .validation reason) ∨ (ofDesk (.ofRefusal r)).kind = (400, "INVALID_STATE") ∧
      ((ofRefusal r).kind = (401, "UNAUTHORIZED") ∨ (ofRefusal r).kind = (403, "FORBIDDEN"))) ∧
    (¬ s.IsConflict ∨ (ofDesk (.ofStorage s)).kind = (503, "RETRYABLE") ∧
      (ofStorage s).kind = (500, "INTERNAL_ERROR")) := by
  refine ⟨?_, ?_, ?_, ?_⟩
  · rcases kind_ofRefusal r with ⟨hr, h⟩ | ⟨hr, hdesk, hdirect⟩
    · exact iff_of_true h hr
    · refine iff_of_false ?_ hr
      rcases hdirect with hdirect | hdirect <;>
      · rw [hdesk, hdirect]
        decide
  · rcases kind_ofStorage s with ⟨hs, h⟩ | ⟨hs, hdesk, hdirect⟩
    · exact iff_of_true h hs
    · refine iff_of_false ?_ (not_not_intro hs)
      rw [hdesk, hdirect]
      decide
  · exact (kind_ofRefusal r).imp And.left And.right
  · exact (kind_ofStorage s).imp And.left And.right

/-- Neither who comes without a token nor a conflict in the store is answered alike. -/
theorem kinds_differ :
    (ofDesk (.ofRefusal (.unauthorized "no token"))).kind ≠
      (ofRefusal (.unauthorized "no token")).kind ∧
    (ofDesk (.ofStorage .poolTimedOut)).kind ≠ (ofStorage .poolTimedOut).kind := by
  decide

end Web
end ShuttleDesk
