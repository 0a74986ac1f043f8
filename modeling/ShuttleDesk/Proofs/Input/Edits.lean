/-
  ShuttleDesk/Proofs/Input/Edits.lean
  ===================================
  Laws of inputs and edits.  An edit gives some of the fields of an input; written over an
  input it makes another one.  Of several edits the last that gives a field counts for
  that field, edits of different fields can be written in either order, and to write an
  edit again changes nothing.  Over a valid input an edit is checked on its own.
-/
import ShuttleDesk.Input.Request
import ShuttleDesk.Proofs.Store.Constraints

namespace ShuttleDesk

/-! ### Checking fields -/

theorem FieldRule.check_broken_ok_iff {flightNo terminal : Option String}
    {checkedBags carryOnBags : Option Int} :
    FieldRule.check (FieldRule.broken flightNo terminal checkedBags carryOnBags) = .ok () ↔
      carryOnBags.all FieldRule.isCount = true ∧ checkedBags.all FieldRule.isCount = true ∧
      flightNo.all (FieldRule.hasLength FieldRule.flightNoLength) = true ∧
      terminal.all (FieldRule.hasLength FieldRule.terminalLength) = true := by
  unfold FieldRule.check FieldRule.broken
  cases carryOnBags.all FieldRule.isCount <;> cases checkedBags.all FieldRule.isCount <;>
    cases flightNo.all (FieldRule.hasLength FieldRule.flightNoLength) <;>
    cases terminal.all (FieldRule.hasLength FieldRule.terminalLength) <;> simp

/-- Where a rule holds already, it holds after a field is given if the field obeys it. -/
theorem FieldRule.getD_iff {α : Type} {rule : α → Bool} {c : α} (hc : rule c = true)
    (given : Option α) : rule (given.getD c) = true ↔ given.all rule = true := by
  cases given with
  | none => simp [hc]
  | some a => rfl

/-! ### Edits of an input -/

/-- The edits give different fields. -/
structure RequestEdit.Disjoint (p q : RequestEdit) : Prop where
  flightNo : p.flightNo = none ∨ q.flightNo = none
  arrivalDate : p.arrivalDate = none ∨ q.arrivalDate = none
  terminal : p.terminal = none ∨ q.terminal = none
  checkedBags : p.checkedBags = none ∨ q.checkedBags = none
  carryOnBags : p.carryOnBags = none ∨ q.carryOnBags = none
  expectedArrivalTime : p.expectedArrivalTime = none ∨ q.expectedArrivalTime = none

namespace RequestInput

/-- The input with the fields of an edit in place of its own. -/
def withEdit (i : RequestInput) (p : RequestEdit) : RequestInput where
  flightNo := p.flightNo.getD i.flightNo
  arrivalDate := p.arrivalDate.getD i.arrivalDate
  terminal := p.terminal.getD i.terminal
  checkedBags := p.checkedBags.getD i.checkedBags
  carryOnBags := p.carryOnBags.getD i.carryOnBags
  expectedArrivalTime := p.expectedArrivalTime.getD i.expectedArrivalTime

/-- The input in which each field is the one of the last edit that gives it. -/
def replaced (i : RequestInput) (ps : List RequestEdit) : RequestInput where
  flightNo := (ps.filterMap (·.flightNo)).getLast?.getD i.flightNo
  arrivalDate := (ps.filterMap (·.arrivalDate)).getLast?.getD i.arrivalDate
  terminal := (ps.filterMap (·.terminal)).getLast?.getD i.terminal
  checkedBags := (ps.filterMap (·.checkedBags)).getLast?.getD i.checkedBags
  carryOnBags := (ps.filterMap (·.carryOnBags)).getLast?.getD i.carryOnBags
  expectedArrivalTime := (ps.filterMap (·.expectedArrivalTime)).getLast?.getD i.expectedArrivalTime

/-- One edit more is written over what the others have left. -/
theorem replaced_append_one (i : RequestInput) (ps : List RequestEdit) (p : RequestEdit) :
    i.replaced (ps ++ [p]) = (i.replaced ps).withEdit p := by
  have hfield : ∀ {α : Type} (field : RequestEdit → Option α) (a : α),
      ((ps ++ [p]).filterMap field).getLast?.getD a
        = (field p).getD ((ps.filterMap field).getLast?.getD a) := by
    intro α field a
    rw [getLast?_filterMap_append_one]
    cases field p <;> rfl
  simp only [replaced, withEdit, hfield]

/-- Edits that give different fields can be written in either order. -/
theorem withEdit_withEdit_comm {p q : RequestEdit} (h : p.Disjoint q) (i : RequestInput) :
    (i.withEdit p).withEdit q = (i.withEdit q).withEdit p := by
  have hfield : ∀ {α : Type} {a b : Option α} (c : α), a = none ∨ b = none →
      b.getD (a.getD c) = a.getD (b.getD c) := by
    intro α a b c hnone
    rcases hnone with rfl | rfl <;> rfl
  simp only [withEdit, hfield _ h.flightNo, hfield _ h.arrivalDate, hfield _ h.terminal,
    hfield _ h.checkedBags, hfield _ h.carryOnBags, hfield _ h.expectedArrivalTime]

theorem withEdit_withEdit_self (i : RequestInput) (p : RequestEdit) :
    (i.withEdit p).withEdit p = i.withEdit p := by
  have hfield : ∀ {α : Type} (a : Option α) (c : α), a.getD (a.getD c) = a.getD c := by
    intro α a c
    cases a <;> rfl
  simp only [withEdit, hfield]

/-- Once an input is valid, the fields of an edit are what is left to check. -/
theorem validate_withEdit_iff {i : RequestInput} (h : i.validate = .ok ()) (p : RequestEdit) :
    (i.withEdit p).validate = .ok () ↔ p.validate = .ok () := by
  simp only [validate, FieldRule.check_broken_ok_iff, Option.all_some] at h
  obtain ⟨hcarryOn, hchecked, hflight, hterminal⟩ := h
  simp only [validate, RequestEdit.validate, FieldRule.check_broken_ok_iff, Option.all_some,
    withEdit, FieldRule.getD_iff hcarryOn, FieldRule.getD_iff hchecked, FieldRule.getD_iff hflight,
    FieldRule.getD_iff hterminal]

end RequestInput

end ShuttleDesk
