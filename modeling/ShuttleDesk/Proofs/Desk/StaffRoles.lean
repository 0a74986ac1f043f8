/-
  ShuttleDesk/Proofs/Desk/StaffRoles.lean
  =======================================
  The roles of those who accompany a shift.  A role is looked at when a user is added to
  the staff of a shift, and not again: setting a role does not look at the staff.

  So whoever accompanies a shift may accompany one, with a single exception, which can
  be seen in the journal: the user was made a student while on the staff, and has not
  been made staff since.
-/
import ShuttleDesk.Proofs.Desk.Sound

namespace ShuttleDesk

namespace Tables

variable {t : Tables} {now : Calendar.WallClock}

/-- The role of a user, if there is one with this id. -/
def roleOf (t : Tables) (user : Int) : Option Role := (t.user? user).map (·.role)

theorem user?_setRole {user other : Int} {role : Role} :
    (t.setRole now user role).user? other =
      (t.user? other).map fun u => if u.id == user then { u with role, updatedAt := now } else u :=
  find?_updateWhere fun _ => rfl

theorem roleOf_setRole_of_ne {user other : Int} {role : Role} (h : user ≠ other) :
    (t.setRole now user role).roleOf other = t.roleOf other := by
  unfold roleOf
  rw [user?_setRole]
  cases hu : t.user? other with
  | none => rfl
  | some u =>
    have hid : u.id = other := by simpa using List.find?_some hu
    have hne : ¬ u.id = user := by
      rw [hid]
      exact Ne.symm h
    simp [hne]

theorem roleOf_setRole {user : Int} {role : Role} {u : User}
    (h : (t.setRole now user role).user? user = some u) :
    (t.setRole now user role).roleOf user = some role := by
  unfold roleOf
  rw [user?_setRole] at h ⊢
  cases hu : t.user? user with
  | none => simp [hu] at h
  | some v =>
    have hid : v.id = user := by simpa using List.find?_some hu
    simp [hid]

end Tables

namespace Desk

/-! ### One call -/

/-- The entry is of this call, and the call was answered. -/
def Entry.Answers (e : Entry) (c : Call) : Prop := e.call = c ∧ ∃ a, e.outcome = .ok a

variable {w w' : World} {c : Call} {o : Outcome} {user : Int}

theorem Effect.roleOf_of_setStaff {a : Answer} (h : Effect w (.setStaff user) (.ok a) w') :
    w'.tables.roleOf user = some .staff := by
  cases h with
  | viewed view => cases view
  | madeStaff noAdmin saved => exact Tables.roleOf_setRole saved

theorem Effect.roleOf_of_unsetStaff {a : Answer} (h : Effect w (.unsetStaff user) (.ok a) w') :
    w'.tables.roleOf user = some .student := by
  cases h with
  | viewed view => cases view
  | madeStudent noAdmin saved => exact Tables.roleOf_setRole saved

/-- Otherwise a role stays. -/
theorem Effect.roleOf_eq (h : Effect w c o w') (hset : ¬ (c = .setStaff user ∧ ∃ a, o = .ok a))
    (hunset : ¬ (c = .unsetStaff user ∧ ∃ a, o = .ok a)) :
    w'.tables.roleOf user = w.tables.roleOf user := by
  cases h with
  | stopped kept => rw [kept.tables]
  | @madeStaff other u noAdmin saved =>
    apply Tables.roleOf_setRole_of_ne
    rintro rfl
    exact hset ⟨rfl, _, rfl⟩
  | @madeStudent other u noAdmin saved =>
    apply Tables.roleOf_setRole_of_ne
    rintro rfl
    exact hunset ⟨rfl, _, rfl⟩
  | synced set inCalendar =>
    rw [World.withTables_tables, Tables.refreshAll_eq]
    rfl
  | _ => rfl

/-- Who is on the staff of a shift was there before, or comes now and may accompany one. -/
theorem Effect.staffing (h : Effect w c o w') {b : Staffing} (hb : b ∈ w'.tables.staffings) :
    b ∈ w.tables.staffings ∨
    ∃ role : Role, w'.tables.roleOf b.staffId = some role ∧ role.isStaffLike = true := by
  cases h with
  | stopped kept =>
    left
    rw [← kept.tables]
    exact hb
  | @staffAdded shift user u user? staffLike shift? new =>
    rcases List.mem_append.1 hb with hold | hnew
    · exact .inl hold
    · right
      have hrole : w.tables.roleOf user = some u.role := by simp [Tables.roleOf, user?]
      rw [List.mem_singleton.1 hnew]
      exact ⟨u.role, hrole, staffLike⟩
  | staffRemoved shift? => exact .inl (List.mem_filter.1 hb).1
  | synced set inCalendar =>
    left
    rw [World.withTables_tables, Tables.refreshAll_eq] at hb
    exact hb
  | _ => exact .inl hb

/-! ### Runs -/

/-- Something was done, and has not been undone since. -/
def StandsSince {α : Type} (done undone : α → Prop) (es : List α) : Prop :=
  ∃ earlier e later, es = earlier ++ e :: later ∧ done e ∧ ∀ e' ∈ later, ¬ undone e'

theorem standsSince_append_one {α : Type} {done undone : α → Prop} {es : List α} {e : α} :
    StandsSince done undone (es ++ [e]) ↔
      done e ∨ (StandsSince done undone es ∧ ¬ undone e) := by
  constructor
  · rintro ⟨earlier, d, later, heq, hdone, hlater⟩
    -- what was done is the last entry, or the last entry came later
    rcases List.eq_nil_or_concat later with rfl | ⟨later, l, rfl⟩
    · obtain ⟨-, hlast⟩ := List.append_inj' heq rfl
      cases hlast
      exact .inl hdone
    · rw [List.concat_eq_append, ← List.cons_append, ← List.append_assoc] at heq
      obtain ⟨rfl, hlast⟩ := List.append_inj' heq rfl
      cases hlast
      rw [List.concat_eq_append] at hlater
      refine .inr ⟨⟨earlier, d, later, rfl, hdone, ?_⟩, ?_⟩
      · intro e' he'
        exact hlater e' (List.mem_append_left _ he')
      · exact hlater e (List.mem_append_right _ (List.mem_singleton.2 rfl))
  · rintro (hdone | ⟨⟨earlier, d, later, rfl, hdone, hlater⟩, hlast⟩)
    · exact ⟨es, e, [], rfl, hdone, by simp⟩
    · refine ⟨earlier, d, later ++ [e], by simp, hdone, ?_⟩
      intro e' he'
      rcases List.mem_append.1 he' with he' | he'
      · exact hlater e' he'
      · rw [List.mem_singleton.1 he']
        exact hlast

/-- The user was made a student, and has not been made staff since. -/
def Demoted (user : Int) (es : List Entry) : Prop :=
  StandsSince (·.Answers (.unsetStaff user)) (·.Answers (.setStaff user)) es

/-- The user was made a student while on the staff of the shift, and has not been made staff
since. -/
def DemotedOn (b : Staffing) (es : List Entry) : Prop :=
  StandsSince (fun e => e.Answers (.unsetStaff b.staffId) ∧ b ∈ e.after.tables.staffings)
    (·.Answers (.setStaff b.staffId)) es

theorem DemotedOn.demoted {b : Staffing} {es : List Entry} (h : DemotedOn b es) :
    Demoted b.staffId es := by
  obtain ⟨earlier, e, later, heq, ⟨hunset, -⟩, hlater⟩ := h
  exact ⟨earlier, e, later, heq, hunset, hlater⟩

/-- What the entries so far tell of the roles. -/
structure RolesTold (w : World) (es : List Entry) : Prop where
  student : ∀ user, Demoted user es → w.tables.roleOf user = some .student
  demoted : ∀ b ∈ w.tables.staffings, ∀ role, w.tables.roleOf b.staffId = some role →
    role.isStaffLike = false → DemotedOn b es

theorem RolesTold.step {es : List Entry} {e : Entry} (h : RolesTold w es)
    (he : Effect w e.call e.outcome e.after) : RolesTold e.after (es ++ [e]) := by
  have hstudent : ∀ {user : Int}, e.Answers (.unsetStaff user) →
      e.after.tables.roleOf user = some .student := by
    rintro user ⟨hcall, a, ha⟩
    rw [hcall, ha] at he
    exact he.roleOf_of_unsetStaff
  have hstaff : ∀ {user : Int}, e.Answers (.setStaff user) →
      e.after.tables.roleOf user = some .staff := by
    rintro user ⟨hcall, a, ha⟩
    rw [hcall, ha] at he
    exact he.roleOf_of_setStaff
  constructor
  case student =>
    intro user hdemoted
    by_cases hunset : e.Answers (.unsetStaff user)
    · exact hstudent hunset
    · rcases standsSince_append_one.1 hdemoted with hlast | ⟨hbefore, hset⟩
      · exact absurd hlast hunset
      · rw [he.roleOf_eq hset hunset]
        exact h.student user hbefore
  case demoted =>
    intro b hb role hrole hnot
    apply standsSince_append_one.2
    by_cases hunset : e.Answers (.unsetStaff b.staffId)
    · exact .inl ⟨hunset, hb⟩
    · right
      have hset : ¬ e.Answers (.setStaff b.staffId) := by
        intro hset
        rw [hstaff hset] at hrole
        cases hrole
        cases hnot
      refine ⟨?_, hset⟩
      rcases he.staffing hb with hold | ⟨role', hrole', hlike⟩
      · rw [he.roleOf_eq hset hunset] at hrole
        exact h.demoted b hold role hrole hnot
      · cases hrole.symm.trans hrole'
        rw [hnot] at hlike
        cases hlike

theorem RolesTold.worldAfter (timeout : Int) (cs : List TimedCall) {es : List Entry}
    (h : RolesTold w es) : RolesTold (worldAfter timeout cs w) (es ++ journal timeout cs w) :=
  journal_induction (fun _ _ _ h => ⟨h.student, h.demoted⟩) (fun he h => h.step he) cs h

/-- Whoever is on the staff of a shift may accompany it, unless the user was made a student
while on the staff and has not been made staff since. -/
theorem staff_roles_in_runs (timeout : Int) (cs : List TimedCall) (w : World) (hw : w.Sound)
    (hnone : w.tables.staffings = []) :
    ∀ b ∈ (worldAfter timeout cs w).tables.staffings,
      ∃ u, (worldAfter timeout cs w).tables.user? b.staffId = some u ∧
        (u.role.isStaffLike = false ↔ DemotedOn b (journal timeout cs w)) := by
  intro b hb
  have hbegin : RolesTold w [] := by
    constructor
    case student =>
      rintro user ⟨earlier, e, later, heq, -⟩
      simp at heq
    case demoted => simp [hnone]
  have htold : RolesTold (worldAfter timeout cs w) (journal timeout cs w) :=
    hbegin.worldAfter timeout cs
  -- the staff of a shift are users
  have hlawful := (sound_worldAfter timeout cs hw).lawful
  obtain ⟨u, hu⟩ := Option.isSome_iff_exists.1
    (Tables.user?_isSome_iff.2 (hlawful.staffings b hb).2)
  have hrole : (worldAfter timeout cs w).tables.roleOf b.staffId = some u.role := by
    simp [Tables.roleOf, hu]
  refine ⟨u, hu, ?_⟩
  constructor
  · intro hnot
    exact htold.demoted b hb u.role hrole hnot
  · intro hdemoted
    rw [htold.student b.staffId hdemoted.demoted] at hrole
    rw [← Option.some.inj hrole]
    rfl

/-- A member of staff is added to a shift and then made a student. -/
def demotion : List TimedCall := [.assignStaff 1 2, .unsetStaff 2].map TimedCall.undisturbed

theorem staff_roles_after_demotion :
    smallDesk.Sound ∧ smallDesk.tables.staffings = [] ∧
    (worldAfter 0 demotion smallDesk).tables.staffings = [⟨1, 2⟩] ∧
    DemotedOn ⟨1, 2⟩ (journal 0 demotion smallDesk) := by
  have hrun : (worldAfter 0 demotion smallDesk).tables.staffings = [⟨1, 2⟩] := by decide +kernel
  have hrole : (worldAfter 0 demotion smallDesk).tables.roleOf 2 = some .student := by
    decide +kernel
  obtain ⟨u, hu, hiff⟩ := staff_roles_in_runs 0 demotion smallDesk isFresh_smallDesk.sound rfl
    ⟨1, 2⟩ (by simp [hrun])
  refine ⟨isFresh_smallDesk.sound, rfl, hrun, hiff.1 ?_⟩
  have hstudent : u.role = .student := by simpa [Tables.roleOf, hu] using hrole
  rw [hstudent]
  rfl

/-- A student can be on the staff of a shift. -/
theorem student_on_staff_of_shift :
    ¬ ∀ (timeout : Int) (cs : List TimedCall) (w : World), w.Sound → w.tables.staffings = [] →
      ∀ b ∈ (worldAfter timeout cs w).tables.staffings, ∀ u,
        (worldAfter timeout cs w).tables.user? b.staffId = some u → u.role.isStaffLike = true := by
  intro h
  have hlike := h 0 demotion smallDesk isFresh_smallDesk.sound rfl ⟨1, 2⟩ (by decide +kernel)
    ⟨2, "staff", "Bob", none, .student, ⟨0⟩, ⟨0⟩⟩ (by decide +kernel)
  cases hlike

end Desk
end ShuttleDesk
