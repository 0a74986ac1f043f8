/-
  ShuttleDesk/Proofs/Web/Confinement.lean
  =======================================
  What a request can write, by the role of its sender.  A request reaches the tables
  only through a call that its sender may make:

    * whoever has no accepted token, or a role that the desk does not know, makes no
      call, and `GET` and `HEAD` lead to calls that only look;
    * a rider makes one pending request, or edits one while it is pending;
    * staff leave the users alone, add no staff to a shift, and of requests move the
      states only;
    * nobody adds or removes users, or touches an administrator.

  The router, the token and the gate are taken apart once, in `respond_reaches`: what
  they let through is a call of an endpoint whose gate the sender passes.  What the call
  may write is read off its effects, once for each kind of caller.

  Setting a role writes the row also if the user has that role already: the stamp of the
  row moves and the role does not (`setting_staff_again_stamps`).
-/
import ShuttleDesk.Proofs.Web.Privacy

namespace ShuttleDesk

/-! ### One row of many -/

section OneRow

variable {α β : Type}

/-- One row stands where another stood; the others are as they were. -/
def Replaces (rows rows' : List α) (a a' : α) : Prop :=
  ∃ front back, rows = front ++ a :: back ∧ rows' = front ++ a' :: back

theorem Replaces.map_eq {rows rows' : List α} {a a' : α} (h : Replaces rows rows' a a')
    {f : α → β} (hf : f a' = f a) : rows'.map f = rows.map f := by
  obtain ⟨front, back, rfl, rfl⟩ := h
  simp [hf]

theorem Replaces.filter_eq {rows rows' : List α} {a a' : α} (h : Replaces rows rows' a a')
    {p : α → Bool} (ha : p a = false) (ha' : p a' = false) : rows'.filter p = rows.filter p := by
  obtain ⟨front, back, rfl, rfl⟩ := h
  simp [ha, ha']

/-- A change of the row with a unique key replaces that row. -/
theorem replaces_updateWhere [BEq β] [LawfulBEq β] {key : α → β} {k : β} {change : α → α}
    {rows : List α} {a : α} (h : (rows.map key).Nodup)
    (ha : rows.find? (fun r => key r == k) = some a) :
    Replaces rows (updateWhere (fun r => key r == k) change rows) a (change a) := by
  obtain ⟨hkey, front, back, rfl, hfront⟩ := List.find?_eq_some_iff_append.1 ha
  have hkey : key a = k := beq_iff_eq.1 hkey
  subst hkey
  refine ⟨front, back, rfl, ?_⟩
  -- no other row has the key
  have hback : ∀ r ∈ back, (key r == key a) = true → change r = r := by
    intro r hr hkey
    rw [List.map_append, List.map_cons, List.nodup_append] at h
    have hnotin := (List.nodup_cons.1 h.2.1).1
    exact absurd (beq_iff_eq.1 hkey ▸ List.mem_map_of_mem hr) hnotin
  have hfront : ∀ r ∈ front, (key r == key a) = true → change r = r := by
    intro r hr hkey
    have hne := hfront r hr
    simp [hkey] at hne
  have hsplit : updateWhere (fun r => key r == key a) change (front ++ a :: back)
      = updateWhere (fun r => key r == key a) change front ++ change a ::
        updateWhere (fun r => key r == key a) change back := by
    simp [updateWhere]
  rw [hsplit, updateWhere_eq_self hfront, updateWhere_eq_self hback]

end OneRow

/-! ### What a caller may write -/

/-- The rider's edit of a request: the row stays the same request of the same rider, in the
same state.  Its details, its times and its stamp are free. -/
structure Request.EditedTo (r r' : Request) : Prop where
  id : r'.id = r.id
  userId : r'.userId = r.userId
  status : r'.status = r.status
  createdAt : r'.createdAt = r.createdAt

/-- The request is moved to a state and stamped, and nothing else. -/
def Request.MovedTo (r r' : Request) : Prop :=
  r' = { r with status := r'.status, updatedAt := r'.updatedAt }

/-- What a rider may write: one pending request of the rider's own. -/
inductive Tables.RiderChange (rider : Int) (t : Tables) : Tables → Prop where
  | none : RiderChange rider t t
  | inserted (r : Request) (owner : r.userId = rider) (pending : r.status = .pending) :
      RiderChange rider t { t with requests := t.requests ++ [r] }
  | edited (r r' : Request) (rows : List Request) (owner : r.userId = rider)
      (pending : r.status = .pending) (edit : r.EditedTo r') (one : Replaces t.requests rows r r') :
      RiderChange rider t { t with requests := rows }

/-- What staff may write leaves the users alone, brings no staff to a shift, and moves requests
to states, but neither makes nor edits one. -/
structure Tables.StaffChange (t t' : Tables) : Prop where
  users : t'.users = t.users
  staffings : t'.staffings.Sublist t.staffings
  requests : List.Forall₂ Request.MovedTo t.requests t'.requests

/-- What anybody may do to the users: the role of one who is no administrator is written,
as student or staff, and the row is stamped. -/
inductive RoleWritten (now : Calendar.WallClock) (us : List User) : List User → Prop where
  | none : RoleWritten now us us
  | written (u : User) (role : Role) (rows : List User) (before : u.role ≠ .admin)
      (after : role = .student ∨ role = .staff)
      (one : Replaces us rows u { u with role, updatedAt := now }) : RoleWritten now us rows

/-- The administrators among the users. -/
def administrators (us : List User) : List User := us.filter (·.role == .admin)

namespace RoleWritten

variable {now : Calendar.WallClock} {us us' : List User}

theorem ids_eq (h : RoleWritten now us us') : us'.map (·.id) = us.map (·.id) := by
  cases h with
  | none => rfl
  | written u role rows before after one => exact one.map_eq rfl

theorem administrators_eq (h : RoleWritten now us us') :
    administrators us' = administrators us := by
  cases h with
  | none => rfl
  | written u role rows before after one =>
    refine one.filter_eq ?_ ?_
    · simpa using before
    · rcases after with rfl | rfl <;> rfl

end RoleWritten

theorem Request.MovedTo.refl (r : Request) : r.MovedTo r := rfl

namespace Tables

variable {t : Tables}

theorem StaffChange.refl (t : Tables) : t.StaffChange t where
  users := rfl
  staffings := .refl _
  requests := List.forall₂_same.2 fun r _ => .refl r

/-- Requests that are moved to a state are moved one by one. -/
theorem forall₂_movedTo_editRequests {now : Calendar.WallClock} {chosen : Request → Bool}
    {status : RequestStatus} :
    List.Forall₂ Request.MovedTo t.requests
      (t.editRequests now chosen fun r => { r with status }).requests := by
  unfold editRequests updateWhere
  rw [List.forall₂_map_right_iff, List.forall₂_same]
  intro r _
  split
  · rfl
  · rfl

end Tables

namespace Desk

variable {w w' : World} {c : Call} {o : Outcome}

/-- A call that only looks leaves the tables as they are. -/
theorem Effect.tables_of_isView (h : Effect w c o w') (hview : c.isView = true) :
    w'.tables = w.tables := by
  cases h with
  | stopped kept => exact kept.tables
  | viewed view => rfl
  | staffKept user? staffLike old => rfl
  | syncSkipped unset => rfl
  | _ => cases hview

theorem Effect.riderChange {rider : Int} (h : Effect w c o w') (hl : w.tables.Lawful)
    (hc : c.IsOf rider) : w.tables.RiderChange rider w'.tables := by
  cases h with
  | stopped kept =>
    rw [kept.tables]
    exact .none
  | viewed view => exact .none
  | requestMade alone valid dateRead arrivalRead timed storable bags known row =>
    cases hc
    subst row
    exact .inserted _ rfl rfl
  | @detailsSaved _ request _ _ row after _ owned pending valid changeRead timed storable bags
      saved =>
    cases hc
    obtain ⟨hrow, howner⟩ := Option.filter_eq_some_iff.1 owned
    -- the row is found by the id of what is written, which is its own
    have hid : after.id = request :=
      (RequestChange.after?_id timed).trans (Tables.mem_of_request? hrow).2
    have hone : Replaces w.tables.requests (w.tables.editDetails w.now after).requests row
        { Requests.withDetails after row with updatedAt := w.now } := by
      rw [← hid] at hrow
      exact replaces_updateWhere (nodup_of_ascending hl.requests) hrow
    refine .edited row _ _ (beq_iff_eq.1 howner) pending ?_ hone
    exact ⟨rfl, rfl, rfl, rfl⟩
  | _ => cases hc

/-- The calls that need no more than a member of staff. -/
def Call.isForStaff : Call → Bool
  | .createRequest _ _ | .listRequests _ | .editRequest _ _ _ => false
  | .assignStaff _ _ | .listUsers | .setStaff _ | .unsetStaff _ => false
  | .syncFlights _ _ _ => false
  | _ => true

theorem Effect.staffChange (h : Effect w c o w') (hc : c.isForStaff = true) :
    w.tables.StaffChange w'.tables := by
  cases h with
  | stopped kept =>
    rw [kept.tables]
    exact .refl _
  | draftLeft left => exact { Tables.StaffChange.refl w.tables with }
  | editLeft named left => exact { Tables.StaffChange.refl w.tables with }
  | viewed view => exact .refl _
  | bound found row? pending free shift? =>
    exact { Tables.StaffChange.refl w.tables with
      requests := Tables.forall₂_movedTo_editRequests }
  | unbound shift? row? unpublished bound =>
    exact { Tables.StaffChange.refl w.tables with
      requests := Tables.forall₂_movedTo_editRequests }
  | shiftMade known row readable => exact { Tables.StaffChange.refl w.tables with }
  | shiftEdited named known saved readable => exact { Tables.StaffChange.refl w.tables with }
  | published shift? =>
    exact { Tables.StaffChange.refl w.tables with
      requests := Tables.forall₂_movedTo_editRequests }
  | staffRemoved shift? =>
    exact { Tables.StaffChange.refl w.tables with staffings := List.filter_sublist }
  | driverMade valid limits => exact { Tables.StaffChange.refl w.tables with }
  | driverEdited valid known limits => exact { Tables.StaffChange.refl w.tables with }
  | _ => cases hc

theorem Effect.roleWritten (h : Effect w c o w') (hids : w.tables.userIds.Nodup) :
    RoleWritten w.now w.tables.users w'.tables.users := by
  have hset : ∀ {user : Int} {role : Role}, role = .student ∨ role = .staff →
      (∃ v, w.tables.user? user = some v ∧ v.role ≠ .admin) →
      RoleWritten w.now w.tables.users (w.tables.setRole w.now user role).users := by
    rintro user role hrole ⟨v, hv, hnot⟩
    exact .written v role _ hnot hrole (replaces_updateWhere hids hv)
  cases h with
  | stopped kept =>
    rw [kept.tables]
    exact .none
  | madeStaff noAdmin saved => exact hset (.inr rfl) noAdmin
  | madeStudent noAdmin saved => exact hset (.inl rfl) noAdmin
  | synced set inCalendar =>
    rw [World.withTables_tables, Tables.refreshAll_eq]
    exact .none
  | _ => exact .none

end Desk

namespace Web

open Desk

variable {b : Bearer} {e : Endpoint} {call : Call}

/-! ### The endpoints by their gates and methods -/

theorem Asks.isView (h : Asks b e call) (hget : e.method = "GET") : call.isView = true := by
  cases h <;> first | rfl | simp [Endpoint.method] at hget

theorem Asks.isForStaff (h : Asks b e call) (hgate : e.gate = .staff) :
    call.isForStaff = true := by
  cases h <;> first | rfl | cases hgate

/-! ### One request -/

/-- What a request may write, by what its token and its method are. -/
structure Confined (i : Identity) (r : Request) (now : Calendar.WallClock) (t t' : Tables) :
    Prop where
  noToken : (∀ claims, ¬ Carries i r claims) → t' = t
  unknownRole : ∀ claims, Carries i r claims → (∀ known : Role, claims.role ≠ known.name) → t' = t
  noWrite : r.method ≠ "POST" → r.method ≠ "PUT" → t' = t
  student : ∀ claims, Carries i r claims → claims.role = Role.student.name →
    t.RiderChange claims.sub t'
  staff : ∀ claims, Carries i r claims → claims.role = Role.staff.name → t.StaffChange t'
  users : RoleWritten now t.users t'.users

theorem Carries.bearerOf_eq {i : Identity} {r : Request} {claims : Token.Claims}
    (h : Carries i r claims) : bearerOf i r = .ok ⟨claims.sub, claims.role⟩ :=
  bearerOf_ok_iff.2 ⟨claims, h, rfl⟩

variable {c : Context} {r : Request} {w w' : World}

theorem Reaches.roleWritten (h : Reaches c r w w') (hids : w.tables.userIds.Nodup) :
    RoleWritten w.now w.tables.users w'.tables.users := by
  cases h with
  | untouched => exact .none
  | called sender passes asks method => exact (perform_effect _ _ w).roleWritten hids

theorem Reaches.confined (h : Reaches c r w w') (hl : w.tables.Lawful) :
    Confined c.identity r w.now w.tables w'.tables := by
  have husers := h.roleWritten (nodup_of_ascending hl.users)
  cases h with
  | untouched =>
    exact ⟨fun _ => rfl, fun _ _ _ => rfl, fun _ _ => rfl, fun _ _ _ => .none,
      fun _ _ _ => .refl _, husers⟩
  | @called b e call sender passes asks method =>
    have heffect := perform_effect c.lockTimeout call w
    obtain ⟨claims, hclaims, rfl⟩ := bearerOf_ok_iff.1 sender
    -- the token that a request carries is the one that named the sender
    have hsame : ∀ {claims'}, Carries c.identity r claims' →
        claims'.sub = claims.sub ∧ claims'.role = claims.role := by
      intro claims' h'
      simpa using h'.bearerOf_eq.symm.trans hclaims.bearerOf_eq
    constructor
    case noToken =>
      intro hno
      exact absurd hclaims (hno claims)
    case unknownRole =>
      intro claims' hcarries hunknown
      obtain ⟨known, hknown⟩ := exists_name_of_passes passes
      exact absurd ((hsame hcarries).2.trans hknown) (hunknown known)
    case noWrite =>
      intro hpost hput
      have hget : e.method = "GET" := by
        rcases method with hmethod | ⟨-, hget⟩
        · rcases method_eq e with hget | hpost' | hput'
          · exact hget
          · exact absurd (hmethod.symm.trans hpost') hpost
          · exact absurd (hmethod.symm.trans hput') hput
        · exact hget
      exact heffect.tables_of_isView (asks.isView hget)
    case student =>
      intro claims' hcarries hrole
      obtain ⟨hsub, hrole'⟩ := hsame hcarries
      have hgate : e.gate = .student := by
        apply passes_student_iff.1
        rw [← hrole, hrole']
        exact passes
      rw [hsub]
      exact heffect.riderChange hl (asks.isOf hgate)
    case staff =>
      intro claims' hcarries hrole
      have hgate : e.gate = .staff := by
        apply passes_staff_iff.1
        rw [← hrole, (hsame hcarries).2]
        exact passes
      exact heffect.staffChange (asks.isForStaff hgate)
    case users => exact husers

/-! ### Many requests -/

/-- A request that comes in at a moment, and what the desk that answers it knows. -/
structure Incoming where
  moment : Moment
  context : Context
  origins : List String
  request : Request

/-- The world after requests that come in one after the other. -/
def afterRequests : List Incoming → World → World
  | [], w => w
  | i :: is, w => afterRequests is (respond i.context i.origins i.request (w.atMoment i.moment)).2

theorem users_afterRequests (is : List Incoming) {w : World} (hids : w.tables.userIds.Nodup) :
    (afterRequests is w).tables.userIds = w.tables.userIds ∧
      administrators (afterRequests is w).tables.users = administrators w.tables.users := by
  induction is generalizing w with
  | nil => exact ⟨rfl, rfl⟩
  | cons i is ih =>
    have hreaches := respond_reaches i.context i.origins i.request (w.atMoment i.moment)
    have hone := hreaches.roleWritten hids
    have hids' : (respond i.context i.origins i.request (w.atMoment i.moment)).2.tables.userIds
        = w.tables.userIds := hone.ids_eq
    obtain ⟨hrest, hadmins⟩ := ih (hids' ▸ hids)
    exact ⟨hrest.trans hids', hadmins.trans hone.administrators_eq⟩

/-- Every request is confined by its token and its method, and after any requests there are
the same users as before, and among them the same administrators. -/
theorem respond_confined (w : World) (hl : w.tables.Lawful) :
    (∀ (c : Context) (origins : List String) (r : Request),
      Confined c.identity r w.now w.tables (respond c origins r w).2.tables) ∧
    ∀ is : List Incoming,
      (afterRequests is w).tables.userIds = w.tables.userIds ∧
      administrators (afterRequests is w).tables.users = administrators w.tables.users :=
  ⟨fun c origins r => (respond_reaches c origins r w).confined hl,
    fun is => users_afterRequests is (nodup_of_ascending hl.users)⟩

/-- A request without a body, sent with the token of a user who has a role. -/
def sentBy (user : Int) (role : Role) (method target : String) : Request where
  method
  target
  headers :=
    let token := Token.issue smallContext.identity.secret (Token.claimsFor user role.name 0 60 "t")
    [("authorization", "Bearer " ++ String.ofList (token.map fun b => Char.ofNat b.toNat))]
  body := []

/-- A member of staff publishes a shift. -/
def staffPublication : Request := sentBy 2 .staff "POST" "/api/v1/admin/shifts/1/publish"

theorem bearerOf_staffPublication :
    bearerOf smallContext.identity staffPublication = .ok ⟨2, Role.staff.name⟩ := by
  decide +kernel

theorem respond_confined_of_publication :
    smallDesk.tables.Lawful ∧
    (∃ claims, Carries smallContext.identity staffPublication claims ∧
      claims.role = Role.staff.name) ∧
    (respond smallContext [] staffPublication smallDesk).2.tables.shifts.map (·.status)
      = [.published, .draft] ∧
    smallDesk.tables.StaffChange (respond smallContext [] staffPublication smallDesk).2.tables := by
  have hl := isFresh_smallDesk.sound.lawful
  have hshifts : (respond smallContext [] staffPublication smallDesk).2.tables.shifts.map
      (·.status) = [.published, .draft] := by
    decide +kernel
  obtain ⟨claims, hcarries, hclaims⟩ := bearerOf_ok_iff.1 bearerOf_staffPublication
  have hrole : claims.role = Role.staff.name := congrArg Bearer.role hclaims
  have hconfined := (respond_confined smallDesk hl).1 smallContext [] staffPublication
  exact ⟨hl, ⟨claims, hcarries, hrole⟩, hshifts, hconfined.staff claims hcarries hrole⟩

/-- Who is staff is set to staff again: no role moves, and yet the row of the user changes. -/
theorem setting_staff_again_stamps :
    ¬ ∀ (c : Context) (origins : List String) (r : Request) (w : World), w.tables.Lawful →
      (respond c origins r w).2.tables.users = w.tables.users ∨
      (respond c origins r w).2.tables.users.map (·.role) ≠ w.tables.users.map (·.role) := by
  intro h
  let setStaff := sentBy 2 .admin "POST" "/api/v1/admin/users/2/set-staff"
  let later := smallDesk.atTime ⟨5⟩
  have hrun : (respond smallContext [] setStaff later).2.tables.users.map
        (fun u => (u.role, u.updatedAt)) = [(.student, ⟨0⟩), (.staff, ⟨5⟩)] := by
    decide +kernel
  rcases h smallContext [] setStaff later isFresh_smallDesk.sound.lawful with hsame | hmoved
  · rw [hsame] at hrun
    revert hrun
    decide
  · apply hmoved
    have hroles := congrArg (List.map Prod.fst) hrun
    rw [List.map_map] at hroles
    exact hroles

end Web
end ShuttleDesk
