/-
  ShuttleDesk/Status.lean
  =======================
  Roles of users and states of requests and shifts, with their names.  A role that
  comes in a token is any text; a gate asks for one role, administrators pass every
  gate, and a gate for staff passes staff and administrators.
-/
import ShuttleDesk.Json.Scalar

namespace ShuttleDesk

/-- What a user may do. -/
inductive Role where
  | student
  | staff
  | admin
  deriving DecidableEq, Repr

/-- Where a request stands. -/
inductive RequestStatus where
  | pending
  | assigned
  | published
  deriving DecidableEq, Repr

/-- Where a shift stands. -/
inductive ShiftStatus where
  | draft
  | published
  deriving DecidableEq, Repr

namespace Role

def name : Role → String
  | student => "student"
  | staff => "staff"
  | admin => "admin"

def known : List (String × Role) :=
  [student, staff, admin].map fun r => (r.name, r)

/-- A role of this name may accompany a shift. -/
def nameIsStaffLike (role : String) : Bool := role == staff.name || role == admin.name

def isStaffLike (r : Role) : Bool := nameIsStaffLike r.name

/-- A role of this name passes a gate for another. -/
def passes (role required : String) : Bool :=
  if role = admin.name then true
  else if required = staff.name then nameIsStaffLike role
  else role == required

end Role

namespace RequestStatus

def name : RequestStatus → String
  | pending => "pending"
  | assigned => "assigned"
  | published => "published"

def known : List (String × RequestStatus) :=
  [pending, assigned, published].map fun s => (s.name, s)

/-- The rider may still edit a request in this state. -/
def isMutable (s : RequestStatus) : Bool := s == pending

/-- A flight refresh still reaches a request in this state. -/
def isOpen (s : RequestStatus) : Bool := s == pending || s == assigned

end RequestStatus

namespace ShiftStatus

def name : ShiftStatus → String
  | draft => "draft"
  | published => "published"

def known : List (String × ShiftStatus) :=
  [draft, published].map fun s => (s.name, s)

end ShiftStatus

end ShuttleDesk
