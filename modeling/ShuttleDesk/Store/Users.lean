/-
  ShuttleDesk/Store/Users.lean
  ============================
  Statements about users.  A user's outside name is unique.
-/
import ShuttleDesk.Input.Operator
import ShuttleDesk.Store.Statement

namespace ShuttleDesk.Users

open Procedure Statement

/-- The constraint that keeps outside names unique. -/
def openIdConstraint : String := "uq_users_open_id"

def nextId : Statement Int := do
  change fun w => { w with issued := { w.issued with users := w.issued.users + 1 } }
  return (← world).issued.users

/-- Inserts a user, a student unless told otherwise. -/
def insert (input : UserInput) : Statement User := do
  checkArguments ([.text input.openId, .text input.name] ++ optionalText input.phone)
  let id ← nextId
  let w ← world
  if w.tables.users.any (·.openId == input.openId) then fail (.duplicate openIdConstraint)
  else
    let user : User := {
      id
      openId := input.openId
      name := input.name
      phone := input.phone
      role := input.role.getD .student
      createdAt := w.now
      updatedAt := w.now }
    changeTables fun t => { t with users := t.users ++ [user] }
    return user

def find? (id : Int) : Statement (Option User) := query (·.user? id)

def list : Statement (List User) := query (·.users)

def setRole (id : Int) (role : Role) : Statement (Option User) := do
  ensureOpen
  let w ← world
  changeTables fun t =>
    { t with users := updateWhere (·.id == id) (fun u => { u with role, updatedAt := w.now }) t.users }
  find? id

end ShuttleDesk.Users
