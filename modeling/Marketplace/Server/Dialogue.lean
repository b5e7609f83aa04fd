import Marketplace.Server.Requests

namespace Marketplace
open CallTree KeyedTable Runs

def cString (line : List Char) : CString :=
  line.takeWhile (· ≠ NUL)

def endOfFile (line : List Char) : Bool :=
  line.getLast? ≠ some '\n'

inductive Dialogue where
  | menu (userID status : Int)
  | registerUsername (status : Int)
  | registerName (status : Int) (usernameLine : CString)
  | registerPassword (status : Int) (usernameLine nameLine : CString)
  | authenticateUsername
  | authenticatePassword (authUser : User)
  | commands (userID : Int)
  | exited
deriving DecidableEq, Repr

namespace Dialogue

def enter (userID status : Int) : Dialogue :=
  if userID = -1 ∨ userID = 0 ∨ status ≠ 1 then .menu userID status else .commands userID

def read : Dialogue → List Char → SQL Double Dialogue
  | .menu userID status, line =>
    match cString line with
    | 'r' :: _ => return .registerUsername status
    | 'u' :: _ => return .authenticateUsername
    | _ => return enter userID status
  | .registerUsername status, line => return .registerName status (cString line)
  | .registerName status usernameLine, line =>
    return .registerPassword status usernameLine (cString line)
  | .registerPassword status usernameLine nameLine, line => do
    let userID ← registerUser usernameLine nameLine (cString line)
    return enter userID status
  | .authenticateUsername, line => do
    match ← getUserByUsername (stripLineEnd (cString line)) with
    | .error _ => return .authenticateUsername
    | .ok authUser => return .authenticatePassword authUser
  | .authenticatePassword authUser, line =>
    if stripLineEnd (cString line) = authUser.password then return enter authUser.userID 1
    else return .authenticateUsername
  | .commands userID, line => do
    match ← echo userID (cString line) with
    | .crashed => return .exited
    | _ => return if endOfFile line then .exited else .commands userID
  | .exited, _ => return .exited

def registering : Dialogue → Bool
  | .registerUsername _ => true
  | .registerName .. => true
  | .registerPassword .. => true
  | _ => false

end Dialogue

structure Connection where
  dialogue : Dialogue
  db : Database Double

def acceptClient (db : Database Double) : Connection where
  dialogue := .menu (-1) 0
  db := db

inductive Event where
  | typed (line : List Char)
  | closed
  | elsewhere (r : Request)

namespace Event

def isElsewhere : Event → Bool
  | .elsewhere _ => true
  | _ => false

def serve (S : CreatedAtSort Double) : Event → Connection → Connection
  | .typed line, c =>
    ⟨((c.dialogue.read line).run (perform S) c.db).1, ((c.dialogue.read line).run (perform S) c.db).2⟩
  | .closed, c => { c with dialogue := .exited }
  | .elsewhere r, c => { c with db := r.serve S c.db }

end Event

section Named

variable {D : Type} {db : Database D} {username : CString} {u : User}

def Database.named (db : Database D) (username : CString) : Option User :=
  db.users.rows.find? (fun r => r.username == username)

theorem named_mem (h : db.named username = some u) : u ∈ db.users.rows :=
  List.mem_of_find?_eq_some h

theorem named_username (h : db.named username = some u) : u.username = username := by
  simpa using List.find?_some h

theorem named_positive (h : db.named username = some u) : 0 < u.userID :=
  db.users.positive u (named_mem h)

theorem run_getUserByUsername [CDouble D] (S : CreatedAtSort D) (db : Database D) (username : CString) :
    (getUserByUsername username).run (perform S) db =
      (match db.named username with
        | some u => .ok u
        | none => .error SQLITE_NOTFOUND, db) := by
  have hexec : (Stmt.selectUserByUsername username).exec S db =
      (firstRow ((db.named username).map .user), db) := rfl
  cases h : db.named username <;> simp [getUserByUsername, hexec, firstRow, h]

end Named

section Authenticate

variable (S : CreatedAtSort Double) (db : Database Double) (line : List Char)

theorem serve_authenticateUsername :
    (Event.typed line).serve S ⟨.authenticateUsername, db⟩ =
      ⟨(db.named (stripLineEnd (cString line))).elim .authenticateUsername .authenticatePassword, db⟩ := by
  simp only [Event.serve, Dialogue.read, Prog.run_bind, run_getUserByUsername]
  cases db.named (stripLineEnd (cString line)) <;> rfl

theorem serve_authenticatePassword (u : User) :
    (Event.typed line).serve S ⟨.authenticatePassword u, db⟩ =
      ⟨if stripLineEnd (cString line) = u.password then .enter u.userID 1 else .authenticateUsername,
        db⟩ := by
  simp only [Event.serve, Dialogue.read, Prog.run_ite, Prog.run_pure]
  split <;> rfl

end Authenticate

end Marketplace
