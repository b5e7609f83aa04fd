import Marketplace.Foundation.RelyGuarantee
import Marketplace.Failure.Eligibility

namespace Marketplace
open CallTree RelyGuarantee

variable {D ι : Type}

structure ErrorCode where
  code : Int
  isError : IsErrorCode code
deriving DecidableEq

structure Forked (D ι : Type) where
  db : Database D
  lastRowid : ι → Int
  failing : ι → Option ErrorCode
  copy : ι → Option (Order D)
  misled : ι → Option Int

inductive Disturbance (ι : Type) where
  | elapse (seconds : Nat)
  | fail (i : ι) (code : ErrorCode)

inductive ClientCall (D : Type) where
  | register (newUser : User)
  | lookUp (username : CString)
  | myInventory (userID : Int)
  | buy (ord : Order D)
  | sell (ord : Order D)
  | cancelOrder (orderID currentUserID : Int)
deriving DecidableEq

inductive ClientResult where
  | code (res : Int)
  | user (found : Except Int User)
  | inventory (found : Except Int (Int × Int × Int × Int))
deriving DecidableEq

namespace Forked

def start (db : Database D) : Forked D ι where
  db := db
  lastRowid _ := 0
  failing _ := none
  copy _ := none
  misled _ := none

def connection (w : Forked D ι) (i : ι) : Database D :=
  { w.db with lastRowid := w.lastRowid i }

variable [DecidableEq ι]

def recover (w : Forked D ι) (i : ι) : Forked D ι :=
  { w with failing := Function.update w.failing i none }

def mislead (w : Forked D ι) (i : ι) (code : Int) : Forked D ι :=
  { w with misled := Function.update w.misled i (some code) }

def observe (w : Forked D ι) (i : ι) : StepResult D → Forked D ι
  | .row (.order r) => { w with copy := Function.update w.copy i (some r) }
  | _ => w

def store (w : Forked D ι) (i : ι) (db : Database D) : Forked D ι :=
  { w with db := db, lastRowid := Function.update w.lastRowid i db.lastRowid }

def disturb : Disturbance ι → Forked D ι → Forked D ι
  | .elapse seconds, w => { w with db := w.db.elapse seconds }
  | .fail i code, w => { w with failing := Function.update w.failing i (some code) }

section Observe

variable (w : Forked D ι) (i : ι) (r : StepResult D)

@[simp] theorem db_observe : (w.observe i r).db = w.db := by
  unfold observe
  split <;> rfl

@[simp] theorem lastRowid_observe : (w.observe i r).lastRowid = w.lastRowid := by
  unfold observe
  split <;> rfl

@[simp] theorem misled_observe : (w.observe i r).misled = w.misled := by
  unfold observe
  split <;> rfl

theorem copy_observe {j : ι} (hj : j ≠ i) : (w.observe i r).copy j = w.copy j := by
  unfold observe
  split
  · exact Function.update_of_ne hj _ _
  · rfl

theorem observe_other {r : StepResult D} (hr : ∀ ord, r ≠ .row (.order ord)) :
    w.observe i r = w := by
  unfold observe
  split
  · next ord => exact absurd rfl (hr ord)
  · rfl

end Observe

end Forked

variable [CDouble D]

-- every child process works on the one database file over its own connection
def attend [DecidableEq ι] (S : CreatedAtSort D) (i : ι) :
    (c : Call D) → Forked D ι → c.Resp × Forked D ι
  | .prepare, w =>
    match w.failing i with
    | some e => (e.code, (w.recover i).mislead i e.code)
    | none => (SQLITE_OK, w)
  | .bind, w =>
    match w.failing i with
    | some e => (e.code, w.recover i)
    | none => (SQLITE_OK, w)
  | .step s, w =>
    match w.failing i with
    | some e => (.error e.code, w.recover i)
    | none =>
      let res := s.exec S (w.connection i)
      (res.1, (w.store i res.2).observe i res.1)
  | .lastInsertRowid, w => (w.lastRowid i, w)

section Attend

variable [DecidableEq ι] (S : CreatedAtSort D) {i : ι} {w : Forked D ι}

theorem attend_step_failing (s : Stmt D) {e : ErrorCode} (h : w.failing i = some e) :
    attend S i (.step s) w = (.error e.code, w.recover i) := by
  simp [attend, h]

theorem attend_step (s : Stmt D) (h : w.failing i = none) :
    attend S i (.step s) w = ((s.exec S (w.connection i)).1,
      (w.store i (s.exec S (w.connection i)).2).observe i (s.exec S (w.connection i)).1) := by
  simp [attend, h]

theorem attend_prepare : attend S i .prepare w = match w.failing i with
    | some e => (e.code, (w.recover i).mislead i e.code)
    | none => (SQLITE_OK, w) := rfl

theorem attend_bind : attend S i .bind w = match w.failing i with
    | some e => (e.code, w.recover i)
    | none => (SQLITE_OK, w) := rfl

end Attend

namespace ClientCall

def program : ClientCall D → SQL D ClientResult
  | .register newUser => do
    match ← insertUser newUser with
    | .error _ => return .code (-1)
    | .ok userID => return .code userID
  | .lookUp username => return .user (← getUserByUsername username)
  | .myInventory userID => return .inventory (← getUserInventories userID)
  | .buy ord => return .code (← Marketplace.buy ord)
  | .sell ord => return .code (← Marketplace.sell ord)
  | .cancelOrder orderID currentUserID =>
    return .code (← Marketplace.cancelOrder orderID currentUserID)

end ClientCall

abbrev Children (D ι : Type) := Pool (Call D) Call.Resp ClientResult (Forked D ι) ι (ClientCall D)

abbrev ChildAction (D ι : Type) := Interleaving.Action ι (ClientCall D) (Disturbance ι)

def Children.step [DecidableEq ι] (S : CreatedAtSort D) :
    ChildAction D ι → Children D ι → Children D ι :=
  Pool.step (attend S) ClientCall.program Forked.disturb

end Marketplace
