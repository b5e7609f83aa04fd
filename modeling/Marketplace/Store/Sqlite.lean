import Marketplace.Foundation.CallTree
import Marketplace.Store.Database

namespace Marketplace
open CallTree

def SQLITE_OK : Int := 0
def SQLITE_ERROR : Int := 1
def SQLITE_NOTFOUND : Int := 12
def SQLITE_CONSTRAINT : Int := 19
def SQLITE_ROW : Int := 100
def SQLITE_DONE : Int := 101

variable {D : Type}

inductive Row (D : Type) where
  | user (u : User)
  | order (r : Order D)
  | inventory (OMG DOGE BTC ETH : Int)
  | timestamp (t : Nat)

inductive StepResult (D : Type) where
  | row (r : Row D)
  | done
  | error (code : Int)

def StepResult.code : StepResult D → Int
  | .row _ => SQLITE_ROW
  | .done => SQLITE_DONE
  | .error code => code

inductive Stmt (D : Type) where
  | insertOrder (item buyOrSell quantity : Option Int) (unitPrice : Option D) (userID : Option Int)
  | insertUser (username password name : CString) (OMG DOGE BTC ETH : Int)
  | deleteOrder (orderID : Option Int)
  | selectUser (userID : Int)
  | selectOrder (orderID : Option Int)
  | matchingBuy (item : Option Int) (unitPrice : Option D) (userID : Option Int)
  | matchingSell (item : Option Int) (unitPrice : Option D) (userID : Option Int)
  | updateOrder (item buyOrSell quantity : Int) (unitPrice : Option D) (userID orderID : Int)
  | updateUserBalance (OMG DOGE BTC ETH userID : Int)
  | selectInventory (userID : Option Int)
  | selectUserByUsername (username : CString)
  | insertArchive (item buyOrSell quantity : Option Int) (unitPrice : Option D)
      (userID : Option Int) (createdAt : Option Nat)
  | currentTimestamp

variable [CDouble D]

def answersBuy (item : Option Int) (unitPrice : Option D) (userID : Option Int) (r : Order D) :
    Bool :=
  item == some r.item && r.buyOrSell == 0 && unitPrice.any (fun p => CDouble.le p r.unitPrice) &&
    userID.any (fun u => r.userID != u)

def answersSell (item : Option Int) (unitPrice : Option D) (userID : Option Int) (r : Order D) :
    Bool :=
  item == some r.item && r.buyOrSell == 1 && unitPrice.any (fun p => CDouble.le r.unitPrice p) &&
    userID.any (fun u => r.userID != u)

def firstRow : Option (Row D) → StepResult D
  | some r => .row r
  | none => .done

def Stmt.exec (S : CreatedAtSort D) : Stmt D → Database D → StepResult D × Database D
  | .insertOrder (some item) (some buyOrSell) (some quantity) (some unitPrice) (some userID), db =>
    if (db.user userID).isSome then
      (.done, db.insertOrderRow item buyOrSell quantity unitPrice userID)
    else (.error SQLITE_CONSTRAINT, db)
  | .insertOrder .., db => (.error SQLITE_CONSTRAINT, db)
  | .insertUser username password name OMG DOGE BTC ETH, db =>
    if db.users.rows.any (fun r => r.username == username) then (.error SQLITE_CONSTRAINT, db)
    else (.done, db.insertUserRow username password name OMG DOGE BTC ETH)
  | .deleteOrder (some orderID), db => (.done, db.deleteOrderRow orderID)
  | .deleteOrder none, db => (.done, db)
  | .selectUser userID, db => (firstRow ((db.user userID).map .user), db)
  | .selectOrder orderID, db => (firstRow ((orderID.bind db.order).map .order), db)
  | .matchingBuy item unitPrice userID, db =>
    (firstRow ((S.sort (db.orders.rows.filter (answersBuy item unitPrice userID))).head?.map .order),
      db)
  | .matchingSell item unitPrice userID, db =>
    (firstRow ((S.sort (db.orders.rows.filter (answersSell item unitPrice userID))).head?.map .order),
      db)
  | .updateOrder item buyOrSell quantity unitPrice userID orderID, db =>
    match db.order orderID, unitPrice, db.user userID with
    | none, _, _ => (.done, db)
    | some _, some unitPrice, some _ =>
      (.done, db.updateOrderRow item buyOrSell quantity unitPrice userID orderID)
    | some _, _, _ => (.error SQLITE_CONSTRAINT, db)
  | .updateUserBalance OMG DOGE BTC ETH userID, db =>
    (.done, db.updateBalanceRow OMG DOGE BTC ETH userID)
  | .selectInventory userID, db =>
    (firstRow ((userID.bind db.user).map (fun u => .inventory u.OMG u.DOGE u.BTC u.ETH)), db)
  | .selectUserByUsername username, db =>
    (firstRow ((db.users.rows.find? (fun r => r.username == username)).map .user), db)
  | .insertArchive (some item) (some buyOrSell) (some quantity) (some unitPrice) (some userID)
      createdAt, db =>
    if (db.user userID).isSome then
      (.done, db.insertArchiveRow item buyOrSell quantity unitPrice userID createdAt)
    else (.error SQLITE_CONSTRAINT, db)
  | .insertArchive .., db => (.error SQLITE_CONSTRAINT, db)
  | .currentTimestamp, db => (.row (.timestamp db.now), db)

section Exec

variable (S : CreatedAtSort D) (db : Database D)

@[simp] theorem exec_insertOrder_bound (item buyOrSell quantity userID : Int) (unitPrice : D) :
    (Stmt.insertOrder (some item) (some buyOrSell) (some quantity) (some unitPrice)
        (some userID)).exec S db =
      if (db.user userID).isSome then
        (.done, db.insertOrderRow item buyOrSell quantity unitPrice userID)
      else (.error SQLITE_CONSTRAINT, db) := rfl

@[simp] theorem exec_insertOrder_unpriced (item buyOrSell quantity userID : Option Int) :
    (Stmt.insertOrder item buyOrSell quantity none userID).exec S db =
      (.error SQLITE_CONSTRAINT, db) := by
  cases item <;> cases buyOrSell <;> cases quantity <;> rfl

@[simp] theorem exec_insertUser (username password name : CString) (OMG DOGE BTC ETH : Int) :
    (Stmt.insertUser username password name OMG DOGE BTC ETH).exec S db =
      if db.users.rows.any (fun r => r.username == username) then (.error SQLITE_CONSTRAINT, db)
      else (.done, db.insertUserRow username password name OMG DOGE BTC ETH) := rfl

@[simp] theorem exec_deleteOrder_bound (orderID : Int) :
    (Stmt.deleteOrder (some orderID)).exec S db = (.done, db.deleteOrderRow orderID) := rfl

@[simp] theorem exec_deleteOrder_unbound : (Stmt.deleteOrder none).exec S db = (.done, db) := rfl

@[simp] theorem exec_selectUser (userID : Int) :
    (Stmt.selectUser userID).exec S db = (firstRow ((db.user userID).map .user), db) := rfl

@[simp] theorem exec_selectOrder (orderID : Option Int) :
    (Stmt.selectOrder orderID).exec S db =
      (firstRow ((orderID.bind db.order).map .order), db) := rfl

@[simp] theorem exec_matchingBuy (item userID : Option Int) (unitPrice : Option D) :
    (Stmt.matchingBuy item unitPrice userID).exec S db =
      (firstRow ((S.sort (db.orders.rows.filter
        (answersBuy item unitPrice userID))).head?.map .order), db) := rfl

@[simp] theorem exec_matchingSell (item userID : Option Int) (unitPrice : Option D) :
    (Stmt.matchingSell item unitPrice userID).exec S db =
      (firstRow ((S.sort (db.orders.rows.filter
        (answersSell item unitPrice userID))).head?.map .order), db) := rfl

theorem exec_updateOrder_match (item buyOrSell quantity userID orderID : Int)
    (unitPrice : Option D) :
    (Stmt.updateOrder item buyOrSell quantity unitPrice userID orderID).exec S db =
      match db.order orderID, unitPrice, db.user userID with
      | none, _, _ => (.done, db)
      | some _, some unitPrice, some _ =>
        (.done, db.updateOrderRow item buyOrSell quantity unitPrice userID orderID)
      | some _, _, _ => (.error SQLITE_CONSTRAINT, db) := rfl

@[simp] theorem exec_updateOrder_unpriced (item buyOrSell quantity userID orderID : Int) :
    (Stmt.updateOrder item buyOrSell quantity none userID orderID).exec S db =
      if (db.order orderID).isSome then (.error SQLITE_CONSTRAINT, db) else (.done, db) := by
  rw [exec_updateOrder_match]
  cases db.order orderID <;> rfl

@[simp] theorem exec_updateOrder_priced (item buyOrSell quantity userID orderID : Int)
    (unitPrice : D) :
    (Stmt.updateOrder item buyOrSell quantity (some unitPrice) userID orderID).exec S db =
      if (db.order orderID).isNone then (.done, db)
      else if (db.user userID).isSome then
        (.done, db.updateOrderRow item buyOrSell quantity unitPrice userID orderID)
      else (.error SQLITE_CONSTRAINT, db) := by
  rw [exec_updateOrder_match]
  cases db.order orderID <;> cases db.user userID <;> rfl

@[simp] theorem exec_updateUserBalance (OMG DOGE BTC ETH userID : Int) :
    (Stmt.updateUserBalance OMG DOGE BTC ETH userID).exec S db =
      (.done, db.updateBalanceRow OMG DOGE BTC ETH userID) := rfl

@[simp] theorem exec_selectInventory (userID : Option Int) :
    (Stmt.selectInventory userID).exec S db =
      (firstRow ((userID.bind db.user).map
        (fun u => .inventory u.OMG u.DOGE u.BTC u.ETH)), db) := rfl

@[simp] theorem exec_insertArchive_bound (item buyOrSell quantity userID : Int) (unitPrice : D)
    (createdAt : Option Nat) :
    (Stmt.insertArchive (some item) (some buyOrSell) (some quantity) (some unitPrice)
        (some userID) createdAt).exec S db =
      if (db.user userID).isSome then
        (.done, db.insertArchiveRow item buyOrSell quantity unitPrice userID createdAt)
      else (.error SQLITE_CONSTRAINT, db) := rfl

@[simp] theorem exec_insertArchive_unpriced (item buyOrSell quantity userID : Option Int)
    (createdAt : Option Nat) :
    (Stmt.insertArchive item buyOrSell quantity none userID createdAt).exec S db =
      (.error SQLITE_CONSTRAINT, db) := by
  cases item <;> cases buyOrSell <;> cases quantity <;> rfl

@[simp] theorem exec_currentTimestamp :
    (Stmt.currentTimestamp : Stmt D).exec S db = (.row (.timestamp db.now), db) := rfl

end Exec

inductive Call (D : Type) where
  | prepare
  | bind
  | step (s : Stmt D)
  | lastInsertRowid

@[reducible] def Call.Resp : Call D → Type
  | .step _ => StepResult D
  | _ => Int

abbrev SQL (D : Type) : Type → Type := Prog (Call D) Call.Resp

def perform (S : CreatedAtSort D) : (c : Call D) → Database D → c.Resp × Database D
  | .prepare, db => (SQLITE_OK, db)
  | .bind, db => (SQLITE_OK, db)
  | .step s, db => s.exec S db
  | .lastInsertRowid, db => (db.lastRowid, db)

end Marketplace
