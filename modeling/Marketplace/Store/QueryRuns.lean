import Marketplace.Store.Queries

namespace Marketplace
open CallTree KeyedTable

variable {D : Type}

def Order.stamp (ord : Order D) (db : Database D) : Order D :=
  { ord with createdAt := some db.now }

section Stamp

variable (ord : Order D) (db : Database D)

@[simp] theorem item_stamp : (ord.stamp db).item = ord.item := rfl
@[simp] theorem buyOrSell_stamp : (ord.stamp db).buyOrSell = ord.buyOrSell := rfl
@[simp] theorem quantity_stamp : (ord.stamp db).quantity = ord.quantity := rfl
@[simp] theorem userID_stamp : (ord.stamp db).userID = ord.userID := rfl
@[simp] theorem unitPrice_stamp : (ord.stamp db).unitPrice = ord.unitPrice := rfl

end Stamp

namespace Database

def setBalance (db : Database D) (u : User) : Database D :=
  db.updateBalanceRow u.OMG u.DOGE u.BTC u.ETH u.userID

def place (db : Database D) (ord : Order D) : Database D :=
  db.insertOrderRow ord.item ord.buyOrSell ord.quantity ord.unitPrice ord.userID

def archive (db : Database D) (ord : Order D) : Database D :=
  db.insertArchiveRow ord.item ord.buyOrSell ord.quantity ord.unitPrice ord.userID ord.createdAt

def rewrite (db : Database D) (ord : Order D) : Database D :=
  db.updateOrderRow ord.item ord.buyOrSell ord.quantity ord.unitPrice ord.userID ord.orderID

def placed (db : Database D) (ord : Order D) : Order D :=
  { ord with orderID := db.orders.seq + 1, createdAt := some db.now }

section Frame

variable (db : Database D) (u : User) (ord : Order D) (id : Int)

@[simp] theorem users_place : (db.place ord).users = db.users := rfl
@[simp] theorem archives_place : (db.place ord).archives = db.archives := rfl
@[simp] theorem now_place : (db.place ord).now = db.now := rfl
@[simp] theorem orders_setBalance : (db.setBalance u).orders = db.orders := rfl
@[simp] theorem archives_setBalance : (db.setBalance u).archives = db.archives := rfl
@[simp] theorem now_setBalance : (db.setBalance u).now = db.now := rfl
@[simp] theorem users_archive : (db.archive ord).users = db.users := rfl
@[simp] theorem orders_archive : (db.archive ord).orders = db.orders := rfl
@[simp] theorem now_archive : (db.archive ord).now = db.now := rfl
@[simp] theorem users_rewrite : (db.rewrite ord).users = db.users := rfl
@[simp] theorem archives_rewrite : (db.rewrite ord).archives = db.archives := rfl
@[simp] theorem now_rewrite : (db.rewrite ord).now = db.now := rfl
@[simp] theorem users_deleteOrderRow : (db.deleteOrderRow id).users = db.users := rfl
@[simp] theorem archives_deleteOrderRow : (db.deleteOrderRow id).archives = db.archives := rfl
@[simp] theorem now_deleteOrderRow : (db.deleteOrderRow id).now = db.now := rfl

@[simp] theorem user_place : (db.place ord).user id = db.user id := rfl
@[simp] theorem user_archive : (db.archive ord).user id = db.user id := rfl
@[simp] theorem user_rewrite : (db.rewrite ord).user id = db.user id := rfl
@[simp] theorem user_deleteOrderRow (j : Int) : (db.deleteOrderRow j).user id = db.user id := rfl
@[simp] theorem order_setBalance : (db.setBalance u).order id = db.order id := rfl
@[simp] theorem order_archive : (db.archive ord).order id = db.order id := rfl

theorem mem_orders_place {r : Order D} :
    r ∈ (db.place ord).orders.rows ↔ r ∈ db.orders.rows ∨ r = db.placed ord :=
  Table.mem_insert

@[simp] theorem total_orders_place (f : Order D → Int) :
    (db.place ord).orders.total f = db.orders.total f + f (db.placed ord) :=
  Table.total_insert _ f

end Frame

section Balance

variable {db : Database D} {u v : User} {id : Int}

theorem user_userID (h : db.user id = some u) : u.userID = id :=
  (Table.find_eq_some.mp h).2

theorem user_mem (h : db.user id = some u) : u ∈ db.users.rows :=
  (Table.find_eq_some.mp h).1

theorem user_of_mem (h : u ∈ db.users.rows) : db.user u.userID = some u :=
  Table.find_of_mem h

theorem order_orderID {r : Order D} (h : db.order id = some r) : r.orderID = id :=
  (Table.find_eq_some.mp h).2

theorem order_mem {r : Order D} (h : db.order id = some r) : r ∈ db.orders.rows :=
  (Table.find_eq_some.mp h).1

theorem order_of_mem {r : Order D} (h : r ∈ db.orders.rows) : db.order r.orderID = some r :=
  Table.find_of_mem h

theorem user_setBalance (db : Database D) (u : User) (id : Int) :
    (db.setBalance u).user id = (db.user id).map (fun r =>
      if id = u.userID then { r with OMG := u.OMG, DOGE := u.DOGE, BTC := u.BTC, ETH := u.ETH }
      else r) := by
  simp only [user, setBalance, updateBalanceRow, Table.find_modify]

@[simp] theorem user_isSome_setBalance (db : Database D) (u : User) (id : Int) :
    ((db.setBalance u).user id).isSome = (db.user id).isSome := by
  simp [user_setBalance]

end Balance

end Database

variable [CDouble D] (S : CreatedAtSort D) (db : Database D)

def matchBuy (ord : Order D) : Option (Order D) :=
  (S.sort (db.orders.rows.filter
    (answersBuy (some ord.item) (doubleParameter ord.unitPrice) (some ord.userID)))).head?

def matchSell (ord : Order D) : Option (Order D) :=
  (S.sort (db.orders.rows.filter
    (answersSell (some ord.item) (doubleParameter ord.unitPrice) (some ord.userID)))).head?

section Exec

variable (item buyOrSell quantity userID : Option Int) (unitPrice : Option D)

theorem exec_insertOrder :
    (Stmt.insertOrder item buyOrSell quantity unitPrice userID).exec S db =
        (.error SQLITE_CONSTRAINT, db) ∨
      ∃ i b n p u, item = some i ∧ buyOrSell = some b ∧ quantity = some n ∧ unitPrice = some p ∧
        userID = some u ∧ (db.user u).isSome ∧
        (Stmt.insertOrder item buyOrSell quantity unitPrice userID).exec S db =
          (.done, db.insertOrderRow i b n p u) := by
  rcases item with _ | i
  · exact .inl rfl
  rcases buyOrSell with _ | b
  · exact .inl rfl
  rcases quantity with _ | n
  · exact .inl rfl
  rcases unitPrice with _ | p
  · exact .inl rfl
  rcases userID with _ | u
  · exact .inl rfl
  by_cases hu : (db.user u).isSome
  · exact .inr ⟨i, b, n, p, u, rfl, rfl, rfl, rfl, rfl, hu, by simp [hu]⟩
  · exact .inl (by simp [hu])

theorem exec_insertArchive (createdAt : Option Nat) :
    (Stmt.insertArchive item buyOrSell quantity unitPrice userID createdAt).exec S db =
        (.error SQLITE_CONSTRAINT, db) ∨
      ∃ i b n p u, item = some i ∧ buyOrSell = some b ∧ quantity = some n ∧ unitPrice = some p ∧
        userID = some u ∧ (db.user u).isSome ∧
        (Stmt.insertArchive item buyOrSell quantity unitPrice userID createdAt).exec S db =
          (.done, db.insertArchiveRow i b n p u createdAt) := by
  rcases item with _ | i
  · exact .inl rfl
  rcases buyOrSell with _ | b
  · exact .inl rfl
  rcases quantity with _ | n
  · exact .inl rfl
  rcases unitPrice with _ | p
  · exact .inl rfl
  rcases userID with _ | u
  · exact .inl rfl
  by_cases hu : (db.user u).isSome
  · exact .inr ⟨i, b, n, p, u, rfl, rfl, rfl, rfl, rfl, hu, by simp [hu]⟩
  · exact .inl (by simp [hu])

variable {db} in
theorem exec_updateOrder (i b n u orderID : Int) {r : Order D} (hr : db.order orderID = some r) :
    (Stmt.updateOrder i b n unitPrice u orderID).exec S db = (.error SQLITE_CONSTRAINT, db) ∨
      ∃ p, unitPrice = some p ∧ (Stmt.updateOrder i b n unitPrice u orderID).exec S db =
        (.done, db.updateOrderRow i b n p u orderID) := by
  rw [exec_updateOrder_match, hr]
  cases unitPrice with
  | none => exact .inl rfl
  | some p =>
    cases db.user u with
    | none => exact .inl rfl
    | some v => exact .inr ⟨p, rfl, rfl⟩

end Exec

@[simp] theorem run_prepare :
    sqlite3Prepare.run (perform S) db = (SQLITE_OK, db) := rfl

@[simp] theorem run_bind_call : sqlite3Bind.run (perform S) db = (SQLITE_OK, db) := rfl

@[simp] theorem run_step (s : Stmt D) : (sqlite3Step s).run (perform S) db = s.exec S db := rfl

@[simp] theorem run_bindUnchecked {α : Type} (v : α) :
    (bindUnchecked v).run (perform S) db = (some v, db) := rfl

@[simp] theorem run_bindChecked (n : Nat) :
    (bindChecked n).run (perform S) db = (SQLITE_OK, db) := by
  induction n with
  | zero => rfl
  | succ n ih => simpa [bindChecked] using ih

@[simp] theorem run_bindDouble (v : D) :
    (bindDouble v).run (perform S) db = (doubleParameter v, db) := rfl

theorem run_getUser (id : Int) :
    (getUser id).run (perform S) db =
      (match db.user id with
        | some u => .ok u
        | none => .error SQLITE_NOTFOUND, db) := by
  cases h : db.user id <;> simp [getUser, firstRow, h]

theorem run_getOrder (id : Int) :
    (getOrder id).run (perform S) db =
      (match db.order id with
        | some r => .ok r
        | none => .error SQLITE_NOTFOUND, db) := by
  cases h : db.order id <;> simp [getOrder, firstRow, h]

theorem run_updateUserBalance (u : User) :
    (updateUserBalance u).run (perform S) db = (SQLITE_OK, db.setBalance u) := by
  simp [updateUserBalance, execute, StepResult.code, Database.setBalance]

theorem run_deleteOrder (id : Int) :
    (deleteOrder id).run (perform S) db = (SQLITE_OK, db.deleteOrderRow id) := by
  simp [deleteOrder, execute, StepResult.code]

theorem run_findMatchingBuy (ord : Order D) :
    (findMatchingBuy ord).run (perform S) db =
      ((matchBuy S db ord).elim (-1) Order.orderID, db) := by
  cases h : matchBuy S db ord <;>
    simp [findMatchingBuy, findMatching, firstRow, ← matchBuy.eq_def, h]

theorem run_findMatchingSell (ord : Order D) :
    (findMatchingSell ord).run (perform S) db =
      ((matchSell S db ord).elim (-1) Order.orderID, db) := by
  cases h : matchSell S db ord <;>
    simp [findMatchingSell, findMatching, firstRow, ← matchSell.eq_def, h]

theorem run_assignOrderTimestamp (ord : Order D) :
    (assignOrderTimestamp ord).run (perform S) db =
      (.ok (ord.stamp db), db) := by
  simp [assignOrderTimestamp, Order.stamp]

theorem run_insertArchive (ord : Order D) :
    (insertArchive ord).run (perform S) db =
      if CDouble.isNaN ord.unitPrice = false ∧ (db.user ord.userID).isSome then
        (SQLITE_OK, db.archive ord)
      else (SQLITE_CONSTRAINT, db) := by
  cases hn : CDouble.isNaN ord.unitPrice <;> cases hu : (db.user ord.userID).isSome <;>
    simp [insertArchive, execute, doubleParameter, hn, hu, StepResult.code,
      Database.archive, SQLITE_CONSTRAINT, SQLITE_DONE, SQLITE_OK]

theorem run_updateOrder (ord : Order D) :
    (updateOrder ord).run (perform S) db =
      if (db.order ord.orderID).isNone then (SQLITE_OK, db)
      else if CDouble.isNaN ord.unitPrice = false ∧ (db.user ord.userID).isSome then
        (SQLITE_OK, db.rewrite ord)
      else (SQLITE_CONSTRAINT, db) := by
  cases ho : db.order ord.orderID <;> cases hn : CDouble.isNaN ord.unitPrice <;>
    cases hu : db.user ord.userID <;>
    simp [updateOrder, execute, doubleParameter, ho, hn, hu, StepResult.code,
      Database.rewrite, SQLITE_CONSTRAINT, SQLITE_DONE, SQLITE_OK]

theorem run_insertOrder (ord : Order D) :
    (insertOrder ord).run (perform S) db =
      match db.user ord.userID with
      | none => (SQLITE_NOTFOUND, db)
      | some u =>
        if insufficientBalance u ord then (SQLITE_ERROR, db)
        else if CDouble.isNaN ord.unitPrice then (SQLITE_CONSTRAINT, db)
        else (SQLITE_OK, (db.place ord).setBalance (withholdBalance u ord)) := by
  cases hu : db.user ord.userID with
  | none => simp [insertOrder, run_getUser, hu]
  | some u =>
    cases hi : insufficientBalance u ord <;> cases hn : CDouble.isNaN ord.unitPrice <;>
      simp [insertOrder, run_getUser, run_updateUserBalance, hu, hi, hn, execute, doubleParameter,
        StepResult.code, Database.place, SQLITE_CONSTRAINT, SQLITE_DONE, SQLITE_OK]

end Marketplace
