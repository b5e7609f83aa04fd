import Marketplace.Store.Sqlite

namespace Marketplace
open CallTree

variable {D : Type}

def sqlite3Prepare : SQL D Int := Prog.request Call.prepare

def sqlite3Bind : SQL D Int := Prog.request Call.bind

def sqlite3Step (s : Stmt D) : SQL D (StepResult D) := Prog.request (Call.step s)

def sqlite3LastInsertRowid : SQL D Int := Prog.request Call.lastInsertRowid

def bindUnchecked {α : Type} (v : α) : SQL D (Option α) := do
  let res ← sqlite3Bind
  return if res = SQLITE_OK then some v else none

def bindChecked : Nat → SQL D Int
  | 0 => return SQLITE_OK
  | n + 1 => do
    let res ← sqlite3Bind
    if res ≠ SQLITE_OK then
      return res
    bindChecked n

def execute (s : Stmt D) : SQL D Int := do
  let res ← sqlite3Step s
  if res.code ≠ SQLITE_DONE then
    return res.code
  return SQLITE_OK

variable [CDouble D]

def doubleParameter (v : D) : Option D :=
  if CDouble.isNaN v then none else some v

def bindDouble (v : D) : SQL D (Option D) := do
  let v ← bindUnchecked v
  return v.bind doubleParameter

def getUser (userID : Int) : SQL D (Except Int User) := do
  let res ← sqlite3Prepare
  if res ≠ SQLITE_OK then
    return .error res
  let res ← bindChecked 1
  if res ≠ SQLITE_OK then
    return .error res
  match ← sqlite3Step (.selectUser userID) with
  | .row (.user userOut) => return .ok userOut
  | _ => return .error SQLITE_NOTFOUND

def getOrder (orderID : Int) : SQL D (Except Int (Order D)) := do
  let res ← sqlite3Prepare
  if res ≠ SQLITE_OK then
    return .error res
  let orderID ← bindUnchecked orderID
  match ← sqlite3Step (.selectOrder orderID) with
  | .row (.order orderOut) => return .ok orderOut
  | _ => return .error SQLITE_NOTFOUND

def updateUserBalance (updatedUser : User) : SQL D Int := do
  let res ← sqlite3Prepare
  if res ≠ SQLITE_OK then
    return res
  let res ← bindChecked 5
  if res ≠ SQLITE_OK then
    return res
  execute (.updateUserBalance updatedUser.OMG updatedUser.DOGE updatedUser.BTC updatedUser.ETH
    updatedUser.userID)

def insufficientBalance (updatedUser : User) (newOrder : Order D) : Bool :=
  if newOrder.buyOrSell = 0 then
    decide (updatedUser.OMG < CDouble.toInt (CDouble.mul (CDouble.ofInt newOrder.quantity) newOrder.unitPrice))
  else if newOrder.buyOrSell = 1 then
    if newOrder.item = 1 then decide (updatedUser.DOGE < newOrder.quantity)
    else if newOrder.item = 2 then decide (updatedUser.BTC < newOrder.quantity)
    else if newOrder.item = 3 then decide (updatedUser.ETH < newOrder.quantity)
    else true
  else false

def withholdBalance (updatedUser : User) (newOrder : Order D) : User :=
  if newOrder.buyOrSell = 0 then
    { updatedUser with
      OMG := updatedUser.OMG -
        CDouble.toInt (CDouble.mul (CDouble.ofInt newOrder.quantity) newOrder.unitPrice) }
  else if newOrder.buyOrSell = 1 then
    if newOrder.item = 1 then { updatedUser with DOGE := updatedUser.DOGE - newOrder.quantity }
    else if newOrder.item = 2 then { updatedUser with BTC := updatedUser.BTC - newOrder.quantity }
    else if newOrder.item = 3 then { updatedUser with ETH := updatedUser.ETH - newOrder.quantity }
    else updatedUser
  else updatedUser

def insertOrder (newOrder : Order D) : SQL D Int := do
  match ← getUser newOrder.userID with
  | .error res => return res
  | .ok updatedUser =>
    if insufficientBalance updatedUser newOrder then
      return SQLITE_ERROR
    let res ← sqlite3Prepare
    if res ≠ SQLITE_OK then
      return res
    let item ← bindUnchecked newOrder.item
    let buyOrSell ← bindUnchecked newOrder.buyOrSell
    let quantity ← bindUnchecked newOrder.quantity
    let unitPrice ← bindDouble newOrder.unitPrice
    let userID ← bindUnchecked newOrder.userID
    let res ← execute (.insertOrder item buyOrSell quantity unitPrice userID)
    if res ≠ SQLITE_OK then
      return res
    updateUserBalance (withholdBalance updatedUser newOrder)

def insertUser (newUser : User) : SQL D (Except Int Int) := do
  let res ← sqlite3Prepare
  if res ≠ SQLITE_OK then
    return .error res
  let res ← bindChecked 7
  if res ≠ SQLITE_OK then
    return .error res
  let res ← execute (.insertUser newUser.username newUser.password newUser.name newUser.OMG
    newUser.DOGE newUser.BTC newUser.ETH)
  if res ≠ SQLITE_OK then
    return .error res
  return .ok (← sqlite3LastInsertRowid)

def deleteOrder (orderID : Int) : SQL D Int := do
  let res ← sqlite3Prepare
  if res ≠ SQLITE_OK then
    return res
  let orderID ← bindUnchecked orderID
  execute (.deleteOrder orderID)

def findMatching (query : Option Int → Option D → Option Int → Stmt D) (searchOrder : Order D) :
    SQL D Int := do
  let res ← sqlite3Prepare
  if res ≠ SQLITE_OK then
    return res
  let item ← bindUnchecked searchOrder.item
  let unitPrice ← bindDouble searchOrder.unitPrice
  let userID ← bindUnchecked searchOrder.userID
  match ← sqlite3Step (query item unitPrice userID) with
  | .row (.order r) => return r.orderID
  | _ => return -1

def findMatchingBuy (searchOrder : Order D) : SQL D Int :=
  findMatching .matchingBuy searchOrder

def findMatchingSell (searchOrder : Order D) : SQL D Int :=
  findMatching .matchingSell searchOrder

def updateOrder (updatedOrder : Order D) : SQL D Int := do
  let res ← sqlite3Prepare
  if res ≠ SQLITE_OK then
    return res
  let res ← bindChecked 6
  if res ≠ SQLITE_OK then
    return res
  execute (.updateOrder updatedOrder.item updatedOrder.buyOrSell updatedOrder.quantity
    (doubleParameter updatedOrder.unitPrice) updatedOrder.userID updatedOrder.orderID)

def getUserInventories (userID : Int) : SQL D (Except Int (Int × Int × Int × Int)) := do
  let res ← sqlite3Prepare
  if res ≠ SQLITE_OK then
    return .error res
  let userID ← bindUnchecked userID
  match ← sqlite3Step (.selectInventory userID) with
  | .row (.inventory OMG DOGE BTC ETH) => return .ok (OMG, DOGE, BTC, ETH)
  | _ => return .error SQLITE_NOTFOUND

def getUserByUsername (username : CString) : SQL D (Except Int User) := do
  let res ← sqlite3Prepare
  if res ≠ SQLITE_OK then
    return .error res
  let res ← bindChecked 1
  if res ≠ SQLITE_OK then
    return .error res
  match ← sqlite3Step (.selectUserByUsername username) with
  | .row (.user userOut) => return .ok userOut
  | _ => return .error SQLITE_NOTFOUND

def insertArchive (archivedOrder : Order D) : SQL D Int := do
  let res ← sqlite3Prepare
  if res ≠ SQLITE_OK then
    return res
  let item ← bindUnchecked archivedOrder.item
  let buyOrSell ← bindUnchecked archivedOrder.buyOrSell
  let quantity ← bindUnchecked archivedOrder.quantity
  let unitPrice ← bindDouble archivedOrder.unitPrice
  let userID ← bindUnchecked archivedOrder.userID
  let createdAt ← bindUnchecked archivedOrder.createdAt
  execute (.insertArchive item buyOrSell quantity unitPrice userID createdAt.join)

def assignOrderTimestamp (orderToUpdate : Order D) : SQL D (Except Int (Order D)) := do
  let res ← sqlite3Prepare
  if res ≠ SQLITE_OK then
    return .error res
  match ← sqlite3Step .currentTimestamp with
  | .row (.timestamp currentTimestamp) => return .ok { orderToUpdate with createdAt := some currentTimestamp }
  | res => return .error res.code

end Marketplace
