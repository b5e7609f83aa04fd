import Marketplace.Store.Queries

namespace Marketplace
open CallTree

variable {D : Type} [CDouble D]

namespace User

def addItem (u : User) (item n : Int) : User :=
  if item = COIN_OMG then { u with OMG := u.OMG + n }
  else if item = COIN_DOGE then { u with DOGE := u.DOGE + n }
  else if item = COIN_BTC then { u with BTC := u.BTC + n }
  else if item = COIN_ETH then { u with ETH := u.ETH + n }
  else u

def creditOMG (u : User) (amount : D) : User :=
  { u with OMG := CDouble.toInt (CDouble.add (CDouble.ofInt u.OMG) amount) }

def debitOMG (u : User) (amount : D) : User :=
  { u with OMG := CDouble.toInt (CDouble.sub (CDouble.ofInt u.OMG) amount) }

end User

def createOrder (item buyOrSell quantity : Int) (unitPrice : D) (userID : Int) : Order D where
  orderID := 0
  item := item
  buyOrSell := buyOrSell
  quantity := quantity
  userID := userID
  unitPrice := unitPrice
  createdAt := none

def archiveOrder (archivedOrder : Order D) : SQL D Int :=
  insertArchive archivedOrder

def Order.total (ord : Order D) : D :=
  CDouble.mul (CDouble.ofInt ord.quantity) ord.unitPrice

def transactionQuantity (ord matchedOrder : Order D) : Int :=
  if ord.quantity > matchedOrder.quantity then matchedOrder.quantity else ord.quantity

def transactionCost (ord matchedOrder : Order D) : D :=
  CDouble.mul (CDouble.ofInt (transactionQuantity ord matchedOrder)) matchedOrder.unitPrice

def Order.reduce (ord : Order D) (n : Int) : Order D :=
  { ord with quantity := ord.quantity - n }

def deleteOrUpdateOrder (matchedOrder : Order D) : SQL D Int :=
  if matchedOrder.quantity = 0 then deleteOrder matchedOrder.orderID
  else updateOrder matchedOrder

def closeMatch (ord matchedOrder : Order D) : SQL D Int := do
  if (← deleteOrUpdateOrder matchedOrder) ≠ 0 then
    return -1
  if ord.quantity > 0 then
    if (← insertOrder ord) ≠ 0 then
      return -1
  return 0

def settleMatch (ord matchedOrder : Order D) (taker : User) (maker : User → User) : SQL D Int := do
  match ← assignOrderTimestamp ord with
  | .error _ => return -1
  | .ok ord =>
    if (← archiveOrder matchedOrder) ≠ 0 then
      return -1
    if (← archiveOrder ord) ≠ 0 then
      return -1
    let transactionQuantity := transactionQuantity ord matchedOrder
    let ord := ord.reduce transactionQuantity
    let matchedOrder := matchedOrder.reduce transactionQuantity
    if (← updateUserBalance taker) ≠ 0 then
      return -1
    match ← getUser matchedOrder.userID with
    | .error _ => return -1
    | .ok makerUser =>
      if (← updateUserBalance (maker makerUser)) ≠ 0 then
        return -1
      closeMatch ord matchedOrder

def buyMatch (currentUser : User) (ord matchedOrder : Order D) : SQL D Int :=
  let quantity := transactionQuantity ord matchedOrder
  let cost := transactionCost ord matchedOrder
  settleMatch ord matchedOrder ((currentUser.debitOMG cost).addItem ord.item quantity)
    (fun sellerUser => (sellerUser.creditOMG cost).addItem matchedOrder.item (-quantity))

def sellMatch (currentUser : User) (ord matchedOrder : Order D) : SQL D Int :=
  let quantity := transactionQuantity ord matchedOrder
  let cost := transactionCost ord matchedOrder
  settleMatch ord matchedOrder ((currentUser.addItem ord.item (-quantity)).creditOMG cost)
    (fun buyerUser => (buyerUser.debitOMG cost).addItem matchedOrder.item quantity)

def buy (ord : Order D) : SQL D Int := do
  match ← getUser ord.userID with
  | .error _ => return -1
  | .ok currentUser =>
    if CDouble.lt (CDouble.ofInt currentUser.OMG) ord.total then
      return -1
    let result ← findMatchingSell ord
    if result = -1 then
      insertOrder ord
    else
      match ← getOrder result with
      | .error _ => return -1
      | .ok matchedOrder => buyMatch currentUser ord matchedOrder

def insufficientHolding (currentUser : User) (ord : Order D) : Bool :=
  if ord.item = COIN_OMG then decide (currentUser.OMG < ord.quantity)
  else if ord.item = COIN_DOGE then decide (currentUser.DOGE < ord.quantity)
  else if ord.item = COIN_BTC then decide (currentUser.BTC < ord.quantity)
  else if ord.item = COIN_ETH then decide (currentUser.ETH < ord.quantity)
  else false

def sell (ord : Order D) : SQL D Int := do
  match ← getUser ord.userID with
  | .error _ => return -1
  | .ok currentUser =>
    if insufficientHolding currentUser ord then
      return -1
    let result ← findMatchingBuy ord
    if result = -1 then
      insertOrder ord
    else
      match ← getOrder result with
      | .error _ => return -1
      | .ok matchedOrder => sellMatch currentUser ord matchedOrder

def refundBalance (usr : User) (ord : Order D) : User :=
  if ord.buyOrSell = 0 then usr.creditOMG ord.total else usr.addItem ord.item ord.quantity

def cancelOrder (orderID currentUserID : Int) : SQL D Int := do
  match ← getOrder orderID with
  | .error _ => return -1
  | .ok ord =>
    if ord.userID ≠ currentUserID then
      return -1
    match ← getUser ord.userID with
    | .error _ => return -1
    | .ok usr =>
      if (← updateUserBalance (refundBalance usr ord)) ≠ 0 then
        return -1
      if (← deleteOrder orderID) ≠ 0 then
        return -1
      return 0

def trade (find : SQL D Int) (ord : Order D) (settle : Order D → SQL D Int) : SQL D Int := do
  let result ← find
  if result = -1 then
    insertOrder ord
  else
    match ← getOrder result with
    | .error _ => return -1
    | .ok matchedOrder => settle matchedOrder

def checkedTrade (ord : Order D) (refused : User → Bool) (find : SQL D Int)
    (settle : User → Order D → SQL D Int) : SQL D Int := do
  match ← getUser ord.userID with
  | .error _ => return -1
  | .ok currentUser =>
    if refused currentUser then
      return -1
    trade find ord (settle currentUser)

theorem buy_eq_checkedTrade (ord : Order D) :
    buy ord = checkedTrade ord (fun u => CDouble.lt (CDouble.ofInt u.OMG) ord.total)
      (findMatchingSell ord) (fun u => buyMatch u ord) := rfl

theorem sell_eq_checkedTrade (ord : Order D) :
    sell ord = checkedTrade ord (fun u => insufficientHolding u ord) (findMatchingBuy ord)
      (fun u => sellMatch u ord) := rfl

end Marketplace
