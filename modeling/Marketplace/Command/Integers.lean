import Marketplace.Foundation.Noted
import Marketplace.Command.Outcomes

namespace Marketplace
open CallTree KeyedTable Truncation

-- a note is the exact result of one conversion or one int operation, none when there is no result
abbrev NotedSQL (D : Type) : Type → Type := Noted (Call D) Call.Resp (Option Int)

def FitsInt (result : Option Int) : Prop :=
  ∃ n, result = some n ∧ Int32 n

variable {D : Type} [CDouble D]

@[simp] theorem fitsInt_some (n : Int) : FitsInt (some n) ↔ Int32 n := by
  simp [FitsInt]

@[simp] theorem not_fitsInt_none : ¬ FitsInt none := by
  simp [FitsInt]

instance : DecidablePred FitsInt
  | none => .isFalse not_fitsInt_none
  | some n => decidable_of_iff (Int32 n) (fitsInt_some n).symm

def convertNoted (x : D) : NotedSQL D Int := do
  Noted.write (CDouble.integralPart x)
  return CDouble.toInt x

def intNoted (n : Int) : NotedSQL D Int := do
  Noted.write (some n)
  return n

def insufficientBalanceNoted (updatedUser : User) (newOrder : Order D) : NotedSQL D Bool :=
  if newOrder.buyOrSell = 0 then do
    let cost ← convertNoted (CDouble.mul (CDouble.ofInt newOrder.quantity) newOrder.unitPrice)
    return decide (updatedUser.OMG < cost)
  else return insufficientBalance updatedUser newOrder

def withholdBalanceNoted (updatedUser : User) (newOrder : Order D) : NotedSQL D User :=
  if newOrder.buyOrSell = 0 then do
    let cost ← convertNoted (CDouble.mul (CDouble.ofInt newOrder.quantity) newOrder.unitPrice)
    let OMG ← intNoted (updatedUser.OMG - cost)
    return { updatedUser with OMG }
  else if newOrder.buyOrSell = 1 then
    if newOrder.item = 1 then do
      let DOGE ← intNoted (updatedUser.DOGE - newOrder.quantity)
      return { updatedUser with DOGE }
    else if newOrder.item = 2 then do
      let BTC ← intNoted (updatedUser.BTC - newOrder.quantity)
      return { updatedUser with BTC }
    else if newOrder.item = 3 then do
      let ETH ← intNoted (updatedUser.ETH - newOrder.quantity)
      return { updatedUser with ETH }
    else return updatedUser
  else return updatedUser

def insertOrderNoted (newOrder : Order D) : NotedSQL D Int := do
  match ← Noted.lift (getUser newOrder.userID) with
  | .error res => return res
  | .ok updatedUser =>
    if ← insufficientBalanceNoted updatedUser newOrder then
      return SQLITE_ERROR
    let res ← Noted.lift sqlite3Prepare
    if res ≠ SQLITE_OK then
      return res
    let item ← Noted.lift (bindUnchecked newOrder.item)
    let buyOrSell ← Noted.lift (bindUnchecked newOrder.buyOrSell)
    let quantity ← Noted.lift (bindUnchecked newOrder.quantity)
    let unitPrice ← Noted.lift (bindDouble newOrder.unitPrice)
    let userID ← Noted.lift (bindUnchecked newOrder.userID)
    let res ← Noted.lift (execute (.insertOrder item buyOrSell quantity unitPrice userID))
    if res ≠ SQLITE_OK then
      return res
    Noted.lift (updateUserBalance (← withholdBalanceNoted updatedUser newOrder))

def addItemNoted (u : User) (item n : Int) : NotedSQL D User :=
  if item = COIN_OMG then do
    let OMG ← intNoted (u.OMG + n)
    return { u with OMG }
  else if item = COIN_DOGE then do
    let DOGE ← intNoted (u.DOGE + n)
    return { u with DOGE }
  else if item = COIN_BTC then do
    let BTC ← intNoted (u.BTC + n)
    return { u with BTC }
  else if item = COIN_ETH then do
    let ETH ← intNoted (u.ETH + n)
    return { u with ETH }
  else return u

def creditOMGNoted (u : User) (amount : D) : NotedSQL D User := do
  let OMG ← convertNoted (CDouble.add (CDouble.ofInt u.OMG) amount)
  return { u with OMG }

def debitOMGNoted (u : User) (amount : D) : NotedSQL D User := do
  let OMG ← convertNoted (CDouble.sub (CDouble.ofInt u.OMG) amount)
  return { u with OMG }

def reduceNoted (ord : Order D) (n : Int) : NotedSQL D (Order D) := do
  let quantity ← intNoted (ord.quantity - n)
  return { ord with quantity }

def closeMatchNoted (ord matchedOrder : Order D) : NotedSQL D Int := do
  if (← Noted.lift (deleteOrUpdateOrder matchedOrder)) ≠ 0 then
    return -1
  if ord.quantity > 0 then
    if (← insertOrderNoted ord) ≠ 0 then
      return -1
  return 0

def settleMatchNoted (ord matchedOrder : Order D) (taker : NotedSQL D User)
    (maker : User → NotedSQL D User) : NotedSQL D Int := do
  match ← Noted.lift (assignOrderTimestamp ord) with
  | .error _ => return -1
  | .ok ord =>
    if (← Noted.lift (archiveOrder matchedOrder)) ≠ 0 then
      return -1
    if (← Noted.lift (archiveOrder ord)) ≠ 0 then
      return -1
    let transactionQuantity := transactionQuantity ord matchedOrder
    let ord ← reduceNoted ord transactionQuantity
    let matchedOrder ← reduceNoted matchedOrder transactionQuantity
    let takerUser ← taker
    if (← Noted.lift (updateUserBalance takerUser)) ≠ 0 then
      return -1
    match ← Noted.lift (getUser matchedOrder.userID) with
    | .error _ => return -1
    | .ok makerUser =>
      let makerUser ← maker makerUser
      if (← Noted.lift (updateUserBalance makerUser)) ≠ 0 then
        return -1
      closeMatchNoted ord matchedOrder

def buyMatchNoted (currentUser : User) (ord matchedOrder : Order D) : NotedSQL D Int :=
  let quantity := transactionQuantity ord matchedOrder
  let cost := transactionCost ord matchedOrder
  settleMatchNoted ord matchedOrder
    (do addItemNoted (← debitOMGNoted currentUser cost) ord.item quantity)
    (fun sellerUser => do addItemNoted (← creditOMGNoted sellerUser cost) matchedOrder.item (-quantity))

def sellMatchNoted (currentUser : User) (ord matchedOrder : Order D) : NotedSQL D Int :=
  let quantity := transactionQuantity ord matchedOrder
  let cost := transactionCost ord matchedOrder
  settleMatchNoted ord matchedOrder
    (do creditOMGNoted (← addItemNoted currentUser ord.item (-quantity)) cost)
    (fun buyerUser => do addItemNoted (← debitOMGNoted buyerUser cost) matchedOrder.item quantity)

def buyNoted (ord : Order D) : NotedSQL D Int := do
  match ← Noted.lift (getUser ord.userID) with
  | .error _ => return -1
  | .ok currentUser =>
    if CDouble.lt (CDouble.ofInt currentUser.OMG) ord.total then
      return -1
    let result ← Noted.lift (findMatchingSell ord)
    if result = -1 then
      insertOrderNoted ord
    else
      match ← Noted.lift (getOrder result) with
      | .error _ => return -1
      | .ok matchedOrder => buyMatchNoted currentUser ord matchedOrder

def sellNoted (ord : Order D) : NotedSQL D Int := do
  match ← Noted.lift (getUser ord.userID) with
  | .error _ => return -1
  | .ok currentUser =>
    if insufficientHolding currentUser ord then
      return -1
    let result ← Noted.lift (findMatchingBuy ord)
    if result = -1 then
      insertOrderNoted ord
    else
      match ← Noted.lift (getOrder result) with
      | .error _ => return -1
      | .ok matchedOrder => sellMatchNoted currentUser ord matchedOrder

def checkedTradeNoted (ord : Order D) (refused : User → Bool) (find : SQL D Int)
    (settle : User → Order D → NotedSQL D Int) : NotedSQL D Int := do
  match ← Noted.lift (getUser ord.userID) with
  | .error _ => return -1
  | .ok currentUser =>
    if refused currentUser then
      return -1
    let result ← Noted.lift find
    if result = -1 then
      insertOrderNoted ord
    else
      match ← Noted.lift (getOrder result) with
      | .error _ => return -1
      | .ok matchedOrder => settle currentUser matchedOrder

theorem buyNoted_eq (ord : Order D) :
    buyNoted ord = checkedTradeNoted ord (fun u => CDouble.lt (CDouble.ofInt u.OMG) ord.total)
      (findMatchingSell ord) (fun u => buyMatchNoted u ord) := rfl

theorem sellNoted_eq (ord : Order D) :
    sellNoted ord = checkedTradeNoted ord (fun u => insufficientHolding u ord) (findMatchingBuy ord)
      (fun u => sellMatchNoted u ord) := rfl

def refundBalanceNoted (usr : User) (ord : Order D) : NotedSQL D User :=
  if ord.buyOrSell = 0 then creditOMGNoted usr ord.total else addItemNoted usr ord.item ord.quantity

def cancelOrderNoted (orderID currentUserID : Int) : NotedSQL D Int := do
  match ← Noted.lift (getOrder orderID) with
  | .error _ => return -1
  | .ok ord =>
    if ord.userID ≠ currentUserID then
      return -1
    match ← Noted.lift (getUser ord.userID) with
    | .error _ => return -1
    | .ok usr =>
      let usr ← refundBalanceNoted usr ord
      if (← Noted.lift (updateUserBalance usr)) ≠ 0 then
        return -1
      if (← Noted.lift (deleteOrder orderID)) ≠ 0 then
        return -1
      return 0

section Erase

variable (u : User) (ord m : Order D)

@[simp] theorem erase_convertNoted (x : D) : (convertNoted x).erase = pure (CDouble.toInt x) := rfl

omit [CDouble D] in
@[simp] theorem erase_intNoted (n : Int) : (intNoted n : NotedSQL D Int).erase = pure n := rfl

@[simp] theorem erase_insufficientBalanceNoted :
    (insufficientBalanceNoted u ord).erase = pure (insufficientBalance u ord) := by
  unfold insufficientBalanceNoted insufficientBalance
  split <;> rfl

@[simp] theorem erase_withholdBalanceNoted :
    (withholdBalanceNoted u ord).erase = pure (withholdBalance u ord) := by
  unfold withholdBalanceNoted withholdBalance
  split_ifs <;> rfl

omit [CDouble D] in
@[simp] theorem erase_addItemNoted (item n : Int) :
    (addItemNoted u item n : NotedSQL D User).erase = pure (u.addItem item n) := by
  unfold addItemNoted User.addItem
  split_ifs <;> rfl

@[simp] theorem erase_creditOMGNoted (x : D) :
    (creditOMGNoted u x).erase = pure (u.creditOMG x) := rfl

@[simp] theorem erase_debitOMGNoted (x : D) : (debitOMGNoted u x).erase = pure (u.debitOMG x) := rfl

omit [CDouble D] in
@[simp] theorem erase_reduceNoted (n : Int) : (reduceNoted ord n).erase = pure (ord.reduce n) := rfl

@[simp] theorem erase_refundBalanceNoted :
    (refundBalanceNoted u ord).erase = pure (refundBalance u ord) := by
  unfold refundBalanceNoted refundBalance
  split
  · exact erase_creditOMGNoted u ord.total
  · exact erase_addItemNoted u ord.item ord.quantity

@[simp] theorem erase_insertOrderNoted : (insertOrderNoted ord).erase = insertOrder ord := by
  unfold insertOrderNoted insertOrder
  rw [Noted.erase_bind, Noted.erase_lift]
  refine bind_congr (fun found => ?_)
  cases found with
  | error res => rfl
  | ok updatedUser =>
    simp only [Noted.erase_bind, Noted.erase_lift, Noted.erase_ite, Noted.erase_pure,
      erase_insufficientBalanceNoted, erase_withholdBalanceNoted]
    rfl

@[simp] theorem erase_closeMatchNoted : (closeMatchNoted ord m).erase = closeMatch ord m := by
  simp only [closeMatchNoted, Noted.erase_bind, Noted.erase_lift, Noted.erase_ite, Noted.erase_pure,
    erase_insertOrderNoted]
  rfl

theorem erase_settleMatchNoted {taker : NotedSQL D User} {maker : User → NotedSQL D User}
    {takerUser : User} {makerUser : User → User} (htaker : taker.erase = pure takerUser)
    (hmaker : ∀ v, (maker v).erase = pure (makerUser v)) :
    (settleMatchNoted ord m taker maker).erase = settleMatch ord m takerUser makerUser := by
  unfold settleMatchNoted settleMatch
  rw [Noted.erase_bind, Noted.erase_lift]
  refine bind_congr (fun stamped => ?_)
  cases stamped with
  | error res => rfl
  | ok ord =>
    simp only [Noted.erase_bind, Noted.erase_lift, Noted.erase_ite, Noted.erase_pure, htaker,
      erase_reduceNoted, Prog.pure_bind]
    -- one step for each of the three writes that can be refused
    refine bind_congr (fun _ => ite_congr rfl (fun _ => rfl) (fun _ => ?_))
    refine bind_congr (fun _ => ite_congr rfl (fun _ => rfl) (fun _ => ?_))
    refine bind_congr (fun _ => ite_congr rfl (fun _ => rfl) (fun _ => ?_))
    refine bind_congr (fun found => ?_)
    cases found with
    | error res => rfl
    | ok v =>
      simp only [Noted.erase_bind, Noted.erase_lift, Noted.erase_ite, Noted.erase_pure, hmaker,
        erase_closeMatchNoted, Prog.pure_bind]

theorem erase_buyMatchNoted : (buyMatchNoted u ord m).erase = buyMatch u ord m := by
  refine erase_settleMatchNoted ord m ?_ (fun v => ?_)
  · rw [Noted.erase_bind, erase_debitOMGNoted, Prog.pure_bind, erase_addItemNoted]
  · rw [Noted.erase_bind, erase_creditOMGNoted, Prog.pure_bind, erase_addItemNoted]

theorem erase_sellMatchNoted : (sellMatchNoted u ord m).erase = sellMatch u ord m := by
  refine erase_settleMatchNoted ord m ?_ (fun v => ?_)
  · rw [Noted.erase_bind, erase_addItemNoted, Prog.pure_bind, erase_creditOMGNoted]
  · rw [Noted.erase_bind, erase_debitOMGNoted, Prog.pure_bind, erase_addItemNoted]

theorem erase_checkedTradeNoted {refused : User → Bool} {find : SQL D Int}
    {settleNoted : User → Order D → NotedSQL D Int} {settle : User → Order D → SQL D Int}
    (hsettle : ∀ u m, (settleNoted u m).erase = settle u m) :
    (checkedTradeNoted ord refused find settleNoted).erase = checkedTrade ord refused find settle := by
  unfold checkedTradeNoted checkedTrade trade
  rw [Noted.erase_bind, Noted.erase_lift]
  refine bind_congr (fun found => ?_)
  cases found with
  | error res => rfl
  | ok u =>
    simp only [Noted.erase_ite, Noted.erase_bind, Noted.erase_lift, erase_insertOrderNoted]
    refine ite_congr rfl (fun _ => rfl) (fun _ => ?_)
    refine bind_congr (fun result => ite_congr rfl (fun _ => rfl) (fun _ => ?_))
    refine bind_congr (fun found => ?_)
    cases found with
    | error res => rfl
    | ok m => exact hsettle u m

theorem erase_buyNoted : (buyNoted ord).erase = buy ord := by
  rw [buyNoted_eq, buy_eq_checkedTrade]
  exact erase_checkedTradeNoted ord (fun u m => erase_buyMatchNoted u ord m)

theorem erase_sellNoted : (sellNoted ord).erase = sell ord := by
  rw [sellNoted_eq, sell_eq_checkedTrade]
  exact erase_checkedTradeNoted ord (fun u m => erase_sellMatchNoted u ord m)

theorem erase_cancelOrderNoted (orderID currentUserID : Int) :
    (cancelOrderNoted orderID currentUserID : NotedSQL D Int).erase =
      cancelOrder orderID currentUserID := by
  unfold cancelOrderNoted cancelOrder
  rw [Noted.erase_bind, Noted.erase_lift]
  refine bind_congr (fun found => ?_)
  cases found with
  | error res => rfl
  | ok ord =>
    simp only [Noted.erase_ite, Noted.erase_bind, Noted.erase_lift]
    refine ite_congr rfl (fun _ => rfl) (fun _ => ?_)
    refine bind_congr (fun found => ?_)
    cases found with
    | error res => rfl
    | ok u =>
      simp only [Noted.erase_ite, Noted.erase_bind, Noted.erase_lift, erase_refundBalanceNoted,
        Prog.pure_bind]
      rfl

end Erase

end Marketplace
