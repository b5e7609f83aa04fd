import Marketplace.Foundation.Interleaving
import Marketplace.Market.Coins

namespace Marketplace
open CallTree Interleaving

variable {D : Type} [CDouble D] {ι : Type} [DecidableEq ι]

inductive TradeCall (D : Type) where
  | buy (ord : Order D)
  | sell (ord : Order D)
  | cancelOrder (orderID currentUserID : Int)

def TradeCall.program : TradeCall D → SQL D Int
  | .buy ord => Marketplace.buy ord
  | .sell ord => Marketplace.sell ord
  | .cancelOrder orderID currentUserID => Marketplace.cancelOrder orderID currentUserID

structure Shared (D ι : Type) where
  db : Database D
  userCopy : ι → Int → Option User
  orderCopy : ι → Int → Option (Order D)
  moved : Int → Coin → Int
  posted : Int → Option Int
  consumed : Int → Int

namespace Shared

def start (db : Database D) : Shared D ι where
  db := db
  userCopy _ _ := none
  orderCopy _ _ := none
  moved _ _ := 0
  posted id := (db.order id).map Order.quantity
  consumed _ := 0

def readUser (w : Shared D ι) (i : ι) (u : User) : Shared D ι :=
  { w with userCopy := Function.update w.userCopy i (Function.update (w.userCopy i) u.userID (some u)) }

def readOrder (w : Shared D ι) (i : ι) (r : Order D) : Shared D ι :=
  { w with orderCopy := Function.update w.orderCopy i (Function.update (w.orderCopy i) r.orderID (some r)) }

def moveBalance (w : Shared D ι) (i : ι) (id : Int) (written : Coin → Int) : Shared D ι :=
  match w.userCopy i id with
  | some u => { w with moved := Function.update w.moved id (fun c => w.moved id c + (written c - u.balance c)) }
  | none => w

def consume (w : Shared D ι) (i : ι) (id left : Int) : Shared D ι :=
  match w.orderCopy i id with
  | some m => { w with consumed := Function.update w.consumed id (w.consumed id + (m.quantity - left)) }
  | none => w

def post (w : Shared D ι) (id quantity : Int) : Shared D ι :=
  { w with posted := Function.update w.posted id (some quantity) }

def observe (i : ι) (w : Shared D ι) : (s : Stmt D) → StepResult D → Shared D ι
  | .selectUser _, .row (.user u) => w.readUser i u
  | .selectOrder _, .row (.order r) => w.readOrder i r
  | .updateUserBalance OMG DOGE BTC ETH id, .done =>
    w.moveBalance i id (User.balance ⟨id, [], [], [], OMG, DOGE, BTC, ETH⟩)
  | .deleteOrder (some id), .done => w.consume i id 0
  | .updateOrder _ _ quantity _ _ id, .done => w.consume i id quantity
  | .insertOrder _ _ (some quantity) _ _, .done => w.post (w.db.orders.seq + 1) quantity
  | _, _ => w

end Shared

variable (S : CreatedAtSort D)

def serve (i : ι) : (c : Call D) → Shared D ι → c.Resp × Shared D ι
  | .step s, w => ((s.exec S w.db).1, { w.observe i s (s.exec S w.db).1 with db := (s.exec S w.db).2 })
  | .prepare, w => (SQLITE_OK, w)
  | .bind, w => (SQLITE_OK, w)
  | .lastInsertRowid, w => (w.db.lastRowid, w)

def Shared.elapse (seconds : Nat) (w : Shared D ι) : Shared D ι :=
  { w with db := w.db.elapse seconds }

abbrev Sessions (D ι : Type) := System (Call D) Call.Resp Int (Shared D ι) ι

def SessionsReach (G : ι → Call D → Shared D ι → Prop) (start : TradeCall D → Prop) :
    Sessions D ι → Sessions D ι → Prop :=
  Reaches (serve S) TradeCall.program Shared.elapse G start

end Marketplace
