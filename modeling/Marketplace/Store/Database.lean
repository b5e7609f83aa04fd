import Mathlib.Data.List.Sort
import Marketplace.Foundation.KeyedTable
import Marketplace.Store.Arithmetic

namespace Marketplace
open KeyedTable

abbrev CString := List Char

def BUY : Int := 0
def SELL : Int := 1

def COIN_OMG : Int := 0
def COIN_DOGE : Int := 1
def COIN_BTC : Int := 2
def COIN_ETH : Int := 3

def DEFAULT_OMG : Int := 10000
def DEFAULT_DOGE : Int := 200
def DEFAULT_BTC : Int := 50
def DEFAULT_ETH : Int := 75

structure User where
  userID : Int
  username : CString
  password : CString
  name : CString
  OMG : Int
  DOGE : Int
  BTC : Int
  ETH : Int
deriving DecidableEq, Repr

structure Order (D : Type) where
  orderID : Int
  item : Int
  buyOrSell : Int
  quantity : Int
  userID : Int
  unitPrice : D
  createdAt : Option Nat
deriving DecidableEq, Repr

structure Database (D : Type) where
  users : Table User User.userID
  orders : Table (Order D) Order.orderID
  archives : Table (Order D) Order.orderID
  now : Nat
  lastRowid : Int

variable {D : Type}

namespace Database

def empty : Database D where
  users := KeyedTable.empty
  orders := KeyedTable.empty
  archives := KeyedTable.empty
  now := 0
  lastRowid := 0

def user (db : Database D) (userID : Int) : Option User :=
  db.users.find userID

def order (db : Database D) (orderID : Int) : Option (Order D) :=
  db.orders.find orderID

def insertOrderRow (db : Database D) (item buyOrSell quantity : Int) (unitPrice : D)
    (userID : Int) : Database D :=
  { db with
    orders := db.orders.insert
      (fun id => ⟨id, item, buyOrSell, quantity, userID, unitPrice, some db.now⟩) (fun _ => rfl)
    lastRowid := db.orders.seq + 1 }

def insertArchiveRow (db : Database D) (item buyOrSell quantity : Int) (unitPrice : D)
    (userID : Int) (createdAt : Option Nat) : Database D :=
  { db with
    archives := db.archives.insert
      (fun id => ⟨id, item, buyOrSell, quantity, userID, unitPrice, createdAt⟩) (fun _ => rfl)
    lastRowid := db.archives.seq + 1 }

def insertUserRow (db : Database D) (username password name : CString)
    (OMG DOGE BTC ETH : Int) : Database D :=
  { db with
    users := db.users.insert
      (fun id => ⟨id, username, password, name, OMG, DOGE, BTC, ETH⟩) (fun _ => rfl)
    lastRowid := db.users.seq + 1 }

def deleteOrderRow (db : Database D) (orderID : Int) : Database D :=
  { db with orders := db.orders.erase orderID }

def updateOrderRow (db : Database D) (item buyOrSell quantity : Int) (unitPrice : D)
    (userID orderID : Int) : Database D :=
  { db with
    orders := db.orders.modify orderID
      (fun r => { r with item, buyOrSell, quantity, unitPrice, userID }) (fun _ => rfl) }

def updateBalanceRow (db : Database D) (OMG DOGE BTC ETH userID : Int) : Database D :=
  { db with
    users := db.users.modify userID (fun r => { r with OMG, DOGE, BTC, ETH }) (fun _ => rfl) }

end Database

def Order.age (o : Order D) : Nat :=
  o.createdAt.elim 0 (· + 1)

structure CreatedAtSort (D : Type) where
  sort : List (Order D) → List (Order D)
  perm : ∀ rows, (sort rows).Perm rows
  sorted : ∀ rows, (sort rows).Pairwise (fun a b => a.age ≤ b.age)

def CreatedAtSort.stable (D : Type) : CreatedAtSort D where
  sort := List.insertionSort (fun a b => a.age ≤ b.age)
  perm rows := List.perm_insertionSort _ rows
  sorted rows := by
    have : Std.Total (fun a b : Order D => a.age ≤ b.age) := ⟨fun a b => le_total a.age b.age⟩
    have : IsTrans (Order D) (fun a b => a.age ≤ b.age) := ⟨fun _ _ _ hab hbc => le_trans hab hbc⟩
    exact List.pairwise_insertionSort _ rows

end Marketplace
