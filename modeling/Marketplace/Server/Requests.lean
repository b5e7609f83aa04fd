import Marketplace.Market.IntResults
import Marketplace.Server.Handlers

namespace Marketplace
open CallTree

inductive Request where
  | register (usernameLine nameLine passwordLine : CString)
  | line (userID : Int) (buffer : CString)
  | elapse (seconds : Nat)

def Request.serve (S : CreatedAtSort Double) : Request → Database Double → Database Double
  | .register usernameLine nameLine passwordLine, db =>
    ((registerUser usernameLine nameLine passwordLine).run (perform S) db).2
  | .line userID buffer, db => ((echo userID buffer).run (perform S) db).2
  | .elapse seconds, db => db.elapse seconds

def parsedOrder (commandTokens : StringArray) (userID : Int) : Option (Order Double) :=
  if commandTokens.size = 4 then (createOrderFromString commandTokens userID).join else none

def parsedOrderID (commandTokens : StringArray) : Option Int :=
  if commandTokens.size = 2 then
    (((commandTokens.get 1).map strtol).filter (fun p => p.2 = [])).map (fun p => intOfLong p.1)
  else none

def parseLine (userID : Int) (buffer : CString) : Option (Op Double) :=
  let commandTokens := tokenizeLine buffer
  (commandTokens.get 0).bind fun command =>
    if strcasecmp command "myinventory".toList = 0 then none
    else if strcasecmp command "buy".toList = 0 then (parsedOrder commandTokens userID).map .buy
    else if strcasecmp command "sell".toList = 0 then (parsedOrder commandTokens userID).map .sell
    else if strcasecmp command "myorders".toList = 0 then none
    else if strcasecmp command "cancelorder".toList = 0 then
      (parsedOrderID commandTokens).map (.cancelOrder · userID)
    else none

def Request.op : Request → Option (Op Double)
  | .register usernameLine nameLine passwordLine =>
    some (.register (newUser (stripLineEnd usernameLine) (stripLineEnd passwordLine)
      (stripLineEnd nameLine)))
  | .line userID buffer => parseLine userID buffer
  | .elapse seconds => some (.elapse seconds)

def Request.Fits (S : CreatedAtSort Double) (request : Request) (db : Database Double) : Prop :=
  ∀ op ∈ request.op, op.Fits S db

instance (S : CreatedAtSort Double) (request : Request) (db : Database Double) :
    Decidable (request.Fits S db) :=
  inferInstanceAs (Decidable (∀ op ∈ request.op, op.Fits S db))

def perhaps (S : CreatedAtSort Double) (op : Option (Op Double)) (db : Database Double) :
    Database Double :=
  op.elim db (fun op => apply S op db)

section Serve

variable (S : CreatedAtSort Double) (db : Database Double) (userID : Int) (tokens : StringArray)

theorem run_handleMyInventory : ((handleMyInventory userID).run (perform S) db).2 = db := by
  cases hu : db.user userID <;>
    simp [handleMyInventory, getUserInventories, SQLITE_OK, firstRow, hu]

theorem handleMyInventory_replies :
    ((handleMyInventory userID).run (perform S) db).1 ≠ .crashed := by
  unfold handleMyInventory
  rw [Prog.run_bind]
  split <;> exact Reply.noConfusion

theorem run_handleView : ((handleView tokens).run (perform S) db).2 = db := by
  unfold handleView
  split
  · split
    · rfl
    · split <;> rfl
  · rfl

theorem run_handleOrder (command : Order Double → SQL Double Int) (refused accepted : String) :
    ((handleOrder command refused accepted userID tokens).run (perform S) db).2 =
      (parsedOrder tokens userID).elim db (fun ord => ((command ord).run (perform S) db).2) := by
  by_cases hsize : tokens.size = 4
  · rw [parsedOrder, if_pos hsize]
    rcases hord : createOrderFromString tokens userID with - | - | ord
    · simp [handleOrder, validateCommandArgs, hsize, hord]
    · simp [handleOrder, validateCommandArgs, hsize, hord]
    · by_cases hres : ((command ord).run (perform S) db).1 = -1 <;>
        simp [handleOrder, validateCommandArgs, hsize, hord, hres]
  · simp [handleOrder, validateCommandArgs, parsedOrder, hsize]

theorem run_handleCancelOrder :
    ((handleCancelOrder userID tokens).run (perform S) db).2 =
      (parsedOrderID tokens).elim db
        (fun orderID => ((cancelOrder orderID userID).run (perform S) db).2) := by
  by_cases hsize : tokens.size = 2
  · rw [parsedOrderID, if_pos hsize]
    rcases hparse : (tokens.get 1).map strtol with - | ⟨orderID, endptr⟩
    · simp [handleCancelOrder, validateCommandArgs, hsize, hparse]
    · by_cases hend : endptr = []
      · by_cases hres : ((cancelOrder (intOfLong orderID) userID).run (perform S) db).1 = 0 <;>
          simp [handleCancelOrder, validateCommandArgs, hsize, hparse, hend, hres, Option.filter]
      · simp [handleCancelOrder, validateCommandArgs, hsize, hparse, hend, Option.filter]
  · simp [handleCancelOrder, validateCommandArgs, parsedOrderID, hsize]

theorem run_dispatch (buffer : CString) :
    ((echo userID buffer).run (perform S) db).2 = perhaps S (parseLine userID buffer) db := by
  unfold echo parseLine
  simp only
  split
  · next hsize =>
    have hget : (tokenizeLine buffer).get 0 = none := by
      have hnull := (StringArray.wellFormed_tokenizeLine buffer).sentinel
      rw [hsize] at hnull
      rw [StringArray.get, hnull]
    rw [hget]
    rfl
  · cases (tokenizeLine buffer).get 0 with
    | none => rfl
    | some command =>
      simp only [Option.bind_some, dispatch]
      split_ifs
      · exact run_handleMyInventory S db userID
      · rw [handleBuy, run_handleOrder, perhaps, Option.elim_map]
        rfl
      · rw [handleSell, run_handleOrder, perhaps, Option.elim_map]
        rfl
      · rfl
      · rw [run_handleCancelOrder, perhaps, Option.elim_map]
        rfl
      · exact run_handleView S db _
      · rfl
      · rfl

theorem serve_eq (r : Request) : r.serve S db = perhaps S r.op db := by
  cases r with
  | register usernameLine nameLine passwordLine =>
    simp only [Request.serve, registerUser, Prog.run_bind]
    cases h : ((insertUser _).run (perform S) db).1 <;> rfl
  | line userID buffer => exact run_dispatch S db userID buffer
  | elapse seconds => rfl

end Serve

structure Parsed (userID buyOrSell : Int) (ord : Order Double) : Prop where
  owner : ord.userID = userID
  side : ord.buyOrSell = buyOrSell
  item : ord.item ∈ [COIN_OMG, COIN_DOGE, COIN_BTC, COIN_ETH]
  quantity : Int32 ord.quantity

inductive ParsedOp (userID : Int) : Op Double → Prop
  | buy (ord : Order Double) (h : Parsed userID BUY ord) : ParsedOp userID (.buy ord)
  | sell (ord : Order Double) (h : Parsed userID SELL ord) : ParsedOp userID (.sell ord)
  | cancelOrder (orderID : Int) : ParsedOp userID (.cancelOrder orderID userID)

theorem ParsedOp.quantity {userID : Int} {op : Op Double} {ord : Order Double}
    (h : ParsedOp userID op) (hord : op.order = some ord) : Int32 ord.quantity := by
  cases h with
  | buy _ h =>
    cases hord
    exact h.quantity
  | sell _ h =>
    cases hord
    exact h.quantity
  | cancelOrder orderID => cases hord

theorem itemCode_mem {token : CString} {item : Int} (h : itemCode token = some item) :
    item ∈ [COIN_OMG, COIN_DOGE, COIN_BTC, COIN_ETH] := by
  unfold itemCode at h
  split_ifs at h <;> cases h <;> decide

theorem intOfLong_int32 (n : Int) : Int32 (intOfLong n) := by
  have hlow : -2147483648 ≤ intOfLong n := Int.le_bmod (by decide)
  have hhigh : intOfLong n < 2147483648 := Int.bmod_lt (by decide)
  unfold Int32 INT_MIN INT_MAX
  omega

structure OrderTokens (tokens : StringArray) (command item price quantity : CString) : Prop where
  command : tokens.get 0 = some command
  item : tokens.get 1 = some item
  price : tokens.get 2 = some price
  quantity : tokens.get 3 = some quantity

section Orders

variable {tokens : StringArray} {userID : Int} {ord : Order Double}
  {command item price quantity : CString}

theorem orderTokens_of_size (hformed : tokens.WellFormed) (hsize : tokens.size = 4) :
    ∃ command item price quantity, OrderTokens tokens command item price quantity := by
  have hfilled := hformed.filled
  rw [hsize] at hfilled
  obtain ⟨command, h0⟩ := Option.isSome_iff_exists.mp (hfilled 0 (by decide))
  obtain ⟨item, h1⟩ := Option.isSome_iff_exists.mp (hfilled 1 (by decide))
  obtain ⟨price, h2⟩ := Option.isSome_iff_exists.mp (hfilled 2 (by decide))
  obtain ⟨quantity, h3⟩ := Option.isSome_iff_exists.mp (hfilled 3 (by decide))
  exact ⟨command, item, price, quantity, h0, h1, h2, h3⟩

theorem OrderTokens.created (h : OrderTokens tokens command item price quantity) (userID : Int) :
    createOrderFromString tokens userID = some ((itemCode item).map fun code =>
      createOrder code (if strcasecmp command "buy".toList = 0 then BUY else SELL)
        (intOfLong (strtol quantity).1) (strtod price).1 userID) := by
  simp only [createOrderFromString, Option.bind_eq_bind, h.command, h.item, h.price, h.quantity,
    Option.bind_some]
  cases itemCode item <;> rfl

theorem parsedOrder_some (h : parsedOrder tokens userID = some ord) :
    ∃ command item price quantity code, OrderTokens tokens command item price quantity ∧
      itemCode item = some code ∧
      createOrder code (if strcasecmp command "buy".toList = 0 then BUY else SELL)
        (intOfLong (strtol quantity).1) (strtod price).1 userID = ord := by
  unfold parsedOrder at h
  split_ifs at h
  have hjoin := Option.join_eq_some_iff.mp h
  simp only [createOrderFromString, Option.bind_eq_bind, Option.bind_eq_some_iff] at hjoin
  obtain ⟨price, hprice, item, hitem, hrest⟩ := hjoin
  cases hcode : itemCode item with
  | none => simp [hcode] at hrest
  | some code =>
    simp only [hcode, Option.bind_eq_some_iff] at hrest
    obtain ⟨command, hcommand, quantity, hquantity, hord⟩ := hrest
    exact ⟨command, item, price, quantity, code, ⟨hcommand, hitem, hprice, hquantity⟩, hcode,
      Option.some.inj (Option.some.inj hord)⟩

theorem parsedOrder_spec (hcommand : tokens.get 0 = some command)
    (h : parsedOrder tokens userID = some ord) :
    Parsed userID (if strcasecmp command "buy".toList = 0 then BUY else SELL) ord := by
  obtain ⟨command', item, price, quantity, code, htokens, hcode, rfl⟩ := parsedOrder_some h
  obtain rfl := Option.some.inj (hcommand.symm.trans htokens.command)
  exact ⟨rfl, rfl, itemCode_mem hcode, intOfLong_int32 _⟩

end Orders

theorem parseLine_spec {userID : Int} {buffer : CString} {op : Op Double}
    (h : parseLine userID buffer = some op) : ParsedOp userID op := by
  unfold parseLine at h
  obtain ⟨command, hcommand, h⟩ := Option.bind_eq_some_iff.mp h
  split_ifs at h with hinv hbuy hsell horders hcancel
  · obtain ⟨ord, hord, rfl⟩ := Option.map_eq_some_iff.mp h
    have hspec := parsedOrder_spec hcommand hord
    rw [if_pos hbuy] at hspec
    exact .buy ord hspec
  · obtain ⟨ord, hord, rfl⟩ := Option.map_eq_some_iff.mp h
    have hspec := parsedOrder_spec hcommand hord
    rw [if_neg hbuy] at hspec
    exact .sell ord hspec
  · obtain ⟨orderID, -, rfl⟩ := Option.map_eq_some_iff.mp h
    exact .cancelOrder orderID

end Marketplace
