import Marketplace.Command.Trading
import Marketplace.Server.Tokens

namespace Marketplace
open CallTree

inductive Reply where
  | sent (text : String)
  | listed
  | crashed
deriving DecidableEq, Repr

def itemCode (token : CString) : Option Int :=
  if strcasecmp token "omg".toList = 0 then some COIN_OMG
  else if strcasecmp token "doge".toList = 0 then some COIN_DOGE
  else if strcasecmp token "btc".toList = 0 then some COIN_BTC
  else if strcasecmp token "eth".toList = 0 then some COIN_ETH
  else none

def createOrderFromString (params : StringArray) (userID : Int) : Option (Option (Order Double)) := do
  let (unitPrice, _) := strtod (← params.get 2)
  match itemCode (← params.get 1) with
  | none => return none
  | some item =>
    let buyOrSell := if strcasecmp (← params.get 0) "buy".toList = 0 then BUY else SELL
    let (quantity, _) := strtol (← params.get 3)
    return some (createOrder item buyOrSell (intOfLong quantity) unitPrice userID)

def invalidArgs : String := "Invalid command syntax! Try help."

def validateCommandArgs (commandTokens : StringArray) (expectedCount : Nat) : Bool :=
  commandTokens.size == expectedCount

def handleOrder (command : Order Double → SQL Double Int) (refused accepted : String) (userID : Int)
    (commandTokens : StringArray) : SQL Double Reply := do
  if validateCommandArgs commandTokens 4 then
    match createOrderFromString commandTokens userID with
    | some (some ord) =>
      if (← command ord) = -1 then
        return .sent refused
      return .sent accepted
    | _ => return .crashed
  else
    return .sent invalidArgs

def handleBuy : Int → StringArray → SQL Double Reply :=
  handleOrder buy "Can't create buy order!\r\n" "Successfully created buy order!\r\n"

def handleSell : Int → StringArray → SQL Double Reply :=
  handleOrder sell "Can't create sell order!\r\n" "Successfully created sell order!\r\n"

def handleCancelOrder (userID : Int) (commandTokens : StringArray) : SQL Double Reply := do
  if validateCommandArgs commandTokens 2 then
    match (commandTokens.get 1).map strtol with
    | none => return .crashed
    | some (orderID, endptr) =>
      if endptr ≠ [] then
        return .sent "Invalid order ID format!\r\n"
      if (← cancelOrder (intOfLong orderID) userID) ≠ 0 then
        return .sent "Failed to cancel order!\r\n"
      return .sent "Successfully cancelled order!\r\n"
  else
    return .sent invalidArgs

def handleMyInventory (userID : Int) : SQL Double Reply := do
  match ← getUserInventories userID with
  | .error _ => return .sent "Error retrieving inventory!\r\n"
  | .ok (OMG, DOGE, BTC, ETH) =>
    return .sent ("Your current inventory:\r\n" ++ "OMG: " ++ toString OMG ++ "\r\n" ++
      "DOGE: " ++ toString DOGE ++ "\r\n" ++ "ETH: " ++ toString ETH ++ "\r\n" ++
      "BTC: " ++ toString BTC ++ "\r\n")

def handleView (commandTokens : StringArray) : SQL Double Reply :=
  if validateCommandArgs commandTokens 2 then
    if commandTokens.size ≠ 2 then return .sent "Invalid command syntax! Usage: view <coin>\r\n"
    else
      match (commandTokens.get 1).map itemCode with
      | none => return .crashed
      | some none => return .sent "Invalid item type\r\n"
      | some (some _) => return .listed
  else
    return .sent invalidArgs

def helpText : String :=
  "Available commands:\r\n" ++
  "myInventory\r\nLists the inventory for the current user.\r\n\r\n" ++
  "buy <item> <price> <quantity>\r\nPosts a buy order.\r\n" ++
  "item: The name of the commodity to buy.\r\n" ++
  "price: The unit price the client is willing to buy at.\r\n" ++
  "quantity: The number of commodities to buy.\r\n\r\n" ++
  "sell <item> <price> <quantity>\r\nPosts a sell order.\r\n" ++
  "item: The name of the commodity to sell.\r\n" ++
  "price: The unit price the client is willing to sell at.\r\n" ++
  "quantity: The number of commodities to sell.\r\n\r\n" ++
  "myOrders\r\nLists all active buy/sell orders submitted by the current user.\r\n" ++
  "Returns the IDs of all active orders.\r\n\r\n" ++
  "cancelOrder <orderID>\r\nCancels a buy/sell order.\r\n" ++
  "orderID: The ID of the order to cancel.\r\n\r\n" ++
  "view <item>\r\nViews the top 5 buy/sell orders for a specific item.\r\n" ++
  "item: The name of the item to check.\r\n\r\n"

def dispatch (userID : Int) (commandTokens : StringArray) (command : CString) : SQL Double Reply :=
  if strcasecmp command "myinventory".toList = 0 then handleMyInventory userID
  else if strcasecmp command "buy".toList = 0 then handleBuy userID commandTokens
  else if strcasecmp command "sell".toList = 0 then handleSell userID commandTokens
  else if strcasecmp command "myorders".toList = 0 then return .listed
  else if strcasecmp command "cancelorder".toList = 0 then handleCancelOrder userID commandTokens
  else if strcasecmp command "view".toList = 0 then handleView commandTokens
  else if strcasecmp command "help".toList = 0 then return .sent helpText
  else return .sent "Invalid syntax! Try help. \r\n"

def echo (userID : Int) (buffer : CString) : SQL Double Reply :=
  let commandTokens := tokenizeLine buffer
  if commandTokens.size = 0 then return .sent "Invalid syntax!\r\n"
  else
    match commandTokens.get 0 with
    | none => return .crashed
    | some command => dispatch userID commandTokens command

def stripLineEnd (line : CString) : CString :=
  if line.getLast? = some '\n' ∧ 2 ≤ line.length then line.take (line.length - 2) else line

def registerUser (usernameLine nameLine passwordLine : CString) : SQL Double Int := do
  let user : User :=
    { userID := 0
      username := stripLineEnd usernameLine
      password := stripLineEnd passwordLine
      name := stripLineEnd nameLine
      OMG := DEFAULT_OMG
      DOGE := DEFAULT_DOGE
      BTC := DEFAULT_BTC
      ETH := DEFAULT_ETH }
  match ← insertUser user with
  | .error _ => return -1
  | .ok userID => return userID

end Marketplace
