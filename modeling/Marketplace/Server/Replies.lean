import Marketplace.Failure.Taken
import Marketplace.Server.Requests

namespace Marketplace
open CallTree Runs

structure OrderLine (command : CString) (buffer : CString) : Prop where
  size : (tokenizeLine buffer).size = 4
  command : ((tokenizeLine buffer).get 0).any (fun token => strcasecmp token command = 0) = true
  item : ((tokenizeLine buffer).get 1).any (fun token => (itemCode token).isSome) = true

instance (command buffer : CString) : Decidable (OrderLine command buffer) :=
  decidable_of_iff
    ((tokenizeLine buffer).size = 4 ∧
      ((tokenizeLine buffer).get 0).any (fun token => strcasecmp token command = 0) = true ∧
      ((tokenizeLine buffer).get 1).any (fun token => (itemCode token).isSome) = true)
    ⟨fun ⟨hs, hc, hi⟩ => ⟨hs, hc, hi⟩, fun h => ⟨h.size, h.command, h.item⟩⟩

section Words

theorem strcasecmp_head {s t : CString} {d : Char} (hd : d.toLower.toNat ≠ 0)
    (h : strcasecmp s (d :: t) = 0) : s.head?.map Char.toLower = some d.toLower := by
  cases s with
  | nil =>
    simp only [strcasecmp] at h
    omega
  | cons c s =>
    simp only [strcasecmp] at h
    split at h
    · next heq => exact congrArg some heq
    · next hne =>
      refine absurd (Char.ext (UInt32.toNat_inj.mp ?_)) hne
      have htoNat : c.toLower.toNat = d.toLower.toNat := by omega
      exact htoNat

theorem strcasecmp_exclusive {s t u : CString} {d e : Char} (hd : d.toLower.toNat ≠ 0)
    (he : e.toLower.toNat ≠ 0) (hne : d.toLower ≠ e.toLower) (h : strcasecmp s (d :: t) = 0) :
    strcasecmp s (e :: u) ≠ 0 := by
  intro h'
  have hhead := (strcasecmp_head hd h).symm.trans (strcasecmp_head he h')
  exact hne (Option.some.inj hhead)

end Words

section Echo

variable {userID : Int} {buffer : CString}

theorem echo_command {command : CString} {size : Nat} (hget : (tokenizeLine buffer).get 0 = some command)
    (hsize : (tokenizeLine buffer).size = size + 1) :
    echo userID buffer = dispatch userID (tokenizeLine buffer) command := by
  have hne : ¬ (tokenizeLine buffer).size = 0 := by omega
  simp only [echo, hne, if_false, hget]

theorem echo_buy (h : OrderLine "buy".toList buffer) :
    echo userID buffer = handleBuy userID (tokenizeLine buffer) := by
  obtain ⟨token, hget, hbuy⟩ := (Option.any_eq_true _ _).mp h.command
  have hbuy' : strcasecmp token ['b', 'u', 'y'] = 0 := of_decide_eq_true hbuy
  have hinventory : strcasecmp token "myinventory".toList ≠ 0 :=
    strcasecmp_exclusive (by decide) (by decide) (by decide) hbuy'
  rw [echo_command hget h.size, dispatch, if_neg hinventory, if_pos (of_decide_eq_true hbuy)]

theorem echo_sell (h : OrderLine "sell".toList buffer) :
    echo userID buffer = handleSell userID (tokenizeLine buffer) := by
  obtain ⟨token, hget, hsell⟩ := (Option.any_eq_true _ _).mp h.command
  have hsell' : strcasecmp token ['s', 'e', 'l', 'l'] = 0 := of_decide_eq_true hsell
  have hinventory : strcasecmp token "myinventory".toList ≠ 0 :=
    strcasecmp_exclusive (by decide) (by decide) (by decide) hsell'
  have hbuy : strcasecmp token "buy".toList ≠ 0 :=
    strcasecmp_exclusive (by decide) (by decide) (by decide) hsell'
  rw [echo_command hget h.size, dispatch, if_neg hinventory, if_neg hbuy,
    if_pos (of_decide_eq_true hsell)]

theorem createOrderFromString_some (userID : Int) {command : CString} (h : OrderLine command buffer) :
    ∃ ord, createOrderFromString (tokenizeLine buffer) userID = some (some ord) := by
  obtain ⟨command, item, price, quantity, htokens⟩ :=
    orderTokens_of_size (StringArray.wellFormed_tokenizeLine buffer) h.size
  have hitem := h.item
  rw [htokens.item] at hitem
  obtain ⟨code, hcode⟩ := Option.isSome_iff_exists.mp hitem
  refine ⟨createOrder code (if strcasecmp command "buy".toList = 0 then BUY else SELL)
    (intOfLong (strtol quantity).1) (strtod price).1 userID, ?_⟩
  rw [htokens.created, hcode, Option.map_some]

theorem run_handleOrder_line {W : Type} (h : (c : Call Double) → W → c.Resp × W) (w : W)
    (command : Order Double → SQL Double Int) (refused accepted : String)
    {tokens : StringArray} {ord : Order Double} (hsize : tokens.size = 4)
    (hord : createOrderFromString tokens userID = some (some ord)) :
    (handleOrder command refused accepted userID tokens).run h w =
      (if ((command ord).run h w).1 = -1 then .sent refused else .sent accepted,
        ((command ord).run h w).2) := by
  simp only [handleOrder, validateCommandArgs, hsize, hord]
  by_cases hres : ((command ord).run h w).1 = -1 <;> simp [hres]

end Echo

structure FaultyRequest where
  request : Request
  faults : Nat → Option Int
  codes : ErrorCodes faults

namespace FaultyRequest

def serve (S : CreatedAtSort Double) (e : FaultyRequest) (db : Database Double) : Database Double :=
  match e.request with
  | .register usernameLine nameLine passwordLine =>
    ((registerUser usernameLine nameLine passwordLine).run (faulty S e.faults) (db, 0)).2.1
  | .line userID buffer => ((echo userID buffer).run (faulty S e.faults) (db, 0)).2.1
  | .elapse seconds => db.elapse seconds

def Says (S : CreatedAtSort Double) (f : Nat → Option Int) (db : Database Double) (userID : Int)
    (buffer : CString) (refused accepted : String) : Prop :=
  ∃ ord ∈ (createOrderFromString (tokenizeLine buffer) userID).join,
    ((echo userID buffer).run (faulty S f) (db, 0)).1 =
      if taken db ((echo userID buffer).run (faulty S f) (db, 0)).2.1 = ord.quantity then
        .sent accepted
      else .sent refused

def SaysTrue (S : CreatedAtSort Double) (e : FaultyRequest) (db : Database Double) : Prop :=
  match e.request with
  | .line userID buffer =>
    (OrderLine "buy".toList buffer → Says S e.faults db userID buffer
      "Can't create buy order!\r\n" "Successfully created buy order!\r\n") ∧
    (OrderLine "sell".toList buffer → Says S e.faults db userID buffer
      "Can't create sell order!\r\n" "Successfully created sell order!\r\n")
  | _ => True

def Settles (f : Nat → Option Int) (db : Database Double) (ord : Order Double)
    (refused : User → Bool) (found : Option (Order Double)) : Prop :=
  Honest f db ord refused found ∨ Unhindered f db ord refused found

def SettlesCleanly (S : CreatedAtSort Double) (e : FaultyRequest) (db : Database Double) : Prop :=
  match e.request with
  | .line userID buffer =>
    ∀ ord ∈ (createOrderFromString (tokenizeLine buffer) userID).join,
      (OrderLine "buy".toList buffer → Settles e.faults db ord
        (fun u => CDouble.lt (CDouble.ofInt u.OMG) ord.total) (matchSell S db ord)) ∧
      (OrderLine "sell".toList buffer → Settles e.faults db ord
        (fun u => insufficientHolding u ord) (matchBuy S db ord))
  | _ => True

def Fits (S : CreatedAtSort Double) (e : FaultyRequest) (db : Database Double) : Prop :=
  ∀ op ∈ e.request.op, ∀ p ∈ op.noted, p.Notes (faulty S e.faults) FitsInt (db, 0)

end FaultyRequest

section Truth

variable {S : CreatedAtSort Double} {f : Nat → Option Int} {db : Database Double} {ord : Order Double}
  {userID : Int} {buffer : CString}

theorem settles_truthful {refused : User → Bool} {found : Option (Order Double)}
    {taker : User → Order Double → User} {maker : Order Double → User → User}
    {res : Int × Database Double} (h : TradeFaulty f db ord refused found taker maker res)
    (hs : FaultyRequest.Settles f db ord refused found)
    (hn : ∀ m ∈ found, CDouble.isNaN ord.unitPrice = false) :
    res.1 = -1 ↔ taken db res.2 ≠ ord.quantity := by
  rcases hs with hs | hs
  · exact tradeFaulty_truthful h hs
  · obtain ⟨hres, htaken⟩ := tradeFaulty_unhindered h hs hn
    exact iff_of_false hres (not_not.mpr htaken)

theorem reply_of_truthful {command : Order Double → SQL Double Int} {refused accepted : String}
    {res : Int × Database Double} {n : Nat} (hsize : (tokenizeLine buffer).size = 4)
    (hord : createOrderFromString (tokenizeLine buffer) userID = some (some ord))
    (hecho : echo userID buffer = handleOrder command refused accepted userID (tokenizeLine buffer))
    (hrun : (command ord).run (faulty S f) (db, 0) = (res.1, (res.2, n)))
    (htrue : res.1 = -1 ↔ taken db res.2 ≠ ord.quantity) :
    FaultyRequest.Says S f db userID buffer refused accepted := by
  refine ⟨ord, by simp [hord], ?_⟩
  rw [hecho, run_handleOrder_line _ _ _ _ _ hsize hord, hrun]
  by_cases htaken : taken db res.2 = ord.quantity
  · have hres : res.1 ≠ -1 := fun h => htrue.mp h htaken
    simp [htaken, hres]
  · have hres : res.1 = -1 := htrue.mpr htaken
    simp [htaken, hres]

theorem saysTrue_of_settlesCleanly (e : FaultyRequest) (h : e.SettlesCleanly S db) :
    e.SaysTrue S db := by
  obtain ⟨request, f, hf⟩ := e
  cases request with
  | register usernameLine nameLine passwordLine => trivial
  | elapse seconds => trivial
  | line userID buffer =>
    refine ⟨fun hline => ?_, fun hline => ?_⟩
    · obtain ⟨ord, hord⟩ := createOrderFromString_some userID hline
      have hsettles := (h ord (by simp [hord])).1 hline
      obtain ⟨res, n, hrun, hres⟩ := buy_faulty S hf db ord
      refine reply_of_truthful hline.size hord (echo_buy hline) hrun ?_
      exact settles_truthful hres hsettles
        (fun m hm => (answersSell_iff.mp (matchSell_some hm).2).2.2.1)
    · obtain ⟨ord, hord⟩ := createOrderFromString_some userID hline
      have hsettles := (h ord (by simp [hord])).2 hline
      obtain ⟨res, n, hrun, hres⟩ := sell_faulty S hf db ord
      refine reply_of_truthful hline.size hord (echo_sell hline) hrun ?_
      exact settles_truthful hres hsettles
        (fun m hm => (answersBuy_iff.mp (matchBuy_some hm).2).2.2.1)

end Truth

section Decisions

variable (S : CreatedAtSort Double) (e : FaultyRequest) (db : Database Double)

instance (f : Nat → Option Int) (ord : Order Double) (refused : User → Bool)
    (found : Option (Order Double)) : Decidable (FaultyRequest.Settles f db ord refused found) := by
  unfold FaultyRequest.Settles Honest Unhindered
  infer_instance

instance : Decidable (e.SettlesCleanly S db) := by
  unfold FaultyRequest.SettlesCleanly
  split <;> infer_instance

instance : Decidable (e.Fits S db) :=
  inferInstanceAs (Decidable (∀ op ∈ e.request.op, ∀ p ∈ op.noted,
    p.Notes (faulty S e.faults) FitsInt (db, 0)))

instance (f : Nat → Option Int) (userID : Int) (buffer : CString) (refused accepted : String) :
    Decidable (FaultyRequest.Says S f db userID buffer refused accepted) := by
  unfold FaultyRequest.Says
  infer_instance

instance : Decidable (e.SaysTrue S db) := by
  unfold FaultyRequest.SaysTrue
  split <;> infer_instance

end Decisions

def failing (k : Nat) (request : Request) : FaultyRequest where
  request := request
  faults n := if n = k then some 5 else none
  codes n code hcode := by
    dsimp only at hcode
    split at hcode
    · cases hcode
      decide
    · cases hcode

def undisturbed (request : Request) : FaultyRequest where
  request := request
  faults _ := none
  codes n code hcode := by cases hcode

def busyMarket : List FaultyRequest :=
  [undisturbed (.register "a\r\n".toList "A\r\n".toList "p\r\n".toList),
    undisturbed (.register "b\r\n".toList "B\r\n".toList "p\r\n".toList),
    undisturbed (.line 1 "sell doge 2 10\r\n".toList), failing 20 (.line 2 "buy doge 2 4\r\n".toList),
    undisturbed (.line 2 "BUY doge 3 15\r\n".toList)]

def sellOMG : List FaultyRequest :=
  [undisturbed (.register "a\r\n".toList "A\r\n".toList "p\r\n".toList),
    undisturbed (.line 1 "sell omg 1 1\r\n".toList)]

end Marketplace
