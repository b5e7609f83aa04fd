import Marketplace.Server.Requests
import Marketplace.Server.StringHeap

namespace Marketplace.StringHeap
open Separation

inductive ArrayOp where
  | add (string : Line) (size : Nat)
  | resize (capacity : Nat)
deriving DecidableEq, Repr

namespace ArrayOp

def perform (A : Allocator Block) (array : Nat) : ArrayOp → Mem Block PUnit
  | .add string size => addString A array string.chars size
  | .resize capacity => StringHeap.resize A array capacity

def apply (a : StringArray) : ArrayOp → StringArray
  | .add string size => Marketplace.addString a string.chars size
  | .resize capacity => Marketplace.resize a capacity

theorem wellFormed_apply {a : StringArray} (h : a.WellFormed) (op : ArrayOp) :
    (apply a op).WellFormed := by
  cases op with
  | add string size => exact h.addString _ _
  | resize capacity => exact wellFormed_resize h capacity

theorem triple_perform (A : Allocator Block) (array : Nat) {a : StringArray} (h : a.WellFormed)
    (op : ArrayOp) : Triple (Held array a) (op.perform A array) (fun _ => Held array (apply a op)) := by
  cases op with
  | add string size => exact triple_addString h string.terminated size
  | resize capacity => exact triple_resize capacity

end ArrayOp

def build (A : Allocator Block) (capacity : Nat) (ops : List ArrayOp) : Mem Block Nat := do
  let array ← makeStringArray A capacity
  ops.forM (ArrayOp.perform A array)
  return array

def built (capacity : Nat) (ops : List ArrayOp) : StringArray :=
  ops.foldl ArrayOp.apply (Marketplace.makeStringArray capacity)

structure Represents (array : Nat) (a : StringArray) (h : Heap Block) : Prop where
  size : getSize array h = some (a.size, h)
  capacity : getCapacity array h = some (a.capacity, h)
  strings : ∀ i s, i < a.size → a.get i = some s → getString array i h = some (s, h)
  sentinel : getSlot array a.size h = some (.null, h)

section Build

variable {A : Allocator Block} {array : Nat} {a : StringArray}

theorem triple_build (A : Allocator Block) (capacity : Nat) (ops : List ArrayOp) :
    Triple 1 (build A capacity ops) (fun array => Held array (built capacity ops)) := by
  apply triple_bind (triple_makeStringArray A capacity)
  intro array
  have hstep (a : StringArray) (op : ArrayOp) (h : a.WellFormed) :=
    ArrayOp.triple_perform A array h op
  have hformed (a : StringArray) (op : ArrayOp) (h : a.WellFormed) := ArrayOp.wellFormed_apply h op
  apply triple_seq (triple_forM hformed hstep ops (StringArray.wellFormed_makeStringArray capacity))
  exact triple_pure fun _ hl => hl

theorem wellFormed_built (capacity : Nat) (ops : List ArrayOp) :
    (built capacity ops).WellFormed := by
  induction ops using List.reverseRecOn with
  | nil => exact StringArray.wellFormed_makeStringArray capacity
  | append_singleton ops op ih =>
    rw [built, List.foldl_append]
    exact ArrayOp.wellFormed_apply ih op

theorem strings_of_get {i : Nat} {s : CString} (h : a.get i = some s) :
    a.strings[i]? = some (.string s) := by
  rw [StringArray.get] at h
  split at h
  · next hslot =>
    cases h
    exact hslot
  · cases h

theorem represents_of_held {l r : Heap Block} (hd : l.Disjoint r) (hl : Held array a l) :
    Represents array a (l ∪ r) := by
  refine ⟨reads_size l r hd hl, reads_capacity l r hd hl, fun i s hi hs => ?_, reads_sentinel l r hd hl⟩
  exact reads_string hi (strings_of_get hs) l r hd hl

theorem string_array_refines (A : Allocator Block) (capacity : Nat) (ops : List ArrayOp)
    (h : Heap Block) :
    ∃ array l, build A capacity ops h = some (array, l ∪ h) ∧ l.Disjoint h ∧
      (built capacity ops).WellFormed ∧ Represents array (built capacity ops) (l ∪ h) ∧
      freeStringArray array (l ∪ h) = some ((), h) := by
  obtain ⟨array, l, hrun, hd, hl⟩ := run_of_triple (triple_build A capacity ops) (h := h) rfl
  refine ⟨array, l, hrun, hd, wellFormed_built capacity ops, represents_of_held hd hl, ?_⟩
  obtain ⟨_, l', hfree, -, rfl⟩ := triple_freeStringArray l h hd hl
  rwa [Finmap.empty_union] at hfree

end Build

section Dispatcher

variable (A : Allocator Block) (S : CreatedAtSort Double)

def createOrderFromString (params : Nat) (userID : Int) : Mem Block Pointer := do
  let newOrder ← malloc A (.order none)
  let (unitPrice, _) := strtod (← getString params 2)
  match itemCode (← getString params 1) with
  | none => return .null
  | some item =>
    let buyOrSell := if strcasecmp (← getString params 0) "buy".toList = 0 then BUY else SELL
    let (quantity, _) := strtol (← getString params 3)
    store newOrder (.order (some (createOrder item buyOrSell (intOfLong quantity) unitPrice userID)))
    return .to newOrder

def handleOrder (command : Order Double → SQL Double Int) (refused accepted : String) (userID : Int)
    (commandTokens : Nat) (db : Database Double) : Mem Block (Reply × Database Double) := do
  if (← getSize commandTokens) = 4 then
    let newOrder ← createOrderFromString A commandTokens userID
    let ord ← check (← load (← check newOrder.target)).fields
    let (result, db) := (command ord).run (perform S) db
    return (.sent (if result = -1 then refused else accepted), db)
  else
    return (.sent invalidArgs, db)

def handleBuy : Int → Nat → Database Double → Mem Block (Reply × Database Double) :=
  handleOrder A S buy "Can't create buy order!\r\n" "Successfully created buy order!\r\n"

def handleSell : Int → Nat → Database Double → Mem Block (Reply × Database Double) :=
  handleOrder A S sell "Can't create sell order!\r\n" "Successfully created sell order!\r\n"

def handleCancelOrder (userID : Int) (commandTokens : Nat) (db : Database Double) :
    Mem Block (Reply × Database Double) := do
  if (← getSize commandTokens) = 2 then
    let (orderID, endptr) := strtol (← getString commandTokens 1)
    if endptr ≠ [] then
      return (.sent "Invalid order ID format!\r\n", db)
    let (result, db) := (cancelOrder (intOfLong orderID) userID).run (perform S) db
    return (.sent (if result ≠ 0 then "Failed to cancel order!\r\n"
      else "Successfully cancelled order!\r\n"), db)
  else
    return (.sent invalidArgs, db)

def handleView (commandTokens : Nat) (db : Database Double) : Mem Block (Reply × Database Double) := do
  if (← getSize commandTokens) = 2 then
    match itemCode (← getString commandTokens 1) with
    | none => return (.sent "Invalid item type\r\n", db)
    | some _ => return (.listed, db)
  else
    return (.sent invalidArgs, db)

def dispatch (userID : Int) (commandTokens : Nat) (command : CString) (db : Database Double) :
    Mem Block (Reply × Database Double) :=
  if strcasecmp command "myinventory".toList = 0 then
    return (handleMyInventory userID).run (perform S) db
  else if strcasecmp command "buy".toList = 0 then handleBuy A S userID commandTokens db
  else if strcasecmp command "sell".toList = 0 then handleSell A S userID commandTokens db
  else if strcasecmp command "myorders".toList = 0 then return (.listed, db)
  else if strcasecmp command "cancelorder".toList = 0 then handleCancelOrder S userID commandTokens db
  else if strcasecmp command "view".toList = 0 then handleView commandTokens db
  else if strcasecmp command "help".toList = 0 then return (.sent helpText, db)
  else return (.sent "Invalid syntax! Try help. \r\n", db)

def handleTokens (userID : Int) (commandTokens : Nat) (db : Database Double) :
    Mem Block (Reply × Database Double) := do
  if (← getSize commandTokens) = 0 then
    return (.sent "Invalid syntax!\r\n", db)
  else
    dispatch A S userID commandTokens (← getString commandTokens 0) db

-- what a handler's queries allocate and nothing frees: texts out of their rows, an empty listing
def leave : List Block → Mem Block Unit
  | [] => return ()
  | block :: blocks => do
    let _ ← malloc A block
    leave blocks

def echoLine (userID : Int) (line : Line) (left : List Block) (db : Database Double) :
    Mem Block (Reply × Database Double) := do
  let buffer ← malloc A (.chars (line.chars.map some ++ [some NUL]))
  let text ← check (cString (← check (← load buffer).cells))
  let commandTokens ← tokenizeLine A text
  let reply ← handleTokens A S userID commandTokens db
  leave A left
  free buffer
  freeStringArray commandTokens
  return reply

def echoLines (userID : Int) : List (Line × List Block) → Database Double →
    Mem Block (List Reply × Database Double)
  | [], db => return ([], db)
  | (line, left) :: lines, db => do
    let (reply, db) ← echoLine A S userID line left db
    let (replies, db) ← echoLines userID lines db
    return (reply :: replies, db)

end Dispatcher

def answered (r : Reply × Database Double) : Option (Reply × Database Double) :=
  if r.1 = .crashed then none else some r

def answers (S : CreatedAtSort Double) (userID : Int) :
    List Line → Database Double → Option (List Reply × Database Double)
  | [], db => some ([], db)
  | line :: lines, db => do
    let (reply, db) ← answered ((echo userID line.chars).run (perform S) db)
    let (replies, db) ← answers S userID lines db
    return (reply :: replies, db)

def orderBlocks (commandTokens : StringArray) (command : CString) : Nat :=
  if strcasecmp command "myinventory".toList = 0 then 0
  else if strcasecmp command "buy".toList = 0 ∨ strcasecmp command "sell".toList = 0 then
    if commandTokens.size = 4 then 1 else 0
  else 0

def ownBlocks (line : Line) (left : List Block) : Nat :=
  let commandTokens := Marketplace.tokenizeLine line.chars
  (commandTokens.get 0).elim 0 (orderBlocks commandTokens) + left.length

section Dispatcher

variable {A : Allocator Block} {S : CreatedAtSort Double} {array : Nat} {a : StringArray}
  {userID : Int} {db : Database Double}

theorem reads_token {i : Nat} {s : CString} (hi : i < a.size) (hs : a.get i = some s) :
    Reads (Held array a) (getString array i) s :=
  reads_string hi (strings_of_get hs)

theorem yields_answer {P : Assert Block} (r : Reply × Database Double) (hr : r.1 ≠ .crashed) :
    Yields P (pure r) (answered r) (P * Blocks 0) := by
  rw [answered, if_neg hr]
  exact yields_pure (beside_blocks_zero P)

section Order

variable {side coin price quantity : CString} (hsize : a.size = 4) (hside : a.get 0 = some side)
  (hcoin : a.get 1 = some coin) (hprice : a.get 2 = some price) (hquantity : a.get 3 = some quantity)

include hside hcoin hprice hquantity in
theorem createOrderFromString_tokens : Marketplace.createOrderFromString a userID =
    some ((itemCode coin).map fun item => createOrder item
      (if strcasecmp side "buy".toList = 0 then BUY else SELL) (intOfLong (strtol quantity).1)
      (strtod price).1 userID) := by
  unfold Marketplace.createOrderFromString
  rw [hside, hcoin, hprice, hquantity]
  cases hitem : itemCode coin <;> simp [hitem]

include hsize hcoin hprice

theorem yields_createOrderFromString_null (hitem : itemCode coin = none) :
    Yields (Held array a) (createOrderFromString A array userID) (some .null)
      (Held array a * Blocks 1) := by
  apply yields_triple (triple_malloc_beside A _ _)
  intro newOrder
  apply yields_reads (reads_frame _ (reads_token (by omega) hprice))
  apply yields_reads (reads_frame _ (reads_token (by omega) hcoin))
  rw [hitem]
  exact yields_pure (beside_mono (blocks_of_points newOrder _))

include hside hquantity

theorem triple_createOrderFromString {ord : Order Double}
    (hord : Marketplace.createOrderFromString a userID = some (some ord)) :
    Triple (Held array a) (createOrderFromString A array userID) (fun p l => ∃ newOrder,
      p = .to newOrder ∧ (Held array a * points newOrder (Block.order (some ord))) l) := by
  rw [createOrderFromString_tokens hside hcoin hprice hquantity] at hord
  obtain ⟨item, hitem, rfl⟩ := Option.map_eq_some_iff.mp (Option.some.inj hord)
  apply triple_bind (triple_malloc_beside A _ _)
  intro newOrder
  apply triple_reads (reads_frame _ (reads_token (by omega) hprice))
  apply triple_reads (reads_frame _ (reads_token (by omega) hcoin))
  rw [hitem]
  apply triple_reads (reads_frame _ (reads_token (by omega) hside))
  apply triple_reads (reads_frame _ (reads_token (by omega) hquantity))
  apply triple_seq (triple_frame_left _ (triple_store _ _ _))
  exact triple_pure fun l hl => ⟨newOrder, rfl, hl⟩

end Order

theorem exists_tokens (h : a.WellFormed) (hsize : a.size = 4) :
    ∃ side coin price quantity, a.get 0 = some side ∧ a.get 1 = some coin ∧ a.get 2 = some price ∧
      a.get 3 = some quantity := by
  obtain ⟨side, hside⟩ := Option.isSome_iff_exists.mp (h.filled 0 (by omega))
  obtain ⟨coin, hcoin⟩ := Option.isSome_iff_exists.mp (h.filled 1 (by omega))
  obtain ⟨price, hprice⟩ := Option.isSome_iff_exists.mp (h.filled 2 (by omega))
  obtain ⟨quantity, hquantity⟩ := Option.isSome_iff_exists.mp (h.filled 3 (by omega))
  exact ⟨side, coin, price, quantity, hside, hcoin, hprice, hquantity⟩

theorem answered_handleOrder (hsize : a.size = 4) {ord : Order Double}
    (hord : Marketplace.createOrderFromString a userID = some (some ord))
    (command : Order Double → SQL Double Int) (refused accepted : String) :
    answered ((Marketplace.handleOrder command refused accepted userID a).run (perform S) db) =
      some (.sent (if ((command ord).run (perform S) db).1 = -1 then refused else accepted),
        ((command ord).run (perform S) db).2) := by
  by_cases hres : ((command ord).run (perform S) db).1 = -1 <;>
    simp [Marketplace.handleOrder, validateCommandArgs, hsize, hord, answered, hres]

theorem yields_handleOrder (h : a.WellFormed) (command : Order Double → SQL Double Int)
    (refused accepted : String) :
    Yields (Held array a) (handleOrder A S command refused accepted userID array db)
      (answered ((Marketplace.handleOrder command refused accepted userID a).run (perform S) db))
      (Held array a * Blocks (if a.size = 4 then 1 else 0)) := by
  apply yields_reads reads_size
  by_cases hsize : a.size = 4
  · rw [if_pos hsize, if_pos hsize]
    obtain ⟨side, coin, price, quantity, hside, hcoin, hprice, hquantity⟩ := exists_tokens h hsize
    have htokens : Marketplace.createOrderFromString a userID = _ :=
      createOrderFromString_tokens hside hcoin hprice hquantity
    cases hitem : itemCode coin with
    | none =>
      rw [hitem] at htokens
      have hcrash : answered ((Marketplace.handleOrder command refused accepted userID a).run
          (perform S) db) = none := by
        simp [Marketplace.handleOrder, validateCommandArgs, hsize, htokens, answered]
      rw [hcrash]
      apply yields_seq (yields_createOrderFromString_null hsize hcoin hprice hitem)
      -- buy and sell read the order through the null pointer
      exact yields_stop fails_check
    | some item =>
      rw [hitem] at htokens
      rw [answered_handleOrder hsize htokens]
      apply yields_triple (triple_createOrderFromString hsize hside hcoin hprice hquantity htokens)
      intro p
      apply yields_exists
      intro newOrder
      apply yields_and
      rintro rfl
      apply yields_reads (reads_check rfl)
      apply yields_reads (reads_frame_left _ (reads_load _ _))
      apply yields_reads (reads_check rfl)
      exact yields_pure (beside_mono (blocks_of_points newOrder _))
  · rw [if_neg hsize, if_neg hsize]
    have hrefused : Marketplace.handleOrder command refused accepted userID a =
        pure (.sent invalidArgs) := by
      simp [Marketplace.handleOrder, validateCommandArgs, hsize]
    rw [hrefused]
    exact yields_answer _ (by simp)

theorem yields_handleCancelOrder (h : a.WellFormed) :
    Yields (Held array a) (handleCancelOrder S userID array db)
      (answered ((Marketplace.handleCancelOrder userID a).run (perform S) db))
      (Held array a * Blocks 0) := by
  apply yields_reads reads_size
  by_cases hsize : a.size = 2
  · rw [if_pos hsize]
    obtain ⟨orderID, hid⟩ := Option.isSome_iff_exists.mp (h.filled 1 (by omega))
    apply yields_reads (reads_token (by omega) hid)
    cases hnumber : strtol orderID with
    | mk n endptr =>
      by_cases hend : endptr = []
      · have hreply : (Marketplace.handleCancelOrder userID a).run (perform S) db =
            (.sent (if ((cancelOrder (intOfLong n) userID).run (perform S) db).1 ≠ 0 then
              "Failed to cancel order!\r\n" else "Successfully cancelled order!\r\n"),
              ((cancelOrder (intOfLong n) userID).run (perform S) db).2) := by
          by_cases hres : ((cancelOrder (intOfLong n) userID).run (perform S) db).1 = 0 <;>
            simp [Marketplace.handleCancelOrder, validateCommandArgs, hsize, hid, hnumber, hend, hres]
        rw [hreply, hend]
        exact yields_answer _ (by simp)
      · have hreply : (Marketplace.handleCancelOrder userID a).run (perform S) db =
            (.sent "Invalid order ID format!\r\n", db) := by
          simp [Marketplace.handleCancelOrder, validateCommandArgs, hsize, hid, hnumber, hend]
        rw [hreply]
        simp only [hend, ne_eq, not_false_eq_true, if_true]
        exact yields_answer _ (by simp)
  · rw [if_neg hsize]
    have hrefused : Marketplace.handleCancelOrder userID a = pure (.sent invalidArgs) := by
      simp [Marketplace.handleCancelOrder, validateCommandArgs, hsize]
    rw [hrefused]
    exact yields_answer _ (by simp)

theorem yields_handleView (h : a.WellFormed) :
    Yields (Held array a) (handleView array db)
      (answered ((Marketplace.handleView a).run (perform S) db)) (Held array a * Blocks 0) := by
  apply yields_reads reads_size
  by_cases hsize : a.size = 2
  · rw [if_pos hsize]
    obtain ⟨coin, hcoin⟩ := Option.isSome_iff_exists.mp (h.filled 1 (by omega))
    apply yields_reads (reads_token (by omega) hcoin)
    cases hitem : itemCode coin with
    | none =>
      have hreply : Marketplace.handleView a = pure (.sent "Invalid item type\r\n") := by
        simp [Marketplace.handleView, validateCommandArgs, hsize, hcoin, hitem]
      rw [hreply]
      exact yields_answer _ (by simp)
    | some item =>
      have hreply : Marketplace.handleView a = pure .listed := by
        simp [Marketplace.handleView, validateCommandArgs, hsize, hcoin, hitem]
      rw [hreply]
      exact yields_answer _ (by simp)
  · rw [if_neg hsize]
    have hrefused : Marketplace.handleView a = pure (.sent invalidArgs) := by
      simp [Marketplace.handleView, validateCommandArgs, hsize]
    rw [hrefused]
    exact yields_answer _ (by simp)

theorem yields_dispatch (h : a.WellFormed) (command : CString) :
    Yields (Held array a) (dispatch A S userID array command db)
      (answered ((Marketplace.dispatch userID a command).run (perform S) db))
      (Held array a * Blocks (orderBlocks a command)) := by
  unfold dispatch Marketplace.dispatch orderBlocks
  by_cases hinventory : strcasecmp command "myinventory".toList = 0
  · rw [if_pos hinventory, if_pos hinventory, if_pos hinventory]
    exact yields_answer _ (handleMyInventory_replies S db userID)
  rw [if_neg hinventory, if_neg hinventory, if_neg hinventory]
  by_cases hbuy : strcasecmp command "buy".toList = 0
  · rw [if_pos hbuy, if_pos hbuy, if_pos (.inl hbuy)]
    exact yields_handleOrder h buy _ _
  rw [if_neg hbuy, if_neg hbuy]
  by_cases hsell : strcasecmp command "sell".toList = 0
  · rw [if_pos hsell, if_pos hsell, if_pos (.inr hsell)]
    exact yields_handleOrder h sell _ _
  rw [if_neg hsell, if_neg hsell, if_neg (not_or.mpr ⟨hbuy, hsell⟩)]
  split
  · exact yields_answer _ (by simp)
  split
  · exact yields_handleCancelOrder h
  split
  · exact yields_handleView h
  split <;> exact yields_answer _ (by simp)

theorem yields_handleTokens (buffer : CString) :
    Yields (Held array (Marketplace.tokenizeLine buffer)) (handleTokens A S userID array db)
      (answered ((echo userID buffer).run (perform S) db))
      (Held array (Marketplace.tokenizeLine buffer) * Blocks
        (((Marketplace.tokenizeLine buffer).get 0).elim 0
          (orderBlocks (Marketplace.tokenizeLine buffer)))) := by
  have hformed := StringArray.wellFormed_tokenizeLine buffer
  unfold echo
  apply yields_reads reads_size
  by_cases hsize : (Marketplace.tokenizeLine buffer).size = 0
  · have hnone : (Marketplace.tokenizeLine buffer).get 0 = none := by
      rw [StringArray.get, ← hsize, hformed.sentinel]
    simp only [hsize, if_true, hnone, Option.elim_none]
    exact yields_answer _ (by simp)
  · obtain ⟨command, hcommand⟩ :=
      Option.isSome_iff_exists.mp (hformed.filled 0 (Nat.pos_of_ne_zero hsize))
    simp only [hsize, if_false, hcommand, Option.elim_some]
    apply yields_reads (reads_token (Nat.pos_of_ne_zero hsize) hcommand)
    exact yields_dispatch hformed command

theorem triple_leave (A : Allocator Block) (blocks : List Block) :
    Triple 1 (leave A blocks) (fun _ => Blocks blocks.length) := by
  induction blocks with
  | nil =>
    refine triple_pure ?_
    rintro l rfl
    rfl
  | cons block blocks ih =>
    apply triple_bind (triple_malloc A block)
    intro address
    have hrest := triple_frame (points address block) ih
    rw [one_mul] at hrest
    refine triple_consequence hrest (fun _ hl => hl) (fun _ l hl => ?_)
    exact blocks_mul _ _ l (beside_mono (blocks_of_points address block) l hl)

theorem yields_echoLine (line : Line) (left : List Block) :
    Yields 1 (echoLine A S userID line left db)
      (answered ((echo userID line.chars).run (perform S) db)) (Blocks (ownBlocks line left)) := by
  have htext : cString (line.chars.map some ++ [some NUL]) = some line.chars :=
    cString_prefix line.terminated []
  apply yields_triple (triple_malloc A _)
  intro buffer
  apply yields_reads (reads_load _ _)
  apply yields_reads (reads_check rfl)
  apply yields_reads (reads_check htext)
  have htokens := triple_frame (points buffer (.chars (line.chars.map some ++ [some NUL])))
    (triple_tokenizeLine A line.terminated)
  rw [one_mul] at htokens
  apply yields_triple htokens
  intro commandTokens
  have hcommand : Yields _ (handleTokens A S userID commandTokens db) _ _ :=
    yields_handleTokens line.chars
  have hhandled := yields_frame (points buffer (.chars (line.chars.map some ++ [some NUL]))) hcommand
  cases hreply : answered ((echo userID line.chars).run (perform S) db) with
  | none =>
    rw [hreply] at hhandled
    exact yields_stop hhandled
  | some reply =>
    rw [hreply] at hhandled
    apply yields_seq hhandled
    have hleft := triple_frame_left (Held commandTokens (Marketplace.tokenizeLine line.chars) *
      Blocks (((Marketplace.tokenizeLine line.chars).get 0).elim 0
        (orderBlocks (Marketplace.tokenizeLine line.chars))) *
      points buffer (.chars (line.chars.map some ++ [some NUL]))) (triple_leave A left)
    rw [mul_one] at hleft
    refine triple_seq hleft ?_
    rw [mul_right_comm]
    apply triple_seq (triple_frame_left _ (triple_free _ _))
    rw [mul_one, mul_assoc]
    apply triple_seq (triple_frame _ triple_freeStringArray)
    rw [one_mul]
    exact triple_pure fun l hl => ⟨rfl, blocks_mul _ _ l hl⟩

theorem yields_echoLines (lines : List (Line × List Block)) (db : Database Double) :
    Yields 1 (echoLines A S userID lines db) (answers S userID (lines.map Prod.fst) db)
      (Blocks (lines.map fun line => ownBlocks line.1 line.2).sum) := by
  induction lines generalizing db with
  | nil =>
    refine yields_pure ?_
    rintro l rfl
    rfl
  | cons line lines ih =>
    obtain ⟨line, left⟩ := line
    have hline : Yields 1 (echoLine A S userID line left db) _ _ := yields_echoLine line left
    rw [List.map_cons, answers]
    cases hreply : answered ((echo userID line.chars).run (perform S) db) with
    | none =>
      rw [hreply] at hline
      exact yields_stop hline
    | some reply =>
      rw [hreply] at hline
      apply yields_seq hline
      have hrest := yields_frame (Blocks (ownBlocks line left)) (ih reply.2)
      rw [one_mul] at hrest
      cases hreplies : answers S userID (lines.map Prod.fst) reply.2 with
      | none =>
        rw [hreplies] at hrest
        simp only [hreplies, Option.bind_eq_bind, Option.bind_some, Option.bind_none]
        exact yields_stop hrest
      | some replies =>
        rw [hreplies] at hrest
        simp only [hreplies, Option.bind_eq_bind, Option.bind_some]
        apply yields_seq hrest
        refine yields_pure (fun l hl => ?_)
        rw [List.map_cons, List.sum_cons, Nat.add_comm]
        exact blocks_mul _ _ l hl

theorem echo_lines_refine (A : Allocator Block) (S : CreatedAtSort Double) (userID : Int)
    (lines : List (Line × List Block)) (db : Database Double) (h : Heap Block) :
    match answers S userID (lines.map Prod.fst) db with
    | none => echoLines A S userID lines db h = none
    | some replies => ∃ l, echoLines A S userID lines db h = some (replies, l ∪ h) ∧ l.Disjoint h ∧
        l.keys.card = (lines.map fun line => ownBlocks line.1 line.2).sum := by
  have hlines : Yields 1 (echoLines A S userID lines db) _ _ := yields_echoLines lines db
  cases hreplies : answers S userID (lines.map Prod.fst) db with
  | none =>
    rw [hreplies] at hlines
    have hrun := hlines ∅ h (Finmap.disjoint_empty h) rfl
    rwa [Finmap.empty_union] at hrun
  | some replies =>
    rw [hreplies] at hlines
    obtain ⟨_, l, hrun, hd, rfl, hl⟩ := run_of_triple hlines (h := h) rfl
    exact ⟨l, hrun, hd, hl⟩

end Dispatcher

end Marketplace.StringHeap
