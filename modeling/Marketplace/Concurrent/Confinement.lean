import Marketplace.Concurrent.Commands

namespace Marketplace
open CallTree Interleaving KeyedTable RelyGuarantee Runs

variable {D ι : Type} [CDouble D] [DecidableEq ι]

def reached (S : CreatedAtSort D) (db : Database D) (actions : List (ChildAction D ι)) :
    Children D ι :=
  final (Children.step S) actions (Pool.start (.start db))

def Taker.call : Taker → Order D → ClientCall D
  | .buyer, ord => .buy ord
  | .seller, ord => .sell ord

inductive OrderChange (taker : Taker) (ord : Order D) (i : ι) (w : Forked D ι) (id : Int) :
    Option (Order D) → Option (Order D) → Prop
  | same (row : Option (Order D)) : OrderChange taker ord i w id row row
  | posted (r : Order D) (hid : id = w.db.orders.seq + 1) (hitem : r.item = ord.item)
      (hside : r.buyOrSell = ord.buyOrSell) (hprice : r.unitPrice = ord.unitPrice)
      (howner : r.userID = ord.userID)
      (hq : r.quantity = ord.quantity ∨ ∃ m, Opponent taker ord i w m ∧
        0 < r.quantity ∧ r.quantity = ord.quantity - transactionQuantity ord m) :
      OrderChange taker ord i w id none (some r)
  | filled (m r : Order D) (hm : Opponent taker ord i w m) (hid : m.orderID = id)
      (hsame : r.SameIdentity m) (hq : m.quantity ≠ transactionQuantity ord m) :
      OrderChange taker ord i w id (some r)
        (some { r with quantity := m.quantity - transactionQuantity ord m })
  | removed (m r : Order D) (hm : Opponent taker ord i w m) (hid : m.orderID = id)
      (hsame : r.SameIdentity m) (hq : m.quantity = transactionQuantity ord m) :
      OrderChange taker ord i w id (some r) none

structure TradeStep (taker : Taker) (ord : Order D) (i : ι) (w w' : Forked D ι) : Prop where
  orders : ∃ id, OrderChange taker ord i w id (w.db.order id) (w'.db.order id) ∧
    ∀ other ≠ id, w'.db.order other = w.db.order other
  users : ∀ id ≠ ord.userID, (∀ m, Opponent taker ord i w m → m.userID ≠ id) →
    w'.db.user id = w.db.user id
  archives : ∃ rows, w'.db.archives.rows = w.db.archives.rows ++ rows ∧
    ∀ a ∈ rows, ∃ m, Opponent taker ord i w m ∧ (SameTerms a m ∨ SameTerms a ord)

structure CancelStep (orderID currentUserID : Int) (w w' : Forked D ι) : Prop where
  orders : ∀ id, w'.db.order id = w.db.order id ∨
    id = orderID ∧ w'.db.order id = none ∧ ∀ r, w.db.order id = some r → r.userID = currentUserID
  users : ∀ id ≠ currentUserID, w'.db.user id = w.db.user id
  archives : w'.db.archives = w.db.archives

section Steps

variable {taker : Taker} {ord : Order D} {i : ι} {w w' : Forked D ι}

omit [DecidableEq ι] in
theorem tradeStep_of_sameRows (h : w.db.SameRows w'.db) : TradeStep taker ord i w w' where
  orders := by
    refine ⟨0, ?_, fun other _ => h.order other⟩
    rw [h.order]
    exact .same _
  users id _ _ := h.user id
  archives := ⟨[], by rw [h.archives, List.append_nil], nofun⟩

omit [CDouble D] [DecidableEq ι] in
theorem order_place_cases (db : Database D) (r : Order D) (id : Int) :
    (db.place r).order id = db.order id ∨
      id = db.orders.seq + 1 ∧ db.order id = none ∧ (db.place r).order id = some (db.placed r) := by
  by_cases hid : id = db.orders.seq + 1
  · refine .inr ⟨hid, Table.find_fresh db.orders (by omega), ?_⟩
    subst hid
    rw [Database.place, order_insertOrderRow, if_pos rfl]
    rfl
  · refine .inl ?_
    rw [Database.place, order_insertOrderRow, if_neg hid]

omit [DecidableEq ι] in
theorem orderChange_post (ord r : Order D) (hitem : r.item = ord.item)
    (hside : r.buyOrSell = ord.buyOrSell) (hprice : r.unitPrice = ord.unitPrice)
    (howner : r.userID = ord.userID)
    (hq : r.quantity = ord.quantity ∨ ∃ m, Opponent taker ord i w m ∧
      0 < r.quantity ∧ r.quantity = ord.quantity - transactionQuantity ord m) (id : Int) :
    OrderChange taker ord i w id (w.db.order id) ((w.db.place r).order id) := by
  rcases order_place_cases w.db r id with h | ⟨hid, hnone, h⟩
  · rw [h]
    exact .same _
  · rw [hnone, h]
    exact .posted _ hid hitem hside hprice howner hq

omit [DecidableEq ι] in
theorem orderChange_fill {m : Order D} (hm : Opponent taker ord i w m)
    (hq : m.quantity ≠ transactionQuantity ord m) (id : Int) :
    OrderChange taker ord i w id (w.db.order id)
      ((w.db.rewrite (m.reduce (transactionQuantity ord m))).order id) := by
  rw [Database.rewrite, order_updateOrderRow]
  cases hr : w.db.order id with
  | none => exact .same _
  | some r =>
    by_cases hid : id = (m.reduce (transactionQuantity ord m)).orderID
    · have hsame : r.SameIdentity m := hm.recalls.2 r (by rw [← hr, hid]; rfl)
      have hfill := OrderChange.filled m r hm hid.symm hsame hq
      rw [Option.map_some, if_pos hid]
      rwa [hsame.item, hsame.buyOrSell, hsame.unitPrice, hsame.userID] at hfill
    · rw [Option.map_some, if_neg hid]
      exact .same _

omit [DecidableEq ι] in
theorem orderChange_remove {m : Order D} (hm : Opponent taker ord i w m)
    (hq : m.quantity = transactionQuantity ord m) (id : Int) :
    OrderChange taker ord i w id (w.db.order id) ((w.db.deleteOrderRow m.orderID).order id) := by
  rw [order_deleteOrderRow]
  by_cases hid : id = m.orderID
  · rw [if_pos hid]
    cases hr : w.db.order id with
    | none => exact .same _
    | some r => exact .removed m r hm hid.symm (hm.recalls.2 r (by rw [← hr, hid])) hq
  · rw [if_neg hid]
    exact .same _

omit [CDouble D] [DecidableEq ι] in
theorem deed_one_row (d : Deed D) (db : Database D) :
    ∃ id, ∀ other ≠ id, (d.apply db).order other = db.order other := by
  cases d with
  | enrol newUser =>
    refine ⟨0, fun other _ => ?_⟩
    simp only [Deed.apply]
    split <;> rfl
  | pay u => exact ⟨0, fun other _ => rfl⟩
  | post ord =>
    refine ⟨db.orders.seq + 1, fun other hother => ?_⟩
    rcases order_place_cases db ord other with h | ⟨hid, -, -⟩
    · exact h
    · exact absurd hid hother
  | fill ord =>
    refine ⟨ord.orderID, fun other hother => ?_⟩
    simp [Deed.apply, Database.rewrite, order_updateOrderRow, hother]
  | remove orderID =>
    refine ⟨orderID, fun other hother => ?_⟩
    rw [Deed.apply, order_deleteOrderRow, if_neg hother]
  | record ord => exact ⟨0, fun other _ => rfl⟩

omit [DecidableEq ι] in
theorem tradeStep_of_deed {d : Deed D} (hd : TradeDeed taker ord i w d) {db' : Database D}
    (h : (d.apply w.db).SameRows db') : TradeStep taker ord i w { w with db := db' } := by
  obtain ⟨id, hothers⟩ := deed_one_row d w.db
  refine ⟨⟨id, ?_, fun other hother => (h.order other).trans (hothers other hother)⟩,
    fun id hid hopp => ?_, ?_⟩
  · change OrderChange taker ord i w id (w.db.order id) (db'.order id)
    rw [h.order]
    cases hd with
    | payCaller u hu => exact .same _
    | payOpponent m hm u hu => exact .same _
    | post => exact orderChange_post ord ord rfl rfl rfl rfl (.inl rfl) id
    | postRemainder m hm t hq =>
      exact orderChange_post ord (.reduce { ord with createdAt := t } (transactionQuantity ord m))
        rfl rfl rfl rfl (.inr ⟨m, hm, hq, rfl⟩) id
    | fill m hm hq => exact orderChange_fill hm hq id
    | remove m hm hq => exact orderChange_remove hm hq id
    | recordOpponent m hm t => exact .same _
    | record m hm t => exact .same _
  · change db'.user id = w.db.user id
    rw [h.user]
    cases hd with
    | payCaller u hu => exact Database.user_setBalance_other (hu ▸ hid)
    | payOpponent m hm u hu => exact Database.user_setBalance_other (hu ▸ (hopp m hm).symm)
    | _ => rfl
  · change ∃ rows, db'.archives.rows = w.db.archives.rows ++ rows ∧ _
    rw [h.archives]
    cases hd with
    | recordOpponent m hm t =>
      exact ⟨_, rfl, fun a ha => ⟨m, hm, .inl (by
        rw [List.mem_singleton.mp ha]
        exact ⟨rfl, rfl, rfl, rfl, rfl⟩)⟩⟩
    | record m hm t =>
      exact ⟨_, rfl, fun a ha => ⟨m, hm, .inr (by
        rw [List.mem_singleton.mp ha]
        exact ⟨rfl, rfl, rfl, rfl, rfl⟩)⟩⟩
    | _ => exact ⟨[], (List.append_nil _).symm, nofun⟩

omit [DecidableEq ι] in
theorem tradeStep_of_acts (h : Acts (TradeDeed taker ord i) i w w') : TradeStep taker ord i w w' := by
  cases h.does with
  | nothing hrows => exact tradeStep_of_sameRows hrows
  | deed d hK _ hrows =>
    obtain ⟨horders, husers, harchives⟩ := tradeStep_of_deed hK hrows
    exact ⟨horders, husers, harchives⟩

omit [CDouble D] [DecidableEq ι] in
theorem cancelStep_of_acts {orderID currentUserID : Int}
    (h : Acts (CancelDeed orderID currentUserID i) i w w') :
    CancelStep orderID currentUserID w w' := by
  cases h.does with
  | nothing hrows => exact ⟨fun id => .inl (hrows.order id), fun id _ => hrows.user id, hrows.archives⟩
  | deed d hK _ hrows =>
    cases hK with
    | refund m hm u hu =>
      refine ⟨fun id => .inl (hrows.order id), fun id hid => ?_, hrows.archives⟩
      rw [hrows.user]
      exact Database.user_setBalance_other (hu ▸ hid)
    | remove m hm =>
      refine ⟨fun id => ?_, fun id _ => hrows.user id, hrows.archives⟩
      have hrow : w'.db.order id = if id = orderID then none else w.db.order id :=
        (hrows.order id).trans (order_deleteOrderRow orderID id)
      by_cases hid : id = orderID
      · rw [if_pos hid] at hrow
        refine .inr ⟨hid, hrow, fun r hr => ?_⟩
        have hsame := hm.recalls.2 r (by rw [← hr, hid, hm.orderID])
        exact hsame.userID.trans hm.owner
      · rw [if_neg hid] at hrow
        exact .inl hrow

end Steps

theorem contract (S : CreatedAtSort D) (start : ClientCall D → Prop) :
    Contract (attend S) ClientCall.program Forked.disturb start
      (Rely : ι → Forked D ι → Forked D ι → Prop) (fun i o => Acts (o.Conduct i) i) (fun _ o => o.Outcome) where
  refl := .refl
  trans _ _ _ _ h h' := h.trans h'
  env := rely_disturb
  others _ _ _ _ _ hij h := h.rely hij
  meets _ o w _ := program_sound o w

omit [CDouble D] [DecidableEq ι] in
theorem starts_any (a : ChildAction D ι) : Starts (fun _ => True) a := by
  cases a <;> trivial

theorem governed_reached (S : CreatedAtSort D) (db : Database D) {start : ClientCall D → Prop}
    {actions : List (ChildAction D ι)} (hactions : ∀ a ∈ actions, Starts start a) :
    Governed (attend S) start Rely (fun i o => Acts (o.Conduct i) i) (fun _ o => o.Outcome)
      (reached S db actions) :=
  (contract S start).governed_final hactions (governed_start _)

theorem acts_next (S : CreatedAtSort D) (db : Database D) (actions : List (ChildAction D ι)) {i : ι}
    {o : ClientCall D} (hrun : (reached S db actions).running i = some o) :
    Acts (o.Conduct i) i (reached S db actions).sys.world
      (reached S db (actions ++ [.call i])).sys.world := by
  unfold reached
  rw [final_concat]
  exact (governed_reached S db (fun a _ => starts_any a)).call_step .refl (fun i o w => acts_refl _ i w) hrun

theorem trade_confined (S : CreatedAtSort D) (db : Database D) (actions : List (ChildAction D ι))
    (i : ι) (taker : Taker) (ord : Order D)
    (hrun : (reached S db actions).running i = some (taker.call ord)) :
    TradeStep taker ord i (reached S db actions).sys.world
      (reached S db (actions ++ [.call i])).sys.world := by
  have hacts := acts_next S db actions hrun
  cases taker with
  | buyer => exact tradeStep_of_acts hacts
  | seller => exact tradeStep_of_acts hacts

def racingTakers : List (ChildAction ℚ Bool) :=
  [.start false (.buy (createOrder COIN_DOGE BUY 10 1 2)),
    .start true (.buy (createOrder COIN_DOGE BUY 10 1 3))] ++
  List.replicate 11 (.call true) ++ List.replicate 48 (.call false)

theorem trade_confined_racingTakers :
    TradeStep .buyer (createOrder COIN_DOGE BUY 10 1 2) false
      (reached (.stable ℚ) oneOffer racingTakers).sys.world
      (reached (.stable ℚ) oneOffer (racingTakers ++ [.call false])).sys.world :=
  trade_confined (.stable ℚ) oneOffer racingTakers false .buyer _ (by decide +kernel)

theorem cancel_confined (S : CreatedAtSort D) (db : Database D) (actions : List (ChildAction D ι))
    (i : ι) (orderID currentUserID : Int)
    (hrun : (reached S db actions).running i = some (.cancelOrder orderID currentUserID)) :
    CancelStep orderID currentUserID (reached S db actions).sys.world
      (reached S db (actions ++ [.call i])).sys.world :=
  cancelStep_of_acts (acts_next S db actions hrun)

def cancelling : List (ChildAction ℚ Bool) :=
  .start false (.cancelOrder 1 1) :: List.replicate 15 (.call false)

theorem cancel_confined_cancelling :
    CancelStep 1 1 (reached (.stable ℚ) oneOffer cancelling).sys.world
      (reached (.stable ℚ) oneOffer (cancelling ++ [.call false])).sys.world :=
  cancel_confined (.stable ℚ) oneOffer cancelling false 1 1 (by decide +kernel)

end Marketplace
