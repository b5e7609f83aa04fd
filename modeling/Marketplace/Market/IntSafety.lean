import Marketplace.Market.IntFills
import Marketplace.Market.Priority

namespace Marketplace
open CallTree KeyedTable Truncation Rounding

variable {S : CreatedAtSort Double} {db : Database Double} {ord m r : Order Double}
  {u v taker maker : User}

section Tables

theorem rows_length_setBalance (db : Database Double) (u : User) :
    (db.setBalance u).users.rows.length = db.users.rows.length := by
  simp [Database.setBalance, Database.updateBalanceRow, Table.modify]

theorem rows_length_fill (db : Database Double) (ord m : Order Double) (taker maker : User) :
    (db.fill ord m taker maker).users.rows.length = db.users.rows.length := by
  rw [users_fill, rows_length_setBalance, rows_length_setBalance]

theorem mem_users_fill {w : User} (hf : Fillable db ord m u v) (ht : taker.SameAccount u)
    (hm : maker.SameAccount v) (hw : w ∈ (db.fill ord m taker maker).users.rows) :
    w = maker ∨ w = taker ∨ (w ∈ db.users.rows ∧ w.userID ≠ m.userID) := by
  rw [users_fill] at hw
  rcases (Database.mem_users_setBalance (hf.maker_unmoved ht) hm).mp hw with heq | ⟨hw, hne⟩
  · exact .inl heq
  · rcases (Database.mem_users_setBalance hf.taker ht).mp hw with heq | ⟨hw, -⟩
    · exact .inr (.inl heq)
    · exact .inr (.inr ⟨hw, hne⟩)

end Tables

namespace WithinInt

variable (h : WithinInt db)
include h

theorem posted (hu : db.user ord.userID = some u) (hord : PayableRow ord)
    (hi : insufficientBalance u ord = false) :
    WithinInt ((db.place ord).setBalance (withholdBalance u ord)) := by
  have hu' : (db.place ord).user ord.userID = some u := hu
  have hsame := withholdBalance_sameAccount u ord
  have hplaced : PayableRow (db.placed ord) := ⟨⟨hord.quantity, hord.price⟩, hord.side, hord.cost⟩
  have hbal (c : Coin) := balance_withholdBalance hi c
  have hside := withheld_or_le hi (hord.side.imp_right And.left)
  refine ⟨fun r hr => ?_, fun c => ?_, fun w hw c => ?_, ?_⟩
  · rcases (Database.mem_orders_place db ord).mp hr with hr | rfl
    · exact h.rows r hr
    · exact hplaced
  · have hgranted := h.granted c
    have hnonneg := hord.withheld_nonneg c
    have hrow : withheld c (db.placed ord) = withheld c ord := rfl
    rw [Database.total_users_setBalance (held c) hu' hsame, rows_length_setBalance,
      Database.orders_setBalance, Database.total_orders_place, Database.users_place, hrow]
    simp only [held, hbal] at hgranted ⊢
    rcases hside c with hzero | hle <;> omega
  · rw [Database.orders_setBalance, Database.total_orders_place]
    rcases (Database.mem_users_setBalance hu' hsame).mp hw with rfl | ⟨hw, hne⟩
    · have howner : (withholdBalance u ord).userID = u.userID := hsame.1
      have hrow : withheldOf u.userID c (db.placed ord) = withheld c ord :=
        if_pos (Database.user_userID hu).symm
      have howed := h.owed u (Database.user_mem hu) c
      have hheld := h.held_le (Database.user_mem hu) c
      have hown := h.withheldOf_total_le u.userID c
      rw [howner, hrow]
      -- what is withheld was held: either nothing is, or the balance stays non-negative
      simp only [Marketplace.owed, held, hbal] at howed hheld ⊢
      rcases hside c with hzero | hle <;> omega
    · have hrow : withheldOf w.userID c (db.placed ord) = 0 := if_neg (fun heq => hne heq.symm)
      rw [hrow, add_zero]
      exact h.owed w hw c
  · rw [rows_length_setBalance]
    exact h.users

theorem filled (hf : Fillable db ord m u v) (ht : taker.SameAccount u) (hm : maker.SameAccount v)
    (hb : FillBounds u v taker maker m (m.reduce (transactionQuantity ord m)))
    (hrow : PayableRow (m.reduce (transactionQuantity ord m))) :
    WithinInt (db.fill ord m taker maker) := by
  have hmrow := h.rows m (Database.order_mem hf.row)
  have htotal (c : Coin) : (db.fill ord m taker maker).orders.total (withheld c) =
      db.orders.total (withheld c) - withheld c m +
        withheld c (m.reduce (transactionQuantity ord m)) :=
    hf.total_orders_reduce (fun hq => withheld_exhausted_row hmrow hq c)
  have hown (id : Int) (c : Coin) : (db.fill ord m taker maker).orders.total (withheldOf id c) =
      db.orders.total (withheldOf id c) - withheldOf id c m +
        withheldOf id c (m.reduce (transactionQuantity ord m)) := by
    refine hf.total_orders_reduce (fun hq => ?_)
    rw [withheldOf, withheld_exhausted_row hmrow hq, ite_self]
  have hother {id : Int} (hne : m.userID ≠ id) (c : Coin) :
      (db.fill ord m taker maker).orders.total (withheldOf id c) = db.orders.total (withheldOf id c) := by
    have hne' : ¬ (m.reduce (transactionQuantity ord m)).userID = id := hne
    rw [hown, withheldOf, withheldOf, if_neg hne, if_neg hne']
    omega
  refine ⟨fun r hr => ?_, fun c => ?_, fun w hw c => ?_, ?_⟩
  · rcases (mem_orders_fill hf.row).mp hr with ⟨hr, -⟩ | ⟨-, rfl⟩
    · exact h.rows r hr
    · exact hrow
  · have hgranted := h.granted c
    have hheld := hb.held c
    rw [hf.total_users (held c) ht hm, htotal, rows_length_fill]
    omega
  · rcases mem_users_fill hf ht hm hw with rfl | rfl | ⟨hw, hne⟩
    · have hid : w.userID = m.userID := hm.1.trans (Database.user_userID hf.maker)
      have howed := h.owed v (Database.user_mem hf.maker) c
      have hmaker := hb.maker c
      have hrowID : (m.reduce (transactionQuantity ord m)).userID = m.userID := rfl
      rw [Database.user_userID hf.maker] at howed
      rw [hid, hown, withheldOf, withheldOf, if_pos rfl, if_pos hrowID]
      omega
    · have hid : w.userID = ord.userID := ht.1.trans (Database.user_userID hf.taker)
      have howed := h.owed u (Database.user_mem hf.taker) c
      have htaker := hb.taker c
      rw [Database.user_userID hf.taker] at howed
      rw [hid, hother hf.other]
      omega
    · rw [hother (fun heq => hne heq.symm)]
      exact h.owed w hw c
  · rw [rows_length_fill]
    exact h.users

theorem refund_room (hr : r ∈ db.orders.rows) (hu : u ∈ db.users.rows) (c : Coin) :
    held c u + withheld c r ≤ INT_MAX := by
  have hheld := h.held_le hu c
  have hwithheld : withheld c r ≤ db.orders.total (withheld c) :=
    Table.le_total (fun r hr => (h.rows r hr).withheld_nonneg c) hr
  omega

theorem refund (hr : r ∈ db.orders.rows) (hu : u ∈ db.users.rows) (hclear : RefundClear u r) :
    RefundFits u r ∧ ∀ c, u.balance c ≤ (refundBalance u r).balance c ∧
      held c (refundBalance u r) ≤ held c u + withheld c r :=
  refund_bounds (h.rows r hr) (h.fits hu) hclear (h.refund_room hr hu)

theorem refunded {orderID : Int} (hr : db.order orderID = some r) (hu : db.user r.userID = some u)
    (hclear : RefundClear u r) :
    WithinInt ((db.setBalance (refundBalance u r)).deleteOrderRow orderID) := by
  have hrow := h.rows r (Database.order_mem hr)
  obtain ⟨-, hbounds⟩ := h.refund (Database.order_mem hr) (Database.user_mem hu) hclear
  have hsame := refundBalance_sameAccount u r
  have herase (f : Order Double → Int) :
      ((db.setBalance (refundBalance u r)).deleteOrderRow orderID).orders.total f =
        db.orders.total f - f r := Table.total_erase db.orders f hr
  refine ⟨fun s hs => h.rows s (Table.mem_erase.mp hs).1, fun c => ?_, fun w hw c => ?_, ?_⟩
  · have hgranted := h.granted c
    have hheld := (hbounds c).2
    rw [herase, Database.users_deleteOrderRow, Database.total_users_setBalance (held c) hu hsame,
      rows_length_setBalance]
    omega
  · rw [herase]
    have hnonneg := withheldOf_nonneg hrow w.userID c
    rcases (Database.mem_users_setBalance hu hsame).mp hw with rfl | ⟨hw, hne⟩
    · have howner : (refundBalance u r).userID = u.userID := hsame.1
      have howed := h.owed u (Database.user_mem hu) c
      have hle := owed_anti (hbounds c).1
      rw [howner] at hnonneg ⊢
      omega
    · have howed := h.owed w hw c
      omega
  · rw [Database.users_deleteOrderRow, rows_length_setBalance]
    exact h.users

theorem registered (username password name : CString)
    (hroom : (db.users.rows.length + 1) * DEFAULT_OMG ≤ INT_MAX) :
    WithinInt (db.addUser (newUser username password name)) := by
  have hlength : (db.addUser (newUser username password name)).users.rows.length =
      db.users.rows.length + 1 := by
    simp [Database.addUser, Database.insertUserRow]
  have hgrant (c : Coin) : User.balance
      { newUser username password name with userID := db.users.seq + 1 } c = c.grant := by
    cases c <;> rfl
  have hpos (c : Coin) : 0 ≤ c.grant := by cases c <;> decide
  refine ⟨h.rows, fun c => ?_, fun w hw c => ?_, ?_⟩
  · have hgranted := h.granted c
    have htotal : (db.addUser (newUser username password name)).users.total (held c) =
        db.users.total (held c) + held c
          { newUser username password name with userID := db.users.seq + 1 } := Table.total_insert _ _
    have hheld := hpos c
    rw [htotal, held, hgrant, Database.orders_addUser, hlength, Nat.cast_add, Nat.cast_one, add_mul,
      one_mul]
    omega
  · rw [Database.orders_addUser]
    rcases Database.mem_users_addUser.mp hw with hw | rfl
    · exact h.owed w hw c
    · have htotal := h.total_le c
      have hheld : 0 ≤ db.users.total (held c) := Table.total_nonneg (fun u _ => held_nonneg c u)
      have hown := h.withheldOf_total_le (db.users.seq + 1) c
      have hzero := hpos c
      rw [Marketplace.owed, hgrant]
      change max (-c.grant) 0 + db.orders.total (withheldOf (db.users.seq + 1) c) ≤ INT_MAX
      omega
  · rw [hlength]
    exact_mod_cast hroom

end WithinInt

def Op.SellsClear (S : CreatedAtSort Double) : Op Double → Database Double → Prop
  | .sell ord, db => ∀ u ∈ db.user ord.userID, insufficientHolding u ord = false →
      ∀ m ∈ matchBuy S db ord, ∀ v ∈ db.user m.userID, SellClear u v ord m
  | _, _ => True

def Op.RefundsClear : Op Double → Database Double → Prop
  | .cancelOrder orderID currentUserID, db => ∀ r ∈ db.order orderID, r.userID = currentUserID →
      ∀ u ∈ db.user currentUserID, RefundClear u r
  | _, _ => True

instance (u v : User) (ord m : Order Double) : Decidable (SellClear u v ord m) :=
  inferInstanceAs (Decidable (∀ x ∈ (transactionCost ord m).value, _))

instance (u : User) (r : Order Double) : Decidable (RefundClear u r) :=
  inferInstanceAs (Decidable (_ → ∀ x ∈ r.total.value, _))

instance decidableSellsClear (S : CreatedAtSort Double) :
    ∀ (op : Op Double) (db : Database Double), Decidable (op.SellsClear S db)
  | .sell ord, db =>
    inferInstanceAs (Decidable (∀ u ∈ db.user ord.userID, _ → ∀ m ∈ _, ∀ v ∈ db.user _, _))
  | .cancelOrder _ _, _ => inferInstanceAs (Decidable True)
  | .register _, _ => inferInstanceAs (Decidable True)
  | .buy _, _ => inferInstanceAs (Decidable True)
  | .elapse _, _ => inferInstanceAs (Decidable True)

instance decidableRefundsClear :
    ∀ (op : Op Double) (db : Database Double), Decidable (op.RefundsClear db)
  | .cancelOrder orderID _, db =>
    inferInstanceAs (Decidable (∀ r ∈ db.order orderID, _ → ∀ u ∈ _, RefundClear u r))
  | .sell _, _ => inferInstanceAs (Decidable True)
  | .register _, _ => inferInstanceAs (Decidable True)
  | .buy _, _ => inferInstanceAs (Decidable True)
  | .elapse _, _ => inferInstanceAs (Decidable True)

section Operations

theorem WithinInt.user_fits (h : WithinInt db) {id : Int} (hu : db.user id = some u) : u.FitsInt :=
  h.fits (Database.user_mem hu)

theorem WithinInt.buyFill (h : WithinInt db) (ho : Payable ord) (hside : ord.buyOrSell = BUY)
    (hl : CDouble.lt (CDouble.ofInt u.OMG) ord.total = false) (hm : matchSell S db ord = some m)
    (hf : Fillable db ord m u v) :
    FillBounds u v (buyTaker u ord m) (buyMaker ord m v) m (m.reduce (transactionQuantity ord m)) ∧
      BuyFillFits db ord m u v := by
  obtain ⟨hmem, hans⟩ := matchSell_some hm
  obtain ⟨hitem, hs, -, hp, -⟩ := answersSell_iff.mp hans
  exact buyFill_fits ho (h.rows m hmem) hs hside hitem (h.user_fits hf.taker) (h.user_fits hf.maker)
    hp hl (h.headroom hf.taker hmem hf.maker hf.other)

theorem WithinInt.sellFill (h : WithinInt db) (ho : Payable ord) (hside : ord.buyOrSell = SELL)
    (hl : insufficientHolding u ord = false) (hm : matchBuy S db ord = some m)
    (hf : Fillable db ord m u v) (hclear : SellClear u v ord m) :
    FillBounds u v (sellTaker u ord m) (sellMaker ord m v) m (m.reduce (transactionQuantity ord m)) ∧
      SellFillFits db ord m u v := by
  obtain ⟨hmem, hans⟩ := matchBuy_some hm
  obtain ⟨hitem, hb, -⟩ := answersBuy_iff.mp hans
  exact sellFill_fits ho (h.rows m hmem) hb hside hitem (h.user_fits hf.taker) (h.user_fits hf.maker)
    (fun c hc => quantity_le_holding hl hc) hclear (h.headroom hf.taker hmem hf.maker hf.other)

theorem WithinInt.settled {res : Int × Database Double} (h : WithinInt db)
    (hf : Fillable db ord m u v) (ht : taker.SameAccount u) (hmaker : maker.SameAccount v)
    (hb : FillBounds u v taker maker m (m.reduce (transactionQuantity ord m))) (ho : Payable ord)
    (hside : ord.buyOrSell = BUY ∨ ord.buyOrSell = SELL)
    (hcost : ord.buyOrSell = BUY → ∃ x : ℚ, ord.total.value = some x ∧ x ≤ INT_MAX)
    (hset : SettleOutcome db ord m taker maker res) : WithinInt res.2 := by
  have hm := h.rows m (Database.order_mem hf.row)
  have hfilled := h.filled hf ht hmaker hb (hm.reduce ho)
  cases hset with
  | complete hq => exact hfilled
  | refused hq hi => exact hfilled
  | rested hq hi =>
    have hu : (db.fill ord m taker maker).user (remainder db ord m).userID = some taker :=
      hf.user_taker ht hmaker
    have hside' : (remainder db ord m).buyOrSell = BUY ∨ (remainder db ord m).buyOrSell = SELL := hside
    refine hfilled.posted hu (payableRow_of_accepted (ho.remainder hm.toPayable) hi hside' ?_) hi
    intro hbuy
    obtain ⟨x, hvalue, hx⟩ := hcost hbuy
    exact remainder_total ho hm.toPayable hvalue hx

theorem WithinInt.inserted {res : Int × Database Double} (h : WithinInt db)
    (hu : db.user ord.userID = some u) (ho : Payable ord)
    (hside : ord.buyOrSell = BUY ∨ ord.buyOrSell = SELL)
    (hcost : ord.buyOrSell = BUY → ∃ x : ℚ, ord.total.value = some x ∧ x ≤ INT_MAX)
    (hins : InsertOutcome db u ord res) : WithinInt res.2 := by
  cases hins with
  | refused hi => exact h
  | notNull hi hn => exact h
  | rested hi hn => exact h.posted hu (payableRow_of_accepted ho hi hside hcost) hi

theorem funded_buy (hu : db.user ord.userID = some u)
    (hl : CDouble.lt (CDouble.ofInt u.OMG) ord.total = false) : (Op.buy ord).funded db = true := by
  simp only [Op.funded, hu, hl, Option.any_some, Bool.not_false]

theorem funded_sell (hu : db.user ord.userID = some u) (hl : insufficientHolding u ord = false) :
    (Op.sell ord).funded db = true := by
  simp only [Op.funded, hu, hl, Option.any_some, Bool.not_false]

theorem WithinInt.funded_cost (h : WithinInt db) (ho : Payable ord) {id : Int}
    (hu : db.user id = some u) (hl : CDouble.lt (CDouble.ofInt u.OMG) ord.total = false) :
    ∃ x : ℚ, ord.total.value = some x ∧ x ≤ INT_MAX := by
  obtain ⟨x, -, hx, hvalue⟩ := funded_total ho (h.user_fits hu .omg) hl
  exact ⟨x, hvalue, int_le_max (h.user_fits hu .omg) hx⟩

theorem sell_cost_free {P : Prop} (hside : ord.buyOrSell = SELL) (hb : ord.buyOrSell = BUY) : P := by
  rw [hside] at hb
  cases hb

theorem WithinInt.bought (h : WithinInt db) (ho : (Op.buy ord).funded db = true → Payable ord)
    (hside : ord.buyOrSell = BUY) : WithinInt (apply S (.buy ord) db) := by
  obtain ⟨res, hout, hres⟩ := buy_applied S ord db
  rw [hres]
  cases hout with
  | unknownUser hu => exact h
  | refused u hu hl => exact h
  | unmatched u hu hl hm res hins =>
    have hpay := ho (funded_buy hu hl)
    exact h.inserted hu hpay (.inl hside) (fun _ => h.funded_cost hpay hu hl) hins
  | unfillable u m hu hl hm hv => exact h
  | matched u v m hl hm hf res hset =>
    have hpay := ho (funded_buy hf.taker hl)
    exact h.settled hf (buyTaker_sameAccount u ord m) (buyMaker_sameAccount ord m v)
      (h.buyFill hpay hside hl hm hf).1 hpay (.inl hside) (fun _ => h.funded_cost hpay hf.taker hl) hset

theorem WithinInt.sold (h : WithinInt db) (ho : (Op.sell ord).funded db = true → Payable ord)
    (hside : ord.buyOrSell = SELL) (hclear : (Op.sell ord).SellsClear S db) :
    WithinInt (apply S (.sell ord) db) := by
  obtain ⟨res, hout, hres⟩ := sell_applied S ord db
  rw [hres]
  cases hout with
  | unknownUser hu => exact h
  | refused u hu hl => exact h
  | unmatched u hu hl hm res hins =>
    exact h.inserted hu (ho (funded_sell hu hl)) (.inr hside) (sell_cost_free hside) hins
  | unfillable u m hu hl hm hv => exact h
  | matched u v m hl hm hf res hset =>
    have hpay := ho (funded_sell hf.taker hl)
    exact h.settled hf (sellTaker_sameAccount u ord m) (sellMaker_sameAccount ord m v)
      (h.sellFill hpay hside hl hm hf (hclear u hf.taker hl m hm v hf.maker)).1 hpay (.inr hside)
      (sell_cost_free hside) hset

theorem WithinInt.cancelled (h : WithinInt db) (orderID currentUserID : Int)
    (hclear : (Op.cancelOrder orderID currentUserID).RefundsClear db) :
    WithinInt (apply S (.cancelOrder orderID currentUserID) db) := by
  obtain ⟨res, hout, hres⟩ := cancelOrder_applied S orderID currentUserID db
  rw [hres]
  cases hout with
  | unknownOrder hr => exact h
  | unauthorized r hr hown => exact h
  | unknownUser r hr hown hu => exact h
  | cancelled r u hr hown hu => exact h.refunded hr (hown ▸ hu) (hclear r hr hown u hu)

theorem WithinInt.buy_fits (h : WithinInt db) (ho : (Op.buy ord).funded db = true → Payable ord)
    (hside : ord.buyOrSell = BUY) : (Op.buy ord).Fits S db := by
  refine fits_buy_iff.mpr (fun u hu hl => ?_)
  have hpay := ho (funded_buy hu hl)
  refine ⟨fun _ => insertFits (h.user_fits hu) hpay (.inl hside) (fun _ => h.funded_cost hpay hu hl),
    fun m hm v hf => ?_⟩
  exact (h.buyFill hpay hside hl hm hf).2

theorem WithinInt.sell_fits (h : WithinInt db) (ho : (Op.sell ord).funded db = true → Payable ord)
    (hside : ord.buyOrSell = SELL) (hclear : (Op.sell ord).SellsClear S db) : (Op.sell ord).Fits S db := by
  refine fits_sell_iff.mpr (fun u hu hl => ?_)
  have hpay := ho (funded_sell hu hl)
  refine ⟨fun _ => insertFits (h.user_fits hu) hpay (.inr hside) (sell_cost_free hside),
    fun m hm v hf => ?_⟩
  exact (h.sellFill hpay hside hl hm hf (hclear u hu hl m hm v hf.maker)).2

theorem WithinInt.cancel_fits (h : WithinInt db) (orderID currentUserID : Int)
    (hclear : (Op.cancelOrder orderID currentUserID).RefundsClear db) :
    (Op.cancelOrder orderID currentUserID).Fits S db := by
  refine fits_cancelOrder_iff.mpr (fun r hr hown u hu => ?_)
  exact (h.refund (Database.order_mem hr) (Database.user_mem hu) (hclear r hr hown u hu)).1

end Operations

end Marketplace
