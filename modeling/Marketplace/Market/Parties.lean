import Marketplace.Market.Archive
import Marketplace.Market.Priority
import Marketplace.Market.Coins

namespace Marketplace
open CallTree KeyedTable

variable {D : Type}

structure Moved (item : Int) (before after : User) : Prop where
  account : after.SameAccount before
  coins : ∀ c : Coin, c ≠ .omg → item ≠ c.code → after.balance c = before.balance c

structure UsersFrame (parties : Int → Prop) (item : Int) (db db' : Database D) : Prop where
  others : ∀ id, ¬ parties id → db'.user id = db.user id
  moved : ∀ id v, db.user id = some v → ∃ v', db'.user id = some v' ∧ Moved item v v'
  nobody : ∀ id, db.user id = none → db'.user id = none

structure OrdersFrame (userID : Int) (touched : Option (Order D)) (db db' : Database D) : Prop where
  kept : ∀ r ∈ db.orders.rows, (∀ m ∈ touched, r.orderID ≠ m.orderID) → r ∈ db'.orders.rows
  partner : ∀ m ∈ touched, ∀ r ∈ db'.orders.rows, r.orderID = m.orderID →
    r = { m with quantity := r.quantity }
  added : ∃ new : Option (Order D), (∀ r ∈ new, r.userID = userID) ∧
    ∀ r ∈ db'.orders.rows, (db.order r.orderID).isSome ∨ r ∈ new

structure TouchesOnly (userID item : Int) (touched : Option (Order D)) (db db' : Database D) : Prop where
  users : UsersFrame (fun id => id = userID ∨ ∃ m ∈ touched, id = m.userID) item db db'
  orders : OrdersFrame userID touched db db'

section Moved

variable {item : Int} {u v w : User}

theorem Moved.refl (item : Int) (u : User) : Moved item u u :=
  ⟨.refl u, fun _ _ _ => rfl⟩

theorem Moved.trans (huv : Moved item u v) (hvw : Moved item v w) : Moved item u w :=
  ⟨hvw.account.trans huv.account,
    fun c homg hitem => (hvw.coins c homg hitem).trans (huv.coins c homg hitem)⟩

theorem moved_addItem (u : User) (item n : Int) : Moved item u (u.addItem item n) := by
  refine ⟨addItem_sameAccount (.refl u) item n, fun c _ hitem => ?_⟩
  rw [balance_addItem, if_neg hitem, add_zero]

variable [CDouble D]

theorem moved_creditOMG (item : Int) (u : User) (x : D) : Moved item u (u.creditOMG x) := by
  refine ⟨.refl u, fun c homg _ => ?_⟩
  rw [balance_creditOMG, if_neg homg]

theorem moved_debitOMG (item : Int) (u : User) (x : D) : Moved item u (u.debitOMG x) := by
  refine ⟨.refl u, fun c homg _ => ?_⟩
  rw [balance_debitOMG, if_neg homg]

theorem moved_withholdBalance (u : User) (ord : Order D) :
    Moved ord.item u (withholdBalance u ord) := by
  refine ⟨withholdBalance_sameAccount u ord, fun c homg hitem => ?_⟩
  unfold withholdBalance
  split_ifs with hbuy hsell hdoge hbtc heth
  · cases c <;> first | rfl | exact absurd rfl homg
  · cases c <;> first | rfl | exact absurd hdoge hitem
  · cases c <;> first | rfl | exact absurd hbtc hitem
  · cases c <;> first | rfl | exact absurd heth hitem
  · rfl
  · rfl

theorem moved_refundBalance (u : User) (r : Order D) : Moved r.item u (refundBalance u r) := by
  unfold refundBalance
  split
  · exact moved_creditOMG r.item u r.total
  · exact moved_addItem u r.item r.quantity

end Moved

namespace UsersFrame

variable {parties : Int → Prop} {item id : Int} {db db' db'' : Database D} {u w : User}

theorem of_users (h : db'.users = db.users) : UsersFrame parties item db db' := by
  have hsame (id : Int) : db'.user id = db.user id := by rw [Database.user, h, Database.user]
  exact ⟨fun id _ => hsame id, fun id v hv => ⟨v, (hsame id).trans hv, .refl item v⟩,
    fun id hnone => (hsame id).trans hnone⟩

theorem trans (h : UsersFrame parties item db db') (h' : UsersFrame parties item db' db'') :
    UsersFrame parties item db db'' := by
  refine ⟨fun id hid => (h'.others id hid).trans (h.others id hid), fun id v hv => ?_,
    fun id hnone => h'.nobody id (h.nobody id hnone)⟩
  obtain ⟨v', hv', hmoved⟩ := h.moved id v hv
  obtain ⟨v'', hv'', hmoved'⟩ := h'.moved id v' hv'
  exact ⟨v'', hv'', hmoved.trans hmoved'⟩

theorem setBalance (hu : db.user id = some u) (hw : Moved item u w) (hid : parties id) :
    UsersFrame parties item db (db.setBalance w) := by
  have hkey : w.userID = id := hw.account.1.trans (Database.user_userID hu)
  refine ⟨fun j hj => Database.user_setBalance_other ?_, fun j v hv => ?_, fun j hnone => ?_⟩
  · rw [hkey]
    rintro rfl
    exact hj hid
  · by_cases hj : j = id
    · subst hj
      obtain rfl := Option.some.inj (hu.symm.trans hv)
      exact ⟨w, Database.user_setBalance_self hu hw.account, hw⟩
    · exact ⟨v, (Database.user_setBalance_other (hkey ▸ hj)).trans hv, .refl item v⟩
  · rw [Database.user_setBalance, hnone, Option.map_none]

end UsersFrame

section Fill

variable {db : Database D} {ord m r : Order D} {u v taker maker : User} {parties : Int → Prop}
  {item : Int}

theorem isSome_order_of_mem (hr : r ∈ db.orders.rows) : (db.order r.orderID).isSome := by
  rw [Database.order_of_mem hr]
  rfl

theorem isSome_order_of_fill (hrow : db.order m.orderID = some m)
    (hr : r ∈ (db.fill ord m taker maker).orders.rows) : (db.order r.orderID).isSome := by
  obtain ⟨r', hr', hid, -⟩ := row_of_fill hrow hr
  exact hid ▸ isSome_order_of_mem hr'

theorem usersFrame_fill [CDouble D] (hf : Fillable db ord m u v) (htaker : Moved item u taker)
    (hmaker : Moved item v maker) (hu : parties ord.userID) (hv : parties m.userID) :
    UsersFrame parties item db (db.fill ord m taker maker) := by
  have hfirst : UsersFrame parties item db (db.setBalance taker) := .setBalance hf.taker htaker hu
  have hsecond : UsersFrame parties item (db.setBalance taker)
      ((db.setBalance taker).setBalance maker) :=
    .setBalance (hf.maker_unmoved htaker.account) hmaker hv
  exact (hfirst.trans hsecond).trans (.of_users (users_fill taker maker))

theorem ordersFrame_fill (userID : Int) (hrow : db.order m.orderID = some m) :
    OrdersFrame userID (some m) db (db.fill ord m taker maker) := by
  refine ⟨fun r hr hne => ?_, ?_, none, by simp, fun r hr => .inl (isSome_order_of_fill hrow hr)⟩
  · exact (mem_orders_fill hrow).mpr (.inl ⟨hr, hne m rfl⟩)
  · intro m' hm' r hr hid
    obtain rfl := Option.some.inj hm'
    rcases (mem_orders_fill hrow).mp hr with ⟨-, hne⟩ | ⟨-, rfl⟩
    · exact absurd hid hne
    · rfl

end Fill

section Placed

variable {db db' : Database D} {userID : Int} {touched : Option (Order D)} {ord : Order D}

theorem OrdersFrame.of_orders {db'' : Database D} (h : OrdersFrame userID touched db db')
    (horders : db''.orders = db'.orders) : OrdersFrame userID touched db db'' := by
  refine ⟨fun r hr hne => ?_, fun m hm r hr => ?_, ?_⟩
  · rw [horders]
    exact h.kept r hr hne
  · rw [horders] at hr
    exact h.partner m hm r hr
  · rw [horders]
    exact h.added

-- the new row's ID is fresh, so it cannot stand in for the touched row
theorem OrdersFrame.place (h : OrdersFrame userID touched db db') (howner : ord.userID = userID)
    (hseq : db'.orders.seq = db.orders.seq) (hrow : ∀ m ∈ touched, m ∈ db.orders.rows)
    (hold : ∀ r ∈ db'.orders.rows, (db.order r.orderID).isSome) :
    OrdersFrame userID touched db (db'.place ord) := by
  refine ⟨fun r hr hne => ?_, fun m hm r hr hid => ?_, some (db'.placed ord), ?_, fun r hr => ?_⟩
  · exact (Database.mem_orders_place db' ord).mpr (.inl (h.kept r hr hne))
  · rcases (Database.mem_orders_place db' ord).mp hr with hr | rfl
    · exact h.partner m hm r hr hid
    · have hle := db.orders.bounded m (hrow m hm)
      have hfresh : (db'.placed ord).orderID = db.orders.seq + 1 := congrArg (· + 1) hseq
      omega
  · rintro r hr
    obtain rfl := Option.some.inj hr
    exact howner
  · rcases (Database.mem_orders_place db' ord).mp hr with hr | rfl
    · exact .inl (hold r hr)
    · exact .inr rfl

end Placed

variable [CDouble D]

structure TradeTouches (S : CreatedAtSort D) (op : Op D) (ord : Order D) (db : Database D) : Prop where
  parties : TouchesOnly ord.userID ord.item (matched S op db) db (apply S op db)
  archives : (apply S op db).archives.rows = db.archives.rows ∨
    ∃ a b, (apply S op db).archives.rows = db.archives.rows ++ [a, b]

structure CancelTouches (S : CreatedAtSort D) (orderID userID : Int) (db : Database D) : Prop where
  archives : (apply S (.cancelOrder orderID userID) db).archives = db.archives
  parties : ∀ r ∈ db.order orderID, r.userID = userID →
    TouchesOnly userID r.item (some r) db (apply S (.cancelOrder orderID userID) db)
  unauthorized : (∀ r ∈ db.order orderID, r.userID ≠ userID) →
    apply S (.cancelOrder orderID userID) db = db

section Operations

variable {S : CreatedAtSort D} {db : Database D} {ord m : Order D} {u v taker maker : User}
  {op : Op D} {userID item : Int} {touched : Option (Order D)}

omit [CDouble D] in
theorem TouchesOnly.refl (userID item : Int) {touched : Option (Order D)}
    (hrow : ∀ m ∈ touched, m ∈ db.orders.rows) : TouchesOnly userID item touched db db := by
  refine ⟨.of_users rfl, fun r hr _ => hr, fun m hm r hr hid => ?_, none, by simp,
    fun r hr => .inl (isSome_order_of_mem hr)⟩
  rw [Table.key_injective hr (hrow m hm) hid]

theorem matched_mem (hm : matched S op db = some m) : m ∈ db.orders.rows := by
  rw [matched_eq] at hm
  split at hm
  · exact (List.mem_filter.mp (mem_of_head_sort hm)).1
  · cases hm

theorem settlement_moved (h : Settlement db ord m u v op taker maker) :
    Moved ord.item u taker ∧ Moved ord.item v maker := by
  have hitem := h.item
  cases h with
  | buy hf hm =>
    refine ⟨(moved_debitOMG _ _ _).trans (moved_addItem _ _ _), ?_⟩
    rw [← hitem]
    exact (moved_creditOMG _ _ _).trans (moved_addItem _ _ _)
  | sell hf hm =>
    refine ⟨(moved_addItem _ _ _).trans (moved_creditOMG _ _ _), ?_⟩
    rw [← hitem]
    exact (moved_debitOMG _ _ _).trans (moved_addItem _ _ _)

theorem touches_filled (h : Settlement db ord m u v op taker maker) :
    TouchesOnly ord.userID ord.item (some m) db (db.fill ord m taker maker) := by
  obtain ⟨htaker, hmaker⟩ := settlement_moved h
  have hf := h.fillable
  exact ⟨usersFrame_fill hf htaker hmaker (.inl rfl) (.inr ⟨m, rfl, rfl⟩),
    ordersFrame_fill ord.userID hf.row⟩

theorem touches_filledAndPosted (h : Settlement db ord m u v op taker maker) :
    TouchesOnly ord.userID ord.item (some m) db
      (((db.fill ord m taker maker).place (remainder db ord m)).setBalance
        (withholdBalance taker (remainder db ord m))) := by
  obtain ⟨husers, horders⟩ := touches_filled h
  have hf := h.fillable
  have hu : ((db.fill ord m taker maker).place (remainder db ord m)).user ord.userID = some taker :=
    hf.user_taker h.taker_sameAccount h.maker_sameAccount
  have hrest : Moved ord.item taker (withholdBalance taker (remainder db ord m)) :=
    moved_withholdBalance taker (remainder db ord m)
  have hplaced : UsersFrame (fun id => id = ord.userID ∨ ∃ m' ∈ some m, id = m'.userID) ord.item
      (db.fill ord m taker maker) ((db.fill ord m taker maker).place (remainder db ord m)) :=
    .of_users rfl
  have hrow : ∀ m' ∈ some m, m' ∈ db.orders.rows := by
    intro m' hm'
    obtain rfl := Option.some.inj hm'
    exact Database.order_mem hf.row
  have hposted : OrdersFrame ord.userID (some m) db
      ((db.fill ord m taker maker).place (remainder db ord m)) :=
    horders.place rfl (seq_fill db ord m taker maker) hrow (fun r hr => isSome_order_of_fill hf.row hr)
  exact ⟨(husers.trans hplaced).trans (.setBalance hu hrest (.inl rfl)), hposted.of_orders rfl⟩

theorem touches_posted (hu : db.user ord.userID = some u) (hrow : ∀ m ∈ touched, m ∈ db.orders.rows) :
    TouchesOnly ord.userID ord.item touched db
      ((db.place ord).setBalance (withholdBalance u ord)) := by
  have hu' : (db.place ord).user ord.userID = some u := hu
  have hplaced : UsersFrame (fun id => id = ord.userID ∨ ∃ m ∈ touched, id = m.userID) ord.item db
      (db.place ord) := .of_users rfl
  have hposted : OrdersFrame ord.userID touched db (db.place ord) :=
    (TouchesOnly.refl ord.userID ord.item hrow).orders.place rfl rfl hrow
      (fun r hr => isSome_order_of_mem hr)
  exact ⟨hplaced.trans (.setBalance hu' (moved_withholdBalance u ord) (.inl rfl)),
    hposted.of_orders rfl⟩

theorem touches_cancelled {r : Order D} {orderID : Int} (hr : db.order orderID = some r)
    (hu : db.user r.userID = some u) :
    TouchesOnly r.userID r.item (some r) db
      ((db.setBalance (refundBalance u r)).deleteOrderRow orderID) := by
  have hdeleted : UsersFrame (fun id => id = r.userID ∨ ∃ m ∈ some r, id = m.userID) r.item
      (db.setBalance (refundBalance u r))
      ((db.setBalance (refundBalance u r)).deleteOrderRow orderID) := .of_users rfl
  have hid := Database.order_orderID hr
  refine ⟨UsersFrame.trans (.setBalance hu (moved_refundBalance u r) (.inl rfl)) hdeleted, ?_⟩
  refine ⟨fun s hs hne => ?_, fun m hm s hs hsid => ?_, none, by simp, fun s hs => .inl ?_⟩
  · exact Table.mem_erase.mpr ⟨hs, hid ▸ hne r rfl⟩
  · obtain rfl := Option.some.inj hm
    exact absurd (hsid.trans hid) (Table.mem_erase.mp hs).2
  · exact isSome_order_of_mem (Table.mem_erase.mp hs).1

omit [CDouble D] in
theorem archives_of_fill (db : Database D) (ord m : Order D) (taker maker : User) :
    ∃ a b, (db.fill ord m taker maker).archives.rows = db.archives.rows ++ [a, b] := by
  rw [archives_fill]
  exact ⟨_, _, List.append_assoc ..⟩

theorem trade_touches (hop : op.order = some ord) : TradeTouches S op ord db := by
  have hrow : ∀ m ∈ matched S op db, m ∈ db.orders.rows := fun m hm => matched_mem hm
  have heff := apply_effect S op db
  constructor
  · generalize apply S op db = db' at heff ⊢
    cases heff with
    | unchanged hs => exact .refl _ _ hrow
    | registered newUser hop' =>
      subst hop'
      cases hop
    | elapsed seconds hop' =>
      subst hop'
      cases hop
    | posted ord' u hs hop' hu hi hn =>
      have hord : op.order = some ord' := by rcases hop' with rfl | rfl <;> rfl
      cases hop.symm.trans hord
      exact touches_posted hu hrow
    | filled ord' m u v taker maker hs h =>
      obtain ⟨hord, hm⟩ := matched_of_settles hs
      cases hop.symm.trans hord
      rw [hm]
      exact touches_filled h
    | filledAndPosted ord' m u v taker maker hs h hq hi =>
      obtain ⟨hord, hm⟩ := matched_of_settles hs
      cases hop.symm.trans hord
      rw [hm]
      exact touches_filledAndPosted h
    | cancelled orderID currentUserID r u hop' hr hown hu =>
      subst hop'
      cases hop
  · generalize apply S op db = db' at heff ⊢
    cases heff with
    | filled ord' m u v taker maker hs h => exact .inr (archives_of_fill db ord' m taker maker)
    | filledAndPosted ord' m u v taker maker hs h hq hi =>
      exact .inr (archives_of_fill db ord' m taker maker)
    | _ => exact .inl rfl

theorem cancel_touches (orderID userID : Int) : CancelTouches S orderID userID db := by
  obtain ⟨res, hout, hres⟩ := cancelOrder_applied S orderID userID db
  refine ⟨?_, fun r hr hown => ?_, fun hnone => ?_⟩ <;> rw [hres]
  · cases hout <;> rfl
  · have hrow : ∀ m ∈ some r, m ∈ db.orders.rows := by
      intro m hm
      obtain rfl := Option.some.inj hm
      exact Database.order_mem hr
    cases hout with
    | cancelled r' u hr' hown' hu =>
      cases hr'.symm.trans hr
      rw [← hown] at hu ⊢
      exact touches_cancelled hr hu
    | _ => exact .refl _ _ hrow
  · cases hout with
    | cancelled r u hr hown hu => exact absurd hown (hnone r hr)
    | _ => rfl

end Operations

theorem touches_only_parties (S : CreatedAtSort D) (db : Database D) :
    (∀ ord : Order D, TradeTouches S (.buy ord) ord db) ∧
      (∀ ord : Order D, TradeTouches S (.sell ord) ord db) ∧
        ∀ orderID userID : Int, CancelTouches S orderID userID db :=
  ⟨fun _ => trade_touches rfl, fun _ => trade_touches rfl, cancel_touches⟩

end Marketplace
