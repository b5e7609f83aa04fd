import Marketplace.Store.QueryRuns
import Marketplace.Command.Trading

namespace Marketplace
open CallTree KeyedTable

variable {D : Type}

def User.SameAccount (u v : User) : Prop :=
  u.userID = v.userID ∧ u.username = v.username ∧ u.password = v.password ∧ u.name = v.name

namespace Database

variable {db : Database D} {u v : User} {id : Int}

theorem user_setBalance_other (h : id ≠ u.userID) : (db.setBalance u).user id = db.user id := by
  simp [user_setBalance, h]

theorem withBalances_eq (h : v.SameAccount u) :
    { u with OMG := v.OMG, DOGE := v.DOGE, BTC := v.BTC, ETH := v.ETH } = v := by
  obtain ⟨h1, h2, h3, h4⟩ := h
  cases u
  cases v
  simp only at h1 h2 h3 h4
  simp [h1, h2, h3, h4]

theorem user_setBalance_self (hu : db.user id = some u) (h : v.SameAccount u) :
    (db.setBalance v).user id = some v := by
  have hid : id = v.userID := (user_userID hu).symm.trans h.1.symm
  rw [user_setBalance, hu, Option.map_some, if_pos hid, withBalances_eq h]

theorem mem_users_setBalance (hu : db.user id = some u) (h : v.SameAccount u) {r : User} :
    r ∈ (db.setBalance v).users.rows ↔ r = v ∨ (r ∈ db.users.rows ∧ r.userID ≠ id) := by
  have hid : id = v.userID := (user_userID hu).symm.trans h.1.symm
  constructor
  · intro hr
    have hfind := user_of_mem hr
    by_cases hk : r.userID = id
    · rw [hk, user_setBalance_self hu h] at hfind
      exact .inl (Option.some.inj hfind).symm
    · rw [user_setBalance_other (hid ▸ hk)] at hfind
      exact .inr ⟨user_mem hfind, hk⟩
  · rintro (rfl | ⟨hr, hk⟩)
    · exact user_mem (user_setBalance_self hu h)
    · exact user_mem ((user_setBalance_other (hid ▸ hk)).trans (user_of_mem hr))

theorem total_users_setBalance (f : User → Int) (hu : db.user id = some u)
    (h : v.SameAccount u) : (db.setBalance v).users.total f = db.users.total f - f u + f v := by
  have hu' : db.users.find v.userID = some u := by
    rw [h.1, user_userID hu]
    exact hu
  calc (db.setBalance v).users.total f
      = db.users.total f - f u +
          f { u with OMG := v.OMG, DOGE := v.DOGE, BTC := v.BTC, ETH := v.ETH } :=
        Table.total_modify (g := fun r =>
          { r with OMG := v.OMG, DOGE := v.DOGE, BTC := v.BTC, ETH := v.ETH })
          db.users f (fun _ => rfl) hu'
    _ = db.users.total f - f u + f v := by rw [withBalances_eq h]

theorem order_rewrite_self {r : Order D} (hr : db.order id = some r) {n : Int} :
    (db.rewrite { r with quantity := n }).order id = some { r with quantity := n } := by
  have hid := order_orderID hr
  simp only [rewrite, order, updateOrderRow, Table.find_modify] at hr ⊢
  rw [hr]
  simp [hid]

end Database

section Reduce

variable (db : Database D) (ord m : Order D) (n : Int)

@[simp] theorem orderID_reduce : (ord.reduce n).orderID = ord.orderID := rfl
@[simp] theorem item_reduce : (ord.reduce n).item = ord.item := rfl
@[simp] theorem buyOrSell_reduce : (ord.reduce n).buyOrSell = ord.buyOrSell := rfl
@[simp] theorem quantity_reduce : (ord.reduce n).quantity = ord.quantity - n := rfl
@[simp] theorem userID_reduce : (ord.reduce n).userID = ord.userID := rfl
@[simp] theorem unitPrice_reduce : (ord.reduce n).unitPrice = ord.unitPrice := rfl

@[simp] theorem transactionQuantity_stamp :
    transactionQuantity (ord.stamp db) m = transactionQuantity ord m := rfl

end Reduce

section Quantities

variable (ord m : Order D)

theorem transactionQuantity_le_taker : transactionQuantity ord m ≤ ord.quantity := by
  unfold transactionQuantity
  split <;> omega

theorem transactionQuantity_le_maker : transactionQuantity ord m ≤ m.quantity := by
  unfold transactionQuantity
  split <;> omega

variable {ord m} in
theorem transactionQuantity_pos (hq : 0 < ord.quantity) (hm : 0 < m.quantity) :
    0 < transactionQuantity ord m := by
  unfold transactionQuantity
  split <;> assumption

end Quantities

variable [CDouble D] {S : CreatedAtSort D} {db : Database D} {ord m : Order D} {u v : User}

section SameAccount

theorem User.SameAccount.refl (u : User) : u.SameAccount u := ⟨rfl, rfl, rfl, rfl⟩

theorem addItem_sameAccount (h : u.SameAccount v) (item n : Int) : (u.addItem item n).SameAccount v := by
  unfold User.addItem
  repeat' split
  all_goals exact h

theorem creditOMG_sameAccount (h : u.SameAccount v) (x : D) : (u.creditOMG x).SameAccount v := h

theorem debitOMG_sameAccount (h : u.SameAccount v) (x : D) : (u.debitOMG x).SameAccount v := h

theorem withholdBalance_sameAccount (u : User) (ord : Order D) :
    (withholdBalance u ord).SameAccount u := by
  unfold withholdBalance
  repeat' split
  all_goals exact .refl u

theorem refundBalance_sameAccount (u : User) (ord : Order D) :
    (refundBalance u ord).SameAccount u := by
  unfold refundBalance
  split
  · exact creditOMG_sameAccount (.refl u) _
  · exact addItem_sameAccount (.refl u) _ _

end SameAccount

def eligibleSell (ord r : Order D) : Bool :=
  answersSell (some ord.item) (doubleParameter ord.unitPrice) (some ord.userID) r

def eligibleBuy (ord r : Order D) : Bool :=
  answersBuy (some ord.item) (doubleParameter ord.unitPrice) (some ord.userID) r

section Matching

omit [CDouble D] in
theorem mem_of_head_sort {S : CreatedAtSort D} {rows : List (Order D)} (h : (S.sort rows).head? = some m) :
    m ∈ rows :=
  (S.perm rows).mem_iff.mp (List.mem_of_head? h)

theorem matchSell_some (h : matchSell S db ord = some m) :
    m ∈ db.orders.rows ∧
      answersSell (some ord.item) (doubleParameter ord.unitPrice) (some ord.userID) m = true :=
  List.mem_filter.mp (mem_of_head_sort h)

theorem matchBuy_some (h : matchBuy S db ord = some m) :
    m ∈ db.orders.rows ∧
      answersBuy (some ord.item) (doubleParameter ord.unitPrice) (some ord.userID) m = true :=
  List.mem_filter.mp (mem_of_head_sort h)

theorem matchSell_none (h : matchSell S db ord = none) (hm : m ∈ db.orders.rows) :
    answersSell (some ord.item) (doubleParameter ord.unitPrice) (some ord.userID) m = false := by
  by_contra hans
  have hmem : m ∈ S.sort (db.orders.rows.filter
      (answersSell (some ord.item) (doubleParameter ord.unitPrice) (some ord.userID))) :=
    (S.perm _).mem_iff.mpr (List.mem_filter.mpr ⟨hm, by simpa using hans⟩)
  rw [List.head?_eq_none_iff.mp h] at hmem
  cases hmem

theorem matchBuy_none (h : matchBuy S db ord = none) (hm : m ∈ db.orders.rows) :
    answersBuy (some ord.item) (doubleParameter ord.unitPrice) (some ord.userID) m = false := by
  by_contra hans
  have hmem : m ∈ S.sort (db.orders.rows.filter
      (answersBuy (some ord.item) (doubleParameter ord.unitPrice) (some ord.userID))) :=
    (S.perm _).mem_iff.mpr (List.mem_filter.mpr ⟨hm, by simpa using hans⟩)
  rw [List.head?_eq_none_iff.mp h] at hmem
  cases hmem

theorem answersSell_iff :
    answersSell (some ord.item) (doubleParameter ord.unitPrice) (some ord.userID) m = true ↔
      ord.item = m.item ∧ m.buyOrSell = 1 ∧ CDouble.isNaN ord.unitPrice = false ∧
        CDouble.le m.unitPrice ord.unitPrice = true ∧ m.userID ≠ ord.userID := by
  cases hn : CDouble.isNaN ord.unitPrice <;> simp [answersSell, doubleParameter, hn, and_assoc]

theorem answersBuy_iff :
    answersBuy (some ord.item) (doubleParameter ord.unitPrice) (some ord.userID) m = true ↔
      ord.item = m.item ∧ m.buyOrSell = 0 ∧ CDouble.isNaN ord.unitPrice = false ∧
        CDouble.le ord.unitPrice m.unitPrice = true ∧ m.userID ≠ ord.userID := by
  cases hn : CDouble.isNaN ord.unitPrice <;> simp [answersBuy, doubleParameter, hn, and_assoc]

end Matching

inductive InsertOutcome (db : Database D) (u : User) (ord : Order D) : Int × Database D → Prop
  | refused (h : insufficientBalance u ord = true) : InsertOutcome db u ord (SQLITE_ERROR, db)
  | notNull (h : insufficientBalance u ord = false) (hn : CDouble.isNaN ord.unitPrice = true) :
      InsertOutcome db u ord (SQLITE_CONSTRAINT, db)
  | rested (h : insufficientBalance u ord = false) (hn : CDouble.isNaN ord.unitPrice = false) :
      InsertOutcome db u ord (SQLITE_OK, (db.place ord).setBalance (withholdBalance u ord))

theorem insertOrder_outcome (hu : db.user ord.userID = some u) :
    InsertOutcome db u ord ((insertOrder ord).run (perform S) db) := by
  rw [run_insertOrder, hu]
  cases hi : insufficientBalance u ord with
  | true =>
    simp only [hi, if_true]
    exact .refused hi
  | false =>
    cases hn : CDouble.isNaN ord.unitPrice with
    | true =>
      simp only [hi, Bool.false_eq_true, if_false, if_true]
      exact .notNull hi hn
    | false =>
      simp only [hi, Bool.false_eq_true, if_false]
      exact .rested hi hn

def remainder (db : Database D) (ord m : Order D) : Order D :=
  (ord.stamp db).reduce (transactionQuantity ord m)

def Database.fill (db : Database D) (ord m : Order D) (taker maker : User) : Database D :=
  let moved := (((db.archive m).archive (ord.stamp db)).setBalance taker).setBalance maker
  if m.quantity - transactionQuantity ord m = 0 then moved.deleteOrderRow m.orderID
  else moved.rewrite (m.reduce (transactionQuantity ord m))

omit [CDouble D] in
theorem users_fill (taker maker : User) :
    (db.fill ord m taker maker).users = ((db.setBalance taker).setBalance maker).users := by
  unfold Database.fill
  split <;> rfl

structure Fillable (db : Database D) (ord m : Order D) (u v : User) : Prop where
  taker : db.user ord.userID = some u
  row : db.order m.orderID = some m
  maker : db.user m.userID = some v
  other : m.userID ≠ ord.userID
  price : CDouble.isNaN ord.unitPrice = false
  makerPrice : CDouble.isNaN m.unitPrice = false

namespace Fillable

variable {taker maker : User} (hf : Fillable db ord m u v)
include hf

theorem user_taker (ht : taker.SameAccount u) (hm : maker.SameAccount v) :
    (db.fill ord m taker maker).user ord.userID = some taker := by
  have hne : ord.userID ≠ maker.userID := by
    rw [hm.1, Database.user_userID hf.maker]
    exact hf.other.symm
  rw [Database.user, users_fill]
  exact (Database.user_setBalance_other hne).trans (Database.user_setBalance_self hf.taker ht)

theorem maker_unmoved (ht : taker.SameAccount u) : (db.setBalance taker).user m.userID = some v := by
  have hne : m.userID ≠ taker.userID := by
    rw [ht.1, Database.user_userID hf.taker]
    exact hf.other
  exact (Database.user_setBalance_other hne).trans hf.maker

theorem user_maker (ht : taker.SameAccount u) (hm : maker.SameAccount v) :
    (db.fill ord m taker maker).user m.userID = some maker := by
  rw [Database.user, users_fill]
  exact Database.user_setBalance_self (hf.maker_unmoved ht) hm

theorem total_users (f : User → Int) (ht : taker.SameAccount u) (hm : maker.SameAccount v) :
    (db.fill ord m taker maker).users.total f =
      db.users.total f - f u + f taker - f v + f maker := by
  rw [users_fill, Database.total_users_setBalance f (hf.maker_unmoved ht) hm,
    Database.total_users_setBalance f hf.taker ht]

theorem total_orders (g : Order D → Int) :
    (db.fill ord m taker maker).orders.total g = db.orders.total g - g m +
      if m.quantity - transactionQuantity ord m = 0 then 0
      else g (m.reduce (transactionQuantity ord m)) := by
  unfold Database.fill
  split
  · rw [add_zero]
    exact Table.total_erase db.orders g hf.row
  · exact Table.total_modify
      (g := fun r => { m.reduce (transactionQuantity ord m) with
        orderID := r.orderID, createdAt := r.createdAt })
      db.orders g (fun _ => rfl) hf.row

theorem total_orders_reduce {g : Order D → Int}
    (hexhausted : m.quantity - transactionQuantity ord m = 0 →
      g (m.reduce (transactionQuantity ord m)) = 0) :
    (db.fill ord m taker maker).orders.total g =
      db.orders.total g - g m + g (m.reduce (transactionQuantity ord m)) := by
  rw [hf.total_orders]
  split
  · next hq => rw [hexhausted hq]
  · rfl

end Fillable

inductive SettleOutcome (db : Database D) (ord m : Order D) (taker maker : User) :
    Int × Database D → Prop
  | complete (h : ord.quantity - transactionQuantity ord m ≤ 0) :
      SettleOutcome db ord m taker maker (0, db.fill ord m taker maker)
  | refused (h : 0 < ord.quantity - transactionQuantity ord m)
      (hi : insufficientBalance taker (remainder db ord m) = true) :
      SettleOutcome db ord m taker maker (-1, db.fill ord m taker maker)
  | rested (h : 0 < ord.quantity - transactionQuantity ord m)
      (hi : insufficientBalance taker (remainder db ord m) = false) :
      SettleOutcome db ord m taker maker
        (0, ((db.fill ord m taker maker).place (remainder db ord m)).setBalance
          (withholdBalance taker (remainder db ord m)))

def Database.close (db : Database D) (m : Order D) : Database D :=
  if m.quantity = 0 then db.deleteOrderRow m.orderID else db.rewrite m

theorem run_deleteOrUpdateOrder (hrow : (db.order m.orderID).isSome)
    (hv : (db.user m.userID).isSome) (hn : CDouble.isNaN m.unitPrice = false) :
    (deleteOrUpdateOrder m).run (perform S) db = (SQLITE_OK, db.close m) := by
  unfold deleteOrUpdateOrder Database.close
  split
  · exact run_deleteOrder S db m.orderID
  · have hrow' : (db.order m.orderID).isNone = false := by simpa [← Option.not_isSome] using hrow
    simp [run_updateOrder, hrow', hv, hn]

theorem run_closeMatch (hrow : (db.order m.orderID).isSome) (hv : (db.user m.userID).isSome)
    (hn : CDouble.isNaN m.unitPrice = false) :
    (closeMatch ord m).run (perform S) db =
      if 0 < ord.quantity then
        (if ((insertOrder ord).run (perform S) (db.close m)).1 = 0 then 0 else -1,
          ((insertOrder ord).run (perform S) (db.close m)).2)
      else (0, db.close m) := by
  simp only [closeMatch, Prog.run_bind, run_deleteOrUpdateOrder hrow hv hn, SQLITE_OK, ne_eq,
    not_true, if_false, Prog.run_ite, Prog.run_pure]
  by_cases hq : 0 < ord.quantity
  · by_cases hi : ((insertOrder ord).run (perform S) (db.close m)).1 = 0 <;> simp [hq, hi]
  · simp [hq]

theorem settleMatch_outcome {taker : User} {maker : User → User} (hf : Fillable db ord m u v)
    (ht : taker.SameAccount u) (hm : (maker v).SameAccount v) :
    SettleOutcome db ord m taker (maker v)
      ((settleMatch ord m taker maker).run (perform S) db) := by
  have htaker : (db.user ord.userID).isSome := by simp [hf.taker]
  have hmaker : (db.user m.userID).isSome := by simp [hf.maker]
  have hfound : (((db.archive m).archive (ord.stamp db)).setBalance taker).user m.userID = some v :=
    hf.maker_unmoved ht
  let moved := (((db.archive m).archive (ord.stamp db)).setBalance taker).setBalance (maker v)
  have hmoved : (settleMatch ord m taker maker).run (perform S) db =
      (closeMatch (remainder db ord m) (m.reduce (transactionQuantity ord m))).run (perform S) moved := by
    simp [settleMatch, archiveOrder, run_assignOrderTimestamp, run_insertArchive, SQLITE_OK,
      run_updateUserBalance, run_getUser, hf.makerPrice, hf.price, hmaker, htaker, hfound, moved,
      remainder]
  have hclose : moved.close (m.reduce (transactionQuantity ord m)) = db.fill ord m taker (maker v) := rfl
  have hrow : (moved.order (m.reduce (transactionQuantity ord m)).orderID).isSome := by
    simp [moved, hf.row]
  have howner : (moved.user (m.reduce (transactionQuantity ord m)).userID).isSome := by
    simp [moved, hmaker]
  rw [hmoved, run_closeMatch hrow howner hf.makerPrice, hclose]
  split
  · next hq =>
    have hu : (db.fill ord m taker (maker v)).user (remainder db ord m).userID = some taker :=
      hf.user_taker ht hm
    have hins := insertOrder_outcome (S := S) hu
    generalize (insertOrder (remainder db ord m)).run (perform S) _ = r at hins ⊢
    cases hins with
    | refused hi => exact .refused hq hi
    | notNull _ hn => exact absurd hn (by simp [remainder, hf.price])
    | rested hi _ => exact .rested hq hi
  · next hq => exact .complete (by simpa [remainder] using hq)

theorem settleMatch_unfillable {taker : User} {maker : User → User}
    (h : db.user m.userID = none ∨ CDouble.isNaN m.unitPrice = true) :
    (settleMatch ord m taker maker).run (perform S) db = (-1, db) := by
  have hcond : ¬ (CDouble.isNaN m.unitPrice = false ∧ (db.user m.userID).isSome) := by
    rcases h with h | h <;> simp [h]
  simp [settleMatch, archiveOrder, run_assignOrderTimestamp, run_insertArchive, hcond,
    SQLITE_CONSTRAINT]

def buyTaker (u : User) (ord m : Order D) : User :=
  (u.debitOMG (transactionCost ord m)).addItem ord.item (transactionQuantity ord m)

def buyMaker (ord m : Order D) (v : User) : User :=
  (v.creditOMG (transactionCost ord m)).addItem m.item (-transactionQuantity ord m)

def sellTaker (u : User) (ord m : Order D) : User :=
  (u.addItem ord.item (-transactionQuantity ord m)).creditOMG (transactionCost ord m)

def sellMaker (ord m : Order D) (v : User) : User :=
  (v.debitOMG (transactionCost ord m)).addItem m.item (transactionQuantity ord m)

theorem buyTaker_sameAccount (u : User) (ord m : Order D) : (buyTaker u ord m).SameAccount u :=
  addItem_sameAccount (debitOMG_sameAccount (.refl u) _) _ _

theorem buyMaker_sameAccount (ord m : Order D) (v : User) : (buyMaker ord m v).SameAccount v :=
  addItem_sameAccount (creditOMG_sameAccount (.refl v) _) _ _

theorem sellTaker_sameAccount (u : User) (ord m : Order D) : (sellTaker u ord m).SameAccount u :=
  creditOMG_sameAccount (addItem_sameAccount (.refl u) _ _) _

theorem sellMaker_sameAccount (ord m : Order D) (v : User) : (sellMaker ord m v).SameAccount v :=
  addItem_sameAccount (debitOMG_sameAccount (.refl v) _) _ _

theorem buyMatch_outcome (hf : Fillable db ord m u v) :
    SettleOutcome db ord m (buyTaker u ord m) (buyMaker ord m v)
      ((buyMatch u ord m).run (perform S) db) :=
  settleMatch_outcome hf (buyTaker_sameAccount u ord m) (buyMaker_sameAccount ord m v)

theorem sellMatch_outcome (hf : Fillable db ord m u v) :
    SettleOutcome db ord m (sellTaker u ord m) (sellMaker ord m v)
      ((sellMatch u ord m).run (perform S) db) :=
  settleMatch_outcome hf (sellTaker_sameAccount u ord m) (sellMaker_sameAccount ord m v)

theorem buyMatch_unfillable (h : db.user m.userID = none ∨ CDouble.isNaN m.unitPrice = true) :
    (buyMatch u ord m).run (perform S) db = (-1, db) :=
  settleMatch_unfillable h

theorem sellMatch_unfillable (h : db.user m.userID = none ∨ CDouble.isNaN m.unitPrice = true) :
    (sellMatch u ord m).run (perform S) db = (-1, db) :=
  settleMatch_unfillable h

inductive BuyOutcome (S : CreatedAtSort D) (db : Database D) (ord : Order D) :
    Int × Database D → Prop
  | unknownUser (hu : db.user ord.userID = none) : BuyOutcome S db ord (-1, db)
  | refused (u : User) (hu : db.user ord.userID = some u)
      (h : CDouble.lt (CDouble.ofInt u.OMG) ord.total = true) : BuyOutcome S db ord (-1, db)
  | unmatched (u : User) (hu : db.user ord.userID = some u)
      (h : CDouble.lt (CDouble.ofInt u.OMG) ord.total = false) (hm : matchSell S db ord = none)
      (r : Int × Database D) (hr : InsertOutcome db u ord r) : BuyOutcome S db ord r
  | unfillable (u : User) (m : Order D) (hu : db.user ord.userID = some u)
      (h : CDouble.lt (CDouble.ofInt u.OMG) ord.total = false) (hm : matchSell S db ord = some m)
      (hv : db.user m.userID = none ∨ CDouble.isNaN m.unitPrice = true) :
      BuyOutcome S db ord (-1, db)
  | matched (u v : User) (m : Order D) (h : CDouble.lt (CDouble.ofInt u.OMG) ord.total = false)
      (hm : matchSell S db ord = some m) (hf : Fillable db ord m u v) (r : Int × Database D)
      (hr : SettleOutcome db ord m (buyTaker u ord m) (buyMaker ord m v) r) :
      BuyOutcome S db ord r

inductive SellOutcome (S : CreatedAtSort D) (db : Database D) (ord : Order D) :
    Int × Database D → Prop
  | unknownUser (hu : db.user ord.userID = none) : SellOutcome S db ord (-1, db)
  | refused (u : User) (hu : db.user ord.userID = some u)
      (h : insufficientHolding u ord = true) : SellOutcome S db ord (-1, db)
  | unmatched (u : User) (hu : db.user ord.userID = some u)
      (h : insufficientHolding u ord = false) (hm : matchBuy S db ord = none)
      (r : Int × Database D) (hr : InsertOutcome db u ord r) : SellOutcome S db ord r
  | unfillable (u : User) (m : Order D) (hu : db.user ord.userID = some u)
      (h : insufficientHolding u ord = false) (hm : matchBuy S db ord = some m)
      (hv : db.user m.userID = none ∨ CDouble.isNaN m.unitPrice = true) :
      SellOutcome S db ord (-1, db)
  | matched (u v : User) (m : Order D) (h : insufficientHolding u ord = false)
      (hm : matchBuy S db ord = some m) (hf : Fillable db ord m u v) (r : Int × Database D)
      (hr : SettleOutcome db ord m (sellTaker u ord m) (sellMaker ord m v) r) :
      SellOutcome S db ord r

omit [CDouble D] in
theorem orderID_ne_neg_one (hm : m ∈ db.orders.rows) : m.orderID ≠ -1 := by
  have := db.orders.positive m hm
  omega

theorem fillable_or (hu : db.user ord.userID = some u) (hm : m ∈ db.orders.rows)
    (hne : m.userID ≠ ord.userID) (hp : CDouble.isNaN ord.unitPrice = false) :
    (db.user m.userID = none ∨ CDouble.isNaN m.unitPrice = true) ∨ ∃ v, Fillable db ord m u v := by
  cases hv : db.user m.userID with
  | none => exact .inl (.inl rfl)
  | some v =>
    cases hn : CDouble.isNaN m.unitPrice with
    | true => exact .inl (.inr rfl)
    | false => exact .inr ⟨v, hu, Database.order_of_mem hm, hv, hne, hp, hn⟩

theorem buy_outcome : BuyOutcome S db ord ((buy ord).run (perform S) db) := by
  cases hu : db.user ord.userID with
  | none =>
    simp only [buy, Prog.run_bind, run_getUser, hu, Prog.run_pure]
    exact .unknownUser hu
  | some u =>
    cases hl : CDouble.lt (CDouble.ofInt u.OMG) ord.total with
    | true =>
      simp only [buy, Prog.run_bind, run_getUser, hu, hl, if_true, Prog.run_pure]
      exact .refused u hu hl
    | false =>
      cases hm : matchSell S db ord with
      | none =>
        simp only [buy, Prog.run_bind, run_getUser, hu, hl, Bool.false_eq_true, if_false,
          run_findMatchingSell, hm, Option.elim_none, if_true]
        exact .unmatched u hu hl hm _ (insertOrder_outcome hu)
      | some m =>
        obtain ⟨hmem, hans⟩ := matchSell_some hm
        obtain ⟨-, -, hp, -, hne⟩ := answersSell_iff.mp hans
        simp only [buy, Prog.run_bind, run_getUser, hu, hl, Bool.false_eq_true, if_false,
          run_findMatchingSell, hm, Option.elim_some, orderID_ne_neg_one hmem, run_getOrder,
          Database.order_of_mem hmem]
        rcases fillable_or hu hmem hne hp with hun | ⟨v, hf⟩
        · rw [buyMatch_unfillable hun]
          exact .unfillable u m hu hl hm hun
        · exact .matched u v m hl hm hf _ (buyMatch_outcome hf)

theorem sell_outcome : SellOutcome S db ord ((sell ord).run (perform S) db) := by
  cases hu : db.user ord.userID with
  | none =>
    simp only [sell, Prog.run_bind, run_getUser, hu, Prog.run_pure]
    exact .unknownUser hu
  | some u =>
    cases hl : insufficientHolding u ord with
    | true =>
      simp only [sell, Prog.run_bind, run_getUser, hu, hl, if_true, Prog.run_pure]
      exact .refused u hu hl
    | false =>
      cases hm : matchBuy S db ord with
      | none =>
        simp only [sell, Prog.run_bind, run_getUser, hu, hl, Bool.false_eq_true, if_false,
          run_findMatchingBuy, hm, Option.elim_none, if_true]
        exact .unmatched u hu hl hm _ (insertOrder_outcome hu)
      | some m =>
        obtain ⟨hmem, hans⟩ := matchBuy_some hm
        obtain ⟨-, -, hp, -, hne⟩ := answersBuy_iff.mp hans
        simp only [sell, Prog.run_bind, run_getUser, hu, hl, Bool.false_eq_true, if_false,
          run_findMatchingBuy, hm, Option.elim_some, orderID_ne_neg_one hmem, run_getOrder,
          Database.order_of_mem hmem]
        rcases fillable_or hu hmem hne hp with hun | ⟨v, hf⟩
        · rw [sellMatch_unfillable hun]
          exact .unfillable u m hu hl hm hun
        · exact .matched u v m hl hm hf _ (sellMatch_outcome hf)

inductive CancelOutcome (db : Database D) (orderID currentUserID : Int) : Int × Database D → Prop
  | unknownOrder (h : db.order orderID = none) : CancelOutcome db orderID currentUserID (-1, db)
  | unauthorized (r : Order D) (hr : db.order orderID = some r) (h : r.userID ≠ currentUserID) :
      CancelOutcome db orderID currentUserID (-1, db)
  | unknownUser (r : Order D) (hr : db.order orderID = some r) (h : r.userID = currentUserID)
      (hu : db.user currentUserID = none) : CancelOutcome db orderID currentUserID (-1, db)
  | cancelled (r : Order D) (u : User) (hr : db.order orderID = some r)
      (h : r.userID = currentUserID) (hu : db.user currentUserID = some u) :
      CancelOutcome db orderID currentUserID
        (0, (db.setBalance (refundBalance u r)).deleteOrderRow orderID)

theorem cancelOrder_outcome (orderID currentUserID : Int) :
    CancelOutcome db orderID currentUserID
      ((cancelOrder orderID currentUserID).run (perform S) db) := by
  cases hr : db.order orderID with
  | none =>
    simp only [cancelOrder, Prog.run_bind, run_getOrder, hr, Prog.run_pure]
    exact .unknownOrder hr
  | some r =>
    by_cases hown : r.userID = currentUserID
    · cases hu : db.user currentUserID with
      | none =>
        simp only [cancelOrder, Prog.run_bind, run_getOrder, hr, hown, ne_eq, not_true, if_false,
          run_getUser, hu, Prog.run_pure]
        exact .unknownUser r hr hown hu
      | some u =>
        simp only [cancelOrder, Prog.run_bind, run_getOrder, hr, hown, ne_eq, not_true, if_false,
          run_getUser, hu, run_updateUserBalance, run_deleteOrder, SQLITE_OK, Prog.run_pure]
        exact .cancelled r u hr hown hu
    · simp only [cancelOrder, Prog.run_bind, run_getOrder, hr, ne_eq, hown, not_false_eq_true,
        if_true, Prog.run_pure]
      exact .unauthorized r hr hown

end Marketplace
