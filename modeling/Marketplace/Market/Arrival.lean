import Marketplace.Market.Coins

namespace Marketplace
open CallTree KeyedTable Truncation

section Steps

variable {S : CreatedAtSort ℚ} {db : Database ℚ} (ord : Order ℚ) {r : Order ℚ} {u v : User}

theorem rested_of_succeeded {res : Int × Database ℚ} (h : InsertOutcome db u ord res)
    (hres : res.1 = 0) :
    insufficientBalance u ord = false ∧
      res.2 = (db.place ord).setBalance (withholdBalance u ord) := by
  cases h with
  | refused hi => cases hres
  | notNull hi hn => cases hres
  | rested hi hn => exact ⟨hi, rfl⟩

theorem filled_of_equal {taker maker : User} {res : Int × Database ℚ}
    (h : SettleOutcome db ord r taker maker res) (hq : ord.quantity = r.quantity) :
    transactionQuantity ord r = ord.quantity ∧ res.2 = db.fill ord r taker maker := by
  have ht : transactionQuantity ord r = ord.quantity := by
    unfold transactionQuantity
    split <;> omega
  cases h with
  | complete hle => exact ⟨ht, rfl⟩
  | refused hlt hi => omega
  | rested hlt hi => omega

theorem buy_into_empty (hm : ∀ m ∈ db.orders.rows, m.item ≠ ord.item)
    (hok : ((buy ord).run (perform S) db).1 = 0) (hu : db.user ord.userID = some u) :
    ((buy ord).run (perform S) db).2 = (db.place ord).setBalance (withholdBalance u ord) := by
  have hout : BuyOutcome S db ord ((buy ord).run (perform S) db) := buy_outcome
  generalize (buy ord).run (perform S) db = res at hout hok ⊢
  cases hout with
  | unknownUser hu' => cases hok
  | refused u' hu' hl => cases hok
  | unmatched u' hu' hl hnone _ hins =>
    cases hu.symm.trans hu'
    exact (rested_of_succeeded _ hins hok).2
  | unfillable u' m hu' hl hsome hv => cases hok
  | matched u' v m hl hsome hf _ hset =>
    obtain ⟨hmem, hans⟩ := matchSell_some hsome
    exact absurd (answersSell_iff.mp hans).1.symm (hm m hmem)

theorem sell_into_empty (hm : ∀ m ∈ db.orders.rows, m.item ≠ ord.item)
    (hok : ((sell ord).run (perform S) db).1 = 0) (hu : db.user ord.userID = some u) :
    insufficientBalance u ord = false ∧
      ((sell ord).run (perform S) db).2 = (db.place ord).setBalance (withholdBalance u ord) := by
  have hout : SellOutcome S db ord ((sell ord).run (perform S) db) := sell_outcome
  generalize (sell ord).run (perform S) db = res at hout hok ⊢
  cases hout with
  | unknownUser hu' => cases hok
  | refused u' hu' hl => cases hok
  | unmatched u' hu' hl hnone _ hins =>
    cases hu.symm.trans hu'
    exact rested_of_succeeded _ hins hok
  | unfillable u' m hu' hl hsome hv => cases hok
  | matched u' v m hl hsome hf _ hset =>
    obtain ⟨hmem, hans⟩ := matchBuy_some hsome
    exact absurd (answersBuy_iff.mp hans).1.symm (hm m hmem)

theorem sell_against_only (hr : r ∈ db.orders.rows) (honly : ∀ m ∈ db.orders.rows, m.item = ord.item → m = r)
    (helig : answersBuy (some ord.item) (doubleParameter ord.unitPrice) (some ord.userID) r = true)
    (hq : ord.quantity = r.quantity) (hok : ((sell ord).run (perform S) db).1 = 0) :
    ∃ u v, Fillable db ord r u v ∧ transactionQuantity ord r = ord.quantity ∧
      ((sell ord).run (perform S) db).2 = db.fill ord r (sellTaker u ord r) (sellMaker ord r v) := by
  have hout : SellOutcome S db ord ((sell ord).run (perform S) db) := sell_outcome
  generalize (sell ord).run (perform S) db = res at hout hok ⊢
  cases hout with
  | unknownUser hu => cases hok
  | refused u hu hl => cases hok
  | unmatched u hu hl hnone _ hins =>
    rw [matchBuy_none hnone hr] at helig
    cases helig
  | unfillable u m hu hl hsome hv => cases hok
  | matched u v m hl hsome hf _ hset =>
    obtain ⟨hmem, hans⟩ := matchBuy_some hsome
    obtain rfl := honly m hmem (answersBuy_iff.mp hans).1.symm
    exact ⟨u, v, hf, filled_of_equal _ hset hq⟩

theorem buy_against_only (hr : r ∈ db.orders.rows) (honly : ∀ m ∈ db.orders.rows, m.item = ord.item → m = r)
    (helig : answersSell (some ord.item) (doubleParameter ord.unitPrice) (some ord.userID) r = true)
    (hq : ord.quantity = r.quantity) (hok : ((buy ord).run (perform S) db).1 = 0) :
    ∃ u v, Fillable db ord r u v ∧ transactionQuantity ord r = ord.quantity ∧
      ((buy ord).run (perform S) db).2 = db.fill ord r (buyTaker u ord r) (buyMaker ord r v) := by
  have hout : BuyOutcome S db ord ((buy ord).run (perform S) db) := buy_outcome
  generalize (buy ord).run (perform S) db = res at hout hok ⊢
  cases hout with
  | unknownUser hu => cases hok
  | refused u hu hl => cases hok
  | unmatched u hu hl hnone _ hins =>
    rw [matchSell_none hnone hr] at helig
    cases helig
  | unfillable u m hu hl hsome hv => cases hok
  | matched u v m hl hsome hf _ hset =>
    obtain ⟨hmem, hans⟩ := matchSell_some hsome
    obtain rfl := honly m hmem (answersSell_iff.mp hans).1.symm
    exact ⟨u, v, hf, filled_of_equal _ hset hq⟩

end Steps

def buyOrder (c : Coin) (quantity : Int) (unitPrice : ℚ) (userID : Int) : Order ℚ :=
  createOrder c.code BUY quantity unitPrice userID

def sellOrder (c : Coin) (quantity : Int) (unitPrice : ℚ) (userID : Int) : Order ℚ :=
  createOrder c.code SELL quantity unitPrice userID

def buyThenSell (S : CreatedAtSort ℚ) (c : Coin) (quantity : Int) (unitPrice : ℚ) (a b : Int)
    (db : Database ℚ) : (Int × Int) × Database ℚ :=
  let first := (buy (buyOrder c quantity unitPrice a)).run (perform S) db
  let second := (sell (sellOrder c quantity unitPrice b)).run (perform S) first.2
  ((first.1, second.1), second.2)

def sellThenBuy (S : CreatedAtSort ℚ) (c : Coin) (quantity : Int) (unitPrice : ℚ) (a b : Int)
    (db : Database ℚ) : (Int × Int) × Database ℚ :=
  let first := (sell (sellOrder c quantity unitPrice b)).run (perform S) db
  let second := (buy (buyOrder c quantity unitPrice a)).run (perform S) first.2
  ((first.1, second.1), second.2)

structure SameSettlement (x y : (Int × Int) × Database ℚ) : Prop where
  left_succeeds : x.1 = (0, 0)
  right_succeeds : y.1 = (0, 0)
  balances : ∀ id c, (x.2.user id).map (User.balance · c) = (y.2.user id).map (User.balance · c)
  orders : x.2.orders.rows = y.2.orders.rows

structure Matchable (c : Coin) (quantity : Int) (unitPrice : ℚ) (a b : Int) (A B : User)
    (db : Database ℚ) : Prop where
  buyer : db.user a = some A
  seller : db.user b = some B
  different : a ≠ b
  quantity_pos : 0 < quantity
  unitPrice_nonneg : 0 ≤ unitPrice
  integral : ∃ n : Int, (quantity : ℚ) * unitPrice = n
  afford : (quantity : ℚ) * unitPrice ≤ A.OMG
  hold : quantity ≤ B.balance c
  unlisted : ∀ r ∈ db.orders.rows, r.item ≠ c.code

section Orders

variable {S : CreatedAtSort ℚ} {db : Database ℚ} {c : Coin} {q : Int} {p : ℚ} {a b : Int} {A B : User}
  {ord : Order ℚ}

theorem placed_mem (db : Database ℚ) (ord : Order ℚ) : db.placed ord ∈ (db.place ord).orders.rows :=
  (Database.mem_orders_place db ord).mpr (.inr rfl)

theorem only_placed (hm : ∀ r ∈ db.orders.rows, r.item ≠ ord.item) {r : Order ℚ}
    (hr : r ∈ (db.place ord).orders.rows) (hitem : r.item = ord.item) : r = db.placed ord := by
  rcases (Database.mem_orders_place db ord).mp hr with hr | hr
  · exact absurd hitem (hm r hr)
  · exact hr

theorem seller_after_buyThenSell (h : Matchable c q p a b A B db) (hc : c ≠ .omg)
    (hok : (buyThenSell S c q p a b db).1 = (0, 0)) :
    ((buyThenSell S c q p a b db).2.user b).map (User.balance · c) = some (B.balance c - q) := by
  obtain ⟨hok1, hok2⟩ := Prod.mk.inj hok
  have hfirst := buy_into_empty (buyOrder c q p a) h.unlisted hok1 h.buyer
  set db1 := (db.place (buyOrder c q p a)).setBalance (withholdBalance A (buyOrder c q p a))
  set ord := sellOrder c q p b
  set r := db.placed (buyOrder c q p a)
  have helig : answersBuy (some ord.item) (doubleParameter ord.unitPrice) (some ord.userID) r = true :=
    answersBuy_iff.mpr ⟨rfl, rfl, rfl, by simp [ord, r, sellOrder, buyOrder, createOrder,
      Database.placed], h.different⟩
  rw [hfirst] at hok2
  have hr : r ∈ db1.orders.rows := placed_mem db _
  obtain ⟨u, v, hf, ht, hsecond⟩ := sell_against_only ord hr
    (fun m hm hitem => only_placed h.unlisted hm hitem) helig rfl hok2
  have hfinal : (buyThenSell S c q p a b db).2 = db1.fill ord r (sellTaker u ord r) (sellMaker ord r v) := by
    rw [← hsecond, ← hfirst]
    rfl
  have hother : b ≠ (withholdBalance A (buyOrder c q p a)).userID := by
    rw [(withholdBalance_sameAccount A _).1, Database.user_userID h.buyer]
    exact h.different.symm
  have hu : u = B := by
    have huser : db1.user b = some B := (Database.user_setBalance_other hother).trans h.seller
    exact Option.some.inj (hf.taker.symm.trans huser)
  have hseller : (db1.fill ord r (sellTaker u ord r) (sellMaker ord r v)).user b =
      some (sellTaker u ord r) :=
    hf.user_taker (sellTaker_sameAccount u ord r) (sellMaker_sameAccount ord r v)
  rw [hfinal, hseller, Option.map_some, sellTaker, balance_creditOMG, if_neg hc, balance_addItem, hu, ht]
  simp [ord, sellOrder, createOrder]
  omega

theorem seller_after_sellThenBuy (h : Matchable c q p a b A B db)
    (hok : (sellThenBuy S c q p a b db).1 = (0, 0)) :
    c ≠ .omg ∧
      ((sellThenBuy S c q p a b db).2.user b).map (User.balance · c) = some (B.balance c - q - q) := by
  obtain ⟨hok1, hok2⟩ := Prod.mk.inj hok
  obtain ⟨hi, hfirst⟩ := sell_into_empty (sellOrder c q p b) h.unlisted hok1 h.seller
  have hc : c ≠ .omg := by
    rintro rfl
    rcases insufficientBalance_sell rfl hi with ⟨hd, -⟩ | ⟨hd, -⟩ | ⟨hd, -⟩ <;> cases hd
  refine ⟨hc, ?_⟩
  have hwithheld : (withholdBalance B (sellOrder c q p b)).balance c = B.balance c - q := by
    have hitem : (sellOrder c q p b).item = c.code := rfl
    rw [balance_withholdBalance hi, withheld_sell rfl, if_pos hitem]
    rfl
  set w := withholdBalance B (sellOrder c q p b)
  set db1 := (db.place (sellOrder c q p b)).setBalance w
  set ord := buyOrder c q p a
  set r := db.placed (sellOrder c q p b)
  have helig : answersSell (some ord.item) (doubleParameter ord.unitPrice) (some ord.userID) r = true :=
    answersSell_iff.mpr ⟨rfl, rfl, rfl, by simp [ord, r, sellOrder, buyOrder, createOrder,
      Database.placed], h.different.symm⟩
  rw [hfirst] at hok2
  have hr : r ∈ db1.orders.rows := placed_mem db _
  obtain ⟨u, v, hf, ht, hsecond⟩ := buy_against_only ord hr
    (fun m hm hitem => only_placed h.unlisted hm hitem) helig rfl hok2
  have hfinal : (sellThenBuy S c q p a b db).2 = db1.fill ord r (buyTaker u ord r) (buyMaker ord r v) := by
    rw [← hsecond, ← hfirst]
    rfl
  have hv : v = w := by
    have hplace : (db.place (sellOrder c q p b)).user b = some B := h.seller
    have huser : db1.user b = some w :=
      Database.user_setBalance_self hplace (withholdBalance_sameAccount B _)
    exact Option.some.inj (hf.maker.symm.trans huser)
  have hseller : (db1.fill ord r (buyTaker u ord r) (buyMaker ord r v)).user b =
      some (buyMaker ord r v) :=
    hf.user_maker (buyTaker_sameAccount u ord r) (buyMaker_sameAccount ord r v)
  rw [hfinal, hseller, Option.map_some, buyMaker, balance_addItem, balance_creditOMG, if_neg hc, hv,
    hwithheld, ht]
  simp [ord, r, sellOrder, buyOrder, createOrder, Database.placed]
  omega

end Orders

theorem arrival_order_matters (S : CreatedAtSort ℚ) {db : Database ℚ} {c : Coin} {q : Int} {p : ℚ}
    {a b : Int} {A B : User} (h : Matchable c q p a b A B db) :
    ¬ SameSettlement (buyThenSell S c q p a b db) (sellThenBuy S c q p a b db) := by
  intro hsame
  obtain ⟨hc, hright⟩ := seller_after_sellThenBuy h hsame.right_succeeds
  have hleft := seller_after_buyThenSell h hc hsame.left_succeeds
  have hbalance := hsame.balances b c
  rw [hleft, hright] at hbalance
  have heq := Option.some.inj hbalance
  have hpos := h.quantity_pos
  omega

def twoUsers : Database ℚ :=
  (Database.empty.addUser (newUser ['a'] ['p'] ['A'])).addUser (newUser ['b'] ['p'] ['B'])

theorem matchable_twoUsers :
    Matchable .doge 10 1 1 2 { newUser ['a'] ['p'] ['A'] with userID := 1 }
      { newUser ['b'] ['p'] ['B'] with userID := 2 } twoUsers where
  buyer := by decide +kernel
  seller := by decide +kernel
  different := by decide
  quantity_pos := by decide
  unitPrice_nonneg := by decide +kernel
  integral := ⟨10, by norm_num⟩
  afford := by decide +kernel
  hold := by decide
  unlisted := by decide +kernel

theorem arrival_order_not_immaterial :
    ¬ ∀ (S : CreatedAtSort ℚ) (db : Database ℚ) (c : Coin) (q : Int) (p : ℚ) (a b : Int) (A B : User),
      Matchable c q p a b A B db →
        SameSettlement (buyThenSell S c q p a b db) (sellThenBuy S c q p a b db) := by
  intro h
  have hsame := h (.stable ℚ) twoUsers .doge 10 1 1 2 _ _ matchable_twoUsers
  have hbalance := hsame.balances 2 .doge
  revert hbalance
  decide +kernel

theorem arrival_order_matters_twoUsers :
    ¬ SameSettlement (buyThenSell (.stable ℚ) .doge 10 1 1 2 twoUsers)
      (sellThenBuy (.stable ℚ) .doge 10 1 1 2 twoUsers) :=
  arrival_order_matters (.stable ℚ) matchable_twoUsers

end Marketplace
