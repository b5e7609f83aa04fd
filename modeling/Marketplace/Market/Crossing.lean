import Marketplace.Market.Coins

namespace Marketplace
open CallTree KeyedTable Runs

variable {D : Type} [CDouble D]

def Crosses (b s : Order D) : Prop :=
  b.buyOrSell = BUY ∧ s.buyOrSell = SELL ∧ b.item = s.item ∧ b.userID ≠ s.userID ∧
    CDouble.le s.unitPrice b.unitPrice = true

def Uncrossed (db : Database D) : Prop :=
  ∀ b ∈ db.orders.rows, ∀ s ∈ db.orders.rows, ¬ Crosses b s

def Op.Sided : Op D → Prop
  | .buy ord => ord.buyOrSell = BUY ∧ 0 < ord.quantity
  | .sell ord => ord.buyOrSell = SELL ∧ 0 < ord.quantity
  | _ => True

def SoleMaker (S : CreatedAtSort D) : Op D → Database D → Prop
  | .buy ord, db => ∀ u ∈ db.user ord.userID, CDouble.lt (CDouble.ofInt u.OMG) ord.total = false →
      ∀ m ∈ matchSell S db ord, m.quantity < ord.quantity →
        ∀ r ∈ db.orders.rows, r.orderID ≠ m.orderID → eligibleSell ord r = false
  | .sell ord, db => ∀ u ∈ db.user ord.userID, insufficientHolding u ord = false →
      ord.item ∈ [COIN_DOGE, COIN_BTC, COIN_ETH] →
      ∀ m ∈ matchBuy S db ord, m.quantity < ord.quantity →
        ∀ r ∈ db.orders.rows, r.orderID ≠ m.orderID → eligibleBuy ord r = false
  | _, _ => True

instance (b s : Order D) : Decidable (Crosses b s) :=
  inferInstanceAs (Decidable (_ ∧ _))

instance (db : Database D) : Decidable (Uncrossed db) :=
  inferInstanceAs (Decidable (∀ b ∈ db.orders.rows, ∀ s ∈ db.orders.rows, ¬ Crosses b s))

instance (op : Op D) : Decidable op.Sided := by
  cases op <;> dsimp only [Op.Sided] <;> infer_instance

instance (S : CreatedAtSort D) (op : Op D) (db : Database D) : Decidable (SoleMaker S op db) := by
  cases op <;> dsimp only [SoleMaker] <;> infer_instance

section Book

variable {db : Database D} {ord m r : Order D} {u v taker maker : User}

omit [CDouble D] in
theorem same_terms_fill (hrow : db.order m.orderID = some m)
    (hr : r ∈ (db.fill ord m taker maker).orders.rows) :
    ∃ r' ∈ db.orders.rows, r'.buyOrSell = r.buyOrSell ∧ r'.item = r.item ∧ r'.userID = r.userID ∧
      r'.unitPrice = r.unitPrice := by
  rcases (mem_orders_fill hrow).mp hr with ⟨hr, -⟩ | ⟨-, rfl⟩
  · exact ⟨r, hr, rfl, rfl, rfl, rfl⟩
  · exact ⟨m, Database.order_mem hrow, rfl, rfl, rfl, rfl⟩

theorem uncrossed_fill (hb : Uncrossed db) (hrow : db.order m.orderID = some m) :
    Uncrossed (db.fill ord m taker maker) := by
  intro b hb' s hs' hc
  obtain ⟨b', hbmem, hb1, hb2, hb3, hb4⟩ := same_terms_fill hrow hb'
  obtain ⟨s', hsmem, hs1, hs2, hs3, hs4⟩ := same_terms_fill hrow hs'
  apply hb b' hbmem s' hsmem
  simpa only [Crosses, hb1, hb2, hb3, hb4, hs1, hs2, hs3, hs4] using hc

theorem uncrossed_place (hb : Uncrossed db) (hbuy : ∀ r ∈ db.orders.rows, ¬ Crosses ord r)
    (hsell : ∀ r ∈ db.orders.rows, ¬ Crosses r ord) : Uncrossed (db.place ord) := by
  intro b hb' s hs' hc
  rcases (Database.mem_orders_place db ord).mp hb' with hb' | rfl
  · rcases (Database.mem_orders_place db ord).mp hs' with hs' | rfl
    · exact hb b hb' s hs' hc
    · exact hsell b hb' hc
  · rcases (Database.mem_orders_place db ord).mp hs' with hs' | rfl
    · exact hbuy s hs' hc
    · exact hc.2.2.2.1 rfl

theorem uncrossed_place_buy (hb : Uncrossed db) (hside : ord.buyOrSell = BUY)
    (hn : CDouble.isNaN ord.unitPrice = false)
    (h : ∀ r ∈ db.orders.rows, eligibleSell ord r = false) : Uncrossed (db.place ord) := by
  refine uncrossed_place hb (fun r hr hc => ?_) (fun r _ hc => ?_)
  · obtain ⟨-, hs, hitem, hown, hle⟩ := hc
    have hans : eligibleSell ord r = true := answersSell_iff.mpr ⟨hitem, hs, hn, hle, hown.symm⟩
    rw [h r hr] at hans
    cases hans
  · have hs := hc.2.1
    rw [hside] at hs
    cases hs

theorem uncrossed_place_sell (hb : Uncrossed db) (hside : ord.buyOrSell = SELL)
    (hn : CDouble.isNaN ord.unitPrice = false)
    (h : ∀ r ∈ db.orders.rows, eligibleBuy ord r = false) : Uncrossed (db.place ord) := by
  refine uncrossed_place hb (fun r _ hc => ?_) (fun r hr hc => ?_)
  · have hs := hc.1
    rw [hside] at hs
    cases hs
  · obtain ⟨hs, -, hitem, hown, hle⟩ := hc
    have hans : eligibleBuy ord r = true := answersBuy_iff.mpr ⟨hitem.symm, hs, hn, hle, hown⟩
    rw [h r hr] at hans
    cases hans

omit [CDouble D] in
theorem exhausts_maker (h : 0 < ord.quantity - transactionQuantity ord m) :
    m.quantity < ord.quantity ∧ m.quantity - transactionQuantity ord m = 0 := by
  unfold transactionQuantity at *
  split at h <;> split <;> omega

omit [CDouble D] in
theorem mem_fill_exhausted (hrow : db.order m.orderID = some m)
    (h : 0 < ord.quantity - transactionQuantity ord m)
    (hr : r ∈ (db.fill ord m taker maker).orders.rows) :
    r ∈ db.orders.rows ∧ r.orderID ≠ m.orderID := by
  rcases (mem_orders_fill hrow).mp hr with hr | ⟨hq, -⟩
  · exact hr
  · exact absurd (exhausts_maker h).2 hq

theorem uncrossed_insertOutcome {res : Int × Database D} (hb : Uncrossed db)
    (hplace : CDouble.isNaN ord.unitPrice = false → Uncrossed (db.place ord))
    (h : InsertOutcome db u ord res) : Uncrossed res.2 := by
  cases h with
  | refused hi => exact hb
  | notNull hi hn => exact hb
  | rested hi hn => exact hplace hn

theorem uncrossed_settleOutcome {res : Int × Database D} (hb : Uncrossed db)
    (hf : Fillable db ord m u v)
    (hplace : 0 < ord.quantity - transactionQuantity ord m →
      insufficientBalance taker (remainder db ord m) = false →
      Uncrossed ((db.fill ord m taker maker).place (remainder db ord m)))
    (h : SettleOutcome db ord m taker maker res) : Uncrossed res.2 := by
  cases h with
  | complete hq => exact uncrossed_fill hb hf.row
  | refused hq hi => exact uncrossed_fill hb hf.row
  | rested hq hi => exact hplace hq hi

end Book

section Step

variable {S : CreatedAtSort D} {db : Database D} {ord : Order D}

theorem uncrossed_buy (hop : (Op.buy ord).Sided) (hsole : SoleMaker S (.buy ord) db)
    (hb : Uncrossed db) : Uncrossed (apply S (.buy ord) db) := by
  obtain ⟨res, hout, hres⟩ := buy_applied S ord db
  rw [hres]
  cases hout with
  | unknownUser hu => exact hb
  | refused u hu hl => exact hb
  | unmatched u hu hl hm _ hins =>
    exact uncrossed_insertOutcome hb
      (fun hn => uncrossed_place_buy hb hop.1 hn (fun r hr => matchSell_none hm hr)) hins
  | unfillable u m hu hl hm hv => exact hb
  | matched u v m hl hm hf _ hset =>
    refine uncrossed_settleOutcome hb hf (fun hq _ => ?_) hset
    have hside : (remainder db ord m).buyOrSell = BUY := hop.1
    apply uncrossed_place_buy (uncrossed_fill hb hf.row) hside hf.price
    intro r hr
    obtain ⟨hmem, hne⟩ := mem_fill_exhausted hf.row hq hr
    exact hsole u hf.taker hl m hm (exhausts_maker hq).1 r hmem hne

theorem uncrossed_sell (hop : (Op.sell ord).Sided) (hsole : SoleMaker S (.sell ord) db)
    (hb : Uncrossed db) : Uncrossed (apply S (.sell ord) db) := by
  obtain ⟨res, hout, hres⟩ := sell_applied S ord db
  rw [hres]
  cases hout with
  | unknownUser hu => exact hb
  | refused u hu hl => exact hb
  | unmatched u hu hl hm _ hins =>
    exact uncrossed_insertOutcome hb
      (fun hn => uncrossed_place_sell hb hop.1 hn (fun r hr => matchBuy_none hm hr)) hins
  | unfillable u m hu hl hm hv => exact hb
  | matched u v m hl hm hf _ hset =>
    refine uncrossed_settleOutcome hb hf (fun hq hi => ?_) hset
    have hside : (remainder db ord m).buyOrSell = SELL := hop.1
    have hitem : ord.item ∈ [COIN_DOGE, COIN_BTC, COIN_ETH] := by
      have hsame : (remainder db ord m).item = ord.item := rfl
      rw [← hsame]
      rcases insufficientBalance_sell hside hi with ⟨h, -⟩ | ⟨h, -⟩ | ⟨h, -⟩ <;> simp [h]
    apply uncrossed_place_sell (uncrossed_fill hb hf.row) hside hf.price
    intro r hr
    obtain ⟨hmem, hne⟩ := mem_fill_exhausted hf.row hq hr
    exact hsole u hf.taker hl hitem m hm (exhausts_maker hq).1 r hmem hne

theorem uncrossed_cancelOrder {orderID currentUserID : Int} (hb : Uncrossed db) :
    Uncrossed (apply S (.cancelOrder orderID currentUserID) db) :=
  fun b hb' s hs' => hb b (cancelOrder_rows hb') s (cancelOrder_rows hs')

theorem uncrossed_apply {op : Op D} (hop : op.Sided) (hsole : SoleMaker S op db)
    (hb : Uncrossed db) : Uncrossed (apply S op db) := by
  cases op with
  | register newUser =>
    rw [Uncrossed, apply_register_orders]
    exact hb
  | buy ord => exact uncrossed_buy hop hsole hb
  | sell ord => exact uncrossed_sell hop hsole hb
  | cancelOrder orderID currentUserID => exact uncrossed_cancelOrder hb
  | elapse seconds => exact hb

end Step

theorem uncrossed_run (S : CreatedAtSort D) (ops : List (Op D)) (h : ∀ op ∈ ops, op.Sided)
    (hsole : Along (apply S) (SoleMaker S) ops Database.empty) :
    Uncrossed (final (apply S) ops Database.empty) := by
  have hempty : Uncrossed (Database.empty : Database D) := fun b hb => by cases hb
  have hsided : Along (apply S) (fun op _ => op.Sided) ops Database.empty :=
    along_of_forall (fun op hop _ => h op hop) _
  exact invariant_along (I := Uncrossed) (fun op db hop hb => uncrossed_apply hop.1 hop.2 hb)
    (along_and hsided hsole) hempty

def twoMakers : List (Op ℚ) :=
  [.register (newUser ['a'] ['p'] ['A']), .register (newUser ['b'] ['p'] ['B']),
    .sell (createOrder COIN_DOGE SELL 5 1 1), .sell (createOrder COIN_DOGE SELL 5 1 1),
    .buy (createOrder COIN_DOGE BUY 10 1 2)]

theorem crossed_reachable :
    ¬ ∀ (S : CreatedAtSort ℚ) (ops : List (Op ℚ)), (∀ op ∈ ops, op.Sided) →
      Uncrossed (final (apply S) ops Database.empty) := by
  intro h
  have hrun := h (.stable ℚ) twoMakers (by decide +kernel)
  revert hrun
  decide +kernel

def soleMaker : List (Op ℚ) :=
  [.register (newUser ['a'] ['p'] ['A']), .register (newUser ['b'] ['p'] ['B']),
    .sell (createOrder COIN_DOGE SELL 5 1 1), .sell (createOrder COIN_DOGE SELL 5 3 1),
    .buy (createOrder COIN_DOGE BUY 10 2 2)]

theorem uncrossed_run_soleMaker : Uncrossed (final (apply (.stable ℚ)) soleMaker Database.empty) :=
  uncrossed_run (.stable ℚ) soleMaker (by decide +kernel) (by decide +kernel)

end Marketplace
