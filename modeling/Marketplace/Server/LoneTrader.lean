import Marketplace.Market.IntSafety
import Marketplace.Server.Requests

namespace Marketplace
open CallTree KeyedTable Runs Truncation Rounding

def Request.order (request : Request) : Option (Order Double) :=
  request.op.bind Op.order

def Request.TradesOnlyAs (u : Int) (request : Request) : Prop :=
  ∀ ord ∈ request.order, ord.userID = u

def Worth (ord : Order Double) : Prop :=
  CDouble.isNaN ord.unitPrice = true ∨
    if ord.buyOrSell = BUY then CDouble.le (CDouble.ofInt 0) ord.total = true
    else ord.item = COIN_OMG ∨ 0 ≤ ord.quantity

structure Request.Worth (request : Request) (db : Database Double) : Prop where
  posted : ∀ ord ∈ request.order, Marketplace.Worth ord
  refunded : ∀ op ∈ request.op, op.RefundsClear db

def WithinGrant (u : Int) (db : Database Double) : Prop :=
  ∀ v ∈ db.user u, ∀ c, 0 ≤ v.balance c ∧ v.balance c ≤ c.grant ∧
    ((∀ r ∈ db.orders.rows, r.userID ≠ u) → v.balance c = c.grant)

structure Refundable (u : Int) (r : Order Double) : Prop where
  owner : r.userID = u
  worth : (r.buyOrSell = BUY ∧ ∃ x : ℚ, 0 ≤ x ∧ x ≤ DEFAULT_OMG ∧ r.total.value = some x) ∨
    (r.buyOrSell = SELL ∧ 0 ≤ r.quantity)

structure Alone (u : Int) (db : Database Double) : Prop where
  rows : ∀ r ∈ db.orders.rows, Refundable u r
  absent : db.user u = none → db.orders.rows = []
  accounted : ∀ v ∈ db.user u, ∀ c,
    0 ≤ v.balance c ∧ v.balance c + db.orders.total (withheld c) = c.grant

variable {S : CreatedAtSort Double} {db : Database Double} {ord r : Order Double} {u : Int} {v : User}

theorem granted_le_max {x : ℚ} (h : x ≤ DEFAULT_OMG) : x ≤ INT_MAX :=
  h.trans (by decide +kernel)

theorem Refundable.withheld_nonneg (h : Refundable u r) (c : Coin) : 0 ≤ withheld c r := by
  rcases h.worth with ⟨hb, x, hx, hmax, hvalue⟩ | ⟨hs, hq⟩
  · rw [withheld_of_value hb hx (granted_le_max hmax) hvalue]
    split
    · exact trunc_nonneg hx
    · exact le_rfl
  · rw [withheld_sell hs]
    split
    · exact hq
    · exact le_rfl

theorem Refundable.balance_refund (h : Refundable u r) (hpos : 0 ≤ v.OMG)
    (hmax : v.OMG ≤ DEFAULT_OMG) (hclear : RefundClear v r) (c : Coin) :
    (refundBalance v r).balance c = v.balance c + withheld c r := by
  unfold refundBalance
  rcases h.worth with ⟨hb, x, hx, hxmax, hvalue⟩ | ⟨hs, hq⟩
  · have h0 : r.buyOrSell = 0 := hb
    have homg : Int32 v.OMG := int32_of_nonneg ⟨hpos, hmax.trans (by decide)⟩
    have hxint := granted_le_max hxmax
    -- a sum within an int, clear of the next coin: truncating it adds the whole coins of the cost
    have hround : credited v.OMG x = v.OMG + trunc x := by
      have hcast : (0 : ℚ) ≤ v.OMG := by exact_mod_cast hpos
      rcases hpos.eq_or_lt with hzero | hlt
      · rw [credited, ← hzero, Int.cast_zero, zero_add, zero_add,
          Double.representable_of_value hvalue]
      · rw [credited, trunc_round_eq (add_nonneg hcast hx)
          (abs_add_le_moderate homg.moderate hx (cost_moderate hxint)) (hclear hb x hvalue hlt),
          trunc_int_add hx (add_nonneg hcast hx)]
    have hwhole := trunc_nonneg hx
    have htrunc : trunc x ≤ DEFAULT_OMG := trunc_le_int hxmax
    have hfits : Int32 (credited v.OMG x) := by
      rw [hround]
      unfold DEFAULT_OMG at hmax htrunc
      exact int32_of_nonneg ⟨by omega, by unfold INT_MAX; omega⟩
    rw [if_pos h0, balance_creditOMG, withheld_of_value hb hx hxint hvalue,
      (credit_fits homg hx hxint hvalue hfits).2, hround]
    split
    · next hc =>
      subst hc
      rfl
    · rw [add_zero]
  · have h0 : ¬ r.buyOrSell = 0 := by
      rw [hs]
      decide
    rw [if_neg h0, balance_addItem, withheld_sell hs]

theorem withheld_le_balance (hi : insufficientBalance v ord = false) (hv : ∀ c, 0 ≤ v.balance c)
    (hside : ord.buyOrSell = BUY ∨ ord.buyOrSell = SELL) (c : Coin) :
    withheld c ord ≤ v.balance c := by
  rcases withheld_or_le hi hside c with hzero | hle
  · rw [hzero]
    exact hv c
  · exact hle

theorem Alone.withinGrant (h : Alone u db) : WithinGrant u db := by
  intro v hv c
  obtain ⟨hpos, hsum⟩ := h.accounted v hv c
  have hrest : 0 ≤ db.orders.total (withheld c) :=
    Table.total_nonneg (fun r hr => (h.rows r hr).withheld_nonneg c)
  refine ⟨hpos, by omega, fun hnone => ?_⟩
  have hempty : db.orders.rows = [] :=
    List.eq_nil_iff_forall_not_mem.mpr (fun r hr => hnone r hr (h.rows r hr).owner)
  rw [Table.total_of_no_rows _ hempty] at hsum
  omega

theorem Alone.funds (h : Alone u db) (hv : db.user u = some v) : 0 ≤ v.OMG ∧ v.OMG ≤ DEFAULT_OMG := by
  obtain ⟨hpos, hle, -⟩ := h.withinGrant v hv .omg
  exact ⟨hpos, hle⟩

theorem Alone.posted (h : Alone u db) (hv : db.user ord.userID = some v) (hr : Refundable u ord)
    (hi : insufficientBalance v ord = false) :
    Alone u ((db.place ord).setBalance (withholdBalance v ord)) := by
  have hu : (db.place ord).user u = some v := hr.owner ▸ hv
  have hside : ord.buyOrSell = BUY ∨ ord.buyOrSell = SELL := hr.worth.imp And.left And.left
  have hself : ((db.place ord).setBalance (withholdBalance v ord)).user u = some (withholdBalance v ord) :=
    Database.user_setBalance_self hu (withholdBalance_sameAccount v ord)
  refine ⟨fun r hrow => ?_, fun hnone => ?_, fun w hw c => ?_⟩
  · rcases (Database.mem_orders_place db ord).mp hrow with hrow | rfl
    · exact h.rows r hrow
    · exact ⟨hr.owner, hr.worth⟩
  · rw [hself] at hnone
    cases hnone
  · rw [hself] at hw
    cases hw
    obtain ⟨-, hsum⟩ := h.accounted v hu c
    have hle := withheld_le_balance hi (fun c => (h.accounted v hu c).1) hside c
    have hplaced : withheld c (db.placed ord) = withheld c ord := rfl
    rw [balance_withholdBalance hi, Database.orders_setBalance, Database.total_orders_place, hplaced]
    constructor <;> omega

theorem Alone.refunded (h : Alone u db) {orderID : Int} (hrow : db.order orderID = some r)
    (hv : db.user u = some v) (hclear : RefundClear v r) :
    Alone u ((db.setBalance (refundBalance v r)).deleteOrderRow orderID) := by
  have hr := h.rows r (Database.order_mem hrow)
  have hself : (db.setBalance (refundBalance v r)).user u = some (refundBalance v r) :=
    Database.user_setBalance_self hv (refundBalance_sameAccount v r)
  refine ⟨fun s hs => h.rows s (Table.mem_erase.mp hs).1, fun hnone => ?_, fun w hw c => ?_⟩
  · have hsome : (db.setBalance (refundBalance v r)).user u = none := hnone
    rw [hself] at hsome
    cases hsome
  · have hw' : (db.setBalance (refundBalance v r)).user u = some w := hw
    rw [hself] at hw'
    cases hw'
    obtain ⟨hpos, hsum⟩ := h.accounted v hv c
    have hwithheld := hr.withheld_nonneg c
    have htotal : ((db.setBalance (refundBalance v r)).deleteOrderRow orderID).orders.total (withheld c) =
        db.orders.total (withheld c) - withheld c r :=
      Table.total_erase db.orders (withheld c) hrow
    obtain ⟨homg, hgrant⟩ := h.funds hv
    rw [hr.balance_refund homg hgrant hclear, htotal]
    constructor <;> omega

theorem Alone.registered (h : Alone u db) (username password name : CString) :
    Alone u (apply S (.register (newUser username password name)) db) := by
  rw [apply_register]
  split
  · exact h
  · cases hu : db.user u with
    | some v =>
      have hkept : (db.addUser (newUser username password name)).user u = some v :=
        Database.user_addUser hu
      refine ⟨h.rows, fun hnone => ?_, fun w hw c => ?_⟩
      · rw [hkept] at hnone
        cases hnone
      · rw [hkept] at hw
        cases hw
        exact h.accounted v hu c
    | none =>
      have hempty := h.absent hu
      refine ⟨h.rows, fun _ => hempty, fun w hw c => ?_⟩
      have htotal : (db.addUser (newUser username password name)).orders.total (withheld c) = 0 :=
        Table.total_of_no_rows _ hempty
      have hbalance : w.balance c = c.grant := by
        rcases Database.mem_users_addUser.mp (Database.user_mem hw) with hw' | rfl
        · have hold := Database.user_of_mem hw'
          rw [Database.user_userID hw, hu] at hold
          cases hold
        · cases c <;> rfl
      rw [htotal, hbalance, add_zero]
      refine ⟨?_, rfl⟩
      cases c <;> decide

theorem Alone.no_sell_matched (h : Alone u db) (howner : ord.userID = u) : matchSell S db ord = none := by
  cases hm : matchSell S db ord with
  | none => rfl
  | some m =>
    obtain ⟨hmem, hans⟩ := matchSell_some hm
    obtain ⟨-, -, -, -, hne⟩ := answersSell_iff.mp hans
    exact absurd ((h.rows m hmem).owner.trans howner.symm) hne

theorem Alone.no_buy_matched (h : Alone u db) (howner : ord.userID = u) : matchBuy S db ord = none := by
  cases hm : matchBuy S db ord with
  | none => rfl
  | some m =>
    obtain ⟨hmem, hans⟩ := matchBuy_some hm
    obtain ⟨-, -, -, -, hne⟩ := answersBuy_iff.mp hans
    exact absurd ((h.rows m hmem).owner.trans howner.symm) hne

theorem refundable_buy (hside : ord.buyOrSell = BUY) (howner : ord.userID = u) (hw : Worth ord)
    (hn : CDouble.isNaN ord.unitPrice = false) (hpos : 0 ≤ v.OMG) (hmax : v.OMG ≤ DEFAULT_OMG)
    (hl : CDouble.lt (CDouble.ofInt v.OMG) ord.total = false) : Refundable u ord := by
  refine ⟨howner, .inl ⟨hside, ?_⟩⟩
  have hfunds := value_ofInt (int32_of_nonneg ⟨hpos, hmax.trans (by decide)⟩ : Int32 v.OMG)
  have hzero : (Double.ofRat ((0 : Int) : ℚ)).value = some ((0 : Int) : ℚ) := value_ofInt (by decide)
  have hgrant : (v.OMG : ℚ) ≤ DEFAULT_OMG := by exact_mod_cast hmax
  rcases hw with hw | hw
  · rw [hn] at hw
    cases hw
  · rw [if_pos hside, Double.le_eq, Double.ofInt_eq] at hw
    rw [Double.lt_eq, Double.ofInt_eq] at hl
    cases htotal : ord.total with
    | finite x =>
      rw [htotal, Double.le_of_value hzero rfl] at hw
      rw [htotal, Double.lt_of_value hfunds rfl] at hl
      have hnonneg : (0 : ℚ) ≤ x.val := by simpa using hw
      exact ⟨x.val, hnonneg, (not_lt.mp (of_decide_eq_false hl)).trans hgrant, rfl⟩
    | inf negative =>
      obtain ⟨funds, hfunds', -⟩ := Double.finite_of_value hfunds
      obtain ⟨zero, hzero', -⟩ := Double.finite_of_value hzero
      rw [htotal, hzero'] at hw
      rw [htotal, hfunds'] at hl
      cases negative
      · cases hl
      · cases hw
    | nan =>
      obtain ⟨zero, hzero', -⟩ := Double.finite_of_value hzero
      rw [htotal, hzero'] at hw
      cases hw

theorem refundable_sell (hside : ord.buyOrSell = SELL) (howner : ord.userID = u) (hw : Worth ord)
    (hn : CDouble.isNaN ord.unitPrice = false) (hi : insufficientBalance v ord = false) :
    Refundable u ord := by
  refine ⟨howner, .inr ⟨hside, ?_⟩⟩
  have hne : ¬ ord.buyOrSell = BUY := by
    rw [hside]
    decide
  rcases hw with hw | hw
  · rw [hn] at hw
    cases hw
  · rw [if_neg hne] at hw
    refine hw.resolve_left (fun homg => ?_)
    rcases insufficientBalance_sell hside hi with ⟨h, -⟩ | ⟨h, -⟩ | ⟨h, -⟩ <;>
      exact absurd (homg.symm.trans h) (by decide)

theorem Alone.bought (h : Alone u db) (hside : ord.buyOrSell = BUY) (howner : ord.userID = u)
    (hw : Worth ord) : Alone u (apply S (.buy ord) db) := by
  obtain ⟨res, hout, hres⟩ := buy_applied S ord db
  rw [hres]
  cases hout with
  | unknownUser hu => exact h
  | refused u hu hl => exact h
  | unmatched v hu hl hm res hins =>
    cases hins with
    | refused hi => exact h
    | notNull hi hn => exact h
    | rested hi hn =>
      obtain ⟨hpos, hmax⟩ := h.funds (howner ▸ hu)
      exact h.posted hu (refundable_buy hside howner hw hn hpos hmax hl) hi
  | unfillable v m hu hl hm hv => exact h
  | matched v w m hl hm hf res hset =>
    rw [h.no_sell_matched howner] at hm
    cases hm

theorem Alone.sold (h : Alone u db) (hside : ord.buyOrSell = SELL) (howner : ord.userID = u)
    (hw : Worth ord) : Alone u (apply S (.sell ord) db) := by
  obtain ⟨res, hout, hres⟩ := sell_applied S ord db
  rw [hres]
  cases hout with
  | unknownUser hu => exact h
  | refused u hu hl => exact h
  | unmatched v hu hl hm res hins =>
    cases hins with
    | refused hi => exact h
    | notNull hi hn => exact h
    | rested hi hn => exact h.posted hu (refundable_sell hside howner hw hn hi) hi
  | unfillable v m hu hl hm hv => exact h
  | matched v w m hl hm hf res hset =>
    rw [h.no_buy_matched howner] at hm
    cases hm

theorem Alone.cancelled (h : Alone u db) (orderID currentUserID : Int)
    (hclear : (Op.cancelOrder orderID currentUserID).RefundsClear db) :
    Alone u (apply S (.cancelOrder orderID currentUserID) db) := by
  obtain ⟨res, hout, hres⟩ := cancelOrder_applied S orderID currentUserID db
  rw [hres]
  cases hout with
  | unknownOrder hr => exact h
  | unauthorized r hr hown => exact h
  | unknownUser r hr hown hu => exact h
  | cancelled r v hr hown hu =>
    have howner := (h.rows r (Database.order_mem hr)).owner
    have hrefund := hclear r hr hown v hu
    rw [← hown, howner] at hu
    exact h.refunded hr hu hrefund

theorem Alone.served (h : Alone u db) (request : Request) (honly : request.TradesOnlyAs u)
    (hworth : request.Worth db) : Alone u (request.serve S db) := by
  rw [serve_eq]
  cases request with
  | register usernameLine nameLine passwordLine => exact h.registered _ _ _
  | line userID buffer =>
    cases hop : parseLine userID buffer with
    | none => simpa [Request.op, hop, perhaps] using h
    | some op =>
      have hserved : perhaps S (Request.line userID buffer).op db = apply S op db := by
        simp [Request.op, hop, perhaps]
      have horder : (Request.line userID buffer).order = op.order := by
        simp [Request.order, Request.op, hop]
      rw [hserved]
      cases parseLine_spec hop with
      | buy ord hp => exact h.bought hp.side (honly ord horder) (hworth.posted ord horder)
      | sell ord hp => exact h.sold hp.side (honly ord horder) (hworth.posted ord horder)
      | cancelOrder orderID => exact h.cancelled orderID userID (hworth.refunded _ hop)
  | elapse seconds => exact ⟨h.rows, h.absent, h.accounted⟩

theorem lone_trader_within_grant (S : CreatedAtSort Double) (u : Int) (requests : List Request)
    (honly : ∀ request ∈ requests, request.TradesOnlyAs u)
    (hworth : Along (Request.serve S) Request.Worth requests Database.empty) :
    Along (Request.serve S) (fun request db => WithinGrant u (request.serve S db)) requests
      Database.empty := by
  have hrun : Along (Request.serve S) (fun request db => request.TradesOnlyAs u ∧ request.Worth db)
      requests Database.empty := along_and (along_of_forall (fun request hmem _ => honly request hmem) _) hworth
  have hempty : Alone u (Database.empty : Database Double) := by
    refine ⟨fun r hr => ?_, fun _ => rfl, fun v hv => ?_⟩
    · cases hr
    · cases hv
  exact along_of_invariant (fun request db h hI => hI.served request h.1 h.2)
    (fun request db h hI => (hI.served request h.1 h.2).withinGrant) hrun hempty

instance (ord : Order Double) : Decidable (Worth ord) :=
  inferInstanceAs (Decidable (_ ∨ _))

instance (u : Int) (request : Request) : Decidable (request.TradesOnlyAs u) :=
  inferInstanceAs (Decidable (∀ ord ∈ request.order, ord.userID = u))

instance (request : Request) (db : Database Double) : Decidable (request.Worth db) :=
  decidable_of_iff ((∀ ord ∈ request.order, Marketplace.Worth ord) ∧ ∀ op ∈ request.op, op.RefundsClear db)
    ⟨fun h => ⟨h.1, h.2⟩, fun h => ⟨h.posted, h.refunded⟩⟩

instance (u : Int) (db : Database Double) : Decidable (WithinGrant u db) :=
  inferInstanceAs (Decidable (∀ v ∈ db.user u, ∀ _ : Coin, _))

def postThenCancel : List Request :=
  [.register ['a', '\r', '\n'] ['A', '\r', '\n'] ['p', '\r', '\n'],
    .line 1 "buy doge 2.5 3\r\n".toList, .line 1 "sell BTC 100 5\r\n".toList,
    .line 1 "cancelorder 1\r\n".toList, .line 1 "cancelorder 2\r\n".toList]

theorem lone_trader_within_grant_postThenCancel :
    Along (Request.serve (.stable Double))
      (fun request db => WithinGrant 1 (request.serve (.stable Double) db)) postThenCancel
      Database.empty :=
  lone_trader_within_grant (.stable Double) 1 postThenCancel (by decide +kernel) (by decide +kernel)

-- the cancel adds a cost just below one coin, and the sum rounds up to the whole coin
example : ¬ Along (Request.serve (.stable Double)) Request.Worth
    [.register ['a', '\r', '\n'] ['A', '\r', '\n'] ['p', '\r', '\n'],
      .line 1 "buy doge 0.9999999999999999 1\r\n".toList, .line 1 "cancelorder 1\r\n".toList]
    Database.empty := by
  decide +kernel

def mint : List Request :=
  [.register ['a', '\r', '\n'] ['A', '\r', '\n'] ['p', '\r', '\n'],
    .line 1 "buy doge 1 -100\r\n".toList]

theorem lone_trader_mints :
    ¬ ∀ (S : CreatedAtSort Double) (u : Int) (requests : List Request),
      (∀ request ∈ requests, request.TradesOnlyAs u) →
        Along (Request.serve S) (fun request db => WithinGrant u (request.serve S db)) requests
          Database.empty := by
  intro h
  have hrun := h (.stable Double) 1 mint (by decide +kernel)
  revert hrun
  decide +kernel

end Marketplace
