import Marketplace.Session.Shared
import Marketplace.Session.Statements

namespace Marketplace
open CallTree Interleaving KeyedTable

variable {D ι : Type}

def WithinPosted (w : Shared D ι) : Prop :=
  ∀ id, ∀ p ∈ w.posted id, w.consumed id ≤ p

def RowUnchanged : ι → Call D → Shared D ι → Prop
  | i, .step (.deleteOrder (some id)), w =>
    ∃ m ∈ w.orderCopy i id, ∃ r ∈ w.db.order id, m.quantity = r.quantity
  | i, .step (.updateOrder _ _ _ _ _ id), w =>
    ∃ m ∈ w.orderCopy i id, ∃ r ∈ w.db.order id, m.quantity = r.quantity
  | _, _, _ => True

def TradeCall.Positive : TradeCall D → Prop
  | .buy ord => 0 < ord.quantity
  | .sell ord => 0 < ord.quantity
  | .cancelOrder _ _ => True

instance (i : ι) (c : Call D) (w : Shared D ι) : Decidable (RowUnchanged i c w) :=
  match c with
  | .step (.deleteOrder (some id)) | .step (.updateOrder _ _ _ _ _ id) =>
    inferInstanceAs (Decidable (∃ m ∈ w.orderCopy i id, ∃ r ∈ w.db.order id, m.quantity = r.quantity))
  | .step (.deleteOrder none) | .step (.insertOrder ..) | .step (.insertUser ..)
  | .step (.selectUser _) | .step (.selectOrder _) | .step (.matchingBuy ..)
  | .step (.matchingSell ..) | .step (.updateUserBalance ..) | .step (.selectInventory _)
  | .step (.selectUserByUsername _) | .step (.insertArchive ..) | .step .currentTimestamp
  | .prepare | .bind | .lastInsertRowid => .isTrue trivial

instance : DecidablePred (TradeCall.Positive : TradeCall D → Prop)
  | .buy ord => inferInstanceAs (Decidable (0 < ord.quantity))
  | .sell ord => inferInstanceAs (Decidable (0 < ord.quantity))
  | .cancelOrder _ _ => inferInstanceAs (Decidable True)

def KeepsQuantities : Call D → Prop
  | .step (.insertOrder _ _ quantity _ _) => ∀ n ∈ quantity, 0 ≤ n
  | .step (.updateOrder _ _ quantity _ _ _) => 0 ≤ quantity
  | _ => True

def Stmt.TouchesOrders : Stmt D → Prop
  | .insertOrder .. => True
  | .deleteOrder _ => True
  | .updateOrder .. => True
  | _ => False

structure Tracked (w : Shared D ι) : Prop where
  resting : ∀ id, ∀ r ∈ w.db.order id, 0 ≤ r.quantity ∧
    ∃ p ∈ w.posted id, w.consumed id + r.quantity ≤ p
  within : WithinPosted w
  fresh : ∀ id, w.db.orders.seq < id → w.posted id = none ∧ w.consumed id = 0

theorem permits_keepsQuantities : Permits (KeepsQuantities : Call D → Prop) := by
  constructor <;> intros <;> trivial

theorem program_keepsQuantities [CDouble D] {o : TradeCall D} (ho : o.Positive) :
    o.program.All KeepsQuantities (fun _ => True) := by
  have hu : ∀ q : Int, 0 ≤ q → Updates (KeepsQuantities : Call D → Prop) q :=
    fun q hq _ _ _ _ _ => hq
  have hi : ∀ q : Int, 0 < q → Inserts (KeepsQuantities : Call D → Prop) q :=
    fun q hq _ _ _ _ _ h n hn => (h n hn).symm ▸ hq.le
  cases o with
  | buy ord => exact buy_all permits_keepsQuantities ord hu hi ho
  | sell ord => exact sell_all permits_keepsQuantities ord hu hi ho
  | cancelOrder orderID currentUserID => exact cancelOrder_all permits_keepsQuantities _ _

section Tracking

variable {db : Database D} {w v : Shared D ι} {i : ι}

theorem tracked_of_same (hdb : v.db.orders = w.db.orders) (hp : v.posted = w.posted)
    (hc : v.consumed = w.consumed) (hw : Tracked w) : Tracked v where
  resting id r hr := by
    rw [Database.order, hdb] at hr
    rw [hp, hc]
    exact hw.resting id r hr
  within id p hpost := by
    rw [hp] at hpost
    rw [hc]
    exact hw.within id p hpost
  fresh id hid := by
    rw [hdb] at hid
    rw [hp, hc]
    exact hw.fresh id hid

theorem order_insertOrderRow (item buyOrSell quantity : Int) (unitPrice : D) (userID k : Int) :
    (db.insertOrderRow item buyOrSell quantity unitPrice userID).order k =
      if k = db.orders.seq + 1 then
        some ⟨db.orders.seq + 1, item, buyOrSell, quantity, userID, unitPrice, some db.now⟩
      else db.order k := by
  simp only [Database.order, Database.insertOrderRow, Table.find_insert]

theorem order_deleteOrderRow (id k : Int) :
    (db.deleteOrderRow id).order k = if k = id then none else db.order k := by
  simp only [Database.order, Database.deleteOrderRow, Table.find_erase]

theorem order_updateOrderRow (item buyOrSell quantity : Int) (unitPrice : D) (userID id k : Int) :
    (db.updateOrderRow item buyOrSell quantity unitPrice userID id).order k =
      (db.order k).map (fun r =>
        if k = id then { r with item, buyOrSell, quantity, unitPrice, userID } else r) := by
  simp only [Database.order, Database.updateOrderRow, Table.find_modify]

theorem tracked_insertOrderRow {item buyOrSell n userID : Int} {unitPrice : D} (hn : 0 ≤ n)
    (hw : Tracked w) :
    Tracked { w.post (w.db.orders.seq + 1) n with
      db := w.db.insertOrderRow item buyOrSell n unitPrice userID } := by
  obtain ⟨hpost, hcons⟩ := hw.fresh (w.db.orders.seq + 1) (by omega)
  refine ⟨fun id r hr => ?_, fun id p hp => ?_, fun id hid => ?_⟩
  · rw [Option.mem_def, order_insertOrderRow] at hr
    by_cases hid : id = w.db.orders.seq + 1
    · rw [if_pos hid] at hr
      cases hr
      subst hid
      refine ⟨hn, n, by simp [Shared.post], ?_⟩
      simp only [Shared.post, hcons]
      omega
    · rw [if_neg hid] at hr
      simpa [Shared.post, hid] using hw.resting id r hr
  · by_cases hid : id = w.db.orders.seq + 1
    · subst hid
      have hpn : n = p := by simpa [Shared.post] using hp
      simp only [Shared.post, hcons]
      omega
    · exact hw.within id p (by simpa [Shared.post, hid] using hp)
  · have hid' : w.db.orders.seq + 1 < id := hid
    obtain ⟨h1, h2⟩ := hw.fresh id (by omega)
    exact ⟨by simpa [Shared.post, show id ≠ w.db.orders.seq + 1 by omega] using h1, h2⟩

theorem within_consume {id left : Int} {m r : Order D} (hm : w.orderCopy i id = some m)
    (hr : w.db.order id = some r) (hq : m.quantity = r.quantity) (hleft : 0 ≤ left) (hw : Tracked w) :
    WithinPosted (w.consume i id left) := by
  obtain ⟨hpos, p, hp, hle⟩ := hw.resting id r hr
  intro k p' hp'
  by_cases hk : k = id
  · subst hk
    have hpp : p = p' := Option.some.inj (hp.symm.trans (by simpa [Shared.consume, hm] using hp'))
    simp only [Shared.consume, hm, Function.update_self]
    omega
  · have hwithin := hw.within k p' (by simpa [Shared.consume, hm] using hp')
    simpa [Shared.consume, hm, hk] using hwithin

theorem fresh_consume {id left k : Int} {r : Order D} (hr : w.db.order id = some r) (hw : Tracked w)
    (hk : w.db.orders.seq < k) :
    (w.consume i id left).posted k = none ∧ (w.consume i id left).consumed k = 0 := by
  have hne : k ≠ id := by
    rintro rfl
    have hfresh := Table.find_fresh w.db.orders hk
    cases hfresh.symm.trans hr
  obtain ⟨h1, h2⟩ := hw.fresh k hk
  cases hm : w.orderCopy i id with
  | none => simp [Shared.consume, hm, h1, h2]
  | some m => simp [Shared.consume, hm, h1, h2, hne]

theorem tracked_deleteOrderRow {id : Int} {m r : Order D} (hm : w.orderCopy i id = some m)
    (hr : w.db.order id = some r) (hq : m.quantity = r.quantity) (hw : Tracked w) :
    Tracked { w.consume i id 0 with db := w.db.deleteOrderRow id } := by
  refine ⟨fun k s hs => ?_, within_consume hm hr hq (le_refl 0) hw, fun k hk => fresh_consume hr hw hk⟩
  rw [Option.mem_def, order_deleteOrderRow] at hs
  by_cases hk : k = id
  · rw [if_pos hk] at hs
    cases hs
  · rw [if_neg hk] at hs
    simpa [Shared.consume, hm, hk] using hw.resting k s hs

theorem tracked_updateOrderRow {item buyOrSell n userID id : Int} {unitPrice : D} {m r : Order D}
    (hm : w.orderCopy i id = some m) (hr : w.db.order id = some r) (hq : m.quantity = r.quantity)
    (hn : 0 ≤ n) (hw : Tracked w) :
    Tracked { w.consume i id n with
      db := w.db.updateOrderRow item buyOrSell n unitPrice userID id } := by
  obtain ⟨hpos, p, hp, hle⟩ := hw.resting id r hr
  refine ⟨fun k s hs => ?_, within_consume hm hr hq hn hw, fun k hk => fresh_consume hr hw hk⟩
  rw [Option.mem_def, order_updateOrderRow] at hs
  obtain ⟨s', hs', rfl⟩ := Option.map_eq_some_iff.mp hs
  by_cases hk : k = id
  · subst hk
    refine ⟨by simpa using hn, p, by simpa [Shared.consume, hm] using hp, ?_⟩
    simp only [Shared.consume, hm, Function.update_self, if_true]
    omega
  · simpa [Shared.consume, hm, hk] using hw.resting k s' hs'

end Tracking

section Steps

variable [CDouble D] [DecidableEq ι] {S : CreatedAtSort D} {w : Shared D ι} {i : ι}

theorem tracked_insertOrder {item buyOrSell quantity userID : Option Int} {unitPrice : Option D}
    (hn : ∀ n ∈ quantity, 0 ≤ n) (hw : Tracked w) :
    Tracked (serve S i (.step (.insertOrder item buyOrSell quantity unitPrice userID)) w).2 := by
  rcases exec_insertOrder S w.db item buyOrSell quantity userID unitPrice with
    h | ⟨item', side', n, price', user', rfl, rfl, rfl, rfl, rfl, -, h⟩
  · refine tracked_of_same ?_ ?_ ?_ hw <;> simp [serve, h, Shared.observe]
  · have hserve : (serve S i (.step (.insertOrder (some item') (some side') (some n) (some price')
        (some user'))) w).2 =
        { w.post (w.db.orders.seq + 1) n with
          db := w.db.insertOrderRow item' side' n price' user' } := by
      simp [serve, h, Shared.observe]
    rw [hserve]
    exact tracked_insertOrderRow (hn n rfl) hw

theorem tracked_deleteOrder {orderID : Option Int}
    (hg : RowUnchanged i (.step (.deleteOrder orderID)) w) (hw : Tracked w) :
    Tracked (serve S i (.step (.deleteOrder orderID)) w).2 := by
  cases orderID with
  | none => exact tracked_of_same rfl rfl rfl hw
  | some id =>
    obtain ⟨m, hm, r, hr, hq⟩ := hg
    exact tracked_deleteOrderRow hm hr hq hw

theorem tracked_updateOrder {item buyOrSell quantity userID orderID : Int} {unitPrice : Option D}
    (hg : RowUnchanged i (.step (.updateOrder item buyOrSell quantity unitPrice userID orderID)) w)
    (hn : 0 ≤ quantity) (hw : Tracked w) :
    Tracked (serve S i (.step (.updateOrder item buyOrSell quantity unitPrice userID orderID)) w).2 := by
  obtain ⟨m, hm, r, hr, hq⟩ := hg
  rcases exec_updateOrder S unitPrice item buyOrSell quantity userID orderID hr with h | ⟨price, -, h⟩
  · refine tracked_of_same ?_ ?_ ?_ hw <;> simp [serve, h, Shared.observe]
  · have hserve :
        (serve S i (.step (.updateOrder item buyOrSell quantity unitPrice userID orderID)) w).2 =
        { w.consume i orderID quantity with
          db := w.db.updateOrderRow item buyOrSell quantity price userID orderID } := by
      simp [serve, h, Shared.observe]
    rw [hserve]
    exact tracked_updateOrderRow hm hr hq hn hw

omit [DecidableEq ι] in
theorem orders_exec {s : Stmt D} (hs : ¬ s.TouchesOrders) (db : Database D) :
    (s.exec S db).2.orders = db.orders := by
  cases s with
  | insertOrder item buyOrSell quantity unitPrice userID => exact absurd trivial hs
  | insertUser username password name OMG DOGE BTC ETH =>
    rw [exec_insertUser]
    split <;> rfl
  | deleteOrder orderID => exact absurd trivial hs
  | updateOrder item buyOrSell quantity unitPrice userID orderID => exact absurd trivial hs
  | insertArchive item buyOrSell quantity unitPrice userID createdAt =>
    obtain h | ⟨i, b, n, p, u, -, -, -, -, -, -, h⟩ :=
      exec_insertArchive S db item buyOrSell quantity userID unitPrice createdAt
    · rw [h]
    · rw [h]
      rfl
  | _ => rfl

omit [CDouble D] in
theorem ghosts_observe {s : Stmt D} (hs : ¬ s.TouchesOrders) (r : StepResult D) :
    (w.observe i s r).posted = w.posted ∧ (w.observe i s r).consumed = w.consumed := by
  unfold Shared.observe
  split
  case h_3 =>
    unfold Shared.moveBalance
    split <;> exact ⟨rfl, rfl⟩
  case h_4 => exact absurd trivial hs
  case h_5 => exact absurd trivial hs
  case h_6 => exact absurd trivial hs
  all_goals exact ⟨rfl, rfl⟩

theorem tracked_untouched {s : Stmt D} (hs : ¬ s.TouchesOrders) (hw : Tracked w) :
    Tracked (serve S i (.step s) w).2 :=
  tracked_of_same (orders_exec hs w.db) (ghosts_observe hs _).1 (ghosts_observe hs _).2 hw

theorem tracked_serve (c : Call D) (hQ : KeepsQuantities c) (hg : RowUnchanged i c w)
    (hw : Tracked w) : Tracked (serve S i c w).2 := by
  cases c with
  | prepare => exact hw
  | bind => exact hw
  | lastInsertRowid => exact hw
  | step s =>
    cases s with
    | insertOrder item buyOrSell quantity unitPrice userID => exact tracked_insertOrder hQ hw
    | deleteOrder orderID => exact tracked_deleteOrder hg hw
    | updateOrder item buyOrSell quantity unitPrice userID orderID =>
      exact tracked_updateOrder hg hQ hw
    | _ => exact tracked_untouched id hw

end Steps

theorem consumed_within_posted [CDouble D] [DecidableEq ι] (S : CreatedAtSort D) (db : Database D)
    (hdb : ∀ r ∈ db.orders.rows, 0 ≤ r.quantity) {t : Sessions D ι}
    (h : SessionsReach S RowUnchanged TradeCall.Positive (idle (.start db)) t) :
    WithinPosted t.world := by
  have hstart : Tracked (Shared.start db : Shared D ι) := by
    refine ⟨fun id r hr => ?_, fun id p hp => ?_, fun id hid => ?_⟩
    · have hr' : db.order id = some r := hr
      exact ⟨hdb r (Database.order_mem hr'), r.quantity, by simp [Shared.start, hr'], by simp [Shared.start]⟩
    · obtain ⟨r, hr, rfl⟩ := Option.map_eq_some_iff.mp hp
      exact hdb r (Database.order_mem hr)
    · have hnone : db.order id = none := Table.find_fresh db.orders hid
      exact ⟨by simp [Shared.start, hnone], rfl⟩
  have htracked : Tracked t.world := by
    apply world_reaches (I := Tracked) (Q := KeepsQuantities) ?_ ?_ ?_ h hstart
    · exact fun o ho => program_keepsQuantities ho
    · exact fun i c w hQ hg hw => tracked_serve c hQ hg hw
    · exact fun e w hw => tracked_of_same (w := w) rfl rfl rfl hw
  exact htracked.within

def oneOffer : Database ℚ :=
  Runs.final (apply (.stable ℚ))
    [.register (newUser ['a'] ['p'] ['A']), .register (newUser ['b'] ['p'] ['B']),
      .register (newUser ['c'] ['p'] ['C']), .sell (createOrder COIN_DOGE SELL 10 1 1)] .empty

def twoTakers : List (Action Bool (TradeCall ℚ) Nat) :=
  [.start false (.buy (createOrder COIN_DOGE BUY 10 1 2)),
    .start true (.buy (createOrder COIN_DOGE BUY 10 1 3))]

def staleTaker : Option (Sessions ℚ Bool) :=
  schedule (serve (.stable ℚ)) TradeCall.program Shared.elapse (fun _ _ _ => True)
    TradeCall.Positive (twoTakers ++ List.replicate 11 (.call false) ++
      List.replicate 49 (.call true) ++ List.replicate 38 (.call false) ++
      [.finish false, .finish true])
    (idle (.start oneOffer))

theorem consumed_beyond_posted :
    ¬ ∀ (ι : Type) (_ : DecidableEq ι) (S : CreatedAtSort ℚ) (db : Database ℚ) (t : Sessions ℚ ι),
      (∀ r ∈ db.orders.rows, 0 ≤ r.quantity) →
      SessionsReach S (fun _ _ _ => True) TradeCall.Positive (idle (.start db)) t → Quiet t →
        WithinPosted t.world := by
  intro h
  have hrun : staleTaker.any (fun t => (t.procs false).isNone && (t.procs true).isNone &&
      t.world.posted 1 == some 10 && t.world.consumed 1 == 20) = true := by
    decide +kernel
  obtain ⟨t, ht, hcheck⟩ := (Option.any_eq_true ..).mp hrun
  simp only [Bool.and_eq_true, Option.isNone_iff_eq_none, beq_iff_eq] at hcheck
  obtain ⟨⟨⟨hfalse, htrue⟩, hposted⟩, hconsumed⟩ := hcheck
  have hquiet : Quiet t := fun i => by cases i <;> assumption
  have hwithin := h Bool inferInstance (.stable ℚ) oneOffer t (by decide +kernel)
    (reaches_of_schedule ht) hquiet 1 10 hposted
  omega

def takersInTurn : Option (Sessions ℚ Bool) :=
  schedule (serve (.stable ℚ)) TradeCall.program Shared.elapse RowUnchanged TradeCall.Positive
    (twoTakers ++ List.replicate 49 (.call true) ++ List.replicate 25 (.call false) ++
      [.finish true, .finish false])
    (idle (.start oneOffer))

theorem takersInTurn_isSome : takersInTurn.isSome = true := by
  decide +kernel

theorem consumed_within_posted_takersInTurn :
    WithinPosted (takersInTurn.get takersInTurn_isSome).world :=
  consumed_within_posted (.stable ℚ) oneOffer (by decide +kernel)
    (reaches_of_schedule (Option.some_get _).symm)

end Marketplace
