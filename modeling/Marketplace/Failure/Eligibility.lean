import Marketplace.Failure.Atomicity
import Marketplace.Market.Effects

namespace Marketplace
open CallTree KeyedTable Runs

variable {D : Type} [CDouble D]

structure SameTerms (a r : Order D) : Prop where
  item : a.item = r.item
  buyOrSell : a.buyOrSell = r.buyOrSell
  quantity : a.quantity = r.quantity
  unitPrice : a.unitPrice = r.unitPrice
  userID : a.userID = r.userID

structure TradesWith (ord : Order D) (opponent : Order D → Prop) (db db' : Database D) : Prop where
  orders : ∀ r ∈ db.orders.rows, ¬ opponent r → db'.order r.orderID = some r
  users : ∀ id ≠ ord.userID, (∀ r, opponent r → r.userID ≠ id) → db'.user id = db.user id
  archives : ∀ a ∈ db'.archives.rows,
    a ∈ db.archives.rows ∨ ∃ r, opponent r ∧ (SameTerms a r ∨ SameTerms a ord)

namespace TradesWith

variable {ord : Order D} {opponent : Order D → Prop} {db db' : Database D}

omit [CDouble D] in
theorem refl (ord : Order D) (opponent : Order D → Prop) (db : Database D) :
    TradesWith ord opponent db db where
  orders _ hr _ := Database.order_of_mem hr
  users _ _ _ := rfl
  archives _ ha := .inl ha

omit [CDouble D] in
theorem mono {opponent' : Order D → Prop} (h : TradesWith ord opponent db db')
    (himp : ∀ r, opponent r → opponent' r) : TradesWith ord opponent' db db' where
  orders r hr hopp := h.orders r hr (fun hr' => hopp (himp r hr'))
  users id hid hopp := h.users id hid (fun r hr => hopp r (himp r hr))
  archives a ha := by
    rcases h.archives a ha with ha | ⟨r, hr, hterms⟩
    · exact .inl ha
    · exact .inr ⟨r, himp r hr, hterms⟩

omit [CDouble D] in
theorem setBalance (h : TradesWith ord opponent db db') {u : User}
    (hu : u.userID = ord.userID ∨ ∃ r, opponent r ∧ r.userID = u.userID) :
    TradesWith ord opponent db (db'.setBalance u) where
  orders := h.orders
  users id hid hopp := by
    have hne : id ≠ u.userID := by
      rintro rfl
      rcases hu with hu | ⟨r, hr, hru⟩
      · exact hid hu
      · exact hopp r hr hru
    rw [Database.user_setBalance_other hne]
    exact h.users id hid hopp
  archives := h.archives

omit [CDouble D] in
theorem place (h : TradesWith ord opponent db db') (placed : Order D) :
    TradesWith ord opponent db (db'.place placed) where
  orders r hr hopp := by
    have hrow := h.orders r hr hopp
    have hle := order_id_le hrow
    rw [order_place, if_neg (by omega)]
    exact hrow
  users := h.users
  archives := h.archives

omit [CDouble D] in
theorem archive (h : TradesWith ord opponent db db') {archived : Order D}
    (ha : ∃ r, opponent r ∧ (SameTerms archived r ∨ SameTerms archived ord)) :
    TradesWith ord opponent db (db'.archive archived) where
  orders := h.orders
  users := h.users
  archives a hmem := by
    rcases Table.mem_insert.mp hmem with hmem | rfl
    · exact h.archives a hmem
    · obtain ⟨r, hr, hterms⟩ := ha
      refine .inr ⟨r, hr, hterms.imp (fun h => ?_) (fun h => ?_)⟩
      · exact ⟨h.item, h.buyOrSell, h.quantity, h.unitPrice, h.userID⟩
      · exact ⟨h.item, h.buyOrSell, h.quantity, h.unitPrice, h.userID⟩

variable {m : Order D} (hm : opponent m) (hrow : db.order m.orderID = some m)
include hm hrow

omit [CDouble D] in
theorem other_row {r : Order D} (hr : r ∈ db.orders.rows) (hopp : ¬ opponent r) :
    r.orderID ≠ m.orderID := by
  intro hid
  have hsame := Database.order_of_mem hr
  rw [hid, hrow] at hsame
  cases hsame
  exact hopp hm

omit [CDouble D] in
theorem deleteOrderRow (h : TradesWith ord opponent db db') :
    TradesWith ord opponent db (db'.deleteOrderRow m.orderID) where
  orders r hr hopp := by
    have herase : (db'.deleteOrderRow m.orderID).order r.orderID =
        if r.orderID = m.orderID then none else db'.order r.orderID := Table.find_erase _ _ _
    rw [herase, if_neg (other_row hm hrow hr hopp)]
    exact h.orders r hr hopp
  users := h.users
  archives := h.archives

omit [CDouble D] in
theorem updateOrderRow (h : TradesWith ord opponent db db') (item buyOrSell quantity : Int)
    (unitPrice : D) (userID : Int) :
    TradesWith ord opponent db
      (db'.updateOrderRow item buyOrSell quantity unitPrice userID m.orderID) where
  orders r hr hopp := by
    simp only [Database.order, Database.updateOrderRow, Table.find_modify,
      if_neg (other_row hm hrow hr hopp), Option.map_id']
    exact h.orders r hr hopp
  users := h.users
  archives := h.archives

end TradesWith

abbrev KeepsFaulty (S : CreatedAtSort D) (f : Nat → Option Int) (I : Database D → Prop) {α : Type}
    (p : SQL D α) (P : α → Prop) : Prop :=
  p.Keeps (faulty S f) (fun w => I w.1) P

section Queries

variable {S : CreatedAtSort D} {f : Nat → Option Int} {I : Database D → Prop} (hf : ErrorCodes f)
include hf

theorem getUser_keeps (id : Int) :
    KeepsFaulty S f I (getUser id) (fun r => ∀ u, r = .ok u → u.userID = id) := by
  rintro ⟨db, n⟩ hdb
  rcases getUser_faulty S hf db n id with ⟨-, hr⟩ | ⟨-, code, n', -, hr⟩
  · rw [hr]
    refine ⟨fun u hu => ?_, hdb⟩
    cases hfound : db.user id with
    | none =>
      rw [hfound] at hu
      cases hu
    | some v =>
      rw [hfound] at hu
      cases hu
      exact Database.user_userID hfound
  · rw [hr]
    refine ⟨fun u hu => ?_, hdb⟩
    cases hu

theorem assignOrderTimestamp_keeps (ord : Order D) :
    KeepsFaulty S f I (assignOrderTimestamp ord)
      (fun r => ∀ o, r = .ok o → ∃ created, o = { ord with createdAt := created }) := by
  rintro ⟨db, n⟩ hdb
  rcases assignOrderTimestamp_faulty S hf db n ord with ⟨-, hr⟩ | ⟨-, code, n', -, hr⟩
  · rw [hr]
    refine ⟨fun o ho => ?_, hdb⟩
    cases ho
    exact ⟨some db.now, rfl⟩
  · rw [hr]
    refine ⟨fun o ho => ?_, hdb⟩
    cases ho

theorem updateUserBalance_keeps (u : User) (hI : ∀ db, I db → I (db.setBalance u)) :
    KeepsFaulty S f I (updateUserBalance u) (fun _ => True) := by
  rintro ⟨db, n⟩ hdb
  rcases updateUserBalance_faulty S hf db n u with ⟨-, hr⟩ | ⟨-, code, n', -, hr⟩
  · rw [hr]
    exact ⟨trivial, hI db hdb⟩
  · rw [hr]
    exact ⟨trivial, hdb⟩

theorem insertArchive_keeps (ord : Order D)
    (hI : ∀ db created, I db → I (db.archive { ord with createdAt := created })) :
    KeepsFaulty S f I (insertArchive ord) (fun _ => True) := by
  rintro ⟨db, n⟩ hdb
  rcases insertArchive_faulty S hf db n ord with ⟨code, n', -, -, hr⟩ | ⟨-, -, created, hr⟩
  · rw [hr]
    exact ⟨trivial, hdb⟩
  · rw [hr]
    exact ⟨trivial, hI db created hdb⟩

theorem deleteOrder_keeps (id : Int) (hI : ∀ db, I db → I (db.deleteOrderRow id)) :
    KeepsFaulty S f I (deleteOrder id) (fun _ => True) := by
  rintro ⟨db, n⟩ hdb
  rcases deleteOrder_faulty S hf db n id with ⟨code, n', -, -, hr⟩ | ⟨-, hr⟩ | ⟨-, hr⟩
  · rw [hr]
    exact ⟨trivial, hdb⟩
  · rw [hr]
    exact ⟨trivial, hdb⟩
  · rw [hr]
    exact ⟨trivial, hI db hdb⟩

theorem execute_keeps (s : Stmt D) (hI : ∀ db, I db → I (s.exec S db).2) :
    KeepsFaulty S f I (execute s) (fun _ => True) := by
  rintro ⟨db, n⟩ hdb
  rcases execute_faulty S hf db n s with ⟨-, hr⟩ | ⟨-, code, -, hr⟩
  · rw [hr]
    exact ⟨trivial, hI db hdb⟩
  · rw [hr]
    exact ⟨trivial, hdb⟩

omit hf in
theorem prepare_keeps : KeepsFaulty S f I sqlite3Prepare (fun _ => True) :=
  fun _ hdb => ⟨trivial, hdb⟩

theorem bindChecked_keeps (k : Nat) : KeepsFaulty S f I (bindChecked k) (fun _ => True) := by
  rintro ⟨db, n⟩ hdb
  rcases run_bindChecked_faulty S db n hf k with ⟨-, hr⟩ | ⟨-, code, n', -, hr⟩
  · rw [hr]
    exact ⟨trivial, hdb⟩
  · rw [hr]
    exact ⟨trivial, hdb⟩

theorem updateOrder_keeps (ord : Order D) (hI : ∀ db, I db → I (db.rewrite ord)) :
    KeepsFaulty S f I (updateOrder ord) (fun _ => True) := by
  have hexec (db : Database D) (hdb : I db) : I ((Stmt.updateOrder ord.item ord.buyOrSell ord.quantity
      (doubleParameter ord.unitPrice) ord.userID ord.orderID).exec S db).2 := by
    cases hrow : db.order ord.orderID with
    | none => simpa [exec_updateOrder_match, hrow] using hdb
    | some r =>
      rcases exec_updateOrder S (doubleParameter ord.unitPrice) ord.item ord.buyOrSell ord.quantity
        ord.userID ord.orderID hrow with he | ⟨p, hp, he⟩
      · rwa [he]
      · unfold doubleParameter at hp
        split_ifs at hp
        cases hp
        rw [he]
        exact hI db hdb
  refine Prog.keeps_bind prepare_keeps (fun res _ => ?_)
  refine Prog.keeps_ite (fun _ => Prog.keeps_pure trivial) (fun _ => ?_)
  refine Prog.keeps_bind (bindChecked_keeps hf 6) (fun res _ => ?_)
  exact Prog.keeps_ite (fun _ => Prog.keeps_pure trivial) (fun _ => execute_keeps hf _ hexec)

theorem insertOrder_keeps (ord : Order D) (hplace : ∀ db, I db → I (db.place ord))
    (hwithhold : ∀ db u, I db → u.userID = ord.userID → I (db.setBalance u)) :
    KeepsFaulty S f I (insertOrder ord) (fun _ => True) := by
  rintro ⟨db, n⟩ hdb
  obtain ⟨res, n', hr, hres⟩ := insertOrder_faulty S hf db n ord
  rw [hr]
  refine ⟨trivial, ?_⟩
  cases hres with
  | failed code h hwhy => exact hdb
  | unpaid u code h hu hi hn hwhy => exact hplace db hdb
  | rested u hu hi hn =>
    refine hwithhold _ _ (hplace db hdb) ?_
    rw [(withholdBalance_sameAccount u ord).1, Database.user_userID hu]

end Queries

section Settling

variable {S : CreatedAtSort D} {f : Nat → Option Int} {db : Database D} {ord m : Order D}
  {opponent : Order D → Prop} (hf : ErrorCodes f) (hm : opponent m)
  (hrow : db.order m.orderID = some m)
include hf hm hrow

theorem closeMatch_keeps {rest left : Order D} (hrest : rest.userID = ord.userID)
    (hleft : left.orderID = m.orderID) :
    KeepsFaulty S f (TradesWith ord opponent db) (closeMatch rest left) (fun _ => True) := by
  have hclose : KeepsFaulty S f (TradesWith ord opponent db) (deleteOrUpdateOrder left)
      (fun _ => True) := by
    refine Prog.keeps_ite (fun _ => deleteOrder_keeps hf _ ?_) (fun _ => updateOrder_keeps hf _ ?_)
    · rw [hleft]
      exact fun db' h => h.deleteOrderRow hm hrow
    · intro db' h
      rw [Database.rewrite, hleft]
      exact h.updateOrderRow hm hrow _ _ _ _ _
  refine Prog.keeps_bind hclose (fun res _ => ?_)
  refine Prog.keeps_ite (fun _ => Prog.keeps_pure trivial) (fun _ => ?_)
  refine Prog.keeps_ite (fun _ => ?_) (fun _ => Prog.keeps_pure trivial)
  refine Prog.keeps_bind (insertOrder_keeps hf rest (fun db' h => h.place rest) ?_) (fun res _ => ?_)
  · exact fun db' u h hu => h.setBalance (.inl (hu.trans hrest))
  · exact Prog.keeps_ite (fun _ => Prog.keeps_pure trivial) (fun _ => Prog.keeps_pure trivial)

theorem settleMatch_keeps {taker : User} {maker : User → User} (htaker : taker.userID = ord.userID)
    (hmaker : ∀ v, (maker v).userID = v.userID) :
    KeepsFaulty S f (TradesWith ord opponent db) (settleMatch ord m taker maker) (fun _ => True) := by
  refine Prog.keeps_bind (assignOrderTimestamp_keeps hf ord) (fun r hr => ?_)
  cases r with
  | error code => exact Prog.keeps_pure trivial
  | ok stamped =>
    obtain ⟨created, rfl⟩ := hr stamped rfl
    refine Prog.keeps_bind (insertArchive_keeps hf m fun db' created h => ?_) (fun res _ => ?_)
    · exact h.archive ⟨m, hm, .inl ⟨rfl, rfl, rfl, rfl, rfl⟩⟩
    refine Prog.keeps_ite (fun _ => Prog.keeps_pure trivial) (fun _ => ?_)
    refine Prog.keeps_bind (insertArchive_keeps hf _ fun db' created h => ?_) (fun res _ => ?_)
    · exact h.archive ⟨m, hm, .inr ⟨rfl, rfl, rfl, rfl, rfl⟩⟩
    refine Prog.keeps_ite (fun _ => Prog.keeps_pure trivial) (fun _ => ?_)
    refine Prog.keeps_bind (updateUserBalance_keeps hf taker fun db' h => ?_) (fun res _ => ?_)
    · exact h.setBalance (.inl htaker)
    refine Prog.keeps_ite (fun _ => Prog.keeps_pure trivial) (fun _ => ?_)
    refine Prog.keeps_bind (getUser_keeps hf m.userID) (fun r hr => ?_)
    cases r with
    | error code => exact Prog.keeps_pure trivial
    | ok v =>
      refine Prog.keeps_bind (updateUserBalance_keeps hf (maker v) fun db' h => ?_) (fun res _ => ?_)
      · exact h.setBalance (.inr ⟨m, hm, ((hmaker v).trans (hr v rfl)).symm⟩)
      refine Prog.keeps_ite (fun _ => Prog.keeps_pure trivial) (fun _ => ?_)
      exact closeMatch_keeps hf hm hrow rfl rfl

end Settling

inductive Taker where
  | buyer
  | seller
deriving DecidableEq, Repr

namespace Taker

def find : Taker → Order D → SQL D Int
  | .buyer => findMatchingSell
  | .seller => findMatchingBuy

def trade : Taker → Order D → SQL D Int
  | .buyer => buy
  | .seller => sell

def opposite : Taker → Int
  | .buyer => SELL
  | .seller => BUY

def accepts : Taker → D → D → Bool
  | .buyer, incoming, resting => CDouble.le resting incoming
  | .seller, incoming, resting => CDouble.le incoming resting

structure Eligible (taker : Taker) (ord r : Order D) : Prop where
  item : r.item = ord.item
  opposite : r.buyOrSell = taker.opposite
  price : taker.accepts ord.unitPrice r.unitPrice = true
  owner : r.userID ≠ ord.userID

end Taker

def EligibleID (taker : Taker) (db : Database D) (ord : Order D) (id : Int) : Prop :=
  ∃ r ∈ db.orders.rows, taker.Eligible ord r ∧ r.orderID = id

structure TradesEligible (S : CreatedAtSort D) (f : Nat → Option Int) (taker : Taker)
    (db : Database D) (ord : Order D) : Prop where
  found : ((taker.find ord).run (faulty S f) (db, 3)).1 = -1 ∨
    EligibleID taker db ord ((taker.find ord).run (faulty S f) (db, 3)).1
  filled : TradesWith ord (fun r => r ∈ db.orders.rows ∧ taker.Eligible ord r) db
    ((taker.trade ord).run (faulty S f) (db, 0)).2.1
  own : ∀ r ∈ db.orders.rows, r.userID = ord.userID →
    ((taker.trade ord).run (faulty S f) (db, 0)).2.1.order r.orderID = some r

section Trading

variable {S : CreatedAtSort D} {f : Nat → Option Int} {db : Database D} {ord : Order D} {taker : Taker}

theorem find_faulty (hf : ErrorCodes f) (taker : Taker) (db : Database D) (ord : Order D) :
    ∃ id n, (taker.find ord).run (faulty S f) (db, 3) = (id, (db, n)) ∧
      ((f 3 = some id) ∨ f 3 = none ∧ (id = -1 ∨ EligibleID taker db ord id)) := by
  cases taker with
  | buyer =>
    rcases findMatchingSell_faulty S hf db 3 ord with ⟨code, hcode, hr⟩ | ⟨h3, -, hr⟩ | ⟨h3, -, hr⟩
    · exact ⟨code, 4, hr, .inl hcode⟩
    · refine ⟨_, 8, hr, .inr ⟨h3, ?_⟩⟩
      cases hm : matchSell S db ord with
      | none => exact .inl rfl
      | some m =>
        obtain ⟨hmem, hans⟩ := matchSell_some hm
        obtain ⟨hitem, hside, -, hprice, howner⟩ := answersSell_iff.mp hans
        exact .inr ⟨m, hmem, ⟨hitem.symm, hside, hprice, howner⟩, rfl⟩
    · exact ⟨-1, 8, hr, .inr ⟨h3, .inl rfl⟩⟩
  | seller =>
    rcases findMatchingBuy_faulty S hf db 3 ord with ⟨code, hcode, hr⟩ | ⟨h3, -, hr⟩ | ⟨h3, -, hr⟩
    · exact ⟨code, 4, hr, .inl hcode⟩
    · refine ⟨_, 8, hr, .inr ⟨h3, ?_⟩⟩
      cases hm : matchBuy S db ord with
      | none => exact .inl rfl
      | some m =>
        obtain ⟨hmem, hans⟩ := matchBuy_some hm
        obtain ⟨hitem, hside, -, hprice, howner⟩ := answersBuy_iff.mp hans
        exact .inr ⟨m, hmem, ⟨hitem.symm, hside, hprice, howner⟩, rfl⟩
    · exact ⟨-1, 8, hr, .inr ⟨h3, .inl rfl⟩⟩

theorem trade_tradesWith (hf : ErrorCodes f) {opponent : Order D → Prop} {find : SQL D Int}
    {settle : Order D → SQL D Int} {id : Int} {n : Nat}
    (hfind : find.run (faulty S f) (db, 3) = (id, (db, n)))
    (hid : id ≠ -1 → ∀ m, db.order id = some m → opponent m)
    (hsettle : ∀ m, opponent m → db.order m.orderID = some m →
      KeepsFaulty S f (TradesWith ord opponent db) (settle m) (fun _ => True)) :
    TradesWith ord opponent db ((trade find ord settle).run (faulty S f) (db, 3)).2.1 := by
  have hstart : TradesWith ord opponent db db := .refl ord opponent db
  simp only [trade, Prog.run_bind, hfind]
  split
  · exact (insertOrder_keeps hf ord (fun db' h => h.place ord)
      (fun db' u h hu => h.setBalance (.inl hu)) (db, n) hstart).2
  · next hne =>
    rcases getOrder_faulty S hf db n id with ⟨-, hg⟩ | ⟨-, code, n', -, hg⟩
    · cases hrow : db.order id with
      | none =>
        simp only [Prog.run_bind, hg, hrow]
        exact hstart
      | some m =>
        simp only [Prog.run_bind, hg, hrow]
        refine (hsettle m (hid hne m hrow) ?_ (db, n + 3) hstart).2
        rw [Database.order_orderID hrow]
        exact hrow
    · simp only [Prog.run_bind, hg]
      exact hstart

theorem found_eligible (hf : ErrorCodes f) (hcodes : ∀ code ∈ f 3, EligibleID taker db ord code) {id : Int}
    {w : Database D × Nat} (hfind : (taker.find ord).run (faulty S f) (db, 3) = (id, w)) :
    id = -1 ∨ EligibleID taker db ord id := by
  obtain ⟨id', n, hrun, hid⟩ := find_faulty (S := S) hf taker db ord
  cases hrun.symm.trans hfind
  rcases hid with h3 | ⟨-, hid⟩
  · exact .inr (hcodes id h3)
  · exact hid

theorem opponent_of_id {id : Int} {m : Order D} (hid : id = -1 ∨ EligibleID taker db ord id)
    (hne : id ≠ -1) (hrow : db.order id = some m) : m ∈ db.orders.rows ∧ taker.Eligible ord m := by
  obtain ⟨r, hr, hel, rfl⟩ := hid.resolve_left hne
  cases (Database.order_of_mem hr).symm.trans hrow
  exact ⟨hr, hel⟩

theorem checkedTrade_tradesWith (hf : ErrorCodes f) {opponent : Order D → Prop} {find : SQL D Int}
    {refused : User → Bool} {settle : User → Order D → SQL D Int} {id : Int} {n : Nat}
    (hfind : find.run (faulty S f) (db, 3) = (id, (db, n)))
    (hid : id ≠ -1 → ∀ m, db.order id = some m → opponent m)
    (hsettle : ∀ u m, u.userID = ord.userID → opponent m → db.order m.orderID = some m →
      KeepsFaulty S f (TradesWith ord opponent db) (settle u m) (fun _ => True)) :
    TradesWith ord opponent db
      ((checkedTrade ord refused find settle).run (faulty S f) (db, 0)).2.1 := by
  have hstart : TradesWith ord opponent db db := .refl ord opponent db
  rw [checkedTrade, Prog.run_bind]
  rcases getUser_faulty S hf db 0 ord.userID with ⟨-, hg⟩ | ⟨-, code, n', -, hg⟩
  · cases hu : db.user ord.userID with
    | none =>
      simp only [hg, hu]
      exact hstart
    | some u =>
      simp only [hg, hu, zero_add, Prog.run_ite]
      split
      · exact hstart
      · exact trade_tradesWith hf hfind hid (fun m => hsettle u m (Database.user_userID hu))
  · simp only [hg]
    exact hstart

theorem filled_eligible (hf : ErrorCodes f) (hcodes : ∀ code ∈ f 3, EligibleID taker db ord code) :
    TradesWith ord (fun r => r ∈ db.orders.rows ∧ taker.Eligible ord r) db
      ((taker.trade ord).run (faulty S f) (db, 0)).2.1 := by
  obtain ⟨id, n, hfind, -⟩ := find_faulty (S := S) hf taker db ord
  have hid (hne : id ≠ -1) (m : Order D) (hrow : db.order id = some m) :=
    opponent_of_id (found_eligible hf hcodes hfind) hne hrow
  cases taker with
  | buyer =>
    rw [Taker.trade, buy_eq_checkedTrade]
    refine checkedTrade_tradesWith hf hfind hid ?_
    intro u m hu hm hrow
    have htaker := (buyTaker_sameAccount u ord m).1.trans hu
    exact settleMatch_keeps hf hm hrow htaker (fun v => (buyMaker_sameAccount ord m v).1)
  | seller =>
    rw [Taker.trade, sell_eq_checkedTrade]
    refine checkedTrade_tradesWith hf hfind hid ?_
    intro u m hu hm hrow
    have htaker := (sellTaker_sameAccount u ord m).1.trans hu
    exact settleMatch_keeps hf hm hrow htaker (fun v => (sellMaker_sameAccount ord m v).1)

theorem trades_eligible_iff (hf : ErrorCodes f) :
    TradesEligible S f taker db ord ↔ ∀ code ∈ f 3, EligibleID taker db ord code := by
  constructor
  · intro h code hcode
    obtain ⟨id, n, hfind, hid⟩ := find_faulty (S := S) hf taker db ord
    have hfound := h.found
    rw [hfind] at hfound
    rcases hid with h3 | ⟨h3, -⟩
    · have hid : id = code := Option.some.inj (h3.symm.trans hcode)
      have hpos := (hf 3 code hcode).1
      rw [hid] at hfound
      exact hfound.resolve_left (by omega)
    · cases h3.symm.trans hcode
  · intro hcodes
    obtain ⟨id, n, hfind, -⟩ := find_faulty (S := S) hf taker db ord
    have hfilled := filled_eligible (S := S) hf hcodes
    refine ⟨?_, hfilled, fun r hr hown => hfilled.orders r hr (fun h => h.2.owner hown)⟩
    rw [hfind]
    exact found_eligible hf hcodes hfind

end Trading

def standingSell : List (Op ℚ) :=
  [.register (newUser ['a'] ['p'] ['A']), .register (newUser ['b'] ['p'] ['B']),
    .sell (createOrder COIN_DOGE SELL 5 1 1)]

theorem trades_with_himself :
    ¬ ∀ (S : CreatedAtSort ℚ) (f : Nat → Option Int) (taker : Taker) (db : Database ℚ) (ord : Order ℚ),
      ErrorCodes f → TradesEligible S f taker db ord := by
  intro h
  have hfault : ∀ p ∈ some (3, SQLITE_ERROR), IsErrorCode p.2 := by decide
  have htrades := h (.stable ℚ) (faultAt (some (3, SQLITE_ERROR))) .buyer
    (final (apply (.stable ℚ)) standingSell Database.empty) (createOrder COIN_DOGE BUY 5 1 1)
    (errorCodes_faultAt hfault)
  have hown := htrades.own
  revert hown
  decide +kernel

theorem trades_eligible_interrupted :
    TradesEligible (.stable ℚ) (faultAt (some (21, SQLITE_ERROR))) .buyer
      (final (apply (.stable ℚ)) standingSell Database.empty) (createOrder COIN_DOGE BUY 5 1 2) := by
  have hfault : ∀ p ∈ some (21, SQLITE_ERROR), IsErrorCode p.2 := by decide
  have hclear : faultAt (some (21, SQLITE_ERROR)) 3 = none := by decide
  refine (trades_eligible_iff (errorCodes_faultAt hfault)).mpr (fun code hcode => ?_)
  rw [hclear] at hcode
  cases hcode

end Marketplace
