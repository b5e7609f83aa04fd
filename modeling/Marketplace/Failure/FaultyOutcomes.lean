import Marketplace.Failure.Faults
import Marketplace.Command.Outcomes

namespace Marketplace
open CallTree KeyedTable

variable {D : Type} [CDouble D]

inductive CloseFaulty (f : Nat → Option Int) (db : Database D) (n : Nat) (ord m : Order D) :
    Int × Database D → Prop
  | stopped (hwhy : ¬ Clear f n 8 ∨ CDouble.isNaN m.unitPrice = true ∨ db.user m.userID = none) :
      CloseFaulty f db n ord m (-1, db)
  | undeleted (hm : m.quantity = 0) (hb : f (n + 1) ≠ none) (res : Int × Database D) :
      CloseFaulty f db n ord m res
  | closed (h : ord.quantity ≤ 0) : CloseFaulty f db n ord m (0, db.close m)
  | inserted (h : 0 < ord.quantity) (res : Int × Database D)
      (hres : InsertFaulty f (db.close m) (if m.quantity = 0 then n + 3 else n + 8) ord res) :
      CloseFaulty f db n ord m (if res.1 = 0 then 0 else -1, res.2)

section Close

variable (S : CreatedAtSort D) {f : Nat → Option Int} (hf : ErrorCodes f) (db : Database D) (n : Nat)
include hf

theorem deleteOrUpdateOrder_faulty (m : Order D) {r : Order D} (hrow : db.order m.orderID = some r) :
    (∃ code n', 0 < code ∧ (¬ Clear f n 8 ∨ CDouble.isNaN m.unitPrice = true ∨
        db.user m.userID = none) ∧
      (deleteOrUpdateOrder m).run (faulty S f) (db, n) = (code, (db, n'))) ∨
    (m.quantity = 0 ∧ f (n + 1) ≠ none) ∨
    (deleteOrUpdateOrder m).run (faulty S f) (db, n) =
      (SQLITE_OK, (db.close m, if m.quantity = 0 then n + 3 else n + 8)) := by
  have hshort : Clear f n 8 → Clear f n 3 := fun h j hj => h j (by omega)
  unfold deleteOrUpdateOrder Database.close
  split
  · next hq =>
    rcases deleteOrder_faulty S hf db n m.orderID with ⟨code, n', hcode, hc, hr⟩ | ⟨hb, -⟩ | ⟨-, hr⟩
    · exact .inl ⟨code, n', hcode, .inl fun h => hc (hshort h), hr⟩
    · exact .inr (.inl ⟨hq, hb⟩)
    · exact .inr (.inr hr)
  · rcases updateOrder_faulty S hf db n m hrow with h | hr
    · exact .inl h
    · exact .inr (.inr hr)

theorem closeMatch_faulty (ord m : Order D) {r : Order D} (hrow : db.order m.orderID = some r) :
    ∃ res n', (closeMatch ord m).run (faulty S f) (db, n) = (res.1, (res.2, n')) ∧
      CloseFaulty f db n ord m res := by
  rcases deleteOrUpdateOrder_faulty S hf db n m hrow with
    ⟨code, n', hcode, hwhy, hr⟩ | ⟨hq, hb⟩ | hr
  · have hne : code ≠ 0 := by omega
    refine ⟨(-1, db), n', ?_, .stopped hwhy⟩
    simp [closeMatch, hr, hne]
  · exact ⟨(_, _), _, rfl, .undeleted hq hb _⟩
  · by_cases hpos : 0 < ord.quantity
    · obtain ⟨res, n', hins, hres⟩ := insertOrder_faulty S hf (db.close m)
        (if m.quantity = 0 then n + 3 else n + 8) ord
      refine ⟨(if res.1 = 0 then 0 else -1, res.2), n', ?_, .inserted hpos res hres⟩
      by_cases hz : res.1 = 0 <;> simp [closeMatch, hr, SQLITE_OK, hpos, hins, hz]
    · refine ⟨(0, db.close m), if m.quantity = 0 then n + 3 else n + 8, ?_, .closed (by omega)⟩
      simp only [closeMatch, Prog.run_bind, hr, SQLITE_OK, ne_eq, not_true, if_false, hpos]
      rfl

end Close

inductive SettleFaulty (f : Nat → Option Int) (db : Database D) (n : Nat) (ord m : Order D)
    (taker : User) (maker : User → User) : Int × Database D → Prop
  | unarchived (hwhy : ¬ Clear f n 10 ∨ CDouble.isNaN m.unitPrice = true ∨
        db.user m.userID = none) : SettleFaulty f db n ord m taker maker (-1, db)
  | stopped (db' : Database D) (horders : db'.orders = db.orders)
      (hwhy : ¬ Clear f (n + 10) 25 ∨ CDouble.isNaN ord.unitPrice = true ∨
        db.user ord.userID = none) :
      SettleFaulty f db n ord m taker maker (-1, db')
  | moved (db' : Database D) (v : User) (hprice : CDouble.isNaN m.unitPrice = false)
      (horders : db'.orders = db.orders)
      (husers : db'.users = ((db.setBalance taker).setBalance (maker v)).users)
      (hv : (db.setBalance taker).user m.userID = some v) (res : Int × Database D)
      (hres : CloseFaulty f db' (n + 35) (remainder db ord m)
        (m.reduce (transactionQuantity ord m)) res) :
      SettleFaulty f db n ord m taker maker res

section Settle

variable (S : CreatedAtSort D) {f : Nat → Option Int} (hf : ErrorCodes f) (db : Database D) (n : Nat)
include hf

theorem settleArchived_faulty {db₁ : Database D} (ord m : Order D) (taker : User)
    (maker : User → User) (horders : db₁.orders = db.orders) (husers : db₁.users = db.users)
    (hprice : CDouble.isNaN m.unitPrice = false) (hmaker : (db.user m.userID).isSome)
    (hrow : db.order m.orderID = some m)
    (ht : (assignOrderTimestamp ord).run (faulty S f) (db, n) = (.ok (ord.stamp db), (db, n + 2)))
    (ha : (insertArchive m).run (faulty S f) (db, n + 2) = (SQLITE_OK, (db₁, n + 2 + 8))) :
    ∃ res n', (settleMatch ord m taker maker).run (faulty S f) (db, n) = (res.1, (res.2, n')) ∧
      SettleFaulty f db n ord m taker maker res := by
  have hsplit : Clear f (n + 10) 25 ↔ Clear f (n + 10) 8 ∧ Clear f (n + 10 + 8) 7 ∧
      Clear f (n + 10 + 8 + 7) 3 ∧ Clear f (n + 10 + 8 + 7 + 3) 7 := by
    rw [← clear_add, ← clear_add, ← clear_add]
  have huser (db' : Database D) (h : db'.users = db.users) (id : Int) : db'.user id = db.user id := by
    rw [Database.user, h, Database.user]
  have hmoved (db' : Database D) (h : db'.users = db.users) (id : Int) :
      (db'.setBalance taker).user id = (db.setBalance taker).user id := by
    rw [Database.user_setBalance, Database.user_setBalance, huser db' h]
  rcases insertArchive_faulty S hf db₁ (n + 10) (ord.stamp db) with
    ⟨code, n', hcode, hwhy, hb⟩ | ⟨-, -, created, hb⟩
  · have hne : code ≠ 0 := by omega
    refine ⟨(-1, db₁), n', ?_, .stopped db₁ horders ?_⟩
    · simp [settleMatch, archiveOrder, ht, ha, hb, hne, SQLITE_OK]
    · rcases hwhy with h | h | h
      · exact .inl fun hc => h (hsplit.mp hc).1
      · exact .inr (.inl h)
      · exact .inr (.inr ((huser db₁ husers _).symm.trans h))
  · set db₂ := db₁.archive { ord.stamp db with createdAt := created }
    have horders₂ : db₂.orders = db.orders := horders
    have husers₂ : db₂.users = db.users := husers
    rcases updateUserBalance_faulty S hf db₂ (n + 10 + 8) taker with ⟨-, hc⟩ | ⟨hwhy, code, n', hcode, hc⟩
    · rcases getUser_faulty S hf (db₂.setBalance taker) (n + 10 + 8 + 7) m.userID with
        ⟨-, hg⟩ | ⟨hwhy, code, n', hcode, hg⟩
      · cases hv : (db₂.setBalance taker).user m.userID with
        | none =>
          have hfound : ((db.setBalance taker).user m.userID).isSome := by simpa using hmaker
          rw [← hmoved db₂ husers₂, hv] at hfound
          cases hfound
        | some v =>
          rw [hv] at hg
          have hv' : (db.setBalance taker).user m.userID = some v :=
            (hmoved db₂ husers₂ _).symm.trans hv
          rcases updateUserBalance_faulty S hf (db₂.setBalance taker) (n + 10 + 8 + 7 + 3) (maker v) with
            ⟨-, hd⟩ | ⟨hwhy, code, n', hcode, hd⟩
          · set db₃ := (db₂.setBalance taker).setBalance (maker v)
            have hrow₃ : db₃.order (m.reduce (transactionQuantity ord m)).orderID = some m := by
              rw [Database.order, show db₃.orders = db.orders from horders₂]
              exact hrow
            obtain ⟨res, n', hclose, hres⟩ := closeMatch_faulty S hf db₃ (n + 35) (remainder db ord m)
              (m.reduce (transactionQuantity ord m)) hrow₃
            refine ⟨res, n', ?_, .moved db₃ v hprice horders₂ ?_ hv' res hres⟩
            · simp only [settleMatch, archiveOrder, Prog.run_bind, ht, ha, hb, hc, hg, hd, SQLITE_OK,
                ne_eq, not_true, if_false, userID_reduce, transactionQuantity_stamp]
              exact hclose
            · simp only [db₃, Database.setBalance, Database.updateBalanceRow, husers₂]
          · have hne : code ≠ 0 := by omega
            refine ⟨(-1, db₂.setBalance taker), n', ?_, .stopped _ horders₂ (.inl fun h => hwhy ?_)⟩
            · simp [settleMatch, archiveOrder, ht, ha, hb, hc, hg, hd, hne, SQLITE_OK]
            · exact (hsplit.mp h).2.2.2
      · refine ⟨(-1, db₂.setBalance taker), n', ?_, .stopped _ horders₂ (.inl fun h => hwhy ?_)⟩
        · simp [settleMatch, archiveOrder, ht, ha, hb, hc, hg, SQLITE_OK]
        · exact (hsplit.mp h).2.2.1
    · have hne : code ≠ 0 := by omega
      refine ⟨(-1, db₂), n', ?_, .stopped _ horders₂ (.inl fun h => hwhy (hsplit.mp h).2.1)⟩
      simp [settleMatch, archiveOrder, ht, ha, hb, hc, hne, SQLITE_OK]

theorem settleMatch_faulty (ord m : Order D) (taker : User) (maker : User → User)
    (hrow : db.order m.orderID = some m) :
    ∃ res n', (settleMatch ord m taker maker).run (faulty S f) (db, n) = (res.1, (res.2, n')) ∧
      SettleFaulty f db n ord m taker maker res := by
  have hten : Clear f n 10 ↔ Clear f n 2 ∧ Clear f (n + 2) 8 := by
    rw [← clear_add]
  rcases assignOrderTimestamp_faulty S hf db n ord with ⟨-, ht⟩ | ⟨hc, code, n', -, ht⟩
  · rcases insertArchive_faulty S hf db (n + 2) m with
      ⟨code, n', hcode, hwhy, ha⟩ | ⟨hprice, hmaker, created, ha⟩
    · have hne : code ≠ 0 := by omega
      refine ⟨(-1, db), n', ?_, .unarchived (hwhy.imp_left fun hc h => hc (hten.mp h).2)⟩
      simp [settleMatch, archiveOrder, ht, ha, hne]
    · exact settleArchived_faulty S hf db n ord m taker maker (by rfl) (by rfl) hprice hmaker hrow ht ha
  · refine ⟨(-1, db), n', ?_, .unarchived (.inl fun h => hc (hten.mp h).1)⟩
    simp [settleMatch, ht]

end Settle

inductive Matches (f : Nat → Option Int) (db : Database D) (found : Option (Order D)) (m : Order D) :
    Nat → Prop
  | queried (h : found = some m) (hc : Clear f 3 5) : Matches f db found m 11
  | misread (h : f 3 = some m.orderID) : Matches f db found m 7

inductive TradeFaulty (f : Nat → Option Int) (db : Database D) (ord : Order D)
    (refused : User → Bool) (found : Option (Order D)) (taker : User → Order D → User)
    (maker : Order D → User → User) : Int × Database D → Prop
  | unchanged (hwhy : ¬ Clear f 0 11 ∨ db.user ord.userID = none ∨
        ∃ u, db.user ord.userID = some u ∧ refused u = true) :
      TradeFaulty f db ord refused found taker maker (-1, db)
  | unmatched (u : User) (hu : db.user ord.userID = some u) (hr : refused u = false)
      (huser : Clear f 0 3) (hnone : f 3 = none ∧ (Clear f 4 4 → found = none)) (res : Int × Database D)
      (hres : InsertFaulty f db 8 ord res) :
      TradeFaulty f db ord refused found taker maker res
  | matched (u : User) (m : Order D) (n : Nat) (hu : db.user ord.userID = some u)
      (hr : refused u = false) (huser : Clear f 0 3) (hm : Matches f db found m n)
      (hread : Clear f (n - 3) 3) (hrow : db.order m.orderID = some m)
      (res : Int × Database D)
      (hres : SettleFaulty f db n ord m (taker u m) (maker m) res) :
      TradeFaulty f db ord refused found taker maker res

def TradeFaulty.Buy (S : CreatedAtSort D) (f : Nat → Option Int) (db : Database D) (ord : Order D) :
    Int × Database D → Prop :=
  TradeFaulty f db ord (fun u => CDouble.lt (CDouble.ofInt u.OMG) ord.total) (matchSell S db ord)
    (fun u m => buyTaker u ord m) (fun m => buyMaker ord m)

def TradeFaulty.Sell (S : CreatedAtSort D) (f : Nat → Option Int) (db : Database D) (ord : Order D) :
    Int × Database D → Prop :=
  TradeFaulty f db ord (fun u => insufficientHolding u ord) (matchBuy S db ord)
    (fun u m => sellTaker u ord m) (fun m => sellMaker ord m)

section Trade

variable (S : CreatedAtSort D) {f : Nat → Option Int} (hf : ErrorCodes f) (db : Database D)
include hf

theorem trade_unmatched {ord : Order D} {find : SQL D Int} {settle : Order D → SQL D Int}
    (hfind : find.run (faulty S f) (db, 3) = (-1, (db, 8))) :
    ∃ res n', (trade find ord settle).run (faulty S f) (db, 3) = (res.1, (res.2, n')) ∧
      InsertFaulty f db 8 ord res := by
  obtain ⟨res, n', hins, hres⟩ := insertOrder_faulty S hf db 8 ord
  refine ⟨res, n', ?_, hres⟩
  simp [trade, hfind, hins]

theorem trade_found {ord m : Order D} {find : SQL D Int} {settle : Order D → SQL D Int} {id : Int}
    {n : Nat} (hid : id ≠ -1) (hfind : find.run (faulty S f) (db, 3) = (id, (db, n)))
    (hrow : db.order id = some m) (hc : Clear f n 3) :
    (trade find ord settle).run (faulty S f) (db, 3) = (settle m).run (faulty S f) (db, n + 3) := by
  rcases getOrder_faulty S hf db n id with ⟨-, hg⟩ | ⟨hnc, -⟩
  · rw [hrow] at hg
    simp [trade, hfind, hid, hg]
  · exact absurd hc hnc

theorem trade_unread (ord : Order D) {find : SQL D Int} (settle : Order D → SQL D Int) {id : Int}
    {n : Nat} (hid : id ≠ -1) (hfind : find.run (faulty S f) (db, 3) = (id, (db, n)))
    (h : ¬ Clear f n 3 ∨ db.order id = none) :
    ∃ n', (trade find ord settle).run (faulty S f) (db, 3) = (-1, (db, n')) := by
  rcases getOrder_faulty S hf db n id with ⟨hc, hg⟩ | ⟨-, code, n', -, hg⟩
  · have hrow : db.order id = none := h.resolve_left (not_not.mpr hc)
    rw [hrow] at hg
    refine ⟨n + 3, ?_⟩
    simp [trade, hfind, hid, hg]
  · refine ⟨n', ?_⟩
    simp [trade, hfind, hid, hg]

theorem trade_faulty {ord : Order D} {u : User} {find : SQL D Int} {settle : Order D → SQL D Int}
    {refused : User → Bool} {found : Option (Order D)} {taker : User → Order D → User}
    {maker : Order D → User → User} (hu : db.user ord.userID = some u) (hr : refused u = false)
    (huser : Clear f 0 3) (hmem : ∀ m ∈ found, m ∈ db.orders.rows)
    (hfind : (∃ code, f 3 = some code ∧ find.run (faulty S f) (db, 3) = (code, (db, 4))) ∨
      (f 3 = none ∧ Clear f 4 4 ∧
        find.run (faulty S f) (db, 3) = (found.elim (-1) Order.orderID, (db, 8))) ∨
      (f 3 = none ∧ ¬ Clear f 4 4 ∧ find.run (faulty S f) (db, 3) = (-1, (db, 8))))
    (hsettle : ∀ m n, db.order m.orderID = some m →
      ∃ res n', (settle m).run (faulty S f) (db, n) = (res.1, (res.2, n')) ∧
        SettleFaulty f db n ord m (taker u m) (maker m) res) :
    ∃ res n', (trade find ord settle).run (faulty S f) (db, 3) = (res.1, (res.2, n')) ∧
      TradeFaulty f db ord refused found taker maker res := by
  have hread {id : Int} {n : Nat} (hid : id ≠ -1)
      (hfound : find.run (faulty S f) (db, 3) = (id, (db, n)))
      (hwhy : ¬ Clear f 0 11) (h : ¬ Clear f n 3 ∨ db.order id = none) :
      ∃ res n', (trade find ord settle).run (faulty S f) (db, 3) = (res.1, (res.2, n')) ∧
        TradeFaulty f db ord refused found taker maker res := by
    obtain ⟨n', hn'⟩ := trade_unread S hf db ord settle hid hfound h
    exact ⟨(-1, db), n', hn', .unchanged (.inl hwhy)⟩
  have hsettled {m : Order D} {n : Nat} (hid : m.orderID ≠ -1)
      (hfound : find.run (faulty S f) (db, 3) = (m.orderID, (db, n)))
      (hrow : db.order m.orderID = some m) (hc : Clear f n 3)
      (hm : Matches f db found m (n + 3)) :
      ∃ res n', (trade find ord settle).run (faulty S f) (db, 3) = (res.1, (res.2, n')) ∧
        TradeFaulty f db ord refused found taker maker res := by
    obtain ⟨res, n', hrun, hres⟩ := hsettle m (n + 3) hrow
    refine ⟨res, n', ?_, .matched u m (n + 3) hu hr huser hm hc hrow res hres⟩
    rw [trade_found S hf db hid hfound hrow hc, hrun]
  rcases hfind with ⟨code, hcode, hfound⟩ | ⟨h3, h4, hfound⟩ | ⟨h3, h4, hfound⟩
  · have hpos := (hf 3 code hcode).1
    have hid : code ≠ -1 := by omega
    have hwhy : ¬ Clear f 0 11 := by
      intro h
      have hnone := h 3 (by omega)
      rw [zero_add, hcode] at hnone
      cases hnone
    cases hrow : db.order code with
    | none => exact hread hid hfound hwhy (.inr hrow)
    | some m =>
      have hkey := Database.order_orderID hrow
      by_cases hc : Clear f 4 3
      · rw [← hkey] at hid hfound hrow hcode
        exact hsettled hid hfound hrow hc (.misread hcode)
      · exact hread hid hfound hwhy (.inl hc)
  · have h5 : Clear f 3 5 := (clear_add (k := 1)).mpr ⟨clear_one.mpr h3, h4⟩
    cases hfd : found with
    | none =>
      subst hfd
      obtain ⟨res, n', hrun, hres⟩ := trade_unmatched S hf db hfound
      exact ⟨res, n', hrun, .unmatched u hu hr huser ⟨h3, fun _ => rfl⟩ res hres⟩
    | some m =>
      subst hfd
      have hm := hmem m rfl
      by_cases hc : Clear f 8 3
      · exact hsettled (orderID_ne_neg_one hm) hfound (Database.order_of_mem hm) hc (.queried rfl h5)
      · have hwhy : ¬ Clear f 0 11 := fun h => hc fun j hj => by
          have hnone := h (8 + j) (by omega)
          rwa [zero_add] at hnone
        exact hread (orderID_ne_neg_one hm) hfound hwhy (.inl hc)
  · obtain ⟨res, n', hrun, hres⟩ := trade_unmatched S hf db hfound
    exact ⟨res, n', hrun, .unmatched u hu hr huser ⟨h3, fun h => absurd h h4⟩ res hres⟩

theorem checkedTrade_faulty {ord : Order D} {refused : User → Bool} {find : SQL D Int}
    {settle : User → Order D → SQL D Int} {found : Option (Order D)}
    {taker : User → Order D → User} {maker : Order D → User → User}
    (hmem : ∀ m ∈ found, m ∈ db.orders.rows)
    (hfind : (∃ code, f 3 = some code ∧ find.run (faulty S f) (db, 3) = (code, (db, 4))) ∨
      (f 3 = none ∧ Clear f 4 4 ∧
        find.run (faulty S f) (db, 3) = (found.elim (-1) Order.orderID, (db, 8))) ∨
      (f 3 = none ∧ ¬ Clear f 4 4 ∧ find.run (faulty S f) (db, 3) = (-1, (db, 8))))
    (hsettle : ∀ u m n, db.order m.orderID = some m →
      ∃ res n', (settle u m).run (faulty S f) (db, n) = (res.1, (res.2, n')) ∧
        SettleFaulty f db n ord m (taker u m) (maker m) res) :
    ∃ res n', (checkedTrade ord refused find settle).run (faulty S f) (db, 0) = (res.1, (res.2, n')) ∧
      TradeFaulty f db ord refused found taker maker res := by
  rcases getUser_faulty S hf db 0 ord.userID with ⟨huser, hg⟩ | ⟨hc, code, n', -, hg⟩
  · cases hu : db.user ord.userID with
    | none =>
      refine ⟨(-1, db), 3, ?_, .unchanged (.inr (.inl hu))⟩
      simp [checkedTrade, hg, hu]
    | some u =>
      cases hl : refused u with
      | true =>
        refine ⟨(-1, db), 3, ?_, .unchanged (.inr (.inr ⟨u, hu, hl⟩))⟩
        simp [checkedTrade, hg, hu, hl]
      | false =>
        have hrun : (checkedTrade ord refused find settle).run (faulty S f) (db, 0) =
            (trade find ord (settle u)).run (faulty S f) (db, 3) := by
          simp only [checkedTrade, Prog.run_bind, hg, hu, hl, Bool.false_eq_true, if_false, zero_add]
        rw [hrun]
        exact trade_faulty S hf db hu hl huser hmem hfind (hsettle u)
  · refine ⟨(-1, db), n', ?_, .unchanged (.inl fun h => hc fun j hj => h j (by omega))⟩
    simp [checkedTrade, hg]

theorem buy_faulty (ord : Order D) :
    ∃ res n', (buy ord).run (faulty S f) (db, 0) = (res.1, (res.2, n')) ∧
      TradeFaulty.Buy S f db ord res := by
  rw [buy_eq_checkedTrade]
  exact checkedTrade_faulty S hf db (fun m hm => (matchSell_some hm).1)
    (findMatchingSell_faulty S hf db 3 ord)
    (fun u m n hrow => settleMatch_faulty S hf db n ord m _ _ hrow)

theorem sell_faulty (ord : Order D) :
    ∃ res n', (sell ord).run (faulty S f) (db, 0) = (res.1, (res.2, n')) ∧
      TradeFaulty.Sell S f db ord res := by
  rw [sell_eq_checkedTrade]
  exact checkedTrade_faulty S hf db (fun m hm => (matchBuy_some hm).1)
    (findMatchingBuy_faulty S hf db 3 ord)
    (fun u m n hrow => settleMatch_faulty S hf db n ord m _ _ hrow)

end Trade

inductive CancelFaulty (f : Nat → Option Int) (db : Database D) (orderID currentUserID : Int) :
    Int × Database D → Prop
  | unchanged : CancelFaulty f db orderID currentUserID (-1, db)
  | refunded (u : User) (r : Order D) (hr : db.order orderID = some r)
      (hown : r.userID = currentUserID) (hu : db.user currentUserID = some u)
      (hc : ¬ Clear f 13 3) :
      CancelFaulty f db orderID currentUserID (-1, db.setBalance (refundBalance u r))
  | undeleted (u : User) (r : Order D) (hb : f 14 ≠ none) :
      CancelFaulty f db orderID currentUserID (0, db.setBalance (refundBalance u r))
  | cancelled (u : User) (r : Order D) :
      CancelFaulty f db orderID currentUserID
        (0, (db.setBalance (refundBalance u r)).deleteOrderRow orderID)

theorem cancelOrder_faulty (S : CreatedAtSort D) {f : Nat → Option Int} (hf : ErrorCodes f)
    (db : Database D) (orderID currentUserID : Int) :
    ∃ res n', (cancelOrder orderID currentUserID).run (faulty S f) (db, 0) = (res.1, (res.2, n')) ∧
      CancelFaulty f db orderID currentUserID res := by
  rcases getOrder_faulty S hf db 0 orderID with ⟨-, hg⟩ | ⟨-, code, n', -, hg⟩
  · cases hr : db.order orderID with
    | none =>
      refine ⟨(-1, db), 3, ?_, .unchanged⟩
      simp [cancelOrder, hg, hr]
    | some r =>
      by_cases hown : r.userID = currentUserID
      · rcases getUser_faulty S hf db 3 currentUserID with ⟨-, hu⟩ | ⟨-, code, n', -, hu⟩
        · cases husr : db.user currentUserID with
          | none =>
            refine ⟨(-1, db), 6, ?_, .unchanged⟩
            simp [cancelOrder, hg, hr, hown, hu, husr]
          | some u =>
            rcases updateUserBalance_faulty S hf db 6 (refundBalance u r) with
              ⟨-, hup⟩ | ⟨-, code, n', hcode, hup⟩
            · rcases deleteOrder_faulty S hf (db.setBalance (refundBalance u r)) 13 orderID with
                ⟨code, n', hcode, hc, hd⟩ | ⟨hb, hd⟩ | ⟨-, hd⟩
              · have hne : code ≠ 0 := by omega
                refine ⟨(-1, _), n', ?_, .refunded u r hr hown husr hc⟩
                simp [cancelOrder, hg, hr, hown, hu, husr, hup, hd, hne, SQLITE_OK]
              · refine ⟨(0, _), 16, ?_, .undeleted u r hb⟩
                simp [cancelOrder, hg, hr, hown, hu, husr, hup, hd, SQLITE_OK]
              · refine ⟨(0, _), 16, ?_, .cancelled u r⟩
                simp [cancelOrder, hg, hr, hown, hu, husr, hup, hd, SQLITE_OK]
            · have hne : code ≠ 0 := by omega
              refine ⟨(-1, db), n', ?_, .unchanged⟩
              simp [cancelOrder, hg, hr, hown, hu, husr, hup, hne]
        · refine ⟨(-1, db), n', ?_, .unchanged⟩
          simp [cancelOrder, hg, hr, hown, hu]
      · refine ⟨(-1, db), 3, ?_, .unchanged⟩
        simp [cancelOrder, hg, hr, hown]
  · refine ⟨(-1, db), n', ?_, .unchanged⟩
    simp [cancelOrder, hg]

end Marketplace
