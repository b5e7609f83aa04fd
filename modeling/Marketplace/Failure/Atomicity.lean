import Marketplace.Failure.FaultyOutcomes

namespace Marketplace
open CallTree KeyedTable

variable {D : Type}

namespace Stmt

def writes : Stmt D → Bool
  | .insertOrder .. => true
  | .insertUser .. => true
  | .deleteOrder _ => true
  | .updateOrder .. => true
  | .updateUserBalance .. => true
  | .insertArchive .. => true
  | _ => false

end Stmt

def Call.writes : Call D → Bool
  | .step s => s.writes
  | _ => false

variable [CDouble D]

inductive Operation (D : Type) where
  | insertOrder (ord : Order D)
  | buy (ord : Order D)
  | sell (ord : Order D)
  | cancelOrder (orderID currentUserID : Int)

namespace Operation

def code : Operation D → SQL D Int
  | .insertOrder ord => Marketplace.insertOrder ord
  | .buy ord => Marketplace.buy ord
  | .sell ord => Marketplace.sell ord
  | .cancelOrder orderID currentUserID => Marketplace.cancelOrder orderID currentUserID

def firstWrite (S : CreatedAtSort D) (db : Database D) (op : Operation D) : Nat :=
  (op.code.calls (perform S) db).findIdx Call.writes

def Misread (db : Database D) (fault : Nat × Int) : Operation D → Prop
  | .buy _ => fault.1 = 3 ∧ db.order fault.2 ≠ none
  | .sell _ => fault.1 = 3 ∧ db.order fault.2 ≠ none
  | _ => False

def RemainderAccepted (S : CreatedAtSort D) (db : Database D) : Operation D → Prop
  | .buy ord => ∀ u ∈ db.user ord.userID, ∀ m ∈ matchSell S db ord,
      0 < (remainder db ord m).quantity →
        insufficientBalance (buyTaker u ord m) (remainder db ord m) = false
  | .sell ord => ∀ u ∈ db.user ord.userID, ∀ m ∈ matchBuy S db ord,
      0 < (remainder db ord m).quantity →
        insufficientBalance (sellTaker u ord m) (remainder db ord m) = false
  | _ => True

end Operation

def faultAt (fault : Option (Nat × Int)) (n : Nat) : Option Int :=
  fault.bind (fun p => if p.1 = n then some p.2 else none)

def Database.SameTables (db db' : Database D) : Prop :=
  db'.users = db.users ∧ db'.orders = db.orders ∧ db'.archives = db.archives

section FaultAt

variable {fault : Option (Nat × Int)}

theorem faultAt_some {n : Nat} {code : Int} (h : faultAt fault n = some code) :
    fault = some (n, code) := by
  obtain ⟨p, hp, hcode⟩ := Option.bind_eq_some_iff.mp h
  split_ifs at hcode with hn
  rw [hp, ← hn, ← Option.some.inj hcode]

theorem errorCodes_faultAt (h : ∀ p ∈ fault, IsErrorCode p.2) : ErrorCodes (faultAt fault) := by
  intro n code hcode
  exact h (n, code) (faultAt_some hcode)

theorem clear_faultAt {n k : Nat} (h : ∀ p ∈ fault, p.1 < n ∨ n + k ≤ p.1) :
    Clear (faultAt fault) n k := by
  intro j hj
  by_contra hsome
  obtain ⟨code, hcode⟩ := Option.ne_none_iff_exists'.mp hsome
  have := h (n + j, code) (faultAt_some hcode)
  omega

end FaultAt

section Calls

variable (S : CreatedAtSort D) (db : Database D)

@[simp] theorem calls_prepare : sqlite3Prepare.calls (perform S) db = [.prepare] := rfl

@[simp] theorem calls_bindUnchecked {α : Type} (v : α) :
    (bindUnchecked v).calls (perform S) db = [.bind] := rfl

@[simp] theorem calls_bindDouble (v : D) : (bindDouble v).calls (perform S) db = [.bind] := rfl

@[simp] theorem calls_step (s : Stmt D) : (sqlite3Step s).calls (perform S) db = [.step s] := rfl

@[simp] theorem calls_bindChecked (n : Nat) :
    (bindChecked n).calls (perform S) db = List.replicate n .bind := by
  induction n with
  | zero => rfl
  | succ n ih => exact congrArg (Call.bind :: ·) ih

theorem calls_execute (s : Stmt D) : (execute s).calls (perform S) db = [.step s] := by
  simp only [execute, Prog.calls_bind, calls_step]
  split <;> rfl

theorem calls_getUser (id : Int) :
    (getUser id).calls (perform S) db = [.prepare, .bind, .step (.selectUser id)] := by
  simp only [getUser, Prog.calls_bind, calls_prepare, run_prepare, SQLITE_OK, ne_eq, not_true,
    if_false, calls_bindChecked, run_bindChecked, calls_step, run_step]
  cases hu : db.user id <;> simp [firstRow, hu]

theorem calls_getOrder (id : Int) :
    (getOrder id).calls (perform S) db = [.prepare, .bind, .step (.selectOrder id)] := by
  simp only [getOrder, Prog.calls_bind, calls_prepare, run_prepare, SQLITE_OK, ne_eq, not_true,
    if_false, calls_bindUnchecked, run_bindUnchecked, calls_step, run_step]
  cases hr : db.order id <;> simp [firstRow, hr]

theorem calls_findMatching (query : Option Int → Option D → Option Int → Stmt D) (ord : Order D) :
    (findMatching query ord).calls (perform S) db = [.prepare, .bind, .bind, .bind,
      .step (query ord.item (doubleParameter ord.unitPrice) ord.userID)] := by
  simp only [findMatching, Prog.calls_bind, calls_prepare, run_prepare, SQLITE_OK, ne_eq, not_true,
    if_false, calls_bindUnchecked, run_bindUnchecked, calls_bindDouble, run_bindDouble, calls_step,
    run_step]
  split <;> rfl

theorem calls_assignOrderTimestamp (ord : Order D) :
    (assignOrderTimestamp ord).calls (perform S) db = [.prepare, .step .currentTimestamp] := by
  simp only [assignOrderTimestamp, Prog.calls_bind, calls_prepare, run_prepare, SQLITE_OK, ne_eq,
    not_true, if_false, calls_step, run_step, exec_currentTimestamp, Prog.calls_pure]
  rfl

theorem calls_updateUserBalance (u : User) :
    (updateUserBalance u).calls (perform S) db = [.prepare, .bind, .bind, .bind, .bind, .bind,
      .step (.updateUserBalance u.OMG u.DOGE u.BTC u.ETH u.userID)] := by
  simp only [updateUserBalance, Prog.calls_bind, calls_prepare, run_prepare, SQLITE_OK, ne_eq,
    not_true, if_false, calls_bindChecked, run_bindChecked, calls_execute]
  rfl

theorem calls_insertArchive (ord : Order D) :
    (insertArchive ord).calls (perform S) db = [.prepare, .bind, .bind, .bind, .bind, .bind, .bind,
      .step (.insertArchive ord.item ord.buyOrSell ord.quantity (doubleParameter ord.unitPrice)
        ord.userID ord.createdAt)] := by
  simp only [insertArchive, Prog.calls_bind, calls_prepare, run_prepare, SQLITE_OK, ne_eq, not_true,
    if_false, calls_bindUnchecked, run_bindUnchecked, calls_bindDouble, run_bindDouble,
    calls_execute]
  rfl

theorem calls_insertOrder {ord : Order D} {u : User} (hu : db.user ord.userID = some u)
    (hi : insufficientBalance u ord = false) :
    ∃ rest, (insertOrder ord).calls (perform S) db =
      [.prepare, .bind, .step (.selectUser ord.userID), .prepare, .bind, .bind, .bind, .bind, .bind,
        .step (.insertOrder ord.item ord.buyOrSell ord.quantity (doubleParameter ord.unitPrice)
          ord.userID)] ++ rest := by
  simp only [insertOrder, Prog.calls_bind, calls_getUser, run_getUser, hu, hi, Bool.false_eq_true,
    if_false, calls_prepare, run_prepare, SQLITE_OK, ne_eq, not_true, calls_bindUnchecked,
    run_bindUnchecked, calls_bindDouble, run_bindDouble, calls_execute]
  exact ⟨_, rfl⟩

theorem calls_settleMatch (ord m : Order D) (taker : User) (maker : User → User) :
    ∃ rest, (settleMatch ord m taker maker).calls (perform S) db =
      [.prepare, .step .currentTimestamp, .prepare, .bind, .bind, .bind, .bind, .bind, .bind,
        .step (.insertArchive m.item m.buyOrSell m.quantity (doubleParameter m.unitPrice) m.userID
          m.createdAt)] ++ rest := by
  simp only [settleMatch, Prog.calls_bind, calls_assignOrderTimestamp, run_assignOrderTimestamp,
    archiveOrder, calls_insertArchive]
  exact ⟨_, rfl⟩

theorem calls_trade_unmatched {ord : Order D} {query : Option Int → Option D → Option Int → Stmt D}
    (settle : Order D → SQL D Int) {u : User}
    (hfind : (findMatching query ord).run (perform S) db = (-1, db))
    (hu : db.user ord.userID = some u) (hi : insufficientBalance u ord = false) :
    ((trade (findMatching query ord) ord settle).calls (perform S) db)[14]? =
      some (.step (.insertOrder ord.item ord.buyOrSell ord.quantity (doubleParameter ord.unitPrice)
        ord.userID)) := by
  obtain ⟨rest, hrest⟩ := calls_insertOrder S db hu hi
  simp [trade, calls_findMatching, hfind, hrest]

theorem calls_trade_matched {ord m : Order D}
    {query : Option Int → Option D → Option Int → Stmt D} (taker : User) (maker : User → User)
    (settle : Order D → SQL D Int) (hsettle : settle m = settleMatch ord m taker maker)
    (hm : m ∈ db.orders.rows)
    (hfind : (findMatching query ord).run (perform S) db = (m.orderID, db)) :
    ((trade (findMatching query ord) ord settle).calls (perform S) db)[17]? =
      some (.step (.insertArchive m.item m.buyOrSell m.quantity (doubleParameter m.unitPrice)
        m.userID m.createdAt)) := by
  obtain ⟨rest, hrest⟩ := calls_settleMatch S db ord m taker maker
  simp [trade, calls_findMatching, hfind, orderID_ne_neg_one hm, calls_getOrder, run_getOrder,
    Database.order_of_mem hm, hsettle, hrest]

end Calls

section FirstWrite

variable {S : CreatedAtSort D} {db : Database D} {ord m : Order D} {u : User}

theorem firstWrite_le {op : Operation D} {c : Call D} {i : Nat}
    (h : (op.code.calls (perform S) db)[i]? = some c) (hc : c.writes = true) :
    op.firstWrite S db ≤ i := by
  by_contra hlt
  obtain ⟨hi, hget⟩ := List.getElem?_eq_some_iff.mp h
  have hnot := List.not_of_lt_findIdx (not_le.mp hlt)
  rw [hget, hc] at hnot
  cases hnot

theorem firstWrite_insertOrder (hu : db.user ord.userID = some u)
    (hi : insufficientBalance u ord = false) :
    (Operation.insertOrder ord).firstWrite S db ≤ 9 := by
  obtain ⟨rest, hrest⟩ := calls_insertOrder S db hu hi
  exact firstWrite_le (congrArg (·[9]?) hrest) rfl

theorem firstWrite_cancelOrder {orderID : Int} {r : Order D} (hr : db.order orderID = some r)
    (hu : db.user r.userID = some u) :
    (Operation.cancelOrder orderID r.userID).firstWrite S db ≤ 12 := by
  have hcalls : ((cancelOrder orderID r.userID).calls (perform S) db)[12]? =
      some (.step (.updateUserBalance (refundBalance u r).OMG (refundBalance u r).DOGE
        (refundBalance u r).BTC (refundBalance u r).ETH (refundBalance u r).userID)) := by
    simp [cancelOrder, calls_getOrder, run_getOrder, hr, calls_getUser, run_getUser, hu,
      calls_updateUserBalance]
  exact firstWrite_le hcalls rfl

theorem calls_checkedTrade (refused : User → Bool) {find : SQL D Int}
    {settle : User → Order D → SQL D Int} (hu : db.user ord.userID = some u) (hl : refused u = false) :
    (checkedTrade ord refused find settle).calls (perform S) db =
      [.prepare, .bind, .step (.selectUser ord.userID)] ++
        (trade find ord (settle u)).calls (perform S) db := by
  simp only [checkedTrade, Prog.calls_bind, calls_getUser, run_getUser, hu, hl, Bool.false_eq_true,
    if_false]

theorem calls_buy (hu : db.user ord.userID = some u)
    (hl : CDouble.lt (CDouble.ofInt u.OMG) ord.total = false) :
    (buy ord).calls (perform S) db = [.prepare, .bind, .step (.selectUser ord.userID)] ++
      (trade (findMatchingSell ord) ord (buyMatch u ord)).calls (perform S) db :=
  calls_checkedTrade (fun u => CDouble.lt (CDouble.ofInt u.OMG) ord.total) hu hl

theorem calls_sell (hu : db.user ord.userID = some u) (hl : insufficientHolding u ord = false) :
    (sell ord).calls (perform S) db = [.prepare, .bind, .step (.selectUser ord.userID)] ++
      (trade (findMatchingBuy ord) ord (sellMatch u ord)).calls (perform S) db :=
  calls_checkedTrade (fun u => insufficientHolding u ord) hu hl

theorem firstWrite_buy_unmatched (hu : db.user ord.userID = some u)
    (hl : CDouble.lt (CDouble.ofInt u.OMG) ord.total = false) (hm : matchSell S db ord = none)
    (hi : insufficientBalance u ord = false) : (Operation.buy ord).firstWrite S db ≤ 17 := by
  have hfind : (findMatchingSell ord).run (perform S) db = (-1, db) := by
    rw [run_findMatchingSell, hm]
    rfl
  have hcalls := calls_trade_unmatched S db (buyMatch u ord) hfind hu hi
  exact firstWrite_le ((congrArg (·[17]?) (calls_buy hu hl)).trans hcalls) rfl

theorem firstWrite_sell_unmatched (hu : db.user ord.userID = some u)
    (hl : insufficientHolding u ord = false) (hm : matchBuy S db ord = none)
    (hi : insufficientBalance u ord = false) : (Operation.sell ord).firstWrite S db ≤ 17 := by
  have hfind : (findMatchingBuy ord).run (perform S) db = (-1, db) := by
    rw [run_findMatchingBuy, hm]
    rfl
  have hcalls := calls_trade_unmatched S db (sellMatch u ord) hfind hu hi
  exact firstWrite_le ((congrArg (·[17]?) (calls_sell hu hl)).trans hcalls) rfl

theorem firstWrite_buy_matched (hu : db.user ord.userID = some u)
    (hl : CDouble.lt (CDouble.ofInt u.OMG) ord.total = false) (hm : matchSell S db ord = some m) :
    (Operation.buy ord).firstWrite S db ≤ 20 := by
  have hfind : (findMatchingSell ord).run (perform S) db = (m.orderID, db) := by
    rw [run_findMatchingSell, hm]
    rfl
  have hcalls := calls_trade_matched S db (buyTaker u ord m) (buyMaker ord m) (buyMatch u ord) rfl
    (matchSell_some hm).1 hfind
  exact firstWrite_le ((congrArg (·[20]?) (calls_buy hu hl)).trans hcalls) rfl

theorem firstWrite_sell_matched (hu : db.user ord.userID = some u)
    (hl : insufficientHolding u ord = false) (hm : matchBuy S db ord = some m) :
    (Operation.sell ord).firstWrite S db ≤ 20 := by
  have hfind : (findMatchingBuy ord).run (perform S) db = (m.orderID, db) := by
    rw [run_findMatchingBuy, hm]
    rfl
  have hcalls := calls_trade_matched S db (sellTaker u ord m) (sellMaker ord m) (sellMatch u ord) rfl
    (matchBuy_some hm).1 hfind
  exact firstWrite_le ((congrArg (·[20]?) (calls_sell hu hl)).trans hcalls) rfl

end FirstWrite

section Unchanged

variable {f : Nat → Option Int} {db : Database D} {n : Nat} {ord m : Order D}

omit [CDouble D] in
theorem Database.SameTables.refl (db : Database D) : db.SameTables db := ⟨rfl, rfl, rfl⟩

theorem insertFaulty_unchanged {res : Int × Database D} (h : InsertFaulty f db n ord res)
    (hc : ∀ u, db.user ord.userID = some u → insufficientBalance u ord = false →
      Clear f (n + 10) 7) (hfail : res.1 ≠ 0) : db.SameTables res.2 := by
  cases h with
  | failed code _ _ => exact .refl db
  | unpaid u code _ hu hi _ hwhy => exact absurd (hc u hu hi) hwhy
  | rested => exact absurd rfl hfail

theorem closeFaulty_succeeds {u : User} {res : Int × Database D} (h : CloseFaulty f db n ord m res)
    (hc : ∀ k, n ≤ k → f k = none) (hu : db.user ord.userID = some u)
    (hv : (db.user m.userID).isSome) (hn : CDouble.isNaN ord.unitPrice = false)
    (hm : CDouble.isNaN m.unitPrice = false)
    (hi : 0 < ord.quantity → insufficientBalance u ord = false) : res.1 = 0 := by
  have hclear {k l : Nat} (hk : n ≤ k) : Clear f k l := fun j _ => hc (k + j) (by omega)
  cases h with
  | stopped hwhy =>
    rcases hwhy with hwhy | hwhy | hwhy
    · exact absurd (hclear le_rfl) hwhy
    · rw [hm] at hwhy
      cases hwhy
    · rw [hwhy] at hv
      cases hv
  | undeleted hm hb res => exact absurd (hc (n + 1) (by omega)) hb
  | closed => rfl
  | inserted hpos res hres =>
    have hlate : n ≤ if m.quantity = 0 then n + 3 else n + 8 := by
      split <;> omega
    have hu' : (db.close m).user ord.userID = some u := by
      unfold Database.close
      split <;> exact hu
    cases hres with
    | failed code _ hwhy =>
      rcases hwhy with hwhy | hwhy | hwhy | ⟨v, hv, hwhy⟩
      · exact absurd (hclear hlate) hwhy
      · rw [hu'] at hwhy
        cases hwhy
      · rw [hn] at hwhy
        cases hwhy
      · rw [hu'] at hv
        rw [← Option.some.inj hv, hi hpos] at hwhy
        cases hwhy
    | unpaid v code _ _ _ _ hwhy => exact absurd (hclear (by omega)) hwhy
    | rested => rfl

theorem settleFaulty_unchanged {u taker : User} {maker : User → User} {res : Int × Database D}
    (h : SettleFaulty f db n ord m taker maker res) (hc : ∀ k, n + 10 ≤ k → f k = none)
    (hu : db.user ord.userID = some u) (hn : CDouble.isNaN ord.unitPrice = false)
    (hne : m.userID ≠ ord.userID) (ht : taker.SameAccount u) (hm : ∀ v, (maker v).SameAccount v)
    (hi : 0 < (remainder db ord m).quantity → insufficientBalance taker (remainder db ord m) = false)
    (hfail : res.1 ≠ 0) : db.SameTables res.2 := by
  cases h with
  | unarchived _ => exact .refl db
  | stopped db' _ hwhy =>
    rcases hwhy with hwhy | hwhy | hwhy
    · exact absurd (fun j _ => hc (n + 10 + j) (by omega)) hwhy
    · rw [hn] at hwhy
      cases hwhy
    · rw [hu] at hwhy
      cases hwhy
  | moved db' v hprice horders husers hv res hres =>
    have hmaker : (maker v).userID = m.userID := by
      rw [(hm v).1]
      exact Database.user_userID hv
    have hself : (db.setBalance taker).user ord.userID = some taker := Database.user_setBalance_self hu ht
    have htaker : db'.user ord.userID = some taker := by
      rw [Database.user, husers]
      exact (Database.user_setBalance_other (hmaker ▸ hne.symm)).trans hself
    have hfound : (db'.user m.userID).isSome := by
      rw [Database.user, husers]
      exact Option.isSome_iff_exists.mpr ⟨_, Database.user_setBalance_self hv (hm v)⟩
    exact absurd (closeFaulty_succeeds hres (fun k hk => hc k (by omega)) htaker hfound hn hprice hi)
      hfail

theorem tradeFaulty_unchanged {fault : Option (Nat × Int)} {refused : User → Bool}
    {found : Option (Order D)} {taker : User → Order D → User} {maker : Order D → User → User}
    {res : Int × Database D}
    (h : TradeFaulty (faultAt fault) db ord refused found taker maker res)
    (hfound : ∀ m ∈ found, m.userID ≠ ord.userID ∧ CDouble.isNaN ord.unitPrice = false)
    (ht : ∀ u m, (taker u m).SameAccount u) (hm : ∀ m v, (maker m v).SameAccount v)
    (hunmatched : ∀ u, db.user ord.userID = some u → refused u = false → found = none →
      insufficientBalance u ord = false → ∀ p ∈ fault, p.1 ≤ 17)
    (hmatched : ∀ u m, db.user ord.userID = some u → refused u = false → found = some m →
      ∀ p ∈ fault, p.1 ≤ 20)
    (hread : ∀ p ∈ fault, p.1 = 3 → db.order p.2 = none)
    (hi : ∀ u ∈ db.user ord.userID, ∀ m ∈ found, 0 < (remainder db ord m).quantity →
      insufficientBalance (taker u m) (remainder db ord m) = false)
    (hfail : res.1 ≠ 0) : db.SameTables res.2 := by
  cases h with
  | unchanged => exact .refl db
  | unmatched u hu hr _ hnone res hres =>
    refine insertFaulty_unchanged hres (fun v hv hiv => clear_faultAt fun p hp => .inl ?_) hfail
    by_contra hlate
    have hclear : Clear (faultAt fault) 4 4 := by
      refine clear_faultAt (fun q hq => .inr ?_)
      rw [Option.mem_unique hq hp]
      omega
    rw [hv] at hu
    have hbound := hunmatched v hv ((Option.some.inj hu).symm ▸ hr) (hnone.2 hclear) hiv p hp
    omega
  | matched u m n hu hr _ hmat _ hrow res hres =>
    cases hmat with
    | queried hq hc =>
      obtain ⟨hne, hn⟩ := hfound m hq
      refine settleFaulty_unchanged hres (fun k hk => ?_) hu hn hne (ht u m) (hm m) (hi u hu m hq) hfail
      have hclear : Clear (faultAt fault) k 1 :=
        clear_faultAt fun p hp => .inl (by have := hmatched u m hu hr hq p hp; omega)
      exact clear_one.mp hclear
    | misread h3 =>
      have hnone := hread (3, m.orderID) (faultAt_some h3) rfl
      rw [hrow] at hnone
      cases hnone

end Unchanged

theorem failed_unchanged (S : CreatedAtSort D) (db : Database D) (op : Operation D)
    (fault : Option (Nat × Int)) (hcode : ∀ p ∈ fault, IsErrorCode p.2)
    (hearly : ∀ p ∈ fault, p.1 ≤ op.firstWrite S db)
    (hread : ∀ p ∈ fault, ¬ op.Misread db p) (hrem : op.RemainderAccepted S db)
    (hfail : (op.code.run (faulty S (faultAt fault)) (db, 0)).1 ≠ 0) :
    db.SameTables (op.code.run (faulty S (faultAt fault)) (db, 0)).2.1 := by
  have hf := errorCodes_faultAt hcode
  cases op with
  | insertOrder ord =>
    obtain ⟨res, n', hrun, hres⟩ := insertOrder_faulty S hf db 0 ord
    simp only [Operation.code, hrun] at hfail ⊢
    refine insertFaulty_unchanged hres (fun u hu hi => clear_faultAt fun p hp => .inl ?_) hfail
    have hfirst := firstWrite_insertOrder (S := S) hu hi
    have := hearly p hp
    omega
  | buy ord =>
    obtain ⟨res, n', hrun, hres⟩ := buy_faulty S hf db ord
    simp only [Operation.code, hrun] at hfail ⊢
    refine tradeFaulty_unchanged hres (fun m hm => ?_) (fun u m => buyTaker_sameAccount u ord m)
      (buyMaker_sameAccount ord)
      (fun u hu hr hm hi p hp => (hearly p hp).trans (firstWrite_buy_unmatched hu hr hm hi))
      (fun u m hu hr hm p hp => (hearly p hp).trans (firstWrite_buy_matched hu hr hm))
      (fun p hp h3 => by_contra fun h => hread p hp ⟨h3, h⟩) hrem hfail
    obtain ⟨-, -, hn, -, hne⟩ := answersSell_iff.mp (matchSell_some hm).2
    exact ⟨hne, hn⟩
  | sell ord =>
    obtain ⟨res, n', hrun, hres⟩ := sell_faulty S hf db ord
    simp only [Operation.code, hrun] at hfail ⊢
    refine tradeFaulty_unchanged hres (fun m hm => ?_) (fun u m => sellTaker_sameAccount u ord m)
      (sellMaker_sameAccount ord)
      (fun u hu hr hm hi p hp => (hearly p hp).trans (firstWrite_sell_unmatched hu hr hm hi))
      (fun u m hu hr hm p hp => (hearly p hp).trans (firstWrite_sell_matched hu hr hm))
      (fun p hp h3 => by_contra fun h => hread p hp ⟨h3, h⟩) hrem hfail
    obtain ⟨-, -, hn, -, hne⟩ := answersBuy_iff.mp (matchBuy_some hm).2
    exact ⟨hne, hn⟩
  | cancelOrder orderID currentUserID =>
    obtain ⟨res, n', hrun, hres⟩ := cancelOrder_faulty S hf db orderID currentUserID
    simp only [Operation.code, hrun] at hfail ⊢
    cases hres with
    | unchanged => exact .refl db
    | refunded u r hr hown hu hc =>
      subst hown
      refine absurd (clear_faultAt fun p hp => .inl ?_) hc
      have hfirst := firstWrite_cancelOrder (S := S) hr hu
      have := hearly p hp
      omega
    | undeleted => exact absurd rfl hfail
    | cancelled => exact absurd rfl hfail

instance (S : CreatedAtSort D) (db : Database D) (op : Operation D) :
    Decidable (op.RemainderAccepted S db) := by
  cases op <;> unfold Operation.RemainderAccepted <;> infer_instance

instance (db : Database Double) (fault : Nat × Int) (op : Operation Double) :
    Decidable (op.Misread db fault) := by
  cases op <;> unfold Operation.Misread <;> infer_instance

def restingSell : Database Double :=
  ((Database.empty.insertUserRow ['a'] ['p'] ['A'] DEFAULT_OMG DEFAULT_DOGE DEFAULT_BTC
    DEFAULT_ETH).insertUserRow ['b'] ['p'] ['B'] DEFAULT_OMG DEFAULT_DOGE DEFAULT_BTC
    DEFAULT_ETH).insertOrderRow COIN_DOGE SELL 10 (.ofRat 1) 1

def takeAll : Operation Double :=
  .buy (createOrder COIN_DOGE BUY 10 (.ofRat 1) 2)

theorem failed_unchanged_takeAll :
    restingSell.SameTables
      (takeAll.code.run (faulty (.stable Double) (faultAt (some (20, 5)))) (restingSell, 0)).2.1 :=
  failed_unchanged (.stable Double) restingSell takeAll (some (20, 5)) (by decide +kernel)
    (by decide +kernel) (by decide +kernel) (by decide +kernel) (by decide +kernel)

theorem failure_changes_tables :
    ¬ ∀ (S : CreatedAtSort Double) (db : Database Double) (op : Operation Double)
      (fault : Option (Nat × Int)), (∀ p ∈ fault, IsErrorCode p.2) →
        (op.code.run (faulty S (faultAt fault)) (db, 0)).1 ≠ 0 →
          db.SameTables (op.code.run (faulty S (faultAt fault)) (db, 0)).2.1 := by
  intro h
  obtain ⟨-, -, harchives⟩ := h (.stable Double) restingSell takeAll (some (28, 5)) (by decide +kernel)
    (by decide +kernel)
  have hlength := congrArg (fun t => t.rows.length) harchives
  revert hlength
  decide +kernel

end Marketplace
