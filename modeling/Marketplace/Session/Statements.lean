import Marketplace.Command.Trading

namespace Marketplace
open CallTree

variable {D : Type}

structure Permits (Q : Call D → Prop) : Prop where
  prepare : Q .prepare
  bind : Q .bind
  selectUser : ∀ userID, Q (.step (.selectUser userID))
  selectOrder : ∀ orderID, Q (.step (.selectOrder orderID))
  matchingBuy : ∀ item unitPrice userID, Q (.step (.matchingBuy item unitPrice userID))
  matchingSell : ∀ item unitPrice userID, Q (.step (.matchingSell item unitPrice userID))
  currentTimestamp : Q (.step .currentTimestamp)
  insertArchive : ∀ item buyOrSell quantity unitPrice userID createdAt,
    Q (.step (.insertArchive item buyOrSell quantity unitPrice userID createdAt))
  updateUserBalance : ∀ OMG DOGE BTC ETH userID,
    Q (.step (.updateUserBalance OMG DOGE BTC ETH userID))
  deleteOrder : ∀ orderID, Q (.step (.deleteOrder orderID))

def Inserts (Q : Call D → Prop) (q : Int) : Prop :=
  ∀ item buyOrSell quantity unitPrice userID, (∀ n ∈ quantity, n = q) →
    Q (.step (.insertOrder item buyOrSell quantity unitPrice userID))

def Updates (Q : Call D → Prop) (q : Int) : Prop :=
  ∀ item buyOrSell unitPrice userID orderID,
    Q (.step (.updateOrder item buyOrSell q unitPrice userID orderID))

variable {Q : Call D → Prop}

theorem step_all {s : Stmt D} (hs : Q (.step s)) : (sqlite3Step s).All Q (fun _ => True) :=
  ⟨hs, fun _ => trivial⟩

theorem execute_all {s : Stmt D} (hs : Q (.step s)) : (execute s).All Q (fun _ => True) := by
  refine Prog.all_bind (step_all hs) (fun res _ => ?_)
  exact Prog.all_ite (fun _ => trivial) (fun _ => trivial)

section Queries

variable (hQ : Permits Q)
include hQ

theorem bindUnchecked_all {α : Type} (v : α) : (bindUnchecked v).All Q (fun o => ∀ x ∈ o, x = v) := by
  refine Prog.all_bind ((Prog.all_request _ _).mpr ⟨hQ.bind, fun _ => trivial⟩) (fun res _ => ?_)
  rw [Prog.all_pure]
  intro x hx
  split at hx
  · exact (Option.some.inj hx).symm
  · cases hx

theorem bindChecked_all (n : Nat) : (bindChecked n).All Q (fun _ => True) := by
  induction n with
  | zero => trivial
  | succ n ih =>
    refine Prog.all_bind ((Prog.all_request _ _).mpr ⟨hQ.bind, fun _ => trivial⟩) (fun res _ => ?_)
    exact Prog.all_ite (fun _ => trivial) (fun _ => ih)

theorem prepared_all {α : Type} {f : Int → SQL D α} (e : Int → α) (p : SQL D α)
    (hf : ∀ res, f res = if res ≠ SQLITE_OK then pure (e res) else p)
    (hp : p.All Q (fun _ => True)) : (sqlite3Prepare >>= f).All Q (fun _ => True) := by
  refine Prog.all_bind ((Prog.all_request _ _).mpr ⟨hQ.prepare, fun _ => trivial⟩) (fun res _ => ?_)
  rw [hf]
  exact Prog.all_ite (fun _ => trivial) (fun _ => hp)

theorem getUser_all (userID : Int) : (getUser userID).All Q (fun _ => True) := by
  refine prepared_all hQ .error _ (fun _ => rfl) ?_
  refine Prog.all_bind (bindChecked_all hQ 1) (fun res _ => ?_)
  refine Prog.all_ite (fun _ => trivial) (fun _ => ?_)
  refine Prog.all_bind (step_all (hQ.selectUser _)) (fun r _ => ?_)
  split <;> trivial

theorem getOrder_all (orderID : Int) : (getOrder orderID).All Q (fun _ => True) := by
  refine prepared_all hQ .error _ (fun _ => rfl) ?_
  refine Prog.all_bind (bindUnchecked_all hQ orderID) (fun o _ => ?_)
  refine Prog.all_bind (step_all (hQ.selectOrder _)) (fun r _ => ?_)
  split <;> trivial

theorem updateUserBalance_all (u : User) : (updateUserBalance u).All Q (fun _ => True) := by
  refine prepared_all hQ id _ (fun _ => rfl) ?_
  refine Prog.all_bind (bindChecked_all hQ 5) (fun res _ => ?_)
  exact Prog.all_ite (fun _ => trivial) (fun _ => execute_all (hQ.updateUserBalance _ _ _ _ _))

theorem deleteOrder_all (orderID : Int) : (deleteOrder orderID).All Q (fun _ => True) := by
  refine prepared_all hQ id _ (fun _ => rfl) ?_
  refine Prog.all_bind (bindUnchecked_all hQ orderID) (fun o _ => ?_)
  exact execute_all (hQ.deleteOrder _)

theorem assignOrderTimestamp_all (ord : Order D) :
    (assignOrderTimestamp ord).All Q (fun _ => True) := by
  refine prepared_all hQ .error _ (fun _ => rfl) ?_
  refine Prog.all_bind (step_all hQ.currentTimestamp) (fun r _ => ?_)
  split <;> trivial

variable [CDouble D]

theorem bindDouble_all (v : D) : (bindDouble v).All Q (fun _ => True) :=
  Prog.all_bind (bindUnchecked_all hQ v) (fun _ _ => trivial)

theorem insertArchive_all (ord : Order D) : (insertArchive ord).All Q (fun _ => True) := by
  refine prepared_all hQ id _ (fun _ => rfl) ?_
  refine Prog.all_bind (bindUnchecked_all hQ ord.item) (fun item _ => ?_)
  refine Prog.all_bind (bindUnchecked_all hQ ord.buyOrSell) (fun side _ => ?_)
  refine Prog.all_bind (bindUnchecked_all hQ ord.quantity) (fun quantity _ => ?_)
  refine Prog.all_bind (bindDouble_all hQ ord.unitPrice) (fun price _ => ?_)
  refine Prog.all_bind (bindUnchecked_all hQ ord.userID) (fun user _ => ?_)
  refine Prog.all_bind (bindUnchecked_all hQ ord.createdAt) (fun created _ => ?_)
  exact execute_all (hQ.insertArchive _ _ _ _ _ _)

theorem findMatching_all {query : Option Int → Option D → Option Int → Stmt D}
    (hquery : ∀ item unitPrice userID, Q (.step (query item unitPrice userID))) (ord : Order D) :
    (findMatching query ord).All Q (fun _ => True) := by
  refine prepared_all hQ id _ (fun _ => rfl) ?_
  refine Prog.all_bind (bindUnchecked_all hQ ord.item) (fun item _ => ?_)
  refine Prog.all_bind (bindDouble_all hQ ord.unitPrice) (fun price _ => ?_)
  refine Prog.all_bind (bindUnchecked_all hQ ord.userID) (fun user _ => ?_)
  refine Prog.all_bind (step_all (hquery _ _ _)) (fun r _ => ?_)
  split <;> trivial

theorem updateOrder_all (ord : Order D) (hu : Updates Q ord.quantity) :
    (updateOrder ord).All Q (fun _ => True) := by
  refine prepared_all hQ id _ (fun _ => rfl) ?_
  refine Prog.all_bind (bindChecked_all hQ 6) (fun res _ => ?_)
  exact Prog.all_ite (fun _ => trivial) (fun _ => execute_all (hu _ _ _ _ _))

theorem insertOrder_all (ord : Order D) (hi : Inserts Q ord.quantity) :
    (insertOrder ord).All Q (fun _ => True) := by
  refine Prog.all_bind (getUser_all hQ ord.userID) (fun r _ => ?_)
  split
  · trivial
  · refine Prog.all_ite (fun _ => trivial) (fun _ => ?_)
    refine prepared_all hQ id _ (fun _ => rfl) ?_
    refine Prog.all_bind (bindUnchecked_all hQ ord.item) (fun item _ => ?_)
    refine Prog.all_bind (bindUnchecked_all hQ ord.buyOrSell) (fun side _ => ?_)
    refine Prog.all_bind (bindUnchecked_all hQ ord.quantity) (fun quantity hquantity => ?_)
    refine Prog.all_bind (bindDouble_all hQ ord.unitPrice) (fun price _ => ?_)
    refine Prog.all_bind (bindUnchecked_all hQ ord.userID) (fun user _ => ?_)
    refine Prog.all_bind (execute_all (hi _ _ _ _ _ hquantity)) (fun res _ => ?_)
    exact Prog.all_ite (fun _ => trivial) (fun _ => updateUserBalance_all hQ _)

end Queries

section Commands

variable [CDouble D] (hQ : Permits Q)
include hQ

theorem closeMatch_all (ord m : Order D) (hu : Updates Q m.quantity)
    (hi : 0 < ord.quantity → Inserts Q ord.quantity) : (closeMatch ord m).All Q (fun _ => True) := by
  have hclose : (deleteOrUpdateOrder m).All Q (fun _ => True) :=
    Prog.all_ite (fun _ => deleteOrder_all hQ _) (fun _ => updateOrder_all hQ m hu)
  refine Prog.all_bind hclose (fun res _ => ?_)
  refine Prog.all_ite (fun _ => trivial) (fun _ => ?_)
  refine Prog.all_ite (fun hpos => ?_) (fun _ => trivial)
  refine Prog.all_bind (insertOrder_all hQ ord (hi hpos)) (fun res' _ => ?_)
  exact Prog.all_ite (fun _ => trivial) (fun _ => trivial)

theorem settleMatch_all (ord m : Order D) (taker : User) (maker : User → User)
    (hu : ∀ q, 0 ≤ q → Updates Q q) (hi : ∀ q, 0 < q → Inserts Q q) :
    (settleMatch ord m taker maker).All Q (fun _ => True) := by
  refine Prog.all_bind (assignOrderTimestamp_all hQ ord) (fun r _ => ?_)
  split
  · trivial
  · next stamped =>
    refine Prog.all_bind (insertArchive_all hQ m) (fun res _ => ?_)
    refine Prog.all_ite (fun _ => trivial) (fun _ => ?_)
    refine Prog.all_bind (insertArchive_all hQ stamped) (fun res _ => ?_)
    refine Prog.all_ite (fun _ => trivial) (fun _ => ?_)
    refine Prog.all_bind (updateUserBalance_all hQ taker) (fun res _ => ?_)
    refine Prog.all_ite (fun _ => trivial) (fun _ => ?_)
    refine Prog.all_bind (getUser_all hQ _) (fun r _ => ?_)
    split
    · trivial
    · refine Prog.all_bind (updateUserBalance_all hQ _) (fun res _ => ?_)
      refine Prog.all_ite (fun _ => trivial) (fun _ => ?_)
      apply closeMatch_all hQ
      · apply hu
        have hle : transactionQuantity stamped m ≤ m.quantity := by
          unfold transactionQuantity
          split <;> omega
        simp only [Order.reduce]
        omega
      · exact fun hpos => hi _ hpos

theorem checkedTrade_all (ord : Order D) (refused : User → Bool) {find : SQL D Int}
    {settle : User → Order D → SQL D Int} (hfind : find.All Q (fun _ => True))
    (hinsert : Inserts Q ord.quantity) (hsettle : ∀ u m, (settle u m).All Q (fun _ => True)) :
    (checkedTrade ord refused find settle).All Q (fun _ => True) := by
  refine Prog.all_bind (getUser_all hQ _) (fun r _ => ?_)
  split
  · trivial
  · refine Prog.all_ite (fun _ => trivial) (fun _ => ?_)
    refine Prog.all_bind hfind (fun result _ => ?_)
    refine Prog.all_ite (fun _ => insertOrder_all hQ ord hinsert) (fun _ => ?_)
    refine Prog.all_bind (getOrder_all hQ _) (fun r _ => ?_)
    split
    · trivial
    · exact hsettle _ _

theorem buy_all (ord : Order D) (hu : ∀ q, 0 ≤ q → Updates Q q) (hi : ∀ q, 0 < q → Inserts Q q)
    (hpos : 0 < ord.quantity) : (buy ord).All Q (fun _ => True) := by
  rw [buy_eq_checkedTrade]
  exact checkedTrade_all hQ ord _ (findMatching_all hQ hQ.matchingSell ord) (hi _ hpos)
    (fun u m => settleMatch_all hQ _ _ _ _ hu hi)

theorem sell_all (ord : Order D) (hu : ∀ q, 0 ≤ q → Updates Q q) (hi : ∀ q, 0 < q → Inserts Q q)
    (hpos : 0 < ord.quantity) : (sell ord).All Q (fun _ => True) := by
  rw [sell_eq_checkedTrade]
  exact checkedTrade_all hQ ord _ (findMatching_all hQ hQ.matchingBuy ord) (hi _ hpos)
    (fun u m => settleMatch_all hQ _ _ _ _ hu hi)

theorem cancelOrder_all (orderID currentUserID : Int) :
    (cancelOrder (D := D) orderID currentUserID).All Q (fun _ => True) := by
  refine Prog.all_bind (getOrder_all hQ _) (fun r _ => ?_)
  split
  · trivial
  · refine Prog.all_ite (fun _ => trivial) (fun _ => ?_)
    refine Prog.all_bind (getUser_all hQ _) (fun r _ => ?_)
    split
    · trivial
    · refine Prog.all_bind (updateUserBalance_all hQ _) (fun res _ => ?_)
      refine Prog.all_ite (fun _ => trivial) (fun _ => ?_)
      refine Prog.all_bind (deleteOrder_all hQ _) (fun res _ => ?_)
      exact Prog.all_ite (fun _ => trivial) (fun _ => trivial)

end Commands

end Marketplace
