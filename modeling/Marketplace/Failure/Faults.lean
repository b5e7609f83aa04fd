import Marketplace.Store.QueryRuns

namespace Marketplace
open CallTree

variable {D : Type} [CDouble D]

def faulty (S : CreatedAtSort D) (f : Nat → Option Int) :
    (c : Call D) → Database D × Nat → c.Resp × (Database D × Nat)
  | .prepare, (db, n) => ((f n).getD SQLITE_OK, (db, n + 1))
  | .bind, (db, n) => ((f n).getD SQLITE_OK, (db, n + 1))
  | .step s, (db, n) =>
    match f n with
    | some code => (.error code, (db, n + 1))
    | none => ((s.exec S db).1, ((s.exec S db).2, n + 1))
  | .lastInsertRowid, (db, n) => (db.lastRowid, (db, n + 1))

def IsErrorCode (code : Int) : Prop :=
  0 < code ∧ code ≠ SQLITE_ROW ∧ code ≠ SQLITE_DONE

def ErrorCodes (f : Nat → Option Int) : Prop :=
  ∀ n, ∀ code ∈ f n, IsErrorCode code

def Clear (f : Nat → Option Int) (n k : Nat) : Prop :=
  ∀ j < k, f (n + j) = none

instance (code : Int) : Decidable (IsErrorCode code) :=
  inferInstanceAs (Decidable (_ ∧ _))

theorem IsErrorCode.ne_ok {code : Int} (h : IsErrorCode code) : code ≠ SQLITE_OK := by
  have hpos := h.1
  simp only [SQLITE_OK]
  omega

instance (f : Nat → Option Int) (n k : Nat) : Decidable (Clear f n k) :=
  inferInstanceAs (Decidable (∀ j < k, f (n + j) = none))

section Clear

variable {f : Nat → Option Int} {n k l : Nat}

theorem clear_add : Clear f n (k + l) ↔ Clear f n k ∧ Clear f (n + k) l := by
  constructor
  · intro h
    refine ⟨fun j hj => h j (by omega), fun j hj => ?_⟩
    rw [add_assoc]
    exact h (k + j) (by omega)
  · rintro ⟨hk, hl⟩ j hj
    rcases lt_or_ge j k with hjk | hjk
    · exact hk j hjk
    · have hrest := hl (j - k) (by omega)
      rwa [show n + k + (j - k) = n + j by omega] at hrest

theorem clear_one : Clear f n 1 ↔ f n = none := by
  constructor
  · intro h
    exact h 0 (by omega)
  · intro h j hj
    rwa [show n + j = n by omega]

theorem not_clear_of_fault {code : Int} (h : f n = some code) : ¬ Clear f n (k + 1) := by
  intro hc
  have hnone := hc 0 (by omega)
  rw [add_zero, h] at hnone
  cases hnone

end Clear

section Calls

variable (S : CreatedAtSort D) {f : Nat → Option Int} (db : Database D) (n : Nat)

theorem run_prepare_faulty :
    sqlite3Prepare.run (faulty S f) (db, n) = ((f n).getD SQLITE_OK, (db, n + 1)) := rfl

theorem run_bind_faulty :
    sqlite3Bind.run (faulty S f) (db, n) = ((f n).getD SQLITE_OK, (db, n + 1)) := rfl

theorem run_step_clear (s : Stmt D) (h : f n = none) :
    (sqlite3Step s).run (faulty S f) (db, n) = ((s.exec S db).1, ((s.exec S db).2, n + 1)) := by
  simp [sqlite3Step, faulty, h]

theorem run_step_fault (s : Stmt D) {code : Int} (h : f n = some code) :
    (sqlite3Step s).run (faulty S f) (db, n) = (.error code, (db, n + 1)) := by
  simp [sqlite3Step, faulty, h]

theorem run_bindUnchecked_clear {α : Type} (v : α) (h : f n = none) :
    (bindUnchecked v).run (faulty S f) (db, n) = (some v, (db, n + 1)) := by
  simp [bindUnchecked, run_bind_faulty, h]

variable (hf : ErrorCodes f)
include hf

theorem run_bindUnchecked_fault {α : Type} (v : α) (h : f n ≠ none) :
    (bindUnchecked v).run (faulty S f) (db, n) = (none, (db, n + 1)) := by
  obtain ⟨code, hcode⟩ := Option.ne_none_iff_exists'.mp h
  have hne := (hf n code hcode).ne_ok
  simp [bindUnchecked, run_bind_faulty, hcode, hne]

theorem run_bindUnchecked_faulty {α : Type} (v : α) :
    (bindUnchecked v).run (faulty S f) (db, n) =
      (if f n = none then some v else none, (db, n + 1)) := by
  split
  · next h => exact run_bindUnchecked_clear S db n v h
  · next h => exact run_bindUnchecked_fault S db n hf v h

theorem run_bindDouble_faulty (v : D) :
    (bindDouble v).run (faulty S f) (db, n) =
      (if f n = none then doubleParameter v else none, (db, n + 1)) := by
  simp only [bindDouble, Prog.run_bind, run_bindUnchecked_faulty S db n hf, Prog.run_pure]
  split <;> rfl

theorem run_bindChecked_faulty (k : Nat) :
    (Clear f n k ∧ (bindChecked k).run (faulty S f) (db, n) = (SQLITE_OK, (db, n + k))) ∨
      (¬ Clear f n k ∧ ∃ code n', IsErrorCode code ∧
        (bindChecked k).run (faulty S f) (db, n) = (code, (db, n'))) := by
  induction k generalizing n with
  | zero => exact .inl ⟨fun j hj => absurd hj (by omega), rfl⟩
  | succ k ih =>
    cases h : f n with
    | none =>
      have hsplit : Clear f n (k + 1) ↔ Clear f (n + 1) k := by
        rw [add_comm k 1, clear_add, clear_one]
        exact and_iff_right h
      have hrun : (bindChecked (k + 1)).run (faulty S f) (db, n) =
          (bindChecked k).run (faulty S f) (db, n + 1) := by
        simp [bindChecked, run_bind_faulty, h]
      rw [hsplit, hrun, show n + (k + 1) = n + 1 + k by omega]
      exact ih (n + 1)
    | some code =>
      have hcode := hf n code h
      have hne := hcode.ne_ok
      refine .inr ⟨not_clear_of_fault h, code, n + 1, hcode, ?_⟩
      simp [bindChecked, run_bind_faulty, h, hne]

end Calls

section Queries

variable (S : CreatedAtSort D) {f : Nat → Option Int} (hf : ErrorCodes f) (db : Database D) (n : Nat)
include hf

theorem error_ne_ok {code : Int} (h : f n = some code) : code ≠ SQLITE_OK :=
  (hf n code h).ne_ok

theorem execute_faulty (s : Stmt D) :
    (f n = none ∧ (execute s).run (faulty S f) (db, n) =
      (if (s.exec S db).1.code ≠ SQLITE_DONE then (s.exec S db).1.code else SQLITE_OK,
        ((s.exec S db).2, n + 1))) ∨
    (f n ≠ none ∧ ∃ code, IsErrorCode code ∧
      (execute s).run (faulty S f) (db, n) = (code, (db, n + 1))) := by
  cases h : f n with
  | none =>
    refine .inl ⟨rfl, ?_⟩
    simp only [execute, Prog.run_bind, run_step_clear S db n s h, Prog.run_ite, Prog.run_pure]
    split <;> rfl
  | some code =>
    have hcode := hf n code h
    refine .inr ⟨by simp, code, hcode, ?_⟩
    simp [execute, run_step_fault S db n s h, StepResult.code, hcode.2.2]

theorem getUser_faulty (id : Int) :
    (Clear f n 3 ∧ (getUser id).run (faulty S f) (db, n) =
      (match db.user id with
        | some u => .ok u
        | none => .error SQLITE_NOTFOUND, (db, n + 3))) ∨
    (¬ Clear f n 3 ∧ ∃ code n', 0 < code ∧
      (getUser id).run (faulty S f) (db, n) = (.error code, (db, n'))) := by
  have hsplit : Clear f n 3 ↔ f n = none ∧ Clear f (n + 1) 1 ∧ f (n + 1 + 1) = none := by
    rw [← clear_one (n := n), ← clear_one (n := n + 1 + 1), ← clear_add, ← clear_add]
  rw [hsplit]
  cases h : f n with
  | some code =>
    have hne := error_ne_ok hf n h
    refine .inr ⟨by simp, code, n + 1, (hf n code h).1, ?_⟩
    simp [getUser, run_prepare_faulty, h, hne]
  | none =>
    rcases run_bindChecked_faulty S db (n + 1) hf 1 with ⟨hc, hb⟩ | ⟨hc, code, n', hcode, hb⟩
    · cases hs : f (n + 1 + 1) with
      | none =>
        refine .inl ⟨⟨rfl, hc, rfl⟩, ?_⟩
        cases hu : db.user id <;>
          simp [getUser, run_prepare_faulty, h, hb, run_step_clear S db (n + 1 + 1) _ hs,
            firstRow, hu]
      | some code =>
        refine .inr ⟨by simp, SQLITE_NOTFOUND, n + 3, by decide, ?_⟩
        simp [getUser, run_prepare_faulty, h, hb, run_step_fault S db (n + 1 + 1) _ hs]
    · have hne := hcode.ne_ok
      refine .inr ⟨fun h => hc h.2.1, code, n', hcode.1, ?_⟩
      simp [getUser, run_prepare_faulty, h, hb, hne]

theorem getOrder_faulty (id : Int) :
    (Clear f n 3 ∧ (getOrder id).run (faulty S f) (db, n) =
      (match db.order id with
        | some r => .ok r
        | none => .error SQLITE_NOTFOUND, (db, n + 3))) ∨
    (¬ Clear f n 3 ∧ ∃ code n', 0 < code ∧
      (getOrder id).run (faulty S f) (db, n) = (.error code, (db, n'))) := by
  have hsplit : Clear f n 3 ↔ f n = none ∧ f (n + 1) = none ∧ f (n + 1 + 1) = none := by
    rw [← clear_one (n := n), ← clear_one (n := n + 1), ← clear_one (n := n + 1 + 1), ← clear_add,
      ← clear_add]
  rw [hsplit]
  cases h : f n with
  | some code =>
    have hne := error_ne_ok hf n h
    refine .inr ⟨by simp, code, n + 1, (hf n code h).1, ?_⟩
    simp [getOrder, run_prepare_faulty, h, hne]
  | none =>
    cases hs : f (n + 1 + 1) with
    | some code =>
      refine .inr ⟨by simp, SQLITE_NOTFOUND, n + 3, by decide, ?_⟩
      simp [getOrder, run_prepare_faulty, h, run_bindUnchecked_faulty S db _ hf,
        run_step_fault S db (n + 1 + 1) _ hs]
    | none =>
      cases hb : f (n + 1) with
      | none =>
        refine .inl ⟨⟨rfl, rfl, rfl⟩, ?_⟩
        cases hr : db.order id <;>
          simp [getOrder, run_prepare_faulty, h, run_bindUnchecked_faulty S db _ hf, hb,
            run_step_clear S db (n + 1 + 1) _ hs, firstRow, hr]
      | some code =>
        refine .inr ⟨by simp, SQLITE_NOTFOUND, n + 3, by decide, ?_⟩
        simp [getOrder, run_prepare_faulty, h, run_bindUnchecked_faulty S db _ hf, hb,
          run_step_clear S db (n + 1 + 1) _ hs, firstRow]

theorem updateUserBalance_faulty (u : User) :
    (Clear f n 7 ∧ (updateUserBalance u).run (faulty S f) (db, n) =
      (SQLITE_OK, (db.setBalance u, n + 7))) ∨
    (¬ Clear f n 7 ∧ ∃ code n', 0 < code ∧
      (updateUserBalance u).run (faulty S f) (db, n) = (code, (db, n'))) := by
  have hsplit : Clear f n 7 ↔ f n = none ∧ Clear f (n + 1) 5 ∧ f (n + 1 + 5) = none := by
    rw [← clear_one (n := n), ← clear_one (n := n + 1 + 5), ← clear_add, ← clear_add]
  rw [hsplit]
  cases h : f n with
  | some code =>
    have hne := error_ne_ok hf n h
    refine .inr ⟨by simp, code, n + 1, (hf n code h).1, ?_⟩
    simp [updateUserBalance, run_prepare_faulty, h, hne]
  | none =>
    rcases run_bindChecked_faulty S db (n + 1) hf 5 with ⟨hc, hb⟩ | ⟨hc, code, n', hcode, hb⟩
    · rcases execute_faulty S hf db (n + 1 + 5)
        (.updateUserBalance u.OMG u.DOGE u.BTC u.ETH u.userID) with ⟨hs, hr⟩ | ⟨hs, code, hcode, hr⟩
      · refine .inl ⟨⟨rfl, hc, hs⟩, ?_⟩
        simp [updateUserBalance, run_prepare_faulty, h, hb, hr, StepResult.code,
          Database.setBalance]
      · refine .inr ⟨fun h => hs h.2.2, code, n + 1 + 5 + 1, hcode.1, ?_⟩
        simp [updateUserBalance, run_prepare_faulty, h, hb, hr]
    · have hne := hcode.ne_ok
      refine .inr ⟨fun h => hc h.2.1, code, n', hcode.1, ?_⟩
      simp [updateUserBalance, run_prepare_faulty, h, hb, hne]

theorem assignOrderTimestamp_faulty (ord : Order D) :
    (Clear f n 2 ∧ (assignOrderTimestamp ord).run (faulty S f) (db, n) =
      (.ok (ord.stamp db), (db, n + 2))) ∨
    (¬ Clear f n 2 ∧ ∃ code n', 0 < code ∧
      (assignOrderTimestamp ord).run (faulty S f) (db, n) = (.error code, (db, n'))) := by
  have hsplit : Clear f n 2 ↔ f n = none ∧ f (n + 1) = none := by
    rw [← clear_one (n := n), ← clear_one (n := n + 1), ← clear_add]
  rw [hsplit]
  cases h : f n with
  | some code =>
    have hne := error_ne_ok hf n h
    refine .inr ⟨by simp, code, n + 1, (hf n code h).1, ?_⟩
    simp [assignOrderTimestamp, run_prepare_faulty, h, hne]
  | none =>
    cases hs : f (n + 1) with
    | none =>
      refine .inl ⟨⟨rfl, rfl⟩, ?_⟩
      simp [assignOrderTimestamp, run_prepare_faulty, h, run_step_clear S db (n + 1) _ hs,
        Order.stamp]
    | some code =>
      refine .inr ⟨by simp, code, n + 2, (hf _ code hs).1, ?_⟩
      simp [assignOrderTimestamp, run_prepare_faulty, h, run_step_fault S db (n + 1) _ hs,
        StepResult.code]

omit [CDouble D] hf in
theorem bound_eq {α : Type} {v x : α} {k : Nat} (h : (if f k = none then some v else none) = some x) :
    f k = none ∧ v = x := by
  split at h
  · next hk => exact ⟨hk, Option.some.inj h⟩
  · cases h

omit hf in
theorem bound_double_eq {v x : D} {k : Nat}
    (h : (if f k = none then doubleParameter v else none) = some x) :
    f k = none ∧ CDouble.isNaN v = false ∧ v = x := by
  unfold doubleParameter at h
  split_ifs at h with hk hn
  exact ⟨hk, by simpa using hn, Option.some.inj h⟩

theorem insertArchive_faulty (ord : Order D) :
    (∃ code n', 0 < code ∧ (¬ Clear f n 8 ∨ CDouble.isNaN ord.unitPrice = true ∨
        db.user ord.userID = none) ∧
      (insertArchive ord).run (faulty S f) (db, n) = (code, (db, n'))) ∨
    (CDouble.isNaN ord.unitPrice = false ∧ (db.user ord.userID).isSome ∧
      ∃ created, (insertArchive ord).run (faulty S f) (db, n) =
        (SQLITE_OK, (db.archive { ord with createdAt := created }, n + 8))) := by
  cases h : f n with
  | some code =>
    have hne := error_ne_ok hf n h
    refine .inl ⟨code, n + 1, (hf n code h).1, .inl (not_clear_of_fault h), ?_⟩
    simp [insertArchive, run_prepare_faulty, h, hne]
  | none =>
    obtain ⟨created, hrun⟩ : ∃ created, (insertArchive ord).run (faulty S f) (db, n) =
        (execute (.insertArchive (if f (n + 1) = none then some ord.item else none)
          (if f (n + 2) = none then some ord.buyOrSell else none)
          (if f (n + 3) = none then some ord.quantity else none)
          (if f (n + 4) = none then doubleParameter ord.unitPrice else none)
          (if f (n + 5) = none then some ord.userID else none) created)).run
          (faulty S f) (db, n + 7) := by
      refine ⟨(if f (n + 6) = none then some ord.createdAt else none).join, ?_⟩
      simp only [insertArchive, Prog.run_bind, run_prepare_faulty, h, Option.getD_none, SQLITE_OK,
        ne_eq, not_true, if_false, run_bindUnchecked_faulty S db _ hf, run_bindDouble_faulty S db _ hf]
    rcases execute_faulty S hf db (n + 7) _ with ⟨-, hr⟩ | ⟨hs, code, hcode, hr⟩
    · rcases exec_insertArchive S db (if f (n + 1) = none then some ord.item else none)
        (if f (n + 2) = none then some ord.buyOrSell else none)
        (if f (n + 3) = none then some ord.quantity else none)
        (if f (n + 5) = none then some ord.userID else none)
        (if f (n + 4) = none then doubleParameter ord.unitPrice else none) created with
        he | ⟨i, b, q, p, u, hi, hb, hq, hp, hu, huser, he⟩
      · refine .inl ⟨SQLITE_CONSTRAINT, n + 8, by decide, ?_, ?_⟩
        · by_contra hwhy
          simp only [not_or, not_not] at hwhy
          obtain ⟨hc, hn, hu⟩ := hwhy
          have huser : (db.user ord.userID).isSome = true := Option.isSome_iff_ne_none.mpr hu
          simp [doubleParameter, hc 1 (by omega), hc 2 (by omega), hc 3 (by omega),
            hc 4 (by omega), hc 5 (by omega), hn, huser] at he
        · rw [hrun, hr, he]
          rfl
      · obtain ⟨-, rfl⟩ := bound_eq hi
        obtain ⟨-, rfl⟩ := bound_eq hb
        obtain ⟨-, rfl⟩ := bound_eq hq
        obtain ⟨-, hn, rfl⟩ := bound_double_eq hp
        obtain ⟨-, rfl⟩ := bound_eq hu
        refine .inr ⟨hn, huser, created, ?_⟩
        rw [hrun, hr, he]
        rfl
    · exact .inl ⟨code, n + 7 + 1, hcode.1, .inl fun hc => hs (hc 7 (by omega)), by rw [hrun, hr]⟩

theorem deleteOrder_faulty (id : Int) :
    (∃ code n', 0 < code ∧ ¬ Clear f n 3 ∧
      (deleteOrder id).run (faulty S f) (db, n) = (code, (db, n'))) ∨
    (f (n + 1) ≠ none ∧ (deleteOrder id).run (faulty S f) (db, n) = (SQLITE_OK, (db, n + 3))) ∨
    (f (n + 1) = none ∧
      (deleteOrder id).run (faulty S f) (db, n) = (SQLITE_OK, (db.deleteOrderRow id, n + 3))) := by
  cases h : f n with
  | some code =>
    have hne := error_ne_ok hf n h
    refine .inl ⟨code, n + 1, (hf n code h).1, not_clear_of_fault h, ?_⟩
    simp [deleteOrder, run_prepare_faulty, h, hne]
  | none =>
    have hrun : (deleteOrder id).run (faulty S f) (db, n) =
        (execute (.deleteOrder (if f (n + 1) = none then some id else none))).run (faulty S f)
          (db, n + 2) := by
      simp only [deleteOrder, Prog.run_bind, run_prepare_faulty, h, Option.getD_none, SQLITE_OK,
        ne_eq, not_true, if_false, run_bindUnchecked_faulty S db _ hf]
    rw [hrun]
    rcases execute_faulty S hf db (n + 2) _ with ⟨-, hr⟩ | ⟨hs, code, hcode, hr⟩
    · by_cases hb : f (n + 1) = none
      · exact .inr (.inr ⟨hb, by rw [hr, if_pos hb]; rfl⟩)
      · exact .inr (.inl ⟨hb, by rw [hr, if_neg hb]; rfl⟩)
    · exact .inl ⟨code, n + 2 + 1, hcode.1, fun hc => hs (hc 2 (by omega)), hr⟩

theorem updateOrder_faulty (ord : Order D) {r : Order D} (hrow : db.order ord.orderID = some r) :
    (∃ code n', 0 < code ∧ (¬ Clear f n 8 ∨ CDouble.isNaN ord.unitPrice = true ∨
        db.user ord.userID = none) ∧
      (updateOrder ord).run (faulty S f) (db, n) = (code, (db, n'))) ∨
    (updateOrder ord).run (faulty S f) (db, n) = (SQLITE_OK, (db.rewrite ord, n + 8)) := by
  cases h : f n with
  | some code =>
    have hne := error_ne_ok hf n h
    refine .inl ⟨code, n + 1, (hf n code h).1, .inl (not_clear_of_fault h), ?_⟩
    simp [updateOrder, run_prepare_faulty, h, hne]
  | none =>
    rcases run_bindChecked_faulty S db (n + 1) hf 6 with ⟨-, hb⟩ | ⟨hc6, code, n', hcode, hb⟩
    · have hrun : (updateOrder ord).run (faulty S f) (db, n) =
          (execute (.updateOrder ord.item ord.buyOrSell ord.quantity (doubleParameter ord.unitPrice)
            ord.userID ord.orderID)).run (faulty S f) (db, n + 1 + 6) := by
        simp [updateOrder, run_prepare_faulty, h, hb]
      rw [hrun]
      rcases execute_faulty S hf db (n + 1 + 6) _ with ⟨-, hr⟩ | ⟨hs, code, hcode, hr⟩
      · rcases exec_updateOrder S (doubleParameter ord.unitPrice) ord.item ord.buyOrSell ord.quantity
          ord.userID ord.orderID hrow with he | ⟨p, hp, he⟩
        · refine .inl ⟨SQLITE_CONSTRAINT, n + 8, by decide, .inr ?_, ?_⟩
          · by_contra hwhy
            simp only [not_or] at hwhy
            obtain ⟨hn, hu⟩ := hwhy
            obtain ⟨v, hv⟩ := Option.ne_none_iff_exists'.mp hu
            simp [doubleParameter, hrow, hn, hv] at he
          · rw [hr, he]
            rfl
        · have hprice : ord.unitPrice = p := by
            unfold doubleParameter at hp
            split_ifs at hp
            exact Option.some.inj hp
          refine .inr ?_
          rw [hr, he, ← hprice]
          rfl
      · exact .inl ⟨code, n + 1 + 6 + 1, hcode.1, .inl fun hc => hs (hc 7 (by omega)), hr⟩
    · have hne := hcode.ne_ok
      refine .inl ⟨code, n', hcode.1, .inl fun hc => hc6 ?_, ?_⟩
      · have hsplit : Clear f n 8 ↔ Clear f n 1 ∧ Clear f (n + 1) 6 ∧ Clear f (n + 1 + 6) 1 := by
          rw [← clear_add, ← clear_add]
        exact (hsplit.mp hc).2.1
      · simp [updateOrder, run_prepare_faulty, h, hb, hne]

theorem findMatching_faulty {query : Option Int → Option D → Option Int → Stmt D}
    {answers : Option Int → Option D → Option Int → Order D → Bool}
    (hquery : ∀ item unitPrice userID, (query item unitPrice userID).exec S db =
      (firstRow ((S.sort (db.orders.rows.filter (answers item unitPrice userID))).head?.map .order), db))
    (hunbound : ∀ item unitPrice userID r, item = none ∨ unitPrice = none ∨ userID = none →
      answers item unitPrice userID r = false) (ord : Order D) :
    (∃ code, f n = some code ∧
      (findMatching query ord).run (faulty S f) (db, n) = (code, (db, n + 1))) ∨
    (f n = none ∧ Clear f (n + 1) 4 ∧ (findMatching query ord).run (faulty S f) (db, n) =
      ((S.sort (db.orders.rows.filter (answers (some ord.item) (doubleParameter ord.unitPrice)
        (some ord.userID)))).head?.elim (-1) Order.orderID, (db, n + 5))) ∨
    (f n = none ∧ ¬ Clear f (n + 1) 4 ∧
      (findMatching query ord).run (faulty S f) (db, n) = (-1, (db, n + 5))) := by
  cases h : f n with
  | some code =>
    have hne := error_ne_ok hf n h
    refine .inl ⟨code, rfl, ?_⟩
    simp [findMatching, run_prepare_faulty, h, hne]
  | none =>
    have hclear : Clear f (n + 1) 4 ↔ f (n + 1) = none ∧ f (n + 1 + 1) = none ∧
        f (n + 1 + 1 + 1) = none ∧ f (n + 1 + 1 + 1 + 1) = none := by
      simp only [← clear_one, ← clear_add]
    simp only [findMatching, Prog.run_bind, run_prepare_faulty, h, Option.getD_none, SQLITE_OK,
      ne_eq, not_true, if_false, run_bindUnchecked_faulty S db _ hf, run_bindDouble_faulty S db _ hf]
    cases hs : f (n + 1 + 1 + 1 + 1) with
    | some code =>
      refine .inr (.inr ⟨trivial, fun hc => ?_, ?_⟩)
      · have := (hclear.mp hc).2.2.2
        rw [hs] at this
        cases this
      · rw [run_step_fault S db _ _ hs]
        rfl
    | none =>
      rw [run_step_clear S db _ _ hs, hquery]
      by_cases hc : Clear f (n + 1) 4
      · obtain ⟨h1, h2, h3, -⟩ := hclear.mp hc
        refine .inr (.inl ⟨trivial, hc, ?_⟩)
        rw [if_pos h1, if_pos h2, if_pos h3]
        cases (S.sort (db.orders.rows.filter (answers (some ord.item) (doubleParameter ord.unitPrice)
          (some ord.userID)))).head? <;> rfl
      · refine .inr (.inr ⟨trivial, hc, ?_⟩)
        have hnone : S.sort (db.orders.rows.filter (answers
            (if f (n + 1) = none then some ord.item else none)
            (if f (n + 1 + 1) = none then doubleParameter ord.unitPrice else none)
            (if f (n + 1 + 1 + 1) = none then some ord.userID else none))) = [] := by
          have hfilter : db.orders.rows.filter (answers
              (if f (n + 1) = none then some ord.item else none)
              (if f (n + 1 + 1) = none then doubleParameter ord.unitPrice else none)
              (if f (n + 1 + 1 + 1) = none then some ord.userID else none)) = [] := by
            refine List.filter_eq_nil_iff.mpr (fun r _ => ?_)
            rw [hunbound]
            · simp
            · by_contra hall
              simp only [not_or] at hall
              exact hc (hclear.mpr ⟨by_contra fun h1 => hall.1 (if_neg h1),
                by_contra fun h2 => hall.2.1 (if_neg h2), by_contra fun h3 => hall.2.2 (if_neg h3), hs⟩)
          rw [hfilter]
          exact (S.perm []).eq_nil
        rw [hnone]
        rfl

omit hf in
theorem answersSell_unbound (item : Option Int) (unitPrice : Option D) (userID : Option Int)
    (r : Order D) (h : item = none ∨ unitPrice = none ∨ userID = none) :
    answersSell item unitPrice userID r = false := by
  rcases h with rfl | rfl | rfl <;> simp [answersSell]

omit hf in
theorem answersBuy_unbound (item : Option Int) (unitPrice : Option D) (userID : Option Int)
    (r : Order D) (h : item = none ∨ unitPrice = none ∨ userID = none) :
    answersBuy item unitPrice userID r = false := by
  rcases h with rfl | rfl | rfl <;> simp [answersBuy]

theorem findMatchingSell_faulty (ord : Order D) :
    (∃ code, f n = some code ∧ (findMatchingSell ord).run (faulty S f) (db, n) = (code, (db, n + 1))) ∨
    (f n = none ∧ Clear f (n + 1) 4 ∧ (findMatchingSell ord).run (faulty S f) (db, n) =
      ((matchSell S db ord).elim (-1) Order.orderID, (db, n + 5))) ∨
    (f n = none ∧ ¬ Clear f (n + 1) 4 ∧
      (findMatchingSell ord).run (faulty S f) (db, n) = (-1, (db, n + 5))) :=
  findMatching_faulty S hf db n (fun _ _ _ => rfl) answersSell_unbound ord

theorem findMatchingBuy_faulty (ord : Order D) :
    (∃ code, f n = some code ∧ (findMatchingBuy ord).run (faulty S f) (db, n) = (code, (db, n + 1))) ∨
    (f n = none ∧ Clear f (n + 1) 4 ∧ (findMatchingBuy ord).run (faulty S f) (db, n) =
      ((matchBuy S db ord).elim (-1) Order.orderID, (db, n + 5))) ∨
    (f n = none ∧ ¬ Clear f (n + 1) 4 ∧
      (findMatchingBuy ord).run (faulty S f) (db, n) = (-1, (db, n + 5))) :=
  findMatching_faulty S hf db n (fun _ _ _ => rfl) answersBuy_unbound ord

inductive InsertFaulty (f : Nat → Option Int) (db : Database D) (n : Nat) (ord : Order D) :
    Int × Database D → Prop
  | failed (code : Int) (h : 0 < code)
      (hwhy : ¬ Clear f n 10 ∨ db.user ord.userID = none ∨ CDouble.isNaN ord.unitPrice = true ∨
        ∃ u, db.user ord.userID = some u ∧ insufficientBalance u ord = true) :
      InsertFaulty f db n ord (code, db)
  | unpaid (u : User) (code : Int) (h : 0 < code) (hu : db.user ord.userID = some u)
      (hi : insufficientBalance u ord = false) (hn : CDouble.isNaN ord.unitPrice = false)
      (hwhy : ¬ Clear f (n + 10) 7) : InsertFaulty f db n ord (code, db.place ord)
  | rested (u : User) (hu : db.user ord.userID = some u) (hi : insufficientBalance u ord = false)
      (hn : CDouble.isNaN ord.unitPrice = false) :
      InsertFaulty f db n ord (SQLITE_OK, (db.place ord).setBalance (withholdBalance u ord))

def insertStatement (f : Nat → Option Int) (n : Nat) (ord : Order D) : Stmt D :=
  .insertOrder (if f (n + 4) = none then some ord.item else none)
    (if f (n + 5) = none then some ord.buyOrSell else none)
    (if f (n + 6) = none then some ord.quantity else none)
    (if f (n + 7) = none then doubleParameter ord.unitPrice else none)
    (if f (n + 8) = none then some ord.userID else none)

theorem insertOrder_bound (ord : Order D) {u : User}
    (hg : (getUser ord.userID).run (faulty S f) (db, n) =
      (match db.user ord.userID with
        | some u => .ok u
        | none => .error SQLITE_NOTFOUND, (db, n + 3)))
    (hu : db.user ord.userID = some u) (hi : insufficientBalance u ord = false)
    (hp : f (n + 3) = none) :
    (insertOrder ord).run (faulty S f) (db, n) =
      if ((execute (insertStatement f n ord)).run (faulty S f) (db, n + 9)).1 ≠ SQLITE_OK then
        (execute (insertStatement f n ord)).run (faulty S f) (db, n + 9)
      else (updateUserBalance (withholdBalance u ord)).run (faulty S f)
        ((execute (insertStatement f n ord)).run (faulty S f) (db, n + 9)).2 := by
  have hrun : (insertOrder ord).run (faulty S f) (db, n) =
      (if ((execute (insertStatement f n ord)).run (faulty S f) (db, n + 9)).1 ≠ SQLITE_OK then
        pure ((execute (insertStatement f n ord)).run (faulty S f) (db, n + 9)).1
      else updateUserBalance (withholdBalance u ord)).run (faulty S f)
        ((execute (insertStatement f n ord)).run (faulty S f) (db, n + 9)).2 := by
    simp only [insertOrder, Prog.run_bind, hg, hu, hi, Bool.false_eq_true, if_false,
      run_prepare_faulty, hp, Option.getD_none, SQLITE_OK, ne_eq, not_true,
      run_bindUnchecked_faulty S db _ hf, run_bindDouble_faulty S db _ hf]
    rfl
  rw [hrun]
  split <;> rfl

theorem insertOrder_executed (ord : Order D) :
    (∃ code, 0 < code ∧ (¬ Clear f n 10 ∨ db.user ord.userID = none ∨
        CDouble.isNaN ord.unitPrice = true) ∧
      (execute (insertStatement f n ord)).run (faulty S f) (db, n + 9) = (code, (db, n + 10))) ∨
    (CDouble.isNaN ord.unitPrice = false ∧ (db.user ord.userID).isSome ∧
      (execute (insertStatement f n ord)).run (faulty S f) (db, n + 9) =
        (SQLITE_OK, (db.place ord, n + 10))) := by
  rcases execute_faulty S hf db (n + 9) (insertStatement f n ord) with ⟨-, hr⟩ | ⟨hs, code, hcode, hr⟩
  · rcases exec_insertOrder S db (if f (n + 4) = none then some ord.item else none)
      (if f (n + 5) = none then some ord.buyOrSell else none)
      (if f (n + 6) = none then some ord.quantity else none)
      (if f (n + 8) = none then some ord.userID else none)
      (if f (n + 7) = none then doubleParameter ord.unitPrice else none) with
      he | ⟨i, b, q, p, u, hi, hb, hq, hp, hu, huser, he⟩
    · refine .inl ⟨SQLITE_CONSTRAINT, by decide, ?_, ?_⟩
      · by_contra hwhy
        simp only [not_or, not_not] at hwhy
        obtain ⟨hc, hu, hn⟩ := hwhy
        have huser : (db.user ord.userID).isSome = true := Option.isSome_iff_ne_none.mpr hu
        simp [doubleParameter, hc 4 (by omega), hc 5 (by omega), hc 6 (by omega),
          hc 7 (by omega), hc 8 (by omega), hn, huser] at he
      · rw [hr, insertStatement, he]
        rfl
    · obtain ⟨-, rfl⟩ := bound_eq hi
      obtain ⟨-, rfl⟩ := bound_eq hb
      obtain ⟨-, rfl⟩ := bound_eq hq
      obtain ⟨-, hn, rfl⟩ := bound_double_eq hp
      obtain ⟨-, rfl⟩ := bound_eq hu
      refine .inr ⟨hn, huser, ?_⟩
      rw [hr, insertStatement, he]
      rfl
  · exact .inl ⟨code, hcode.1, .inl fun h => hs (h 9 (by omega)), hr⟩

theorem insertOrder_faulty (ord : Order D) :
    ∃ res n', (insertOrder ord).run (faulty S f) (db, n) = (res.1, (res.2, n')) ∧
      InsertFaulty f db n ord res := by
  have hten : Clear f n 10 ↔ Clear f n 3 ∧ f (n + 3) = none ∧ Clear f (n + 3 + 1) 5 ∧
      f (n + 3 + 1 + 5) = none := by
    simp only [← clear_one, ← clear_add]
  rcases getUser_faulty S hf db n ord.userID with ⟨hc, hg⟩ | ⟨hc, code, n', hcode, hg⟩
  · cases hu : db.user ord.userID with
    | none =>
      refine ⟨(SQLITE_NOTFOUND, db), n + 3, ?_, .failed _ (by decide) (.inr (.inl hu))⟩
      simp [insertOrder, hg, hu]
    | some u =>
      cases hi : insufficientBalance u ord with
      | true =>
        refine ⟨(SQLITE_ERROR, db), n + 3, ?_, .failed _ (by decide) (.inr (.inr (.inr ⟨u, hu, hi⟩)))⟩
        simp [insertOrder, hg, hu, hi]
      | false =>
        cases hp : f (n + 3) with
        | some code =>
          have hne := error_ne_ok hf _ hp
          refine ⟨(code, db), n + 3 + 1, ?_, .failed _ (hf _ code hp).1 (.inl ?_)⟩
          · simp [insertOrder, hg, hu, hi, run_prepare_faulty, hp, hne]
          · intro h10
            have := (hten.mp h10).2.1
            rw [hp] at this
            cases this
        | none =>
          have hbound := insertOrder_bound S hf db n ord hg hu hi hp
          rcases insertOrder_executed S hf db n ord with ⟨code, hcode, hwhy, hx⟩ | ⟨hn, huser, hx⟩
          · have hne : code ≠ SQLITE_OK := by
              simp only [SQLITE_OK]
              omega
            refine ⟨(code, db), n + 10, ?_, .failed _ hcode (hwhy.elim .inl fun h => .inr ?_)⟩
            · rw [hbound, hx, if_pos hne]
            · rcases h with h | h
              · exact .inl h
              · exact .inr (.inl h)
          · rw [hbound, hx]
            rcases updateUserBalance_faulty S hf (db.place ord) (n + 10) (withholdBalance u ord) with
              ⟨-, hup⟩ | ⟨hc7, code, n', hcode, hup⟩
            · exact ⟨(SQLITE_OK, _), n + 10 + 7, hup, .rested u hu hi hn⟩
            · exact ⟨(code, db.place ord), n', hup, .unpaid u code hcode hu hi hn hc7⟩
  · refine ⟨(code, db), n', ?_, .failed _ hcode (.inl fun h10 => hc (hten.mp h10).1)⟩
    simp [insertOrder, hg]

end Queries

end Marketplace
