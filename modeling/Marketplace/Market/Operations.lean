import Marketplace.Foundation.Runs
import Marketplace.Command.Outcomes

namespace Marketplace
open CallTree KeyedTable

variable {D : Type}

inductive Op (D : Type) where
  | register (newUser : User)
  | buy (ord : Order D)
  | sell (ord : Order D)
  | cancelOrder (orderID currentUserID : Int)
  | elapse (seconds : Nat)

def Op.order : Op D → Option (Order D)
  | .buy ord => some ord
  | .sell ord => some ord
  | _ => none

def newUser (username password name : CString) : User where
  userID := 0
  username := username
  password := password
  name := name
  OMG := DEFAULT_OMG
  DOGE := DEFAULT_DOGE
  BTC := DEFAULT_BTC
  ETH := DEFAULT_ETH

namespace Database

def elapse (db : Database D) (seconds : Nat) : Database D :=
  { db with now := db.now + seconds }

def addUser (db : Database D) (u : User) : Database D :=
  db.insertUserRow u.username u.password u.name u.OMG u.DOGE u.BTC u.ETH

def taken (db : Database D) (username : CString) : Bool :=
  db.users.rows.any (fun r => r.username == username)

@[simp] theorem users_elapse (db : Database D) (n : Nat) : (db.elapse n).users = db.users := rfl
@[simp] theorem orders_elapse (db : Database D) (n : Nat) : (db.elapse n).orders = db.orders := rfl
@[simp] theorem orders_addUser (db : Database D) (u : User) : (db.addUser u).orders = db.orders := rfl

theorem mem_users_addUser {db : Database D} {u r : User} :
    r ∈ (db.addUser u).users.rows ↔
      r ∈ db.users.rows ∨ r = { u with userID := db.users.seq + 1 } :=
  Table.mem_insert

theorem user_addUser {db : Database D} {u v : User} {id : Int} (hv : db.user id = some v) :
    (db.addUser u).user id = some v := by
  have hmem : v ∈ (db.addUser u).users.rows := mem_users_addUser.mpr (.inl (user_mem hv))
  have hfind := user_of_mem hmem
  rwa [user_userID hv] at hfind

theorem mem_orders_rewrite {db : Database D} {ord r : Order D} :
    r ∈ (db.rewrite ord).orders.rows ↔
      ∃ s ∈ db.orders.rows, r = if s.orderID = ord.orderID then
        { ord with orderID := s.orderID, createdAt := s.createdAt } else s := by
  simp only [rewrite, updateOrderRow, Table.mem_modify]

end Database

variable [CDouble D] (S : CreatedAtSort D)

theorem run_insertUser (db : Database D) (u : User) :
    (insertUser u).run (perform S) db =
      if db.taken u.username then (.error SQLITE_CONSTRAINT, db)
      else (.ok (db.users.seq + 1), db.addUser u) := by
  cases ht : db.taken u.username
  · have hany : db.users.rows.any (fun r => r.username == u.username) = false := ht
    simp [insertUser, execute, hany, StepResult.code, sqlite3LastInsertRowid, perform,
      Database.addUser, Database.insertUserRow]
  · have hany : db.users.rows.any (fun r => r.username == u.username) = true := ht
    simp [insertUser, execute, hany, StepResult.code, SQLITE_CONSTRAINT, SQLITE_DONE,
      SQLITE_OK]

def apply : Op D → Database D → Database D
  | .register newUser, db => ((insertUser newUser).run (perform S) db).2
  | .buy ord, db => ((buy ord).run (perform S) db).2
  | .sell ord, db => ((sell ord).run (perform S) db).2
  | .cancelOrder orderID currentUserID, db =>
    ((cancelOrder orderID currentUserID).run (perform S) db).2
  | .elapse seconds, db => db.elapse seconds

theorem apply_register (u : User) (db : Database D) :
    apply S (.register u) db = if db.taken u.username then db else db.addUser u := by
  simp only [apply, run_insertUser]
  split <;> rfl

inductive NewRow (db : Database D) (ord r : Order D) : Prop
  | posted (u : User) (hu : db.user ord.userID = some u) (hi : insufficientBalance u ord = false)
      (hn : CDouble.isNaN ord.unitPrice = false) (hr : r = db.placed ord)
  | reduced (m : Order D) (hm : m ∈ db.orders.rows) (hq : m.quantity - transactionQuantity ord m ≠ 0)
      (hr : r = m.reduce (transactionQuantity ord m))
  | remainder (m : Order D) (u : User) (old : Database D) (hm : m ∈ db.orders.rows)
      (hq : 0 < ord.quantity - transactionQuantity ord m)
      (hi : insufficientBalance u (remainder db ord m) = false)
      (hn : CDouble.isNaN ord.unitPrice = false) (hr : r = old.placed (remainder db ord m))

variable {S} {db : Database D} {ord m r : Order D} {u v : User}

omit [CDouble D] in
theorem mem_orders_fill {taker maker : User} (hrow : db.order m.orderID = some m) :
    r ∈ (db.fill ord m taker maker).orders.rows ↔
      (r ∈ db.orders.rows ∧ r.orderID ≠ m.orderID) ∨
        (m.quantity - transactionQuantity ord m ≠ 0 ∧ r = m.reduce (transactionQuantity ord m)) := by
  unfold Database.fill
  split
  · next hq =>
    have hmem : r ∈ (db.orders.erase m.orderID).rows ↔ r ∈ db.orders.rows ∧ r.orderID ≠ m.orderID :=
      Table.mem_erase
    simpa [hq, Database.deleteOrderRow] using hmem
  · next hq =>
    constructor
    · intro hr
      obtain ⟨s, hs, rfl⟩ := Database.mem_orders_rewrite.mp hr
      by_cases hk : s.orderID = m.orderID
      · have hsm : s = m := Table.key_injective hs (Database.order_mem hrow) hk
        subst hsm
        exact .inr ⟨hq, if_pos rfl⟩
      · exact .inl (by simpa [hk] using hs)
    · rintro (⟨hr, hk⟩ | ⟨-, rfl⟩)
      · exact Database.mem_orders_rewrite.mpr ⟨r, hr, (if_neg hk).symm⟩
      · exact Database.mem_orders_rewrite.mpr ⟨m, Database.order_mem hrow, (if_pos rfl).symm⟩

theorem insertOutcome_rows {res : Int × Database D} (hu : db.user ord.userID = some u)
    (h : InsertOutcome db u ord res) (hr : r ∈ res.2.orders.rows) :
    r ∈ db.orders.rows ∨ NewRow db ord r := by
  cases h with
  | refused hi => exact .inl hr
  | notNull hi hn => exact .inl hr
  | rested hi hn =>
    rcases (Database.mem_orders_place db ord).mp hr with hr | hr
    · exact .inl hr
    · exact .inr (.posted u hu hi hn hr)

theorem fill_rows {taker maker : User} (hf : Fillable db ord m u v)
    (hr : r ∈ (db.fill ord m taker maker).orders.rows) : r ∈ db.orders.rows ∨ NewRow db ord r := by
  rcases (mem_orders_fill hf.row).mp hr with ⟨hr, -⟩ | ⟨hq, hr⟩
  · exact .inl hr
  · exact .inr (.reduced m (Database.order_mem hf.row) hq hr)

theorem settleOutcome_rows {taker maker : User} {res : Int × Database D}
    (hf : Fillable db ord m u v) (h : SettleOutcome db ord m taker maker res)
    (hr : r ∈ res.2.orders.rows) : r ∈ db.orders.rows ∨ NewRow db ord r := by
  cases h with
  | complete hq => exact fill_rows hf hr
  | refused hq hi => exact fill_rows hf hr
  | rested hq hi =>
    rcases (Database.mem_orders_place _ _).mp hr with hr | hr
    · exact fill_rows hf hr
    · exact .inr (.remainder m taker _ (Database.order_mem hf.row) hq hi hf.price hr)

theorem buy_applied (S : CreatedAtSort D) (ord : Order D) (db : Database D) :
    ∃ res, BuyOutcome S db ord res ∧ apply S (.buy ord) db = res.2 :=
  ⟨_, buy_outcome, rfl⟩

theorem sell_applied (S : CreatedAtSort D) (ord : Order D) (db : Database D) :
    ∃ res, SellOutcome S db ord res ∧ apply S (.sell ord) db = res.2 :=
  ⟨_, sell_outcome, rfl⟩

theorem cancelOrder_applied (S : CreatedAtSort D) (orderID currentUserID : Int) (db : Database D) :
    ∃ res, CancelOutcome db orderID currentUserID res ∧
      apply S (.cancelOrder orderID currentUserID) db = res.2 :=
  ⟨_, cancelOrder_outcome orderID currentUserID, rfl⟩

theorem buy_rows (hr : r ∈ (apply S (.buy ord) db).orders.rows) :
    r ∈ db.orders.rows ∨ NewRow db ord r := by
  obtain ⟨res, hout, hres⟩ := buy_applied S ord db
  rw [hres] at hr
  cases hout with
  | unknownUser hu => exact .inl hr
  | refused u hu h => exact .inl hr
  | unmatched u hu h hm _ hins => exact insertOutcome_rows hu hins hr
  | unfillable u m hu h hm hv => exact .inl hr
  | matched u v m h hm hf _ hset => exact settleOutcome_rows hf hset hr

theorem sell_rows (hr : r ∈ (apply S (.sell ord) db).orders.rows) :
    r ∈ db.orders.rows ∨ NewRow db ord r := by
  obtain ⟨res, hout, hres⟩ := sell_applied S ord db
  rw [hres] at hr
  cases hout with
  | unknownUser hu => exact .inl hr
  | refused u hu h => exact .inl hr
  | unmatched u hu h hm _ hins => exact insertOutcome_rows hu hins hr
  | unfillable u m hu h hm hv => exact .inl hr
  | matched u v m h hm hf _ hset => exact settleOutcome_rows hf hset hr

theorem cancelOrder_rows {orderID currentUserID : Int}
    (hr : r ∈ (apply S (.cancelOrder orderID currentUserID) db).orders.rows) :
    r ∈ db.orders.rows := by
  obtain ⟨res, hout, hres⟩ := cancelOrder_applied S orderID currentUserID db
  rw [hres] at hr
  cases hout with
  | unknownOrder h => exact hr
  | unauthorized r' hr' h => exact hr
  | unknownUser r' hr' h hu => exact hr
  | cancelled r' u hr' h hu => exact (Table.mem_erase.mp hr).1

theorem apply_register_orders (newUser : User) :
    (apply S (.register newUser) db).orders = db.orders := by
  rw [apply_register]
  split <;> rfl

theorem apply_rows {P : Order D → Prop} {op : Op D} (hP : ∀ r ∈ db.orders.rows, P r)
    (hnew : ∀ ord r, (op = .buy ord ∨ op = .sell ord) → NewRow db ord r → P r) :
    ∀ r ∈ (apply S op db).orders.rows, P r := by
  intro r hr
  cases op with
  | register newUser =>
    rw [apply_register_orders] at hr
    exact hP r hr
  | buy ord =>
    rcases buy_rows hr with hr | hr
    · exact hP r hr
    · exact hnew ord r (.inl rfl) hr
  | sell ord =>
    rcases sell_rows hr with hr | hr
    · exact hP r hr
    · exact hnew ord r (.inr rfl) hr
  | cancelOrder orderID currentUserID => exact hP r (cancelOrder_rows hr)
  | elapse seconds => exact hP r hr

end Marketplace
