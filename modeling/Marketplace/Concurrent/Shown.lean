import Marketplace.Concurrent.Confinement
import Marketplace.Foundation.Coupling

namespace Marketplace
open CallTree KeyedTable RelyGuarantee Coupling

variable {D ι : Type}

def User.shown (u : User) : User :=
  { u with password := [], name := [] }

def Row.shown : Row D → Row D
  | .user u => .user u.shown
  | r => r

def StepResult.shown : StepResult D → StepResult D
  | .row r => .row r.shown
  | r => r

def Stmt.shown : Stmt D → Stmt D
  | .insertUser username _ _ OMG DOGE BTC ETH => .insertUser username [] [] OMG DOGE BTC ETH
  | s => s

def Stmt.ReadsUser : Stmt D → Prop
  | .selectUser _ => True
  | .selectUserByUsername _ => True
  | _ => False

def Call.shown : Call D → Call D
  | .step s => .step s.shown
  | c => c

def ClientCall.shown : ClientCall D → ClientCall D
  | .register newUser => .register newUser.shown
  | o => o

def ClientResult.shown : ClientResult → ClientResult
  | .user found => .user (found.map User.shown)
  | r => r

structure SameShown (db db' : Database D) : Prop where
  users : db.users.rows.map User.shown = db'.users.rows.map User.shown
  userIDs : db.users.seq = db'.users.seq
  orders : db.orders = db'.orders
  archives : db.archives = db'.archives
  now : db.now = db'.now
  lastRowid : db.lastRowid = db'.lastRowid

def Answered : (c d : Call D) → c.Resp → d.Resp → Prop
  | .step s, .step _, r, r' => r.shown = r'.shown ∧ (¬ s.ReadsUser → r = r')
  | .prepare, .prepare, r, r' => r = r'
  | .bind, .bind, r, r' => r = r'
  | .lastInsertRowid, .lastInsertRowid, r, r' => r = r'
  | _, _, _, _ => False

def secretly : Matching (Call D) Call.Resp where
  sent c d := c.shown = d.shown
  answered := Answered

def SameUser (a b : Except Int User) : Prop :=
  a.map User.shown = b.map User.shown

def SameResult (r r' : ClientResult) : Prop :=
  r.shown = r'.shown

section Users

variable {db db' : Database D}

theorem SameShown.find (h : SameShown db db') (p : User → Bool) (hp : ∀ u, p u.shown = p u) :
    (db.users.rows.find? p).map User.shown = (db'.users.rows.find? p).map User.shown := by
  have hshown (rows : List User) :
      (rows.find? p).map User.shown = (rows.map User.shown).find? p := by
    rw [List.find?_map]
    have hcomp : p ∘ User.shown = p := funext hp
    rw [hcomp]
  rw [hshown, hshown, h.users]

theorem SameShown.user (h : SameShown db db') (id : Int) :
    (db.user id).map User.shown = (db'.user id).map User.shown :=
  h.find (fun u => u.userID = id) fun _ => rfl

theorem SameShown.user_isSome (h : SameShown db db') (id : Int) :
    (db.user id).isSome = (db'.user id).isSome := by
  have hsome := congrArg Option.isSome (h.user id)
  rwa [Option.isSome_map, Option.isSome_map] at hsome

theorem SameShown.taken (h : SameShown db db') (username : CString) :
    db.users.rows.any (fun r => r.username == username) =
      db'.users.rows.any (fun r => r.username == username) := by
  have hshown (rows : List User) : rows.any (fun r => r.username == username) =
      (rows.map User.shown).any (fun r => r.username == username) := by
    rw [List.any_map]
    rfl
  rw [hshown db.users.rows, hshown db'.users.rows, h.users]

theorem SameShown.insertUserRow (h : SameShown db db')
    (username password name password' name' : CString) (OMG DOGE BTC ETH : Int) :
    SameShown (db.insertUserRow username password name OMG DOGE BTC ETH)
      (db'.insertUserRow username password' name' OMG DOGE BTC ETH) where
  users := by
    simp only [Database.insertUserRow, Table.insert, List.map_append, h.users, h.userIDs]
    rfl
  userIDs := congrArg (· + 1) h.userIDs
  orders := h.orders
  archives := h.archives
  now := h.now
  lastRowid := congrArg (· + 1) h.userIDs

theorem SameShown.updateBalanceRow (h : SameShown db db') (OMG DOGE BTC ETH userID : Int) :
    SameShown (db.updateBalanceRow OMG DOGE BTC ETH userID)
      (db'.updateBalanceRow OMG DOGE BTC ETH userID) where
  users := by
    have hshown (rows : List User) : (rows.map (fun r =>
          if r.userID = userID then { r with OMG, DOGE, BTC, ETH } else r)).map User.shown =
        (rows.map User.shown).map (fun r =>
          if r.userID = userID then { r with OMG, DOGE, BTC, ETH } else r) := by
      rw [List.map_map, List.map_map]
      refine List.map_congr_left (fun r _ => ?_)
      by_cases hid : r.userID = userID <;> simp [User.shown, hid]
    simp only [Database.updateBalanceRow, Table.modify]
    rw [hshown, hshown, h.users]
  userIDs := h.userIDs
  orders := h.orders
  archives := h.archives
  now := h.now
  lastRowid := h.lastRowid

theorem SameShown.elapse (h : SameShown db db') (seconds : Nat) :
    SameShown (db.elapse seconds) (db'.elapse seconds) where
  users := h.users
  userIDs := h.userIDs
  orders := h.orders
  archives := h.archives
  now := congrArg (· + seconds) h.now
  lastRowid := h.lastRowid

theorem SameShown.of_users (db : Database D) {users : Table User User.userID}
    (h : db.users.rows.map User.shown = users.rows.map User.shown)
    (hseq : db.users.seq = users.seq) :
    SameShown db { db with users } :=
  ⟨h, hseq, rfl, rfl, rfl, rfl⟩

theorem SameShown.split (h : SameShown db db') : db' = { db with users := db'.users } := by
  cases db'
  obtain ⟨-, -, rfl, rfl, rfl, rfl⟩ := h
  rfl

end Users

section Statements

variable {db db' : Database D}

theorem shown_firstRow_user (o : Option User) :
    (firstRow (o.map .user) : StepResult D).shown =
      firstRow ((o.map User.shown).map .user) := by
  cases o <;> rfl

theorem Stmt.shown_cases {s s' : Stmt D} (h : s.shown = s'.shown) :
    s = s' ∨ ∃ username password name password' name' OMG DOGE BTC ETH,
      s = .insertUser username password name OMG DOGE BTC ETH ∧
        s' = .insertUser username password' name' OMG DOGE BTC ETH := by
  cases s with
  | insertUser username password name OMG DOGE BTC ETH =>
    cases s' <;> cases h
    exact .inr ⟨_, _, _, _, _, _, _, _, _, rfl, rfl⟩
  | _ => cases s' <;> first | exact .inl h | cases h

structure ExecAlike (s : Stmt D) (res res' : StepResult D × Database D) : Prop where
  shown : res.1.shown = res'.1.shown
  same : ¬ s.ReadsUser → res.1 = res'.1
  rest : SameShown res.2 res'.2

theorem execAlike_of_eq {s : Stmt D} (r : StepResult D) (h : SameShown db db') :
    ExecAlike s (r, db) (r, db') :=
  ⟨rfl, fun _ => rfl, h⟩

theorem execAlike_of_user {s : Stmt D} (hs : s.ReadsUser) {o o' : Option User}
    (ho : o.map User.shown = o'.map User.shown) (h : SameShown db db') :
    ExecAlike s (firstRow (o.map .user), db) (firstRow (o'.map .user), db') := by
  refine ⟨?_, fun hn => absurd hs hn, h⟩
  show (firstRow (o.map .user) : StepResult D).shown = (firstRow (o'.map .user)).shown
  rw [shown_firstRow_user, shown_firstRow_user, ho]

theorem execAlike_guarded {s : Stmt D} {db₁ db₂ : Database D} (userID : Int)
    (h : SameShown db db') (hstored : SameShown db₁ db₂) :
    ExecAlike s (if (db.user userID).isSome then (.done, db₁) else (.error SQLITE_CONSTRAINT, db))
      (if (db'.user userID).isSome then (.done, db₂) else (.error SQLITE_CONSTRAINT, db')) := by
  rw [← h.user_isSome]
  split
  · exact execAlike_of_eq _ hstored
  · exact execAlike_of_eq _ h

variable [CDouble D]

theorem exec_alike (S : CreatedAtSort D) (s : Stmt D) (h : SameShown db db') :
    ExecAlike s (s.exec S db) (s.exec S db') := by
  have hkept (db₁ : Database D) (h₁ : db₁.users = db.users) :
      SameShown db₁ { db₁ with users := db'.users } :=
    .of_users db₁ (h₁ ▸ h.users) (h₁ ▸ h.userIDs)
  cases s with
  | insertOrder item buyOrSell quantity unitPrice userID =>
    have hrow (i b n : Int) (p : D) (u : Int) : SameShown (db.insertOrderRow i b n p u)
        (db'.insertOrderRow i b n p u) := by
      rw [h.split]
      exact hkept _ rfl
    rcases item with _ | i
    · exact execAlike_of_eq _ h
    rcases buyOrSell with _ | b
    · exact execAlike_of_eq _ h
    rcases quantity with _ | n
    · exact execAlike_of_eq _ h
    rcases unitPrice with _ | p
    · exact execAlike_of_eq _ h
    rcases userID with _ | u
    · exact execAlike_of_eq _ h
    exact execAlike_guarded u h (hrow i b n p u)
  | insertUser username password name OMG DOGE BTC ETH =>
    rw [exec_insertUser, exec_insertUser, ← h.taken]
    split
    · exact execAlike_of_eq _ h
    · exact execAlike_of_eq _ (h.insertUserRow _ _ _ _ _ _ _ _ _)
  | deleteOrder orderID =>
    rw [h.split]
    cases orderID with
    | none => exact execAlike_of_eq _ (hkept _ rfl)
    | some orderID => exact execAlike_of_eq _ (hkept _ rfl)
  | selectUser userID => exact execAlike_of_user (s := .selectUser userID) trivial (h.user userID) h
  | selectOrder orderID =>
    rw [h.split]
    exact execAlike_of_eq _ (hkept _ rfl)
  | matchingBuy item unitPrice userID =>
    rw [h.split]
    exact execAlike_of_eq _ (hkept _ rfl)
  | matchingSell item unitPrice userID =>
    rw [h.split]
    exact execAlike_of_eq _ (hkept _ rfl)
  | updateOrder item buyOrSell quantity unitPrice userID orderID =>
    have hrow (p : D) : SameShown (db.updateOrderRow item buyOrSell quantity p userID orderID)
        (db'.updateOrderRow item buyOrSell quantity p userID orderID) := by
      rw [h.split]
      exact hkept _ rfl
    have horder : db'.order orderID = db.order orderID := by rw [h.split]; rfl
    rcases unitPrice with _ | p
    · rw [exec_updateOrder_unpriced, exec_updateOrder_unpriced, horder]
      split
      · exact execAlike_of_eq _ h
      · exact execAlike_of_eq _ h
    · rw [exec_updateOrder_priced, exec_updateOrder_priced, horder]
      split
      · exact execAlike_of_eq _ h
      · exact execAlike_guarded userID h (hrow p)
  | updateUserBalance OMG DOGE BTC ETH userID =>
    exact execAlike_of_eq _ (h.updateBalanceRow OMG DOGE BTC ETH userID)
  | selectInventory userID =>
    cases userID with
    | none => exact execAlike_of_eq _ h
    | some id =>
      have hshown (db : Database D) : (db.user id).map (fun u =>
            (.inventory u.OMG u.DOGE u.BTC u.ETH : Row D)) =
          ((db.user id).map User.shown).map (fun u => .inventory u.OMG u.DOGE u.BTC u.ETH) := by
        rw [Option.map_map]
        rfl
      simp only [exec_selectInventory, Option.bind_some, hshown, h.user]
      exact execAlike_of_eq _ h
  | selectUserByUsername username =>
    exact execAlike_of_user (s := .selectUserByUsername username) trivial (h.find _ fun _ => rfl) h
  | insertArchive item buyOrSell quantity unitPrice userID createdAt =>
    have hrow (i b n : Int) (p : D) (u : Int) : SameShown
        (db.insertArchiveRow i b n p u createdAt) (db'.insertArchiveRow i b n p u createdAt) := by
      rw [h.split]
      exact hkept _ rfl
    rcases item with _ | i
    · exact execAlike_of_eq _ h
    rcases buyOrSell with _ | b
    · exact execAlike_of_eq _ h
    rcases quantity with _ | n
    · exact execAlike_of_eq _ h
    rcases unitPrice with _ | p
    · exact execAlike_of_eq _ h
    rcases userID with _ | u
    · exact execAlike_of_eq _ h
    exact execAlike_guarded u h (hrow i b n p u)
  | currentTimestamp =>
    rw [h.split]
    exact execAlike_of_eq _ (hkept _ rfl)

theorem stmt_alike (S : CreatedAtSort D) {s s' : Stmt D} (hs : s.shown = s'.shown)
    (h : SameShown db db') : Answered (.step s) (.step s') (s.exec S db).1 (s'.exec S db').1 ∧
      SameShown (s.exec S db).2 (s'.exec S db').2 := by
  rcases s.shown_cases hs with rfl | ⟨_, _, _, _, _, _, _, _, _, rfl, rfl⟩
  · have halike := exec_alike S s h
    exact ⟨⟨halike.shown, halike.same⟩, halike.rest⟩
  · rw [exec_insertUser, exec_insertUser, ← h.taken]
    split
    · exact ⟨⟨rfl, fun _ => rfl⟩, h⟩
    · exact ⟨⟨rfl, fun _ => rfl⟩, h.insertUserRow _ _ _ _ _ _ _ _ _⟩

end Statements

structure SameForked (w w' : Forked D ι) : Prop where
  db : SameShown w.db w'.db
  lastRowid : w.lastRowid = w'.lastRowid
  failing : w.failing = w'.failing
  copy : w.copy = w'.copy
  misled : w.misled = w'.misled

section Calls

variable [DecidableEq ι] {w w' : Forked D ι}

theorem SameForked.recover (h : SameForked w w') (i : ι) :
    SameForked (w.recover i) (w'.recover i) :=
  { h with failing := by rw [Forked.recover, Forked.recover, h.failing] }

theorem SameForked.mislead (h : SameForked w w') (i : ι) (code : Int) :
    SameForked (w.mislead i code) (w'.mislead i code) :=
  { h with misled := by rw [Forked.mislead, Forked.mislead, h.misled] }

theorem SameForked.store (h : SameForked w w') (i : ι) {db db' : Database D}
    (hdb : SameShown db db') : SameForked (w.store i db) (w'.store i db') :=
  { h with
    db := hdb
    lastRowid := by rw [Forked.store, Forked.store, h.lastRowid, hdb.lastRowid] }

omit [DecidableEq ι] in
theorem SameForked.connection (h : SameForked w w') (i : ι) :
    SameShown (w.connection i) (w'.connection i) :=
  { h.db with lastRowid := congrFun h.lastRowid i }

theorem SameForked.observe (h : SameForked w w') (i : ι) {r r' : StepResult D}
    (hr : r.shown = r'.shown) : SameForked (w.observe i r) (w'.observe i r') := by
  have hsame (w : Forked D ι) (r : StepResult D) : w.observe i r.shown = w.observe i r := by
    rcases r with r | _ | _
    · cases r <;> rfl
    · rfl
    · rfl
  rw [← hsame w r, ← hsame w' r', hr]
  unfold Forked.observe
  split
  · exact { h with copy := by rw [h.copy] }
  · exact h

variable [CDouble D]

theorem respects_attend (S : CreatedAtSort D) :
    Respects secretly (attend S) Forked.disturb (SameForked (D := D) (ι := ι)) where
  call i c d w w' hsent h := by
    cases c with
    | prepare =>
      cases d <;> cases hsent
      rw [attend_prepare, attend_prepare, ← h.failing]
      cases w.failing i with
      | none => exact ⟨rfl, h⟩
      | some e => exact ⟨rfl, (h.recover i).mislead i e.code⟩
    | bind =>
      cases d <;> cases hsent
      rw [attend_bind, attend_bind, ← h.failing]
      cases w.failing i with
      | none => exact ⟨rfl, h⟩
      | some e => exact ⟨rfl, h.recover i⟩
    | lastInsertRowid =>
      cases d <;> cases hsent
      exact ⟨congrFun h.lastRowid i, h⟩
    | step s =>
      cases d with
      | step s' =>
        have hs : s.shown = s'.shown := Call.step.inj hsent
        cases hf : w.failing i with
        | none =>
          have hf' : w'.failing i = none := by rw [← h.failing, hf]
          obtain ⟨hanswered, hdb⟩ := stmt_alike S hs (h.connection i)
          rw [attend_step S s hf, attend_step S s' hf']
          exact ⟨hanswered, (h.store i hdb).observe i hanswered.1⟩
        | some e =>
          have hf' : w'.failing i = some e := by rw [← h.failing, hf]
          rw [attend_step_failing S s hf, attend_step_failing S s' hf']
          exact ⟨⟨rfl, fun _ => rfl⟩, h.recover i⟩
      | _ => cases hsent
  env e w w' h := by
    cases e with
    | elapse seconds => exact { h with db := h.db.elapse seconds }
    | fail i code => exact { h with failing := by rw [Forked.disturb, Forked.disturb, h.failing] }

end Calls

end Marketplace
