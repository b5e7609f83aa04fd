import Marketplace.Session.Shared

namespace Marketplace
open CallTree Interleaving KeyedTable

variable {D : Type} [CDouble D] {ι : Type} [DecidableEq ι]

def Accounted (db : Database D) (w : Shared D ι) : Prop :=
  ∀ id u, db.user id = some u →
    ∃ v, w.db.user id = some v ∧ ∀ c, v.balance c = u.balance c + w.moved id c

def BalanceUnchanged : ι → Call D → Shared D ι → Prop
  | i, .step (.updateUserBalance _ _ _ _ id), w =>
    ∀ v ∈ w.db.user id, ∃ u ∈ w.userCopy i id, ∀ c, u.balance c = v.balance c
  | _, _, _ => True

instance (i : ι) (c : Call D) (w : Shared D ι) : Decidable (BalanceUnchanged i c w) := by
  unfold BalanceUnchanged
  split
  all_goals infer_instance

section Statements

variable {S : CreatedAtSort D} {db : Database D} {s : Stmt D}

theorem user_exec (hs : ∀ OMG DOGE BTC ETH id, s ≠ .updateUserBalance OMG DOGE BTC ETH id) {id : Int}
    {v : User} (hv : db.user id = some v) : (s.exec S db).2.user id = some v := by
  cases s with
  | insertOrder item buyOrSell quantity unitPrice userID =>
    obtain h | ⟨i, b, n, p, u, -, -, -, -, -, -, h⟩ :=
      exec_insertOrder S db item buyOrSell quantity userID unitPrice
    · rwa [h]
    · rwa [h]
  | insertUser username password name OMG DOGE BTC ETH =>
    rw [exec_insertUser]
    split
    · exact hv
    · exact Database.user_addUser (u := ⟨0, _, _, _, _, _, _, _⟩) hv
  | deleteOrder orderID => cases orderID <;> exact hv
  | updateOrder item buyOrSell quantity unitPrice userID orderID =>
    rw [exec_updateOrder_match]
    split <;> exact hv
  | updateUserBalance OMG DOGE BTC ETH userID => exact absurd rfl (hs _ _ _ _ _)
  | insertArchive item buyOrSell quantity unitPrice userID createdAt =>
    obtain h | ⟨i, b, n, p, u, -, -, -, -, -, -, h⟩ :=
      exec_insertArchive S db item buyOrSell quantity userID unitPrice createdAt
    · rwa [h]
    · rwa [h]
  | _ => exact hv

omit [CDouble D] in
theorem moved_observe (hs : ∀ OMG DOGE BTC ETH id, s ≠ .updateUserBalance OMG DOGE BTC ETH id) (i : ι)
    (w : Shared D ι) (r : StepResult D) : (w.observe i s r).moved = w.moved := by
  unfold Shared.observe
  split
  case h_3 => exact absurd rfl (hs _ _ _ _ _)
  case h_4 =>
    unfold Shared.consume
    split <;> rfl
  case h_5 =>
    unfold Shared.consume
    split <;> rfl
  all_goals rfl

omit [CDouble D] in
theorem user_updateBalanceRow (OMG DOGE BTC ETH : Int) {id k : Int} {v : User}
    (hv : db.user k = some v) :
    (db.updateBalanceRow OMG DOGE BTC ETH id).user k =
      some (if k = id then { v with OMG, DOGE, BTC, ETH } else v) := by
  have hfind : (db.updateBalanceRow OMG DOGE BTC ETH id).user k = (db.user k).map
      (fun r => if k = id then { r with OMG, DOGE, BTC, ETH } else r) := by
    simp only [Database.user, Database.updateBalanceRow, Table.find_modify]
  rw [hfind, hv, Option.map_some]

end Statements

section Run

variable {S : CreatedAtSort D} {db : Database D} {i : ι} {w : Shared D ι}

theorem accounted_updateUserBalance (OMG DOGE BTC ETH id : Int) (hw : Accounted db w)
    (hg : BalanceUnchanged i (.step (.updateUserBalance OMG DOGE BTC ETH id)) w) :
    Accounted db (serve S i (.step (.updateUserBalance OMG DOGE BTC ETH id)) w).2 := by
  intro k u hu
  obtain ⟨v, hv, hbal⟩ := hw k u hu
  refine ⟨_, user_updateBalanceRow OMG DOGE BTC ETH hv, fun c => ?_⟩
  by_cases hk : k = id
  · subst hk
    obtain ⟨r, hr, hrv⟩ := hg v hv
    have hcopy : w.userCopy i k = some r := hr
    have hmoved : (serve S i (.step (.updateUserBalance OMG DOGE BTC ETH k)) w).2.moved k c =
        w.moved k c + (User.balance ⟨k, [], [], [], OMG, DOGE, BTC, ETH⟩ c - r.balance c) := by
      simp [serve, Shared.observe, Shared.moveBalance, hcopy]
    rw [if_pos rfl, hmoved, hrv c, hbal c]
    cases c <;> simp [User.balance] <;> omega
  · have hmoved : (serve S i (.step (.updateUserBalance OMG DOGE BTC ETH id)) w).2.moved k =
        w.moved k := by
      cases hcopy : w.userCopy i id <;>
        simp [serve, Shared.observe, Shared.moveBalance, hcopy, hk]
    rw [if_neg hk, hmoved]
    exact hbal c

theorem accounted_serve (c : Call D) (hg : BalanceUnchanged i c w) (hw : Accounted db w) :
    Accounted db (serve S i c w).2 := by
  cases c with
  | prepare => exact hw
  | bind => exact hw
  | lastInsertRowid => exact hw
  | step s =>
    by_cases hs : ∃ OMG DOGE BTC ETH id, s = .updateUserBalance OMG DOGE BTC ETH id
    · obtain ⟨OMG, DOGE, BTC, ETH, id, rfl⟩ := hs
      exact accounted_updateUserBalance OMG DOGE BTC ETH id hw hg
    · have hne : ∀ OMG DOGE BTC ETH id, s ≠ .updateUserBalance OMG DOGE BTC ETH id :=
        fun OMG DOGE BTC ETH id h => hs ⟨OMG, DOGE, BTC, ETH, id, h⟩
      intro k u hu
      obtain ⟨v, hv, hbal⟩ := hw k u hu
      have hmoved : (serve S i (.step s) w).2.moved = w.moved := moved_observe hne i w _
      exact ⟨v, user_exec hne hv, fun c => by rw [hmoved]; exact hbal c⟩

end Run

theorem balances_accounted (S : CreatedAtSort D) (db : Database D) {t : Sessions D ι}
    (h : SessionsReach S BalanceUnchanged (fun _ => True) (idle (.start db)) t) :
    Accounted db t.world := by
  have hstart : Accounted db (Shared.start db : Shared D ι) :=
    fun id u hu => ⟨u, hu, fun c => (add_zero _).symm⟩
  apply world_reaches (I := Accounted db) (Q := fun _ => True) ?_ ?_ ?_ h hstart
  · intro o _
    exact Prog.all_true _
  · intro i c w _ hg hw
    exact accounted_serve c hg hw
  · intro e w hw
    exact hw

def oneUser : Database ℚ :=
  Database.empty.addUser (newUser ['a'] ['p'] ['A'])

def twoBuys : List (Action Bool (TradeCall ℚ) Nat) :=
  [.start false (.buy (createOrder COIN_DOGE BUY 1 10 1)),
    .start true (.buy (createOrder COIN_BTC BUY 1 20 1))]

def overlapping : List (Action Bool (TradeCall ℚ) Nat) :=
  twoBuys ++ List.replicate 11 (.call false) ++ List.replicate 25 (.call true) ++
    List.replicate 14 (.call false) ++ [.finish false, .finish true]

def serial : List (Action Bool (TradeCall ℚ) Nat) :=
  twoBuys ++ List.replicate 25 (.call false) ++ List.replicate 25 (.call true) ++
    [.finish false, .finish true]

def overlapped : Option (Sessions ℚ Bool) :=
  schedule (serve (.stable ℚ)) TradeCall.program Shared.elapse (fun _ _ _ => True) (fun _ => True)
    overlapping (idle (.start oneUser))

theorem balances_not_accounted :
    ¬ ∀ (ι : Type) (_ : DecidableEq ι) (S : CreatedAtSort ℚ) (db : Database ℚ) (t : Sessions ℚ ι),
      SessionsReach S (fun _ _ _ => True) (fun _ => True) (idle (.start db)) t → Quiet t →
        Accounted db t.world := by
  intro h
  have hrun : overlapped.any (fun t => (t.procs false).isNone && (t.procs true).isNone &&
      (t.world.db.user 1).map User.OMG == some 9990 && t.world.moved 1 .omg == -30) = true := by
    decide +kernel
  obtain ⟨t, ht, hcheck⟩ := (Option.any_eq_true ..).mp hrun
  simp only [Bool.and_eq_true, Option.isNone_iff_eq_none, beq_iff_eq] at hcheck
  obtain ⟨⟨⟨hfalse, htrue⟩, hOMG⟩, hmoved⟩ := hcheck
  have hquiet : Quiet t := fun i => by cases i <;> assumption
  have hstart : oneUser.user 1 = some { newUser ['a'] ['p'] ['A'] with userID := 1 } := by
    decide +kernel
  obtain ⟨v, hv, hbal⟩ := h Bool inferInstance (.stable ℚ) oneUser t (reaches_of_schedule ht) hquiet
    1 _ hstart
  have hv9990 : v.OMG = 9990 := by simpa [hv] using hOMG
  have hv9970 : v.OMG = 10000 + -30 := (hbal .omg).trans (by rw [hmoved]; rfl)
  omega

def serialRun : Option (Sessions ℚ Bool) :=
  schedule (serve (.stable ℚ)) TradeCall.program Shared.elapse BalanceUnchanged (fun _ => True)
    serial (idle (.start oneUser))

theorem serialRun_isSome : serialRun.isSome = true := by
  decide +kernel

theorem balances_accounted_serialRun : Accounted oneUser (serialRun.get serialRun_isSome).world :=
  balances_accounted (.stable ℚ) oneUser (reaches_of_schedule (Option.some_get _).symm)

end Marketplace
