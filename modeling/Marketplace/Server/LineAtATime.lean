import Marketplace.Server.Authorship
import Marketplace.Server.ForkedServer

namespace Marketplace
open CallTree Interleaving KeyedTable RelyGuarantee Runs

variable {D ι : Type}

def Blind {α : Type} (p : SQL D α) : Prop :=
  p.All (· ≠ .lastInsertRowid) (fun _ => True)

section Blind

variable [CDouble D] (S : CreatedAtSort D) {db db' : Database D}

omit [CDouble D] in
theorem sameRows_lastRowid (db : Database D) (lastRowid : Int) :
    db.SameRows { db with lastRowid } :=
  ⟨rfl, rfl, rfl, rfl⟩

omit [CDouble D] in
theorem Database.SameRows.split (h : db.SameRows db') :
    db' = { db with lastRowid := db'.lastRowid } := by
  cases db'
  obtain ⟨rfl, rfl, rfl, rfl⟩ := h
  rfl

structure SameRun {α : Type} (res res' : α × Database D) : Prop where
  result : res.1 = res'.1
  rows : res.2.SameRows res'.2

omit [CDouble D] in
theorem sameRun_ite {α : Type} {b : Prop} [Decidable b] {x x' y y' : α × Database D}
    (hx : SameRun x x') (hy : SameRun y y') :
    SameRun (if b then x else y) (if b then x' else y') := by
  split
  · exact hx
  · exact hy

omit [CDouble D] in
theorem sameRun_lastRowid {α : Type} (a : α) (db : Database D) (lastRowid : Int) :
    SameRun (a, db) (a, { db with lastRowid }) :=
  ⟨rfl, rfl, rfl, rfl, rfl⟩

omit [CDouble D] in
theorem sameRun_inserted {α : Type} (a : α) (db : Database D) : SameRun (a, db) (a, db) :=
  ⟨rfl, rfl, rfl, rfl, rfl⟩

theorem exec_sameRows (s : Stmt D) (h : db.SameRows db') :
    SameRun (s.exec S db) (s.exec S db') := by
  rw [h.split]
  cases s with
  | insertOrder item buyOrSell quantity unitPrice userID =>
    rcases item with _ | i
    · exact sameRun_lastRowid _ _ _
    rcases buyOrSell with _ | b
    · exact sameRun_lastRowid _ _ _
    rcases quantity with _ | n
    · exact sameRun_lastRowid _ _ _
    rcases unitPrice with _ | p
    · exact sameRun_lastRowid _ _ _
    rcases userID with _ | u
    · exact sameRun_lastRowid _ _ _
    exact sameRun_ite (sameRun_inserted _ _) (sameRun_lastRowid _ _ _)
  | insertUser username password name OMG DOGE BTC ETH =>
    exact sameRun_ite (sameRun_lastRowid _ _ _) (sameRun_inserted _ _)
  | updateOrder item buyOrSell quantity unitPrice userID orderID =>
    rcases unitPrice with _ | p
    · rw [exec_updateOrder_unpriced, exec_updateOrder_unpriced]
      exact sameRun_ite (sameRun_lastRowid _ _ _) (sameRun_lastRowid _ _ _)
    · rw [exec_updateOrder_priced, exec_updateOrder_priced]
      exact sameRun_ite (sameRun_lastRowid _ _ _)
        (sameRun_ite (sameRun_lastRowid _ _ _) (sameRun_lastRowid _ _ _))
  | insertArchive item buyOrSell quantity unitPrice userID createdAt =>
    rcases item with _ | i
    · exact sameRun_lastRowid _ _ _
    rcases buyOrSell with _ | b
    · exact sameRun_lastRowid _ _ _
    rcases quantity with _ | n
    · exact sameRun_lastRowid _ _ _
    rcases unitPrice with _ | p
    · exact sameRun_lastRowid _ _ _
    rcases userID with _ | u
    · exact sameRun_lastRowid _ _ _
    exact sameRun_ite (sameRun_inserted _ _) (sameRun_lastRowid _ _ _)
  | deleteOrder orderID => cases orderID <;> exact sameRun_lastRowid _ _ _
  | _ => exact sameRun_lastRowid _ _ _

theorem run_blind {α : Type} {p : SQL D α} (hp : Blind p) (h : db.SameRows db') :
    SameRun (p.run (perform S) db) (p.run (perform S) db') := by
  induction p generalizing db db' with
  | ret a => exact ⟨rfl, h⟩
  | call c k ih =>
    obtain ⟨hc, hk⟩ := hp
    cases c with
    | prepare => exact ih _ (hk _) h
    | bind => exact ih _ (hk _) h
    | lastInsertRowid => exact absurd rfl hc
    | step s =>
      have hs := exec_sameRows S s h
      simp only [Prog.run, perform]
      rw [hs.result]
      exact ih _ (hk _) hs.rows

omit [CDouble D] in
theorem blind_permits : Permits (fun c : Call D => c ≠ .lastInsertRowid) :=
  ⟨nofun, nofun, nofun, nofun, nofun, nofun, nofun, nofun, nofun, nofun⟩

theorem blind_settleMatch (ord matchedOrder : Order D) (taker : User) (maker : User → User) :
    Blind (settleMatch ord matchedOrder taker maker) :=
  settleMatch_all blind_permits _ _ _ _ (fun _ _ _ _ _ _ _ => nofun) (fun _ _ _ _ _ _ _ _ => nofun)

theorem blind_buy (ord : Order D) : Blind (buy ord) := by
  rw [buy_eq_checkedTrade]
  exact checkedTrade_all blind_permits ord _
    (findMatching_all blind_permits (fun _ _ _ => nofun) ord) (fun _ _ _ _ _ _ => nofun)
    (fun _ _ => blind_settleMatch _ _ _ _)

theorem blind_sell (ord : Order D) : Blind (sell ord) := by
  rw [sell_eq_checkedTrade]
  exact checkedTrade_all blind_permits ord _
    (findMatching_all blind_permits (fun _ _ _ => nofun) ord) (fun _ _ _ _ _ _ => nofun)
    (fun _ _ => blind_settleMatch _ _ _ _)

end Blind

section Lines

variable (S : CreatedAtSort Double) {db db' : Database Double}

theorem blind_handleOrder {command : Order Double → SQL Double Int} (refused accepted : String)
    (hcommand : ∀ ord, Blind (command ord)) (userID : Int) (tokens : StringArray) :
    Blind (handleOrder command refused accepted userID tokens) := by
  refine Prog.all_ite (fun _ => ?_) (fun _ => trivial)
  split
  · next ord _ =>
    refine Prog.all_bind (hcommand ord) (fun res _ => ?_)
    exact Prog.all_ite (fun _ => trivial) (fun _ => trivial)
  · trivial

theorem blind_handleCancelOrder (userID : Int) (tokens : StringArray) :
    Blind (handleCancelOrder userID tokens) := by
  refine Prog.all_ite (fun _ => ?_) (fun _ => trivial)
  split
  · trivial
  · refine Prog.all_ite (fun _ => trivial) (fun _ => ?_)
    refine Prog.all_bind (cancelOrder_all blind_permits _ _) (fun res _ => ?_)
    exact Prog.all_ite (fun _ => trivial) (fun _ => trivial)

theorem blind_handleMyInventory (userID : Int) : Blind (handleMyInventory userID) := by
  have hread : Blind (getUserInventories userID :
      SQL Double (Except Int (Int × Int × Int × Int))) := by
    refine prepared_all blind_permits .error _ (fun _ => rfl) ?_
    refine Prog.all_bind (bindUnchecked_all blind_permits userID) (fun o _ => ?_)
    refine Prog.all_bind (step_all nofun) (fun r _ => ?_)
    split <;> trivial
  refine Prog.all_bind hread (fun r _ => ?_)
  split <;> trivial

theorem blind_handleView (tokens : StringArray) : Blind (handleView tokens) := by
  refine Prog.all_ite (fun _ => ?_) (fun _ => trivial)
  refine Prog.all_ite (fun _ => trivial) (fun _ => ?_)
  split <;> trivial

theorem blind_echo (userID : Int) (buffer : CString) : Blind (echo userID buffer) := by
  refine Prog.all_ite (fun _ => trivial) (fun _ => ?_)
  split
  · trivial
  · unfold dispatch
    split_ifs
    · exact blind_handleMyInventory userID
    · exact blind_handleOrder _ _ blind_buy userID _
    · exact blind_handleOrder _ _ blind_sell userID _
    · trivial
    · exact blind_handleCancelOrder userID _
    · exact blind_handleView _
    · trivial
    · trivial

theorem blind_read {d : Dialogue} (line : List Char)
    (hd : ∀ status usernameLine nameLine, d ≠ .registerPassword status usernameLine nameLine) :
    Blind (d.read line) := by
  cases d with
  | menu userID status =>
    obtain ⟨next, hread, -⟩ := read_menu userID status line
    rw [hread]
    trivial
  | registerPassword status usernameLine nameLine => exact absurd rfl (hd _ _ _)
  | authenticateUsername =>
    have hread (username : CString) :
        Blind (getUserByUsername username : SQL Double (Except Int User)) := by
      refine prepared_all blind_permits .error _ (fun _ => rfl) ?_
      refine Prog.all_bind (bindChecked_all blind_permits 1) (fun res _ => ?_)
      refine Prog.all_ite (fun _ => trivial) (fun _ => ?_)
      refine Prog.all_bind (step_all nofun) (fun r _ => ?_)
      split <;> trivial
    refine Prog.all_bind (hread _) (fun r _ => ?_)
    split <;> trivial
  | authenticatePassword u => exact Prog.all_ite (fun _ => trivial) (fun _ => trivial)
  | commands userID =>
    refine Prog.all_bind (blind_echo userID _) (fun reply _ => ?_)
    split <;> trivial
  | _ => trivial

theorem run_registerUser (usernameLine nameLine passwordLine : CString) (h : db.SameRows db') :
    SameRun ((registerUser usernameLine nameLine passwordLine).run (perform S) db)
      ((registerUser usernameLine nameLine passwordLine).run (perform S) db') := by
  rw [h.split]
  simp only [registerUser, Prog.run_bind, run_insertUser]
  cases htaken : db.taken (stripLineEnd usernameLine) with
  | true =>
    have htaken' : Database.taken { db with lastRowid := db'.lastRowid }
        (stripLineEnd usernameLine) = true := htaken
    simp only [htaken', if_true]
    exact sameRun_lastRowid _ _ _
  | false =>
    have htaken' : Database.taken { db with lastRowid := db'.lastRowid }
        (stripLineEnd usernameLine) = false := htaken
    simp only [htaken', Bool.false_eq_true, if_false]
    exact sameRun_inserted _ _

-- The row ID matters to the one line that registers, and there it belongs to the row just stored.
theorem run_read (d : Dialogue) (line : List Char) (h : db.SameRows db') :
    SameRun ((d.read line).run (perform S) db) ((d.read line).run (perform S) db') := by
  by_cases hd : ∃ status usernameLine nameLine, d = .registerPassword status usernameLine nameLine
  · obtain ⟨status, usernameLine, nameLine, rfl⟩ := hd
    have hreg := run_registerUser S usernameLine nameLine (cString line) h
    simp only [Dialogue.read, Prog.run_bind, Prog.run_pure]
    exact ⟨congrArg (Dialogue.enter · status) hreg.result, hreg.rows⟩
  · exact run_blind S (blind_read line fun _ _ _ heq => hd ⟨_, _, _, heq⟩) h

end Lines

section Alone

variable [DecidableEq ι]

theorem failing_observe (w : Forked D ι) (i : ι) (r : StepResult D) :
    (w.observe i r).failing = w.failing := by
  unfold Forked.observe
  split <;> rfl

theorem run_attend [CDouble D] (S : CreatedAtSort D) (i : ι) {α : Type} (p : SQL D α)
    (w : Forked D ι) (hw : w.failing i = none) :
    (p.run (attend S i) w).1 = (p.run (perform S) (w.connection i)).1 ∧
      (p.run (attend S i) w).2.connection i = (p.run (perform S) (w.connection i)).2 ∧
      (p.run (attend S i) w).2.failing = w.failing := by
  induction p generalizing w with
  | ret a => exact ⟨rfl, rfl, rfl⟩
  | call c k ih =>
    have hserved : (attend S i c w).1 = (perform S c (w.connection i)).1 ∧
        (attend S i c w).2.connection i = (perform S c (w.connection i)).2 ∧
        (attend S i c w).2.failing = w.failing := by
      cases c with
      | prepare =>
        rw [attend_prepare, hw]
        exact ⟨rfl, rfl, rfl⟩
      | bind =>
        rw [attend_bind, hw]
        exact ⟨rfl, rfl, rfl⟩
      | lastInsertRowid => exact ⟨rfl, rfl, rfl⟩
      | step s =>
        rw [attend_step S s hw]
        refine ⟨rfl, ?_, failing_observe _ _ _⟩
        simp only [Forked.connection, Forked.db_observe, Forked.lastRowid_observe, Forked.store,
          Function.update_self]
        rfl
    obtain ⟨hresult, hconnection, hfailing⟩ := hserved
    have hnext := ih (attend S i c w).1 (attend S i c w).2 (by rw [hfailing, hw])
    rw [hconnection, hresult, hfailing] at hnext
    simp only [Prog.run]
    rw [hresult]
    exact hnext

structure AtRest (t : Server ι) (s : ForkedServer ι) : Prop where
  dialogues : s.dialogues = t.connections
  rows : t.db.SameRows s.world.db
  procs : ∀ i, s.workers.sys.procs i = none
  running : ∀ i, s.workers.running i = none
  failing : ∀ i, s.world.failing i = none

variable {S : CreatedAtSort Double} {t : Server ι} {s : ForkedServer ι}

theorem final_calls (S : CreatedAtSort Double) (n : Nat) (i : ι) (s : ForkedServer ι) :
    final (ServerAction.serve S) (List.replicate n (.call i)) s =
      ⟨s.dialogues, final (Pool.step (attend S) (fun x => x.1.read x.2) Forked.disturb)
        (List.replicate n (.call i)) s.workers⟩ := by
  induction n generalizing s with
  | zero => rfl
  | succ n ih =>
    rw [List.replicate_succ, List.replicate_succ, final_cons, final_cons, ih]
    rfl

theorem AtRest.put (h : AtRest t s) (i : ι) (d : Dialogue) : AtRest (t.put i d) (s.put i d) :=
  { h with dialogues := by rw [ForkedServer.put, Server.put, h.dialogues] }

theorem line_typed (h : AtRest t s) {i : ι} {d : Dialogue} (hd : t.connections i = some d)
    (line : List Char) : ∃ actions, AtRest ((Arrival.typed i line).serve S t)
      (final (ServerAction.serve S) actions s) := by
  obtain ⟨hresult, hconnection, hfailing⟩ := run_attend S i (d.read line) s.world (h.failing i)
  have hrows : t.db.SameRows (s.world.connection i) :=
    h.rows.trans (sameRows_lastRowid s.world.db (s.world.lastRowid i))
  have hread := run_read S d line hrows
  have hstarted : (ServerAction.typed i line).serve S s = ⟨s.dialogues,
      ⟨⟨s.world, Function.update s.workers.sys.procs i (some (d.read line))⟩,
        Function.update s.workers.running i (some (d, line))⟩⟩ := by
    simp only [ServerAction.serve, h.dialogues, hd, ForkedServer.work, Pool.step, act, h.procs,
      Pool.relabel]
  have hproc : ((ServerAction.typed i line).serve S s).workers.sys.procs i =
      some (d.read line) := by
    rw [hstarted]
    exact Function.update_self ..
  obtain ⟨n, hn⟩ := Pool.final_solo (h := attend S) (d.read line) _ hproc
  refine ⟨.typed i line :: (List.replicate n (.call i) ++ [.finish i]), ?_⟩
  rw [final_cons, final_append, final_calls, hn, hstarted]
  simp only [final_cons, final_nil, ServerAction.serve, Arrival.serve, hd, Pool.result,
    Function.update_self, ForkedServer.work, Pool.step, act, Pool.relabel, Function.update_idem,
    ForkedServer.put, Server.put]
  refine ⟨?_, ?_, fun j => ?_, fun j => ?_, fun j => ?_⟩
  · simp only
    rw [hresult, h.dialogues, hread.result]
  · have hafter := hread.rows
    rw [← hconnection] at hafter
    exact hafter.trans ⟨rfl, rfl, rfl, rfl⟩
  · by_cases hj : j = i
    · rw [hj]
      exact Function.update_self ..
    · exact (Function.update_of_ne hj ..).trans (h.procs j)
  · by_cases hj : j = i
    · rw [hj]
      exact Function.update_self ..
    · exact (Function.update_of_ne hj ..).trans (h.running j)
  · exact (congrFun hfailing j).trans (h.failing j)

theorem line_served (h : AtRest t s) (a : Arrival ι) :
    ∃ actions, AtRest (a.serve S t) (final (ServerAction.serve S) actions s) := by
  cases a with
  | connect i =>
    refine ⟨[.accept i], ?_⟩
    simp only [final_cons, final_nil, ServerAction.serve, Arrival.serve, h.dialogues]
    cases t.connections i with
    | none => exact h.put i _
    | some d => exact h
  | typed i line =>
    cases hd : t.connections i with
    | none =>
      refine ⟨[], ?_⟩
      simp only [final_nil, Arrival.serve, hd]
      exact h
    | some d => exact line_typed h hd line
  | closed i =>
    refine ⟨[.closed i], ?_⟩
    simp only [final_cons, final_nil, ServerAction.serve, Arrival.serve, h.dialogues, h.running]
    cases t.connections i with
    | none => exact h
    | some d => exact h.put i _
  | elapse seconds =>
    refine ⟨[.env (.elapse seconds)], h.dialogues, ?_, h.procs, h.running, h.failing⟩
    exact ⟨h.rows.users, h.rows.orders, h.rows.archives, congrArg (· + seconds) h.rows.now⟩

end Alone

theorem lines_at_a_time [DecidableEq ι] (S : CreatedAtSort Double) (db : Database Double)
    (arrivals : List (Arrival ι)) : ∃ actions : List (ServerAction ι),
      (served S db actions).dialogues = (serverAfter S db arrivals).connections ∧
      (serverAfter S db arrivals).db.SameRows (served S db actions).world.db := by
  have hrun : ∃ actions : List (ServerAction ι),
      AtRest (serverAfter S db arrivals) (served S db actions) := by
    refine history_final (H := fun _ (t : Server ι) => ∃ actions : List (ServerAction ι),
      AtRest t (served S db actions)) ?_ (fun _ a h => ?_) arrivals
    · exact ⟨[], rfl, ⟨rfl, rfl, rfl, rfl⟩, fun _ => rfl, fun _ => rfl, fun _ => rfl⟩
    · obtain ⟨actions, hactions⟩ := h
      obtain ⟨later, hlater⟩ := line_served hactions a
      refine ⟨actions ++ later, ?_⟩
      rwa [served, final_append]
  obtain ⟨actions, hactions⟩ := hrun
  exact ⟨actions, hactions.dialogues, hactions.rows⟩

end Marketplace
