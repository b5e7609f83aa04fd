import Marketplace.Concurrent.Histories
import Marketplace.Server.Connections

namespace Marketplace
open CallTree Interleaving KeyedTable RelyGuarantee Runs

variable {ι : Type}

abbrev Workers (ι : Type) :=
  Pool (Call Double) Call.Resp Dialogue (Forked Double ι) ι (Dialogue × List Char)

-- A child sits in getline with the dialogue noted here, or works on the line that it read there.
structure ForkedServer (ι : Type) where
  dialogues : ι → Option Dialogue
  workers : Workers ι

inductive ServerAction (ι : Type) where
  | accept (i : ι)
  | typed (i : ι) (line : List Char)
  | call (i : ι)
  | finish (i : ι)
  | closed (i : ι)
  | env (e : Disturbance ι)

def Op.clientCall : Op Double → Option (ClientCall Double)
  | .register newUser => some (.register newUser)
  | .buy ord => some (.buy ord)
  | .sell ord => some (.sell ord)
  | .cancelOrder orderID currentUserID => some (.cancelOrder orderID currentUserID)
  | .elapse _ => none

def Dialogue.clientCall (d : Dialogue) (line : List Char) : Option (ClientCall Double) :=
  ((d.request line).bind Request.op).bind Op.clientCall

def Conducted (i : ι) : Option (ClientCall Double) → Forked Double ι → Deed Double → Prop
  | some o => o.Conduct i
  | none => fun _ _ => False

namespace ForkedServer

def start (db : Database Double) : ForkedServer ι where
  dialogues _ := none
  workers := Pool.start (.start db)

abbrev world (s : ForkedServer ι) : Forked Double ι :=
  s.workers.sys.world

variable [DecidableEq ι]

def put (s : ForkedServer ι) (i : ι) (d : Dialogue) : ForkedServer ι :=
  { s with dialogues := Function.update s.dialogues i (some d) }

@[simp] theorem dialogues_put_self (s : ForkedServer ι) (i : ι) (d : Dialogue) :
    (s.put i d).dialogues i = some d :=
  Function.update_self ..

theorem dialogues_put_other (s : ForkedServer ι) {i j : ι} (hj : j ≠ i) (d : Dialogue) :
    (s.put i d).dialogues j = s.dialogues j :=
  Function.update_of_ne hj ..

def work (S : CreatedAtSort Double) (a : Action ι (Dialogue × List Char) (Disturbance ι))
    (s : ForkedServer ι) : ForkedServer ι :=
  { s with workers := Pool.step (attend S) (fun x => x.1.read x.2) Forked.disturb a s.workers }

end ForkedServer

variable [DecidableEq ι]

def ServerAction.serve (S : CreatedAtSort Double) : ServerAction ι → ForkedServer ι → ForkedServer ι
  | .accept i, s =>
    match s.dialogues i with
    | none => s.put i (acceptClient s.world.db).dialogue
    | some _ => s
  | .typed i line, s =>
    match s.dialogues i with
    | none => s
    | some d => s.work S (.start i (d, line))
  | .call i, s => s.work S (.call i)
  | .finish i, s =>
    match s.workers.result i with
    | none => s
    | some d => (s.work S (.finish i)).put i d
  | .closed i, s =>
    match s.dialogues i, s.workers.running i with
    | some _, none => s.put i .exited
    | _, _ => s
  | .env e, s => s.work S (.env e)

def served (S : CreatedAtSort Double) (db : Database Double) (actions : List (ServerAction ι)) :
    ForkedServer ι :=
  final (ServerAction.serve S) actions (.start db)

structure Account (username : CString) (u : User) (db : Database Double) : Prop where
  username : u.username = username
  positive : 0 < u.userID
  enrolled : Enrolled u u.userID db

theorem Account.evolves {username : CString} {u : User} {db db' : Database Double}
    (h : Account username u db) (hdb : Evolves db db') : Account username u db' :=
  ⟨h.username, h.positive, h.enrolled.evolves hdb⟩

namespace Dialogue

def Outside : Dialogue → Prop
  | .menu _ status => status ≠ 1
  | .registerUsername status => status ≠ 1
  | .registerName status _ => status ≠ 1
  | .registerPassword status _ _ => status ≠ 1
  | .authenticatePassword _ => False
  | .commands _ => False
  | _ => True

def Follows (db : Database Double) : Dialogue → List Char → Dialogue → Prop
  | .authenticateUsername, line, next =>
    next.Outside ∨ ∃ u, next = .authenticatePassword u ∧ Account (stripLineEnd (cString line)) u db
  | .authenticatePassword u, line, next =>
    next.Outside ∨ stripLineEnd (cString line) = u.password ∧ next = enter u.userID 1
  | .commands userID, _, next => next.Outside ∨ next = .commands userID
  | d, _, next => d.Outside → next.Outside

theorem Follows.evolves {db db' : Database Double} (h : Evolves db db') {d next : Dialogue}
    {line : List Char} (hd : d.Follows db line next) : d.Follows db' line next := by
  cases d with
  | authenticateUsername =>
    rcases hd with hout | ⟨u, hnext, haccount⟩
    · exact .inl hout
    · exact .inr ⟨u, hnext, haccount.evolves h⟩
  | _ => exact hd

theorem outside_enter {userID status : Int} (h : status ≠ 1) : (enter userID status).Outside := by
  rw [enter_unauthenticated h]
  exact h

end Dialogue

section Lines

variable {S : CreatedAtSort Double} {i : ι} {w : Forked Double ι}

theorem getUserByUsername_account {K : Forked Double ι → Deed Double → Prop} (username : CString)
    (w : Forked Double ι) : Sound S K i (fun res w' => ∀ u, res = .ok u → Account username u w'.db)
      (getUserByUsername username) w := by
  have hstable (res : Except Int User) : Stable (Rely i) (fun w' : Forked Double ι => ∀ u,
      res = .ok u → Account username u w'.db) :=
    fun w' w'' hrely h u hu => (h u hu).evolves hrely.evolves
  have herror (code : Int) (w' : Forked Double ι) : Sound S K i
      (fun (res : Except Int User) w' => ∀ u, res = .ok u → Account username u w'.db)
      (pure (.error code)) w' :=
    meets_pure (hstable _) nofun
  refine prepared_sound (e := .error) (fun _ => rfl) hstable (fun _ _ _ _ => nofun)
    (fun w₁ h₁ => ?_)
  refine meets_bind (Rely.refl i) (bindChecked_sound 1 w₁) (fun res w₂ h₂ => ?_)
  refine meets_ite (fun _ => herror _ _) (fun _ => ?_)
  have hstep : Sound S K i (fun (r : StepResult Double) w' => ∀ u, r = .row (.user u) →
      Account username u w'.db) (sqlite3Step (.selectUserByUsername username)) w₂ := by
    refine step_sound (fun r w' w'' hrely h u hu => ?_) (fun e w' _ => nofun)
      (fun w' hw => ⟨.nothing ⟨rfl, rfl, rfl, rfl⟩, fun u hu => ?_⟩)
    · exact (h u hu).evolves hrely.evolves
    · have hrow : (firstRow (((w'.connection i).named username).map .user) : StepResult Double) =
          .row (.user u) := hu
      cases hnamed : (w'.connection i).named username with
      | none =>
        rw [hnamed] at hrow
        cases hrow
      | some v =>
        rw [hnamed] at hrow
        cases hrow
        have hfind : w'.db.user u.userID = some u := Database.user_of_mem (named_mem hnamed)
        refine ⟨named_username hnamed, named_positive hnamed, u, ?_, .refl u⟩
        rw [Forked.db_observe]
        exact hfind
  refine meets_bind (Rely.refl i) hstep (fun r w₃ h₃ => ?_)
  split
  · next u => exact meets_pure (hstable _) (fun v hv => by cases hv; exact h₃ u rfl)
  · exact herror _ _

theorem said_sound {K : Forked Double ι → Deed Double → Prop} {α : Type} (a : α)
    (w : Forked Double ι) : Sound S K i (fun _ _ => True) (pure a) w :=
  meets_pure (fun _ _ _ _ => trivial) trivial

theorem handleMyInventory_sound {K : Forked Double ι → Deed Double → Prop} (userID : Int)
    (w : Forked Double ι) : Sound S K i (fun _ _ => True) (handleMyInventory userID) w := by
  refine meets_bind (Rely.refl i) (getUserInventories_sound userID w) (fun r w₁ _ => ?_)
  cases r with
  | error code => exact said_sound _ _
  | ok _ => exact said_sound _ _

theorem handleOrder_sound {command : Order Double → SQL Double Int} (refused accepted : String)
    {call : Order Double → Op Double} (userID : Int) (tokens : StringArray)
    (hcommand : ∀ ord w, Sound S (Conducted i (call ord).clientCall) i (fun _ _ => True)
      (command ord) w) (w : Forked Double ι) :
    Sound S (Conducted i (((parsedOrder tokens userID).map call).bind Op.clientCall)) i
      (fun _ _ => True) (handleOrder command refused accepted userID tokens) w := by
  by_cases hsize : tokens.size = 4
  · have hvalid : validateCommandArgs tokens 4 = true := by
      rw [validateCommandArgs, hsize]
      rfl
    rw [parsedOrder, if_pos hsize, handleOrder, if_pos hvalid]
    rcases createOrderFromString tokens userID with - | - | ord
    · exact said_sound _ _
    · exact said_sound _ _
    · refine meets_bind (Rely.refl i) (hcommand ord w) (fun res w₁ _ => ?_)
      exact meets_ite (fun _ => said_sound _ _) (fun _ => said_sound _ _)
  · have hvalid : ¬ validateCommandArgs tokens 4 = true := by
      simpa [validateCommandArgs] using hsize
    rw [handleOrder, if_neg hvalid]
    exact said_sound _ _

theorem handleCancelOrder_sound (userID : Int) (tokens : StringArray) (w : Forked Double ι) :
    Sound S (Conducted i (((parsedOrderID tokens).map
        (fun orderID => Op.cancelOrder orderID userID)).bind Op.clientCall)) i
      (fun _ _ => True) (handleCancelOrder userID tokens) w := by
  by_cases hsize : tokens.size = 2
  · have hvalid : validateCommandArgs tokens 2 = true := by
      rw [validateCommandArgs, hsize]
      rfl
    rw [parsedOrderID, if_pos hsize, handleCancelOrder, if_pos hvalid]
    rcases (tokens.get 1).map strtol with - | ⟨orderID, endptr⟩
    · exact said_sound _ _
    · refine meets_ite (fun _ => said_sound _ _) (fun hend => ?_)
      have hread : (some (orderID, endptr)).filter (fun p : Int × CString => p.2 = []) =
          some (orderID, endptr) := by
        simp [Option.filter, not_not.mp hend]
      rw [hread]
      refine meets_bind (Rely.refl i) (cancelOrder_sound (intOfLong orderID) userID w)
        (fun res w₁ _ => ?_)
      exact meets_ite (fun _ => said_sound _ _) (fun _ => said_sound _ _)
  · have hvalid : ¬ validateCommandArgs tokens 2 = true := by
      simpa [validateCommandArgs] using hsize
    rw [handleCancelOrder, if_neg hvalid]
    exact said_sound _ _

theorem handleView_sound {K : Forked Double ι → Deed Double → Prop} (tokens : StringArray)
    (w : Forked Double ι) : Sound S K i (fun _ _ => True) (handleView tokens) w := by
  unfold handleView
  refine meets_ite (fun _ => ?_) (fun _ => said_sound _ _)
  refine meets_ite (fun _ => said_sound _ _) (fun _ => ?_)
  split
  · exact said_sound _ _
  · exact said_sound _ _
  · exact said_sound _ _

theorem echo_sound (userID : Int) (buffer : CString) (w : Forked Double ι) :
    Sound S (Conducted i ((parseLine userID buffer).bind Op.clientCall)) i (fun _ _ => True)
      (echo userID buffer) w := by
  unfold echo parseLine
  simp only
  split
  · exact said_sound _ _
  · cases (tokenizeLine buffer).get 0 with
    | none => exact said_sound _ _
    | some command =>
      simp only [Option.bind_some, dispatch]
      split_ifs
      · exact handleMyInventory_sound userID w
      · exact handleOrder_sound _ _ userID _ buy_sound w
      · exact handleOrder_sound _ _ userID _ sell_sound w
      · exact said_sound _ _
      · exact handleCancelOrder_sound userID _ w
      · exact handleView_sound _ w
      · exact said_sound _ _
      · exact said_sound _ _

theorem registerUser_sound (usernameLine nameLine passwordLine : CString) (w : Forked Double ι) :
    Sound S (Conducted i (((some (Request.register usernameLine nameLine passwordLine)).bind
        Request.op).bind Op.clientCall)) i
      (fun _ _ => True) (registerUser usernameLine nameLine passwordLine) w := by
  refine meets_bind (Rely.refl i) (insertUser_sound (fun _ _ => rfl)) (fun r w₁ _ => ?_)
  cases r with
  | error code => exact said_sound _ _
  | ok userID => exact said_sound _ _

theorem dialogue_sound (d : Dialogue) (line : List Char) (w : Forked Double ι) :
    Sound S (Conducted i (d.clientCall line)) i (fun next w' => d.Follows w'.db line next)
      (d.read line) w := by
  have hstable (d next : Dialogue) :
      Stable (Rely i) (fun w' : Forked Double ι => d.Follows w'.db line next) :=
    fun _ _ hrely h => h.evolves hrely.evolves
  have hout {K : Forked Double ι → Deed Double → Prop} {d next : Dialogue} (w' : Forked Double ι)
      (h : d.Follows w'.db line next) : Sound S K i
        (fun next w' => d.Follows w'.db line next) (pure next) w' :=
    meets_pure (hstable d _) h
  cases d with
  | menu userID status =>
    obtain ⟨next, hread, hnext⟩ := read_menu userID status line
    rw [hread]
    refine hout w (fun houtside => ?_)
    rcases hnext with rfl | rfl | rfl
    · exact houtside
    · trivial
    · exact Dialogue.outside_enter houtside
  | registerUsername status => exact hout w id
  | registerName status usernameLine => exact hout w id
  | registerPassword status usernameLine nameLine =>
    refine meets_bind (Rely.refl i) (registerUser_sound usernameLine nameLine (cString line) w)
      (fun userID w₁ _ => ?_)
    exact hout w₁ Dialogue.outside_enter
  | authenticateUsername =>
    refine meets_bind (Rely.refl i) (getUserByUsername_account _ w) (fun r w₁ h₁ => ?_)
    cases r with
    | error code => exact hout w₁ (.inl trivial)
    | ok u => exact hout w₁ (.inr ⟨u, rfl, h₁ u rfl⟩)
  | authenticatePassword u =>
    exact meets_ite (fun h => hout w (.inr ⟨h, rfl⟩)) (fun _ => hout w (.inl trivial))
  | commands userID =>
    refine meets_bind (Rely.refl i) (echo_sound userID _ w) (fun reply w₁ _ => ?_)
    cases reply with
    | crashed => exact hout w₁ (.inl trivial)
    | _ =>
      change Sound S _ i _ (pure (if endOfFile line then _ else _)) w₁
      split
      · exact hout w₁ (.inl trivial)
      · exact hout w₁ (.inr rfl)
  | exited => exact hout w id

end Lines

end Marketplace
