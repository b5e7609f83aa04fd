import Marketplace.Market.Provenance
import Marketplace.Server.Connections

namespace Marketplace
open CallTree KeyedTable Runs

variable {ι : Type} [DecidableEq ι]

def serverAfter (S : CreatedAtSort Double) (db : Database Double) (arrivals : List (Arrival ι)) :
    Server ι :=
  final (Arrival.serve S) arrivals (listenForConnections db)

section Connections

variable {S : CreatedAtSort Double} {db : Database Double} {arrivals : List (Arrival ι)} {i : ι}

theorem connection_run {d : Dialogue} (h : (serverAfter S db arrivals).connections i = some d) :
    ∃ before after, arrivals = before ++ .connect i :: after ∧
      (⟨d, (serverAfter S db arrivals).db⟩ : Connection) =
        final (Event.serve S) (seen S i after (serverAfter S db (before ++ [.connect i])))
          (acceptClient (serverAfter S db before).db) := by
  have hconnected : (serverAfter S db arrivals).connections i ≠ none := by
    rw [h]
    nofun
  obtain ⟨before, after, rfl, hnone⟩ := connected_since rfl hconnected
  refine ⟨before, after, rfl, ?_⟩
  have haccepted : serverAfter S db (before ++ [.connect i]) =
      (serverAfter S db before).put i (acceptClient (serverAfter S db before).db).dialogue := by
    rw [serverAfter, final_concat]
    simp only [Arrival.serve, hnone]
    rfl
  have hthere : (serverAfter S db (before ++ [.connect i])).connections i =
      some (acceptClient (serverAfter S db before).db).dialogue := by
    rw [haccepted]
    exact Function.update_self _ _ _
  obtain ⟨d', hd', hrun⟩ := refines_run (S := S) after hthere
  have hfinal : final (Arrival.serve S) after (serverAfter S db (before ++ [.connect i])) =
      serverAfter S db (before ++ .connect i :: after) := by
    rw [serverAfter, serverAfter, ← final_append]
    simp
  rw [hfinal] at hd' hrun
  cases hd'.symm.trans h
  rw [hrun, haccepted]
  rfl

end Connections

theorem server_commands_logged_in (S : CreatedAtSort Double) (db : Database Double)
    (arrivals : List (Arrival ι)) (i : ι) (userID : Int)
    (h : (serverAfter S db arrivals).connections i = some (.commands userID)) :
    ∃ before after, arrivals = before ++ .connect i :: after ∧
      LoggedIn S (acceptClient (serverAfter S db before).db)
        (seen S i after (serverAfter S db (before ++ [.connect i]))) userID := by
  obtain ⟨before, after, hsplit, hrun⟩ := connection_run h
  refine ⟨before, after, hsplit, ?_⟩
  have hvouched := vouched_run S (serverAfter S db before).db
    (seen S i after (serverAfter S db (before ++ [.connect i])))
  rwa [← hrun] at hvouched

def twoClients : List (Arrival Bool) :=
  [.connect false, .connect true, .typed false "r\r\n".toList, .typed false "ab\r\n".toList,
    .typed true "u\r\n".toList, .typed false "A\r\n".toList, .typed false "p\r\n".toList,
    .typed true "ab\r\n".toList, .typed false "u\r\n".toList, .typed true "p\r\n".toList]

theorem server_commands_logged_in_twoClients :
    ∃ before after, twoClients = before ++ .connect true :: after ∧
      LoggedIn (.stable Double) (acceptClient (serverAfter (.stable Double) .empty before).db)
        (seen (.stable Double) true after
          (serverAfter (.stable Double) .empty (before ++ [.connect true]))) 1 :=
  server_commands_logged_in (.stable Double) .empty twoClients true 1 (by decide +kernel)

def Arrival.op (a : Arrival ι) (s : Server ι) : Option (Op Double) :=
  match a with
  | .typed i line => ((s.connections i).bind (fun d => d.request line)).bind Request.op
  | .elapse seconds => some (.elapse seconds)
  | _ => none

section Op

variable {S : CreatedAtSort Double} {s : Server ι} {a : Arrival ι} {op : Op Double}

theorem db_serve (S : CreatedAtSort Double) (a : Arrival ι) (s : Server ι) :
    (a.serve S s).db = perhaps S (a.op s) s.db := by
  cases a with
  | connect i =>
    simp only [Arrival.serve]
    split <;> rfl
  | typed i line =>
    simp only [Arrival.serve, Arrival.op]
    cases s.connections i with
    | none => rfl
    | some d =>
      simp only [Option.bind_some, read_request]
      cases d.request line with
      | none => rfl
      | some r => exact serve_eq S s.db r
  | closed i =>
    simp only [Arrival.serve]
    split <;> rfl
  | elapse seconds => rfl

omit [DecidableEq ι] in
theorem op_order {ord : Order Double} (hop : a.op s = some op) (hord : op.order = some ord) :
    ∃ i line, a = .typed i line ∧ s.connections i = some (.commands ord.userID) ∧
      parseLine ord.userID (cString line) = some op := by
  cases a with
  | connect i => cases hop
  | typed i line =>
    obtain ⟨r, hr, hrop⟩ := Option.bind_eq_some_iff.mp hop
    obtain ⟨d, hd, hreq⟩ := Option.bind_eq_some_iff.mp hr
    cases d with
    | registerPassword status usernameLine nameLine =>
      cases hreq
      cases hrop
      cases hord
    | commands userID =>
      cases hreq
      have hparse : parseLine userID (cString line) = some op := hrop
      have howner : ord.userID = userID := by
        cases parseLine_spec hparse with
        | buy ord' h =>
          cases hord
          exact h.owner
        | sell ord' h =>
          cases hord
          exact h.owner
        | cancelOrder orderID => cases hord
      exact ⟨i, line, rfl, howner ▸ hd, howner ▸ hparse⟩
    | _ => cases hreq
  | closed i => cases hop
  | elapse seconds =>
    cases hop
    cases hord

omit [DecidableEq ι] in
theorem op_register {newUser : User} (hop : a.op s = some (.register newUser)) :
    ∃ username password name, newUser = Marketplace.newUser username password name := by
  cases a with
  | connect i => cases hop
  | typed i line =>
    obtain ⟨r, -, hrop⟩ := Option.bind_eq_some_iff.mp hop
    cases r with
    | register usernameLine nameLine passwordLine =>
      cases hrop
      exact ⟨_, _, _, rfl⟩
    | line userID buffer => cases parseLine_spec hrop
    | elapse seconds => cases hrop
  | closed i => cases hop
  | elapse seconds => cases hop

end Op

def OrderTyped (S : CreatedAtSort Double) (db : Database Double) (arrivals : List (Arrival ι))
    (ord : Order Double) : Prop :=
  ∃ before i line after op, arrivals = before ++ .typed i line :: after ∧
    (serverAfter S db before).connections i = some (.commands ord.userID) ∧
    parseLine ord.userID (cString line) = some op ∧ op.order = some ord

def Authored (S : CreatedAtSort Double) (db : Database Double) (arrivals : List (Arrival ι))
    (offer : Offer Double) : Prop :=
  ∃ ord, OrderTyped S db arrivals ord ∧ ord.offer = offer

def Granted (u : User) : Prop :=
  u.OMG = DEFAULT_OMG ∧ u.DOGE = DEFAULT_DOGE ∧ u.BTC = DEFAULT_BTC ∧ u.ETH = DEFAULT_ETH

structure Traceable (S : CreatedAtSort Double) (db : Database Double) (arrivals : List (Arrival ι))
    (s : Server ι) : Prop where
  offers : OffersIn (Authored S db arrivals) s.db
  balances : ∀ u ∈ s.db.users.rows,
    Granted u ∨ ∃ ord, OrderTyped S db arrivals ord ∧ ord.userID = u.userID

section Traceable

variable {S : CreatedAtSort Double} {db : Database Double} {arrivals : List (Arrival ι)}
  {a : Arrival ι}

theorem OrderTyped.concat {ord : Order Double} (h : OrderTyped S db arrivals ord) (a : Arrival ι) :
    OrderTyped S db (arrivals ++ [a]) ord := by
  obtain ⟨before, i, line, after, op, rfl, h⟩ := h
  exact ⟨before, i, line, after ++ [a], op, by simp, h⟩

theorem orderTyped_last {op : Op Double} {ord : Order Double}
    (hop : a.op (serverAfter S db arrivals) = some op) (hord : op.order = some ord) :
    OrderTyped S db (arrivals ++ [a]) ord := by
  obtain ⟨i, line, rfl, hconn, hparse⟩ := op_order hop hord
  exact ⟨arrivals, i, line, [], op, rfl, hconn, hparse, hord⟩

theorem offers_step (h : Traceable S db arrivals (serverAfter S db arrivals)) (a : Arrival ι) :
    OffersIn (Authored S db (arrivals ++ [a])) (a.serve S (serverAfter S db arrivals)).db := by
  have hold : OffersIn (Authored S db (arrivals ++ [a])) (serverAfter S db arrivals).db := by
    refine ⟨fun r hr => ?_, fun r hr => ?_⟩
    · obtain ⟨ord, htyped, hoffer⟩ := h.offers.orders r hr
      exact ⟨ord, htyped.concat a, hoffer⟩
    · obtain ⟨ord, htyped, hoffer⟩ := h.offers.archives r hr
      exact ⟨ord, htyped.concat a, hoffer⟩
  rw [db_serve]
  cases hop : a.op (serverAfter S db arrivals) with
  | none => exact hold
  | some op => exact offersIn_apply (fun ord hord => ⟨ord, orderTyped_last hop hord, rfl⟩) hold

theorem balances_step (h : Traceable S db arrivals (serverAfter S db arrivals)) (a : Arrival ι) :
    ∀ u ∈ (a.serve S (serverAfter S db arrivals)).db.users.rows,
      Granted u ∨ ∃ ord, OrderTyped S db (arrivals ++ [a]) ord ∧ ord.userID = u.userID := by
  intro u hu
  by_cases hnever : ∃ ord, OrderTyped S db (arrivals ++ [a]) ord ∧ ord.userID = u.userID
  · exact .inr hnever
  refine .inl ?_
  have hold (v : User) (hv : v ∈ (serverAfter S db arrivals).db.users.rows)
      (hid : v.userID = u.userID) : Granted v := by
    rcases h.balances v hv with hgranted | ⟨ord, htyped, howner⟩
    · exact hgranted
    · exact absurd ⟨ord, htyped.concat a, howner.trans hid⟩ hnever
  have hrows : ∀ r ∈ (serverAfter S db arrivals).db.orders.rows, r.userID ≠ u.userID := by
    intro r hr hid
    obtain ⟨ord, htyped, hoffer⟩ := h.offers.orders r hr
    exact hnever ⟨ord, htyped.concat a, (congrArg Offer.userID hoffer).trans hid⟩
  rw [db_serve] at hu
  cases hop : a.op (serverAfter S db arrivals) with
  | none =>
    rw [hop] at hu
    exact hold u hu rfl
  | some op =>
    rw [hop] at hu
    have hrow := Database.user_of_mem hu
    cases hv : (serverAfter S db arrivals).db.user u.userID with
    | some v =>
      have hkept : (perhaps S (some op) (serverAfter S db arrivals).db).user u.userID = some v :=
        user_apply_uninvolved hv
          (fun ord hord hid => hnever ⟨ord, orderTyped_last hop hord, hid⟩) hrows
      cases hkept.symm.trans hrow
      exact hold u (Database.user_mem hv) rfl
    | none =>
      by_cases hreg : ∃ newUser, op = .register newUser
      · obtain ⟨newUser, rfl⟩ := hreg
        obtain ⟨username, password, name, rfl⟩ := op_register hop
        simp only [perhaps, Option.elim_some, apply_register] at hu
        split at hu
        · exact hold u hu rfl
        · rcases Database.mem_users_addUser.mp hu with hu | rfl
          · exact hold u hu rfl
          · exact ⟨rfl, rfl, rfl, rfl⟩
      · have hnone : (perhaps S (some op) (serverAfter S db arrivals).db).user u.userID = none :=
          user_apply_nobody hv (fun newUser heq => hreg ⟨newUser, heq⟩)
        cases hnone.symm.trans hrow

theorem traceable_run (S : CreatedAtSort Double) (arrivals : List (Arrival ι)) :
    Traceable S .empty arrivals (serverAfter S .empty arrivals) := by
  refine history_final (H := Traceable S .empty) ?_ (fun arrivals a h => ?_) arrivals
  · exact ⟨⟨(fun _ hr => by cases hr), (fun _ hr => by cases hr)⟩, (fun _ hu => by cases hu)⟩
  · exact ⟨offers_step h a, balances_step h a⟩

end Traceable

theorem offers_typed_by_owner (S : CreatedAtSort Double) (arrivals : List (Arrival ι)) :
    OffersIn (Authored S .empty arrivals) (serverAfter S .empty arrivals).db :=
  (traceable_run S arrivals).offers

theorem granted_until_ordering (S : CreatedAtSort Double) (arrivals : List (Arrival ι)) :
    ∀ u ∈ (serverAfter S .empty arrivals).db.users.rows,
      Granted u ∨ ∃ ord, OrderTyped S .empty arrivals ord ∧ ord.userID = u.userID :=
  (traceable_run S arrivals).balances

theorem granted_until_ordering_twoClients :
    ∃ u, (serverAfter (.stable Double) .empty twoClients).db.user 1 = some u ∧
      (Granted u ∨ ∃ ord, OrderTyped (.stable Double) .empty twoClients ord ∧
        ord.userID = u.userID) := by
  obtain ⟨u, hu⟩ := Option.isSome_iff_exists.mp (by decide +kernel :
    ((serverAfter (.stable Double) .empty twoClients).db.user 1).isSome)
  exact ⟨u, hu, granted_until_ordering (.stable Double) twoClients u (Database.user_mem hu)⟩

end Marketplace
