import Marketplace.Concurrent.Forked
import Marketplace.Session.Consumption

namespace Marketplace
open CallTree KeyedTable

variable {D : Type}

def Order.SameIdentity (a b : Order D) : Prop :=
  { a with quantity := b.quantity } = b

def Database.UniqueUsernames (db : Database D) : Prop :=
  ∀ u ∈ db.users.rows, ∀ v ∈ db.users.rows, u.username = v.username → u = v

structure Evolves (db db' : Database D) : Prop where
  accounts : ∀ u ∈ db.users.rows, ∃ u' ∈ db'.users.rows, u'.SameAccount u
  newcomers : ∀ u' ∈ db'.users.rows,
    db.users.seq < u'.userID ∨ ∃ u ∈ db.users.rows, u'.SameAccount u
  usernames : db.UniqueUsernames → db'.UniqueUsernames
  resting : ∀ r' ∈ db'.orders.rows,
    db.orders.seq < r'.orderID ∨ ∃ r ∈ db.orders.rows, r'.SameIdentity r
  userIDs : db.users.seq ≤ db'.users.seq
  orderIDs : db.orders.seq ≤ db'.orders.seq
  archives : db.archives.rows <+: db'.archives.rows
  now : db.now ≤ db'.now

namespace Order.SameIdentity

variable {a b c : Order D}

theorem refl (a : Order D) : a.SameIdentity a := rfl

theorem symm (h : a.SameIdentity b) : b.SameIdentity a := by
  unfold SameIdentity at h ⊢
  rw [← h]

theorem trans (hab : a.SameIdentity b) (hbc : b.SameIdentity c) : a.SameIdentity c := by
  unfold SameIdentity at hab hbc ⊢
  rw [← hbc, ← hab]

theorem orderID (h : a.SameIdentity b) : a.orderID = b.orderID := by
  unfold SameIdentity at h
  rw [← h]

theorem item (h : a.SameIdentity b) : a.item = b.item := by
  unfold SameIdentity at h
  rw [← h]

theorem buyOrSell (h : a.SameIdentity b) : a.buyOrSell = b.buyOrSell := by
  unfold SameIdentity at h
  rw [← h]

theorem unitPrice (h : a.SameIdentity b) : a.unitPrice = b.unitPrice := by
  unfold SameIdentity at h
  rw [← h]

theorem userID (h : a.SameIdentity b) : a.userID = b.userID := by
  unfold SameIdentity at h
  rw [← h]

end Order.SameIdentity

namespace Evolves

variable {db db' db'' : Database D}

theorem refl (db : Database D) : Evolves db db where
  accounts u hu := ⟨u, hu, .refl u⟩
  newcomers u hu := .inr ⟨u, hu, .refl u⟩
  usernames h := h
  resting r hr := .inr ⟨r, hr, .refl r⟩
  userIDs := le_refl _
  orderIDs := le_refl _
  archives := List.prefix_refl _
  now := le_refl _

theorem trans (h : Evolves db db') (h' : Evolves db' db'') : Evolves db db'' where
  accounts u hu := by
    obtain ⟨u', hu', hsame⟩ := h.accounts u hu
    obtain ⟨u'', hu'', hsame'⟩ := h'.accounts u' hu'
    exact ⟨u'', hu'', hsame'.trans hsame⟩
  newcomers u'' hu'' := by
    rcases h'.newcomers u'' hu'' with hnew | ⟨u', hu', hsame'⟩
    · exact .inl (h.userIDs.trans_lt hnew)
    · rcases h.newcomers u' hu' with hnew | ⟨u, hu, hsame⟩
      · exact .inl (hsame'.1 ▸ hnew)
      · exact .inr ⟨u, hu, hsame'.trans hsame⟩
  usernames hdb := h'.usernames (h.usernames hdb)
  resting r'' hr'' := by
    rcases h'.resting r'' hr'' with hnew | ⟨r', hr', hsame'⟩
    · exact .inl (h.orderIDs.trans_lt hnew)
    · rcases h.resting r' hr' with hnew | ⟨r, hr, hsame⟩
      · exact .inl (hsame'.orderID ▸ hnew)
      · exact .inr ⟨r, hr, hsame'.trans hsame⟩
  userIDs := h.userIDs.trans h'.userIDs
  orderIDs := h.orderIDs.trans h'.orderIDs
  archives := h.archives.trans h'.archives
  now := h.now.trans h'.now

theorem elapse (db : Database D) (seconds : Nat) : Evolves db (db.elapse seconds) :=
  { refl db with now := Nat.le_add_right db.now seconds }

theorem order_gone (h : Evolves db db') {id : Int} (hid : id ≤ db.orders.seq)
    (hgone : db.order id = none) : db'.order id = none := by
  refine Table.find_eq_none.mpr (fun r' hr' hkey => ?_)
  rcases h.resting r' hr' with hnew | ⟨r, hr, hsame⟩
  · omega
  · exact Table.find_eq_none.mp hgone r hr (hsame.orderID.symm.trans hkey)

theorem order_kept (h : Evolves db db') {id : Int} {r r' : Order D} (hr : db.order id = some r)
    (hr' : db'.order id = some r') : r'.SameIdentity r := by
  have hid := Database.order_orderID hr
  have hid' := Database.order_orderID hr'
  rcases h.resting r' (Database.order_mem hr') with hnew | ⟨s, hs, hsame⟩
  · have hle := db.orders.bounded r (Database.order_mem hr)
    omega
  · have hkey : s.orderID = r.orderID := by rw [← hsame.orderID, hid, hid']
    rwa [Table.key_injective hs (Database.order_mem hr) hkey] at hsame

theorem user_kept (h : Evolves db db') {id : Int} {u : User} (hu : db.user id = some u) :
    ∃ u', db'.user id = some u' ∧ u'.SameAccount u := by
  obtain ⟨u', hu', hsame⟩ := h.accounts u (Database.user_mem hu)
  have hfind := Database.user_of_mem hu'
  rw [hsame.1, Database.user_userID hu] at hfind
  exact ⟨u', hfind, hsame⟩

end Evolves

inductive Deed (D : Type) where
  | enrol (newUser : User)
  | pay (u : User)
  | post (ord : Order D)
  | fill (ord : Order D)
  | remove (orderID : Int)
  | record (ord : Order D)

def Deed.apply (db : Database D) : Deed D → Database D
  | .enrol newUser => if db.taken newUser.username then db else db.addUser newUser
  | .pay u => db.setBalance u
  | .post ord => db.place ord
  | .fill ord => db.rewrite ord
  | .remove orderID => db.deleteOrderRow orderID
  | .record ord => db.archive ord

structure Database.SameRows (db db' : Database D) : Prop where
  users : db'.users = db.users
  orders : db'.orders = db.orders
  archives : db'.archives = db.archives
  now : db'.now = db.now

def Recalls (db : Database D) (m : Order D) : Prop :=
  m.orderID ≤ db.orders.seq ∧ ∀ r, db.order m.orderID = some r → r.SameIdentity m

section Recalls

variable {db db' : Database D} {m : Order D}

theorem recalls_of_order {id : Int} (hm : db.order id = some m) : Recalls db m := by
  refine ⟨db.orders.bounded m (Database.order_mem hm), fun r hr => ?_⟩
  rw [Database.order_orderID hm, hm] at hr
  cases hr
  exact .refl m

theorem Recalls.evolves (hm : Recalls db m) (h : Evolves db db') : Recalls db' m := by
  refine ⟨hm.1.trans h.orderIDs, fun r' hr' => ?_⟩
  cases hr : db.order m.orderID with
  | none =>
    have hnone := h.order_gone hm.1 hr
    cases hnone.symm.trans hr'
  | some r => exact (h.order_kept hr hr').trans (hm.2 r hr)

end Recalls

namespace Database.SameRows

variable {db db' db'' : Database D}

theorem user (h : db.SameRows db') (id : Int) : db'.user id = db.user id := by
  rw [Database.user, h.users, Database.user]

theorem order (h : db.SameRows db') (id : Int) : db'.order id = db.order id := by
  rw [Database.order, h.orders, Database.order]

theorem trans (h : db.SameRows db') (h' : db'.SameRows db'') : db.SameRows db'' :=
  ⟨h'.users.trans h.users, h'.orders.trans h.orders, h'.archives.trans h.archives,
    h'.now.trans h.now⟩

theorem evolves (h : db.SameRows db') : Evolves db db' where
  accounts u hu := ⟨u, by rwa [h.users], .refl u⟩
  newcomers u hu := .inr ⟨u, by rwa [← h.users], .refl u⟩
  usernames hdb := by rwa [UniqueUsernames, h.users]
  resting r hr := .inr ⟨r, by rwa [← h.orders], .refl r⟩
  userIDs := by rw [h.users]
  orderIDs := by rw [h.orders]
  archives := by rw [h.archives]
  now := by rw [h.now]

end Database.SameRows

section Apply

variable {db : Database D}

theorem evolves_users {db' : Database D} (hu : db'.users = db.users)
    (hr : ∀ r' ∈ db'.orders.rows, db.orders.seq < r'.orderID ∨ ∃ r ∈ db.orders.rows, r'.SameIdentity r)
    (hseq : db.orders.seq ≤ db'.orders.seq) (ha : db.archives.rows <+: db'.archives.rows)
    (hnow : db'.now = db.now) : Evolves db db' where
  accounts u h := ⟨u, by rwa [hu], .refl u⟩
  newcomers u h := .inr ⟨u, by rwa [← hu], .refl u⟩
  usernames hdb := by rwa [Database.UniqueUsernames, hu]
  resting := hr
  userIDs := by rw [hu]
  orderIDs := hseq
  archives := ha
  now := hnow.ge

theorem evolves_addUser {newUser : User} (hfree : db.taken newUser.username = false) :
    Evolves db (db.addUser newUser) where
  accounts u hu := ⟨u, Database.mem_users_addUser.mpr (.inl hu), .refl u⟩
  newcomers u hu := by
    rcases Database.mem_users_addUser.mp hu with hu | rfl
    · exact .inr ⟨u, hu, .refl u⟩
    · exact .inl (by simp)
  usernames hdb u hu v hv huv := by
    have hfree' : ∀ w ∈ db.users.rows, w.username ≠ newUser.username := by
      simpa [Database.taken] using hfree
    rcases Database.mem_users_addUser.mp hu with hu | rfl <;>
      rcases Database.mem_users_addUser.mp hv with hv | rfl
    · exact hdb u hu v hv huv
    · exact absurd huv (hfree' u hu)
    · exact absurd huv.symm (hfree' v hv)
    · rfl
  resting r hr := .inr ⟨r, hr, .refl r⟩
  userIDs := by
    have hseq : (db.addUser newUser).users.seq = db.users.seq + 1 := rfl
    omega
  orderIDs := le_refl _
  archives := List.prefix_refl _
  now := le_refl _

theorem evolves_setBalance (u : User) : Evolves db (db.setBalance u) := by
  have hsame (v : User) : (if v.userID = u.userID then
      { v with OMG := u.OMG, DOGE := u.DOGE, BTC := u.BTC, ETH := u.ETH } else v).SameAccount v := by
    split <;> exact ⟨rfl, rfl, rfl, rfl⟩
  have hrows (v' : User) : v' ∈ (db.setBalance u).users.rows ↔ ∃ v ∈ db.users.rows,
      v' = if v.userID = u.userID then
        { v with OMG := u.OMG, DOGE := u.DOGE, BTC := u.BTC, ETH := u.ETH } else v := by
    simp only [Database.setBalance, Database.updateBalanceRow, Table.mem_modify]
  refine ⟨fun v hv => ⟨_, (hrows _).mpr ⟨v, hv, rfl⟩, hsame v⟩, fun v' hv' => ?_, fun hdb => ?_,
    fun r hr => .inr ⟨r, hr, .refl r⟩, le_refl _, le_refl _, List.prefix_refl _, le_refl _⟩
  · obtain ⟨v, hv, rfl⟩ := (hrows v').mp hv'
    exact .inr ⟨v, hv, hsame v⟩
  · intro a' ha' b' hb' hab
    obtain ⟨a, ha, rfl⟩ := (hrows a').mp ha'
    obtain ⟨b, hb, rfl⟩ := (hrows b').mp hb'
    rw [(hsame a).2.1, (hsame b).2.1] at hab
    rw [hdb a ha b hb hab]

theorem evolves_place (ord : Order D) : Evolves db (db.place ord) := by
  refine evolves_users rfl (fun r hr => ?_) ?_ (List.prefix_refl _) rfl
  · rcases (Database.mem_orders_place db ord).mp hr with hr | rfl
    · exact .inr ⟨r, hr, .refl r⟩
    · exact .inl (by simp [Database.placed])
  · have hseq : (db.place ord).orders.seq = db.orders.seq + 1 := rfl
    omega

theorem evolves_deleteOrderRow (orderID : Int) : Evolves db (db.deleteOrderRow orderID) :=
  evolves_users rfl (fun r hr => .inr ⟨r, (Table.mem_erase.mp hr).1, .refl r⟩) (le_refl _)
    (List.prefix_refl _) rfl

theorem evolves_archive (ord : Order D) : Evolves db (db.archive ord) :=
  evolves_users rfl (fun r hr => .inr ⟨r, hr, .refl r⟩) (le_refl _)
    (List.prefix_append db.archives.rows _) rfl

theorem evolves_rewrite {ord : Order D} (hrecalls : Recalls db ord) : Evolves db (db.rewrite ord) := by
  refine evolves_users rfl (fun r' hr' => ?_) (le_refl _) (List.prefix_refl _) rfl
  obtain ⟨r, hr, rfl⟩ := Database.mem_orders_rewrite.mp hr'
  refine .inr ⟨r, hr, ?_⟩
  split
  · next hid =>
    have hrow := Database.order_of_mem hr
    rw [hid] at hrow
    have hsame := hrecalls.2 r hrow
    unfold Order.SameIdentity at hsame ⊢
    rw [← hsame]
  · exact .refl r

def Deed.Recalled (db : Database D) : Deed D → Prop
  | .fill ord => Recalls db ord
  | _ => True

theorem Deed.evolves {d : Deed D} (hd : d.Recalled db) : Evolves db (d.apply db) := by
  cases d with
  | enrol newUser =>
    simp only [Deed.apply]
    split
    · exact .refl db
    · next hfree => exact evolves_addUser (Bool.eq_false_iff.mpr hfree)
  | pay u => exact evolves_setBalance u
  | post ord => exact evolves_place ord
  | fill ord => exact evolves_rewrite hd
  | remove orderID => exact evolves_deleteOrderRow orderID
  | record ord => exact evolves_archive ord

end Apply

end Marketplace
