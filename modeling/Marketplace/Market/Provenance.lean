import Marketplace.Market.Parties

namespace Marketplace
open CallTree KeyedTable

variable {D : Type}

structure Offer (D : Type) where
  item : Int
  buyOrSell : Int
  unitPrice : D
  userID : Int

def Order.offer (o : Order D) : Offer D where
  item := o.item
  buyOrSell := o.buyOrSell
  unitPrice := o.unitPrice
  userID := o.userID

structure OffersIn (P : Offer D → Prop) (db : Database D) : Prop where
  orders : ∀ r ∈ db.orders.rows, P r.offer
  archives : ∀ a ∈ db.archives.rows, P a.offer

variable [CDouble D] {S : CreatedAtSort D} {db : Database D} {op : Op D} {P : Offer D → Prop}

section Offers

variable {ord m : Order D} {taker maker : User}

omit [CDouble D] in
theorem offersIn_fill (hrow : db.order m.orderID = some m) (hord : P ord.offer) (h : OffersIn P db) :
    OffersIn P (db.fill ord m taker maker) := by
  have hm : P m.offer := h.orders m (Database.order_mem hrow)
  refine ⟨fun r hr => ?_, fun a ha => ?_⟩
  · rcases (mem_orders_fill hrow).mp hr with ⟨hr, -⟩ | ⟨-, rfl⟩
    · exact h.orders r hr
    · exact hm
  · rw [archives_fill] at ha
    rcases Table.mem_insert.mp ha with ha | rfl
    · rcases Table.mem_insert.mp ha with ha | rfl
      · exact h.archives a ha
      · exact hm
    · exact hord

omit [CDouble D] in
theorem offersIn_place (hord : P ord.offer) (h : OffersIn P db) : OffersIn P (db.place ord) := by
  refine ⟨fun r hr => ?_, h.archives⟩
  rcases (Database.mem_orders_place db ord).mp hr with hr | rfl
  · exact h.orders r hr
  · exact hord

end Offers

theorem offersIn_apply (hord : ∀ ord, op.order = some ord → P ord.offer) (h : OffersIn P db) :
    OffersIn P (apply S op db) := by
  have heff := apply_effect S op db
  generalize apply S op db = db' at heff ⊢
  cases heff with
  | unchanged hs => exact h
  | registered newUser hop => exact ⟨h.orders, h.archives⟩
  | elapsed seconds hop => exact ⟨h.orders, h.archives⟩
  | posted ord u hs hop hu hi hn =>
    have hplaced := offersIn_place (hord ord (by rcases hop with rfl | rfl <;> rfl)) h
    exact ⟨hplaced.orders, hplaced.archives⟩
  | filled ord m u v taker maker hs hset =>
    exact offersIn_fill hset.fillable.row (hord ord (matched_of_settles hs).1) h
  | filledAndPosted ord m u v taker maker hs hset hq hi =>
    have hterms := hord ord (matched_of_settles hs).1
    have hfilled : OffersIn P (db.fill ord m taker maker) :=
      offersIn_fill hset.fillable.row hterms h
    have hplaced : OffersIn P ((db.fill ord m taker maker).place (remainder db ord m)) :=
      offersIn_place hterms hfilled
    exact ⟨hplaced.orders, hplaced.archives⟩
  | cancelled orderID currentUserID r u hop hr hown hu =>
    exact ⟨fun s hs => h.orders s (Table.mem_erase.mp hs).1, h.archives⟩

theorem user_apply_uninvolved {userID : Int} {u : User} (hu : db.user userID = some u)
    (hord : ∀ ord, op.order = some ord → ord.userID ≠ userID)
    (hrows : ∀ r ∈ db.orders.rows, r.userID ≠ userID) :
    (apply S op db).user userID = some u := by
  have htrade {ord : Order D} (hop : op.order = some ord) : (apply S op db).user userID = some u := by
    refine ((trade_touches hop).parties.users.others userID ?_).trans hu
    rintro (hid | ⟨m, hm, hid⟩)
    · exact hord ord hop hid.symm
    · exact hrows m (matched_mem hm) hid.symm
  cases op with
  | register newUser =>
    rw [apply_register]
    split
    · exact hu
    · exact Database.user_addUser hu
  | buy ord => exact htrade rfl
  | sell ord => exact htrade rfl
  | cancelOrder orderID currentUserID =>
    have hcancel : CancelTouches S orderID currentUserID db := cancel_touches orderID currentUserID
    obtain ⟨-, hparties, hunauthorized⟩ := hcancel
    by_cases hown : ∃ r ∈ db.order orderID, r.userID = currentUserID
    · obtain ⟨r, hr, hrid⟩ := hown
      have hne := hrows r (Database.order_mem hr)
      refine ((hparties r hr hrid).users.others userID ?_).trans hu
      rintro (hid | ⟨m, hm, hid⟩)
      · exact hne (hrid.trans hid.symm)
      · cases hm
        exact hne hid.symm
    · rw [hunauthorized (fun r hr hrid => hown ⟨r, hr, hrid⟩)]
      exact hu
  | elapse seconds => exact hu

theorem user_apply_nobody {userID : Int} (hnone : db.user userID = none)
    (hop : ∀ newUser, op ≠ .register newUser) : (apply S op db).user userID = none := by
  cases op with
  | register newUser => exact absurd rfl (hop newUser)
  | buy ord => exact (trade_touches rfl).parties.users.nobody userID hnone
  | sell ord => exact (trade_touches rfl).parties.users.nobody userID hnone
  | cancelOrder orderID currentUserID =>
    have hcancel : CancelTouches S orderID currentUserID db := cancel_touches orderID currentUserID
    obtain ⟨-, hparties, hunauthorized⟩ := hcancel
    by_cases hown : ∃ r ∈ db.order orderID, r.userID = currentUserID
    · obtain ⟨r, hr, hrid⟩ := hown
      exact (hparties r hr hrid).users.nobody userID hnone
    · rw [hunauthorized (fun r hr hrid => hown ⟨r, hr, hrid⟩)]
      exact hnone
  | elapse seconds => exact hnone

end Marketplace
