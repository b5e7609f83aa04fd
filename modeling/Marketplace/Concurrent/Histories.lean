import Marketplace.Concurrent.Confinement

namespace Marketplace
open CallTree Interleaving KeyedTable RelyGuarantee Runs

variable {D ι : Type} [CDouble D] [DecidableEq ι]

theorem evolves_later (S : CreatedAtSort D) (db : Database D) (actions later : List (ChildAction D ι)) :
    Evolves (reached S db actions).sys.world.db (reached S db (actions ++ later)).sys.world.db := by
  have hearlier := governed_reached S db (fun a (_ : a ∈ actions) => starts_any a)
  have hworld := (contract S (fun _ => True)).world_final
    (P := fun w w' : Forked D ι => Evolves w.db w'.db) (fun w => .refl w.db)
    (fun _ _ _ h h' => h.trans h') evolves_disturb (fun _ _ _ _ _ h => h.does.evolves)
    (fun a (_ : a ∈ later) => starts_any a) hearlier
  unfold reached
  rwa [final_append]

structure Continues (before after : Database D) : Prop where
  accounts : ∀ id u, before.user id = some u → ∃ u', after.user id = some u' ∧ u'.SameAccount u
  usernames : before.UniqueUsernames → after.UniqueUsernames
  orders : ∀ id ≤ before.orders.seq, ∀ r', after.order id = some r' →
    ∃ r, before.order id = some r ∧ r'.SameIdentity r
  archives : before.archives.rows <+: after.archives.rows

theorem history_continues (S : CreatedAtSort D) (db : Database D)
    (actions later : List (ChildAction D ι)) :
    Continues (reached S db actions).sys.world.db (reached S db (actions ++ later)).sys.world.db := by
  have h := evolves_later S db actions later
  refine ⟨fun id u hu => h.user_kept hu, h.usernames, fun id hid r' hr' => ?_, h.archives⟩
  cases hr : (reached S db actions).sys.world.db.order id with
  | none => cases (h.order_gone hid hr).symm.trans hr'
  | some r => exact ⟨r, rfl, h.order_kept hr hr'⟩

omit [CDouble D] [DecidableEq ι] in
theorem copies_acts {K : Forked D ι → Deed D → Prop} {i : ι} {w w' : Forked D ι} {P : Order D → Prop}
    (h : Acts K i w w') (hrows : ∀ r ∈ w.db.orders.rows, P r)
    (hcopies : ∀ j m, w.copy j = some m → P m) (j : ι) (m : Order D) (hm : w'.copy j = some m) :
    P m := by
  by_cases hj : j = i
  · subst hj
    rcases h.reads with hsame | ⟨m', hm', hread⟩
    · exact hcopies j m (hsame ▸ hm)
    · cases hm.symm.trans hread
      exact hrows _ hm'
  · rw [(h.others j hj).2.1] at hm
    exact hcopies j m hm

-- get_order and the listings copy a row's created_at with strdup, which takes no NULL
structure Stamped (w : Forked D ι) : Prop where
  rows : ∀ r ∈ w.db.orders.rows, r.createdAt.isSome
  copies : ∀ i m, w.copy i = some m → m.createdAt.isSome

omit [CDouble D] in
theorem stamped_apply {before after : Database D} (d : Deed D) (h : (d.apply before).SameRows after)
    (hrows : ∀ r ∈ before.orders.rows, r.createdAt.isSome) :
    ∀ r ∈ after.orders.rows, r.createdAt.isSome := by
  rw [h.orders]
  intro r hr
  cases d with
  | enrol newUser =>
    simp only [Deed.apply] at hr
    split at hr <;> exact hrows r hr
  | pay u => exact hrows r hr
  | post ord =>
    rcases (Database.mem_orders_place before ord).mp hr with hr | rfl
    · exact hrows r hr
    · rfl
  | fill ord =>
    obtain ⟨s, hs, rfl⟩ := Database.mem_orders_rewrite.mp hr
    split <;> exact hrows s hs
  | remove orderID => exact hrows r (Table.mem_erase.mp hr).1
  | record ord => exact hrows r hr

theorem stamped_reached (S : CreatedAtSort D) {db : Database D}
    (hdb : ∀ r ∈ db.orders.rows, r.createdAt.isSome) (actions : List (ChildAction D ι)) :
    Stamped (reached S db actions).sys.world := by
  refine (contract S (fun _ => True)).world_final
    (P := fun w w' : Forked D ι => Stamped w → Stamped w') (fun _ h => h)
    (fun _ _ _ h h' hw => h' (h hw)) (fun e w hw => ?_) (fun i o w w' _ h hw => ?_)
    (fun a (_ : a ∈ actions) => starts_any a) (governed_start (Forked.start db)) ⟨hdb, nofun⟩
  · cases e <;> exact ⟨hw.rows, hw.copies⟩
  · refine ⟨?_, copies_acts h hw.rows hw.copies⟩
    cases h.does with
    | nothing hrows =>
      rw [hrows.orders]
      exact hw.rows
    | deed d _ _ hrows => exact stamped_apply d hrows hw.rows

def ClientCall.caller : ClientCall D → Option Int
  | .buy ord => some ord.userID
  | .sell ord => some ord.userID
  | .cancelOrder _ currentUserID => some currentUserID
  | _ => none

def Deed.Spares (userID : Int) : Deed D → Prop
  | .pay u => u.userID ≠ userID
  | .post ord => ord.userID ≠ userID
  | .fill ord => ord.userID ≠ userID
  | .record ord => ord.userID ≠ userID
  | _ => True

structure Bystander (db : Database D) (userID : Int) (w : Forked D ι) : Prop where
  user : w.db.user userID = db.user userID
  orders : ∀ r ∈ w.db.orders.rows, r.userID ≠ userID
  copies : ∀ i m, w.copy i = some m → m.userID ≠ userID
  archives : ∀ a ∈ w.db.archives.rows, a.userID = userID → a ∈ db.archives.rows

section Bystander

variable {db : Database D} {userID : Int} {w w' : Forked D ι} {i : ι} {o : ClientCall D} {d : Deed D}

omit [DecidableEq ι] in
theorem conduct_spares (ho : o.caller ≠ some userID) (hw : Bystander db userID w)
    (hd : o.Conduct i w d) : d.Spares userID := by
  have htrade {taker : Taker} {ord : Order D} (hord : ord.userID ≠ userID)
      (hd : TradeDeed taker ord i w d) : d.Spares userID := by
    cases hd with
    | payCaller u hu => exact ne_of_eq_of_ne hu hord
    | payOpponent m hm u hu => exact ne_of_eq_of_ne hu (hw.copies i m hm.read)
    | post => exact hord
    | postRemainder m hm t hq => exact hord
    | fill m hm hq => exact hw.copies i m hm.read
    | remove m hm hq => trivial
    | recordOpponent m hm t => exact hw.copies i m hm.read
    | record m hm t => exact hord
  cases o with
  | register newUser =>
    cases hd
    trivial
  | lookUp username => exact absurd hd id
  | myInventory userID => exact absurd hd id
  | buy ord => exact htrade (fun h => ho (congrArg some h)) hd
  | sell ord => exact htrade (fun h => ho (congrArg some h)) hd
  | cancelOrder orderID currentUserID =>
    cases hd with
    | refund m hm u hu => exact fun h => ho (congrArg some (hu.symm.trans h))
    | remove m hm => trivial

omit [CDouble D] in
theorem spares_apply {before after : Database D} (hu : (before.user userID).isSome)
    (hd : d.Spares userID) (h : (d.apply before).SameRows after)
    (horders : ∀ r ∈ before.orders.rows, r.userID ≠ userID) :
    after.user userID = before.user userID ∧ (∀ r ∈ after.orders.rows, r.userID ≠ userID) ∧
      ∀ a ∈ after.archives.rows, a.userID = userID → a ∈ before.archives.rows := by
  rw [h.user, h.orders, h.archives]
  cases d with
  | enrol newUser =>
    obtain ⟨v, hv⟩ := Option.isSome_iff_exists.mp hu
    simp only [Deed.apply]
    split
    · exact ⟨rfl, horders, fun a ha _ => ha⟩
    · exact ⟨(Database.user_addUser hv).trans hv.symm, horders, fun a ha _ => ha⟩
  | pay u => exact ⟨Database.user_setBalance_other (Ne.symm hd), horders, fun a ha _ => ha⟩
  | post ord =>
    refine ⟨rfl, fun r hr => ?_, fun a ha _ => ha⟩
    rcases (Database.mem_orders_place before ord).mp hr with hr | rfl
    · exact horders r hr
    · exact hd
  | fill ord =>
    refine ⟨rfl, fun r hr => ?_, fun a ha _ => ha⟩
    obtain ⟨s, hs, rfl⟩ := Database.mem_orders_rewrite.mp hr
    split
    · exact hd
    · exact horders s hs
  | remove orderID => exact ⟨rfl, fun r hr => horders r (Table.mem_erase.mp hr).1, fun a ha _ => ha⟩
  | record ord =>
    refine ⟨rfl, horders, fun a ha hown => ?_⟩
    rcases Table.mem_insert.mp ha with ha | rfl
    · exact ha
    · exact absurd hown hd

omit [DecidableEq ι] in
theorem bystander_acts (hu : (db.user userID).isSome) (ho : o.caller ≠ some userID)
    (h : Acts (o.Conduct i) i w w') (hw : Bystander db userID w) : Bystander db userID w' := by
  have hcopies := copies_acts h hw.orders hw.copies
  cases h.does with
  | nothing hrows =>
    refine ⟨(hrows.user userID).trans hw.user, ?_, hcopies, ?_⟩
    · rw [hrows.orders]
      exact hw.orders
    · rw [hrows.archives]
      exact hw.archives
  | deed d hK _ hrows =>
    have hsome : (w.db.user userID).isSome := hw.user ▸ hu
    obtain ⟨huser, horders, harchives⟩ :=
      spares_apply hsome (conduct_spares ho hw hK) hrows hw.orders
    exact ⟨huser.trans hw.user, horders, hcopies,
      fun a ha hown => hw.archives a (harchives a ha hown) hown⟩

theorem bystander_reached (S : CreatedAtSort D) (hu : (db.user userID).isSome)
    (horders : ∀ r ∈ db.orders.rows, r.userID ≠ userID) {actions : List (ChildAction D ι)}
    (hactions : ∀ a ∈ actions, Starts (fun o => o.caller ≠ some userID) a) :
    Bystander db userID (reached S db actions).sys.world := by
  refine (contract S (fun o => o.caller ≠ some userID)).world_final
    (P := fun w w' : Forked D ι => Bystander db userID w → Bystander db userID w') (fun _ h => h)
    (fun _ _ _ h h' hw => h' (h hw)) (fun e w hw => ?_) (fun i o w w' ho h => bystander_acts hu ho h)
    hactions (governed_start _) ?_
  · cases e <;> exact ⟨hw.user, hw.orders, hw.copies, hw.archives⟩
  · exact ⟨rfl, horders, nofun, fun a ha _ => ha⟩

end Bystander

theorem bystander_untouched (S : CreatedAtSort D) (db : Database D) (userID : Int)
    (hu : (db.user userID).isSome) (horders : ∀ r ∈ db.orders.rows, r.userID ≠ userID)
    (actions : List (ChildAction D ι))
    (hactions : ∀ a ∈ actions, Starts (fun o => o.caller ≠ some userID) a) :
    (reached S db actions).sys.world.db.user userID = db.user userID ∧
      (∀ r ∈ (reached S db actions).sys.world.db.orders.rows, r.userID ≠ userID) ∧
      ∀ a ∈ (reached S db actions).sys.world.db.archives.rows, a.userID = userID →
        a ∈ db.archives.rows := by
  have h := bystander_reached S hu horders hactions
  exact ⟨h.user, h.orders, h.archives⟩

def takeSomeOffered : List (ChildAction ℚ Bool) :=
  .start false (.buy (createOrder COIN_DOGE BUY 4 1 2)) ::
    (List.replicate 49 (.call false) ++ [.finish false])

theorem bystander_untouched_takeSomeOffered :
    (reached (.stable ℚ) oneOffer takeSomeOffered).sys.world.db.user 3 = oneOffer.user 3 ∧
      (∀ r ∈ (reached (.stable ℚ) oneOffer takeSomeOffered).sys.world.db.orders.rows, r.userID ≠ 3) ∧
      ∀ a ∈ (reached (.stable ℚ) oneOffer takeSomeOffered).sys.world.db.archives.rows, a.userID = 3 →
        a ∈ oneOffer.archives.rows :=
  bystander_untouched (.stable ℚ) oneOffer 3 (by decide +kernel) (by decide +kernel) takeSomeOffered
    (by simp [takeSomeOffered, Starts, ClientCall.caller, createOrder])

def ClientCall.Positive : ClientCall D → Prop
  | .buy ord => 0 < ord.quantity
  | .sell ord => 0 < ord.quantity
  | _ => True

instance : DecidablePred (ClientCall.Positive : ClientCall D → Prop)
  | .buy ord => inferInstanceAs (Decidable (0 < ord.quantity))
  | .sell ord => inferInstanceAs (Decidable (0 < ord.quantity))
  | .register _ | .lookUp _ | .myInventory _ | .cancelOrder _ _ => .isTrue trivial

-- cap is what a row of that ID may hold at most
def Within (cap : Int → Option Int) (r : Order D) : Prop :=
  0 < r.quantity ∧ ∀ n ∈ cap r.orderID, r.quantity ≤ n

structure Capped (cap : Int → Option Int) (w : Forked D ι) : Prop where
  rows : ∀ r ∈ w.db.orders.rows, Within cap r
  copies : ∀ i m, w.copy i = some m → Within cap m
  seq : ∀ id n, cap id = some n → id ≤ w.db.orders.seq

section Caps

variable {cap : Int → Option Int} {db : Database D} {w w' : Forked D ι} {i : ι} {o : ClientCall D}
  {d : Deed D}

def Deed.Lessens (cap : Int → Option Int) : Deed D → Prop
  | .post ord => 0 < ord.quantity
  | .fill ord => Within cap ord
  | _ => True

omit [DecidableEq ι] in
theorem conduct_lessens (ho : o.Positive) (hw : Capped cap w) (hd : o.Conduct i w d) :
    d.Lessens cap := by
  have htrade {taker : Taker} {ord : Order D} (hord : 0 < ord.quantity)
      (hd : TradeDeed taker ord i w d) : d.Lessens cap := by
    cases hd with
    | post => exact hord
    | postRemainder m hm t hq => exact hq
    | fill m hm hq =>
      obtain ⟨hpos, hle⟩ := hw.copies i m hm.read
      have htaken : 0 < transactionQuantity ord m ∧ transactionQuantity ord m ≤ m.quantity := by
        unfold transactionQuantity
        split <;> omega
      refine ⟨by simp only [Order.reduce]; omega, fun n hn => ?_⟩
      have hbound := hle n hn
      simp only [Order.reduce]
      omega
    | _ => trivial
  cases o with
  | register newUser =>
    cases hd
    trivial
  | lookUp username => exact absurd hd id
  | myInventory userID => exact absurd hd id
  | buy ord => exact htrade ho hd
  | sell ord => exact htrade ho hd
  | cancelOrder orderID currentUserID => cases hd <;> trivial

omit [CDouble D] in
theorem lessens_apply {before after : Database D} (hd : d.Lessens cap)
    (h : (d.apply before).SameRows after) (hseq : ∀ id n, cap id = some n → id ≤ before.orders.seq)
    (hrows : ∀ r ∈ before.orders.rows, Within cap r) : ∀ r ∈ after.orders.rows, Within cap r := by
  rw [h.orders]
  intro r hr
  cases d with
  | enrol newUser =>
    simp only [Deed.apply] at hr
    split at hr <;> exact hrows r hr
  | pay u => exact hrows r hr
  | post ord =>
    rcases (Database.mem_orders_place before ord).mp hr with hr | rfl
    · exact hrows r hr
    · refine ⟨hd, fun n hn => ?_⟩
      have hold : before.orders.seq + 1 ≤ before.orders.seq := hseq _ n hn
      omega
  | fill ord =>
    obtain ⟨s, hs, rfl⟩ := Database.mem_orders_rewrite.mp hr
    split
    · next hid => exact ⟨hd.1, fun n hn => hd.2 n (hid ▸ hn)⟩
    · exact hrows s hs
  | remove orderID => exact hrows r (Table.mem_erase.mp hr).1
  | record ord => exact hrows r hr

omit [DecidableEq ι] in
theorem capped_acts (ho : o.Positive) (h : Acts (o.Conduct i) i w w') (hw : Capped cap w) :
    Capped cap w' := by
  have hcopies := copies_acts h hw.rows hw.copies
  refine ⟨?_, hcopies, fun id n hn => (hw.seq id n hn).trans h.does.evolves.orderIDs⟩
  cases h.does with
  | nothing hrows =>
    rw [hrows.orders]
    exact hw.rows
  | deed d hK _ hrows => exact lessens_apply (conduct_lessens ho hw hK) hrows hw.seq hw.rows

theorem capped_later (S : CreatedAtSort D) {earlier later : List (ChildAction D ι)}
    (hactions : ∀ a ∈ earlier ++ later, Starts ClientCall.Positive a)
    (hw : Capped cap (reached S db earlier).sys.world) :
    Capped cap (reached S db (earlier ++ later)).sys.world := by
  obtain ⟨hearlier, hlater⟩ := List.forall_mem_append.mp hactions
  unfold reached at hw ⊢
  rw [final_append]
  refine (contract S ClientCall.Positive).world_final
    (P := fun w w' : Forked D ι => Capped cap w → Capped cap w') (fun _ h => h)
    (fun _ _ _ h h' hw => h' (h hw)) (fun e w hw => ?_) (fun i o w w' ho h => capped_acts ho h)
    hlater (governed_reached S db hearlier) hw
  cases e <;> exact ⟨hw.rows, hw.copies, hw.seq⟩

theorem positive_reached (S : CreatedAtSort D) (hdb : ∀ r ∈ db.orders.rows, 0 < r.quantity)
    {actions : List (ChildAction D ι)} (hactions : ∀ a ∈ actions, Starts ClientCall.Positive a) :
    Capped (fun _ => none) (reached S db actions).sys.world := by
  have hstart : Capped (fun _ => none) (reached S db ([] : List (ChildAction D ι))).sys.world :=
    ⟨fun r hr => ⟨hdb r hr, nofun⟩, nofun, nofun⟩
  exact capped_later S (List.forall_mem_append.mpr ⟨List.forall_mem_nil _, hactions⟩) hstart

theorem copies_known (S : CreatedAtSort D) (db : Database D) (actions : List (ChildAction D ι))
    (i : ι) (m : Order D) (hm : (reached S db actions).sys.world.copy i = some m) :
    m.orderID ≤ (reached S db actions).sys.world.db.orders.seq := by
  have hknown := (contract S (fun _ => True)).world_final
    (P := fun w w' : Forked D ι => (∀ i m, w.copy i = some m → m.orderID ≤ w.db.orders.seq) →
      ∀ i m, w'.copy i = some m → m.orderID ≤ w'.db.orders.seq) (fun _ h => h)
    (fun _ _ _ h h' hw => h' (h hw)) (fun e w hw => ?_) (fun i o w w' _ h hw j m hm => ?_)
    (fun a (_ : a ∈ actions) => starts_any a) (governed_start (.start db))
  · exact hknown nofun i m hm
  · cases e <;> exact hw
  · have hold : m.orderID ≤ w.db.orders.seq :=
      copies_acts h (fun r hr => w.db.orders.bounded r hr) hw j m hm
    exact hold.trans h.does.evolves.orderIDs

-- the row stands at the start, or the last of the calls inserted it
inductive FirstStands (S : CreatedAtSort D) (db : Database D) (r : Order D) :
    List (ChildAction D ι) → Prop
  | start (h : db.order r.orderID = some r) : FirstStands S db r []
  | inserted (before : List (ChildAction D ι)) (a : ChildAction D ι)
      (hnone : (reached S db before).sys.world.db.order r.orderID = none)
      (h : (reached S db (before ++ [a])).sys.world.db.order r.orderID = some r) :
      FirstStands S db r (before ++ [a])

def Order.ownCap (r : Order D) (id : Int) : Option Int :=
  if id = r.orderID then some r.quantity else none

omit [CDouble D] [DecidableEq ι] in
theorem capped_of_row {r : Order D} (hpos : Capped (fun _ => none) w)
    (hr : w.db.order r.orderID = some r) (hcopies : ∀ i m, w.copy i = some m → m.orderID ≠ r.orderID) :
    Capped r.ownCap w := by
  refine ⟨fun r' hr' => ⟨(hpos.rows r' hr').1, fun n hn => ?_⟩,
    fun i m hm => ⟨(hpos.copies i m hm).1, fun n hn => ?_⟩, fun id n hn => ?_⟩
  · unfold Order.ownCap at hn
    split at hn
    · next hid =>
      have hsame : r' = r := Option.some.inj ((Database.order_of_mem hr').symm.trans (hid ▸ hr))
      cases hn
      rw [hsame]
    · cases hn
  · rw [Order.ownCap, if_neg (hcopies i m hm)] at hn
    cases hn
  · unfold Order.ownCap at hn
    split at hn
    · next hid => exact hid ▸ order_id_le hr
    · cases hn

theorem copies_next (S : CreatedAtSort D) (db : Database D) (actions : List (ChildAction D ι))
    (a : ChildAction D ι) (i : ι) (m : Order D)
    (hm : (reached S db (actions ++ [a])).sys.world.copy i = some m) :
    m.orderID ≤ (reached S db actions).sys.world.db.orders.seq := by
  have hknown := copies_known S db actions
  have hstep := ((contract S (fun _ => True)).governed_step (starts_any a)
    (governed_reached S db (fun a (_ : a ∈ actions) => starts_any a))).2
  have hlast : reached S db (actions ++ [a]) = Children.step S a (reached S db actions) := by
    unfold reached
    rw [final_concat]
  rw [hlast] at hm
  cases hstep with
  | still hw =>
    rw [Children.step, hw] at hm
    exact hknown i m hm
  | env e hw =>
    rw [Children.step, hw] at hm
    cases e <;> exact hknown i m hm
  | call j o hrun _ hw =>
    exact copies_acts (P := fun m => m.orderID ≤ (reached S db actions).sys.world.db.orders.seq) hw
      (fun r hr => (reached S db actions).sys.world.db.orders.bounded r hr) hknown i m hm

-- no copy can be older than the row, since its ID was fresh when the call inserted it
theorem capped_first (S : CreatedAtSort D) (hdb : ∀ r ∈ db.orders.rows, 0 < r.quantity)
    {earlier : List (ChildAction D ι)} {r : Order D}
    (hactions : ∀ a ∈ earlier, Starts ClientCall.Positive a) (h : FirstStands S db r earlier) :
    Capped r.ownCap (reached S db earlier).sys.world := by
  have hpos := positive_reached S hdb hactions
  cases h with
  | start h => exact capped_of_row hpos h nofun
  | inserted before a hnone h =>
    refine capped_of_row hpos h (fun i m hm hid => ?_)
    have hold : m.orderID ≤ (reached S db before).sys.world.db.orders.seq :=
      copies_next S db before a i m hm
    have hgone := (evolves_later S db before [a]).order_gone (hid ▸ hold) hnone
    cases hgone.symm.trans h

end Caps

theorem resting_below_first (S : CreatedAtSort D) (db : Database D)
    (hdb : ∀ r ∈ db.orders.rows, 0 < r.quantity) (earlier later : List (ChildAction D ι))
    (hactions : ∀ a ∈ earlier ++ later, Starts ClientCall.Positive a) (first : Order D)
    (h : FirstStands S db first earlier) (r : Order D)
    (hr : (reached S db (earlier ++ later)).sys.world.db.order first.orderID = some r) :
    0 < r.quantity ∧ r.quantity ≤ first.quantity := by
  have hfirst := capped_first S hdb (List.forall_mem_append.mp hactions).1 h
  have hcapped : Capped first.ownCap (reached S db (earlier ++ later)).sys.world :=
    capped_later S hactions hfirst
  obtain ⟨hpos, hbound⟩ := hcapped.rows r (Database.order_mem hr)
  refine ⟨hpos, hbound _ ?_⟩
  rw [Order.ownCap, if_pos (Database.order_orderID hr)]
  rfl

def offerPosting : List (ChildAction ℚ Bool) :=
  .start true (.sell (createOrder COIN_BTC SELL 10 1 3)) :: List.replicate 17 (.call true)

def offerPosted : Order ℚ :=
  { createOrder COIN_BTC SELL 10 1 3 with orderID := 2, createdAt := some 0 }

-- the first buyer's stale copy takes the row from 3 back up to 6
def staleFill : List (ChildAction ℚ Bool) :=
  List.replicate 7 (.call true) ++
  [.finish true, .start true (.buy (createOrder COIN_BTC BUY 7 1 1)),
    .start false (.buy (createOrder COIN_BTC BUY 4 1 2))] ++
  List.replicate 11 (.call false) ++ List.replicate 80 (.call true) ++
  List.replicate 80 (.call false)

def offerRefilled : Order ℚ :=
  { offerPosted with quantity := 6 }

theorem resting_below_first_staleFill :
    (reached (.stable ℚ) oneOffer (offerPosting ++ [.call true] ++ staleFill)).sys.world.db.order
        offerPosted.orderID = some offerRefilled ∧
      0 < offerRefilled.quantity ∧ offerRefilled.quantity ≤ offerPosted.quantity := by
  have hstands : FirstStands (.stable ℚ) oneOffer offerPosted (offerPosting ++ [.call true]) :=
    .inserted offerPosting (.call true) (by decide +kernel) (by decide +kernel)
  have hpositive : ∀ a ∈ offerPosting ++ [.call true] ++ staleFill, Starts ClientCall.Positive a := by
    decide +kernel
  have hrow : (reached (.stable ℚ) oneOffer
      (offerPosting ++ [.call true] ++ staleFill)).sys.world.db.order offerPosted.orderID =
        some offerRefilled := by
    decide +kernel
  have hbelow := resting_below_first (.stable ℚ) oneOffer (by decide +kernel)
    (offerPosting ++ [.call true]) staleFill hpositive offerPosted hstands offerRefilled
  exact ⟨hrow, hbelow hrow⟩

theorem registration_exclusive (S : CreatedAtSort D) (db : Database D) (hdb : db.UniqueUsernames)
    (actions later : List (ChildAction D ι)) (i : ι) (newUser : User) (userID : Int)
    (hrun : (reached S db actions).running i = some (.register newUser))
    (hres : (reached S db actions).result i = some (.code userID)) (hok : userID ≠ -1) :
    ∃ u, (reached S db (actions ++ later)).sys.world.db.user userID = some u ∧
      u.SameAccount { newUser with userID := userID } ∧
      ∀ v ∈ (reached S db (actions ++ later)).sys.world.db.users.rows,
        v.username = newUser.username → v.userID = userID := by
  have henrolled : Enrolled newUser userID (reached S db actions).sys.world.db :=
    (governed_reached S db (fun a _ => starts_any a)).result .refl hrun hres userID rfl hok
  obtain ⟨u, hu, hsame⟩ := henrolled.evolves (evolves_later S db actions later)
  have hunique : (reached S db (actions ++ later)).sys.world.db.UniqueUsernames :=
    (evolves_later S db [] (actions ++ later)).usernames hdb
  refine ⟨u, hu, hsame, fun v hv hname => ?_⟩
  rw [hunique v hv u (Database.user_mem hu) (hname.trans hsame.2.1.symm)]
  exact Database.user_userID hu

def racingForName : List (ChildAction ℚ Bool) :=
  [.start false (.register (newUser ['a'] ['p'] ['A'])),
    .start true (.register (newUser ['a'] ['q'] ['B']))] ++
  List.replicate 8 (.call false) ++ List.replicate 10 (.call true)

theorem registration_exclusive_racingForName :
    ∃ u, (reached (.stable ℚ) .empty (racingForName ++ [.call false])).sys.world.db.user 1 = some u ∧
      u.SameAccount { newUser ['a'] ['q'] ['B'] with userID := 1 } ∧
      ∀ v ∈ (reached (.stable ℚ) .empty (racingForName ++ [.call false])).sys.world.db.users.rows,
        v.username = (newUser ['a'] ['q'] ['B']).username → v.userID = 1 :=
  registration_exclusive (.stable ℚ) .empty (fun _ hu => by cases hu) racingForName [.call false] true
    (newUser ['a'] ['q'] ['B']) 1 (by decide +kernel) (by decide +kernel) (by decide)

end Marketplace
