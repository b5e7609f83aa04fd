import Marketplace.Failure.FaultyOutcomes

namespace Marketplace
open CallTree KeyedTable

variable {D : Type}

def standing (seq : Int) (r : Order D) : Int :=
  if r.orderID ≤ seq then r.quantity else 0

def arrived (seq : Int) (r : Order D) : Int :=
  if r.orderID ≤ seq then 0 else r.quantity

def traded (db db' : Database D) : Int :=
  db.orders.total Order.quantity - db'.orders.total (standing db.orders.seq)

def rested (db db' : Database D) : Int :=
  db'.orders.total (arrived db.orders.seq)

def taken (db db' : Database D) : Int :=
  traded db db' + rested db db'

section Measures

variable {db db' : Database D} {ord m : Order D} {t : Int}

theorem total_standing (db : Database D) :
    db.orders.total (standing db.orders.seq) = db.orders.total Order.quantity :=
  Table.total_congr (fun r hr => if_pos (db.orders.bounded r hr))

theorem total_arrived (db : Database D) : db.orders.total (arrived db.orders.seq) = 0 := by
  have hzero : db.orders.total (arrived db.orders.seq) = db.orders.total (fun _ => 0) :=
    Table.total_congr (fun r hr => if_pos (db.orders.bounded r hr))
  rw [hzero]
  simp [Table.total]

theorem taken_unmoved (h : db'.orders = db.orders) : taken db db' = 0 := by
  rw [taken, traded, rested, h, total_standing, total_arrived]
  omega

theorem total_close (hrow : db.order m.orderID = some m) (f : Order D → Int) :
    (db.close (m.reduce t)).orders.total f = db.orders.total f - f m +
      if m.quantity - t = 0 then 0 else f (m.reduce t) := by
  by_cases hq : m.quantity - t = 0
  · rw [Database.close, quantity_reduce, if_pos hq, if_pos hq, add_zero]
    exact Table.total_erase db.orders f hrow
  · rw [Database.close, quantity_reduce, if_neg hq, if_neg hq]
    exact Table.total_modify
      (g := fun r => { m.reduce t with orderID := r.orderID, createdAt := r.createdAt })
      db.orders f (fun _ => rfl) hrow

theorem seq_close : (db.close m).orders.seq = db.orders.seq := by
  unfold Database.close
  split <;> rfl

theorem taken_close (horders : db'.orders = db.orders) (hrow : db.order m.orderID = some m) :
    traded db (db'.close (m.reduce t)) = t ∧ rested db (db'.close (m.reduce t)) = 0 := by
  have hold : m.orderID ≤ db.orders.seq := db.orders.bounded m (Database.order_mem hrow)
  have hrow' : db'.order m.orderID = some m := by
    rw [Database.order, horders]
    exact hrow
  constructor
  · rw [traded, total_close hrow', horders, total_standing]
    simp only [standing, orderID_reduce, quantity_reduce, if_pos hold]
    split <;> omega
  · rw [rested, total_close hrow', horders, total_arrived]
    simp only [arrived, orderID_reduce, quantity_reduce, if_pos hold]
    split <;> omega

theorem taken_place (ord : Order D) (hseq : db'.orders.seq = db.orders.seq) :
    traded db (db'.place ord) = traded db db' ∧
      rested db (db'.place ord) = rested db db' + ord.quantity := by
  have hnew : ¬ (db'.placed ord).orderID ≤ db.orders.seq := by
    rw [← hseq]
    exact not_le.mpr (lt_add_one _)
  constructor
  · rw [traded, Database.total_orders_place, standing, if_neg hnew, add_zero]
    rfl
  · rw [rested, Database.total_orders_place, arrived, if_neg hnew]
    rfl

theorem taken_placed (ord : Order D) (hseq : db'.orders.seq = db.orders.seq) :
    taken db (db'.place ord) = taken db db' + ord.quantity := by
  obtain ⟨ht, hr⟩ := taken_place ord hseq
  rw [taken, taken, ht, hr]
  omega

end Measures

def searched (f : Nat → Option Int) (db : Database D) (found : Option (Order D)) :
    Option (Order D × Nat) :=
  match f 3 with
  | some code => (db.order code).map (·, 7)
  | none => if Clear f 4 4 then found.map (·, 11) else none

section Searched

variable {f : Nat → Option Int} {db : Database D} {found : Option (Order D)} {m : Order D} {n : Nat}

theorem searched_of_matches (h : Matches f db found m n) (hrow : db.order m.orderID = some m) :
    searched f db found = some (m, n) := by
  cases h with
  | queried hfound hc =>
    have h3 : f 3 = none := hc 0 (by omega)
    have h4 : Clear f 4 4 := fun j hj => by
      have := hc (1 + j) (by omega)
      rwa [show 3 + (1 + j) = 4 + j by omega] at this
    simp [searched, h3, h4, hfound]
  | misread h3 => simp [searched, h3, hrow]

theorem searched_of_unmatched (h3 : f 3 = none) (h : Clear f 4 4 → found = none) :
    searched f db found = none := by
  simp only [searched, h3]
  split
  · next h4 => rw [h h4, Option.map_none]
  · rfl

end Searched

theorem transactionQuantity_cases (ord m : Order D) :
    (m.quantity < ord.quantity ∧ transactionQuantity ord m = m.quantity) ∨
      (ord.quantity ≤ m.quantity ∧ transactionQuantity ord m = ord.quantity) := by
  unfold transactionQuantity
  split
  · next h => exact .inl ⟨h, rfl⟩
  · next h => exact .inr ⟨not_lt.mp h, rfl⟩

variable [CDouble D]

def Honest (f : Nat → Option Int) (db : Database D) (ord : Order D) (refused : User → Bool)
    (found : Option (Order D)) : Prop :=
  ord.quantity ≠ 0 ∧ (Clear f 0 3 → ∀ u ∈ db.user ord.userID, refused u = false →
    (f 3 = none → searched f db found = none →
      Clear f 8 10 ∧ CDouble.isNaN ord.unitPrice = false ∧ insufficientBalance u ord = false) ∧
    ∀ p ∈ searched f db found, Clear f (p.2 - 3) 3 →
      (p.1.quantity ≤ ord.quantity → f (p.2 + 36) = none) ∧
      (p.1.quantity < ord.quantity → Clear f (p.2 + 48) 7))

def Unhindered (f : Nat → Option Int) (db : Database D) (ord : Order D) (refused : User → Bool)
    (found : Option (Order D)) : Prop :=
  ord.quantity = 0 ∧ Clear f 0 67 ∧ db.user ord.userID ≠ none ∧
    (∀ u ∈ db.user ord.userID, refused u = false) ∧
    ∀ m ∈ found, 0 ≤ m.quantity ∧ db.user m.userID ≠ none ∧ CDouble.isNaN m.unitPrice = false

section Truth

variable {f : Nat → Option Int} {db db' : Database D} {ord m : Order D} {n : Nat}
  {refused : User → Bool} {found : Option (Order D)} {taker : User → Order D → User}
  {maker : Order D → User → User} {res : Int × Database D}

theorem insertFaulty_truthful (h : InsertFaulty f db n ord res) (hc : Clear f n 10)
    (hn : CDouble.isNaN ord.unitPrice = false)
    (hi : ∃ u, db.user ord.userID = some u ∧ insufficientBalance u ord = false) :
    res.1 ≠ -1 ∧ taken db res.2 = ord.quantity := by
  obtain ⟨u, hu, hi⟩ := hi
  have hplaced : taken db (db.place ord) = ord.quantity := by
    rw [taken_placed ord rfl, taken_unmoved rfl, zero_add]
  cases h with
  | failed code hcode hwhy =>
    rcases hwhy with hwhy | hwhy | hwhy | ⟨v, hv, hwhy⟩
    · exact absurd hc hwhy
    · rw [hu] at hwhy
      cases hwhy
    · rw [hn] at hwhy
      cases hwhy
    · rw [hu] at hv
      cases hv
      rw [hi] at hwhy
      cases hwhy
  | unpaid v code hcode => exact ⟨by simp only; omega, hplaced⟩
  | rested v => exact ⟨by simp [SQLITE_OK], hplaced⟩

theorem closeFaulty_truthful (horders : db'.orders = db.orders) (hrow : db.order m.orderID = some m)
    (h : CloseFaulty f db' n (remainder db ord m) (m.reduce (transactionQuantity ord m)) res)
    (hq : ord.quantity ≠ 0) (hdelete : m.quantity ≤ ord.quantity → f (n + 1) = none)
    (hpaid : m.quantity < ord.quantity → Clear f (n + 13) 7) :
    res.1 = -1 ↔ taken db res.2 ≠ ord.quantity := by
  have hcases := transactionQuantity_cases ord m
  obtain ⟨htraded, hrested⟩ := taken_close (t := transactionQuantity ord m) horders hrow
  have hclosed : taken db (db'.close (m.reduce (transactionQuantity ord m))) =
      transactionQuantity ord m := by
    rw [taken, htraded, hrested, add_zero]
  cases h with
  | stopped hwhy =>
    rw [taken_unmoved horders]
    exact iff_of_true rfl hq.symm
  | undeleted hm hb res =>
    rw [quantity_reduce] at hm
    exact absurd (hdelete (by omega)) hb
  | closed hle =>
    have hle' : ord.quantity - transactionQuantity ord m ≤ 0 := hle
    rw [hclosed]
    exact iff_of_false (by simp) (by omega)
  | inserted hpos res hres =>
    have hpos' : 0 < ord.quantity - transactionQuantity ord m := hpos
    obtain ⟨hlt, ht⟩ := hcases.resolve_right (by omega)
    have hzero : (m.reduce (transactionQuantity ord m)).quantity = 0 := by
      rw [quantity_reduce, ht, sub_self]
    rw [if_pos hzero] at hres
    cases hres with
    | failed code hcode hwhy =>
      have hne : code ≠ 0 := by omega
      simp only [hne, if_false]
      rw [hclosed]
      exact iff_of_true trivial (by omega)
    | unpaid u code hcode hu hi hn hwhy => exact absurd (hpaid hlt) hwhy
    | rested u hu hi hn =>
      have hseq : (db'.close (m.reduce (transactionQuantity ord m))).orders.seq = db.orders.seq := by
        rw [seq_close, horders]
      have hplaced := taken_placed (remainder db ord m) hseq
      have hquantity : (remainder db ord m).quantity = ord.quantity - transactionQuantity ord m := rfl
      rw [hclosed, hquantity] at hplaced
      refine iff_of_false (by simp [SQLITE_OK]) (not_not.mpr ?_)
      calc taken db _ = transactionQuantity ord m + (ord.quantity - transactionQuantity ord m) := hplaced
        _ = ord.quantity := by omega

theorem settleFaulty_truthful {tk : User} {mk : User → User} (hrow : db.order m.orderID = some m)
    (h : SettleFaulty f db n ord m tk mk res) (hq : ord.quantity ≠ 0)
    (hdelete : m.quantity ≤ ord.quantity → f (n + 36) = none)
    (hpaid : m.quantity < ord.quantity → Clear f (n + 48) 7) :
    res.1 = -1 ↔ taken db res.2 ≠ ord.quantity := by
  cases h with
  | unarchived hwhy =>
    rw [taken_unmoved rfl]
    exact iff_of_true rfl hq.symm
  | stopped db' horders hwhy =>
    rw [taken_unmoved horders]
    exact iff_of_true rfl hq.symm
  | moved db' v hprice horders husers hv res hres =>
    exact closeFaulty_truthful horders hrow hres hq hdelete hpaid

theorem tradeFaulty_truthful (h : TradeFaulty f db ord refused found taker maker res)
    (hh : Honest f db ord refused found) : res.1 = -1 ↔ taken db res.2 ≠ ord.quantity := by
  obtain ⟨hq, hh⟩ := hh
  cases h with
  | unchanged hwhy =>
    rw [taken_unmoved rfl]
    exact iff_of_true rfl hq.symm
  | unmatched u hu hr huser hnone res hres =>
    obtain ⟨hc, hn, hi⟩ := (hh huser u hu hr).1 hnone.1 (searched_of_unmatched hnone.1 hnone.2)
    obtain ⟨hres, htaken⟩ := insertFaulty_truthful hres hc hn ⟨u, hu, hi⟩
    exact iff_of_false hres (not_not.mpr htaken)
  | matched u m n hu hr huser hm hread hrow res hres =>
    obtain ⟨hdelete, hpaid⟩ := (hh huser u hu hr).2 (m, n) (searched_of_matches hm hrow) hread
    exact settleFaulty_truthful hrow hres hq hdelete hpaid

theorem settleFaulty_unhindered {tk : User} {mk : User → User}
    (hrow : db.order m.orderID = some m) (h : SettleFaulty f db n ord m tk mk res)
    (hq : ord.quantity = 0) (hm : 0 ≤ m.quantity) (hc : ∀ j, n ≤ j → j < n + 43 → f j = none)
    (hu : db.user ord.userID ≠ none) (hn : CDouble.isNaN ord.unitPrice = false)
    (hv : db.user m.userID ≠ none) (hmn : CDouble.isNaN m.unitPrice = false) :
    res.1 = 0 ∧ taken db res.2 = 0 := by
  have hclear {i k : Nat} (hi : n ≤ i) (hk : i + k ≤ n + 43) : Clear f i k :=
    fun j hj => hc (i + j) (by omega) (by omega)
  have hnan {o : Order D} (ho : CDouble.isNaN o.unitPrice = false) :
      ¬ CDouble.isNaN o.unitPrice = true := by
    rw [ho]
    decide
  cases h with
  | unarchived hwhy =>
    rcases hwhy with hwhy | hwhy | hwhy
    · exact absurd (hclear le_rfl (by omega)) hwhy
    · exact absurd hwhy (hnan hmn)
    · exact absurd hwhy hv
  | stopped db' horders hwhy =>
    rcases hwhy with hwhy | hwhy | hwhy
    · exact absurd (hclear (by omega) (by omega)) hwhy
    · exact absurd hwhy (hnan hn)
    · exact absurd hwhy hu
  | moved db' v hprice horders husers hfound res hres =>
    have howner : db'.user m.userID ≠ none := by
      rw [← Option.isSome_iff_ne_none, Database.user, husers]
      exact (Database.user_isSome_setBalance _ _ _).trans
        ((Database.user_isSome_setBalance db _ _).trans (Option.isSome_iff_ne_none.mpr hv))
    have ht : transactionQuantity ord m = 0 := by
      rcases transactionQuantity_cases ord m with ⟨hlt, ht⟩ | ⟨hle, ht⟩ <;> omega
    obtain ⟨htraded, hrested⟩ := taken_close (t := transactionQuantity ord m) horders hrow
    cases hres with
    | stopped hwhy =>
      rcases hwhy with hwhy | hwhy | hwhy
      · exact absurd (hclear (by omega) (by omega)) hwhy
      · exact absurd hwhy (hnan hmn)
      · exact absurd hwhy howner
    | undeleted _ hb res => exact absurd (hc (n + 35 + 1) (by omega) (by omega)) hb
    | closed hle =>
      refine ⟨rfl, ?_⟩
      rw [taken, htraded, hrested, ht, add_zero]
    | inserted hpos res hres =>
      have hpos' : 0 < ord.quantity - transactionQuantity ord m := hpos
      omega

theorem tradeFaulty_unhindered (h : TradeFaulty f db ord refused found taker maker res)
    (hh : Unhindered f db ord refused found)
    (hn : ∀ m ∈ found, CDouble.isNaN ord.unitPrice = false) :
    res.1 ≠ -1 ∧ taken db res.2 = ord.quantity := by
  obtain ⟨hq, hc, hu, hr, hfound⟩ := hh
  rw [hq]
  cases h with
  | unchanged hwhy =>
    rcases hwhy with hwhy | hwhy | ⟨u, hu', hwhy⟩
    · exact absurd (fun j hj => hc j (by omega)) hwhy
    · exact absurd hwhy hu
    · rw [hr u hu'] at hwhy
      cases hwhy
  | unmatched u hu hr huser hnone res hres =>
    have hplaced : taken db (db.place ord) = 0 := by
      rw [taken_placed ord rfl, taken_unmoved rfl, zero_add, hq]
    cases hres with
    | failed code hcode => exact ⟨by simp only; omega, taken_unmoved rfl⟩
    | unpaid v code hcode => exact ⟨by simp only; omega, hplaced⟩
    | rested v => exact ⟨by simp [SQLITE_OK], hplaced⟩
  | matched u m n hu' hr huser hm hread hrow res hres =>
    cases hm with
    | queried hm hclear =>
      obtain ⟨hpos, hv, hmn⟩ := hfound m hm
      obtain ⟨hzero, htaken⟩ := settleFaulty_unhindered hrow hres hq hpos
        (fun j _ hj => by have := hc j (by omega); rwa [zero_add] at this) hu (hn m hm) hv hmn
      exact ⟨by omega, htaken⟩
    | misread h3 =>
      have hnone := hc 3 (by omega)
      rw [zero_add, h3] at hnone
      cases hnone

end Truth

end Marketplace
