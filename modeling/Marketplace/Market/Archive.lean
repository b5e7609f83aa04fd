import Marketplace.Market.Conservation
import Marketplace.Market.Crossing
import Marketplace.Market.Effects

namespace Marketplace
open CallTree KeyedTable Runs

variable {D : Type} [CDouble D]

def Order.quantityFor (userID item side : Int) (r : Order D) : Int :=
  if r.userID = userID ∧ r.item = item ∧ r.buyOrSell = side then r.quantity else 0

def Order.quantityOn (item side : Int) (r : Order D) : Int :=
  if r.item = item ∧ r.buyOrSell = side then r.quantity else 0

def archivedFor (userID item side : Int) (db : Database D) : Int :=
  db.archives.total (Order.quantityFor userID item side)

def archivedOn (item side : Int) (db : Database D) : Int :=
  db.archives.total (Order.quantityOn item side)

def tradedFor (S : CreatedAtSort D) (userID item side : Int) (op : Op D) (db : Database D) : Int :=
  match settles S op db with
  | none => 0
  | some (ord, m) =>
    if m.item = item then
      (if side = BUY ∧ buyerID op ord m = userID then transactionQuantity ord m else 0) +
        (if side = SELL ∧ sellerID op ord m = userID then transactionQuantity ord m else 0)
    else 0

def leftFor (S : CreatedAtSort D) (userID item side : Int) (op : Op D) (db : Database D) : Int :=
  match settles S op db with
  | none => 0
  | some (ord, m) =>
    (ord.reduce (transactionQuantity ord m)).quantityFor userID item side +
      (m.reduce (transactionQuantity ord m)).quantityFor userID item side

def TakesBothWhole (S : CreatedAtSort D) (op : Op D) (db : Database D) : Prop :=
  ∀ p ∈ settles S op db, p.1.quantity = p.2.quantity

def ArchiveFaithful (S : CreatedAtSort D) (ops : List (Op D)) : Prop :=
  (∀ userID item side, archivedFor userID item side (final (apply S) ops Database.empty) =
    summed (apply S) (tradedFor S userID item side) ops Database.empty) ∧
  ∀ item, archivedOn item BUY (final (apply S) ops Database.empty) =
    archivedOn item SELL (final (apply S) ops Database.empty)

instance (S : CreatedAtSort D) (op : Op D) (db : Database D) : Decidable (TakesBothWhole S op db) :=
  inferInstanceAs (Decidable (∀ p ∈ settles S op db, p.1.quantity = p.2.quantity))

section Rows

variable {db : Database D} {ord m : Order D} {taker maker : User} {userID item side : Int}

omit [CDouble D] in
theorem archives_fill (db : Database D) (ord m : Order D) (taker maker : User) :
    (db.fill ord m taker maker).archives = ((db.archive m).archive (ord.stamp db)).archives := by
  unfold Database.fill
  split <;> rfl

omit [CDouble D] in
theorem total_archive (db : Database D) (r : Order D) (f : Order D → Int) :
    (db.archive r).archives.total f =
      db.archives.total f + f { r with orderID := db.archives.seq + 1 } :=
  Table.total_insert _ f

omit [CDouble D] in
theorem total_archives_fill {f : Order D → Int}
    (hid : ∀ (r : Order D) id, f { r with orderID := id } = f r)
    (hstamp : f (ord.stamp db) = f ord) :
    (db.fill ord m taker maker).archives.total f = db.archives.total f + f m + f ord := by
  rw [archives_fill, total_archive, total_archive, hid m, hid (ord.stamp db), hstamp]

omit [CDouble D] in
theorem archivedFor_fill : archivedFor userID item side (db.fill ord m taker maker) =
    archivedFor userID item side db + m.quantityFor userID item side +
      ord.quantityFor userID item side :=
  total_archives_fill (fun _ _ => rfl) rfl

omit [CDouble D] in
theorem archivedOn_fill : archivedOn item side (db.fill ord m taker maker) =
    archivedOn item side db + m.quantityOn item side + ord.quantityOn item side :=
  total_archives_fill (fun _ _ => rfl) rfl

omit [CDouble D] in
theorem quantityFor_nonneg {r : Order D} (h : 0 ≤ r.quantity) :
    0 ≤ r.quantityFor userID item side := by
  unfold Order.quantityFor
  split
  · exact h
  · exact le_refl 0

theorem leftFor_nonneg (S : CreatedAtSort D) (op : Op D) (db : Database D) :
    0 ≤ leftFor S userID item side op db := by
  unfold leftFor
  split
  · exact le_refl 0
  · next ord m hs =>
    have htaker := transactionQuantity_le_taker ord m
    have hmaker := transactionQuantity_le_maker ord m
    refine add_nonneg (quantityFor_nonneg ?_) (quantityFor_nonneg ?_)
    · simpa using htaker
    · simpa using hmaker

end Rows

section Step

variable {S : CreatedAtSort D} {op : Op D} {db : Database D} {ord m : Order D}
  {u v taker maker : User} {userID item side : Int}

theorem sides_opposite (hop : op.Sided) (h : Settlement db ord m u v op taker maker) :
    (ord.buyOrSell = BUY ∧ m.buyOrSell = SELL ∧ op = .buy ord) ∨
      (ord.buyOrSell = SELL ∧ m.buyOrSell = BUY ∧ op = .sell ord) := by
  cases h with
  | buy hf hm => exact .inl ⟨hop.1, (answersSell_iff.mp hm).2.1, rfl⟩
  | sell hf hm => exact .inr ⟨hop.1, (answersBuy_iff.mp hm).2.1, rfl⟩

theorem quantityFor_split (hop : op.Sided) (hs : settles S op db = some (ord, m))
    (h : Settlement db ord m u v op taker maker) :
    m.quantityFor userID item side + ord.quantityFor userID item side =
      tradedFor S userID item side op db + leftFor S userID item side op db := by
  have hitem := h.item
  rcases sides_opposite hop h with ⟨hord, hm, rfl⟩ | ⟨hord, hm, rfl⟩ <;>
  · simp only [tradedFor, leftFor, hs, Order.quantityFor, hord, hm, hitem, buyerID, sellerID,
      userID_reduce, item_reduce, buyOrSell_reduce, quantity_reduce, BUY, SELL]
    grind

theorem archivedFor_apply (hop : op.Sided) :
    archivedFor userID item side (apply S op db) = archivedFor userID item side db +
      (tradedFor S userID item side op db + leftFor S userID item side op db) := by
  have heff := apply_effect S op db
  have hzero (hs : settles S op db = none) : archivedFor userID item side db =
      archivedFor userID item side db +
        (tradedFor S userID item side op db + leftFor S userID item side op db) := by
    simp [tradedFor, leftFor, hs]
  generalize apply S op db = db' at heff
  cases heff with
  | unchanged hs => exact hzero hs
  | registered newUser hop =>
    subst hop
    exact hzero rfl
  | elapsed seconds hop =>
    subst hop
    exact hzero rfl
  | posted ord u hs _ hu hi hn => exact hzero hs
  | filled ord m u v taker maker hs h =>
    rw [archivedFor_fill, add_assoc, quantityFor_split hop hs h]
  | filledAndPosted ord m u v taker maker hs h hq hi =>
    rw [← quantityFor_split hop hs h, ← add_assoc]
    exact archivedFor_fill
  | cancelled orderID currentUserID r u hop hr hown hu =>
    subst hop
    exact hzero rfl

theorem leftFor_zero_iff : (∀ k : Int × Int × Int, leftFor S k.1 k.2.1 k.2.2 op db = 0) ↔
    TakesBothWhole S op db := by
  unfold TakesBothWhole leftFor
  cases hs : settles S op db with
  | none => simp
  | some p =>
    obtain ⟨ord, m⟩ := p
    have htaker := transactionQuantity_le_taker ord m
    have hmaker := transactionQuantity_le_maker ord m
    constructor
    · intro h p hp
      cases hp
      have hord := h (ord.userID, ord.item, ord.buyOrSell)
      have hm := h (m.userID, m.item, m.buyOrSell)
      simp only [Order.quantityFor, userID_reduce, item_reduce, buyOrSell_reduce, quantity_reduce,
        and_self, if_true] at hord hm ⊢
      split_ifs at hord hm <;> omega
    · intro h k
      have heq : ord.quantity = m.quantity := h _ rfl
      have hfill : transactionQuantity ord m = m.quantity := by
        unfold transactionQuantity
        split <;> omega
      simp [Order.quantityFor, hfill, heq]

theorem archivedOn_apply (hop : op.Sided) (hw : TakesBothWhole S op db)
    (h : archivedOn item BUY db = archivedOn item SELL db) :
    archivedOn item BUY (apply S op db) = archivedOn item SELL (apply S op db) := by
  have heff := apply_effect S op db
  have hfilled {ord m : Order D} {u v taker maker : User} (hs : settles S op db = some (ord, m))
      (hset : Settlement db ord m u v op taker maker) :
      archivedOn item BUY (db.fill ord m taker maker) =
        archivedOn item SELL (db.fill ord m taker maker) := by
    have hq : ord.quantity = m.quantity := hw (ord, m) hs
    have hitem := hset.item
    rw [archivedOn_fill, archivedOn_fill, h]
    rcases sides_opposite hop hset with ⟨hord, hm, -⟩ | ⟨hord, hm, -⟩ <;>
      simp [Order.quantityOn, hord, hm, hq, hitem, BUY, SELL]
  generalize apply S op db = db' at heff
  cases heff with
  | filled ord m u v taker maker hs hset => exact hfilled hs hset
  | filledAndPosted ord m u v taker maker hs hset hq hi => exact hfilled hs hset
  | _ => exact h

end Step

theorem archive_faithful_iff (S : CreatedAtSort D) (ops : List (Op D)) (h : ∀ op ∈ ops, op.Sided) :
    ArchiveFaithful S ops ↔ Along (apply S) (TakesBothWhole S) ops Database.empty := by
  have hsided : Along (apply S) (fun op _ => op.Sided) ops Database.empty :=
    along_of_forall (fun op hop _ => h op hop) _
  have hledger (userID item side : Int) :
      archivedFor userID item side (final (apply S) ops Database.empty) =
        summed (apply S) (tradedFor S userID item side) ops Database.empty +
          summed (apply S) (leftFor S userID item side) ops Database.empty := by
    have hrun := measure_final (μ := archivedFor userID item side) (I := fun _ => True)
      (fun _ _ _ _ => trivial) (fun op db hop _ => archivedFor_apply (S := S) hop) hsided trivial
    have hempty : archivedFor userID item side (Database.empty : Database D) = 0 := rfl
    rw [hrun, hempty, zero_add, summed_add]
  have hwhole : Along (apply S) (TakesBothWhole S) ops Database.empty ↔
      ∀ k : Int × Int × Int, summed (apply S) (leftFor S k.1 k.2.1 k.2.2) ops Database.empty = 0 := by
    simp only [summed_eq_zero_iff (leftFor_nonneg S), ← along_forall, leftFor_zero_iff]
  constructor
  · rintro ⟨hfor, -⟩
    rw [hwhole]
    rintro ⟨userID, item, side⟩
    have hsum := hledger userID item side
    rw [hfor] at hsum
    simpa using hsum
  · intro hall
    refine ⟨fun userID item side => ?_, fun item => ?_⟩
    · rw [hledger, hwhole.mp hall (userID, item, side), add_zero]
    · exact invariant_along (I := fun db => archivedOn item BUY db = archivedOn item SELL db)
        (fun op db hop hI => archivedOn_apply hop.1 hop.2 hI) (along_and hsided hall) rfl

def partialFill : List (Op ℚ) :=
  [.register (newUser ['a'] ['p'] ['A']), .register (newUser ['b'] ['p'] ['B']),
    .sell (createOrder COIN_DOGE SELL 10 1 1), .buy (createOrder COIN_DOGE BUY 4 1 2)]

theorem archive_overstates :
    ¬ ∀ (S : CreatedAtSort ℚ) (ops : List (Op ℚ)), (∀ op ∈ ops, op.Sided) → ArchiveFaithful S ops := by
  intro h
  have hsold := (h (.stable ℚ) partialFill (by decide +kernel)).1 1 COIN_DOGE SELL
  revert hsold
  decide +kernel

theorem archive_faithful_fullFill : ArchiveFaithful (.stable ℚ) fullFill :=
  (archive_faithful_iff (.stable ℚ) fullFill (by decide +kernel)).mpr (by decide +kernel)

end Marketplace
