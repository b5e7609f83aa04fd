import Marketplace.Market.Priority

namespace Marketplace
open CallTree KeyedTable

-- ORDER BY unitPrice says nothing about equal prices.
structure PriceSort (before : ℚ → ℚ → Prop) where
  sort : List (Order ℚ) → List (Order ℚ)
  perm : ∀ rows, (sort rows).Perm rows
  sorted : ∀ rows, (sort rows).Pairwise (fun a b => before a.unitPrice b.unitPrice)

def PriceSort.stable (before : ℚ → ℚ → Prop) [DecidableRel before] [Std.Total before]
    [IsTrans ℚ before] : PriceSort before where
  sort := List.insertionSort (fun a b => before a.unitPrice b.unitPrice)
  perm rows := List.perm_insertionSort _ rows
  sorted rows := by
    have : Std.Total (fun a b : Order ℚ => before a.unitPrice b.unitPrice) :=
      ⟨fun a b => Std.Total.total a.unitPrice b.unitPrice⟩
    have : IsTrans (Order ℚ) (fun a b => before a.unitPrice b.unitPrice) :=
      ⟨fun _ _ _ hab hbc => IsTrans.trans _ _ _ hab hbc⟩
    exact List.pairwise_insertionSort _ rows

def itemOrders (db : Database ℚ) (item buyOrSell : Int) : List (Order ℚ) :=
  db.orders.rows.filter (fun r => r.item = item ∧ r.buyOrSell = buyOrSell)

def viewBuyOrders (desc : PriceSort (· ≥ ·)) (item : Int) (db : Database ℚ) : List (Order ℚ) :=
  (desc.sort (itemOrders db item BUY)).take 5

def viewSellOrders (asc : PriceSort (· ≤ ·)) (item : Int) (db : Database ℚ) : List (Order ℚ) :=
  (asc.sort (itemOrders db item SELL)).take 5

structure TopOfBook (before : ℚ → ℚ → Prop) (rows shown : List (Order ℚ)) : Prop where
  resting : ∀ q ∈ shown, q ∈ rows
  limited : shown.length ≤ 5
  best : ∀ r ∈ rows, r ∈ shown ∨ shown.length = 5 ∧ ∀ q ∈ shown, before q.unitPrice r.unitPrice
  top : ∀ q ∈ shown.head?, ∀ r ∈ rows, r = q ∨ before q.unitPrice r.unitPrice

structure Foretells (S : CreatedAtSort ℚ) (before : ℚ → ℚ → Prop) (op : Op ℚ) (ord : Order ℚ)
    (shown : List (Order ℚ)) (db : Database ℚ) : Prop where
  reached : ∀ m ∈ matched S op db, ∃ q ∈ shown.head?,
    before q.unitPrice m.unitPrice ∧ before m.unitPrice ord.unitPrice
  promised : op.funded db = true →
    (∃ q ∈ shown, q.userID ≠ ord.userID ∧ before q.unitPrice ord.unitPrice) →
      (matched S op db).isSome

section Quotes

variable {before : ℚ → ℚ → Prop} {rows : List (Order ℚ)}

theorem topOfBook_take (T : PriceSort before) (rows : List (Order ℚ)) :
    TopOfBook before rows ((T.sort rows).take 5) := by
  have hsorted := T.sorted rows
  have hmem {r : Order ℚ} : r ∈ T.sort rows ↔ r ∈ rows := (T.perm rows).mem_iff
  refine ⟨fun q hq => hmem.mp (List.mem_of_mem_take hq), List.length_take_le _ _, ?_, ?_⟩
  · intro r hr
    rw [← List.take_append_drop 5 (T.sort rows)] at hsorted
    have hsplit : r ∈ (T.sort rows).take 5 ++ (T.sort rows).drop 5 := by
      rw [List.take_append_drop]
      exact hmem.mpr hr
    rcases List.mem_append.mp hsplit with hshown | hhidden
    · exact .inl hshown
    · refine .inr ⟨?_, fun q hq => (List.pairwise_append.mp hsorted).2.2 q hq r hhidden⟩
      have hlong := List.length_pos_of_mem hhidden
      rw [List.length_drop] at hlong
      rw [List.length_take]
      omega
  · intro q hq r hr
    have hr' := hmem.mpr hr
    cases hrows : T.sort rows with
    | nil =>
      rw [hrows] at hr'
      cases hr'
    | cons q' rest =>
      rw [hrows] at hq hr' hsorted
      cases hq
      rcases List.mem_cons.mp hr' with rfl | hrest
      · exact .inl rfl
      · exact .inr ((List.pairwise_cons.mp hsorted).1 r hrest)

theorem TopOfBook.exists_top {shown : List (Order ℚ)} (h : TopOfBook before rows shown)
    {r : Order ℚ} (hr : r ∈ rows) : ∃ q, shown.head? = some q := by
  cases shown with
  | nil =>
    rcases h.best r hr with hshown | ⟨hlength, -⟩
    · cases hshown
    · cases hlength
  | cons q shown => exact ⟨q, rfl⟩

-- What the book offers to an operation is the other side's rows within its price, less its own.
structure Offers (before : ℚ → ℚ → Prop) (op : Op ℚ) (ord : Order ℚ) (db : Database ℚ)
    (rows : List (Order ℚ)) : Prop where
  refl : ∀ p, before p p
  book : ∀ r ∈ rows, r ∈ db.orders.rows
  eligible : ∀ r ∈ db.orders.rows, op.eligible r = true ↔
    r ∈ rows ∧ before r.unitPrice ord.unitPrice ∧ r.userID ≠ ord.userID

theorem foretells_of_offers (S : CreatedAtSort ℚ) {op : Op ℚ} {ord : Order ℚ} {db : Database ℚ}
    {shown : List (Order ℚ)} (hoffers : Offers before op ord db rows)
    (hshown : TopOfBook before rows shown) : Foretells S before op ord shown db := by
  constructor
  · intro m hm
    rw [matched_eq] at hm
    split at hm
    · have hin := mem_of_head_sort hm
      obtain ⟨hbook, helig⟩ := List.mem_filter.mp hin
      obtain ⟨hrow, hprice, -⟩ := (hoffers.eligible m hbook).mp helig
      obtain ⟨q, hq⟩ := hshown.exists_top hrow
      refine ⟨q, hq, ?_, hprice⟩
      rcases hshown.top q hq m hrow with rfl | hbefore
      · exact hoffers.refl _
      · exact hbefore
    · cases hm
  · rintro hfunded ⟨q, hq, hother, hprice⟩
    have hrow := hshown.resting q hq
    have hbook := hoffers.book q hrow
    have helig := (hoffers.eligible q hbook).mpr ⟨hrow, hprice, hother⟩
    have hsort : q ∈ S.sort (db.orders.rows.filter op.eligible) :=
      (S.perm _).mem_iff.mpr (List.mem_filter.mpr ⟨hbook, helig⟩)
    rw [matched_eq, if_pos hfunded, Option.isSome_iff_ne_none]
    exact fun hnone => List.ne_nil_of_mem hsort (List.head?_eq_none_iff.mp hnone)

end Quotes

section Sides

variable (db : Database ℚ) (ord : Order ℚ)

theorem mem_itemOrders {item buyOrSell : Int} {r : Order ℚ} : r ∈ itemOrders db item buyOrSell ↔
    r ∈ db.orders.rows ∧ r.item = item ∧ r.buyOrSell = buyOrSell := by
  rw [itemOrders, List.mem_filter, decide_eq_true_iff]

theorem offers_buy :
    Offers (· ≤ ·) (.buy ord) ord db (itemOrders db ord.item SELL) where
  refl := le_refl
  book r hr := ((mem_itemOrders db).mp hr).1
  eligible r hr := by
    have hanswers : (Op.buy ord).eligible r = true ↔ _ := answersSell_iff (D := ℚ)
    rw [mem_itemOrders]
    refine hanswers.trans ?_
    simp only [CDouble.rat_isNaN, CDouble.rat_le, decide_eq_true_iff, true_and, hr, SELL]
    tauto

theorem offers_sell :
    Offers (· ≥ ·) (.sell ord) ord db (itemOrders db ord.item BUY) where
  refl := le_refl
  book r hr := ((mem_itemOrders db).mp hr).1
  eligible r hr := by
    have hanswers : (Op.sell ord).eligible r = true ↔ _ := answersBuy_iff (D := ℚ)
    rw [mem_itemOrders]
    refine hanswers.trans ?_
    simp only [CDouble.rat_isNaN, CDouble.rat_le, decide_eq_true_iff, true_and, hr, BUY]
    tauto

end Sides

structure ViewFaithful (S : CreatedAtSort ℚ) (asc : PriceSort (· ≤ ·)) (desc : PriceSort (· ≥ ·))
    (ord : Order ℚ) (db : Database ℚ) : Prop where
  sells : TopOfBook (· ≤ ·) (itemOrders db ord.item SELL) (viewSellOrders asc ord.item db)
  buys : TopOfBook (· ≥ ·) (itemOrders db ord.item BUY) (viewBuyOrders desc ord.item db)
  buying : Foretells S (· ≤ ·) (.buy ord) ord (viewSellOrders asc ord.item db) db
  selling : Foretells S (· ≥ ·) (.sell ord) ord (viewBuyOrders desc ord.item db) db

theorem view_foretells (S : CreatedAtSort ℚ) (asc : PriceSort (· ≤ ·)) (desc : PriceSort (· ≥ ·))
    (ord : Order ℚ) (db : Database ℚ) : ViewFaithful S asc desc ord db where
  sells := topOfBook_take asc _
  buys := topOfBook_take desc _
  buying := foretells_of_offers S (offers_buy db ord) (topOfBook_take asc _)
  selling := foretells_of_offers S (offers_sell db ord) (topOfBook_take desc _)

-- The top line decides whether a trade happens, not with whom: the older offer is taken at 3
-- although one at 2 is shown above it.
def dearerFirst : Database ℚ :=
  let seller (name : CString) := { newUser name [] name with DOGE := 50 }
  let registered := ((Database.empty.addUser (seller ['a'])).addUser (seller ['b'])).addUser (seller ['c'])
  ((registered.insertOrderRow COIN_DOGE SELL 1 3 1).elapse 1).insertOrderRow COIN_DOGE SELL 1 2 2

example :
    (matched (.stable ℚ) (.buy (createOrder COIN_DOGE BUY 1 4 3)) dearerFirst).map (·.unitPrice) =
        some 3 ∧
      (viewSellOrders (.stable (· ≤ ·)) COIN_DOGE dearerFirst).head?.map (·.unitPrice) = some 2 := by
  decide +kernel

end Marketplace
