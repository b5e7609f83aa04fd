import Marketplace.Foundation.RoundedSums
import Marketplace.Market.IntResults

namespace Marketplace
open CallTree KeyedTable Truncation Rounding

structure Payable (ord : Order Double) : Prop where
  quantity : 0 ≤ ord.quantity ∧ ord.quantity ≤ INT_MAX
  price : ∃ p : ℚ, 0 ≤ p ∧ ord.unitPrice.value = some p

structure PayableRow (r : Order Double) : Prop extends Payable r where
  side : r.buyOrSell = BUY ∨ (r.buyOrSell = SELL ∧ r.item ≠ COIN_OMG)
  cost : r.buyOrSell = BUY → ∃ x : ℚ, r.total.value = some x ∧ x ≤ INT_MAX

def held (c : Coin) (u : User) : Int :=
  max (u.balance c) 0

def owed (c : Coin) (u : User) : Int :=
  max (-u.balance c) 0

def withheldOf (id : Int) (c : Coin) (r : Order Double) : Int :=
  if r.userID = id then withheld c r else 0

-- a fill takes from its maker a second time what insert_order withheld, so balances can be negative:
-- what a user can still lose is bounded beside what all users hold
structure WithinInt (db : Database Double) : Prop where
  rows : ∀ r ∈ db.orders.rows, PayableRow r
  granted : ∀ c, db.users.total (held c) + db.orders.total (withheld c) ≤
    db.users.rows.length * c.grant
  owed : ∀ u ∈ db.users.rows, ∀ c, owed c u + db.orders.total (withheldOf u.userID c) ≤ INT_MAX
  users : db.users.rows.length * DEFAULT_OMG ≤ INT_MAX

structure Headroom (u v : User) (m : Order Double) : Prop where
  held : ∀ c, held c u + held c v + withheld c m ≤ INT_MAX
  maker : ∀ c, owed c v + withheld c m ≤ INT_MAX
  taker : ∀ c, owed c u ≤ INT_MAX

structure FillBounds (u v taker maker : User) (m m' : Order Double) : Prop where
  held : ∀ c, held c taker + held c maker + withheld c m' ≤ held c u + held c v + withheld c m
  maker : ∀ c, owed c maker + withheld c m' ≤ owed c v + withheld c m
  taker : ∀ c, owed c taker ≤ owed c u

def credited (z : Int) (x : ℚ) : Int :=
  trunc (binary64.round (z + x))

def debited (z : Int) (x : ℚ) : Int :=
  trunc (binary64.round (z - x))

-- a sum that rounds up to the next whole coin makes one; a sell can lose none that way while the
-- owner of the matched order can pay its cost a second time
def SellClear (u v : User) (ord m : Order Double) : Prop :=
  ∀ x ∈ (transactionCost ord m).value, x ≤ v.OMG ∨
    (0 < (u.addItem ord.item (-transactionQuantity ord m)).OMG →
      binary64.Clear ((u.addItem ord.item (-transactionQuantity ord m)).OMG + x)) ∧
    (v.OMG < 0 → binary64.Clear (v.OMG - x)) ∧
    trunc x + withheld .omg (m.reduce (transactionQuantity ord m)) ≤ withheld .omg m

def RefundClear (u : User) (r : Order Double) : Prop :=
  r.buyOrSell = BUY → ∀ x ∈ r.total.value, 0 < u.OMG → binary64.Clear (u.OMG + x)

variable {db : Database Double} {ord m r : Order Double} {u v taker maker : User} {c : Coin}

section Orders

variable {p x : ℚ}

theorem value_ofInt {n : Int} (h : Int32 n) : (Double.ofRat (n : ℚ)).value = some (n : ℚ) := by
  obtain ⟨hlow, hhigh⟩ := h
  refine Double.value_ofInt (abs_lt.mpr ⟨?_, ?_⟩)
  · exact lt_of_lt_of_le (by decide) hlow
  · exact lt_of_le_of_lt hhigh (by decide)

theorem int32_of_nonneg {n : Int} (h : 0 ≤ n ∧ n ≤ INT_MAX) : Int32 n := by
  refine ⟨?_, h.2⟩
  unfold INT_MIN
  omega

theorem trunc_int32 (hx : 0 ≤ x) (hmax : x ≤ INT_MAX) : Int32 (trunc x) :=
  int32_of_nonneg ⟨trunc_nonneg hx, trunc_le_int hmax⟩

theorem total_eq (hq : Int32 ord.quantity) (hp : ord.unitPrice.value = some p) :
    ord.total = Double.ofRat (ord.quantity * p) :=
  Double.mul_of_value (value_ofInt hq) hp

theorem transactionCost_eq_ofRat (ht : Int32 (transactionQuantity ord m))
    (hp : m.unitPrice.value = some p) :
    transactionCost ord m = Double.ofRat (transactionQuantity ord m * p) :=
  Double.mul_of_value (value_ofInt ht) hp

theorem PayableRow.total_value (h : PayableRow r) (hb : r.buyOrSell = BUY) :
    ∃ x : ℚ, 0 ≤ x ∧ x ≤ INT_MAX ∧ r.total.value = some x := by
  obtain ⟨p, hp, hprice⟩ := h.price
  obtain ⟨x, hx, hmax⟩ := h.cost hb
  rw [total_eq (int32_of_nonneg h.quantity) hprice] at hx
  obtain ⟨hround, -⟩ := Double.ofRat_value hx
  have hq : (0 : ℚ) ≤ r.quantity := by exact_mod_cast h.quantity.1
  refine ⟨x, hround ▸ Format.round_nonneg (mul_nonneg hq hp), hmax, ?_⟩
  rw [total_eq (int32_of_nonneg h.quantity) hprice, hx]

theorem withheld_of_value (hb : r.buyOrSell = BUY) (hx : 0 ≤ x) (hmax : x ≤ INT_MAX)
    (hvalue : r.total.value = some x) (c : Coin) :
    withheld c r = if c = .omg then trunc x else 0 := by
  rw [withheld_buy hb, Double.toInt_eq, Double.toInt_of_value hvalue (trunc_int32 hx hmax)]

theorem PayableRow.withheld_nonneg (h : PayableRow r) (c : Coin) : 0 ≤ withheld c r := by
  rcases h.side with hb | ⟨hs, -⟩
  · obtain ⟨x, hx, hmax, hvalue⟩ := h.total_value hb
    rw [withheld_of_value hb hx hmax hvalue]
    split
    · exact trunc_nonneg hx
    · exact le_rfl
  · rw [withheld_sell hs]
    split
    · exact h.quantity.1
    · exact le_rfl

theorem payableRow_of_accepted (h : Payable ord) (hi : insufficientBalance u ord = false)
    (hside : ord.buyOrSell = BUY ∨ ord.buyOrSell = SELL)
    (hcost : ord.buyOrSell = BUY → ∃ x : ℚ, ord.total.value = some x ∧ x ≤ INT_MAX) :
    PayableRow ord := by
  refine ⟨h, hside.imp_right (fun hs => ⟨hs, ?_⟩), hcost⟩
  rcases insufficientBalance_sell hs hi with ⟨hc, -⟩ | ⟨hc, -⟩ | ⟨hc, -⟩ <;> rw [hc] <;> decide

theorem transactionQuantity_nonneg (ho : Payable ord) (hm : Payable m) :
    0 ≤ transactionQuantity ord m := by
  have hq := ho.quantity.1
  have hmq := hm.quantity.1
  unfold transactionQuantity
  split <;> assumption

theorem transactionQuantity_int32 (ho : Payable ord) (hm : Payable m) :
    Int32 (transactionQuantity ord m) :=
  int32_of_nonneg ⟨transactionQuantity_nonneg ho hm,
    (transactionQuantity_le_taker ord m).trans ho.quantity.2⟩

-- a smaller quantity of the same order costs no more, as doubles do
theorem total_value_mono {ord' : Order Double} (hq : 0 ≤ ord'.quantity)
    (hle : ord'.quantity ≤ ord.quantity) (ho : Payable ord)
    (hprice : ord'.unitPrice = ord.unitPrice) (hx : ord.total.value = some x) :
    ∃ x', 0 ≤ x' ∧ x' ≤ x ∧ ord'.total.value = some x' := by
  obtain ⟨p, hp, hvalue⟩ := ho.price
  obtain ⟨-, hmax⟩ := ho.quantity
  have hint : Int32 ord'.quantity := int32_of_nonneg ⟨hq, hle.trans hmax⟩
  rw [total_eq (int32_of_nonneg ho.quantity) hvalue] at hx
  rw [total_eq hint (hprice ▸ hvalue)]
  obtain ⟨hround, -⟩ := Double.ofRat_value hx
  have hq' : (0 : ℚ) ≤ ord'.quantity := by exact_mod_cast hq
  have hle' : (ord'.quantity : ℚ) * p ≤ ord.quantity * p :=
    mul_le_mul_of_nonneg_right (by exact_mod_cast hle) hp
  have hnonneg := mul_nonneg hq' hp
  refine ⟨_, Format.round_nonneg hnonneg, hround ▸ Format.round_mono hle',
    Double.value_ofRat_mono hnonneg hle' (hround ▸ hx)⟩

theorem PayableRow.reduce (h : PayableRow m) (ho : Payable ord) :
    PayableRow (m.reduce (transactionQuantity ord m)) := by
  have hnonneg := transactionQuantity_nonneg ho h.toPayable
  have hle := transactionQuantity_le_maker ord m
  obtain ⟨-, hmax⟩ := h.quantity
  have hrest : 0 ≤ (m.reduce (transactionQuantity ord m)).quantity := by
    rw [quantity_reduce]
    omega
  have hless : (m.reduce (transactionQuantity ord m)).quantity ≤ m.quantity := by
    rw [quantity_reduce]
    omega
  refine ⟨⟨⟨hrest, hless.trans hmax⟩, h.price⟩, h.side, fun hb => ?_⟩
  obtain ⟨x, -, hxmax, hvalue⟩ := h.total_value hb
  obtain ⟨x', -, hx', hvalue'⟩ := total_value_mono hrest hless h.toPayable rfl hvalue
  exact ⟨x', hvalue', hx'.trans hxmax⟩

theorem Payable.remainder (ho : Payable ord) (hm : Payable m) :
    Payable (remainder db ord m) := by
  have hnonneg := transactionQuantity_nonneg ho hm
  have hle := transactionQuantity_le_taker ord m
  obtain ⟨-, hmax⟩ := ho.quantity
  have hq : (Marketplace.remainder db ord m).quantity = ord.quantity - transactionQuantity ord m := rfl
  refine ⟨?_, ho.price⟩
  rw [hq]
  constructor <;> omega

theorem withheld_exhausted_row (h : PayableRow m) (hq : m.quantity - transactionQuantity ord m = 0)
    (c : Coin) : withheld c (m.reduce (transactionQuantity ord m)) = 0 := by
  obtain ⟨p, -, hp⟩ := h.price
  have hzero : Int32 (m.reduce (transactionQuantity ord m)).quantity := by
    rw [quantity_reduce, hq]
    decide
  have htotal : (m.reduce (transactionQuantity ord m)).total = Double.ofRat 0 := by
    rw [total_eq hzero hp, quantity_reduce, hq, Int.cast_zero, zero_mul]
  have htoInt : (Double.ofRat 0).toInt = 0 := by decide +kernel
  simp [withheld, htotal, hq, htoInt]

end Orders

section Totals

theorem held_nonneg (c : Coin) (u : User) : 0 ≤ held c u :=
  le_max_right _ _

theorem owed_anti {w : User} (h : u.balance c ≤ w.balance c) : owed c w ≤ owed c u :=
  max_le_max_right 0 (neg_le_neg h)

theorem fitsInt_of (hheld : ∀ c, held c u ≤ INT_MAX) (howed : ∀ c, owed c u ≤ INT_MAX) : u.FitsInt := by
  intro c
  have h1 := hheld c
  have h2 := howed c
  simp only [held, owed] at h1 h2
  unfold Int32 INT_MIN
  unfold INT_MAX at *
  constructor <;> omega

theorem withheldOf_nonneg (h : PayableRow r) (id : Int) (c : Coin) : 0 ≤ withheldOf id c r := by
  unfold withheldOf
  split
  · exact h.withheld_nonneg c
  · exact le_rfl

theorem withheldOf_le (h : PayableRow r) (id : Int) (c : Coin) : withheldOf id c r ≤ withheld c r := by
  unfold withheldOf
  split
  · exact le_rfl
  · exact h.withheld_nonneg c

theorem grant_le (c : Coin) : c.grant ≤ DEFAULT_OMG := by
  cases c <;> decide

namespace WithinInt

variable (h : WithinInt db)
include h

theorem total_le (c : Coin) : db.users.total (held c) + db.orders.total (withheld c) ≤ INT_MAX := by
  have hgrant : (db.users.rows.length : Int) * c.grant ≤ db.users.rows.length * DEFAULT_OMG :=
    mul_le_mul_of_nonneg_left (grant_le c) (by omega)
  have hgranted := h.granted c
  have husers := h.users
  omega

theorem withheldOf_total_le (id : Int) (c : Coin) :
    db.orders.total (withheldOf id c) ≤ db.orders.total (withheld c) :=
  Table.total_le_total (fun r hr => withheldOf_le (h.rows r hr) id c)

theorem withheld_total_nonneg (c : Coin) : 0 ≤ db.orders.total (withheld c) :=
  Table.total_nonneg (fun r hr => (h.rows r hr).withheld_nonneg c)

theorem held_le (hu : u ∈ db.users.rows) (c : Coin) :
    held c u + db.orders.total (withheld c) ≤ INT_MAX := by
  have htotal := h.total_le c
  have hheld : held c u ≤ db.users.total (held c) := Table.le_total (fun u _ => held_nonneg c u) hu
  omega

theorem owed_le (hu : u ∈ db.users.rows) (c : Coin) : Marketplace.owed c u ≤ INT_MAX := by
  have howed := h.owed u hu c
  have hown : 0 ≤ db.orders.total (withheldOf u.userID c) :=
    Table.total_nonneg (fun r hr => withheldOf_nonneg (h.rows r hr) _ c)
  omega

theorem fits (hu : u ∈ db.users.rows) : u.FitsInt := by
  refine fitsInt_of (fun c => ?_) (h.owed_le hu)
  have hheld := h.held_le hu c
  have hwithheld := h.withheld_total_nonneg c
  omega

theorem headroom (hu : db.user ord.userID = some u) (hm : m ∈ db.orders.rows)
    (hv : db.user m.userID = some v) (hne : m.userID ≠ ord.userID) : Headroom u v m := by
  have huid := Database.user_userID hu
  have hvid := Database.user_userID hv
  have hwithheld (c : Coin) : withheld c m ≤ db.orders.total (withheld c) :=
    Table.le_total (fun r hr => (h.rows r hr).withheld_nonneg c) hm
  refine ⟨fun c => ?_, fun c => ?_, h.owed_le (Database.user_mem hu)⟩
  · have htotal := h.total_le c
    have hrow := hwithheld c
    have hheld : held c u + held c v ≤ db.users.total (held c) :=
      Table.add_le_total (fun u _ => held_nonneg c u) (Database.user_mem hu) (Database.user_mem hv)
        (by rw [huid, hvid]; exact hne)
    omega
  · have howed := h.owed v (Database.user_mem hv) c
    have hown : withheldOf v.userID c m ≤ db.orders.total (withheldOf v.userID c) :=
      Table.le_total (fun r hr => withheldOf_nonneg (h.rows r hr) _ c) hm
    rw [withheldOf, if_pos hvid.symm] at hown
    omega

end WithinInt

end Totals

end Marketplace
