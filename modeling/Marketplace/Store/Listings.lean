import Marketplace.Foundation.Cells
import Marketplace.Store.Queries

namespace Marketplace
open Cells

variable {D : Type}

structure Steps (D : Type) where
  rows : List (Order D)
  ending : Int
  stopped : ending ≠ SQLITE_ROW

structure TopFive (D : Type) extends Steps D where
  limited : rows.length ≤ 5

structure OrderArray (D : Type) where
  cells : List (Option (Order D))
  capacity : Nat
  count : Nat

def nonnegInt (n : Nat) : Option Nat :=
  if (n : Int) ≤ INT_MAX then some n else none

def readOrder (row : Order D) : Option (Order D) :=
  row.createdAt.map fun createdAt => { row with createdAt := some createdAt }

def fetchOrders (makeRoom : OrderArray D → Option (OrderArray D)) :
    List (Order D) → OrderArray D → Option (OrderArray D)
  | [], orders => some orders
  | row :: rows, orders => do
    let orders ← makeRoom orders
    let newOrder ← readOrder row
    let cells ← write orders.cells orders.count newOrder
    let count ← nonnegInt (orders.count + 1)
    fetchOrders makeRoom rows { orders with cells, count }

def growByOne (orders : OrderArray D) : Option (OrderArray D) :=
  (nonnegInt (orders.count + 1)).map fun capacity =>
    { orders with cells := grow orders.cells capacity, capacity }

def doubleWhenFull (orders : OrderArray D) : Option (OrderArray D) :=
  if orders.count ≥ orders.capacity then
    (nonnegInt (orders.capacity * 2)).map fun capacity =>
      { orders with cells := grow orders.cells capacity, capacity }
  else some orders

def allocated (capacity : Nat) : OrderArray D where
  cells := List.replicate capacity none
  capacity := capacity
  count := 0

def getUserAllOrders (prepared : Int) (steps : Steps D) : Option (Int × List (OrderArray D)) :=
  if prepared ≠ SQLITE_OK then some (prepared, [allocated 0])
  else (fetchOrders growByOne steps.rows (allocated 0)).map fun orders => (SQLITE_OK, [orders])

def getUserArchivedOrders (prepared : Int) (steps : Steps D) : Option (Int × List (OrderArray D)) :=
  if prepared ≠ SQLITE_OK then some (prepared, [])
  else
    (fetchOrders doubleWhenFull steps.rows (allocated 10)).map fun orders => (SQLITE_OK, [orders])

def getItemAllOrders (buyPrepared : Int) (buySteps : Steps D) (sellPrepared : Int)
    (sellSteps : Steps D) : Option (Int × List (OrderArray D)) :=
  if buyPrepared ≠ SQLITE_OK then some (buyPrepared, [])
  else do
    let buyOrders ← fetchOrders some buySteps.rows (allocated 5)
    if sellPrepared ≠ SQLITE_OK then
      return (sellPrepared, [])
    let sellOrders ← fetchOrders some sellSteps.rows (allocated 5)
    return (SQLITE_OK, [buyOrders, sellOrders])

def Reports (result : Option (Int × List (OrderArray D))) (sequences : List (Steps D)) : Prop :=
  ∃ code arrays, result = some (code, arrays) ∧
    (code = SQLITE_OK ↔ ∀ steps ∈ sequences, steps.ending = SQLITE_DONE) ∧
    (code = SQLITE_OK → List.Forall₂ (fun (orders : OrderArray D) (steps : Steps D) =>
      orders.count = steps.rows.length ∧ Holds orders.cells steps.rows) arrays sequences)

structure ListingsComplete (mine archived : Steps D) (buys sells : TopFive D) : Prop where
  userAllOrders : Reports (getUserAllOrders SQLITE_OK mine) [mine]
  userArchivedOrders : Reports (getUserArchivedOrders SQLITE_OK archived) [archived]
  itemAllOrders : Reports (getItemAllOrders SQLITE_OK buys.toSteps SQLITE_OK sells.toSteps)
    [buys.toSteps, sells.toSteps]

structure Steps.Listable (steps : Steps D) (limit : Nat) : Prop where
  done : steps.ending = SQLITE_DONE
  short : steps.rows.length ≤ limit
  stamped : ∀ row ∈ steps.rows, row.createdAt ≠ none

structure Room (makeRoom : OrderArray D → Option (OrderArray D)) (I : OrderArray D → Prop)
    (limit : Nat) : Prop where
  int : (limit : Int) ≤ INT_MAX
  within : ∀ {a}, I a → a.count ≤ limit
  kept : ∀ {a b}, I a → makeRoom a = some b → b.count = a.count ∧
    ∀ rows : List (Order D), rows.length = a.count → Holds a.cells rows → Holds b.cells rows
  made : ∀ {a}, I a → a.count < limit → ∃ b, makeRoom a = some b ∧ b.count < b.cells.length
  full : ∀ {a b}, I a → makeRoom a = some b → a.count = limit → b.cells.length ≤ b.count
  next : ∀ {a b cells}, I a → makeRoom a = some b → a.count < limit →
    cells.length = b.cells.length → I { b with cells, count := b.count + 1 }

section Fetch

variable {makeRoom : OrderArray D → Option (OrderArray D)} {I : OrderArray D → Prop} {limit : Nat}
  {row : Order D} {rows fetched : List (Order D)} {a b c : OrderArray D}

theorem nonnegInt_eq_some {n m : Nat} : nonnegInt n = some m ↔ (n : Int) ≤ INT_MAX ∧ m = n := by
  unfold nonnegInt
  split <;> simp [*, eq_comm]

theorem readOrder_eq_some {r : Order D} : readOrder row = some r ↔ row.createdAt ≠ none ∧ r = row := by
  obtain ⟨orderID, item, buyOrSell, quantity, userID, unitPrice, createdAt⟩ := row
  cases createdAt with
  | none => simp [readOrder]
  | some t => simp [readOrder, eq_comm]

theorem fetchOrders_cons : fetchOrders makeRoom (row :: rows) a = some c ↔
    ∃ b cells, makeRoom a = some b ∧ row.createdAt ≠ none ∧ write b.cells b.count row = some cells ∧
      (b.count + 1 : Nat) ≤ INT_MAX ∧
      fetchOrders makeRoom rows { b with cells, count := b.count + 1 } = some c := by
  simp only [fetchOrders, Option.bind_eq_bind, Option.bind_eq_some_iff, readOrder_eq_some,
    nonnegInt_eq_some]
  constructor
  · rintro ⟨b, hroom, r, ⟨hstamped, rfl⟩, cells, hwrite, n, ⟨hint, rfl⟩, hrest⟩
    exact ⟨b, cells, hroom, hstamped, hwrite, hint, hrest⟩
  · rintro ⟨b, cells, hroom, hstamped, hwrite, hint, hrest⟩
    exact ⟨b, hroom, row, ⟨hstamped, rfl⟩, cells, hwrite, _, ⟨hint, rfl⟩, hrest⟩

theorem Room.lt_of_write {cells : List (Option (Order D))} (h : Room makeRoom I limit) (hI : I a)
    (hroom : makeRoom a = some b) (hwrite : write b.cells b.count row = some cells) :
    a.count < limit := by
  refine lt_of_le_of_ne (h.within hI) (fun hfull => ?_)
  have hbound := write_isSome_iff.mp (Option.isSome_iff_exists.mpr ⟨cells, hwrite⟩)
  have hover := h.full hI hroom hfull
  omega

theorem fetchOrders_holds (h : Room makeRoom I limit) (hI : I a) (hcount : fetched.length = a.count)
    (hheld : Holds a.cells fetched) (hfetch : fetchOrders makeRoom rows a = some c) :
    c.count = fetched.length + rows.length ∧ Holds c.cells (fetched ++ rows) := by
  induction rows generalizing a fetched with
  | nil =>
    obtain rfl := Option.some.inj hfetch
    simpa using ⟨hcount.symm, hheld⟩
  | cons row rows ih =>
    obtain ⟨b, cells, hroom, -, hwrite, -, hrest⟩ := fetchOrders_cons.mp hfetch
    obtain ⟨hsame, hkept⟩ := h.kept hI hroom
    have hlt := h.lt_of_write hI hroom hwrite
    rw [hsame, ← hcount] at hwrite
    have hheld' := (hkept fetched hcount hheld).write hwrite
    have hI' := h.next hI hroom hlt (length_write hwrite)
    obtain ⟨hn, hc⟩ := ih hI' (by simp [hsame, hcount]) hheld' hrest
    simp only [List.length_append, List.length_cons, List.length_nil] at hn ⊢
    exact ⟨by omega, by simpa using hc⟩

theorem fetchOrders_isSome_iff (h : Room makeRoom I limit) (hI : I a) :
    (fetchOrders makeRoom rows a).isSome ↔
      a.count + rows.length ≤ limit ∧ ∀ row ∈ rows, row.createdAt ≠ none := by
  induction rows generalizing a with
  | nil => simpa [fetchOrders] using h.within hI
  | cons row rows ih =>
    rw [Option.isSome_iff_exists, List.length_cons, List.forall_mem_cons]
    constructor
    · rintro ⟨c, hfetch⟩
      obtain ⟨b, cells, hroom, hstamped, hwrite, -, hrest⟩ := fetchOrders_cons.mp hfetch
      have hsame := (h.kept hI hroom).1
      have hlt := h.lt_of_write hI hroom hwrite
      obtain ⟨hshort, hrows⟩ := (ih (h.next hI hroom hlt (length_write hwrite))).mp
        (Option.isSome_iff_exists.mpr ⟨c, hrest⟩)
      exact ⟨by simp only [hsame] at hshort; omega, hstamped, hrows⟩
    · rintro ⟨hshort, hstamped, hrows⟩
      have hlt : a.count < limit := by omega
      obtain ⟨b, hroom, hbound⟩ := h.made hI hlt
      obtain ⟨cells, hwrite⟩ := Option.isSome_iff_exists.mp (write_isSome_iff (a := row) |>.mpr hbound)
      have hsame := (h.kept hI hroom).1
      have hint := h.int
      obtain ⟨c, hrest⟩ := Option.isSome_iff_exists.mp
        ((ih (h.next hI hroom hlt (length_write hwrite))).mpr ⟨by simp only [hsame]; omega, hrows⟩)
      exact ⟨c, fetchOrders_cons.mpr ⟨b, cells, hroom, hstamped, hwrite, by omega, hrest⟩⟩

end Fetch

section Rooms

theorem room_growByOne :
    Room (growByOne (D := D)) (fun a => (a.count : Int) ≤ INT_MAX) INT_MAX.toNat where
  int := by decide
  within := fun {a} h => by simp only [INT_MAX] at h ⊢; omega
  kept := fun {a b} _ hroom => by
    obtain ⟨n, hn, rfl⟩ := Option.map_eq_some_iff.mp hroom
    obtain ⟨-, rfl⟩ := nonnegInt_eq_some.mp hn
    exact ⟨rfl, fun rows hlength hheld => hheld.grow (by omega)⟩
  made := fun {a} _ hlt => by
    have hint : ((a.count + 1 : Nat) : Int) ≤ INT_MAX := by simp only [INT_MAX] at hlt ⊢; omega
    refine ⟨_, Option.map_eq_some_iff.mpr ⟨_, nonnegInt_eq_some.mpr ⟨hint, rfl⟩, rfl⟩, ?_⟩
    simp
  full := fun {a b} _ hroom hfull => by
    obtain ⟨n, hn, rfl⟩ := Option.map_eq_some_iff.mp hroom
    have hint := (nonnegInt_eq_some.mp hn).1
    simp only [INT_MAX] at hint hfull
    omega
  next := fun {a b cells} _ hroom hlt _ => by
    obtain ⟨n, -, rfl⟩ := Option.map_eq_some_iff.mp hroom
    simp only [INT_MAX] at hlt ⊢
    omega

def DOUBLED_MAX : Nat := 1342177280

-- ten doubled 27 times is the last capacity whose double is not an int
structure Doubled (a : OrderArray D) : Prop where
  size : a.cells.length = a.capacity
  bounded : a.count ≤ a.capacity
  capacity : ∃ k ≤ 27, a.capacity = 10 * 2 ^ k

theorem doubled_le {k : Nat} (hk : k ≤ 27) : 10 * 2 ^ k ≤ DOUBLED_MAX :=
  Nat.mul_le_mul_left 10 (Nat.pow_le_pow_right (by decide) hk)

theorem doubleWhenFull_cases {a b : OrderArray D} (h : Doubled a) (hroom : doubleWhenFull a = some b) :
    a.count < a.capacity ∧ b = a ∨
      a.count = a.capacity ∧ a.capacity < DOUBLED_MAX ∧
        b = { a with cells := grow a.cells (a.capacity * 2), capacity := a.capacity * 2 } := by
  unfold doubleWhenFull at hroom
  split at hroom
  · next hfull =>
    obtain ⟨n, hn, rfl⟩ := Option.map_eq_some_iff.mp hroom
    obtain ⟨hint, rfl⟩ := nonnegInt_eq_some.mp hn
    simp only [INT_MAX] at hint
    exact .inr ⟨le_antisymm h.bounded hfull, by simp only [DOUBLED_MAX]; omega, rfl⟩
  · next hfull => exact .inl ⟨not_le.mp hfull, (Option.some.inj hroom).symm⟩

theorem room_doubleWhenFull : Room (doubleWhenFull (D := D)) Doubled DOUBLED_MAX where
  int := by decide
  within := fun {a} h => by
    obtain ⟨k, hk, hcapacity⟩ := h.capacity
    exact h.bounded.trans (hcapacity ▸ doubled_le hk)
  kept := fun {a b} h hroom => by
    rcases doubleWhenFull_cases h hroom with ⟨-, rfl⟩ | ⟨hfull, -, rfl⟩
    · exact ⟨rfl, fun rows _ hheld => hheld⟩
    · exact ⟨rfl, fun rows hlength hheld => hheld.grow (by omega)⟩
  made := fun {a} h hlt => by
    by_cases hfull : a.count ≥ a.capacity
    · obtain ⟨k, hk, hcapacity⟩ := h.capacity
      have hne : k ≠ 27 := by
        rintro rfl
        simp only [DOUBLED_MAX] at hlt
        omega
      have hle := doubled_le (show k + 1 ≤ 27 by omega)
      have hpositive : 0 < 2 ^ k := Nat.two_pow_pos k
      have hint : ((a.capacity * 2 : Nat) : Int) ≤ INT_MAX := by
        simp only [DOUBLED_MAX, pow_succ, INT_MAX] at hle ⊢
        omega
      refine ⟨_, (if_pos hfull).trans
        (Option.map_eq_some_iff.mpr ⟨_, nonnegInt_eq_some.mpr ⟨hint, rfl⟩, rfl⟩), ?_⟩
      have hbounded := h.bounded
      simp only [length_grow]
      omega
    · exact ⟨a, if_neg hfull, by rw [h.size]; omega⟩
  full := fun {a b} h hroom hfull => by
    have hbounded := h.bounded
    obtain ⟨k, hk, hcapacity⟩ := h.capacity
    have hle := doubled_le hk
    rcases doubleWhenFull_cases h hroom with ⟨hlt, rfl⟩ | ⟨heq, hlt, rfl⟩
    · omega
    · omega
  next := fun {a b cells} h hroom hlt hcells => by
    rcases doubleWhenFull_cases h hroom with ⟨hroomy, rfl⟩ | ⟨hfull, hsmall, rfl⟩
    · exact ⟨hcells.trans h.size, hroomy, h.capacity⟩
    · obtain ⟨k, hk, hcapacity⟩ := h.capacity
      have hpositive : 0 < 2 ^ k := Nat.two_pow_pos k
      refine ⟨by simpa using hcells, by simp only; omega, k + 1, ?_, by simp only [hcapacity]; ring⟩
      have hne : k ≠ 27 := by
        rintro rfl
        simp only [DOUBLED_MAX] at hsmall
        omega
      omega

theorem room_fixed (capacity : Nat) (hint : (capacity : Int) ≤ INT_MAX) :
    Room (some : OrderArray D → _) (fun a => a.cells.length = capacity ∧ a.count ≤ capacity)
      capacity where
  int := hint
  within := fun h => h.2
  kept := fun {a b} _ hroom => by
    obtain rfl := Option.some.inj hroom
    exact ⟨rfl, fun rows _ hheld => hheld⟩
  made := fun {a} h hlt => ⟨a, rfl, by rw [h.1]; exact hlt⟩
  full := fun {a b} h hroom hfull => by
    obtain rfl := Option.some.inj hroom
    rw [h.1, hfull]
  next := fun {a b cells} h hroom hlt hcells => by
    obtain rfl := Option.some.inj hroom
    exact ⟨hcells.trans h.1, hlt⟩

end Rooms

section Reports

variable {makeRoom : OrderArray D → Option (OrderArray D)} {I : OrderArray D → Prop} {limit n : Nat}
  {steps : Steps D} {orders : OrderArray D}

theorem fetched_isSome_iff (h : Room makeRoom I limit) (hI : I (allocated n)) (steps : Steps D) :
    (fetchOrders makeRoom steps.rows (allocated n)).isSome ↔
      steps.rows.length ≤ limit ∧ ∀ row ∈ steps.rows, row.createdAt ≠ none := by
  rw [fetchOrders_isSome_iff h hI]
  simp [allocated]

theorem fetched_holds (h : Room makeRoom I limit) (hI : I (allocated n))
    (hfetch : fetchOrders makeRoom steps.rows (allocated n) = some orders) :
    orders.count = steps.rows.length ∧ Holds orders.cells steps.rows := by
  have hcount : ([] : List (Order D)).length = (allocated n : OrderArray D).count := rfl
  simpa using fetchOrders_holds h hI hcount (holds_nil _) hfetch

theorem reports_fetched_iff (h : Room makeRoom I limit) (hI : I (allocated n)) (steps : Steps D) :
    Reports ((fetchOrders makeRoom steps.rows (allocated n)).map fun orders => (SQLITE_OK, [orders]))
      [steps] ↔ steps.Listable limit := by
  constructor
  · rintro ⟨code, arrays, hresult, hcode, -⟩
    obtain ⟨orders, hfetch, hpair⟩ := Option.map_eq_some_iff.mp hresult
    obtain ⟨rfl, -⟩ := Prod.mk.inj hpair
    obtain ⟨hshort, hstamped⟩ := (fetched_isSome_iff h hI steps).mp
      (Option.isSome_iff_exists.mpr ⟨orders, hfetch⟩)
    exact ⟨hcode.mp rfl steps (List.mem_singleton_self _), hshort, hstamped⟩
  · rintro ⟨hdone, hshort, hstamped⟩
    obtain ⟨orders, hfetch⟩ := Option.isSome_iff_exists.mp
      ((fetched_isSome_iff h hI steps).mpr ⟨hshort, hstamped⟩)
    refine ⟨SQLITE_OK, [orders], by rw [hfetch]; rfl, by simpa using hdone, fun _ => ?_⟩
    exact .cons (fetched_holds h hI hfetch) .nil

theorem reports_userAllOrders_iff (steps : Steps D) :
    Reports (getUserAllOrders SQLITE_OK steps) [steps] ↔ steps.Listable INT_MAX.toNat := by
  have hI : ((allocated 0 : OrderArray D).count : Int) ≤ INT_MAX := by
    show (0 : Int) ≤ INT_MAX
    decide
  exact reports_fetched_iff room_growByOne hI steps

theorem reports_userArchivedOrders_iff (steps : Steps D) :
    Reports (getUserArchivedOrders SQLITE_OK steps) [steps] ↔ steps.Listable DOUBLED_MAX :=
  reports_fetched_iff room_doubleWhenFull
    ⟨List.length_replicate, Nat.zero_le 10, 0, Nat.zero_le 27, rfl⟩ steps

theorem reports_itemAllOrders_iff (buys sells : TopFive D) :
    Reports (getItemAllOrders SQLITE_OK buys.toSteps SQLITE_OK sells.toSteps)
        [buys.toSteps, sells.toSteps] ↔ buys.Listable 5 ∧ sells.Listable 5 := by
  have hroom : Room (some : OrderArray D → _) _ 5 := room_fixed 5 (by decide)
  have hI : (allocated 5 : OrderArray D).cells.length = 5 ∧ (allocated 5 : OrderArray D).count ≤ 5 :=
    ⟨List.length_replicate, Nat.zero_le 5⟩
  have hrun : getItemAllOrders SQLITE_OK buys.toSteps SQLITE_OK sells.toSteps =
      (fetchOrders some buys.rows (allocated 5)).bind fun buyOrders =>
        (fetchOrders some sells.rows (allocated 5)).map fun sellOrders =>
          (SQLITE_OK, [buyOrders, sellOrders]) := by
    simp only [getItemAllOrders, ne_eq, not_true, if_false, Option.bind_eq_bind,
      Option.pure_def, Option.map_eq_bind]
    rfl
  rw [hrun]
  constructor
  · rintro ⟨code, arrays, hresult, hcode, -⟩
    obtain ⟨buyOrders, hbuys, hresult⟩ := Option.bind_eq_some_iff.mp hresult
    obtain ⟨sellOrders, hsells, hpair⟩ := Option.map_eq_some_iff.mp hresult
    obtain ⟨rfl, -⟩ := Prod.mk.inj hpair
    have hbuy := (fetched_isSome_iff hroom hI buys.toSteps).mp
      (Option.isSome_iff_exists.mpr ⟨buyOrders, hbuys⟩)
    have hsell := (fetched_isSome_iff hroom hI sells.toSteps).mp
      (Option.isSome_iff_exists.mpr ⟨sellOrders, hsells⟩)
    have hdone := hcode.mp rfl
    exact ⟨⟨hdone _ (List.mem_cons_self ..), hbuy.1, hbuy.2⟩,
      ⟨hdone _ (List.mem_cons_of_mem _ (List.mem_singleton_self _)), hsell.1, hsell.2⟩⟩
  · rintro ⟨hbuy, hsell⟩
    obtain ⟨buyOrders, hbuys⟩ := Option.isSome_iff_exists.mp
      ((fetched_isSome_iff hroom hI buys.toSteps).mpr ⟨hbuy.short, hbuy.stamped⟩)
    obtain ⟨sellOrders, hsells⟩ := Option.isSome_iff_exists.mp
      ((fetched_isSome_iff hroom hI sells.toSteps).mpr ⟨hsell.short, hsell.stamped⟩)
    refine ⟨SQLITE_OK, [buyOrders, sellOrders], by rw [hbuys, hsells]; rfl, ?_, fun _ => ?_⟩
    · simpa using ⟨hbuy.done, hsell.done⟩
    · exact .cons (fetched_holds hroom hI hbuys) (.cons (fetched_holds hroom hI hsells) .nil)

end Reports

theorem listings_complete_iff (mine archived : Steps D) (buys sells : TopFive D) :
    ListingsComplete mine archived buys sells ↔
      mine.Listable INT_MAX.toNat ∧ archived.Listable DOUBLED_MAX ∧ buys.Listable 5 ∧
        sells.Listable 5 := by
  constructor
  · rintro ⟨hmine, harchived, hitem⟩
    exact ⟨(reports_userAllOrders_iff mine).mp hmine,
      (reports_userArchivedOrders_iff archived).mp harchived,
      (reports_itemAllOrders_iff buys sells).mp hitem⟩
  · rintro ⟨hmine, harchived, hitem⟩
    exact ⟨(reports_userAllOrders_iff mine).mpr hmine,
      (reports_userArchivedOrders_iff archived).mpr harchived,
      (reports_itemAllOrders_iff buys sells).mpr hitem⟩

def SQLITE_BUSY : Int := 5

def interrupted : TopFive D where
  rows := []
  ending := SQLITE_BUSY
  stopped := by decide
  limited := Nat.zero_le 5

theorem failed_listing_reported_ok :
    ¬ ∀ mine archived : Steps ℚ, ∀ buys sells : TopFive ℚ, ListingsComplete mine archived buys sells := by
  intro h
  obtain ⟨code, arrays, hresult, hcode, -⟩ :=
    (h interrupted.toSteps interrupted.toSteps interrupted interrupted).userAllOrders
  have hpair : (SQLITE_OK, _) = (code, arrays) := Option.some.inj hresult
  obtain ⟨rfl, -⟩ := Prod.mk.inj hpair
  have hdone : SQLITE_BUSY = SQLITE_DONE :=
    hcode.mp rfl interrupted.toSteps (List.mem_singleton_self _)
  revert hdone
  decide

end Marketplace
