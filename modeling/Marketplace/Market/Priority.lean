import Marketplace.Foundation.Selection
import Marketplace.Market.Effects

namespace Marketplace
open CallTree KeyedTable Runs Selection

variable {D : Type} [CDouble D]

def Op.eligible : Op D → Order D → Bool
  | .buy ord, r => eligibleSell ord r
  | .sell ord, r => eligibleBuy ord r
  | _, _ => false

def FirstPosted (S : CreatedAtSort D) (op : Op D) (db : Database D) : Prop :=
  ∀ m ∈ matched S op db, ∀ r ∈ db.orders.rows, op.eligible r = true → m.orderID ≤ r.orderID

def Op.funded : Op D → Database D → Bool
  | .buy ord, db => (db.user ord.userID).any fun u => !CDouble.lt (CDouble.ofInt u.OMG) ord.total
  | .sell ord, db => (db.user ord.userID).any fun u => !insufficientHolding u ord
  | _, _ => false

def Untied (op : Op D) (db : Database D) : Prop :=
  op.funded db = true → ∀ a ∈ db.orders.rows.filter op.eligible, ∀ b ∈ db.orders.rows.filter op.eligible,
    a.orderID ≠ b.orderID → a.createdAt = b.createdAt →
      ∃ c ∈ db.orders.rows.filter op.eligible, c.age < a.age

instance (S : CreatedAtSort D) (op : Op D) (db : Database D) : Decidable (FirstPosted S op db) :=
  inferInstanceAs (Decidable (∀ m ∈ matched S op db, ∀ r ∈ db.orders.rows, _ → _))

instance (op : Op D) (db : Database D) : Decidable (Untied op db) :=
  inferInstanceAs (Decidable (_ → _))

structure Chronological (db : Database D) : Prop where
  stamped : ∀ r ∈ db.orders.rows, ∃ t ≤ db.now, r.createdAt = some t
  ordered : ∀ a ∈ db.orders.rows, ∀ b ∈ db.orders.rows, a.orderID ≤ b.orderID → a.age ≤ b.age

omit [CDouble D] in
theorem age_le_now {db : Database D} {r : Order D} (h : ∃ t ≤ db.now, r.createdAt = some t) :
    r.age ≤ db.now + 1 := by
  obtain ⟨t, ht, hr⟩ := h
  simpa [Order.age, hr] using ht

theorem chronological_apply {S : CreatedAtSort D} {op : Op D} {db : Database D}
    (h : Chronological db) : Chronological (apply S op db) := by
  have heff := apply_effect S op db
  have hnow := now_le heff
  constructor
  · intro r hr
    rcases row_origin heff hr with ⟨r', hr', -, hat⟩ | ⟨-, hat⟩
    · obtain ⟨t, ht, hrt⟩ := h.stamped r' hr'
      exact ⟨t, ht.trans hnow, hat.symm.trans hrt⟩
    · exact ⟨db.now, hnow, hat⟩
  · intro a ha b hb hab
    rcases row_origin heff ha with ⟨a', ha', haid, haat⟩ | ⟨haid, haat⟩
    · have hage : a.age = a'.age := by simp [Order.age, haat]
      rcases row_origin heff hb with ⟨b', hb', hbid, hbat⟩ | ⟨-, hbat⟩
      · have hage' : b.age = b'.age := by simp [Order.age, hbat]
        rw [hage, hage']
        exact h.ordered a' ha' b' hb' (by omega)
      · have hle := age_le_now (h.stamped a' ha')
        rw [hage]
        simpa [Order.age, hbat] using hle
    · rcases row_origin heff hb with ⟨b', hb', hbid, -⟩ | ⟨-, hbat⟩
      · have hseq := db.orders.bounded b' hb'
        omega
      · exact (by simp [Order.age, haat, hbat])

section Matching

variable {S : CreatedAtSort D} {op : Op D} {db : Database D} {m : Order D}

theorem matched_eq (S : CreatedAtSort D) (op : Op D) (db : Database D) :
    matched S op db =
      if op.funded db then (S.sort (db.orders.rows.filter op.eligible)).head? else none := by
  cases op with
  | buy ord =>
    cases hu : db.user ord.userID with
    | none => simp [matched, Op.funded, hu]
    | some u =>
      cases hl : CDouble.lt (CDouble.ofInt u.OMG) ord.total
      · simp only [matched, Op.funded, hu, hl, Option.bind_some, Option.any_some]
        rfl
      · simp [matched, Op.funded, hu, hl]
  | sell ord =>
    cases hu : db.user ord.userID with
    | none => simp [matched, Op.funded, hu]
    | some u =>
      cases hl : insufficientHolding u ord
      · simp only [matched, Op.funded, hu, hl, Option.bind_some, Option.any_some]
        rfl
      · simp [matched, Op.funded, hu, hl]
  | _ => rfl

noncomputable def CreatedAtSort.favour (m : Order D) : CreatedAtSort D where
  sort := promote Order.age (CreatedAtSort.stable D).sort m
  perm rows := promote_perm (CreatedAtSort.stable D).perm m rows
  sorted rows := promote_inOrder (CreatedAtSort.stable D).perm (CreatedAtSort.stable D).sorted m rows

theorem exists_matched_iff (hf : op.funded db = true) :
    (∃ T, matched T op db = some m) ↔ Least Order.age (db.orders.rows.filter op.eligible) m := by
  constructor
  · rintro ⟨T, hm⟩
    rw [matched_eq, if_pos hf] at hm
    exact least_of_head (T.perm _) (T.sorted _) hm
  · intro hm
    refine ⟨.favour m, ?_⟩
    rw [matched_eq, if_pos hf]
    exact promote_head hm

omit [CDouble D] in
theorem createdAt_of_age (h : Chronological db) {a b : Order D} (ha : a ∈ db.orders.rows)
    (hb : b ∈ db.orders.rows) (hab : a.age = b.age) : a.createdAt = b.createdAt := by
  obtain ⟨s, -, hs⟩ := h.stamped a ha
  obtain ⟨t, -, ht⟩ := h.stamped b hb
  simp only [Order.age, hs, ht, Option.elim_some, Nat.succ.injEq] at hab
  rw [hs, ht, hab]

theorem firstPosted_iff (h : Chronological db) :
    (∀ T, FirstPosted T op db) ↔ Untied op db := by
  constructor
  · intro hfirst hf a ha b hb hne hat
    by_contra hnone
    simp only [not_exists, not_and, not_lt] at hnone
    have hage : b.age = a.age := by simp [Order.age, hat]
    have hla : Least Order.age (db.orders.rows.filter op.eligible) a := ⟨ha, hnone⟩
    have hlb : Least Order.age (db.orders.rows.filter op.eligible) b :=
      ⟨hb, fun c hc => hage.trans_le (hnone c hc)⟩
    obtain ⟨T, hT⟩ := (exists_matched_iff hf).mpr hla
    obtain ⟨U, hU⟩ := (exists_matched_iff hf).mpr hlb
    obtain ⟨har, hae⟩ := List.mem_filter.mp ha
    obtain ⟨hbr, hbe⟩ := List.mem_filter.mp hb
    exact hne (le_antisymm (hfirst T a hT b hbr hbe) (hfirst U b hU a har hae))
  · intro huntied T m hm r hr hre
    have hf : op.funded db = true := by
      by_contra hf
      rw [matched_eq, if_neg hf] at hm
      cases hm
    have hleast := (exists_matched_iff hf).mp ⟨T, hm⟩
    have hmem : r ∈ db.orders.rows.filter op.eligible := List.mem_filter.mpr ⟨hr, hre⟩
    obtain ⟨hmr, -⟩ := List.mem_filter.mp hleast.1
    by_contra hlt
    have hage : m.age = r.age :=
      le_antisymm (hleast.2 r hmem) (h.ordered r hr m hmr (le_of_not_ge hlt))
    obtain ⟨c, hc, hcage⟩ := huntied hf m hleast.1 r hmem (by omega) (createdAt_of_age h hmr hr hage)
    exact absurd (hleast.2 c hc) (not_le.mpr hcage)

end Matching

theorem time_priority_iff (S : CreatedAtSort D) (ops : List (Op D)) :
    Along (apply S) (fun op db => ∀ T, FirstPosted T op db) ops Database.empty ↔
      Along (apply S) Untied ops Database.empty := by
  have hempty : Chronological (Database.empty : Database D) :=
    ⟨(fun _ hr => by cases hr), (fun _ ha => by cases ha)⟩
  exact along_congr (I := Chronological) (fun op db h => chronological_apply h)
    (fun op db h => firstPosted_iff h) ops hempty

def sameSecond : List (Op ℚ) :=
  [.register (newUser ['a'] ['p'] ['A']), .register (newUser ['b'] ['p'] ['B']),
    .sell (createOrder COIN_DOGE SELL 5 1 1), .sell (createOrder COIN_DOGE SELL 5 1 1),
    .buy (createOrder COIN_DOGE BUY 5 1 2)]

def CreatedAtSort.lastFirst (D : Type) : CreatedAtSort D where
  sort rows := (CreatedAtSort.stable D).sort rows.reverse
  perm rows := ((CreatedAtSort.stable D).perm _).trans (List.reverse_perm rows)
  sorted rows := (CreatedAtSort.stable D).sorted rows.reverse

theorem later_order_matched :
    ¬ ∀ (S : CreatedAtSort ℚ) (ops : List (Op ℚ)),
      Along (apply S) (FirstPosted S) ops Database.empty := by
  intro h
  have hrun := h (.lastFirst ℚ) sameSecond
  have hlast : FirstPosted (.lastFirst ℚ) (.buy (createOrder COIN_DOGE BUY 5 1 2))
      (final (apply (.lastFirst ℚ)) (sameSecond.take 4) Database.empty) := hrun.2.2.2.2.1
  revert hlast
  decide +kernel

end Marketplace
