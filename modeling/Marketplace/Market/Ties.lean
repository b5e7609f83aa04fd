import Marketplace.Market.Priority

namespace Marketplace
open CallTree KeyedTable Runs Selection

variable {D : Type} [CDouble D]

def returned (S : CreatedAtSort D) : Op D → Database D → Int
  | .register newUser, db =>
    match ((insertUser newUser).run (perform S) db).1 with
    | .ok userID => userID
    | .error _ => -1
  | .buy ord, db => ((buy ord).run (perform S) db).1
  | .sell ord, db => ((sell ord).run (perform S) db).1
  | .cancelOrder orderID currentUserID, db =>
    ((cancelOrder orderID currentUserID).run (perform S) db).1
  | .elapse _, _ => 0

def Agree (S T : CreatedAtSort D) (op : Op D) (db : Database D) : Prop :=
  returned T op db = returned S op db ∧ apply T op db = apply S op db

section Matching

variable {S T : CreatedAtSort D} {db : Database D} {ord m : Order D} {u : User} {op : Op D}

theorem SettleOutcome.unique {taker maker : User} {res res' : Int × Database D}
    (h : SettleOutcome db ord m taker maker res) (h' : SettleOutcome db ord m taker maker res') :
    res = res' := by
  cases h with
  | complete hq => cases h' <;> first | rfl | omega
  | refused hq hi =>
    cases h' with
    | complete hq' => omega
    | refused => rfl
    | rested hq' hi' => cases hi.symm.trans hi'
  | rested hq hi =>
    cases h' with
    | complete hq' => omega
    | refused hq' hi' => cases hi.symm.trans hi'
    | rested => rfl

theorem run_insertOrder_sort :
    (insertOrder ord).run (perform T) db = (insertOrder ord).run (perform S) db := by
  rw [run_insertOrder, run_insertOrder]

theorem run_buyMatch_sort (hu : db.user ord.userID = some u) (hm : matchSell S db ord = some m) :
    (buyMatch u ord m).run (perform T) db = (buyMatch u ord m).run (perform S) db := by
  obtain ⟨hmem, hans⟩ := matchSell_some hm
  obtain ⟨-, -, hp, -, hne⟩ := answersSell_iff.mp hans
  rcases fillable_or hu hmem hne hp with hun | ⟨v, hf⟩
  · rw [buyMatch_unfillable hun, buyMatch_unfillable hun]
  · exact (buyMatch_outcome hf).unique (buyMatch_outcome hf)

theorem run_sellMatch_sort (hu : db.user ord.userID = some u) (hm : matchBuy S db ord = some m) :
    (sellMatch u ord m).run (perform T) db = (sellMatch u ord m).run (perform S) db := by
  obtain ⟨hmem, hans⟩ := matchBuy_some hm
  obtain ⟨-, -, hp, -, hne⟩ := answersBuy_iff.mp hans
  rcases fillable_or hu hmem hne hp with hun | ⟨v, hf⟩
  · rw [sellMatch_unfillable hun, sellMatch_unfillable hun]
  · exact (sellMatch_outcome hf).unique (sellMatch_outcome hf)

theorem run_buy_sort (h : matched T (.buy ord) db = matched S (.buy ord) db) :
    (buy ord).run (perform T) db = (buy ord).run (perform S) db := by
  cases hu : db.user ord.userID with
  | none => simp only [buy, Prog.run_bind, run_getUser, hu, Prog.run_pure]
  | some u =>
    cases hl : CDouble.lt (CDouble.ofInt u.OMG) ord.total with
    | true => simp only [buy, Prog.run_bind, run_getUser, hu, hl, if_true, Prog.run_pure]
    | false =>
      have hm : matchSell T db ord = matchSell S db ord := by simpa [matched, hu, hl] using h
      simp only [buy, Prog.run_bind, run_getUser, hu, hl, Bool.false_eq_true, if_false,
        run_findMatchingSell, hm]
      cases hS : matchSell S db ord with
      | none => exact run_insertOrder_sort
      | some m =>
        have hmem := (matchSell_some hS).1
        simp only [Option.elim_some, orderID_ne_neg_one hmem, if_false, Prog.run_bind, run_getOrder,
          Database.order_of_mem hmem]
        exact run_buyMatch_sort hu hS

theorem run_sell_sort (h : matched T (.sell ord) db = matched S (.sell ord) db) :
    (sell ord).run (perform T) db = (sell ord).run (perform S) db := by
  cases hu : db.user ord.userID with
  | none => simp only [sell, Prog.run_bind, run_getUser, hu, Prog.run_pure]
  | some u =>
    cases hl : insufficientHolding u ord with
    | true => simp only [sell, Prog.run_bind, run_getUser, hu, hl, if_true, Prog.run_pure]
    | false =>
      have hm : matchBuy T db ord = matchBuy S db ord := by simpa [matched, hu, hl] using h
      simp only [sell, Prog.run_bind, run_getUser, hu, hl, Bool.false_eq_true, if_false,
        run_findMatchingBuy, hm]
      cases hS : matchBuy S db ord with
      | none => exact run_insertOrder_sort
      | some m =>
        have hmem := (matchBuy_some hS).1
        simp only [Option.elim_some, orderID_ne_neg_one hmem, if_false, Prog.run_bind, run_getOrder,
          Database.order_of_mem hmem]
        exact run_sellMatch_sort hu hS

theorem run_cancelOrder_sort (orderID currentUserID : Int) :
    (cancelOrder orderID currentUserID).run (perform T) db =
      (cancelOrder orderID currentUserID).run (perform S) db := by
  cases hr : db.order orderID with
  | none => simp only [cancelOrder, Prog.run_bind, run_getOrder, hr, Prog.run_pure]
  | some r =>
    cases hu : db.user r.userID with
    | none =>
      simp only [cancelOrder, Prog.run_bind, run_getOrder, hr, Prog.run_ite, Prog.run_pure,
        run_getUser, hu]
    | some u =>
      simp only [cancelOrder, Prog.run_bind, run_getOrder, hr, Prog.run_ite, Prog.run_pure,
        run_getUser, hu, run_updateUserBalance, run_deleteOrder]

theorem agree_of_matched (h : matched T op db = matched S op db) : Agree S T op db := by
  cases op with
  | register newUser => simp only [Agree, returned, apply, run_insertUser, and_self]
  | buy ord => simp only [Agree, returned, apply, run_buy_sort h, and_self]
  | sell ord => simp only [Agree, returned, apply, run_sell_sort h, and_self]
  | cancelOrder orderID currentUserID =>
    simp only [Agree, returned, apply, run_cancelOrder_sort (S := S), and_self]
  | elapse seconds => exact ⟨rfl, rfl⟩

theorem unmatched_sort (h : matched T op db = none) : matched S op db = none := by
  rw [matched_eq] at h ⊢
  split at h
  · next hf =>
    have hrows := T.perm (db.orders.rows.filter op.eligible)
    rw [List.head?_eq_none_iff.mp h, List.nil_perm] at hrows
    rw [if_pos hf, hrows, List.perm_nil.mp (S.perm [])]
    rfl
  · next hf => rw [if_neg hf]

theorem matched_eligible (hm : matched S op db = some m) :
    m ∈ db.orders.rows ∧ op.eligible m = true := by
  rw [matched_eq] at hm
  split at hm
  · exact List.mem_filter.mp (mem_of_head_sort hm)
  · cases hm

theorem matched_sort (h : Chronological db) (huntied : Untied op db) :
    matched T op db = matched S op db := by
  have hfirst := (firstPosted_iff h).mpr huntied
  cases hS : matched S op db with
  | none => exact unmatched_sort hS
  | some m =>
    cases hT : matched T op db with
    | none => cases hS.symm.trans (unmatched_sort hT)
    | some n =>
      obtain ⟨hmr, hme⟩ := matched_eligible hS
      obtain ⟨hnr, hne⟩ := matched_eligible hT
      have hmn := hfirst S m hS n hnr hne
      have hnm := hfirst T n hT m hmr hme
      rw [Table.key_injective hnr hmr (le_antisymm hnm hmn)]

end Matching

structure Spaced (db : Database D) : Prop extends Chronological db where
  distinct : ∀ a ∈ db.orders.rows, ∀ b ∈ db.orders.rows, a.createdAt = b.createdAt →
    a.orderID = b.orderID

def paced (ops : List (Nat × Op D)) : List (Op D) :=
  ops.flatMap fun p => [.elapse p.1, p.2]

section Pace

variable {S T : CreatedAtSort D} {db : Database D} {op : Op D} {n : Nat}

theorem untied_of_spaced (h : Spaced db) : Untied op db := by
  intro _ a ha b hb hne hat
  exact absurd (h.distinct a (List.mem_of_mem_filter ha) b (List.mem_of_mem_filter hb) hat) hne

omit [CDouble D] in
theorem spaced_elapse (n : Nat) (h : Spaced db) : Spaced (db.elapse n) where
  stamped r hr := by
    obtain ⟨t, ht, hat⟩ := h.stamped r hr
    exact ⟨t, Nat.le_add_right_of_le ht, hat⟩
  ordered := h.ordered
  distinct := h.distinct

theorem rows_of_quiet (hop : op.order = none) {r : Order D}
    (hr : r ∈ (apply S op (db.elapse n)).orders.rows) : r ∈ db.orders.rows := by
  cases op with
  | register newUser => rwa [apply_register_orders] at hr
  | buy ord => cases hop
  | sell ord => cases hop
  | cancelOrder orderID currentUserID =>
    have hmem : r ∈ (db.elapse n).orders.rows := cancelOrder_rows hr
    exact hmem
  | elapse seconds => exact hr

-- the only new row carries the present second, and every older row was stamped before it
theorem distinct_apply (h : Spaced db) (hnow : ∀ r ∈ db.orders.rows, r.createdAt ≠ some db.now) :
    Spaced (apply S op db) := by
  refine ⟨chronological_apply h.toChronological, ?_⟩
  intro a ha b hb hat
  have heff := apply_effect S op db
  rcases row_origin heff ha with ⟨a', ha', haid, haat⟩ | ⟨haid, haat⟩
  · rcases row_origin heff hb with ⟨b', hb', hbid, hbat⟩ | ⟨-, hbat⟩
    · rw [← haid, ← hbid]
      exact h.distinct a' ha' b' hb' (haat.trans (hat.trans hbat.symm))
    · exact absurd (haat.trans (hat.trans hbat)) (hnow a' ha')
  · rcases row_origin heff hb with ⟨b', hb', -, hbat⟩ | ⟨hbid, -⟩
    · exact absurd (hbat.trans (hat.symm.trans haat)) (hnow b' hb')
    · rw [haid, hbid]

theorem spaced_step (h : Spaced db) (hpace : op.order ≠ none → 0 < n) :
    Spaced (apply S op (db.elapse n)) := by
  have helapsed := spaced_elapse n h
  by_cases hop : op.order = none
  · refine ⟨chronological_apply helapsed.toChronological, ?_⟩
    intro a ha b hb hat
    exact h.distinct a (rows_of_quiet hop ha) b (rows_of_quiet hop hb) hat
  · apply distinct_apply helapsed
    intro r hr hat
    obtain ⟨t, ht, hrt⟩ := h.stamped r hr
    have hnow : t = db.now + n := Option.some.inj (hrt.symm.trans hat)
    have hpos := hpace hop
    omega

theorem untied_paced {ops : List (Nat × Op D)} (hpace : ∀ p ∈ ops, p.2.order ≠ none → 0 < p.1)
    (h : Spaced db) : Along (apply S) Untied (paced ops) db := by
  induction ops generalizing db with
  | nil => trivial
  | cons p ops ih =>
    obtain ⟨n, op⟩ := p
    obtain ⟨hhead, htail⟩ := List.forall_mem_cons.mp hpace
    refine ⟨untied_of_spaced h, untied_of_spaced (spaced_elapse n h), ?_⟩
    exact ih htail (spaced_step h hhead)

theorem agree_untied {ops : List (Op D)} (hrun : Along (apply S) Untied ops db)
    (h : Chronological db) :
    Along (apply S) (Agree S T) ops db ∧ final (apply T) ops db = final (apply S) ops db := by
  induction ops generalizing db with
  | nil => exact ⟨trivial, rfl⟩
  | cons op ops ih =>
    have hagree : Agree S T op db := agree_of_matched (matched_sort h hrun.1)
    obtain ⟨halong, hfinal⟩ := ih hrun.2 (chronological_apply h)
    refine ⟨⟨hagree, halong⟩, ?_⟩
    rw [final_cons, final_cons, hagree.2, hfinal]

end Pace

theorem ties_never_matter (S T : CreatedAtSort D) (ops : List (Nat × Op D))
    (hpace : ∀ p ∈ ops, p.2.order ≠ none → 0 < p.1) :
    Along (apply S) (Agree S T) (paced ops) Database.empty ∧
      final (apply T) (paced ops) Database.empty = final (apply S) (paced ops) Database.empty := by
  have hempty : Spaced (Database.empty : Database D) :=
    ⟨⟨(fun _ hr => by cases hr), (fun _ ha => by cases ha)⟩, (fun _ ha => by cases ha)⟩
  exact agree_untied (untied_paced hpace hempty) hempty.toChronological

def everySecond : List (Nat × Op ℚ) :=
  sameSecond.map fun op => (1, op)

theorem ties_never_matter_everySecond :
    Along (apply (.stable ℚ)) (Agree (.stable ℚ) (.lastFirst ℚ)) (paced everySecond) .empty ∧
      final (apply (.lastFirst ℚ)) (paced everySecond) .empty =
        final (apply (.stable ℚ)) (paced everySecond) .empty :=
  ties_never_matter (.stable ℚ) (.lastFirst ℚ) everySecond
    (by simp [everySecond, sameSecond])

end Marketplace
