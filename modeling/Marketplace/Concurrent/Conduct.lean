import Marketplace.Concurrent.Deeds
import Marketplace.Session.Statements

namespace Marketplace
open CallTree KeyedTable RelyGuarantee

variable {D ι : Type}

structure Rely (i : ι) (w w' : Forked D ι) : Prop where
  evolves : Evolves w.db w'.db
  lastRowid : w'.lastRowid i = w.lastRowid i
  copy : w'.copy i = w.copy i
  misled : w'.misled i = w.misled i

structure Carries (i : ι) (w w' : Forked D ι) : Prop where
  evolves : Evolves w.db w'.db
  copy : w'.copy i = w.copy i
  misled : w'.misled i = w.misled i

inductive Does (K : Forked D ι → Deed D → Prop) (w : Forked D ι) (db' : Database D) : Prop
  | nothing (h : w.db.SameRows db')
  | deed (d : Deed D) (hK : K w d) (hd : d.Recalled w.db) (h : (d.apply w.db).SameRows db')

structure Acts (K : Forked D ι → Deed D → Prop) (i : ι) (w w' : Forked D ι) : Prop where
  does : Does K w w'.db
  reads : w'.copy i = w.copy i ∨ ∃ m ∈ w.db.orders.rows, w'.copy i = some m
  others : ∀ j ≠ i, w'.lastRowid j = w.lastRowid j ∧ w'.copy j = w.copy j ∧ w'.misled j = w.misled j

section Relations

variable {i j : ι} {w w' w'' : Forked D ι} {K : Forked D ι → Deed D → Prop}

theorem Rely.refl (i : ι) (w : Forked D ι) : Rely i w w :=
  ⟨.refl w.db, rfl, rfl, rfl⟩

theorem Rely.trans (h : Rely i w w') (h' : Rely i w' w'') : Rely i w w'' :=
  ⟨h.evolves.trans h'.evolves, h'.lastRowid.trans h.lastRowid, h'.copy.trans h.copy,
    h'.misled.trans h.misled⟩

theorem Rely.carries (h : Rely i w w') : Carries i w w' :=
  ⟨h.evolves, h.copy, h.misled⟩

theorem Carries.refl (i : ι) (w : Forked D ι) : Carries i w w :=
  ⟨.refl w.db, rfl, rfl⟩

theorem Carries.trans (h : Carries i w w') (h' : Carries i w' w'') : Carries i w w'' :=
  ⟨h.evolves.trans h'.evolves, h'.copy.trans h.copy, h'.misled.trans h.misled⟩

theorem Does.evolves {db' : Database D} (h : Does K w db') : Evolves w.db db' := by
  cases h with
  | nothing h => exact h.evolves
  | deed d _ hd h => exact (Deed.evolves hd).trans h.evolves

theorem Acts.rely (h : Acts K i w w') (hij : i ≠ j) : Rely j w w' := by
  obtain ⟨hrowid, hcopy, hmisled⟩ := h.others j hij.symm
  exact ⟨h.does.evolves, hrowid, hcopy, hmisled⟩

theorem stable_carries (i : ι) (w : Forked D ι) : Stable (Rely i) (Carries i w) :=
  fun _ _ hrely h => h.trans hrely.carries

theorem evolves_disturb [DecidableEq ι] (e : Disturbance ι) (w : Forked D ι) :
    Evolves w.db (Forked.disturb e w).db := by
  cases e with
  | elapse seconds => exact .elapse w.db seconds
  | fail j code => exact .refl w.db

theorem rely_disturb [DecidableEq ι] (i : ι) (e : Disturbance ι) (w : Forked D ι) :
    Rely i w (Forked.disturb e w) := by
  refine ⟨evolves_disturb e w, ?_, ?_, ?_⟩ <;> cases e <;> rfl

end Relations

section Rows

variable [CDouble D]

def Stmt.ReadsOrder : Stmt D → Prop
  | .selectOrder _ => True
  | .matchingBuy .. => True
  | .matchingSell .. => True
  | _ => False

theorem row_exec {S : CreatedAtSort D} {s : Stmt D} (hs : ¬ s.ReadsOrder) (db : Database D)
    (r : Order D) : (s.exec S db).1 ≠ .row (.order r) := by
  intro hrow
  cases s with
  | insertOrder item buyOrSell quantity unitPrice userID =>
    rcases exec_insertOrder S db item buyOrSell quantity userID unitPrice with
      h | ⟨_, _, _, _, _, -, -, -, -, -, -, h⟩ <;> rw [h] at hrow <;> cases hrow
  | insertUser username password name OMG DOGE BTC ETH =>
    rw [exec_insertUser] at hrow
    split at hrow <;> cases hrow
  | deleteOrder orderID => cases orderID <;> cases hrow
  | selectUser userID => cases h : db.user userID <;> simp [firstRow, h] at hrow
  | selectOrder orderID => exact absurd trivial hs
  | matchingBuy item unitPrice userID => exact absurd trivial hs
  | matchingSell item unitPrice userID => exact absurd trivial hs
  | updateOrder item buyOrSell quantity unitPrice userID orderID =>
    rw [exec_updateOrder_match] at hrow
    split at hrow <;> cases hrow
  | updateUserBalance OMG DOGE BTC ETH userID => cases hrow
  | selectInventory userID => cases h : userID.bind db.user <;> simp [firstRow, h] at hrow
  | selectUserByUsername username =>
    cases h : db.users.rows.find? (fun r => r.username == username) <;>
      simp [Stmt.exec, firstRow, h] at hrow
  | insertArchive item buyOrSell quantity unitPrice userID createdAt =>
    rcases exec_insertArchive S db item buyOrSell quantity userID unitPrice createdAt with
      h | ⟨_, _, _, _, _, -, -, -, -, -, -, h⟩ <;> rw [h] at hrow <;> cases hrow
  | currentTimestamp => cases hrow

omit [CDouble D] in
theorem mem_of_firstRow {S : CreatedAtSort D} {rows : List (Order D)} {r : Order D}
    (h : firstRow ((S.sort rows).head?.map .order) = .row (.order r)) : r ∈ rows := by
  apply mem_of_head_sort (S := S)
  cases hhead : (S.sort rows).head? <;> simp [firstRow, hhead] at h
  rw [h]

theorem row_mem {S : CreatedAtSort D} {s : Stmt D} {db : Database D} {r : Order D}
    (h : (s.exec S db).1 = .row (.order r)) : r ∈ db.orders.rows := by
  by_cases hs : s.ReadsOrder
  · cases s with
    | selectOrder orderID =>
      cases hrow : orderID.bind db.order with
      | none => simp [firstRow, hrow] at h
      | some m =>
        simp [firstRow, hrow] at h
        obtain ⟨id, -, hm⟩ := Option.bind_eq_some_iff.mp hrow
        exact h ▸ Database.order_mem hm
    | matchingBuy item unitPrice userID => exact (List.mem_filter.mp (mem_of_firstRow h)).1
    | matchingSell item unitPrice userID => exact (List.mem_filter.mp (mem_of_firstRow h)).1
    | _ => exact absurd hs id
  · exact absurd h (row_exec hs db r)

theorem copy_after [DecidableEq ι] {S : CreatedAtSort D} (s : Stmt D) {i : ι} (w : Forked D ι) :
    ((w.store i (s.exec S (w.connection i)).2).observe i (s.exec S (w.connection i)).1).copy i =
        w.copy i ∨
      ∃ m ∈ w.db.orders.rows, ((w.store i (s.exec S (w.connection i)).2).observe i
        (s.exec S (w.connection i)).1).copy i = some m := by
  by_cases h : ∃ m, (s.exec S (w.connection i)).1 = .row (.order m)
  · obtain ⟨m, hm⟩ := h
    have hmem := row_mem hm
    refine .inr ⟨m, hmem, ?_⟩
    rw [hm]
    exact Function.update_self _ _ _
  · refine .inl ?_
    rw [Forked.observe_other _ _ (fun m hm => h ⟨m, hm⟩)]
    rfl

end Rows

section Calls

variable [CDouble D] [DecidableEq ι] (S : CreatedAtSort D) (K : Forked D ι → Deed D → Prop) (i : ι)

abbrev Sound {α : Type} (post : α → Forked D ι → Prop) (p : SQL D α) (w : Forked D ι) : Prop :=
  Meets (attend S i) (Rely i) (Acts K i) post p w

variable {S K i} {α : Type} {w : Forked D ι}

omit [CDouble D] in
theorem acts_recover (K : Forked D ι → Deed D → Prop) (i : ι) (w : Forked D ι) :
    Acts K i w (w.recover i) :=
  ⟨.nothing ⟨rfl, rfl, rfl, rfl⟩, .inl rfl, fun _ _ => ⟨rfl, rfl, rfl⟩⟩

omit [CDouble D] [DecidableEq ι] in
theorem acts_refl (K : Forked D ι → Deed D → Prop) (i : ι) (w : Forked D ι) : Acts K i w w :=
  ⟨.nothing ⟨rfl, rfl, rfl, rfl⟩, .inl rfl, fun _ _ => ⟨rfl, rfl, rfl⟩⟩

theorem prepare_sound (w : Forked D ι) :
    Sound S K i (fun res w' => (res = SQLITE_OK ∧ Carries i w w') ∨
      (res ≠ SQLITE_OK ∧ w'.misled i = some res)) sqlite3Prepare w := by
  refine meets_request (fun res w' w'' hrely h => ?_) (fun w' hw => ?_)
  · exact h.imp (fun h => ⟨h.1, h.2.trans hrely.carries⟩) (fun h => ⟨h.1, hrely.misled.trans h.2⟩)
  · rw [attend_prepare]
    split
    · next e he =>
      refine ⟨⟨.nothing ⟨rfl, rfl, rfl, rfl⟩, .inl rfl, fun j hj => ⟨rfl, rfl, ?_⟩⟩,
        .inr ⟨e.isError.ne_ok, ?_⟩⟩
      · exact Function.update_of_ne hj _ _
      · exact Function.update_self _ _ _
    · exact ⟨acts_refl K i w', .inl ⟨rfl, hw.carries⟩⟩

theorem bind_sound (w : Forked D ι) :
    Sound S K i (fun _ w' => Carries i w w') sqlite3Bind w := by
  refine meets_request (fun _ => stable_carries i w) (fun w' hw => ?_)
  rw [attend_bind]
  split
  · exact ⟨acts_recover K i w', ⟨hw.evolves, hw.copy, hw.misled⟩⟩
  · exact ⟨acts_refl K i w', hw.carries⟩

theorem step_sound {s : Stmt D} {P : StepResult D → Forked D ι → Prop}
    (hstable : ∀ r, Stable (Rely i) (P r))
    (hfail : ∀ (e : ErrorCode) w', Rely i w w' → P (.error e.code) (w'.recover i))
    (hexec : ∀ w', Rely i w w' → Does K w' (s.exec S (w'.connection i)).2 ∧
      P (s.exec S (w'.connection i)).1 ((w'.store i (s.exec S (w'.connection i)).2).observe i
        (s.exec S (w'.connection i)).1)) :
    Sound S K i P (sqlite3Step s) w := by
  refine meets_request hstable (fun w' hw => ?_)
  cases hfailing : w'.failing i with
  | some e =>
    rw [attend_step_failing S s hfailing]
    exact ⟨acts_recover K i w', hfail e w' hw⟩
  | none =>
    rw [attend_step S s hfailing]
    obtain ⟨hdoes, hP⟩ := hexec w' hw
    refine ⟨⟨?_, ?_, fun j hj => ⟨?_, ?_, ?_⟩⟩, hP⟩
    · rw [Forked.db_observe]
      exact hdoes
    · exact copy_after s w'
    · rw [Forked.lastRowid_observe]
      exact Function.update_of_ne hj _ _
    · exact Forked.copy_observe _ i _ hj
    · rw [Forked.misled_observe]
      rfl

theorem bindUnchecked_sound {β : Type} (v : β) (w : Forked D ι) :
    Sound S K i (fun o w' => (∀ x ∈ o, x = v) ∧ Carries i w w') (bindUnchecked v) w := by
  refine meets_bind (Rely.refl i) (bind_sound w) (fun res w' hw => ?_)
  refine meets_pure (fun _ _ hrely h => ⟨h.1, stable_carries i w _ _ hrely h.2⟩) ⟨fun x hx => ?_, hw⟩
  split at hx
  · exact (Option.some.inj hx).symm
  · cases hx

theorem bindDouble_sound (v : D) (w : Forked D ι) :
    Sound S K i (fun o w' => (∀ x ∈ o, x ∈ doubleParameter v) ∧ Carries i w w') (bindDouble v) w := by
  refine meets_bind (Rely.refl i) (bindUnchecked_sound v w) (fun o w' hw => ?_)
  refine meets_pure (fun _ _ hrely h => ⟨h.1, stable_carries i w _ _ hrely h.2⟩) ⟨fun x hx => ?_, hw.2⟩
  obtain ⟨y, hy, hxy⟩ := Option.bind_eq_some_iff.mp hx
  rwa [hw.1 y hy] at hxy

theorem bindChecked_sound (n : Nat) (w : Forked D ι) :
    Sound S K i (fun _ w' => Carries i w w') (bindChecked n) w := by
  induction n generalizing w with
  | zero => exact meets_pure (stable_carries i w) (.refl i w)
  | succ n ih =>
    refine meets_bind (Rely.refl i) (bind_sound w) (fun res w' hw => ?_)
    refine meets_ite (fun _ => meets_pure (stable_carries i w) hw) (fun _ => ?_)
    exact meets_mono (fun _ _ h => hw.trans h) (ih w')

theorem prepared_sound {f : Int → SQL D α} {e : Int → α} {p : SQL D α}
    {P : α → Forked D ι → Prop} (hf : ∀ res, f res = if res ≠ SQLITE_OK then pure (e res) else p)
    (hstable : ∀ a, Stable (Rely i) (P a))
    (he : ∀ res w', res ≠ SQLITE_OK → w'.misled i = some res → P (e res) w')
    (hp : ∀ w', Carries i w w' → Sound S K i P p w') :
    Sound S K i P (sqlite3Prepare >>= f) w := by
  refine meets_bind (Rely.refl i) (prepare_sound w) (fun res w' hw => ?_)
  rw [hf]
  rcases hw with ⟨hok, hw⟩ | ⟨hne, hmisled⟩
  · rw [if_neg (not_not_intro hok)]
    exact hp w' hw
  · rw [if_pos hne]
    exact meets_pure (hstable _) (he res w' hne hmisled)

end Calls

section Steps

variable [CDouble D] [DecidableEq ι] {S : CreatedAtSort D} {K : Forked D ι → Deed D → Prop} {i : ι}
  {w : Forked D ι} {s : Stmt D}

theorem plainStep_sound {P : StepResult D → Prop} (hs : ¬ s.ReadsOrder)
    (hdoes : ∀ w', Carries i w w' → Does K w' (s.exec S (w'.connection i)).2)
    (hP : ∀ db, P (s.exec S db).1) (hfail : ∀ code, P (.error code)) :
    Sound S K i (fun r w' => P r ∧ Carries i w w') (sqlite3Step s) w := by
  refine step_sound (fun r w' w'' hrely h => ⟨h.1, stable_carries i w _ _ hrely h.2⟩)
    (fun e w' hw => ⟨hfail e.code, ⟨hw.evolves, hw.copy, hw.misled⟩⟩) (fun w' hw => ?_)
  have hd := hdoes w' hw.carries
  refine ⟨hd, hP _, hw.carries.trans ?_⟩
  rw [Forked.observe_other _ _ (row_exec hs _)]
  exact ⟨hd.evolves, rfl, rfl⟩

theorem execute_sound (hs : ¬ s.ReadsOrder)
    (hdoes : ∀ w', Carries i w w' → Does K w' (s.exec S (w'.connection i)).2) :
    Sound S K i (fun _ w' => Carries i w w') (execute s) w := by
  have hstep := plainStep_sound (P := fun _ => True) hs hdoes (fun _ => trivial) (fun _ => trivial)
  refine meets_bind (Rely.refl i) hstep (fun r w' hw => ?_)
  exact meets_ite (fun _ => meets_pure (stable_carries i w) hw.2)
    (fun _ => meets_pure (stable_carries i w) hw.2)

theorem read_sound {P : StepResult D → Prop} (hs : ¬ s.ReadsOrder) (hread : ∀ db, (s.exec S db).2 = db)
    (hP : ∀ db, P (s.exec S db).1) (hfail : ∀ code, P (.error code)) :
    Sound S K i (fun r w' => P r ∧ Carries i w w') (sqlite3Step s) w := by
  refine plainStep_sound hs (fun w' _ => ?_) hP hfail
  rw [hread]
  exact .nothing ⟨rfl, rfl, rfl, rfl⟩

end Steps

end Marketplace
