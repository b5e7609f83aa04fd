import Marketplace.Concurrent.Conduct

namespace Marketplace
open CallTree KeyedTable RelyGuarantee

variable {D ι : Type} [CDouble D] [DecidableEq ι] {S : CreatedAtSort D}
  {K : Forked D ι → Deed D → Prop} {i : ι} {w : Forked D ι}

def Succeeds (i : ι) (w : Forked D ι) (res : Int) (w' : Forked D ι) : Prop :=
  res = SQLITE_OK → Carries i w w'

omit [CDouble D] [DecidableEq ι] in
theorem stable_succeeds (i : ι) (w : Forked D ι) (res : Int) : Stable (Rely i) (Succeeds i w res) :=
  fun _ _ hrely h hres => stable_carries i w _ _ hrely (h hres)

def Reads (i : ι) (w : Forked D ι) {α : Type} (P : α → Prop) (res : Except Int α)
    (w' : Forked D ι) : Prop :=
  ∀ a, res = .ok a → P a ∧ Carries i w w'

omit [CDouble D] [DecidableEq ι] in
theorem stable_reads (i : ι) (w : Forked D ι) {α : Type} (P : α → Prop) (res : Except Int α) :
    Stable (Rely i) (Reads i w P res) :=
  fun _ _ hrely h a ha => ⟨(h a ha).1, stable_carries i w _ _ hrely (h a ha).2⟩

theorem reads_error {α : Type} (P : α → Prop) (code : Int) (w' : Forked D ι) :
    Sound S K i (Reads i w P) (pure (.error code)) w' :=
  meets_pure (stable_reads i w P _) (fun a ha => by cases ha)

theorem reads_ok {α : Type} {P : α → Prop} {a : α} (ha : P a) {w' : Forked D ι}
    (hw : Carries i w w') : Sound S K i (Reads i w P) (pure (.ok a)) w' := by
  refine meets_pure (stable_reads i w P _) (fun b hb => ?_)
  cases hb
  exact ⟨ha, hw⟩

-- the account under which a later balance is written is the one that was asked for
theorem getUser_sound (userID : Int) (w : Forked D ι) :
    Sound S K i (Reads i w (fun u => u.userID = userID)) (getUser userID) w := by
  refine prepared_sound (e := .error) (fun _ => rfl) (stable_reads i w _)
    (fun _ _ _ _ a ha => by cases ha) (fun w₁ h₁ => ?_)
  refine meets_bind (Rely.refl i) (bindChecked_sound 1 w₁) (fun res w₂ h₂ => ?_)
  refine meets_ite (fun _ => reads_error _ _ _) (fun _ => ?_)
  refine meets_bind (Rely.refl i) (read_sound (P := fun r => ∀ u, r = .row (.user u) → u.userID = userID)
    id (fun _ => rfl) (fun db u hu => ?_) nofun) (fun r w₃ h₃ => ?_)
  · cases hrow : db.user userID <;> simp [firstRow, hrow] at hu
    exact hu ▸ Database.user_userID hrow
  · split
    · next u => exact reads_ok (P := fun u : User => u.userID = userID) (h₃.1 u rfl) (h₁.trans (h₂.trans h₃.2))
    · exact reads_error _ _ _

theorem assignOrderTimestamp_sound (ord : Order D) (w : Forked D ι) :
    Sound S K i (Reads i w (fun stamped => ∃ t, stamped = { ord with createdAt := some t }))
      (assignOrderTimestamp ord) w := by
  refine prepared_sound (e := .error) (fun _ => rfl) (stable_reads i w _)
    (fun _ _ _ _ a ha => by cases ha) (fun w₁ h₁ => ?_)
  refine meets_bind (Rely.refl i) (read_sound (P := fun _ => True) id (fun _ => rfl)
    (fun _ => trivial) (fun _ => trivial)) (fun r w₂ h₂ => ?_)
  split
  · next t => exact reads_ok ⟨t, rfl⟩ (h₁.trans h₂.2)
  · exact reads_error _ _ _

theorem getUserByUsername_sound (username : CString) (w : Forked D ι) :
    Sound S K i (Reads i w (fun u => u.username = username)) (getUserByUsername username) w := by
  refine prepared_sound (e := .error) (fun _ => rfl) (stable_reads i w _)
    (fun _ _ _ _ a ha => by cases ha) (fun w₁ h₁ => ?_)
  refine meets_bind (Rely.refl i) (bindChecked_sound 1 w₁) (fun res w₂ h₂ => ?_)
  refine meets_ite (fun _ => reads_error _ _ _) (fun _ => ?_)
  refine meets_bind (Rely.refl i) (read_sound
    (P := fun r => ∀ u, r = .row (.user u) → u.username = username)
    id (fun _ => rfl) (fun db u hu => ?_) nofun) (fun r w₃ h₃ => ?_)
  · cases hrow : db.users.rows.find? (fun r => r.username == username) <;>
      simp [Stmt.exec, firstRow, hrow] at hu
    have hname := List.find?_some hrow
    exact hu ▸ beq_iff_eq.mp hname
  · split
    · next u =>
      exact reads_ok (P := fun u : User => u.username = username) (h₃.1 u rfl)
        (h₁.trans (h₂.trans h₃.2))
    · exact reads_error _ _ _

theorem getUserInventories_sound (userID : Int) (w : Forked D ι) :
    Sound S K i (Reads i w (fun _ => True)) (getUserInventories userID) w := by
  refine prepared_sound (e := .error) (fun _ => rfl) (stable_reads i w _)
    (fun _ _ _ _ a ha => by cases ha) (fun w₁ h₁ => ?_)
  refine meets_bind (Rely.refl i) (bindUnchecked_sound userID w₁) (fun o w₂ h₂ => ?_)
  refine meets_bind (Rely.refl i) (read_sound (P := fun _ => True) id (fun _ => rfl)
    (fun _ => trivial) (fun _ => trivial)) (fun r w₃ h₃ => ?_)
  split
  · exact reads_ok trivial (h₁.trans (h₂.2.trans h₃.2))
  · exact reads_error _ _ _

def Found (taker : Taker) (ord : Order D) (i : ι) (id : Int) (w : Forked D ι) : Prop :=
  id = -1 ∨ w.misled i = some id ∨ ∃ r, r.orderID = id ∧ taker.Eligible ord r ∧ Recalls w.db r

omit [DecidableEq ι] in
theorem stable_found (taker : Taker) (ord : Order D) (i : ι) (id : Int) :
    Stable (Rely i) (Found taker ord i id) := by
  rintro w w' hrely (h | h | ⟨r, hid, hr, hrecalls⟩)
  · exact .inl h
  · exact .inr (.inl (hrely.misled.trans h))
  · exact .inr (.inr ⟨r, hid, hr, hrecalls.evolves hrely.evolves⟩)

structure Fetched (id : Int) (i : ι) (w : Forked D ι) (m : Order D) (w' : Forked D ι) : Prop where
  orderID : m.orderID = id
  copy : w'.copy i = some m
  misled : w'.misled i = w.misled i
  recalls : Recalls w'.db m
  identity : ∀ r, Recalls w.db r → r.orderID = id → m.SameIdentity r

omit [CDouble D] [DecidableEq ι] in
theorem stable_fetched (id : Int) (i : ι) (w : Forked D ι) (m : Order D) :
    Stable (Rely i) (Fetched id i w m) :=
  fun _ _ hrely h => ⟨h.orderID, hrely.copy.trans h.copy, hrely.misled.trans h.misled,
    h.recalls.evolves hrely.evolves, h.identity⟩

theorem getOrder_sound (orderID : Int) (w : Forked D ι) :
    Sound S K i (fun res w' => ∀ m, res = .ok m → Fetched orderID i w m w') (getOrder orderID) w := by
  have hstable (res : Except Int (Order D)) :
      Stable (Rely i) (fun w' => ∀ m, res = .ok m → Fetched orderID i w m w') :=
    fun _ _ hrely h m hm => stable_fetched orderID i w m _ _ hrely (h m hm)
  refine prepared_sound (e := .error) (fun _ => rfl) hstable (fun _ _ _ _ m hm => by cases hm)
    (fun w₁ h₁ => ?_)
  refine meets_bind (Rely.refl i) (bindUnchecked_sound orderID w₁) (fun o w₂ h₂ => ?_)
  refine meets_bind (Rely.refl i) (step_sound
    (P := fun r w' => ∀ m, r = .row (.order m) → Fetched orderID i w m w')
    (fun r w' w'' hrely h m hm => stable_fetched orderID i w m _ _ hrely (h m hm))
    nofun (fun w₃ h₃ => ⟨.nothing ⟨rfl, rfl, rfl, rfl⟩, fun m hm => ?_⟩)) (fun r w₃ h₃ => ?_)
  · have hcarries := h₁.trans (h₂.2.trans h₃.carries)
    cases o with
    | none => simp [firstRow] at hm
    | some id =>
      obtain rfl := h₂.1 id rfl
      have hrow : w₃.db.order id = some m := by
        cases hrow : (w₃.connection i).order id <;> simp [firstRow, hrow] at hm
        exact hm ▸ hrow
      refine ⟨Database.order_orderID hrow, ?_, ?_, ?_, fun r hr hid => ?_⟩
      · rw [hm]
        exact Function.update_self _ _ _
      · rw [Forked.misled_observe]
        exact hcarries.misled
      · rw [Forked.db_observe]
        exact recalls_of_order hrow
      · exact (hr.evolves hcarries.evolves).2 m (hid ▸ hrow)
  · split
    · next m =>
      refine meets_pure (hstable _) (fun m' hm' => ?_)
      cases hm'
      exact h₃ m rfl
    · exact meets_pure (hstable _) (fun m hm => by cases hm)

structure Finds (S : CreatedAtSort D) (taker : Taker) (ord : Order D)
    (query : Option Int → Option D → Option Int → Stmt D) : Prop where
  reads : ∀ item unitPrice userID db, ((query item unitPrice userID).exec S db).2 = db
  eligible : ∀ item unitPrice userID db r, (∀ x ∈ item, x = ord.item) →
    (∀ p ∈ unitPrice, p ∈ doubleParameter ord.unitPrice) → (∀ u ∈ userID, u = ord.userID) →
    ((query item unitPrice userID).exec S db).1 = .row (.order r) →
    r ∈ db.orders.rows ∧ taker.Eligible ord r

theorem eq_of_mem_doubleParameter {v p : D} (h : p ∈ doubleParameter v) : p = v := by
  unfold doubleParameter at h
  split at h <;> cases h
  rfl

theorem finds_matchingSell (ord : Order D) : Finds S .buyer ord .matchingSell where
  reads _ _ _ _ := rfl
  eligible item unitPrice userID db r hitem hprice huser h := by
    obtain ⟨hmem, hanswers⟩ := List.mem_filter.mp (mem_of_firstRow h)
    simp only [answersSell, Bool.and_eq_true, beq_iff_eq, Option.any_eq_true, bne_iff_ne] at hanswers
    obtain ⟨⟨⟨hi, hside⟩, p, hp, hle⟩, u, hu, hne⟩ := hanswers
    have hpo := eq_of_mem_doubleParameter (hprice p hp)
    exact ⟨hmem, hitem _ hi, hside, hpo ▸ hle, huser u hu ▸ hne⟩

theorem finds_matchingBuy (ord : Order D) : Finds S .seller ord .matchingBuy where
  reads _ _ _ _ := rfl
  eligible item unitPrice userID db r hitem hprice huser h := by
    obtain ⟨hmem, hanswers⟩ := List.mem_filter.mp (mem_of_firstRow h)
    simp only [answersBuy, Bool.and_eq_true, beq_iff_eq, Option.any_eq_true, bne_iff_ne] at hanswers
    obtain ⟨⟨⟨hi, hside⟩, p, hp, hle⟩, u, hu, hne⟩ := hanswers
    have hpo := eq_of_mem_doubleParameter (hprice p hp)
    exact ⟨hmem, hitem _ hi, hside, hpo ▸ hle, huser u hu ▸ hne⟩

theorem findMatching_sound {taker : Taker} {ord : Order D}
    {query : Option Int → Option D → Option Int → Stmt D} (hquery : Finds S taker ord query)
    (w : Forked D ι) : Sound S K i (Found taker ord i) (findMatching query ord) w := by
  refine prepared_sound (e := id) (fun _ => rfl) (stable_found taker ord i)
    (fun res w' _ h => .inr (.inl h)) (fun w₁ h₁ => ?_)
  refine meets_bind (Rely.refl i) (bindUnchecked_sound ord.item w₁) (fun item w₂ h₂ => ?_)
  refine meets_bind (Rely.refl i) (bindDouble_sound ord.unitPrice w₂) (fun price w₃ h₃ => ?_)
  refine meets_bind (Rely.refl i) (bindUnchecked_sound ord.userID w₃) (fun user w₄ h₄ => ?_)
  refine meets_bind (Rely.refl i) (step_sound
    (P := fun r w' => ∀ m, r = .row (.order m) → taker.Eligible ord m ∧ Recalls w'.db m)
    (fun r w' w'' hrely h m hm => ⟨(h m hm).1, (h m hm).2.evolves hrely.evolves⟩)
    nofun (fun w₅ h₅ => ⟨?_, fun m hm => ?_⟩)) (fun r w₅ h₅ => ?_)
  · rw [hquery.reads]
    exact .nothing ⟨rfl, rfl, rfl, rfl⟩
  · obtain ⟨hmem, heligible⟩ := hquery.eligible item price user _ m h₂.1 h₃.1 h₄.1 hm
    refine ⟨heligible, ?_⟩
    rw [Forked.db_observe, hquery.reads]
    exact recalls_of_order (Database.order_of_mem hmem)
  · split
    · next m =>
      obtain ⟨heligible, hrecalls⟩ := h₅ m rfl
      exact meets_pure (stable_found taker ord i _) (.inr (.inr ⟨m, rfl, heligible, hrecalls⟩))
    · exact meets_pure (stable_found taker ord i _) (.inl rfl)

theorem find_sound (taker : Taker) (ord : Order D) (w : Forked D ι) :
    Sound S K i (Found taker ord i) (taker.find ord) w := by
  cases taker with
  | buyer => exact findMatching_sound (finds_matchingSell ord) w
  | seller => exact findMatching_sound (finds_matchingBuy ord) w

theorem executed_sound {s : Stmt D} {w₀ : Forked D ι} (hw : Carries i w₀ w) (hs : ¬ s.ReadsOrder)
    (hdoes : ∀ w', Carries i w₀ w' → Does K w' (s.exec S (w'.connection i)).2) :
    Sound S K i (Succeeds i w₀) (execute s) w := by
  refine meets_mono (fun res w' h => ?_) (execute_sound hs (fun w' h => hdoes w' (hw.trans h)))
  exact fun _ => hw.trans h

theorem updateUserBalance_sound {u : User} (hK : ∀ w', Carries i w w' → K w' (.pay u)) :
    Sound S K i (Succeeds i w) (updateUserBalance u) w := by
  refine prepared_sound (e := id) (fun _ => rfl) (stable_succeeds i w)
    (fun res _ hne _ hok => absurd hok hne) (fun w₁ h₁ => ?_)
  refine meets_bind (Rely.refl i) (bindChecked_sound 5 w₁) (fun res w₂ h₂ => ?_)
  have hw := h₁.trans h₂
  refine meets_ite (fun _ => meets_pure (stable_succeeds i w _) (fun _ => hw)) (fun _ => ?_)
  refine executed_sound hw id (fun w₃ h₃ => ?_)
  exact .deed (.pay u) (hK w₃ h₃) trivial ⟨rfl, rfl, rfl, rfl⟩

theorem deleteOrder_sound {orderID : Int} (hK : ∀ w', Carries i w w' → K w' (.remove orderID)) :
    Sound S K i (Succeeds i w) (deleteOrder orderID) w := by
  refine prepared_sound (e := id) (fun _ => rfl) (stable_succeeds i w)
    (fun res _ hne _ hok => absurd hok hne) (fun w₁ h₁ => ?_)
  refine meets_bind (Rely.refl i) (bindUnchecked_sound orderID w₁) (fun o w₂ h₂ => ?_)
  have hw := h₁.trans h₂.2
  refine executed_sound hw id (fun w₃ h₃ => ?_)
  cases o with
  | none => exact .nothing ⟨rfl, rfl, rfl, rfl⟩
  | some id =>
    obtain rfl := h₂.1 id rfl
    exact .deed (.remove id) (hK w₃ h₃) trivial ⟨rfl, rfl, rfl, rfl⟩

-- a failed bind of created_at leaves NULL in the archived row, so any timestamp must be allowed
theorem insertArchive_sound {ord : Order D}
    (hK : ∀ w' t, Carries i w w' → K w' (.record { ord with createdAt := t })) :
    Sound S K i (Succeeds i w) (insertArchive ord) w := by
  refine prepared_sound (e := id) (fun _ => rfl) (stable_succeeds i w)
    (fun res _ hne _ hok => absurd hok hne) (fun w₁ h₁ => ?_)
  refine meets_bind (Rely.refl i) (bindUnchecked_sound ord.item w₁) (fun item w₂ h₂ => ?_)
  refine meets_bind (Rely.refl i) (bindUnchecked_sound ord.buyOrSell w₂) (fun side w₃ h₃ => ?_)
  refine meets_bind (Rely.refl i) (bindUnchecked_sound ord.quantity w₃) (fun quantity w₄ h₄ => ?_)
  refine meets_bind (Rely.refl i) (bindDouble_sound ord.unitPrice w₄) (fun price w₅ h₅ => ?_)
  refine meets_bind (Rely.refl i) (bindUnchecked_sound ord.userID w₅) (fun user w₆ h₆ => ?_)
  refine meets_bind (Rely.refl i) (bindUnchecked_sound ord.createdAt w₆) (fun created w₇ h₇ => ?_)
  have hw := h₁.trans (h₂.2.trans (h₃.2.trans (h₄.2.trans (h₅.2.trans (h₆.2.trans h₇.2)))))
  refine executed_sound hw id (fun w₈ h₈ => ?_)
  rcases exec_insertArchive S (w₈.connection i) item side quantity user price created.join with
    h | ⟨_, _, _, _, _, rfl, rfl, rfl, rfl, rfl, -, h⟩
  · rw [h]
    exact .nothing ⟨rfl, rfl, rfl, rfl⟩
  · rw [h, h₂.1 _ rfl, h₃.1 _ rfl, h₄.1 _ rfl, eq_of_mem_doubleParameter (h₅.1 _ rfl), h₆.1 _ rfl]
    exact .deed (.record { ord with createdAt := created.join }) (hK w₈ _ h₈) trivial
      ⟨rfl, rfl, rfl, rfl⟩

theorem updateOrder_sound {ord : Order D} (hrecalls : Recalls w.db ord)
    (hK : ∀ w', Carries i w w' → K w' (.fill ord)) :
    Sound S K i (Succeeds i w) (updateOrder ord) w := by
  refine prepared_sound (e := id) (fun _ => rfl) (stable_succeeds i w)
    (fun res _ hne _ hok => absurd hok hne) (fun w₁ h₁ => ?_)
  refine meets_bind (Rely.refl i) (bindChecked_sound 6 w₁) (fun res w₂ h₂ => ?_)
  have hw := h₁.trans h₂
  refine meets_ite (fun _ => meets_pure (stable_succeeds i w _) (fun _ => hw)) (fun _ => ?_)
  refine executed_sound hw id (fun w₃ h₃ => ?_)
  cases hrow : (w₃.connection i).order ord.orderID with
  | none =>
    rw [exec_updateOrder_match, hrow]
    exact .nothing ⟨rfl, rfl, rfl, rfl⟩
  | some r =>
    rcases exec_updateOrder S (doubleParameter ord.unitPrice) ord.item ord.buyOrSell ord.quantity
      ord.userID ord.orderID hrow with h | ⟨p, hp, h⟩
    · rw [h]
      exact .nothing ⟨rfl, rfl, rfl, rfl⟩
    · rw [h, eq_of_mem_doubleParameter hp]
      exact .deed (.fill ord) (hK w₃ h₃) (hrecalls.evolves h₃.evolves)
        ⟨rfl, rfl, rfl, rfl⟩

theorem insertOrder_sound {ord : Order D} (hpost : ∀ w', Carries i w w' → K w' (.post ord))
    (hpay : ∀ w' u, Carries i w w' → u.userID = ord.userID → K w' (.pay u)) :
    Sound S K i (fun _ _ => True) (insertOrder ord) w := by
  have hdone (res : Int) (w' : Forked D ι) : Sound S K i (fun _ _ => True) (pure res) w' :=
    meets_pure (fun _ _ _ _ => trivial) trivial
  refine meets_bind (Rely.refl i) (getUser_sound ord.userID w) (fun r w₁ h₁ => ?_)
  cases r with
  | error code => exact hdone _ _
  | ok u =>
    obtain ⟨huser, hw₁⟩ := h₁ u rfl
    refine meets_ite (fun _ => hdone _ _) (fun _ => ?_)
    refine prepared_sound (e := id) (fun _ => rfl) (fun _ _ _ _ _ => trivial) (fun _ _ _ _ => trivial)
      (fun w₂ h₂ => ?_)
    refine meets_bind (Rely.refl i) (bindUnchecked_sound ord.item w₂) (fun item w₃ h₃ => ?_)
    refine meets_bind (Rely.refl i) (bindUnchecked_sound ord.buyOrSell w₃) (fun side w₄ h₄ => ?_)
    refine meets_bind (Rely.refl i) (bindUnchecked_sound ord.quantity w₄) (fun quantity w₅ h₅ => ?_)
    refine meets_bind (Rely.refl i) (bindDouble_sound ord.unitPrice w₅) (fun price w₆ h₆ => ?_)
    refine meets_bind (Rely.refl i) (bindUnchecked_sound ord.userID w₆) (fun user w₇ h₇ => ?_)
    have hw := hw₁.trans (h₂.trans (h₃.2.trans (h₄.2.trans (h₅.2.trans (h₆.2.trans h₇.2)))))
    refine meets_bind (Rely.refl i) (execute_sound id (fun w₈ h₈ => ?_)) (fun res w₈ h₈ => ?_)
    · rcases exec_insertOrder S (w₈.connection i) item side quantity user price with
        h | ⟨_, _, _, _, _, rfl, rfl, rfl, rfl, rfl, -, h⟩
      · rw [h]
        exact .nothing ⟨rfl, rfl, rfl, rfl⟩
      · rw [h, h₃.1 _ rfl, h₄.1 _ rfl, h₅.1 _ rfl, eq_of_mem_doubleParameter (h₆.1 _ rfl),
          h₇.1 _ rfl]
        exact .deed (.post ord) (hpost w₈ (hw.trans h₈)) trivial ⟨rfl, rfl, rfl, rfl⟩
    · refine meets_ite (fun _ => hdone _ _) (fun _ => ?_)
      refine meets_mono (fun _ _ _ => trivial) (updateUserBalance_sound (fun w₉ h₉ => ?_))
      refine hpay w₉ _ (hw.trans (h₈.trans h₉)) ?_
      rw [(withholdBalance_sameAccount u ord).1, huser]

def Enrolled (newUser : User) (id : Int) (db : Database D) : Prop :=
  ∃ u, db.user id = some u ∧ u.SameAccount { newUser with userID := id }

omit [CDouble D] in
theorem Enrolled.evolves {newUser : User} {id : Int} {db db' : Database D} (h : Enrolled newUser id db)
    (hdb : Evolves db db') : Enrolled newUser id db' := by
  obtain ⟨u, hu, hsame⟩ := h
  obtain ⟨u', hu', hsame'⟩ := hdb.user_kept hu
  exact ⟨u', hu', hsame'.trans hsame⟩

omit [CDouble D] [DecidableEq ι] in
theorem stable_enrolled (newUser : User) (i : ι) (id : Int) :
    Stable (Rely i) (fun w : Forked D ι => Enrolled newUser id w.db) :=
  fun _ _ hrely h => h.evolves hrely.evolves

omit [CDouble D] in
theorem enrolled_addUser (db : Database D) (newUser : User) :
    Enrolled newUser (db.users.seq + 1) (db.addUser newUser) := by
  refine ⟨{ newUser with userID := db.users.seq + 1 }, ?_, .refl _⟩
  have hmem : { newUser with userID := db.users.seq + 1 } ∈ (db.addUser newUser).users.rows :=
    Database.mem_users_addUser.mpr (.inr rfl)
  exact Database.user_of_mem hmem

-- the row ID that is reported belongs to the child's own insert: it is kept per connection
theorem enrolStep_sound {newUser : User} (hK : ∀ w', Carries i w w' → K w' (.enrol newUser)) :
    Sound S K i (fun r w' => (r.code = SQLITE_DONE ∧ Enrolled newUser (w'.lastRowid i) w'.db) ∨
      (r.code ≠ SQLITE_DONE ∧ r.code ≠ SQLITE_OK))
      (sqlite3Step (.insertUser newUser.username newUser.password newUser.name newUser.OMG
        newUser.DOGE newUser.BTC newUser.ETH)) w := by
  refine step_sound (fun r w' w'' hrely h => ?_)
    (fun e w' _ => .inr ⟨e.isError.2.2, e.isError.ne_ok⟩) (fun w' hw => ?_)
  · refine h.imp (fun h => ⟨h.1, ?_⟩) id
    rw [hrely.lastRowid]
    exact h.2.evolves hrely.evolves
  · have hrows : (Deed.apply w'.db (.enrol newUser)).SameRows
        ((Stmt.insertUser newUser.username newUser.password newUser.name newUser.OMG newUser.DOGE
          newUser.BTC newUser.ETH).exec S (w'.connection i)).2 := by
      rw [exec_insertUser]
      cases htaken : w'.db.taken newUser.username
      · have hany : (w'.connection i).users.rows.any (fun r => r.username == newUser.username) = false :=
          htaken
        simp only [hany, Deed.apply, htaken, Bool.false_eq_true, if_false]
        exact ⟨rfl, rfl, rfl, rfl⟩
      · have hany : (w'.connection i).users.rows.any (fun r => r.username == newUser.username) = true :=
          htaken
        simp only [hany, Deed.apply, htaken, if_true]
        exact ⟨rfl, rfl, rfl, rfl⟩
    refine ⟨.deed (.enrol newUser) (hK w' hw.carries) trivial hrows, ?_⟩
    rw [exec_insertUser]
    split
    · exact .inr ⟨(by decide : SQLITE_CONSTRAINT ≠ SQLITE_DONE),
        (by decide : SQLITE_CONSTRAINT ≠ SQLITE_OK)⟩
    · refine .inl ⟨rfl, ?_⟩
      rw [Forked.db_observe, Forked.lastRowid_observe]
      simp only [Forked.store, Function.update_self]
      exact enrolled_addUser (w'.connection i) newUser

theorem insertUser_sound {newUser : User} (hK : ∀ w', Carries i w w' → K w' (.enrol newUser)) :
    Sound S K i (fun res w' => ∀ id, res = .ok id → Enrolled newUser id w'.db) (insertUser newUser) w := by
  have hstable (res : Except Int Int) :
      Stable (Rely i) (fun w' : Forked D ι => ∀ id, res = .ok id → Enrolled newUser id w'.db) :=
    fun w' w'' hrely h id hid => stable_enrolled newUser i id w' w'' hrely (h id hid)
  have herror (code : Int) (w' : Forked D ι) : Sound S K i
      (fun (res : Except Int Int) w' => ∀ id, res = .ok id → Enrolled newUser id w'.db) (pure (.error code)) w' :=
    meets_pure (hstable _) (fun id hid => by cases hid)
  refine prepared_sound (e := .error) (fun _ => rfl) hstable (fun _ _ _ _ id hid => by cases hid)
    (fun w₁ h₁ => ?_)
  refine meets_bind (Rely.refl i) (bindChecked_sound 7 w₁) (fun res w₂ h₂ => ?_)
  refine meets_ite (fun _ => herror _ _) (fun _ => ?_)
  refine meets_bind (Rely.refl i)
    (P := fun res w' => res = SQLITE_OK → Enrolled newUser (w'.lastRowid i) w'.db) ?_
    (fun res w₃ h₃ => ?_)
  · refine meets_bind (Rely.refl i) (enrolStep_sound (fun w₃ h₃ => hK w₃ (h₁.trans (h₂.trans h₃))))
      (fun r w₃ h₃ => ?_)
    have hkept (res : Int) : Stable (Rely i)
        (fun w' : Forked D ι => res = SQLITE_OK → Enrolled newUser (w'.lastRowid i) w'.db) := by
      intro w' w'' hrely h hres
      rw [hrely.lastRowid]
      exact (h hres).evolves hrely.evolves
    rcases h₃ with ⟨hdone, henrolled⟩ | ⟨hne, hnotOk⟩
    · exact meets_ite (fun h => absurd hdone h) (fun _ => meets_pure (hkept _) (fun _ => henrolled))
    · exact meets_ite (fun _ => meets_pure (hkept _) (fun h => absurd h hnotOk))
        (fun h => absurd hne h)
  · refine meets_ite (fun _ => herror _ _) (fun hok => ?_)
    have henrolled := h₃ (not_not.mp hok)
    refine meets_bind (Rely.refl i) (meets_request
      (P := fun id (w' : Forked D ι) => Enrolled newUser id w'.db)
      (stable_enrolled newUser i) (fun w₄ h₄ => ⟨?_, ?_⟩)) (fun id w₄ h₄ => ?_)
    · exact acts_refl _ i w₄
    · have hrowid : (attend S i .lastInsertRowid w₄).1 = w₃.lastRowid i := h₄.lastRowid
      rw [hrowid]
      exact henrolled.evolves h₄.evolves
    · refine meets_pure (hstable _) (fun id' hid' => ?_)
      cases hid'
      exact h₄

end Marketplace
