import Marketplace.Concurrent.Shown

namespace Marketplace
open CallTree KeyedTable RelyGuarantee Coupling

variable {D ι : Type}

section Programs

variable {α β : Type} {T : α → β → Prop}

theorem coupled_prepare : Coupled secretly Eq (sqlite3Prepare : SQL D Int) sqlite3Prepare :=
  .call rfl fun _ _ h => .ret h

theorem coupled_bindCall : Coupled secretly Eq (sqlite3Bind : SQL D Int) sqlite3Bind :=
  .call rfl fun _ _ h => .ret h

theorem coupled_step {s s' : Stmt D} (hs : s.shown = s'.shown) :
    Coupled secretly (Answered (.step s) (.step s')) (sqlite3Step s) (sqlite3Step s') :=
  coupled_request (congrArg Call.step hs)

theorem coupled_step_same {s : Stmt D} (hs : ¬ s.ReadsUser) :
    Coupled secretly Eq (sqlite3Step s) (sqlite3Step s) :=
  coupled_mono (fun _ _ h => h.2 hs) (coupled_step rfl)

theorem coupled_execute {s s' : Stmt D} (hs : s.shown = s'.shown) :
    Coupled secretly Eq (execute s) (execute s') := by
  apply coupled_bind (coupled_step hs)
  intro r r' hr
  have hcode : r.code = r'.code := by
    have hshown (r : StepResult D) : r.shown.code = r.code := by cases r <;> rfl
    rw [← hshown r, ← hshown r', hr.1]
  rw [hcode]
  exact coupled_ite (fun _ => coupled_pure rfl) (fun _ => coupled_pure rfl)

theorem coupled_bindUnchecked {γ : Type} (v : γ) :
    Coupled secretly Eq (bindUnchecked v : SQL D (Option γ)) (bindUnchecked v) :=
  coupled_bind_same coupled_bindCall fun _ => coupled_pure rfl

theorem coupled_bindChecked (n : Nat) :
    Coupled secretly Eq (bindChecked n : SQL D Int) (bindChecked n) := by
  induction n with
  | zero => exact coupled_pure rfl
  | succ n ih =>
    apply coupled_bind_same coupled_bindCall
    intro res
    exact coupled_ite (fun _ => coupled_pure rfl) (fun _ => ih)

theorem coupled_guarded {m : SQL D Int} (hm : Coupled secretly Eq m m) {f : Int → SQL D α}
    {g : Int → SQL D β} (e : Int → α) (e' : Int → β) (p : SQL D α) (q : SQL D β)
    (hf : ∀ res, f res = if res ≠ SQLITE_OK then pure (e res) else p)
    (hg : ∀ res, g res = if res ≠ SQLITE_OK then pure (e' res) else q)
    (he : ∀ res, T (e res) (e' res)) (hpq : Coupled secretly T p q) :
    Coupled secretly T (m >>= f) (m >>= g) := by
  apply coupled_bind_same hm
  intro res
  rw [hf, hg]
  exact coupled_ite (fun _ => coupled_pure (he res)) (fun _ => hpq)

theorem coupled_tried {m m' : SQL D Int} (hm : Coupled secretly Eq m m') {f : Int → SQL D α}
    {g : Int → SQL D β} (a : α) (b : β) (p : SQL D α) (q : SQL D β)
    (hf : ∀ res, f res = if res ≠ 0 then pure a else p)
    (hg : ∀ res, g res = if res ≠ 0 then pure b else q)
    (hab : T a b) (hpq : Coupled secretly T p q) : Coupled secretly T (m >>= f) (m' >>= g) := by
  apply coupled_bind hm
  rintro res _ rfl
  rw [hf, hg]
  exact coupled_ite (fun _ => coupled_pure hab) (fun _ => hpq)

theorem StepResult.shown_cases {r r' : StepResult D} (h : r.shown = r'.shown) :
    r = r' ∨ ∃ u u', r = .row (.user u) ∧ r' = .row (.user u') ∧ u.shown = u'.shown := by
  rcases r with r | _ | code
  · rcases r' with r' | _ | code'
    · have hrow : r.shown = r'.shown := StepResult.row.inj h
      cases r with
      | user u =>
        cases r' with
        | user u' => exact .inr ⟨u, u', rfl, rfl, Row.user.inj hrow⟩
        | _ => cases hrow
      | _ =>
        cases r' <;> cases hrow
        exact .inl rfl
    · cases h
    · cases h
  · cases r' <;> cases h
    exact .inl rfl
  · cases r' <;> cases h
    exact .inl rfl

theorem coupled_getUser (userID : Int) :
    Coupled secretly SameUser (getUser userID : SQL D (Except Int User)) (getUser userID) := by
  refine coupled_guarded coupled_prepare .error .error _ _ (fun _ => rfl) (fun _ => rfl)
    (fun _ => rfl) ?_
  refine coupled_guarded (coupled_bindChecked 1) .error .error _ _ (fun _ => rfl) (fun _ => rfl)
    (fun _ => rfl) ?_
  apply coupled_bind (coupled_step rfl)
  rintro r r' ⟨hr, -⟩
  rcases r.shown_cases hr with rfl | ⟨u, u', rfl, rfl, hu⟩
  · split
    · exact coupled_pure rfl
    · exact coupled_pure rfl
  · exact coupled_pure (congrArg Except.ok hu)

theorem coupled_getUserByUsername (username : CString) : Coupled secretly SameUser
    (getUserByUsername username : SQL D (Except Int User)) (getUserByUsername username) := by
  refine coupled_guarded coupled_prepare .error .error _ _ (fun _ => rfl) (fun _ => rfl)
    (fun _ => rfl) ?_
  refine coupled_guarded (coupled_bindChecked 1) .error .error _ _ (fun _ => rfl) (fun _ => rfl)
    (fun _ => rfl) ?_
  apply coupled_bind (coupled_step rfl)
  rintro r r' ⟨hr, -⟩
  rcases r.shown_cases hr with rfl | ⟨u, u', rfl, rfl, hu⟩
  · split
    · exact coupled_pure rfl
    · exact coupled_pure rfl
  · exact coupled_pure (congrArg Except.ok hu)

theorem eq_of_shown {γ : Type} (f : User → γ) (hf : ∀ u : User, f u.shown = f u) {u u' : User}
    (h : u.shown = u'.shown) : f u = f u' := by
  rw [← hf u, ← hf u', h]

theorem coupled_user (userID : Int) {f g : Except Int User → SQL D α}
    (he : ∀ res, Coupled secretly Eq (f (.error res)) (g (.error res)))
    (hu : ∀ u u', u.shown = u'.shown → Coupled secretly Eq (f (.ok u)) (g (.ok u'))) :
    Coupled secretly Eq (getUser userID >>= f) (getUser userID >>= g) := by
  apply coupled_bind (coupled_getUser userID)
  intro a b hab
  cases a with
  | error res => cases b <;> cases hab; exact he res
  | ok u =>
    cases b with
    | error res => cases hab
    | ok u' => exact hu u u' (Except.ok.inj hab)

theorem coupled_getOrder (orderID : Int) : Coupled secretly Eq
    (getOrder orderID : SQL D (Except Int (Order D))) (getOrder orderID) := by
  refine coupled_guarded coupled_prepare .error .error _ _ (fun _ => rfl) (fun _ => rfl)
    (fun _ => rfl) ?_
  apply coupled_bind_same (coupled_bindUnchecked orderID)
  intro orderID
  apply coupled_bind_same (coupled_step_same id)
  intro r
  split
  · exact coupled_pure rfl
  · exact coupled_pure rfl

theorem coupled_updateUserBalance {u u' : User} (h : u.shown = u'.shown) :
    Coupled secretly Eq (updateUserBalance u : SQL D Int) (updateUserBalance u') := by
  rw [eq_of_shown updateUserBalance (fun _ => rfl) h]
  refine coupled_guarded coupled_prepare id id _ _ (fun _ => rfl) (fun _ => rfl) (fun _ => rfl) ?_
  refine coupled_guarded (coupled_bindChecked 5) id id _ _ (fun _ => rfl) (fun _ => rfl)
    (fun _ => rfl) ?_
  exact coupled_execute rfl

theorem coupled_deleteOrder (orderID : Int) :
    Coupled secretly Eq (deleteOrder orderID : SQL D Int) (deleteOrder orderID) := by
  refine coupled_guarded coupled_prepare id id _ _ (fun _ => rfl) (fun _ => rfl) (fun _ => rfl) ?_
  apply coupled_bind_same (coupled_bindUnchecked orderID)
  intro orderID
  exact coupled_execute rfl

theorem coupled_assignOrderTimestamp (ord : Order D) :
    Coupled secretly Eq (assignOrderTimestamp ord) (assignOrderTimestamp ord) := by
  refine coupled_guarded coupled_prepare .error .error _ _ (fun _ => rfl) (fun _ => rfl)
    (fun _ => rfl) ?_
  apply coupled_bind_same (coupled_step_same id)
  intro r
  split
  · exact coupled_pure rfl
  · exact coupled_pure rfl

theorem coupled_getUserInventories (userID : Int) :
    Coupled secretly Eq (getUserInventories userID : SQL D (Except Int (Int × Int × Int × Int)))
      (getUserInventories userID) := by
  refine coupled_guarded coupled_prepare .error .error _ _ (fun _ => rfl) (fun _ => rfl)
    (fun _ => rfl) ?_
  apply coupled_bind_same (coupled_bindUnchecked userID)
  intro userID
  apply coupled_bind_same (coupled_step_same id)
  intro r
  split
  · exact coupled_pure rfl
  · exact coupled_pure rfl

theorem coupled_insertUser {u u' : User} (h : u.shown = u'.shown) :
    Coupled secretly Eq (insertUser u : SQL D (Except Int Int)) (insertUser u') := by
  have hstmt : (Stmt.insertUser u.username u.password u.name u.OMG u.DOGE u.BTC u.ETH
        : Stmt D).shown =
      (Stmt.insertUser u'.username u'.password u'.name u'.OMG u'.DOGE u'.BTC u'.ETH).shown :=
    eq_of_shown (fun u => (Stmt.insertUser u.username u.password u.name u.OMG u.DOGE u.BTC
      u.ETH).shown) (fun _ => rfl) h
  refine coupled_guarded coupled_prepare .error .error _ _ (fun _ => rfl) (fun _ => rfl)
    (fun _ => rfl) ?_
  refine coupled_guarded (coupled_bindChecked 7) .error .error _ _ (fun _ => rfl) (fun _ => rfl)
    (fun _ => rfl) ?_
  apply coupled_bind (coupled_execute hstmt)
  rintro res _ rfl
  refine coupled_ite (fun _ => coupled_pure rfl) (fun _ => ?_)
  exact .call rfl fun _ _ hrowid => .ret (congrArg Except.ok hrowid)

variable [CDouble D]

theorem coupled_bindDouble (v : D) : Coupled secretly Eq (bindDouble v) (bindDouble v) :=
  coupled_bind_same (coupled_bindUnchecked v) fun _ => coupled_pure rfl

theorem coupled_insertArchive (ord : Order D) :
    Coupled secretly Eq (insertArchive ord) (insertArchive ord) := by
  refine coupled_guarded coupled_prepare id id _ _ (fun _ => rfl) (fun _ => rfl) (fun _ => rfl) ?_
  apply coupled_bind_same (coupled_bindUnchecked ord.item)
  intro item
  apply coupled_bind_same (coupled_bindUnchecked ord.buyOrSell)
  intro buyOrSell
  apply coupled_bind_same (coupled_bindUnchecked ord.quantity)
  intro quantity
  apply coupled_bind_same (coupled_bindDouble ord.unitPrice)
  intro unitPrice
  apply coupled_bind_same (coupled_bindUnchecked ord.userID)
  intro userID
  apply coupled_bind_same (coupled_bindUnchecked ord.createdAt)
  intro createdAt
  exact coupled_execute rfl

theorem coupled_findMatching {query : Option Int → Option D → Option Int → Stmt D}
    (hquery : ∀ item unitPrice userID, ¬ (query item unitPrice userID).ReadsUser) (ord : Order D) :
    Coupled secretly Eq (findMatching query ord) (findMatching query ord) := by
  refine coupled_guarded coupled_prepare id id _ _ (fun _ => rfl) (fun _ => rfl) (fun _ => rfl) ?_
  apply coupled_bind_same (coupled_bindUnchecked ord.item)
  intro item
  apply coupled_bind_same (coupled_bindDouble ord.unitPrice)
  intro unitPrice
  apply coupled_bind_same (coupled_bindUnchecked ord.userID)
  intro userID
  apply coupled_bind_same (coupled_step_same (hquery item unitPrice userID))
  intro r
  split
  · exact coupled_pure rfl
  · exact coupled_pure rfl

theorem coupled_updateOrder (ord : Order D) :
    Coupled secretly Eq (updateOrder ord) (updateOrder ord) := by
  refine coupled_guarded coupled_prepare id id _ _ (fun _ => rfl) (fun _ => rfl) (fun _ => rfl) ?_
  refine coupled_guarded (coupled_bindChecked 6) id id _ _ (fun _ => rfl) (fun _ => rfl)
    (fun _ => rfl) ?_
  exact coupled_execute rfl

theorem shown_withholdBalance (u : User) (ord : Order D) :
    (withholdBalance u ord).shown = withholdBalance u.shown ord := by
  unfold withholdBalance
  split_ifs <;> rfl

theorem coupled_insertOrder (ord : Order D) :
    Coupled secretly Eq (insertOrder ord) (insertOrder ord) := by
  refine coupled_user ord.userID (fun _ => coupled_pure rfl) (fun u u' hu => ?_)
  have hrefused : insufficientBalance u ord = insufficientBalance u' ord :=
    eq_of_shown (insufficientBalance · ord) (fun _ => rfl) hu
  have hheld : (withholdBalance u ord).shown = (withholdBalance u' ord).shown := by
    rw [shown_withholdBalance, shown_withholdBalance, hu]
  dsimp only
  rw [hrefused]
  refine coupled_ite (fun _ => coupled_pure rfl) (fun _ => ?_)
  refine coupled_guarded coupled_prepare id id _ _ (fun _ => rfl) (fun _ => rfl) (fun _ => rfl) ?_
  apply coupled_bind_same (coupled_bindUnchecked ord.item)
  intro item
  apply coupled_bind_same (coupled_bindUnchecked ord.buyOrSell)
  intro buyOrSell
  apply coupled_bind_same (coupled_bindUnchecked ord.quantity)
  intro quantity
  apply coupled_bind_same (coupled_bindDouble ord.unitPrice)
  intro unitPrice
  apply coupled_bind_same (coupled_bindUnchecked ord.userID)
  intro userID
  apply coupled_bind_same (coupled_execute rfl)
  intro res
  exact coupled_ite (fun _ => coupled_pure rfl) (fun _ => coupled_updateUserBalance hheld)

theorem shown_addItem (u : User) (item n : Int) :
    (u.addItem item n).shown = u.shown.addItem item n := by
  unfold User.addItem
  split_ifs <;> rfl

theorem shown_creditOMG (u : User) (amount : D) :
    (u.creditOMG amount).shown = u.shown.creditOMG amount := rfl

theorem shown_debitOMG (u : User) (amount : D) :
    (u.debitOMG amount).shown = u.shown.debitOMG amount := rfl

theorem coupled_closeMatch (ord matchedOrder : Order D) :
    Coupled secretly Eq (closeMatch ord matchedOrder) (closeMatch ord matchedOrder) := by
  have hcleared : Coupled secretly Eq (deleteOrUpdateOrder matchedOrder)
      (deleteOrUpdateOrder matchedOrder) :=
    coupled_ite (fun _ => coupled_deleteOrder _) (fun _ => coupled_updateOrder _)
  refine coupled_tried hcleared (-1) (-1) _ _ (fun _ => rfl) (fun _ => rfl) rfl ?_
  refine coupled_ite (fun _ => ?_) (fun _ => coupled_pure rfl)
  exact coupled_tried (coupled_insertOrder ord) (-1) (-1) _ _ (fun _ => rfl) (fun _ => rfl) rfl
    (coupled_pure rfl)

theorem coupled_settleMatch (ord matchedOrder : Order D) {taker taker' : User} {maker : User → User}
    (htaker : taker.shown = taker'.shown)
    (hmaker : ∀ v v' : User, v.shown = v'.shown → (maker v).shown = (maker v').shown) :
    Coupled secretly Eq (settleMatch ord matchedOrder taker maker)
      (settleMatch ord matchedOrder taker' maker) := by
  apply coupled_bind_same (coupled_assignOrderTimestamp ord)
  intro stamped
  cases stamped with
  | error res => exact coupled_pure rfl
  | ok ord =>
    refine coupled_tried (coupled_insertArchive matchedOrder) (-1) (-1) _ _ (fun _ => rfl)
      (fun _ => rfl) rfl ?_
    refine coupled_tried (coupled_insertArchive ord) (-1) (-1) _ _ (fun _ => rfl) (fun _ => rfl)
      rfl ?_
    refine coupled_tried (coupled_updateUserBalance htaker) (-1) (-1) _ _ (fun _ => rfl)
      (fun _ => rfl) rfl ?_
    refine coupled_user _ (fun _ => coupled_pure rfl) (fun v v' hv => ?_)
    exact coupled_tried (coupled_updateUserBalance (hmaker v v' hv)) (-1) (-1) _ _ (fun _ => rfl)
      (fun _ => rfl) rfl (coupled_closeMatch _ _)

theorem coupled_buyMatch {u u' : User} (h : u.shown = u'.shown) (ord matchedOrder : Order D) :
    Coupled secretly Eq (buyMatch u ord matchedOrder) (buyMatch u' ord matchedOrder) := by
  apply coupled_settleMatch
  · rw [shown_addItem, shown_addItem, shown_debitOMG, shown_debitOMG, h]
  · intro v v' hv
    rw [shown_addItem, shown_addItem, shown_creditOMG, shown_creditOMG, hv]

theorem coupled_sellMatch {u u' : User} (h : u.shown = u'.shown) (ord matchedOrder : Order D) :
    Coupled secretly Eq (sellMatch u ord matchedOrder) (sellMatch u' ord matchedOrder) := by
  apply coupled_settleMatch
  · rw [shown_creditOMG, shown_creditOMG, shown_addItem, shown_addItem, h]
  · intro v v' hv
    rw [shown_addItem, shown_addItem, shown_debitOMG, shown_debitOMG, hv]

theorem coupled_checkedTrade (ord : Order D) {refused : User → Bool} {find : SQL D Int}
    {settle : User → Order D → SQL D Int} (hrefused : ∀ u : User, refused u.shown = refused u)
    (hfind : Coupled secretly Eq find find)
    (hsettle : ∀ u u' : User, u.shown = u'.shown → ∀ m,
      Coupled secretly Eq (settle u m) (settle u' m)) :
    Coupled secretly Eq (checkedTrade ord refused find settle)
      (checkedTrade ord refused find settle) := by
  refine coupled_user ord.userID (fun _ => coupled_pure rfl) (fun u u' hu => ?_)
  dsimp only
  rw [eq_of_shown refused hrefused hu]
  refine coupled_ite (fun _ => coupled_pure rfl) (fun _ => ?_)
  apply coupled_bind_same hfind
  intro result
  refine coupled_ite (fun _ => coupled_insertOrder ord) (fun _ => ?_)
  apply coupled_bind_same (coupled_getOrder result)
  intro found
  cases found with
  | error res => exact coupled_pure rfl
  | ok matchedOrder => exact hsettle u u' hu matchedOrder

theorem coupled_cancelOrder (orderID currentUserID : Int) : Coupled secretly Eq
    (cancelOrder orderID currentUserID : SQL D Int) (cancelOrder orderID currentUserID) := by
  apply coupled_bind_same (coupled_getOrder orderID)
  intro found
  cases found with
  | error res => exact coupled_pure rfl
  | ok ord =>
    refine coupled_ite (fun _ => coupled_pure rfl) (fun _ => ?_)
    refine coupled_user ord.userID (fun _ => coupled_pure rfl) (fun u u' hu => ?_)
    have hrefund (u : User) : (refundBalance u ord).shown = refundBalance u.shown ord := by
      unfold refundBalance
      split
      · rfl
      · exact shown_addItem _ _ _
    have hpaid : (refundBalance u ord).shown = (refundBalance u' ord).shown := by
      rw [hrefund, hrefund, hu]
    refine coupled_tried (coupled_updateUserBalance hpaid) (-1) (-1) _ _ (fun _ => rfl)
      (fun _ => rfl) rfl ?_
    exact coupled_tried (coupled_deleteOrder orderID) (-1) (-1) _ _ (fun _ => rfl) (fun _ => rfl)
      rfl (coupled_pure rfl)

theorem coupled_program {o o' : ClientCall D} (h : o.shown = o'.shown) :
    Coupled secretly SameResult o.program o'.program := by
  have hcode (p : SQL D Int) (hp : Coupled secretly Eq p p) :
      Coupled secretly SameResult (p >>= fun res => pure (ClientResult.code res))
        (p >>= fun res => pure (ClientResult.code res)) :=
    coupled_bind_same hp fun _ => coupled_pure rfl
  have hsame (o : ClientCall D) (hn : ∀ u, o ≠ .register u) :
      Coupled secretly SameResult o.program o.program := by
    cases o with
    | register newUser => exact absurd rfl (hn newUser)
    | lookUp username =>
      apply coupled_bind (coupled_getUserByUsername username)
      intro found found' hfound
      exact coupled_pure (congrArg ClientResult.user hfound)
    | myInventory userID =>
      exact coupled_bind_same (coupled_getUserInventories userID) fun _ => coupled_pure rfl
    | buy ord =>
      exact hcode _ (coupled_checkedTrade ord (fun _ => rfl)
        (coupled_findMatching (fun _ _ _ => id) ord) fun _ _ hu m => coupled_buyMatch hu ord m)
    | sell ord =>
      exact hcode _ (coupled_checkedTrade ord (fun _ => rfl)
        (coupled_findMatching (fun _ _ _ => id) ord) fun _ _ hu m => coupled_sellMatch hu ord m)
    | cancelOrder orderID currentUserID => exact hcode _ (coupled_cancelOrder orderID currentUserID)
  cases o with
  | register newUser =>
    cases o' with
    | register newUser' =>
      apply coupled_bind (coupled_insertUser (ClientCall.register.inj h))
      rintro enrolled _ rfl
      cases enrolled with
      | error res => exact coupled_pure rfl
      | ok userID => exact coupled_pure rfl
    | _ => cases h
  | _ =>
    cases o' <;> cases h
    exact hsame _ nofun

end Programs

theorem secrets_unseen [CDouble D] [DecidableEq ι] (S : CreatedAtSort D) (db db' : Database D)
    (hdb : SameShown db db') (actions actions' : List (ChildAction D ι))
    (hactions : List.Forall₂ (Paired fun o o' => o.shown = o'.shown) actions actions') :
    SameShown (reached S db actions).sys.world.db (reached S db' actions').sys.world.db ∧
      ∀ i, ((reached S db actions).result i).map ClientResult.shown =
        ((reached S db' actions').result i).map ClientResult.shown := by
  have hstart : SameForked (.start db : Forked D ι) (.start db') := ⟨hdb, rfl, rfl, rfl, rfl⟩
  have halike := alike_final (respects_attend S) (fun _ _ h => coupled_program h) hactions
    (alike_start hstart)
  refine ⟨halike.world.db, fun i => ?_⟩
  have hresult : Option.Rel SameResult ((reached S db actions).result i)
      ((reached S db' actions').result i) := alike_result halike i
  generalize (reached S db actions).result i = a at hresult ⊢
  generalize (reached S db' actions').result i = b at hresult ⊢
  cases hresult with
  | none => rfl
  | some h => exact congrArg some h

def enrolAndBuy (password name : CString) : List (ChildAction ℚ Bool) :=
  .start false (.register (newUser ['a'] password name)) ::
  List.replicate 10 (.call false) ++
  [.env (.elapse 3), .start true (.buy (createOrder 1 0 2 5 1)), .call true]

theorem secrets_unseen_enrolAndBuy :
    SameShown (reached (.stable ℚ) .empty (enrolAndBuy ['p'] ['A'])).sys.world.db
        (reached (.stable ℚ) .empty (enrolAndBuy ['q'] ['B'])).sys.world.db ∧
      ∀ i, ((reached (.stable ℚ) .empty (enrolAndBuy ['p'] ['A'])).result i).map ClientResult.shown =
        ((reached (.stable ℚ) .empty (enrolAndBuy ['q'] ['B'])).result i).map ClientResult.shown :=
  secrets_unseen (.stable ℚ) .empty .empty ⟨rfl, rfl, rfl, rfl, rfl, rfl⟩ _ _
    (.cons (.start false rfl) (List.forall₂_same.mpr fun a _ => .refl (fun o => Eq.refl o.shown) a))

end Marketplace
