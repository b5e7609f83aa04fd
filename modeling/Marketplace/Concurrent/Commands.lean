import Marketplace.Concurrent.Statements

namespace Marketplace
open CallTree KeyedTable RelyGuarantee

variable {D ι : Type} [CDouble D]

-- a failed prepare in the search is taken for an order ID, so its code may name the row
structure Opponent (taker : Taker) (ord : Order D) (i : ι) (w : Forked D ι) (m : Order D) : Prop where
  read : w.copy i = some m
  recalls : Recalls w.db m
  eligible : taker.Eligible ord m ∨ w.misled i = some m.orderID

inductive TradeDeed (taker : Taker) (ord : Order D) (i : ι) (w : Forked D ι) : Deed D → Prop
  | payCaller (u : User) (hu : u.userID = ord.userID) : TradeDeed taker ord i w (.pay u)
  | payOpponent (m : Order D) (hm : Opponent taker ord i w m) (u : User) (hu : u.userID = m.userID) :
      TradeDeed taker ord i w (.pay u)
  | post : TradeDeed taker ord i w (.post ord)
  | postRemainder (m : Order D) (hm : Opponent taker ord i w m) (t : Option Nat)
      (hq : 0 < ord.quantity - transactionQuantity ord m) : TradeDeed taker ord i w
        (.post (Order.reduce { ord with createdAt := t } (transactionQuantity ord m)))
  | fill (m : Order D) (hm : Opponent taker ord i w m)
      (hq : m.quantity ≠ transactionQuantity ord m) :
      TradeDeed taker ord i w (.fill (m.reduce (transactionQuantity ord m)))
  | remove (m : Order D) (hm : Opponent taker ord i w m)
      (hq : m.quantity = transactionQuantity ord m) : TradeDeed taker ord i w (.remove m.orderID)
  | recordOpponent (m : Order D) (hm : Opponent taker ord i w m) (t : Option Nat) :
      TradeDeed taker ord i w (.record { m with createdAt := t })
  | record (m : Order D) (hm : Opponent taker ord i w m) (t : Option Nat) :
      TradeDeed taker ord i w (.record { ord with createdAt := t })

structure OwnOrder (orderID currentUserID : Int) (i : ι) (w : Forked D ι) (m : Order D) : Prop where
  read : w.copy i = some m
  recalls : Recalls w.db m
  orderID : m.orderID = orderID
  owner : m.userID = currentUserID

inductive CancelDeed (orderID currentUserID : Int) (i : ι) (w : Forked D ι) : Deed D → Prop
  | refund (m : Order D) (hm : OwnOrder orderID currentUserID i w m) (u : User)
      (hu : u.userID = currentUserID) : CancelDeed orderID currentUserID i w (.pay u)
  | remove (m : Order D) (hm : OwnOrder orderID currentUserID i w m) :
      CancelDeed orderID currentUserID i w (.remove orderID)

namespace ClientCall

def Conduct (i : ι) : ClientCall D → Forked D ι → Deed D → Prop
  | .register newUser, _, d => d = .enrol newUser
  | .lookUp _, _, _ => False
  | .myInventory _, _, _ => False
  | .buy ord, w, d => TradeDeed .buyer ord i w d
  | .sell ord, w, d => TradeDeed .seller ord i w d
  | .cancelOrder orderID currentUserID, w, d => CancelDeed orderID currentUserID i w d

def Outcome : ClientCall D → ClientResult → Forked D ι → Prop
  | .register newUser, r, w => ∀ res, r = .code res → res ≠ -1 → Enrolled newUser res w.db
  | _, _, _ => True

end ClientCall

variable [DecidableEq ι] {S : CreatedAtSort D} {i : ι} {w : Forked D ι}

theorem done_sound {α : Type} {K : Forked D ι → Deed D → Prop} (res : α) (w : Forked D ι) :
    Sound S K i (fun _ _ => True) (pure res) w :=
  meets_pure (fun _ _ _ _ => trivial) trivial

omit [CDouble D] [DecidableEq ι] in
theorem recalls_reduce {db : Database D} {m : Order D} (hm : Recalls db m) (n : Int) :
    Recalls db (m.reduce n) := by
  refine ⟨hm.1, fun r hr => ?_⟩
  have hsame := hm.2 r hr
  unfold Order.SameIdentity at hsame ⊢
  rw [Order.reduce, ← hsame]

section Trading

variable {taker : Taker} {ord m : Order D}

omit [DecidableEq ι] in
theorem Opponent.carries (hm : Opponent taker ord i w m) {w' : Forked D ι} (h : Carries i w w') :
    Opponent taker ord i w' m :=
  ⟨h.copy.trans hm.read, hm.recalls.evolves h.evolves, hm.eligible.imp id (fun hmisled => h.misled.trans hmisled)⟩

theorem closeMatch_sound (hm : Opponent taker ord i w m) (t : Option Nat) :
    Sound S (TradeDeed taker ord i) i (fun _ _ => True)
      (closeMatch (Order.reduce { ord with createdAt := t } (transactionQuantity ord m))
        (m.reduce (transactionQuantity ord m))) w := by
  have hclosed : Sound S (TradeDeed taker ord i) i (Succeeds i w)
      (deleteOrUpdateOrder (m.reduce (transactionQuantity ord m))) w := by
    refine meets_ite (fun hzero => ?_) (fun hnonzero => ?_)
    · refine deleteOrder_sound (fun w' h => .remove m (hm.carries h) ?_)
      simp only [Order.reduce] at hzero
      omega
    · refine updateOrder_sound (recalls_reduce hm.recalls _) (fun w' h => .fill m (hm.carries h) ?_)
      simp only [Order.reduce] at hnonzero
      omega
  refine meets_bind (Rely.refl i) hclosed (fun res w₁ h₁ => ?_)
  refine meets_ite (fun _ => done_sound _ _) (fun hok => ?_)
  have hw := h₁ (not_not.mp hok)
  refine meets_ite (fun hpos => ?_) (fun _ => done_sound _ _)
  refine meets_bind (Rely.refl i) (insertOrder_sound (fun w' h => ?_) (fun w' u h hu => ?_))
    (fun res w₂ _ => ?_)
  · exact .postRemainder m (hm.carries (hw.trans h)) t hpos
  · exact .payCaller u hu
  · exact meets_ite (fun _ => done_sound _ _) (fun _ => done_sound _ _)

theorem settleMatch_sound (hm : Opponent taker ord i w m) {u : User}
    {maker : User → User} (hu : u.userID = ord.userID) (hmaker : ∀ v, (maker v).userID = v.userID) :
    Sound S (TradeDeed taker ord i) i (fun _ _ => True) (settleMatch ord m u maker) w := by
  refine meets_bind (Rely.refl i) (assignOrderTimestamp_sound ord w) (fun r w₁ h₁ => ?_)
  cases r with
  | error code => exact done_sound _ _
  | ok stamped =>
    obtain ⟨⟨t, rfl⟩, hw₁⟩ := h₁ stamped rfl
    refine meets_bind (Rely.refl i) (insertArchive_sound
      (fun w' t h => .recordOpponent m (hm.carries (hw₁.trans h)) t)) (fun res w₂ h₂ => ?_)
    refine meets_ite (fun _ => done_sound _ _) (fun hok => ?_)
    have h₂ := hw₁.trans (h₂ (not_not.mp hok))
    refine meets_bind (Rely.refl i) (insertArchive_sound
      (fun w' t h => .record m (hm.carries (h₂.trans h)) t)) (fun res w₃ h₃ => ?_)
    refine meets_ite (fun _ => done_sound _ _) (fun hok => ?_)
    have h₃ := h₂.trans (h₃ (not_not.mp hok))
    refine meets_bind (Rely.refl i) (updateUserBalance_sound (fun w' h => .payCaller u hu))
      (fun res w₄ h₄ => ?_)
    refine meets_ite (fun _ => done_sound _ _) (fun hok => ?_)
    have h₄ := h₃.trans (h₄ (not_not.mp hok))
    refine meets_bind (Rely.refl i) (getUser_sound _ w₄) (fun r w₅ h₅ => ?_)
    cases r with
    | error code => exact done_sound _ _
    | ok v =>
      obtain ⟨hv, h₅⟩ := h₅ v rfl
      have h₅ := h₄.trans h₅
      refine meets_bind (Rely.refl i) (updateUserBalance_sound (fun w' h =>
        .payOpponent m (hm.carries (h₅.trans h)) _ ((hmaker v).trans hv))) (fun res w₆ h₆ => ?_)
      refine meets_ite (fun _ => done_sound _ _) (fun hok => ?_)
      have h₆ := h₅.trans (h₆ (not_not.mp hok))
      exact closeMatch_sound (hm.carries h₆) (some t)

theorem checkedTrade_sound (taker : Taker) (refused : User → Bool) {settle : User → Order D → SQL D Int}
    (hsettle : ∀ u m w, u.userID = ord.userID → Opponent taker ord i w m →
      Sound S (TradeDeed taker ord i) i (fun _ _ => True) (settle u m) w) (w : Forked D ι) :
    Sound S (TradeDeed taker ord i) i (fun _ _ => True)
      (checkedTrade ord refused (taker.find ord) settle) w := by
  refine meets_bind (Rely.refl i) (getUser_sound ord.userID w) (fun r w₁ h₁ => ?_)
  cases r with
  | error code => exact done_sound _ _
  | ok u =>
    obtain ⟨hu, -⟩ := h₁ u rfl
    refine meets_ite (fun _ => done_sound _ _) (fun _ => ?_)
    refine meets_bind (Rely.refl i) (find_sound taker ord w₁) (fun result w₂ h₂ => ?_)
    refine meets_ite (fun _ => ?_) (fun hne => ?_)
    · exact insertOrder_sound (fun _ _ => .post) (fun _ v _ hv => .payCaller v hv)
    · refine meets_bind (Rely.refl i) (getOrder_sound result w₂) (fun r w₃ h₃ => ?_)
      cases r with
      | error code => exact done_sound _ _
      | ok m =>
        have hm := h₃ m rfl
        refine hsettle u m w₃ hu ⟨hm.copy, hm.recalls, ?_⟩
        rcases h₂ with h | h | ⟨r, hid, hr, hrecalls⟩
        · exact absurd h hne
        · exact .inr (hm.misled.trans (hm.orderID.symm ▸ h))
        · have hsame := hm.identity r hrecalls hid
          refine .inl ⟨hsame.item.trans hr.item, hsame.buyOrSell.trans hr.opposite, ?_, ?_⟩
          · rw [hsame.unitPrice]
            exact hr.price
          · rw [hsame.userID]
            exact hr.owner

theorem buy_sound (ord : Order D) (w : Forked D ι) :
    Sound S (TradeDeed .buyer ord i) i (fun _ _ => True) (buy ord) w := by
  rw [buy_eq_checkedTrade]
  refine checkedTrade_sound .buyer _ (fun u m w hu hm => ?_) w
  refine settleMatch_sound hm ?_ (fun v => ?_)
  · rw [(addItem_sameAccount (debitOMG_sameAccount (.refl u) _) _ _).1, hu]
  · exact (addItem_sameAccount (creditOMG_sameAccount (.refl v) _) _ _).1

theorem sell_sound (ord : Order D) (w : Forked D ι) :
    Sound S (TradeDeed .seller ord i) i (fun _ _ => True) (sell ord) w := by
  rw [sell_eq_checkedTrade]
  refine checkedTrade_sound .seller _ (fun u m w hu hm => ?_) w
  refine settleMatch_sound hm ?_ (fun v => ?_)
  · rw [(creditOMG_sameAccount (addItem_sameAccount (.refl u) _ _) _).1, hu]
  · exact (addItem_sameAccount (debitOMG_sameAccount (.refl v) _) _ _).1

end Trading

theorem cancelOrder_sound (orderID currentUserID : Int) (w : Forked D ι) :
    Sound S (CancelDeed orderID currentUserID i) i (fun _ _ => True)
      (cancelOrder (D := D) orderID currentUserID) w := by
  refine meets_bind (Rely.refl i) (getOrder_sound orderID w) (fun r w₁ h₁ => ?_)
  cases r with
  | error code => exact done_sound _ _
  | ok m =>
    have hm := h₁ m rfl
    refine meets_ite (fun _ => done_sound _ _) (fun hown => ?_)
    have hown := not_not.mp hown
    refine meets_bind (Rely.refl i) (getUser_sound m.userID w₁) (fun r w₂ h₂ => ?_)
    cases r with
    | error code => exact done_sound _ _
    | ok u =>
      obtain ⟨hu, h₂⟩ := h₂ u rfl
      have hmine (w' : Forked D ι) (h : Carries i w₁ w') : OwnOrder orderID currentUserID i w' m :=
        ⟨h.copy.trans hm.copy, hm.recalls.evolves h.evolves, hm.orderID, hown⟩
      refine meets_bind (Rely.refl i) (updateUserBalance_sound (fun w' h => ?_)) (fun res w₃ h₃ => ?_)
      · refine .refund m (hmine w' (h₂.trans h)) _ ?_
        rw [(refundBalance_sameAccount u m).1, hu, hown]
      · refine meets_ite (fun _ => done_sound _ _) (fun hok => ?_)
        have h₃ := h₂.trans (h₃ (not_not.mp hok))
        refine meets_bind (Rely.refl i) (deleteOrder_sound (fun w' h => ?_)) (fun res w₄ _ => ?_)
        · exact .remove m (hmine w' (h₃.trans h))
        · exact meets_ite (fun _ => done_sound _ _) (fun _ => done_sound _ _)

theorem program_sound (o : ClientCall D) (w : Forked D ι) :
    Sound S (o.Conduct i) i (o.Outcome) o.program w := by
  cases o with
  | register newUser =>
    have hstable (r : ClientResult) : Stable (Rely i)
        (fun w : Forked D ι => (ClientCall.register newUser : ClientCall D).Outcome r w) :=
      fun w' w'' hrely h res hr hne => stable_enrolled newUser i res w' w'' hrely (h res hr hne)
    refine meets_bind (Rely.refl i) (insertUser_sound (fun _ _ => rfl)) (fun r w₁ h₁ => ?_)
    cases r with
    | error code =>
      refine meets_pure (hstable _) (fun res hr hne => ?_)
      cases hr
      exact absurd rfl hne
    | ok id =>
      refine meets_pure (hstable _) (fun res hr _ => ?_)
      cases hr
      exact h₁ id rfl
  | lookUp username =>
    exact meets_bind (Rely.refl i) (getUserByUsername_sound username w) fun r w₁ _ => done_sound _ _
  | myInventory userID =>
    exact meets_bind (Rely.refl i) (getUserInventories_sound userID w) fun r w₁ _ => done_sound _ _
  | buy ord => exact meets_bind (Rely.refl i) (buy_sound ord w) fun res w₁ _ => done_sound _ _
  | sell ord => exact meets_bind (Rely.refl i) (sell_sound ord w) fun res w₁ _ => done_sound _ _
  | cancelOrder orderID currentUserID =>
    exact meets_bind (Rely.refl i) (cancelOrder_sound orderID currentUserID w)
      fun res w₁ _ => done_sound _ _

end Marketplace
