import Marketplace.Market.IntSafety
import Marketplace.Server.Requests

namespace Marketplace
open CallTree KeyedTable Runs

def Double.isFinite : Double → Bool
  | .finite _ => true
  | _ => false

def Double.nonnegative : Double → Bool
  | .finite x => decide (0 ≤ x.val)
  | _ => false

def Request.PricesFinite (request : Request) : Prop :=
  ∀ ord ∈ request.op.bind Op.order, ord.unitPrice.isFinite = true

-- every user is granted DEFAULT_OMG, the largest of the four grants, out of nothing
def Request.Ordinary (S : CreatedAtSort Double) : Request → Database Double → Prop
  | .register usernameLine _ _, db =>
    db.taken (stripLineEnd usernameLine) = true ∨
      (db.users.rows.length + 1) * DEFAULT_OMG ≤ INT_MAX
  | .line userID buffer, db =>
    ∀ op ∈ parseLine userID buffer, (op.funded db = true →
      ∀ ord ∈ op.order, 0 ≤ ord.quantity ∧ ord.unitPrice.nonnegative = true) ∧
        op.SellsClear S db ∧ op.RefundsClear db
  | .elapse _, _ => True

instance (request : Request) : Decidable request.PricesFinite :=
  inferInstanceAs (Decidable (∀ ord ∈ request.op.bind Op.order, ord.unitPrice.isFinite = true))

instance decidableOrdinary (S : CreatedAtSort Double) :
    ∀ (request : Request) (db : Database Double), Decidable (request.Ordinary S db)
  | .register _ _ _, _ => inferInstanceAs (Decidable (_ ∨ _))
  | .line userID buffer, _ =>
    inferInstanceAs (Decidable (∀ op ∈ parseLine userID buffer, (_ → ∀ ord ∈ op.order, _) ∧ _ ∧ _))
  | .elapse _, _ => inferInstanceAs (Decidable True)

variable {S : CreatedAtSort Double} {db : Database Double} {ord : Order Double}

theorem payable_of_line {userID : Int} {buffer : CString} {op : Op Double}
    (h : (Request.line userID buffer).Ordinary S db) (hop : parseLine userID buffer = some op)
    (hfunded : op.funded db = true) (hord : op.order = some ord) : Payable ord := by
  obtain ⟨hquantity, hprice⟩ := (h op hop).1 hfunded ord hord
  refine ⟨⟨hquantity, ((parseLine_spec hop).quantity hord).2⟩, ?_⟩
  cases hp : ord.unitPrice with
  | finite x =>
    rw [hp] at hprice
    exact ⟨x.val, of_decide_eq_true hprice, rfl⟩
  | inf negative =>
    rw [hp] at hprice
    cases hprice
  | nan =>
    rw [hp] at hprice
    cases hprice

theorem WithinInt.served (h : WithinInt db) (request : Request) (hreq : request.Ordinary S db) :
    WithinInt (request.serve S db) := by
  rw [serve_eq]
  cases request with
  | register usernameLine nameLine passwordLine =>
    change WithinInt (apply S (.register (newUser (stripLineEnd usernameLine)
      (stripLineEnd passwordLine) (stripLineEnd nameLine))) db)
    rw [apply_register]
    split
    · exact h
    · next hfree => exact h.registered _ _ _ (hreq.resolve_left hfree)
  | line userID buffer =>
    cases hop : parseLine userID buffer with
    | none => simpa [Request.op, hop, perhaps] using h
    | some op =>
      have hserved : perhaps S (Request.line userID buffer).op db = apply S op db := by
        simp [Request.op, hop, perhaps]
      rw [hserved]
      cases parseLine_spec hop with
      | buy ord hp => exact h.bought (fun hfunded => payable_of_line hreq hop hfunded rfl) hp.side
      | sell ord hp =>
        exact h.sold (fun hfunded => payable_of_line hreq hop hfunded rfl) hp.side (hreq _ hop).2.1
      | cancelOrder orderID => exact h.cancelled orderID userID (hreq _ hop).2.2
  | elapse seconds => exact ⟨h.rows, h.granted, h.owed, h.users⟩

theorem WithinInt.fits_request (h : WithinInt db) (request : Request) (hreq : request.Ordinary S db) :
    request.Fits S db := by
  intro op hop
  cases request with
  | register usernameLine nameLine passwordLine =>
    cases hop
    intro p hp
    cases hp
  | line userID buffer =>
    have hop' : parseLine userID buffer = some op := hop
    cases parseLine_spec hop' with
    | buy ord hp => exact h.buy_fits (fun hfunded => payable_of_line hreq hop' hfunded rfl) hp.side
    | sell ord hp =>
      exact h.sell_fits (fun hfunded => payable_of_line hreq hop' hfunded rfl) hp.side (hreq _ hop').2.1
    | cancelOrder orderID => exact h.cancel_fits orderID userID (hreq _ hop').2.2
  | elapse seconds =>
    cases hop
    intro p hp
    cases hp

theorem withinInt_empty : WithinInt (Database.empty : Database Double) := by
  refine ⟨fun r hr => ?_, fun c => ?_, fun u hu => ?_, by decide⟩
  · cases hr
  · simp [Database.empty, KeyedTable.empty, Table.total]
  · cases hu

theorem settlement_fits_int (S : CreatedAtSort Double) (requests : List Request)
    (h : Along (Request.serve S) (Request.Ordinary S) requests Database.empty) :
    Along (Request.serve S) (Request.Fits S) requests Database.empty :=
  along_of_invariant (fun request _ hreq hI => hI.served request hreq)
    (fun request _ hreq hI => hI.fits_request request hreq) h withinInt_empty

def tradeAndCancel : List Request :=
  [.register ['a', '\r', '\n'] ['A', '\r', '\n'] ['p', '\r', '\n'],
    .register ['b', '\r', '\n'] ['B', '\r', '\n'] ['p', '\r', '\n'],
    .line 1 "sell doge 2.5 10\r\n".toList, .line 2 "buy doge 3 4\r\n".toList,
    .line 1 "cancelorder 1\r\n".toList, .line 2 "buy btc 0.9 3\r\n".toList,
    .line 1 "sell btc 0.5 1\r\n".toList, .line 2 "cancelorder 2\r\n".toList]

theorem settlement_fits_int_tradeAndCancel :
    Along (Request.serve (.stable Double)) (Request.Fits (.stable Double)) tradeAndCancel
      Database.empty :=
  settlement_fits_int (.stable Double) tradeAndCancel (by decide +kernel)

def negativeCost : List Request :=
  [.register ['a', '\r', '\n'] ['A', '\r', '\n'] ['p', '\r', '\n'],
    .line 1 "buy doge 10 -2147483648\r\n".toList]

theorem negative_order_overflows :
    ¬ ∀ (S : CreatedAtSort Double) (requests : List Request),
      (∀ request ∈ requests, request.PricesFinite) →
        Along (Request.serve S) (Request.Fits S) requests Database.empty := by
  intro h
  have hrun := h (.stable Double) negativeCost (by decide +kernel)
  revert hrun
  decide +kernel

end Marketplace
