import Mathlib.Data.List.TakeWhile
import Marketplace.Market.Effects
import Marketplace.Server.Login

namespace Marketplace
open CallTree KeyedTable Runs

@[ext]
structure Content where
  chars : List Char
  noNewline : '\n' ∉ chars
  noNul : NUL ∉ chars
deriving DecidableEq, Repr

inductive LineEnd where
  | lf
  | crlf
deriving DecidableEq, Repr

def LineEnd.chars : LineEnd → List Char
  | .lf => ['\n']
  | .crlf => ['\r', '\n']

structure Typed where
  content : Content
  lineEnd : LineEnd
deriving DecidableEq, Repr

def Typed.line (t : Typed) : List Char :=
  t.content.chars ++ t.lineEnd.chars

-- `username[len - 2] = '\0'` with `size_t len`: the index wraps when `len` is 1.
def overwritten (line : CString) : Option Nat :=
  if line.getLast? = some '\n' then some ((line.length + (2 ^ 64 - 2)) % 2 ^ 64) else none

def StripsInside (line : List Char) : Prop :=
  ∀ i ∈ overwritten (cString line), i < (cString line).length

structure Registration where
  username : Typed
  name : Typed
  password : Typed

def Registration.run (S : CreatedAtSort Double) (r : Registration) (db : Database Double) :
    Int × Database Double :=
  (registerUser (cString r.username.line) (cString r.name.line) (cString r.password.line)).run
    (perform S) db

def attempt (S : CreatedAtSort Double) (db : Database Double) (usernameLine passwordLine : List Char) :
    Dialogue :=
  (final (Event.serve S) [.typed usernameLine, .typed passwordLine]
    ⟨.authenticateUsername, db⟩).dialogue

structure ComparedAsTyped (S : CreatedAtSort Double) (db : Database Double) (r : Registration)
    (later : List Request) (usernameEnd passwordEnd : LineEnd) : Prop where
  usernameInside : StripsInside r.username.line
  nameInside : StripsInside r.name.line
  passwordInside : StripsInside r.password.line
  loginInside : ∀ U P : Content, StripsInside (Typed.line ⟨U, usernameEnd⟩) ∧
    StripsInside (Typed.line ⟨P, passwordEnd⟩)
  login : ∀ U P : Content,
    attempt S (final (Request.serve S) later (r.run S db).2) (Typed.line ⟨U, usernameEnd⟩)
        (Typed.line ⟨P, passwordEnd⟩) = .commands (r.run S db).1 ↔
      U = r.username.content ∧ P = r.password.content

section Stripping

theorem cString_line (t : Typed) : cString t.line = t.line := by
  refine List.takeWhile_eq_self_iff.mpr (fun c hc => ?_)
  have hne : c ≠ NUL := by
    rintro rfl
    rcases List.mem_append.mp hc with hc | hc
    · exact t.content.noNul hc
    · revert hc
      cases t.lineEnd <;> decide
  simpa using hne

theorem stripLineEnd_crlf (c : List Char) : stripLineEnd (c ++ ['\r', '\n']) = c := by
  simp [stripLineEnd, List.getLast?_append]

theorem stripLineEnd_lf {c : List Char} (h : c ≠ []) : stripLineEnd (c ++ ['\n']) = c.dropLast := by
  have hlen : 0 < c.length := List.length_pos_iff.mpr h
  have htake : (c ++ ['\n']).take (c.length - 1) = c.dropLast := by
    rw [List.take_append_of_le_length (by omega), List.dropLast_eq_take]
  have hcond : 2 ≤ (c ++ ['\n']).length := by
    rw [List.length_append, List.length_singleton]
    omega
  rw [stripLineEnd, if_pos ⟨by simp, hcond⟩, ← htake, List.length_append, List.length_singleton]
  rfl

theorem mem_overwritten {line : CString} {i : Nat} :
    i ∈ overwritten line ↔
      line.getLast? = some '\n' ∧ (line.length + (2 ^ 64 - 2)) % 2 ^ 64 = i := by
  unfold overwritten
  split
  · next h => simp only [h, true_and, Option.mem_def, Option.some.injEq]
  · next h => simp only [h, false_and, Option.mem_def, reduceCtorEq]

theorem stripsInside_crlf (c : Content) : StripsInside (Typed.line ⟨c, .crlf⟩) := by
  rw [StripsInside, cString_line]
  intro i hi
  obtain ⟨-, hindex⟩ := mem_overwritten.mp hi
  have hlen : (Typed.line ⟨c, .crlf⟩).length = c.chars.length + 2 := by
    simp [Typed.line, LineEnd.chars]
  omega

theorem stripsInside_lf (c : Content) : StripsInside (Typed.line ⟨c, .lf⟩) ↔ c.chars ≠ [] := by
  have hlast : (Typed.line ⟨c, .lf⟩).getLast? = some '\n' := by
    simp [Typed.line, LineEnd.chars]
  have hlen : (Typed.line ⟨c, .lf⟩).length = c.chars.length + 1 := by
    simp [Typed.line, LineEnd.chars]
  rw [StripsInside, cString_line, ← List.length_pos_iff]
  constructor
  · intro h
    have hinside := h _ (mem_overwritten.mpr ⟨hlast, rfl⟩)
    omega
  · intro hpos i hi
    obtain ⟨-, hindex⟩ := mem_overwritten.mp hi
    omega

theorem stripLineEnd_typed (c : Content) : stripLineEnd (cString (Typed.line ⟨c, .crlf⟩)) = c.chars := by
  rw [cString_line]
  exact stripLineEnd_crlf c.chars

theorem crlf_of_stripped {t : Typed} (hinside : StripsInside t.line)
    (h : t.content.chars = stripLineEnd (cString t.line)) : t.lineEnd = .crlf := by
  obtain ⟨c, lineEnd⟩ := t
  cases lineEnd with
  | crlf => rfl
  | lf =>
    have hne : c.chars ≠ [] := (stripsInside_lf c).mp hinside
    have hpos : 0 < c.chars.length := List.length_pos_iff.mpr hne
    have hstripped : c.chars = c.chars.dropLast := by
      rw [cString_line] at h
      exact h.trans (stripLineEnd_lf hne)
    have hlen := congrArg List.length hstripped
    rw [List.length_dropLast] at hlen
    omega

theorem crlf_of_inside {e : LineEnd} (h : ∀ c : Content, StripsInside (Typed.line ⟨c, e⟩)) :
    e = .crlf := by
  cases e with
  | crlf => rfl
  | lf => exact absurd rfl ((stripsInside_lf ⟨[], by simp, by simp⟩).mp (h _))

theorem stripsInside_iff (t : Typed) :
    StripsInside t.line ↔ t.lineEnd = .crlf ∨ t.content.chars ≠ [] := by
  obtain ⟨c, lineEnd⟩ := t
  cases lineEnd with
  | crlf => simp [stripsInside_crlf]
  | lf => simp [stripsInside_lf]

end Stripping

section Named

variable {D : Type} [CDouble D] {S : CreatedAtSort D} {db : Database D} {username : CString} {u : User}

omit [CDouble D] in
theorem named_setBalance_map (w : User) : (db.setBalance w).named username =
    (db.named username).map (fun r => if r.userID = w.userID then
      { r with OMG := w.OMG, DOGE := w.DOGE, BTC := w.BTC, ETH := w.ETH } else r) := by
  have hname : (fun r : User => r.username == username) ∘
      (fun r => if r.userID = w.userID then
        { r with OMG := w.OMG, DOGE := w.DOGE, BTC := w.BTC, ETH := w.ETH } else r) =
      fun r => r.username == username := by
    funext r
    simp only [Function.comp]
    split <;> rfl
  simp only [Database.named, Database.setBalance, Database.updateBalanceRow, Table.modify,
    List.find?_map, hname]

omit [CDouble D] in
theorem named_setBalance (w : User) (h : db.named username = some u) :
    ∃ v, (db.setBalance w).named username = some v ∧ v.SameAccount u := by
  rw [named_setBalance_map, h]
  refine ⟨_, rfl, ?_⟩
  simp only
  split
  · exact ⟨rfl, rfl, rfl, rfl⟩
  · exact .refl u

omit [CDouble D] in
theorem named_addUser (newUser : User) (h : db.named username = some u) :
    (db.addUser newUser).named username = some u := by
  have hfind : db.users.rows.find? (fun r => r.username == username) = some u := h
  simp [Database.named, Database.addUser, Database.insertUserRow, hfind]

omit [CDouble D] in
theorem named_fill (ord m : Order D) (taker maker : User) (h : db.named username = some u) :
    ∃ v, (db.fill ord m taker maker).named username = some v ∧ v.SameAccount u := by
  obtain ⟨v, hv, hvu⟩ := named_setBalance taker h
  obtain ⟨w, hw, hwv⟩ := named_setBalance maker hv
  refine ⟨w, ?_, hwv.trans hvu⟩
  rw [Database.named, users_fill]
  exact hw

theorem named_kept {op : Op D} {db' : Database D} (heff : OpEffect S op db db')
    (h : db.named username = some u) : ∃ v, db'.named username = some v ∧ v.SameAccount u := by
  cases heff with
  | unchanged hs => exact ⟨u, h, .refl u⟩
  | registered newUser hop => exact ⟨u, named_addUser newUser h, .refl u⟩
  | elapsed seconds hop => exact ⟨u, h, .refl u⟩
  | posted ord u' hs hop hu' hi hn =>
    have hplaced : (db.place ord).named username = some u := h
    exact named_setBalance _ hplaced
  | filled ord m u' v taker maker hs hset => exact named_fill ord m taker maker h
  | filledAndPosted ord m u' v taker maker hs hset hq hi =>
    obtain ⟨w, hw, hwu⟩ := named_fill ord m taker maker h
    have hplaced : ((db.fill ord m taker maker).place (remainder db ord m)).named username = some w := hw
    obtain ⟨x, hx, hxw⟩ := named_setBalance (withholdBalance taker (remainder db ord m)) hplaced
    exact ⟨x, hx, hxw.trans hwu⟩
  | cancelled orderID currentUserID r u' hop hr hown hu' =>
    have hcancelled (w : User) (hw : (db.setBalance (refundBalance u' r)).named username = some w) :
        ((db.setBalance (refundBalance u' r)).deleteOrderRow orderID).named username = some w := hw
    obtain ⟨w, hw, hwu⟩ := named_setBalance (refundBalance u' r) h
    exact ⟨w, hcancelled w hw, hwu⟩

end Named

section Login

variable {S : CreatedAtSort Double} {db : Database Double} {username : CString} {u : User}

theorem named_serve (r : Request) (h : db.named username = some u) :
    ∃ v, (r.serve S db).named username = some v ∧ v.SameAccount u := by
  rw [serve_eq, perhaps]
  cases r.op with
  | none => exact ⟨u, h, .refl u⟩
  | some op => exact named_kept (apply_effect S op db) h

theorem named_run (later : List Request) (h : db.named username = some u) :
    ∃ v, (final (Request.serve S) later db).named username = some v ∧ v.SameAccount u := by
  induction later generalizing db u with
  | nil => exact ⟨u, h, .refl u⟩
  | cons r later ih =>
    obtain ⟨v, hv, hvu⟩ := named_serve (S := S) r h
    obtain ⟨w, hw, hwv⟩ := ih hv
    exact ⟨w, hw, hwv.trans hvu⟩

theorem registered_named (r : Registration) (h : (r.run S db).1 ≠ -1) :
    ∃ u, (r.run S db).2.named (stripLineEnd (cString r.username.line)) = some u ∧
      u.password = stripLineEnd (cString r.password.line) ∧ u.userID = (r.run S db).1 := by
  have hrun : r.run S db = if db.taken (stripLineEnd (cString r.username.line)) then (-1, db)
      else (db.users.seq + 1, db.addUser (newUser (stripLineEnd (cString r.username.line))
        (stripLineEnd (cString r.password.line)) (stripLineEnd (cString r.name.line)))) := by
    simp only [Registration.run, registerUser, Prog.run_bind, run_insertUser]
    cases db.taken (stripLineEnd (cString r.username.line)) <;> rfl
  cases ht : db.taken (stripLineEnd (cString r.username.line)) with
  | true => simp [hrun, ht] at h
  | false =>
    rw [hrun, ht]
    refine ⟨⟨db.users.seq + 1, stripLineEnd (cString r.username.line),
      stripLineEnd (cString r.password.line), stripLineEnd (cString r.name.line), DEFAULT_OMG,
      DEFAULT_DOGE, DEFAULT_BTC, DEFAULT_ETH⟩, ?_, rfl, rfl⟩
    have hfree : db.users.rows.find? (fun u => u.username == stripLineEnd (cString r.username.line)) =
        none := by
      refine List.find?_eq_none.mpr (fun u hu hname => ?_)
      have htaken : db.taken (stripLineEnd (cString r.username.line)) = true :=
        List.any_eq_true.mpr ⟨u, hu, hname⟩
      rw [ht] at htaken
      cases htaken
    simp [Database.named, Database.addUser, Database.insertUserRow, newUser, hfree]

theorem attempt_iff (usernameLine passwordLine : List Char) (userID : Int) :
    attempt S db usernameLine passwordLine = .commands userID ↔
      ∃ u, db.named (stripLineEnd (cString usernameLine)) = some u ∧
        stripLineEnd (cString passwordLine) = u.password ∧ u.userID = userID := by
  cases hu : db.named (stripLineEnd (cString usernameLine)) with
  | none =>
    simp only [attempt, final_cons, final_nil, serve_authenticateUsername, hu, Option.elim_none]
    cases db.named (stripLineEnd (cString passwordLine)) <;> simp
  | some u =>
    have hpos := named_positive hu
    simp only [attempt, final_cons, final_nil, serve_authenticateUsername, hu, Option.elim_some,
      serve_authenticatePassword]
    split
    · next hpassword => simp [enter_authenticated hpos, hpassword]
    · next hpassword => simp [hpassword]

theorem attempt_after (r : Registration) (later : List Request) (h : (r.run S db).1 ≠ -1)
    (usernameLine passwordLine : List Char) :
    attempt S (final (Request.serve S) later (r.run S db).2) usernameLine passwordLine =
        .commands (r.run S db).1 ↔
      stripLineEnd (cString usernameLine) = stripLineEnd (cString r.username.line) ∧
        stripLineEnd (cString passwordLine) = stripLineEnd (cString r.password.line) := by
  obtain ⟨u, hu, hpassword, hid⟩ := registered_named r h
  obtain ⟨v, hv, hvu⟩ := named_run (S := S) later hu
  obtain ⟨hvid, -, hvpassword, -⟩ := hvu
  rw [attempt_iff]
  constructor
  · rintro ⟨w, hw, hline, hwid⟩
    have hsame : w = v := Table.key_injective (named_mem hw) (named_mem hv)
      (hwid.trans (hvid.trans hid).symm)
    subst hsame
    exact ⟨(named_username hw).symm.trans (named_username hv),
      hline.trans (hvpassword.trans hpassword)⟩
  · rintro ⟨hname, hline⟩
    exact ⟨v, hname ▸ hv, hline.trans (hvpassword.trans hpassword).symm, hvid.trans hid⟩

end Login

theorem compared_as_typed_iff (S : CreatedAtSort Double) (db : Database Double) (r : Registration)
    (later : List Request) (usernameEnd passwordEnd : LineEnd) (h : (r.run S db).1 ≠ -1) :
    ComparedAsTyped S db r later usernameEnd passwordEnd ↔
      r.username.lineEnd = .crlf ∧ r.password.lineEnd = .crlf ∧ usernameEnd = .crlf ∧
        passwordEnd = .crlf ∧ (r.name.lineEnd = .crlf ∨ r.name.content.chars ≠ []) := by
  obtain ⟨⟨username, e⟩, name, ⟨password, e'⟩⟩ := r
  constructor
  · rintro ⟨husername, hname, hpassword, hinside, hlogin⟩
    have hue : usernameEnd = .crlf := crlf_of_inside (fun c => (hinside c username).1)
    have hpe : passwordEnd = .crlf := crlf_of_inside (fun c => (hinside username c).2)
    subst hue hpe
    have hself := (attempt_after _ later h _ _).mp ((hlogin username password).mpr ⟨rfl, rfl⟩)
    rw [stripLineEnd_typed, stripLineEnd_typed] at hself
    exact ⟨crlf_of_stripped husername hself.1, crlf_of_stripped hpassword hself.2, rfl, rfl,
      (stripsInside_iff name).mp hname⟩
  · rintro ⟨he, he', rfl, rfl, hname⟩
    simp only at he he'
    subst he he'
    refine ⟨stripsInside_crlf _, (stripsInside_iff name).mpr hname, stripsInside_crlf _,
      fun U P => ⟨stripsInside_crlf U, stripsInside_crlf P⟩, fun U P => ?_⟩
    rw [attempt_after _ later h]
    simp only [stripLineEnd_typed, Content.ext_iff]

def contentAb : Content := ⟨['a', 'b'], by decide, by decide⟩

def contentAc : Content := ⟨['a', 'c'], by decide, by decide⟩

theorem credentials_collide :
    ¬ ∀ (S : CreatedAtSort Double) (db : Database Double) (r : Registration) (later : List Request)
      (usernameEnd passwordEnd : LineEnd), (r.run S db).1 ≠ -1 →
        ComparedAsTyped S db r later usernameEnd passwordEnd := by
  intro h
  have hcompared := h (.stable Double) .empty
    ⟨⟨contentAb, .lf⟩, ⟨contentAb, .lf⟩, ⟨contentAb, .lf⟩⟩ [] .lf .lf (by decide +kernel)
  have hac := (hcompared.login contentAc contentAc).mp (by decide +kernel)
  revert hac
  decide

theorem compared_as_typed_crlf :
    ComparedAsTyped (.stable Double) .empty
      ⟨⟨contentAb, .crlf⟩, ⟨contentAc, .lf⟩, ⟨contentAc, .crlf⟩⟩
      [.line 1 "buy doge 1 5\r\n".toList, .elapse 1] .crlf .crlf :=
  (compared_as_typed_iff (.stable Double) .empty _ _ .crlf .crlf (by decide +kernel)).mpr
    ⟨rfl, rfl, rfl, rfl, .inr (by decide)⟩

end Marketplace
