import Marketplace.Server.Dialogue

namespace Marketplace
open CallTree KeyedTable Runs

section Definitions

variable (S : CreatedAtSort Double) (c : Connection) (events : List Event)

def Asked (u : User) : Prop :=
  ∃ before line between, events = before ++ .typed line :: between ∧
    (∀ e ∈ between, e.isElsewhere = true) ∧
    (final (Event.serve S) before c).dialogue = .authenticateUsername ∧
    (final (Event.serve S) before c).db.named (stripLineEnd (cString line)) = some u

def LoggedIn (userID : Int) : Prop :=
  ∃ before line after u, events = before ++ .typed line :: after ∧ Asked S c before u ∧
    stripLineEnd (cString line) = u.password ∧ u.userID = userID ∧
    ∀ done rest, after = done ++ rest →
      (final (Event.serve S) (before ++ .typed line :: done) c).dialogue = .commands userID

def Vouched (now : Connection) : Prop :=
  match now.dialogue with
  | .menu _ status => status ≠ 1
  | .registerUsername status => status ≠ 1
  | .registerName status _ => status ≠ 1
  | .registerPassword status _ _ => status ≠ 1
  | .authenticatePassword u => Asked S c events u ∧ 0 < u.userID
  | .commands userID => LoggedIn S c events userID
  | _ => True

end Definitions

section Dialogue

variable {userID status : Int}

theorem enter_unauthenticated (h : status ≠ 1) : Dialogue.enter userID status = .menu userID status :=
  if_pos (.inr (.inr h))

theorem enter_authenticated (h : 0 < userID) : Dialogue.enter userID 1 = .commands userID := by
  refine if_neg ?_
  rintro (h' | h' | h')
  · omega
  · omega
  · exact h' rfl

theorem read_menu (userID status : Int) (line : List Char) :
    ∃ next, (Dialogue.menu userID status).read line = pure next ∧
      (next = .registerUsername status ∨ next = .authenticateUsername ∨
        next = .enter userID status) := by
  simp only [Dialogue.read]
  split
  · exact ⟨_, rfl, .inl rfl⟩
  · exact ⟨_, rfl, .inr (.inl rfl)⟩
  · exact ⟨_, rfl, .inr (.inr rfl)⟩

theorem read_commands (S : CreatedAtSort Double) (db : Database Double) (userID : Int)
    (line : List Char) : (((Dialogue.commands userID).read line).run (perform S) db).1 = .exited ∨
      (((Dialogue.commands userID).read line).run (perform S) db).1 = .commands userID := by
  simp only [Dialogue.read, Prog.run_bind]
  cases ((echo userID (cString line)).run (perform S) db).1 with
  | crashed => exact .inl rfl
  | _ =>
    cases endOfFile line with
    | true => exact .inl rfl
    | false => exact .inr rfl

end Dialogue

section Step

variable {S : CreatedAtSort Double} {c : Connection} {events : List Event}

theorem asked_elsewhere {u : User} (h : Asked S c events u) (r : Request) :
    Asked S c (events ++ [.elsewhere r]) u := by
  obtain ⟨before, line, between, rfl, hbetween, hasked, hnamed⟩ := h
  refine ⟨before, line, between ++ [.elsewhere r], by simp, fun e he => ?_, hasked, hnamed⟩
  rcases List.mem_append.mp he with he | he
  · exact hbetween e he
  · rw [List.mem_singleton.mp he]
    rfl

theorem loggedIn_concat {userID : Int} {e : Event} (h : LoggedIn S c events userID)
    (hnow : (e.serve S (final (Event.serve S) events c)).dialogue = .commands userID) :
    LoggedIn S c (events ++ [e]) userID := by
  obtain ⟨before, line, after, u, rfl, hasked, hpassword, hid, hstays⟩ := h
  refine ⟨before, line, after ++ [e], u, by simp, hasked, hpassword, hid, fun done rest hsplit => ?_⟩
  rcases List.eq_nil_or_concat' rest with rfl | ⟨rest, last, rfl⟩
  · have hdone : before ++ .typed line :: done = (before ++ .typed line :: after) ++ [e] := by
      rw [← show after ++ [e] = done by simpa using hsplit]
      simp
    rw [hdone, final_concat]
    exact hnow
  · rw [← List.append_assoc] at hsplit
    exact hstays done rest (List.append_inj_left' hsplit rfl)

theorem vouched_typed (line : List Char) (h : Vouched S c events (final (Event.serve S) events c)) :
    Vouched S c (events ++ [.typed line])
      ((Event.typed line).serve S (final (Event.serve S) events c)) := by
  generalize hnow : final (Event.serve S) events c = now at h ⊢
  obtain ⟨dialogue, db⟩ := now
  cases dialogue with
  | menu userID status =>
    obtain ⟨next, hread, hnext⟩ := read_menu userID status line
    simp only [Vouched, Event.serve, hread, Prog.run_pure]
    rcases hnext with rfl | rfl | rfl
    · exact h
    · trivial
    · rw [enter_unauthenticated h]
      exact h
  | registerUsername status => exact h
  | registerName status usernameLine => exact h
  | registerPassword status usernameLine nameLine =>
    simp only [Vouched, Event.serve, Dialogue.read, Prog.run_bind, Prog.run_pure]
    rw [enter_unauthenticated h]
    exact h
  | authenticateUsername =>
    rw [serve_authenticateUsername]
    cases hu : db.named (stripLineEnd (cString line)) with
    | none => trivial
    | some u =>
      refine ⟨⟨events, line, [], rfl, by simp, ?_, ?_⟩, named_positive hu⟩
      · rw [hnow]
      · rw [hnow]
        exact hu
  | authenticatePassword u =>
    obtain ⟨hasked, hpos⟩ := h
    rw [serve_authenticatePassword]
    split
    · next hpassword =>
      rw [enter_authenticated hpos]
      refine ⟨events, line, [], u, rfl, hasked, hpassword, rfl, fun done rest hsplit => ?_⟩
      obtain ⟨rfl, -⟩ := List.nil_eq_append_iff.mp hsplit
      rw [final_concat, hnow, serve_authenticatePassword, if_pos hpassword, enter_authenticated hpos]
    · trivial
  | commands userID =>
    have hlogged : LoggedIn S c events userID := h
    rcases read_commands S db userID line with hexited | hstays
    · rw [Vouched, Event.serve, hexited]
      trivial
    · rw [Vouched, Event.serve, hstays]
      refine loggedIn_concat hlogged ?_
      rw [hnow]
      exact hstays
  | exited => trivial

theorem vouched_serve (e : Event) (h : Vouched S c events (final (Event.serve S) events c)) :
    Vouched S c (events ++ [e]) (e.serve S (final (Event.serve S) events c)) := by
  cases e with
  | typed line => exact vouched_typed line h
  | closed => trivial
  | elsewhere r =>
    generalize hnow : final (Event.serve S) events c = now at h ⊢
    obtain ⟨dialogue, db⟩ := now
    cases dialogue with
    | authenticatePassword u => exact ⟨asked_elsewhere h.1 r, h.2⟩
    | commands userID =>
      refine loggedIn_concat (e := .elsewhere r) h ?_
      rw [hnow]
      rfl
    | _ => exact h

theorem vouched_run (S : CreatedAtSort Double) (db : Database Double) (events : List Event) :
    Vouched S (acceptClient db) events (final (Event.serve S) events (acceptClient db)) := by
  refine history_final (H := Vouched S (acceptClient db)) ?_ (fun as a => vouched_serve a) events
  have hstatus : (0 : Int) ≠ 1 := by decide
  exact hstatus

theorem registering_not_commands {now : Connection} (h : Vouched S c events now)
    (hreg : now.dialogue.registering = true) (e : Event) (userID : Int) :
    (e.serve S now).dialogue ≠ .commands userID := by
  obtain ⟨dialogue, db⟩ := now
  intro hcommands
  cases e with
  | closed => cases hcommands
  | elsewhere r =>
    cases hcommands
    cases hreg
  | typed line =>
    cases dialogue with
    | registerUsername status => cases hcommands
    | registerName status usernameLine => cases hcommands
    | registerPassword status usernameLine nameLine =>
      simp only [Event.serve, Dialogue.read, Prog.run_bind, Prog.run_pure] at hcommands
      rw [enter_unauthenticated h] at hcommands
      cases hcommands
    | _ => cases hreg

theorem typed_keeps_market (now : Connection) (h : ∀ userID, now.dialogue ≠ .commands userID)
    (line : List Char) : ((Event.typed line).serve S now).db.orders = now.db.orders ∧
      ((Event.typed line).serve S now).db.archives = now.db.archives := by
  obtain ⟨dialogue, db⟩ := now
  cases dialogue with
  | menu userID status =>
    obtain ⟨next, hread, -⟩ := read_menu userID status line
    simp [Event.serve, hread]
  | registerUsername status => exact ⟨rfl, rfl⟩
  | registerName status usernameLine => exact ⟨rfl, rfl⟩
  | registerPassword status usernameLine nameLine =>
    have hdb : ((Event.typed line).serve S
        ⟨.registerPassword status usernameLine nameLine, db⟩).db =
          (Request.register usernameLine nameLine (cString line)).serve S db := by
      simp only [Event.serve, Dialogue.read, Prog.run_bind, Prog.run_pure, Request.serve]
    rw [hdb, serve_eq]
    simp only [Request.op, perhaps, Option.elim_some, apply_register]
    split <;> exact ⟨rfl, rfl⟩
  | authenticateUsername =>
    rw [serve_authenticateUsername]
    exact ⟨rfl, rfl⟩
  | authenticatePassword u =>
    rw [serve_authenticatePassword]
    exact ⟨rfl, rfl⟩
  | commands userID => exact absurd rfl (h userID)
  | exited => exact ⟨rfl, rfl⟩

end Step

theorem commands_after_login (S : CreatedAtSort Double) (db : Database Double) (events : List Event) :
    (∀ userID, (final (Event.serve S) events (acceptClient db)).dialogue = .commands userID →
      LoggedIn S (acceptClient db) events userID) ∧
    ((final (Event.serve S) events (acceptClient db)).dialogue.registering = true →
      ∀ e userID, (Event.serve S e (final (Event.serve S) events (acceptClient db))).dialogue ≠
        .commands userID) ∧
    ((∀ userID, (final (Event.serve S) events (acceptClient db)).dialogue ≠ .commands userID) →
      ∀ line, ((Event.typed line).serve S (final (Event.serve S) events (acceptClient db))).db.orders =
          (final (Event.serve S) events (acceptClient db)).db.orders ∧
        ((Event.typed line).serve S (final (Event.serve S) events (acceptClient db))).db.archives =
          (final (Event.serve S) events (acceptClient db)).db.archives) := by
  have hvouched := vouched_run S db events
  generalize final (Event.serve S) events (acceptClient db) = now at hvouched ⊢
  refine ⟨fun userID hnow => ?_, registering_not_commands hvouched, typed_keeps_market now⟩
  rwa [Vouched, hnow] at hvouched

def registerAndLogIn : List Event :=
  [.typed "r\r\n".toList, .typed "ab\r\n".toList, .typed "A\r\n".toList, .typed "p\r\n".toList,
    .typed "u\r\n".toList, .typed "ab\r\n".toList, .typed "p\r\n".toList]

example : (final (Event.serve (.stable Double)) registerAndLogIn (acceptClient .empty)).dialogue =
    .commands 1 := by decide +kernel

end Marketplace
