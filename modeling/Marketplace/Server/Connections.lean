import Marketplace.Server.Login

namespace Marketplace
open CallTree KeyedTable Runs

structure Server (ι : Type) where
  connections : ι → Option Dialogue
  db : Database Double

inductive Arrival (ι : Type) where
  | connect (i : ι)
  | typed (i : ι) (line : List Char)
  | closed (i : ι)
  | elapse (seconds : Nat)

def listenForConnections {ι : Type} (db : Database Double) : Server ι where
  connections _ := none
  db := db

variable {ι : Type} [DecidableEq ι]

def Server.put (s : Server ι) (i : ι) (d : Dialogue) : Server ι :=
  { s with connections := Function.update s.connections i (some d) }

def Dialogue.request : Dialogue → List Char → Option Request
  | .registerPassword _ usernameLine nameLine, line =>
    some (.register usernameLine nameLine (cString line))
  | .commands userID, line => some (.line userID (cString line))
  | _, _ => none

namespace Arrival

def serve (S : CreatedAtSort Double) : Arrival ι → Server ι → Server ι
  | .connect i, s =>
    match s.connections i with
    | none => s.put i (acceptClient s.db).dialogue
    | some _ => s
  | .typed i line, s =>
    match s.connections i with
    | none => s
    | some d =>
      let res := (d.read line).run (perform S) s.db
      { s.put i res.1 with db := res.2 }
  | .closed i, s =>
    match s.connections i with
    | none => s
    | some _ => s.put i .exited
  | .elapse seconds, s => { s with db := s.db.elapse seconds }

-- what one child process notices of an arrival: its own input, and the others' requests
def seenBy (i : ι) (a : Arrival ι) (s : Server ι) : Option Event :=
  match a with
  | .connect _ => none
  | .typed j line =>
    if j = i then some (.typed line)
    else ((s.connections j).bind (fun d => d.request line)).map .elsewhere
  | .closed j => if j = i then some .closed else none
  | .elapse seconds => some (.elsewhere (.elapse seconds))

end Arrival

def seen (S : CreatedAtSort Double) (i : ι) : List (Arrival ι) → Server ι → List Event
  | [], _ => []
  | a :: arrivals, s => (a.seenBy i s).toList ++ seen S i arrivals (a.serve S s)

section Request

variable (S : CreatedAtSort Double) (db : Database Double) (line : List Char)

theorem read_request (d : Dialogue) : ((d.read line).run (perform S) db).2 =
    (d.request line).elim db (fun r => r.serve S db) := by
  cases d with
  | menu userID status =>
    obtain ⟨next, hread, -⟩ := read_menu userID status line
    rw [hread]
    rfl
  | registerUsername status => rfl
  | registerName status usernameLine => rfl
  | registerPassword status usernameLine nameLine =>
    simp only [Dialogue.read, Dialogue.request, Option.elim_some, Request.serve, Prog.run_bind,
      Prog.run_pure]
  | authenticateUsername => exact congrArg Connection.db (serve_authenticateUsername S db line)
  | authenticatePassword u => exact congrArg Connection.db (serve_authenticatePassword S db line u)
  | commands userID =>
    simp only [Dialogue.read, Dialogue.request, Option.elim_some, Request.serve, Prog.run_bind]
    cases ((echo userID (cString line)).run (perform S) db).1 <;> rfl
  | exited => rfl

end Request

section Refinement

variable {S : CreatedAtSort Double} {s : Server ι} {i : ι} {d : Dialogue}

theorem seenBy_refines (a : Arrival ι) (h : s.connections i = some d) :
    ∃ d', (a.serve S s).connections i = some d' ∧
      (⟨d', (a.serve S s).db⟩ : Connection) = final (Event.serve S) (a.seenBy i s).toList ⟨d, s.db⟩ := by
  cases a with
  | connect j =>
    refine ⟨d, ?_, ?_⟩
    · simp only [Arrival.serve]
      split
      · next hj =>
        have hne : i ≠ j := by
          rintro rfl
          cases hj.symm.trans h
        exact (Function.update_of_ne hne _ _).trans h
      · exact h
    · simp only [Arrival.serve, Arrival.seenBy]
      split <;> rfl
  | typed j line =>
    simp only [Arrival.serve, Arrival.seenBy]
    by_cases hj : j = i
    · subst hj
      rw [if_pos rfl, h]
      exact ⟨_, Function.update_self _ _ _, rfl⟩
    · rw [if_neg hj]
      cases hd : s.connections j with
      | none => exact ⟨d, h, rfl⟩
      | some dj =>
        refine ⟨d, (Function.update_of_ne (Ne.symm hj) _ _).trans h, ?_⟩
        simp only [Option.bind_some, read_request]
        cases dj.request line <;> rfl
  | closed j =>
    simp only [Arrival.serve, Arrival.seenBy]
    by_cases hj : j = i
    · subst hj
      rw [if_pos rfl, h]
      exact ⟨_, Function.update_self _ _ _, rfl⟩
    · rw [if_neg hj]
      refine ⟨d, ?_, ?_⟩
      · split
        · exact h
        · exact (Function.update_of_ne (Ne.symm hj) _ _).trans h
      · split <;> rfl
  | elapse seconds => exact ⟨d, h, rfl⟩

theorem refines_run (arrivals : List (Arrival ι)) (h : s.connections i = some d) :
    ∃ d', (final (Arrival.serve S) arrivals s).connections i = some d' ∧
      (⟨d', (final (Arrival.serve S) arrivals s).db⟩ : Connection) =
        final (Event.serve S) (seen S i arrivals s) ⟨d, s.db⟩ := by
  induction arrivals generalizing s d with
  | nil => exact ⟨d, h, rfl⟩
  | cons a arrivals ih =>
    obtain ⟨d₁, h₁, hconn₁⟩ := seenBy_refines a h
    obtain ⟨d₂, h₂, hconn₂⟩ := ih h₁
    refine ⟨d₂, h₂, ?_⟩
    rw [seen, final_append, ← hconn₁]
    exact hconn₂

-- the connect event is the last moment at which the connection was not there
theorem connected_since {arrivals : List (Arrival ι)} (hstart : s.connections i = none)
    (h : (final (Arrival.serve S) arrivals s).connections i ≠ none) :
    ∃ before after, arrivals = before ++ .connect i :: after ∧
      (final (Arrival.serve S) before s).connections i = none := by
  induction arrivals using List.reverseRecOn with
  | nil => exact absurd hstart h
  | append_singleton arrivals a ih =>
    by_cases hbefore : (final (Arrival.serve S) arrivals s).connections i = none
    · refine ⟨arrivals, [], ?_, hbefore⟩
      rw [final_concat] at h
      generalize final (Arrival.serve S) arrivals s = now at h hbefore
      cases a with
      | connect j =>
        by_cases hj : i = j
        · rw [hj]
        · simp only [Arrival.serve] at h
          split at h
          · exact absurd ((Function.update_of_ne hj _ _).trans hbefore) h
          · exact absurd hbefore h
      | typed j line =>
        simp only [Arrival.serve] at h
        split at h
        · exact absurd hbefore h
        · next d hd =>
          have hj : i ≠ j := by
            rintro rfl
            cases hbefore.symm.trans hd
          exact absurd ((Function.update_of_ne hj _ _).trans hbefore) h
      | closed j =>
        simp only [Arrival.serve] at h
        split at h
        · exact absurd hbefore h
        · next d hd =>
          have hj : i ≠ j := by
            rintro rfl
            cases hbefore.symm.trans hd
          exact absurd ((Function.update_of_ne hj _ _).trans hbefore) h
      | elapse seconds => exact absurd hbefore h
    · obtain ⟨before, after, rfl, hnone⟩ := ih hbefore
      exact ⟨before, after ++ [a], by simp, hnone⟩

end Refinement

end Marketplace
