import Mathlib.Tactic.IntervalCases
import Marketplace.Market.Operations

namespace Marketplace
open KeyedTable Runs

inductive TableName where
  | users
  | orders
  | archives
deriving DecidableEq, Repr

structure Schema (D : Type) where
  users : Option (Table User User.userID)
  orders : Option (Table (Order D) Order.orderID)
  archives : Option (Table (Order D) Order.orderID)

structure Sqlite3 (D : Type) where
  stored : Schema D
  pending : Option (Schema D)
  foreignKeys : Bool

variable {D : Type}

namespace Schema

def absent : Schema D := ⟨none, none, none⟩

def drop (s : Schema D) : TableName → Schema D
  | .users => { s with users := none }
  | .orders => { s with orders := none }
  | .archives => { s with archives := none }

def create (s : Schema D) : TableName → Schema D
  | .users => { s with users := some (s.users.getD KeyedTable.empty) }
  | .orders => { s with orders := some (s.orders.getD KeyedTable.empty) }
  | .archives => { s with archives := some (s.archives.getD KeyedTable.empty) }

def referenced (s : Schema D) : Bool :=
  let owners := (s.orders.elim [] Table.rows ++ s.archives.elim [] Table.rows).map Order.userID
  s.users.any fun users => owners.any fun userID => (users.find userID).isSome

def database (s : Schema D) (now : Nat) : Option (Database D) := do
  return ⟨← s.users, ← s.orders, ← s.archives, now, 0⟩

end Schema

def Database.schema (db : Database D) : Schema D :=
  ⟨some db.users, some db.orders, some db.archives⟩

namespace Sqlite3

def view (c : Sqlite3 D) : Schema D :=
  c.pending.getD c.stored

def write (c : Sqlite3 D) (s : Schema D) : Sqlite3 D :=
  if c.pending.isSome then { c with pending := some s } else { c with stored := s }

end Sqlite3

inductive Ddl where
  | foreignKeys (on : Bool)
  | beginTransaction
  | commit
  | dropTable (name : TableName)
  | createTable (name : TableName)
deriving DecidableEq, Repr

-- With foreign keys enforced, dropping a table first deletes its rows; the pragma does nothing
-- inside a transaction.
def Ddl.exec : Ddl → Sqlite3 D → Int × Sqlite3 D
  | .foreignKeys on, c =>
    (SQLITE_OK, if c.pending.isSome then c else { c with foreignKeys := on })
  | .beginTransaction, c =>
    if c.pending.isSome then (SQLITE_ERROR, c)
    else (SQLITE_OK, { c with pending := some c.stored })
  | .commit, c =>
    match c.pending with
    | none => (SQLITE_ERROR, c)
    | some s => (SQLITE_OK, { c with stored := s, pending := none })
  | .dropTable name, c =>
    if c.foreignKeys && name == .users && c.view.referenced then (SQLITE_CONSTRAINT, c)
    else (SQLITE_OK, c.write (c.view.drop name))
  | .createTable name, c => (SQLITE_OK, c.write (c.view.create name))

structure SqliteFailure where
  code : Int
  rollback : Bool
  code_ne : code ≠ SQLITE_OK

def sqlite3Exec (fails : Nat → Option SqliteFailure) : List Ddl → Sqlite3 D → Int × Sqlite3 D
  | [], c => (SQLITE_OK, c)
  | s :: sql, c =>
    match fails 0 with
    | some e => (e.code, if e.rollback then { c with pending := none } else c)
    | none =>
      if (s.exec c).1 ≠ SQLITE_OK then s.exec c
      else sqlite3Exec (fun n => fails (n + 1)) sql (s.exec c).2

def dropAllTablesSql : List Ddl :=
  [.foreignKeys false, .beginTransaction, .dropTable .users, .dropTable .orders,
    .dropTable .archives, .commit, .foreignKeys true]

def createTablesSql : List Ddl :=
  [.createTable .users, .createTable .orders, .createTable .archives]

def dropAllTables (fails : Nat → Option SqliteFailure) (c : Sqlite3 D) : Int × Sqlite3 D :=
  let (res, c) := sqlite3Exec fails dropAllTablesSql c
  if res ≠ SQLITE_OK then (SQLITE_ERROR, c) else (SQLITE_OK, c)

def createTables (fails : Nat → Option SqliteFailure) (c : Sqlite3 D) : Int × Sqlite3 D :=
  sqlite3Exec fails createTablesSql c

def closeDatabase (fails : Option SqliteFailure) (c : Sqlite3 D) : Int × Sqlite3 D :=
  if fails.isSome then (-1, c) else (SQLITE_OK, { c with pending := none })

structure Mishaps where
  opening : Option SqliteFailure
  dropping : Nat → Option SqliteFailure
  creating : Nat → Option SqliteFailure
  closing : Option SqliteFailure

def initDb (m : Mishaps) (c : Sqlite3 D) : Int × Sqlite3 D :=
  let (res, c) := dropAllTables m.dropping c
  if res ≠ 0 then (-1, (closeDatabase m.closing c).2)
  else
    let (res, c) := createTables m.creating c
    if res ≠ 0 then (-1, (closeDatabase m.closing c).2)
    else (0, c)

-- Foreign keys are off in a new connection; what an exiting process leaves pending is not stored.
def startUp (m : Mishaps) (file : Schema D) : Option (Sqlite3 D) × Schema D :=
  if m.opening.isSome then (none, file)
  else
    let (res, c) := initDb m ⟨file, none, false⟩
    if res = -1 then (none, c.stored) else (some c, c.stored)

section Script

variable {c : Sqlite3 D}

def afterDdl (sql : List Ddl) (c : Sqlite3 D) : Sqlite3 D :=
  sql.foldl (fun c s => (s.exec c).2) c

theorem exec_refused {s : Ddl} (h : (s.exec c).1 ≠ SQLITE_OK) : (s.exec c).2 = c := by
  cases s with
  | foreignKeys on => exact absurd rfl h
  | beginTransaction =>
    simp only [Ddl.exec] at h ⊢
    split at h
    · next hopen => rw [if_pos hopen]
    · exact absurd rfl h
  | commit =>
    simp only [Ddl.exec] at h ⊢
    cases hp : c.pending with
    | none => rfl
    | some s =>
      rw [hp] at h
      exact absurd rfl h
  | dropTable name =>
    simp only [Ddl.exec] at h ⊢
    split at h
    · next href => rw [if_pos href]
    · exact absurd rfl h
  | createTable name => exact absurd rfl h

-- Either every statement ran, or the file holds what some first statements made of it.
theorem sqlite3Exec_cases (fails : Nat → Option SqliteFailure) (sql : List Ddl) (c : Sqlite3 D) :
    sqlite3Exec fails sql c = (SQLITE_OK, afterDdl sql c) ∨
      (sqlite3Exec fails sql c).1 ≠ SQLITE_OK ∧
        ∃ k < sql.length, (sqlite3Exec fails sql c).2.stored = (afterDdl (sql.take k) c).stored := by
  induction sql generalizing fails c with
  | nil => exact .inl rfl
  | cons s sql ih =>
    rw [sqlite3Exec]
    cases hfail : fails 0 with
    | some e =>
      refine .inr ⟨e.code_ne, 0, Nat.succ_pos _, ?_⟩
      simp only
      split <;> rfl
    | none =>
      by_cases hres : (s.exec c).1 ≠ SQLITE_OK
      · simp only [if_pos hres]
        exact .inr ⟨hres, 0, Nat.succ_pos _, by rw [exec_refused hres]; rfl⟩
      · simp only [if_neg hres]
        rcases ih (fun n => fails (n + 1)) (s.exec c).2 with hrun | ⟨hcode, k, hk, hstored⟩
        · exact .inl hrun
        · exact .inr ⟨hcode, k + 1, Nat.succ_lt_succ hk, hstored⟩

def Accepted : List Ddl → Sqlite3 D → Prop
  | [], _ => True
  | s :: sql, c => (s.exec c).1 = SQLITE_OK ∧ Accepted sql (s.exec c).2

theorem sqlite3Exec_ok (fails : Nat → Option SqliteFailure) {sql : List Ddl}
    (haccepted : Accepted sql c) :
    (sqlite3Exec fails sql c).1 = SQLITE_OK ↔ ∀ i < sql.length, fails i = none := by
  induction sql generalizing fails c with
  | nil => exact ⟨fun _ i hi => absurd hi (Nat.not_lt_zero i), fun _ => rfl⟩
  | cons s sql ih =>
    rw [sqlite3Exec]
    cases hfail : fails 0 with
    | some e =>
      refine ⟨fun h => absurd h e.code_ne, fun h => ?_⟩
      rw [h 0 (Nat.succ_pos _)] at hfail
      cases hfail
    | none =>
      simp only [if_neg (not_not.mpr haccepted.1)]
      rw [ih (fun n => fails (n + 1)) haccepted.2]
      constructor
      · intro h i hi
        cases i with
        | zero => exact hfail
        | succ i => exact h i (Nat.lt_of_succ_lt_succ hi)
      · intro h i hi
        exact h (i + 1) (Nat.succ_lt_succ hi)

theorem accepted_dropAllTables (file : Schema D) (on : Bool) :
    Accepted dropAllTablesSql ⟨file, none, on⟩ :=
  ⟨rfl, rfl, rfl, rfl, rfl, rfl, rfl, trivial⟩

theorem accepted_createTables : Accepted createTablesSql ⟨Schema.absent (D := D), none, true⟩ :=
  ⟨rfl, rfl, rfl, trivial⟩

def createdFirst (k : Nat) : Schema D :=
  ([TableName.users, .orders, .archives].take k).foldl Schema.create Schema.absent

theorem dropAllTables_cases (fails : Nat → Option SqliteFailure) (file : Schema D) (on : Bool) :
    (∀ i < dropAllTablesSql.length, fails i = none) ∧
        dropAllTables fails ⟨file, none, on⟩ = (SQLITE_OK, ⟨Schema.absent, none, true⟩) ∨
      (¬ ∀ i < dropAllTablesSql.length, fails i = none) ∧
        (dropAllTables fails ⟨file, none, on⟩).1 = SQLITE_ERROR ∧
          ((dropAllTables fails ⟨file, none, on⟩).2.stored = file ∨
            (dropAllTables fails ⟨file, none, on⟩).2.stored = Schema.absent) := by
  have hok := sqlite3Exec_ok fails (accepted_dropAllTables file on)
  rcases sqlite3Exec_cases fails dropAllTablesSql ⟨file, none, on⟩ with hrun | ⟨hcode, k, hk, hstored⟩
  · refine .inl ⟨hok.mp (congrArg Prod.fst hrun), ?_⟩
    rw [dropAllTables, hrun]
    rfl
  · refine .inr ⟨fun h => hcode (hok.mpr h), ?_⟩
    simp only [dropAllTables, if_pos hcode, hstored, true_and]
    change k < 7 at hk
    -- only the statement after COMMIT finds the tables gone
    rcases Nat.lt_or_eq_of_le (Nat.le_of_lt_succ hk) with hbefore | rfl
    · refine .inl ?_
      interval_cases k <;> rfl
    · exact .inr rfl

theorem createTables_cases (fails : Nat → Option SqliteFailure) :
    (∀ i < createTablesSql.length, fails i = none) ∧
        createTables fails ⟨Schema.absent (D := D), none, true⟩ =
          (SQLITE_OK, ⟨Database.empty.schema, none, true⟩) ∨
      (¬ ∀ i < createTablesSql.length, fails i = none) ∧
        (createTables fails ⟨Schema.absent (D := D), none, true⟩).1 ≠ SQLITE_OK ∧
          ∃ k < 3,
            (createTables fails ⟨Schema.absent (D := D), none, true⟩).2.stored = createdFirst k := by
  have hok := sqlite3Exec_ok fails (accepted_createTables (D := D))
  rcases sqlite3Exec_cases fails createTablesSql ⟨Schema.absent (D := D), none, true⟩ with
    hrun | ⟨hcode, k, hk, hstored⟩
  · exact .inl ⟨hok.mp (congrArg Prod.fst hrun), hrun⟩
  · refine .inr ⟨fun h => hcode (hok.mpr h), hcode, k, hk, hstored.trans ?_⟩
    change k < 3 at hk
    interval_cases k <;> rfl

end Script

structure Mishaps.None (m : Mishaps) : Prop where
  opening : m.opening = none
  dropping : ∀ i < dropAllTablesSql.length, m.dropping i = none
  creating : ∀ i < createTablesSql.length, m.creating i = none

-- A server starts with fresh tables and foreign keys enforced, or leaves a file it either did
-- not touch or emptied of every old table.
inductive StartUp (m : Mishaps) (file : Schema D) : Option (Sqlite3 D) × Schema D → Prop
  | served (h : m.None) :
    StartUp m file (some ⟨Database.empty.schema, none, true⟩, Database.empty.schema)
  | untouched (h : ¬ m.None) : StartUp m file (none, file)
  | unfinished (h : ¬ m.None) (k : Nat) (hk : k < 3) : StartUp m file (none, createdFirst k)

theorem stored_closeDatabase (fails : Option SqliteFailure) (c : Sqlite3 D) :
    (closeDatabase fails c).2.stored = c.stored := by
  rw [closeDatabase]
  split <;> rfl

theorem startUp_spec (m : Mishaps) (file : Schema D) : StartUp m file (startUp m file) := by
  cases hopen : m.opening with
  | some e =>
    have hnone : ¬ m.None := fun h => by
      rw [h.opening] at hopen
      cases hopen
    have hrun : startUp m file = (none, file) := by
      rw [startUp, hopen]
      rfl
    rw [hrun]
    exact .untouched hnone
  | none =>
    rcases dropAllTables_cases m.dropping file false with ⟨hquiet, hdrop⟩ | ⟨hfail, hcode, hstored⟩
    · rcases createTables_cases (D := D) m.creating with
        ⟨hquiet', hcreate⟩ | ⟨hfail, hcode, k, hk, hstored⟩
      · have hrun : startUp m file =
            (some ⟨Database.empty.schema, none, true⟩, Database.empty.schema) := by
          simp [startUp, initDb, hopen, hdrop, hcreate, SQLITE_OK]
        rw [hrun]
        exact .served ⟨hopen, hquiet, hquiet'⟩
      · have hrun : startUp m file = (none, createdFirst k) := by
          simp only [SQLITE_OK] at hcode
          simp [startUp, initDb, hopen, hdrop, hcode, stored_closeDatabase, hstored, SQLITE_OK]
        rw [hrun]
        exact .unfinished (fun h => hfail h.creating) k hk
    · have hrun : startUp m file =
          (none, (dropAllTables m.dropping ⟨file, none, false⟩).2.stored) := by
        simp [startUp, initDb, hopen, hcode, stored_closeDatabase, SQLITE_ERROR]
      have hnone : ¬ m.None := fun h => hfail h.dropping
      rw [hrun]
      rcases hstored with hstored | hstored
      · rw [hstored]
        exact .untouched hnone
      · rw [hstored]
        exact .unfinished hnone 0 (by decide)

structure ServerLife (D : Type) where
  mishaps : Mishaps
  now : Nat
  ops : List (Op D)

variable [CDouble D]

-- One life of the server on the file: what it serves is stored when it ends.
def ServerLife.live (S : CreatedAtSort D) (s : ServerLife D) (file : Schema D) : Schema D :=
  match startUp s.mishaps file with
  | (none, left) => left
  | (some c, left) => (c.view.database s.now).elim left fun db => (final (apply S) s.ops db).schema

def freshDatabase (now : Nat) : Database D :=
  { Database.empty with now }

theorem live_eq (S : CreatedAtSort D) (s : ServerLife D) (file : Schema D) :
    s.mishaps.None ∧ s.live S file = (final (apply S) s.ops (freshDatabase s.now)).schema ∨
      ¬ s.mishaps.None ∧ (s.live S file = file ∨ ∃ k < 3, s.live S file = createdFirst k) := by
  have hstart := startUp_spec s.mishaps file
  rw [ServerLife.live]
  generalize startUp s.mishaps file = r at hstart ⊢
  cases hstart with
  | served h => exact .inl ⟨h, rfl⟩
  | untouched h => exact .inr ⟨h, .inl rfl⟩
  | unfinished h k hk => exact .inr ⟨h, .inr ⟨k, hk, rfl⟩⟩

inductive FileLeft (S : CreatedAtSort D) (file : Schema D) (lives : List (ServerLife D)) :
    Schema D → Prop
  | untouched (h : ∀ s ∈ lives, ¬ s.mishaps.None) : FileLeft S file lives file
  | emptied (before : List (ServerLife D)) (s : ServerLife D) (later : List (ServerLife D))
    (hs : lives = before ++ s :: later) (hfails : ∀ s' ∈ s :: later, ¬ s'.mishaps.None) (k : Nat)
    (hk : k < 3) : FileLeft S file lives (createdFirst k)
  | served (before : List (ServerLife D)) (s : ServerLife D) (later : List (ServerLife D))
    (hs : lives = before ++ s :: later) (h : s.mishaps.None)
    (hlater : ∀ s' ∈ later, ¬ s'.mishaps.None) :
    FileLeft S file lives (final (apply S) s.ops (freshDatabase s.now)).schema

omit [CDouble D] in
theorem fails_concat {lives : List (ServerLife D)} {s : ServerLife D}
    (h : ∀ s' ∈ lives, ¬ s'.mishaps.None) (hs : ¬ s.mishaps.None) :
    ∀ s' ∈ lives ++ [s], ¬ s'.mishaps.None := by
  intro s' hs'
  rcases List.mem_append.mp hs' with hs' | hs'
  · exact h s' hs'
  · rw [List.mem_singleton.mp hs']
    exact hs

theorem left_live {S : CreatedAtSort D} {file left : Schema D} {lives : List (ServerLife D)}
    (h : FileLeft S file lives left) (s : ServerLife D) :
    FileLeft S file (lives ++ [s]) (s.live S left) := by
  rcases live_eq S s left with ⟨hserves, hlive⟩ | ⟨hfails, hlive | ⟨k, hk, hlive⟩⟩
  · rw [hlive]
    refine .served lives s [] rfl hserves ?_
    intro s' hs'
    cases hs'
  · rw [hlive]
    cases h with
    | untouched h => exact .untouched (fails_concat h hfails)
    | emptied before s₀ later hs h k hk =>
      subst hs
      refine .emptied before s₀ (later ++ [s]) (by simp) ?_ k hk
      exact fails_concat h hfails
    | served before s₀ later hs h hlater =>
      subst hs
      exact .served before s₀ (later ++ [s]) (by simp) h (fails_concat hlater hfails)
  · rw [hlive]
    refine .emptied lives s [] rfl ?_ k hk
    intro s' hs'
    rwa [List.mem_singleton.mp hs']

theorem lives_start_afresh (S : CreatedAtSort D) (file : Schema D)
    (lives : List (ServerLife D)) : FileLeft S file lives (final (ServerLife.live S) lives file) := by
  have hnone : FileLeft S file [] file := by
    refine .untouched (fun s hs => ?_)
    cases hs
  exact history_final hnone (fun lives s h => left_live h s) lives

end Marketplace
