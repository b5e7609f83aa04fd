import Marketplace.Server.ForkedServer

namespace Marketplace
open CallTree Interleaving KeyedTable RelyGuarantee Runs
open scoped List

variable {ι : Type} [DecidableEq ι]

section Credentials

def Entered (i : ι) (actions : List (ServerAction ι)) (u : User) : Prop :=
  ∃ usernameLine passwordLine, [.typed i usernameLine, .typed i passwordLine] <+ actions ∧
    stripLineEnd (cString usernameLine) = u.username ∧
    stripLineEnd (cString passwordLine) = u.password

def Standing (i : ι) (actions : List (ServerAction ι)) (db : Database Double) : Dialogue → Prop
  | .authenticatePassword u => 0 < u.userID ∧ Enrolled u u.userID db ∧
      ∃ line, [.typed i line] <+ actions ∧ stripLineEnd (cString line) = u.username
  | .commands userID => ∃ u, Enrolled u userID db ∧ Entered i actions u
  | d => d.Outside

structure Vetted (S : CreatedAtSort Double) (actions : List (ServerAction ι)) (s : ForkedServer ι) :
    Prop where
  governed : Governed (attend S) (fun _ => True) Rely
    (fun i (x : Dialogue × List Char) => Acts (Conducted i (x.1.clientCall x.2)) i)
    (fun _ x next w => x.1.Follows w.db x.2 next) s.workers
  standing : ∀ i d, s.dialogues i = some d → Standing i actions s.world.db d
  working : ∀ i d line, s.workers.running i = some (d, line) →
    ∃ before, before ++ [.typed i line] <+ actions ∧ Standing i before s.world.db d

variable {S : CreatedAtSort Double} {actions : List (ServerAction ι)} {s : ForkedServer ι} {i : ι}

theorem workers_contract (S : CreatedAtSort Double) :
    Contract (attend S) (fun x : Dialogue × List Char => x.1.read x.2)
      (Forked.disturb : Disturbance ι → Forked Double ι → Forked Double ι) (fun _ => True) Rely
      (fun i x => Acts (Conducted i (x.1.clientCall x.2)) i)
      (fun _ x next w => x.1.Follows w.db x.2 next) where
  refl := .refl
  trans _ _ _ _ h h' := h.trans h'
  env := rely_disturb
  others _ _ _ _ _ hij h := h.rely hij
  meets _ x w _ := dialogue_sound x.1 x.2 w

omit [DecidableEq ι] in
theorem outside_standing {db : Database Double} {d : Dialogue} (h : d.Outside) :
    Standing i actions db d := by
  cases d with
  | authenticatePassword u => exact h.elim
  | commands userID => exact h.elim
  | _ => exact h

omit [DecidableEq ι] in
theorem Standing.mono {actions' : List (ServerAction ι)} {db db' : Database Double} {d : Dialogue}
    (hactions : actions <+ actions') (hdb : Evolves db db') (h : Standing i actions db d) :
    Standing i actions' db' d := by
  cases d with
  | authenticatePassword u =>
    obtain ⟨hpos, henrolled, line, hline, hname⟩ := h
    exact ⟨hpos, henrolled.evolves hdb, line, hline.trans hactions, hname⟩
  | commands userID =>
    obtain ⟨u, henrolled, l, l', hlines, hentered⟩ := h
    exact ⟨u, henrolled.evolves hdb, l, l', hlines.trans hactions, hentered⟩
  | _ => exact h

omit [DecidableEq ι] in
theorem standing_follows {before : List (ServerAction ι)} {db : Database Double} {d next : Dialogue}
    {line : List Char} (hline : before ++ [.typed i line] <+ actions)
    (hd : Standing i before db d) (hnext : d.Follows db line next) :
    Standing i actions db next := by
  have hbefore : before <+ actions := (List.sublist_append_left ..).trans hline
  cases d with
  | authenticateUsername =>
    rcases hnext with hout | ⟨u, rfl, haccount⟩
    · exact outside_standing hout
    · exact ⟨haccount.positive, haccount.enrolled, line,
        (List.sublist_append_right ..).trans hline, haccount.username.symm⟩
  | authenticatePassword u =>
    obtain ⟨hpos, henrolled, nameLine, hname, hsame⟩ := hd
    rcases hnext with hout | ⟨hpassword, rfl⟩
    · exact outside_standing hout
    · rw [enter_authenticated hpos]
      exact ⟨u, henrolled, nameLine, line, (hname.append (.refl _)).trans hline, hsame, hpassword⟩
  | commands userID =>
    rcases hnext with hout | rfl
    · exact outside_standing hout
    · exact hd.mono hbefore (.refl db)
  | _ => exact outside_standing (hnext hd)

theorem Vetted.put (h : Vetted S actions s) {d : Dialogue}
    (hd : Standing i actions s.world.db d) : Vetted S actions (s.put i d) := by
  refine ⟨h.governed, fun j e hj => ?_, h.working⟩
  by_cases hji : j = i
  · subst hji
    rw [ForkedServer.dialogues_put_self] at hj
    cases hj
    exact hd
  · rw [ForkedServer.dialogues_put_other s hji] at hj
    exact h.standing j e hj

theorem Vetted.work (h : Vetted S actions s) (last : ServerAction ι)
    (a : Action ι (Dialogue × List Char) (Disturbance ι))
    (ha : ∀ i d line, a = .start i (d, line) → s.dialogues i = some d ∧ last = .typed i line) :
    Vetted S (actions ++ [last]) (s.work S a) := by
  have hstarts : Starts (fun _ => True) a := by cases a <;> trivial
  obtain ⟨hgoverned, hmoves⟩ := (workers_contract S).governed_step hstarts h.governed
  have hevolves : Evolves s.world.db (s.work S a).world.db := by
    change Evolves s.world.db (Pool.step _ _ _ a s.workers).sys.world.db
    cases hmoves with
    | still hw => rw [hw]; exact .refl _
    | env e hw => rw [hw]; exact evolves_disturb e _
    | call i x _ _ hw => exact hw.does.evolves
  refine ⟨hgoverned, fun i d hd => ?_, fun i d line hrun => ?_⟩
  · exact (h.standing i d hd).mono (List.sublist_append_left ..) hevolves
  · rcases Pool.running_step hrun with hold | hstart
    · obtain ⟨before, hbefore, hd⟩ := h.working i d line hold
      exact ⟨before, hbefore.trans (List.sublist_append_left ..), hd.mono (.refl _) hevolves⟩
    · obtain ⟨hd, rfl⟩ := ha i d line hstart
      exact ⟨actions, .refl _, (h.standing i d hd).mono (.refl _) hevolves⟩

theorem Vetted.later (h : Vetted S actions s) (a : ServerAction ι) : Vetted S (actions ++ [a]) s :=
  ⟨h.governed,
    fun i d hd => (h.standing i d hd).mono (List.sublist_append_left ..) (.refl _),
    fun i d line hrun => by
      obtain ⟨before, hbefore, hd⟩ := h.working i d line hrun
      exact ⟨before, hbefore.trans (List.sublist_append_left ..), hd⟩⟩

theorem Vetted.result (h : Vetted S actions s) {next : Dialogue}
    (hnext : s.workers.result i = some next) : Standing i actions s.world.db next := by
  cases hrun : s.workers.running i with
  | none =>
    unfold Pool.result at hnext
    split at hnext
    · next hp =>
      obtain ⟨x, hx, -, -⟩ := h.governed i _ hp
      cases hrun.symm.trans hx
    · cases hnext
  | some x =>
    obtain ⟨before, hbefore, hd⟩ := h.working i x.1 x.2 hrun
    exact standing_follows hbefore hd (h.governed.result .refl hrun hnext)

theorem vetted_serve (h : Vetted S actions s) (a : ServerAction ι) :
    Vetted S (actions ++ [a]) (a.serve S s) := by
  cases a with
  | accept i =>
    simp only [ServerAction.serve]
    split
    · refine (h.later _).put ?_
      have hstatus : (0 : Int) ≠ 1 := by decide
      exact hstatus
    · exact h.later _
  | typed i line =>
    simp only [ServerAction.serve]
    split
    · exact h.later _
    · next d hd =>
      refine h.work _ _ (fun j e l hstart => ?_)
      cases hstart
      exact ⟨hd, rfl⟩
  | call i => exact h.work _ _ nofun
  | finish i =>
    simp only [ServerAction.serve]
    split
    · exact h.later _
    · next next hnext =>
      exact (h.put (h.result hnext)).work (.finish i) (.finish i) nofun
  | closed i =>
    simp only [ServerAction.serve]
    split
    · exact (h.later _).put trivial
    · exact h.later _
  | env e => exact h.work _ _ nofun

theorem vetted_served (S : CreatedAtSort Double) (db : Database Double)
    (actions : List (ServerAction ι)) : Vetted S actions (served S db actions) :=
  history_final (H := Vetted S) ⟨governed_start _, nofun, nofun⟩ (fun _ a h => vetted_serve h a)
    actions

end Credentials

theorem commands_need_credentials (S : CreatedAtSort Double) (db : Database Double)
    (actions : List (ServerAction ι)) (i : ι) (userID : Int)
    (h : (served S db actions).dialogues i = some (.commands userID)) :
    ∃ u, (served S db actions).world.db.user userID = some u ∧ Entered i actions u := by
  obtain ⟨u, ⟨v, hv, hsame⟩, l, l', hlines, hname, hpassword⟩ :=
    (vetted_served S db actions).standing i _ h
  exact ⟨v, hv, l, l', hlines, hname.trans hsame.2.1.symm, hpassword.trans hsame.2.2.1.symm⟩

section Untouched

variable {S : CreatedAtSort Double} {db : Database Double} {actions : List (ServerAction ι)}
  {s : ForkedServer ι} {i : ι} {u : User}

theorem caller_commands {d : Dialogue} {line : List Char} {o : ClientCall Double} {userID : Int}
    (ho : d.clientCall line = some o) (hcaller : o.caller = some userID) :
    d = .commands userID := by
  obtain ⟨op, hop, hcall⟩ := Option.bind_eq_some_iff.mp ho
  obtain ⟨r, hr, hrop⟩ := Option.bind_eq_some_iff.mp hop
  cases d with
  | registerPassword status usernameLine nameLine =>
    cases hr
    cases hrop
    cases hcall
    cases hcaller
  | commands id =>
    cases hr
    have howner : id = userID := by
      cases parseLine_spec hrop with
      | buy ord h =>
        cases hcall
        exact h.owner.symm.trans (Option.some.inj hcaller)
      | sell ord h =>
        cases hcall
        exact h.owner.symm.trans (Option.some.inj hcaller)
      | cancelOrder orderID =>
        cases hcall
        exact Option.some.inj hcaller
    rw [howner]
  | _ => cases hr

theorem Vetted.moves (h : Vetted S actions s) (a : ServerAction ι) :
    Moves (E := Disturbance ι) Forked.disturb (fun _ => True)
      (fun i (x : Dialogue × List Char) => Acts (Conducted i (x.1.clientCall x.2)) i) s.workers
      (a.serve S s).world := by
  have hwork (a : Action ι (Dialogue × List Char) (Disturbance ι)) :=
    ((workers_contract S).governed_step (by cases a <;> trivial : Starts _ a) h.governed).2
  cases a with
  | accept i =>
    simp only [ServerAction.serve]
    split <;> exact .still rfl
  | typed i line =>
    simp only [ServerAction.serve]
    split
    · exact .still rfl
    · exact hwork _
  | call i => exact hwork (.call i)
  | finish i =>
    simp only [ServerAction.serve]
    split
    · exact .still rfl
    · exact hwork (.finish i)
  | closed i =>
    simp only [ServerAction.serve]
    split <;> exact .still rfl
  | env e => exact hwork (.env e)

theorem bystander_served (h : Vetted S actions s) (hu : db.user u.userID = some u)
    (hnobody : ∀ i, ¬ Entered i actions u) (hs : Bystander db u.userID s.world)
    (a : ServerAction ι) : Bystander db u.userID (a.serve S s).world := by
  have hsome : (db.user u.userID).isSome := by
    rw [hu]
    rfl
  cases h.moves a with
  | still hw => rwa [hw]
  | env e hw =>
    rw [hw]
    cases e <;> exact ⟨hs.user, hs.orders, hs.copies, hs.archives⟩
  | call i x hrun _ hacts =>
    obtain ⟨d, line⟩ := x
    cases ho : d.clientCall line with
    | none =>
      simp only [ho] at hacts
      exact bystander_acts (o := .lookUp []) hsome nofun hacts hs
    | some o =>
      simp only [ho] at hacts
      refine bystander_acts (o := o) hsome (fun hcaller => ?_) hacts hs
      obtain rfl := caller_commands ho hcaller
      obtain ⟨before, hbefore, v, ⟨r, hr, hsame⟩, l, l', hlines, hname, hpassword⟩ :=
        h.working i _ line hrun
      cases hr.symm.trans (hs.user.trans hu)
      refine hnobody i ⟨l, l', (hlines.trans (List.sublist_append_left ..)).trans hbefore, ?_, ?_⟩
      · exact hname.trans hsame.2.1.symm
      · exact hpassword.trans hsame.2.2.1.symm

end Untouched

theorem untouched_without_credentials (S : CreatedAtSort Double) (db : Database Double) (u : User)
    (hu : u ∈ db.users.rows) (horders : ∀ r ∈ db.orders.rows, r.userID ≠ u.userID)
    (actions : List (ServerAction ι)) (hnobody : ∀ i, ¬ Entered i actions u) :
    (served S db actions).world.db.user u.userID = some u ∧
      (∀ r ∈ (served S db actions).world.db.orders.rows, r.userID ≠ u.userID) ∧
      ∀ a ∈ (served S db actions).world.db.archives.rows, a.userID = u.userID →
        a ∈ db.archives.rows := by
  have hrow := Database.user_of_mem hu
  have hrun : (∀ i, ¬ Entered i actions u) → Bystander db u.userID (served S db actions).world := by
    refine history_final (H := fun as (s : ForkedServer ι) =>
      (∀ i, ¬ Entered i as u) → Bystander db u.userID s.world) (fun _ => ?_)
      (fun as a ih hnobody => ?_) actions
    · exact ⟨rfl, horders, nofun, fun a ha _ => ha⟩
    · have hbefore (i : ι) : ¬ Entered i as u := by
        rintro ⟨l, l', hlines, hentered⟩
        exact hnobody i ⟨l, l', hlines.trans (List.sublist_append_left ..), hentered⟩
      exact bystander_served (vetted_served S db as) hrow hbefore (ih hbefore) a
  have hs := hrun hnobody
  exact ⟨hs.user.trans hrow, hs.orders, hs.archives⟩

def typedAndAnswered (i : ι) (calls : Nat) (line : String) : List (ServerAction ι) :=
  .typed i line.toList :: List.replicate calls (.call i) ++ [.finish i]

def registerThenEnter : List (ServerAction Bool) :=
  [.accept true, .accept false] ++ typedAndAnswered false 0 "r\r\n" ++
    typedAndAnswered false 0 "ab\r\n" ++ typedAndAnswered false 0 "A\r\n" ++
    [.env (.fail true ⟨5, by decide⟩)] ++ typedAndAnswered false 10 "p\r\n" ++
    typedAndAnswered true 0 "u\r\n" ++ typedAndAnswered false 0 "u\r\n" ++
    typedAndAnswered true 3 "ab\r\n" ++ typedAndAnswered false 3 "ab\r\n" ++
    typedAndAnswered false 0 "p\r\n"

theorem commands_need_credentials_registerThenEnter :
    ∃ u, (served (.stable Double) .empty registerThenEnter).world.db.user 1 = some u ∧
      Entered false registerThenEnter u :=
  commands_need_credentials (.stable Double) .empty registerThenEnter false 1 (by decide +kernel)

def accountHolders : Database Double :=
  (Database.empty.addUser (newUser ['a'] ['p'] ['A'])).addUser (newUser ['b'] ['q'] ['B'])

def guessThenTrade : List (ServerAction Bool) :=
  .accept false :: typedAndAnswered false 0 "u\r\n" ++ typedAndAnswered false 3 "b\r\n" ++
    typedAndAnswered false 0 "p\r\n" ++ typedAndAnswered false 3 "a\r\n" ++
    typedAndAnswered false 0 "p\r\n" ++ typedAndAnswered false 22 "buy doge 1 2\r\n"

theorem untouched_without_credentials_guessThenTrade :
    (served (.stable Double) accountHolders guessThenTrade).world.db.user 2 =
        some { newUser ['b'] ['q'] ['B'] with userID := 2 } ∧
      (∀ r ∈ (served (.stable Double) accountHolders guessThenTrade).world.db.orders.rows,
        r.userID ≠ 2) ∧
      ∀ a ∈ (served (.stable Double) accountHolders guessThenTrade).world.db.archives.rows,
        a.userID = 2 → a ∈ accountHolders.archives.rows := by
  refine untouched_without_credentials (.stable Double) accountHolders
    { newUser ['b'] ['q'] ['B'] with userID := 2 } (Database.mem_users_addUser.mpr (.inr rfl))
    (fun r hr => by cases hr) guessThenTrade ?_
  rintro i ⟨l, l', hlines, -, hpassword⟩
  have htyped : ServerAction.typed i l' ∈ guessThenTrade := hlines.subset (by simp)
  simp [guessThenTrade, typedAndAnswered] at htyped
  rcases htyped with ⟨-, rfl⟩ | ⟨-, rfl⟩ | ⟨-, rfl⟩ | ⟨-, rfl⟩ | ⟨-, rfl⟩ | ⟨-, rfl⟩
  all_goals exact absurd hpassword (by decide)

end Marketplace
