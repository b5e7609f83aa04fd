import Marketplace.Server.Dialogue
import Marketplace.Server.Replies

namespace Marketplace
open CallTree

def commandIs (name : CString) (commandTokens : StringArray) : Bool :=
  (commandTokens.get 0).any (fun token => strcasecmp token name = 0)

def namesCoin (commandTokens : StringArray) : Bool :=
  ((commandTokens.get 1).bind itemCode).isSome

def orderReads (params : StringArray) : List Nat :=
  if namesCoin params then [2, 1, 0, 3] else [2, 1]

def commandReads (commandTokens : StringArray) (command : CString) : List Nat :=
  if strcasecmp command "myinventory".toList = 0 then []
  else if strcasecmp command "buy".toList = 0 ∨ strcasecmp command "sell".toList = 0 then
    if validateCommandArgs commandTokens 4 then orderReads commandTokens else []
  else if strcasecmp command "myorders".toList = 0 then []
  else if strcasecmp command "cancelorder".toList = 0 ∨ strcasecmp command "view".toList = 0 then
    if validateCommandArgs commandTokens 2 then [1] else []
  else []

def tokenReads (commandTokens : StringArray) : List Nat :=
  if commandTokens.size = 0 then []
  else 0 :: (commandTokens.get 0).elim [] (commandReads commandTokens)

def passedOrder (userID : Int) (commandTokens : StringArray) : Option (Option (Order Double)) :=
  if (commandIs "buy".toList commandTokens || commandIs "sell".toList commandTokens) &&
      validateCommandArgs commandTokens 4 then
    createOrderFromString commandTokens userID
  else none

def wellFormedCommand (commandTokens : StringArray) (command : CString) : Bool :=
  if strcasecmp command "buy".toList = 0 ∨ strcasecmp command "sell".toList = 0 then
    commandTokens.size == 4 && namesCoin commandTokens
  else if strcasecmp command "cancelorder".toList = 0 then commandTokens.size == 2
  else if strcasecmp command "view".toList = 0 then
    commandTokens.size == 2 && namesCoin commandTokens
  else true

def Malformed (commandTokens : StringArray) : Prop :=
  ∃ command ∈ commandTokens.get 0, wellFormedCommand commandTokens command = false

structure Survives (S : CreatedAtSort Double) (db : Database Double) (userID : Int)
    (line : List Char) : Prop where
  reads : ∀ i ∈ tokenReads (tokenizeLine (cString line)), i < (tokenizeLine (cString line)).size
  confined : ∀ tokens : StringArray, tokens.size = (tokenizeLine (cString line)).size →
    (∀ i < tokens.size, tokens.get i = (tokenizeLine (cString line)).get i) →
    ∀ command ∈ tokens.get 0,
      dispatch userID tokens command = dispatch userID (tokenizeLine (cString line)) command
  notNull : passedOrder userID (tokenizeLine (cString line)) ≠ some none
  goesOn : endOfFile line = false →
    ((Event.typed line).serve S ⟨.commands userID, db⟩).dialogue = .commands userID
  unchanged : Malformed (tokenizeLine (cString line)) →
    ((Event.typed line).serve S ⟨.commands userID, db⟩).db = db

structure NamesNoCoin (buffer : CString) : Prop where
  size : (tokenizeLine buffer).size = 4
  command : commandIs "buy".toList (tokenizeLine buffer) ∨ commandIs "sell".toList (tokenizeLine buffer)
  item : namesCoin (tokenizeLine buffer) = false

section Reads

variable {tokens other : StringArray} {userID : Int} {command : CString}

theorem createOrderFromString_congr (h : ∀ i ∈ orderReads other, tokens.get i = other.get i) :
    createOrderFromString tokens userID = createOrderFromString other userID := by
  have h1 : tokens.get 1 = other.get 1 := h 1 (by unfold orderReads; split <;> decide)
  have h2 : tokens.get 2 = other.get 2 := h 2 (by unfold orderReads; split <;> decide)
  cases hcoin : namesCoin other with
  | true =>
    have hreads : orderReads other = [2, 1, 0, 3] := if_pos hcoin
    have h0 : tokens.get 0 = other.get 0 := h 0 (by rw [hreads]; decide)
    have h3 : tokens.get 3 = other.get 3 := h 3 (by rw [hreads]; decide)
    simp only [createOrderFromString, h0, h1, h2, h3]
  | false =>
    simp only [createOrderFromString, h1, h2]
    cases other.get 2 with
    | none => rfl
    | some price =>
      cases hitem : other.get 1 with
      | none => rfl
      | some item =>
        have hnone : itemCode item = none := by
          simpa [namesCoin, hitem] using hcoin
        simp [hnone]

theorem handleOrder_congr {order : Order Double → SQL Double Int} {refused accepted : String}
    (hsize : tokens.size = other.size)
    (h : validateCommandArgs other 4 = true → ∀ i ∈ orderReads other, tokens.get i = other.get i) :
    handleOrder order refused accepted userID tokens =
      handleOrder order refused accepted userID other := by
  have hargs : validateCommandArgs tokens 4 = validateCommandArgs other 4 := by
    simp only [validateCommandArgs, hsize]
  unfold handleOrder
  rw [hargs]
  split
  · next hvalid => rw [createOrderFromString_congr (h hvalid)]
  · rfl

theorem handleCancelOrder_congr (hsize : tokens.size = other.size)
    (h : validateCommandArgs other 2 = true → tokens.get 1 = other.get 1) :
    handleCancelOrder userID tokens = handleCancelOrder userID other := by
  have hargs : validateCommandArgs tokens 2 = validateCommandArgs other 2 := by
    simp only [validateCommandArgs, hsize]
  unfold handleCancelOrder
  rw [hargs]
  split
  · next hvalid => rw [h hvalid]
  · rfl

theorem handleView_congr (hsize : tokens.size = other.size)
    (h : validateCommandArgs other 2 = true → tokens.get 1 = other.get 1) :
    handleView tokens = handleView other := by
  have hargs : validateCommandArgs tokens 2 = validateCommandArgs other 2 := by
    simp only [validateCommandArgs, hsize]
  unfold handleView
  rw [hargs, hsize]
  split
  · next hvalid => rw [h hvalid]
  · rfl

theorem dispatch_congr (hsize : tokens.size = other.size)
    (h : ∀ i ∈ commandReads other command, tokens.get i = other.get i) :
    dispatch userID tokens command = dispatch userID other command := by
  unfold commandReads at h
  unfold dispatch
  split_ifs with hinventory hbuy hsell horders hcancel hview hhelp
  · rfl
  · refine handleOrder_congr hsize (fun hvalid => ?_)
    rwa [if_neg hinventory, if_pos (.inl hbuy), if_pos hvalid] at h
  · refine handleOrder_congr hsize (fun hvalid => ?_)
    rwa [if_neg hinventory, if_pos (.inr hsell), if_pos hvalid] at h
  · rfl
  · refine handleCancelOrder_congr hsize (fun hvalid => ?_)
    rw [if_neg hinventory, if_neg (not_or.mpr ⟨hbuy, hsell⟩), if_neg horders, if_pos (.inl hcancel),
      if_pos hvalid] at h
    exact h 1 (List.mem_singleton_self 1)
  · refine handleView_congr hsize (fun hvalid => ?_)
    rw [if_neg hinventory, if_neg (not_or.mpr ⟨hbuy, hsell⟩), if_neg horders, if_pos (.inr hview),
      if_pos hvalid] at h
    exact h 1 (List.mem_singleton_self 1)
  · rfl
  · rfl

theorem commandReads_lt {i : Nat} (h : i ∈ commandReads tokens command) : i < tokens.size := by
  unfold commandReads at h
  split_ifs at h with _ _ hvalid _ _ hvalid
  · cases h
  · have hsize : tokens.size = 4 := by simpa [validateCommandArgs] using hvalid
    have hle : ∀ i ∈ orderReads tokens, i < 4 := by
      unfold orderReads
      split <;> decide
    rw [hsize]
    exact hle i h
  · cases h
  · cases h
  · have hsize : tokens.size = 2 := by simpa [validateCommandArgs] using hvalid
    rw [List.mem_singleton.mp h, hsize]
    decide
  · cases h
  · cases h

theorem tokenReads_lt {i : Nat} (h : i ∈ tokenReads tokens) : i < tokens.size := by
  unfold tokenReads at h
  split at h
  · cases h
  · next hsize =>
    rcases List.mem_cons.mp h with rfl | h
    · exact Nat.pos_of_ne_zero hsize
    · cases hget : tokens.get 0 with
      | none => simp [hget] at h
      | some command =>
        rw [hget] at h
        exact commandReads_lt h

end Reads

section Replies

variable {S : CreatedAtSort Double} {db : Database Double} {userID : Int} {buffer : CString}
  {tokens : StringArray}

theorem createOrderFromString_coin (userID : Int) (hformed : tokens.WellFormed) (hsize : tokens.size = 4) :
    (createOrderFromString tokens userID).map Option.isSome = some (namesCoin tokens) := by
  obtain ⟨command, item, price, quantity, h⟩ := orderTokens_of_size hformed hsize
  rw [h.created, namesCoin, h.item]
  simp

theorem passedOrder_null (h : NamesNoCoin buffer) :
    passedOrder userID (tokenizeLine buffer) = some none := by
  have hvalid : validateCommandArgs (tokenizeLine buffer) 4 = true := by
    simp [validateCommandArgs, h.size]
  have hguard : ((commandIs "buy".toList (tokenizeLine buffer) ||
      commandIs "sell".toList (tokenizeLine buffer)) &&
        validateCommandArgs (tokenizeLine buffer) 4) = true :=
    Bool.and_eq_true_iff.mpr ⟨Bool.or_eq_true_iff.mpr h.command, hvalid⟩
  have hpointer := createOrderFromString_coin userID
    (StringArray.wellFormed_tokenizeLine buffer) h.size
  rw [h.item] at hpointer
  obtain ⟨pointer, hpointer, hnone⟩ := Option.map_eq_some_iff.mp hpointer
  rw [passedOrder, if_pos hguard, hpointer]
  exact congrArg some (Option.not_isSome_iff_eq_none.mp (by simp [hnone]))

theorem handleOrder_replies {order : Order Double → SQL Double Int} {refused accepted : String}
    (h : validateCommandArgs tokens 4 = true →
      (createOrderFromString tokens userID).map Option.isSome = some true) :
    ((handleOrder order refused accepted userID tokens).run (perform S) db).1 ≠ .crashed := by
  unfold handleOrder
  split
  · next hvalid =>
    obtain ⟨pointer, hpointer, hsome⟩ := Option.map_eq_some_iff.mp (h hvalid)
    obtain ⟨ord, rfl⟩ := Option.isSome_iff_exists.mp hsome
    rw [hpointer]
    simp only [Prog.run_bind, Prog.run_ite, Prog.run_pure]
    split <;> exact Reply.noConfusion
  · exact Reply.noConfusion

theorem handleCancelOrder_replies (hformed : tokens.WellFormed) :
    ((handleCancelOrder userID tokens).run (perform S) db).1 ≠ .crashed := by
  unfold handleCancelOrder
  split
  · next hvalid =>
    have hsize : tokens.size = 2 := by simpa [validateCommandArgs] using hvalid
    obtain ⟨t1, h1⟩ := Option.isSome_iff_exists.mp (hformed.filled 1 (by omega))
    rw [h1]
    simp only [Option.map_some, Prog.run_bind, Prog.run_ite, Prog.run_pure]
    split
    · exact Reply.noConfusion
    · split <;> exact Reply.noConfusion
  · exact Reply.noConfusion

theorem handleView_replies (hformed : tokens.WellFormed) :
    ((handleView tokens).run (perform S) db).1 ≠ .crashed := by
  unfold handleView
  split
  · next hvalid =>
    have hsize : tokens.size = 2 := by simpa [validateCommandArgs] using hvalid
    obtain ⟨t1, h1⟩ := Option.isSome_iff_exists.mp (hformed.filled 1 (by omega))
    rw [if_neg (not_not.mpr hsize), h1, Option.map_some]
    cases itemCode t1 <;> exact Reply.noConfusion
  · exact Reply.noConfusion

theorem commandIs_of_get {name command : CString} (hget : tokens.get 0 = some command)
    (h : strcasecmp command name = 0) : commandIs name tokens = true := by
  simp [commandIs, hget, h]

theorem echo_replies (h : ¬ NamesNoCoin buffer) :
    ((echo userID buffer).run (perform S) db).1 ≠ .crashed := by
  have hformed := StringArray.wellFormed_tokenizeLine buffer
  unfold echo
  simp only
  split
  · exact Reply.noConfusion
  · next hsize =>
    obtain ⟨command, hget⟩ :=
      Option.isSome_iff_exists.mp (hformed.filled 0 (Nat.pos_of_ne_zero hsize))
    have horder (hcommand : commandIs "buy".toList (tokenizeLine buffer) ∨
          commandIs "sell".toList (tokenizeLine buffer))
        (hvalid : validateCommandArgs (tokenizeLine buffer) 4 = true) :
        (createOrderFromString (tokenizeLine buffer) userID).map Option.isSome = some true := by
      have hfour : (tokenizeLine buffer).size = 4 := by simpa [validateCommandArgs] using hvalid
      rw [createOrderFromString_coin userID hformed hfour]
      cases hcoin : namesCoin (tokenizeLine buffer) with
      | true => rfl
      | false => exact absurd ⟨hfour, hcommand, hcoin⟩ h
    rw [hget]
    simp only
    unfold dispatch
    split_ifs with hinventory hbuy hsell
    · exact handleMyInventory_replies S db userID
    · exact handleOrder_replies (horder (.inl (commandIs_of_get hget hbuy)))
    · exact handleOrder_replies (horder (.inr (commandIs_of_get hget hsell)))
    · exact Reply.noConfusion
    · exact handleCancelOrder_replies hformed
    · exact handleView_replies hformed
    · exact Reply.noConfusion
    · exact Reply.noConfusion

theorem parseLine_malformed (h : Malformed (tokenizeLine buffer)) : parseLine userID buffer = none := by
  obtain ⟨command, hget, hcommand⟩ := h
  have hformed := StringArray.wellFormed_tokenizeLine buffer
  have horder (hbad : ((tokenizeLine buffer).size == 4 && namesCoin (tokenizeLine buffer)) = false) :
      parsedOrder (tokenizeLine buffer) userID = none := by
    unfold parsedOrder
    split
    · next hfour =>
      have hcoin : namesCoin (tokenizeLine buffer) = false := by simpa [hfour] using hbad
      have hpointer := createOrderFromString_coin userID hformed hfour
      rw [hcoin] at hpointer
      obtain ⟨pointer, hpointer, hnone⟩ := Option.map_eq_some_iff.mp hpointer
      rw [hpointer, Option.join_some]
      exact Option.not_isSome_iff_eq_none.mp (by simp [hnone])
    · rfl
  rw [parseLine, Option.mem_def.mp hget, Option.bind_some]
  unfold wellFormedCommand at hcommand
  split_ifs with hinventory hbuy hsell horders hcancel
  · rfl
  · rw [if_pos (.inl hbuy)] at hcommand
    rw [horder hcommand]
    rfl
  · rw [if_pos (.inr hsell)] at hcommand
    rw [horder hcommand]
    rfl
  · rfl
  · rw [if_neg (not_or.mpr ⟨hbuy, hsell⟩), if_pos hcancel] at hcommand
    have htwo : (tokenizeLine buffer).size ≠ 2 := by simpa using hcommand
    rw [parsedOrderID, if_neg htwo]
    rfl
  · rfl

end Replies

section Loop

variable {S : CreatedAtSort Double} {db : Database Double} {userID : Int} {line : List Char}

theorem serve_commands_goesOn (h : ((echo userID (cString line)).run (perform S) db).1 ≠ .crashed)
    (hend : endOfFile line = false) :
    ((Event.typed line).serve S ⟨.commands userID, db⟩).dialogue = .commands userID := by
  simp only [Event.serve, Dialogue.read, Prog.run_bind]
  cases hreply : ((echo userID (cString line)).run (perform S) db).1 with
  | crashed => exact absurd hreply h
  | sent text => simp [hend]
  | listed => simp [hend]

theorem serve_commands_db :
    ((Event.typed line).serve S ⟨.commands userID, db⟩).db =
      ((echo userID (cString line)).run (perform S) db).2 := by
  simp only [Event.serve, Dialogue.read, Prog.run_bind]
  cases ((echo userID (cString line)).run (perform S) db).1 <;> rfl

end Loop

theorem survives_iff (S : CreatedAtSort Double) (db : Database Double) (userID : Int)
    (line : List Char) : Survives S db userID line ↔ ¬ NamesNoCoin (cString line) := by
  have hformed := StringArray.wellFormed_tokenizeLine (cString line)
  constructor
  · exact fun h hcoin => h.notNull (passedOrder_null hcoin)
  · intro h
    refine ⟨fun i hi => tokenReads_lt hi, ?_, ?_, serve_commands_goesOn (echo_replies h), ?_⟩
    · intro tokens hsize hsame command hcommand
      refine dispatch_congr hsize (fun i hi => hsame i ?_)
      rw [hsize]
      exact commandReads_lt hi
    · intro hpassed
      unfold passedOrder at hpassed
      split at hpassed
      · next hguard =>
        simp only [validateCommandArgs, Bool.and_eq_true, Bool.or_eq_true, beq_iff_eq] at hguard
        have hpointer := createOrderFromString_coin userID hformed hguard.2
        rw [hpassed] at hpointer
        exact h ⟨hguard.2, hguard.1, (Option.some.inj hpointer).symm⟩
      · cases hpassed
    · intro hmalformed
      rw [serve_commands_db, run_dispatch, parseLine_malformed hmalformed]
      rfl

theorem unknown_coin_crashes :
    ¬ ∀ (S : CreatedAtSort Double) (db : Database Double) (userID : Int) (line : List Char),
      Survives S db userID line := by
  intro h
  have hsurvives := h (.stable Double) Database.empty 1 "buy xrp 1 5\r\n".toList
  exact hsurvives.notNull (passedOrder_null ⟨by decide, .inl (by decide), by decide⟩)

end Marketplace
