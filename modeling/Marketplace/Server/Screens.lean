import Mathlib.Data.List.DropRight
import Marketplace.Market.Refund
import Marketplace.Server.Numbers
import Marketplace.Server.Words

namespace Marketplace
open CallTree KeyedTable Runs

def coinTypeToString (coinType : Int) : String :=
  if coinType = COIN_DOGE then "DOGE"
  else if coinType = COIN_BTC then "BTC"
  else if coinType = COIN_ETH then "ETH"
  else if coinType = COIN_OMG then "OMG"
  else "UNKNOWN"

def decimalText (n : Int) : CString :=
  (toString n).toList

section Screen

-- What printf writes for a price is left to the parameter.
variable (price : Double → CString)

def orderText (i : Nat) (r : Order Double) : CString :=
  "Order ".toList ++ decimalText (i + 1) ++ ": Type: ".toList ++
    (if r.buyOrSell = 0 then "BUY" else "SELL").toList ++ ", Item: ".toList ++
    (coinTypeToString r.item).toList ++ ", Amount: ".toList ++ decimalText r.quantity ++
    ", Price: ".toList ++ price r.unitPrice ++ ", ID: ".toList ++ decimalText r.orderID ++
    "\r\n".toList

def orderTexts (rows : List (Order Double)) : List CString :=
  rows.mapIdx (orderText price)

def separator : CString :=
  "------------------------------------\r\n".toList

def handleMyOrders (orders archived : List (Order Double)) : CString :=
  "Open Orders:\r\n".toList ++
    (if orders.isEmpty then "No open orders.\r\n".toList ++ separator
      else (orderTexts price orders).flatten) ++ separator ++
    "Archived Orders:\r\n".toList ++
    (if archived.isEmpty then "No archived orders.\r\n".toList
      else (orderTexts price archived).flatten)

end Screen

def screenLines : CString → List CString
  | [] => []
  | c :: s =>
    if c = '\n' then [c] :: screenLines s
    else
      match screenLines s with
      | [] => [[c]]
      | line :: lines => (c :: line) :: lines

-- What a reader of the screen takes for the open orders: the lines under the heading.
def openLines (screen : CString) : List CString :=
  ((screenLines screen).drop 1).takeWhile ("Order ".toList.isPrefixOf ·)

def openOrders (userID : Int) (db : Database Double) : List (Order Double) :=
  db.orders.rows.filter (fun r => r.userID = userID)

-- The user types the command and copies what the screen's line shows after its last blank.
def typedCancel (shown : CString) : CString :=
  "cancelOrder ".toList ++ shown.rtakeWhile (fun c => c ≠ ' ')

section Decimal

theorem decimal_toDigits (n : Nat) : decimal (Nat.toDigits 10 n) = n := by
  have hfold : decimal (Nat.toDigits 10 n) = Nat.ofDigitChars 10 (Nat.toDigits 10 n) 0 := by
    simp only [decimal, Nat.ofDigitChars, Nat.mul_comm]
  rw [hfold, Nat.ofDigitChars_ten_toDigits]

theorem decimalText_natCast (n : Nat) : decimalText n = Nat.toDigits 10 n := by
  change n.repr.toList = Nat.toDigits 10 n
  exact Nat.toList_repr

theorem isDigit_toDigits {n : Nat} {c : Char} (hc : c ∈ Nat.toDigits 10 n) : c.isDigit = true :=
  Nat.isDigit_of_mem_toDigits (by decide) (le_refl _) hc

theorem decimalInteger_toDigits (n : Nat) : decimalInteger (Nat.toDigits 10 n) = some (n : Int) := by
  have hall : (Nat.toDigits 10 n).all Char.isDigit = true :=
    List.all_eq_true.mpr fun c hc => isDigit_toDigits hc
  have hsign : sign (Nat.toDigits 10 n) = (false, Nat.toDigits 10 n) := by
    unfold sign
    split
    · next heq =>
      rw [heq, List.all_cons] at hall
      exact absurd (Bool.and_eq_true_iff.mp hall).1 (by decide)
    · next heq =>
      rw [heq, List.all_cons] at hall
      exact absurd (Bool.and_eq_true_iff.mp hall).1 (by decide)
    · rfl
  simp only [decimalInteger, hsign, Nat.toDigits_ne_nil, ne_eq, not_false_eq_true, hall, and_self,
    if_true, decimal_toDigits, Bool.false_eq_true, if_false]

theorem strtol_toDigits {n : Nat} (hn : (n : Int) ≤ INT_MAX) :
    strtol (Nat.toDigits 10 n) = ((n : Int), []) ∧ intOfLong n = n := by
  simp only [INT_MAX] at hn
  refine ⟨strtol_decimal (decimalInteger_toDigits n) ?_ ?_, intOfLong_fits ?_ ?_⟩
  · simp only [LONG_MIN]
    omega
  · simp only [LONG_MAX]
    omega
  · simp only [INT_MIN]
    omega
  · exact hn

end Decimal

section Typed

theorem tokenizeLine_ended {line : CString} (hlast : ∀ c ∈ line.getLast?, isspace c = true) :
    (tokenizeLine line).size = (words line).length ∧
      (tokenizeLine line).strings.take (tokenizeLine line).size = (words line).map .string := by
  obtain ⟨unfinished, hwords, hdone⟩ := addCalls_words (.none line line)
  rw [List.nil_append] at hwords hdone
  rw [hdone.mpr hlast, List.append_nil] at hwords
  obtain ⟨hsize, hstrings⟩ := addStrings_append
    (StringArray.wellFormed_makeStringArray INITIAL_TOKENS_CAPACITY) (addCalls line line 0)
  rw [← tokenize_eq_foldl] at hsize hstrings
  rw [tokenizeLine, hwords, hsize, hstrings, List.length_map, List.map_map]
  exact ⟨Nat.zero_add _, rfl⟩

theorem cancelOrder_blank : "cancelOrder ".toList = "cancelOrder".toList ++ [' '] := by
  decide

theorem line_end : "\r\n".toList = ['\r', '\n'] := by
  decide

theorem words_typed (digits : CString) (hne : digits ≠ [])
    (hdigits : ∀ c ∈ digits, isspace c = false) :
    words ("cancelOrder ".toList ++ (digits ++ "\r\n".toList)) = ["cancelOrder".toList, digits] := by
  have hall : "cancelOrder".toList.all (fun c => !isspace c) = true := rfl
  have hcommand : ∀ c ∈ "cancelOrder".toList, isspace c = false :=
    fun c hc => Bool.not_eq_true' _ ▸ List.all_eq_true.mp hall c hc
  have hnonempty : "cancelOrder".toList ≠ [] := by decide
  have hend : words ['\n'] = [] := by decide
  have hblank : isspace ' ' = true := rfl
  have hreturn : isspace '\r' = true := rfl
  rw [cancelOrder_blank, line_end, List.append_assoc, List.singleton_append,
    words_append_space hcommand hblank, words_append_space hdigits hreturn, hend, List.append_nil,
    List.filter_singleton, List.filter_singleton, decide_eq_true hne, decide_eq_true hnonempty]
  rfl

theorem get_of_take {array : StringArray} {strings : List CString} {i : Nat} {s : CString}
    (h : array.strings.take array.size = strings.map .string) (hs : strings[i]? = some s) :
    array.get i = some s := by
  have hslot : (array.strings.take array.size)[i]? = some (.string s) := by
    rw [h, List.getElem?_map, hs]
    rfl
  rw [List.getElem?_take] at hslot
  split at hslot
  · rw [StringArray.get, hslot]
  · cases hslot

theorem rtakeWhile_shown (before : CString) {digits : CString}
    (hdigits : ∀ c ∈ digits, c.isDigit = true) :
    (before ++ ", ID: ".toList ++ digits ++ "\r\n".toList).rtakeWhile (fun c => c ≠ ' ') =
      digits ++ "\r\n".toList := by
  have hid : ", ID: ".toList = ", ID:".toList ++ [' '] := rfl
  have hkept : ∀ c ∈ (digits ++ "\r\n".toList).reverse, decide (c ≠ ' ') = true := by
    intro c hc
    rw [List.mem_reverse, line_end, List.mem_append] at hc
    refine decide_eq_true ?_
    rintro rfl
    rcases hc with hc | hc
    · exact absurd (hdigits _ hc) (by decide)
    · exact absurd hc (by decide)
  rw [hid, List.rtakeWhile, List.append_assoc, List.append_assoc, List.append_assoc,
    ← List.append_assoc, ← List.append_assoc, List.reverse_append, List.takeWhile_append_of_pos hkept]
  simp

theorem typedCancel_orderText (price : Double → CString) (i : Nat) {r : Order Double} {n : Nat}
    (hn : r.orderID = n) : typedCancel (orderText price i r) =
      "cancelOrder ".toList ++ (Nat.toDigits 10 n ++ "\r\n".toList) := by
  have hshown := rtakeWhile_shown ("Order ".toList ++ decimalText (i + 1) ++ ": Type: ".toList ++
    (if r.buyOrSell = 0 then "BUY" else "SELL").toList ++ ", Item: ".toList ++
    (coinTypeToString r.item).toList ++ ", Amount: ".toList ++ decimalText r.quantity ++
    ", Price: ".toList ++ price r.unitPrice) (fun c hc => isDigit_toDigits (n := n) hc)
  rw [← decimalText_natCast, ← hn] at hshown ⊢
  exact congrArg ("cancelOrder ".toList ++ ·) hshown

structure CancelTokens (tokens : StringArray) (n : Nat) : Prop where
  size : tokens.size = 2
  command : tokens.get 0 = some "cancelOrder".toList
  orderID : tokens.get 1 = some (Nat.toDigits 10 n)

theorem cancelTokens_typed (price : Double → CString) (i : Nat) {r : Order Double} {n : Nat}
    (hn : r.orderID = n) : CancelTokens (tokenizeLine (typedCancel (orderText price i r))) n := by
  have hwords := words_typed (Nat.toDigits 10 n) Nat.toDigits_ne_nil
    (fun c hc => isDigit_not_space (isDigit_toDigits hc))
  have hlast : ∀ c ∈ ("cancelOrder ".toList ++ (Nat.toDigits 10 n ++ "\r\n".toList)).getLast?,
      isspace c = true := by
    rw [line_end, List.getLast?_append, List.getLast?_append]
    intro c hc
    cases hc
    rfl
  obtain ⟨hsize, hstrings⟩ := tokenizeLine_ended hlast
  rw [typedCancel_orderText price i hn]
  rw [hwords] at hsize hstrings
  exact ⟨hsize, get_of_take hstrings rfl, get_of_take hstrings rfl⟩

theorem run_typedCancel (S : CreatedAtSort Double) (price : Double → CString) (i : Nat)
    {db : Database Double} {u : User} {r : Order Double} (hr : db.order r.orderID = some r)
    (hu : db.user r.userID = some u) (hint : r.orderID ≤ INT_MAX) :
    (echo r.userID (typedCancel (orderText price i r))).run (perform S) db =
      (.sent "Successfully cancelled order!\r\n",
        (db.setBalance (refundBalance u r)).deleteOrderRow r.orderID) := by
  have hpos : 0 < r.orderID := db.orders.positive r (Database.order_mem hr)
  obtain ⟨n, hn⟩ := Int.eq_ofNat_of_zero_le hpos.le
  have htokens := cancelTokens_typed price i hn
  obtain ⟨hstrtol, hfits⟩ := strtol_toDigits (hn ▸ hint)
  have hcancel := run_cancelOrder_own (S := S) hr hu
  rw [hn] at hcancel
  have hdispatch (tokens : StringArray) :
      dispatch r.userID tokens "cancelOrder".toList = handleCancelOrder r.userID tokens := by
    rw [dispatch, if_neg (by decide), if_neg (by decide), if_neg (by decide), if_neg (by decide),
      if_pos (by decide)]
  rw [echo_command htokens.command htokens.size, hdispatch]
  simp [handleCancelOrder, validateCommandArgs, htokens.size, htokens.orderID, hstrtol, hfits,
    hcancel, hn]

end Typed

section Cancelling

variable {db : Database Double} {u : User} {r : Order Double} {rows : List (Order Double)}

theorem openOrders_deleteOrderRow (db : Database Double) (userID orderID : Int) :
    openOrders userID (db.deleteOrderRow orderID) =
      (openOrders userID db).filter (fun s => s.orderID ≠ orderID) := by
  simp only [openOrders, Database.deleteOrderRow, Table.erase, List.filter_filter]
  refine List.filter_congr (fun s _ => ?_)
  exact Bool.and_comm _ _

theorem order_of_openOrders {userID : Int} (hr : r ∈ openOrders userID db) :
    db.order r.orderID = some r ∧ r.userID = userID := by
  obtain ⟨hmem, howner⟩ := List.mem_filter.mp hr
  exact ⟨Table.find_of_mem hmem, of_decide_eq_true howner⟩

theorem filter_rest (hrows : (r :: rows).Perm (openOrders r.userID db)) :
    (openOrders r.userID db).filter (fun s => s.orderID ≠ r.orderID) |>.Perm rows := by
  have hordered : (openOrders r.userID db).Pairwise (fun a b => a.orderID ≠ b.orderID) :=
    (db.orders.ordered.filter _).imp fun h => h.ne
  have hdistinct : (r :: rows).Pairwise (fun a b => a.orderID ≠ b.orderID) :=
    hrows.symm.pairwise hordered (fun h => h.symm)
  have hrest : rows.filter (fun s => s.orderID ≠ r.orderID) = rows :=
    List.filter_eq_self.mpr fun s hs =>
      decide_eq_true ((List.pairwise_cons.mp hdistinct).1 s hs).symm
  have hfiltered := hrows.symm.filter (fun s => decide (s.orderID ≠ r.orderID))
  rwa [List.filter_cons_of_neg (by simp), hrest] at hfiltered

theorem openOrders_other {userID other : Int} (hr : r ∈ openOrders userID db) (hne : other ≠ userID) :
    openOrders other (db.deleteOrderRow r.orderID) = openOrders other db := by
  rw [openOrders_deleteOrderRow]
  refine List.filter_eq_self.mpr (fun s hs => decide_eq_true ?_)
  intro hid
  obtain ⟨hmem, howner⟩ := List.mem_filter.mp hs
  obtain ⟨hmem', howner'⟩ := List.mem_filter.mp hr
  have hsame : s = r := Table.key_injective hmem hmem' hid
  subst hsame
  exact hne ((of_decide_eq_true howner).symm.trans (of_decide_eq_true howner'))

end Cancelling

def cancelShown (S : CreatedAtSort Double) (userID : Int) (shown : CString) (db : Database Double) :
    Database Double :=
  (Request.line userID (typedCancel shown)).serve S db

def CancelReplied (S : CreatedAtSort Double) (userID : Int) (shown : CString) (db : Database Double) :
    Prop :=
  ((echo userID (typedCancel shown)).run (perform S) db).1 =
    .sent "Successfully cancelled order!\r\n"

structure AllCancelled (S : CreatedAtSort Double) (u : User) (rows : List (Order Double))
    (texts : List CString) (db : Database Double) : Prop where
  replies : Along (cancelShown S u.userID) (CancelReplied S u.userID) texts db
  none_open : openOrders u.userID (final (cancelShown S u.userID) texts db) = []
  refunded : (final (cancelShown S u.userID) texts db).user u.userID =
    some (rows.foldl refundBalance u)
  others : ∀ other ≠ u.userID,
    openOrders other (final (cancelShown S u.userID) texts db) = openOrders other db ∧
      (final (cancelShown S u.userID) texts db).user other = db.user other
  archives : (final (cancelShown S u.userID) texts db).archives = db.archives

theorem allCancelled_of_shown (S : CreatedAtSort Double) (price : Double → CString)
    {texts : List CString} {rows : List (Order Double)}
    (hshown : List.Forall₂ (fun shown r => ∃ i, shown = orderText price i r) texts rows)
    {u : User} {db : Database Double} (hu : db.user u.userID = some u)
    (hrows : rows.Perm (openOrders u.userID db)) (hint : ∀ r ∈ rows, r.orderID ≤ INT_MAX) :
    AllCancelled S u rows texts db := by
  induction hshown generalizing u db with
  | nil =>
    refine ⟨trivial, hrows.nil_eq.symm, hu, fun other _ => ⟨rfl, rfl⟩, rfl⟩
  | @cons shown r texts rows hhead _ ih =>
    obtain ⟨i, rfl⟩ := hhead
    have hmem : r ∈ openOrders u.userID db := hrows.subset (List.mem_cons_self ..)
    obtain ⟨hr, howner⟩ := order_of_openOrders hmem
    have hrun := run_typedCancel S price i hr (howner ▸ hu) (hint r (List.mem_cons_self ..))
    rw [howner] at hrun
    have hsame := refundBalance_sameAccount u r
    have hid : (refundBalance u r).userID = u.userID := hsame.1
    set db' := (db.setBalance (refundBalance u r)).deleteOrderRow r.orderID with hdb'
    have hstep : cancelShown S u.userID (orderText price i r) db = db' := congrArg Prod.snd hrun
    have hu' : db'.user (refundBalance u r).userID = some (refundBalance u r) := by
      rw [hid]
      exact Database.user_setBalance_self hu hsame
    have hrows' : rows.Perm (openOrders (refundBalance u r).userID db') := by
      rw [← howner] at hrows
      rw [hid, ← howner, hdb', openOrders_deleteOrderRow]
      exact (filter_rest hrows).symm
    have hrest := ih hu' hrows' (fun s hs => hint s (List.mem_cons_of_mem _ hs))
    obtain ⟨hreplies, hnone, hrefunded, hothers, harchives⟩ := hrest
    rw [hid] at hreplies hnone hrefunded hothers harchives
    have hfinal : final (cancelShown S u.userID) (orderText price i r :: texts) db =
        final (cancelShown S u.userID) texts db' := by rw [final_cons, hstep]
    have hreplied : CancelReplied S u.userID (orderText price i r) db := congrArg Prod.fst hrun
    constructor
    · rw [Along, hstep]
      exact And.intro hreplied hreplies
    · rw [hfinal]
      exact hnone
    · rw [hfinal]
      exact hrefunded
    · intro other hne
      obtain ⟨hopen, huser⟩ := hothers other hne
      rw [hfinal]
      exact ⟨hopen.trans (openOrders_other hmem hne),
        huser.trans (Database.user_setBalance_other (hid ▸ hne))⟩
    · rw [hfinal]
      exact harchives

section Reading

structure EndsLine (line : CString) : Prop where
  ends : ∃ body, '\n' ∉ body ∧ line = body ++ ['\n']

theorem screenLines_line {line : CString} (h : EndsLine line) (rest : CString) :
    screenLines (line ++ rest) = line :: screenLines rest := by
  obtain ⟨body, hbody, rfl⟩ := h.ends
  induction body with
  | nil => rfl
  | cons c body ih =>
    obtain ⟨hc, hrest⟩ := not_or.mp (fun h => hbody (List.mem_cons.mpr h))
    have htail := ih hrest ⟨body, hrest, rfl⟩
    rw [List.cons_append, List.cons_append, screenLines, if_neg (Ne.symm hc), htail]

theorem screenLines_flatten {lines : List CString} (h : ∀ line ∈ lines, EndsLine line)
    (rest : CString) : screenLines (lines.flatten ++ rest) = lines ++ screenLines rest := by
  induction lines with
  | nil => rfl
  | cons line lines ih =>
    have hlines := ih fun l hl => h l (List.mem_cons_of_mem _ hl)
    rw [List.flatten_cons, List.append_assoc, screenLines_line (h line (List.mem_cons_self ..)),
      hlines, List.cons_append]

theorem newline_decimalText (n : Int) : '\n' ∉ decimalText n := by
  have hnat (n : Nat) : '\n' ∉ Nat.toDigits 10 n := fun h => by
    have hdigit := isDigit_toDigits h
    revert hdigit
    decide
  cases n with
  | ofNat n =>
    rw [Int.ofNat_eq_natCast, decimalText_natCast]
    exact hnat n
  | negSucc n =>
    have htext : decimalText (Int.negSucc n) = '-' :: Nat.toDigits 10 (n + 1) := by
      change ("-" ++ (n + 1).repr).toList = _
      rw [String.toList_append, Nat.toList_repr]
      rfl
    rw [htext]
    exact fun h => (List.mem_cons.mp h).elim (by decide) (hnat _)

theorem endsLine_literal {s : String} (body : CString) (h : s.toList = body ++ ['\n'])
    (hbody : '\n' ∉ body) : EndsLine s.toList :=
  ⟨⟨body, hbody, h⟩⟩

theorem EndsLine.prepend {s line : CString} (hs : '\n' ∉ s) (h : EndsLine line) :
    EndsLine (s ++ line) := by
  obtain ⟨body, hbody, rfl⟩ := h.ends
  refine ⟨⟨s ++ body, ?_, (List.append_assoc ..).symm⟩⟩
  exact fun hmem => (List.mem_append.mp hmem).elim hs hbody

theorem newline_coinTypeToString (coinType : Int) : '\n' ∉ (coinTypeToString coinType).toList := by
  unfold coinTypeToString
  split_ifs <;> decide

theorem orderText_eq (price : Double → CString) (i : Nat) (r : Order Double) :
    orderText price i r = "Order ".toList ++ decimalText (i + 1) ++ ": Type: ".toList ++
      (if r.buyOrSell = 0 then "BUY" else "SELL").toList ++ ", Item: ".toList ++
      (coinTypeToString r.item).toList ++ ", Amount: ".toList ++ decimalText r.quantity ++
      ", Price: ".toList ++ price r.unitPrice ++ ", ID: ".toList ++ decimalText r.orderID ++
      "\r\n".toList :=
  rfl

theorem handleMyOrders_eq (price : Double → CString) (rows archived : List (Order Double)) :
    ∃ rest, handleMyOrders price rows archived = "Open Orders:\r\n".toList ++
      ((if rows.isEmpty then "No open orders.\r\n".toList ++ separator
        else (orderTexts price rows).flatten) ++ (separator ++ rest)) := by
  refine ⟨"Archived Orders:\r\n".toList ++ (if archived.isEmpty then "No archived orders.\r\n".toList
    else (orderTexts price archived).flatten), ?_⟩
  simp only [← List.append_assoc]
  rfl

theorem endsLine_orderText {price : Double → CString} (hprice : ∀ x, '\n' ∉ price x) (i : Nat)
    (r : Order Double) : EndsLine (orderText price i r) := by
  have hside : '\n' ∉ (if r.buyOrSell = 0 then "BUY" else "SELL").toList := by
    split_ifs <;> decide
  have hend : EndsLine "\r\n".toList := endsLine_literal (['\r']) (by decide) (by decide)
  rw [orderText_eq]
  refine hend.prepend ?_
  simp only [List.mem_append, not_or]
  exact ⟨⟨⟨⟨⟨⟨⟨⟨⟨⟨⟨by decide, newline_decimalText _⟩, by decide⟩, hside⟩, by decide⟩,
    newline_coinTypeToString _⟩, by decide⟩, newline_decimalText _⟩, by decide⟩, hprice _⟩,
    by decide⟩, newline_decimalText _⟩

theorem isPrefixOf_orderText (price : Double → CString) (i : Nat) (r : Order Double) :
    "Order ".toList.isPrefixOf (orderText price i r) = true := by
  rw [List.isPrefixOf_iff_prefix, orderText_eq]
  simp only [List.append_assoc]
  exact List.prefix_append _ _

theorem mem_orderTexts {price : Double → CString} {rows : List (Order Double)} {shown : CString}
    (h : shown ∈ orderTexts price rows) : ∃ i r, shown = orderText price i r := by
  obtain ⟨i, hi, rfl⟩ := List.mem_mapIdx.mp h
  exact ⟨i, rows[i], rfl⟩

theorem openLines_handleMyOrders {price : Double → CString} (hprice : ∀ x, '\n' ∉ price x)
    (rows archived : List (Order Double)) :
    openLines (handleMyOrders price rows archived) = orderTexts price rows := by
  have hheading : EndsLine "Open Orders:\r\n".toList :=
    endsLine_literal ("Open Orders:\r".toList) (by decide) (by decide)
  have hnone : EndsLine "No open orders.\r\n".toList :=
    endsLine_literal ("No open orders.\r".toList) (by decide) (by decide)
  have hseparator : EndsLine separator :=
    endsLine_literal ("------------------------------------\r".toList) (by decide) (by decide)
  have hlines : ∀ shown ∈ orderTexts price rows, EndsLine shown := by
    intro shown hshown
    obtain ⟨i, r, rfl⟩ := mem_orderTexts hshown
    exact endsLine_orderText hprice i r
  have hshown : ∀ shown ∈ orderTexts price rows, "Order ".toList.isPrefixOf shown = true := by
    intro shown hshown
    obtain ⟨i, r, rfl⟩ := mem_orderTexts hshown
    exact isPrefixOf_orderText price i r
  obtain ⟨rest, hscreen⟩ := handleMyOrders_eq price rows archived
  rw [openLines, hscreen, screenLines_line hheading, List.drop_one, List.tail_cons]
  cases rows with
  | nil =>
    rw [List.isEmpty_nil, if_pos rfl, List.append_assoc, screenLines_line hnone,
      List.takeWhile_cons_of_neg (by decide)]
    rfl
  | cons r rows =>
    rw [List.isEmpty_cons, if_neg (by decide), screenLines_flatten hlines,
      List.takeWhile_append_of_pos hshown, screenLines_line hseparator,
      List.takeWhile_cons_of_neg (by decide), List.append_nil]

end Reading

theorem shown_orderTexts (price : Double → CString) (rows : List (Order Double)) :
    List.Forall₂ (fun shown r => ∃ i, shown = orderText price i r) (orderTexts price rows) rows := by
  refine List.forall₂_iff_get.mpr ⟨List.length_mapIdx, fun i hi _ => ⟨i, ?_⟩⟩
  simp [orderTexts]

def offerer : User :=
  { newUser "ann".toList "pw".toList "Ann".toList with userID := 1, DOGE := 195 }

def twoOffers : Database Double :=
  (((Database.empty.addUser offerer).setBalance offerer).insertOrderRow COIN_DOGE SELL 5 (.ofRat 2)
    1).insertOrderRow COIN_BTC BUY 3 (.ofRat 2) 1

end Marketplace
