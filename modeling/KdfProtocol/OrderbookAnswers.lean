import KdfProtocol.OrderRendering

/-!
# The answer of a relay to an order book request

A relay answers with the orders of a pair, grouped by pubkey.  The node replaces what
it holds of every pubkey that the answer names, unless the pubkey is its own, is no
hexadecimal text or is banned.  The ban list is keyed by the bytes after the first one,
and a pubkey that is too short for such a key makes the node panic in the middle of the
loop.
-/

namespace KdfProtocol

open Orderbook IndexCall

structure GetOrderbookRes where
  pubkeyOrders : List (String × List (Uuid × OrderbookP2PItem))
  protocolInfos : HashMap Uuid BaseRelProtocolInfo
  confInfos : HashMap Uuid OrderConfirmationsSettings

variable (answer : GetOrderbookRes)

def GetOrderbookRes.params (pubkey albPair : String) : ProcessTrieParams where
  pubkey
  albPair
  protocolInfos := answer.protocolInfos
  confInfos := answer.confInfos

structure FillNode where
  banned : H256 → Bool
  myPubsecp : Except String (Option String)

variable (node : FillNode) (mine : Option String) (myP2pPubkeys : HashSet String)

def hexVal (digit : UInt8) : Option UInt8 :=
  if 65 ≤ digit ∧ digit ≤ 70 then some (digit - 65 + 10)
  else if 97 ≤ digit ∧ digit ≤ 102 then some (digit - 97 + 10)
  else if 48 ≤ digit ∧ digit ≤ 57 then some (digit - 48)
  else none

def hexPairs : Bytes → Option Bytes
  | [] => some []
  | [_] => none
  | high :: low :: rest => do
    return ((← hexVal high) <<< 4 ||| (← hexVal low)) :: (← hexPairs rest)

/-- Both cases of letters are read; an odd number of digits is refused. -/
def hexDecode (text : String) : Option Bytes :=
  hexPairs text.toUTF8.data.toList

/-- The first 32 bytes of a slice; a shorter one panics. -/
def H256.ofSlice (slice : Bytes) : Option H256 :=
  if hlength : 32 ≤ slice.length then
    some ⟨slice.take 32, List.length_take_of_le hlength⟩
  else none

def banKey (pubkeyBytes : Bytes) : Option H256 :=
  if pubkeyBytes.length < 1 then none else H256.ofSlice (pubkeyBytes.drop 1)

theorem banKey_eq_none_iff (pubkeyBytes : Bytes) :
    banKey pubkeyBytes = none ↔ pubkeyBytes.length < 33 := by
  unfold banKey H256.ofSlice
  have hdrop : (pubkeyBytes.drop 1).length = pubkeyBytes.length - 1 := List.length_drop
  split_ifs with hempty hlong
  · simp only [true_iff]
    omega
  · simp only [false_iff]
    omega
  · simp only [true_iff]
    omega

/-! ## The loop over the pubkeys -/

/-- How the loop ended; a panic loses the trie events that were not yet queued and
keeps the changes of the index. -/
structure FillOutcome where
  panicked : Bool
  ops : List TrieOp
  orderbook : Orderbook

/-- The orders of one pubkey; `none` is a panic. -/
def FillNode.fillPubkey (params : ProcessTrieParams) (clock : ℕ → Instant)
    (orders : List (Uuid × OrderbookP2PItem)) (ob : Orderbook) : Option (List TrieOp × Orderbook) :=
  if isMyOrder params.pubkey mine ob.myP2pPubkeys then some ([], ob)
  else
    match hexDecode params.pubkey with
    | none => some ([], ob)
    | some pubkeyBytes =>
      match banKey pubkeyBytes with
      | none => none
      | some hash =>
        if node.banned hash then some ([], ob)
        else some (processPubkeyFullTrie params clock orders ob)

def FillNode.fillLoop (node : FillNode) (mine : Option String)
    (answer : GetOrderbookRes) (albPair : String) :
    (ℕ → ℕ → Instant) → List (String × List (Uuid × OrderbookP2PItem)) → Orderbook → FillOutcome
  | _, [], ob => ⟨false, [], ob⟩
  | clock, (pubkey, orders) :: rest, ob =>
    match node.fillPubkey mine (answer.params pubkey albPair) (clock 0) orders ob with
    | none => ⟨true, [], ob⟩
    | some (pairOps, ob) =>
      let tail := node.fillLoop mine answer albPair (fun n => clock (n + 1)) rest ob
      { tail with ops := pairOps ++ tail.ops }

/-- `response` is what the relays give: an error, nothing or an answer. -/
def OrdermatchContext.requestAndFillOrderbook {Root Db : Type} (node : FillNode)
    (clock : ℕ → ℕ → Instant) (nowSecs : ℕ) (base rel : String)
    (response : Except String (Option GetOrderbookRes)) (ctx : OrdermatchContext Root Db) :
    Fallible String Unit × OrdermatchContext Root Db :=
  match response with
  | .error e => (refuse e, ctx)
  | .ok none => (.ok (), ctx)
  | .ok (some answer) =>
    match node.myPubsecp with
    | .error e => (refuse e, ctx)
    | .ok mine =>
      let filled := node.fillLoop mine answer (albOrderedPair base rel) clock
        answer.pubkeyOrders ctx.orderbook
      let ctx := { ctx with orderbook := filled.orderbook }
      if filled.panicked then (.error .panic, ctx)
      else
        let ctx := ctx.updateLiveness (·.touchInserts filled.ops nowSecs)
        (.ok (), ctx.queueTrieOps filled.ops)

/-! ## The index calls of an answer -/

/-- The pubkey makes the node panic: it is another node's, hexadecimal and shorter than
a first byte and a key of the ban list. -/
def PanicsOn (pubkey : String) : Prop :=
  isMyOrder pubkey mine myP2pPubkeys = false ∧
    ∃ pubkeyBytes ∈ hexDecode pubkey, pubkeyBytes.length < 33

def FillNode.takes (pubkey : String) : Bool :=
  !isMyOrder pubkey mine myP2pPubkeys &&
    (hexDecode pubkey).any fun pubkeyBytes =>
      (banKey pubkeyBytes).any fun hash => !node.banned hash

def FillNode.pubkeyCalls (params : ProcessTrieParams) (clock : ℕ → Instant)
    (orders : List (Uuid × OrderbookP2PItem)) : List IndexCall :=
  if node.takes mine myP2pPubkeys params.pubkey then
    diffCalls params clock (.fullTrie orders)
  else []

def FillNode.calls (node : FillNode) (mine : Option String)
    (myP2pPubkeys : HashSet String) (answer : GetOrderbookRes) (albPair : String) :
    (ℕ → ℕ → Instant) → List (String × List (Uuid × OrderbookP2PItem)) → List IndexCall
  | _, [] => []
  | clock, (pubkey, orders) :: rest =>
    node.pubkeyCalls mine myP2pPubkeys (answer.params pubkey albPair) (clock 0) orders ++
      node.calls mine myP2pPubkeys answer albPair (fun n => clock (n + 1)) rest

section Fill

variable (node : FillNode) (mine : Option String)

theorem FillNode.fillPubkey_cases (params : ProcessTrieParams) (clock : ℕ → Instant)
    (orders : List (Uuid × OrderbookP2PItem)) (ob : Orderbook) :
    PanicsOn mine ob.myP2pPubkeys params.pubkey ∧
        node.fillPubkey mine params clock orders ob = none ∨
      ¬PanicsOn mine ob.myP2pPubkeys params.pubkey ∧
        ∃ ops, node.fillPubkey mine params clock orders ob = some (ops,
          run apply ob (node.pubkeyCalls mine ob.myP2pPubkeys params clock orders)) := by
  unfold fillPubkey PanicsOn pubkeyCalls takes
  cases isMyOrder params.pubkey mine ob.myP2pPubkeys with
  | true => exact Or.inr ⟨by simp, [], rfl⟩
  | false =>
    cases hexDecode params.pubkey with
    | none => exact Or.inr ⟨by simp, [], rfl⟩
    | some pubkeyBytes =>
      have hshort := banKey_eq_none_iff pubkeyBytes
      cases hkey : banKey pubkeyBytes with
      | none => exact Or.inl ⟨⟨rfl, _, rfl, hshort.mp hkey⟩, by simp [hkey]⟩
      | some hash =>
        rw [hkey] at hshort
        refine Or.inr ⟨by simpa using hshort, ?_⟩
        cases hbanned : node.banned hash with
        | true => exact ⟨[], by simp [hkey, hbanned]⟩
        | false =>
          refine ⟨(processPubkeyFullTrie params clock orders ob).1, ?_⟩
          have hcalls := processDiff_snd params clock (.fullTrie orders) ob
          simp only [Option.any_some, hkey, hbanned, Bool.not_false,
            Bool.and_true, if_true, ← hcalls]
          rfl

/-- The loop panics at the first pubkey that makes it, and otherwise makes its
calls. -/
theorem FillNode.fillLoop_spec (answer : GetOrderbookRes) (albPair : String)
    (clock : ℕ → ℕ → Instant)
    (entries : List (String × List (Uuid × OrderbookP2PItem))) (ob : Orderbook) :
    ((node.fillLoop mine answer albPair clock entries ob).panicked = false ↔
      ∀ entry ∈ entries, ¬PanicsOn mine ob.myP2pPubkeys entry.1) ∧
    ((node.fillLoop mine answer albPair clock entries ob).panicked = false →
      (node.fillLoop mine answer albPair clock entries ob).orderbook =
        run apply ob (node.calls mine ob.myP2pPubkeys answer albPair clock entries)) := by
  induction entries generalizing clock ob with
  | nil => simp [fillLoop, calls]
  | cons entry rest ih =>
    obtain ⟨pubkey, orders⟩ := entry
    rcases node.fillPubkey_cases mine (answer.params pubkey albPair) (clock 0) orders ob with
      ⟨hpanics, hnone⟩ | ⟨hfine, ops, hsome⟩
    · simp only [fillLoop, hnone, reduceCtorEq, false_iff, false_imp_iff,
        and_true, not_forall, not_not]
      exact ⟨(pubkey, orders), List.mem_cons_self, hpanics⟩
    · have hset := keepsSettings_run ob
        (node.pubkeyCalls mine ob.myP2pPubkeys (answer.params pubkey albPair) (clock 0) orders)
      obtain ⟨hpanicked, hcalls⟩ := ih (fun n => clock (n + 1)) (run apply ob
        (node.pubkeyCalls mine ob.myP2pPubkeys (answer.params pubkey albPair) (clock 0) orders))
      rw [hset.myP2pPubkeys] at hpanicked hcalls
      simp only [fillLoop, hsome, calls, run_append, List.forall_mem_cons]
      refine ⟨hpanicked.trans ⟨fun hrest => ⟨hfine, hrest⟩, And.right⟩, hcalls⟩

end Fill

/-! ## The orders of pubkeys that the answer does not name -/

/-- The answer lists the pubkey; the pubkey fields of the orders do not count. -/
def GetOrderbookRes.Names (pubkey : String) : Prop :=
  ∃ entry ∈ answer.pubkeyOrders, entry.1 = pubkey

/-- The last call that names a uuid and passes the guard leaves an order of an unnamed
pubkey exactly if the index holds that order already. -/
def GetOrderbookRes.SparesUnnamed (ob : Orderbook) (calls : List IndexCall) : Prop :=
  ∀ uuid call, (calls.filter (reaches ob uuid)).getLast? = some call →
    ∀ order, ¬answer.Names order.pubkey →
      (call.leaves = some order ↔ ob.orderSet.lookup uuid = some order)

theorem FillNode.calls_actsFor (albPair : String)
    {entries : List (String × List (Uuid × OrderbookP2PItem))}
    (hentries : ∀ entry ∈ entries, entry ∈ answer.pubkeyOrders) (clock : ℕ → ℕ → Instant) :
    ∀ call ∈ node.calls mine myP2pPubkeys answer albPair clock entries,
      call.actsFor answer.Names := by
  induction entries generalizing clock with
  | nil => simp [calls]
  | cons entry rest ih =>
    obtain ⟨pubkey, orders⟩ := entry
    obtain ⟨hentry, hrest⟩ := List.forall_mem_cons.mp hentries
    refine List.forall_mem_append.mpr ⟨?_, ih hrest _⟩
    unfold pubkeyCalls
    split_ifs
    · exact List.forall_mem_cons.mpr ⟨⟨_, hentry, rfl⟩, answerOrderCalls_actsFor _ _ _ _⟩
    · simp

theorem Orderbook.find_eq_iff {ob next : Orderbook} {uuid : Uuid} {pubkey : String} :
    next.findOrderByUuidAndPubkey uuid pubkey = ob.findOrderByUuidAndPubkey uuid pubkey ↔
      ∀ order, order.pubkey = pubkey →
        (next.orderSet.lookup uuid = some order ↔ ob.orderSet.lookup uuid = some order) := by
  rw [Option.ext_iff]
  simp only [findOrderByUuidAndPubkey, Option.filter_eq_some_iff, decide_eq_true_eq,
    and_congr_left_iff]

theorem find_kept_iff {answer : GetOrderbookRes} {calls : List IndexCall}
    (hacts : ∀ call ∈ calls, call.actsFor answer.Names) (ob : Orderbook) :
    (∀ pubkey, ¬answer.Names pubkey → ∀ uuid,
      (run apply ob calls).findOrderByUuidAndPubkey uuid pubkey =
        ob.findOrderByUuidAndPubkey uuid pubkey) ↔
    answer.SparesUnnamed ob calls := by
  constructor
  · intro hkept uuid call hlast order hunnamed
    have hdecided := lookup_run ob hacts uuid
    rw [hlast] at hdecided
    rw [← hdecided.some_iff hunnamed]
    exact find_eq_iff.mp (hkept order.pubkey hunnamed uuid) order rfl
  · rintro hspares pubkey hunnamed uuid
    refine find_eq_iff.mpr ?_
    rintro order rfl
    rw [(lookup_run ob hacts uuid).some_iff hunnamed]
    cases hlast : (calls.filter (reaches ob uuid)).getLast? with
    | none => rfl
    | some call => exact hspares uuid call hlast order hunnamed

section FillResult

variable {Root Db : Type}

/-- The node lives through an answer and keeps the orders of the pubkeys that it does
not name exactly if no pubkey of it makes the node panic and the orders taken over
spare those orders. -/
theorem requestAndFillOrderbook_safe_iff (node : FillNode) (clock : ℕ → ℕ → Instant)
    (nowSecs : ℕ) (base rel : String) (answer : GetOrderbookRes) (ctx : OrdermatchContext Root Db) :
    ((ctx.requestAndFillOrderbook node clock nowSecs base rel (.ok (some answer))).1 ≠
        .error .panic ∧
      ∀ pubkey, ¬answer.Names pubkey → ∀ uuid,
        (ctx.requestAndFillOrderbook node clock nowSecs base rel
          (.ok (some answer))).2.orderbook.findOrderByUuidAndPubkey uuid pubkey =
        ctx.orderbook.findOrderByUuidAndPubkey uuid pubkey) ↔
    ∀ mine, node.myPubsecp = .ok mine →
      (∀ entry ∈ answer.pubkeyOrders,
        ¬PanicsOn mine ctx.orderbook.myP2pPubkeys entry.1) ∧
      answer.SparesUnnamed ctx.orderbook
        (node.calls mine ctx.orderbook.myP2pPubkeys answer (albOrderedPair base rel) clock
          answer.pubkeyOrders) := by
  unfold OrdermatchContext.requestAndFillOrderbook
  cases node.myPubsecp with
  | error e => simp [refuse]
  | ok mine =>
    obtain ⟨hpanicked, hcalls⟩ := node.fillLoop_spec mine answer
      (albOrderedPair base rel) clock answer.pubkeyOrders ctx.orderbook
    have hkept := find_kept_iff (node.calls_actsFor answer mine
      ctx.orderbook.myP2pPubkeys (albOrderedPair base rel)
      (fun _ hentry => hentry) clock) ctx.orderbook
    simp only [Except.ok.injEq, forall_eq']
    rw [← hpanicked]
    cases hends : (node.fillLoop mine answer (albOrderedPair base rel) clock
        answer.pubkeyOrders ctx.orderbook).panicked with
    | true => simp
    | false =>
      rw [← hkept, ← hcalls hends]
      simp [findOrderByUuidAndPubkey, orderSet_queueTrieOps, OrdermatchContext.updateLiveness]

end FillResult

def fillingNode : FillNode where
  banned := fun _ => false
  myPubsecp := .ok none

/-- The compressed form of a public key, with one digit for all the others. -/
def sampleKey (parity digit : Char) : String :=
  String.ofList ('0' :: parity :: List.replicate 64 digit)

/-- A node that holds the order of `createdOne` for one key. -/
def heldOrderContext : OrdermatchContext Unit Unit :=
  (OrdermatchContext.new (durationFromSecs 120) 100000 true true ()).processMsg
    epochClock false (sampleKey '2' 'a') (.makerOrderCreated createdOne) |>.2

/-- Another key alone, with an order of the same uuid that carries this pubkey. -/
def answerOfOther (pubkey : String) : GetOrderbookRes :=
  ⟨[(sampleKey '3' 'b', [(1, ⟨pubkey, "KMD", "BTC", 2, 1, 0, 1, 0⟩)])], ∅, ∅⟩

/-- The empty pubkey makes the node panic.  An order that another key lists under the uuid
of a held order takes the held order away, and replaces it by one with another price if
it carries the pubkey of the held one. -/
theorem answers_do_harm :
    (heldOrderContext.requestAndFillOrderbook fillingNode (fun _ _ => 0) 0 "KMD" "BTC"
        (.ok (some ⟨[("", [])], ∅, ∅⟩))).1 = .error .panic ∧
      (∀ pubkey, ¬(answerOfOther pubkey).Names (sampleKey '2' 'a')) ∧
      (heldOrderContext.orderbook.findOrderByUuidAndPubkey 1
        (sampleKey '2' 'a')).map (·.price) = some 1 ∧
      ((heldOrderContext.requestAndFillOrderbook fillingNode (fun _ _ => 0) 0 "KMD" "BTC"
        (.ok (some (answerOfOther (sampleKey '3' 'b'))))).2.orderbook.findOrderByUuidAndPubkey 1
          (sampleKey '2' 'a')).map (·.price) = none ∧
      ((heldOrderContext.requestAndFillOrderbook fillingNode (fun _ _ => 0) 0 "KMD" "BTC"
        (.ok (some (answerOfOther (sampleKey '2' 'a'))))).2.orderbook.findOrderByUuidAndPubkey 1
          (sampleKey '2' 'a')).map (·.price) = some 2 := by
  have hother : sampleKey '3' 'b' ≠ sampleKey '2' 'a' := by decide +kernel
  refine ⟨by decide +kernel, fun pubkey => ?_, by decide +kernel, by decide +kernel,
    by decide +kernel⟩
  rintro ⟨entry, hmem, hkey⟩
  cases List.mem_singleton.mp hmem
  exact hother hkey

end KdfProtocol
