-- SUMMARY: The settlement's events as logs: what the indexer and the executor read of them is what the contract encoded.
import FluxSwap.Backend.Candidates
import FluxSwap.Indexer.Subscriber
import Mathlib.Tactic.Ring

/-!
# Decoding the settlement's events

The contract encodes an event in the topics and the data of a log. The indexer reads the data
by counted offsets and keeps texts; the executor has the log decoded by the generated binding.
The binding, and the texts that go-ethereum makes of hashes and addresses, are parameters.
-/

namespace Indexer

open Backend Text

/-! ## Events -/

/-- `uint256`. -/
abbrev Word : Type := Fin (2 ^ 256)

/-- An address in a word of its own. -/
def addressWord (a : Address) : Word := a.castLE (by decide)

/-- The event `OrderExecuted`. -/
structure OrderExecuted where
  orderHash          : Bytes32
  maker              : Address
  executor           : Address
  inputToken         : Address
  outputToken        : Address
  amountIn           : Word
  grossAmountOut     : Word
  recipientAmountOut : Word
  executorFeeAmount  : Word
  recipient          : Address

/-- The event `NonceInvalidated`. -/
structure NonceInvalidated where
  maker : Address
  nonce : Word

/-- The log holds this event: the signature and the indexed parameters are its topics, the other
    ones its data. -/
structure OrderExecuted.InLog (cfg : Config) (ev : OrderExecuted) (entry : Log) : Prop where
  topics : entry.topics =
    [orderExecutedTopic cfg, ev.orderHash, addressWord ev.maker, addressWord ev.executor]
  data : entry.data = Abi.words [ev.inputToken, ev.outputToken, ev.amountIn, ev.grossAmountOut,
    ev.recipientAmountOut, ev.executorFeeAmount, ev.recipient]

structure NonceInvalidated.InLog (cfg : Config) (ev : NonceInvalidated) (entry : Log) : Prop where
  topics : entry.topics = [nonceInvalidatedTopic cfg, addressWord ev.maker]
  data : entry.data = Abi.words [ev.nonce]

/-! ## The indexer's event -/

/-- `OrderEvent` as the indexer hands it on; a field that an event lacks is empty. -/
structure EventRecord where
  chainId            : Nat
  contractAddress    : Text
  eventName          : EventName
  removed            : Bool
  txHash             : Text
  logIndex           : Nat
  blockNumber        : Nat
  orderHash          : Text
  maker              : Text
  nonce              : Text
  grossAmountOut     : Text
  recipientAmountOut : Text
  executorFeeAmount  : Text
  deriving DecidableEq

/-- `strings.ToLower(hash.Hex())`. -/
def lowerHashHex (common : RouteCommon) (hash : Bytes32) : Text := toLower (common.hashHex hash)

/-- `strings.ToLower(address.Hex())`. -/
def lowerAddressHex (common : RouteCommon) (address : Address) : Text :=
  toLower (common.addressHex address)

/-- `strings.ToLower(common.HexToAddress(topic.Hex()).Hex())`. -/
def topicAddressHex (common : RouteCommon) (topic : Bytes32) : Text :=
  lowerAddressHex common (common.hexToAddress (common.hashHex topic))

def baseRecord (common : RouteCommon) (cfg : Config) (name : EventName) (entry : Log) :
    EventRecord where
  chainId := cfg.chainId
  contractAddress := lowerAddressHex common entry.address
  eventName := name
  removed := entry.removed
  txHash := lowerHashHex common entry.txHash
  logIndex := entry.index
  blockNumber := entry.blockNumber
  orderHash := []
  maker := []
  nonce := []
  grossAmountOut := []
  recipientAmountOut := []
  executorFeeAmount := []

/-- `decodeLog`, with the texts of its result. -/
def decodeRecord (common : RouteCommon) (cfg : Config) (name : EventName) (entry : Log) :
    Option EventRecord :=
  match name, entry.topics with
  | .orderExecuted, _ :: orderHash :: rest =>
    (decodeThreeUint256Offset entry.data 96).map fun amounts =>
      { baseRecord common cfg name entry with
        orderHash := lowerHashHex common orderHash
        maker := (rest.head?.map (topicAddressHex common)).getD []
        grossAmountOut := formatInt amounts.1
        recipientAmountOut := formatInt amounts.2.1
        executorFeeAmount := formatInt amounts.2.2 }
  | .nonceInvalidated, _ :: maker :: _ =>
    (decodeUint256 entry.data).map fun nonce => { baseRecord common cfg name entry with
      maker := topicAddressHex common maker
      nonce := formatInt nonce }
  | _, _ => none

/-- What go-ethereum documents about its texts: a hash is shown as 64 digits in lower case, an
    address as 40 digits whose case is a checksum, and `HexToAddress` keeps the last 20 bytes. -/
structure Documented (common : RouteCommon) : Prop where
  hashHex : ∀ hash, common.hashHex hash = lowerHex 64 hash.val
  addressHex : ∀ address, toLower (common.addressHex address) = lowerHex 40 address.val
  hexToAddress : ∀ text, isHex 64 text = true →
    common.hexToAddress text = Fin.ofNat (2 ^ 160) (hexadecimal (hexDigits text))

/-- The texts of an event that is decoded to numbers. The maker of an execution is shown if the
    log has a third topic. -/
def OrderEvent.record (common : RouteCommon) (hasMaker : Bool) (event : OrderEvent) :
    EventRecord where
  chainId := event.chainId
  contractAddress := lowerAddressHex common event.contractAddress
  eventName := event.name
  removed := event.removed
  txHash := lowerHashHex common event.txHash
  logIndex := event.logIndex
  blockNumber := event.blockNumber.toNat
  orderHash := if event.name = .orderExecuted then lowerHashHex common event.orderHash else []
  maker := if event.name = .orderExecuted ∧ hasMaker = false then []
    else lowerAddressHex common event.maker
  nonce := if event.name = .orderExecuted then [] else formatInt event.nonce
  grossAmountOut := if event.name = .orderExecuted then formatInt event.grossAmountOut else []
  recipientAmountOut :=
    if event.name = .orderExecuted then formatInt event.recipientAmountOut else []
  executorFeeAmount := if event.name = .orderExecuted then formatInt event.executorFeeAmount else []

/-! ## Texts -/

section Texts

variable {common : RouteCommon} {cfg : Config} {name : EventName} {entry : Log}

theorem isHex_lowerHex (k n : Nat) : isHex k (lowerHex k n) = true := by
  simp only [isHex, lowerHex, length_lowerHexDigits, decide_true, Bool.true_and, List.all_eq_true]
  exact fun _ => isHexDigit_of_mem_lowerHexDigits

theorem toLower_lowerHex (k n : Nat) : toLower (lowerHex k n) = lowerHex k n := by
  have hdigit : ∀ c ∈ lowerHexDigits k n, c.toLower = c := by
    induction k generalizing n with
    | zero => nofun
    | succ k ih =>
      intro c hc
      rcases List.mem_append.mp hc with hc | hc
      · exact ih _ c hc
      · obtain rfl := List.mem_singleton.mp hc
        exact (by decide : ∀ d < 16, (Nat.digitChar d).toLower = Nat.digitChar d) _
          (Nat.mod_lt _ (by decide))
  unfold toLower lowerHex
  rw [List.map_cons, List.map_cons, List.map_congr_left hdigit, List.map_id']
  rfl

theorem Documented.lowerHashHex (h : Documented common) (hash : Bytes32) :
    lowerHashHex common hash = lowerHex 64 hash.val := by
  rw [Indexer.lowerHashHex, h.hashHex, toLower_lowerHex]

/-- The address that a topic holds is in its last 20 bytes. -/
theorem Documented.topicAddress (h : Documented common) (topic : Bytes32) :
    common.hexToAddress (common.hashHex topic) = topicAddress topic := by
  rw [h.hashHex, h.hexToAddress _ (isHex_lowerHex 64 topic.val)]
  have hvalue : hexadecimal (hexDigits (lowerHex 64 topic.val)) = topic.val := by
    change hexadecimal (lowerHexDigits 64 topic.val) = _
    rw [hexadecimal_lowerHexDigits]
    exact Nat.mod_eq_of_lt (topic.isLt.trans_le (by decide))
  rw [hvalue]
  rfl

/-- The indexer's texts are those of the numbers that the log is decoded to. -/
theorem decodeRecord_eq (h : Documented common) (cfg : Config) (name : EventName) (entry : Log) :
    decodeRecord common cfg name entry =
      (decodeLog cfg name entry).map (OrderEvent.record common (decide (3 ≤ entry.topics.length))) := by
  cases name with
  | orderExecuted =>
    rcases htopics : entry.topics with _ | ⟨topic, _ | ⟨orderHash, rest⟩⟩
    · simp only [decodeRecord, decodeLog, htopics, Option.map_none]
    · simp only [decodeRecord, decodeLog, htopics, Option.map_none]
    · simp only [decodeRecord, decodeLog, htopics, Option.map_map]
      congr 1
      funext amounts
      cases rest with
      | nil => rfl
      | cons maker rest =>
        simp only [List.head?_cons, Option.map_some, Option.getD_some, topicAddressHex,
          h.topicAddress]
        rfl
  | nonceInvalidated =>
    rcases htopics : entry.topics with _ | ⟨topic, _ | ⟨maker, rest⟩⟩
    · simp only [decodeRecord, decodeLog, htopics, Option.map_none]
    · simp only [decodeRecord, decodeLog, htopics, Option.map_none]
    · simp only [decodeRecord, decodeLog, htopics, Option.map_map, topicAddressHex, h.topicAddress]
      cases decodeUint256 entry.data with
      | none => rfl
      | some nonce => rfl

end Texts

/-! ## Words -/

theorem topicAddress_addressWord (a : Address) : topicAddress (addressWord a) = a :=
  Fin.ext (Nat.mod_eq_of_lt a.isLt)

/-! ## Decoding undoes encoding -/

section RoundTrip

variable {common : RouteCommon} {cfg : Config} {entry : Log}

theorem decodeThreeUint256Offset_words {a b c d e f g : Nat} (hd : d < 2 ^ 256) (he : e < 2 ^ 256)
    (hf : f < 2 ^ 256) :
    decodeThreeUint256Offset (Abi.words [a, b, c, d, e, f, g]) 96 = some (d, e, f) := by
  have hlength : (Abi.words [a, b, c, d, e, f, g]).length = 224 := Abi.length_words _
  unfold decodeThreeUint256Offset
  rw [if_neg (by omega)]
  have h₃ := @Abi.setBytes_words [a, b, c, d, e, f, g] d 3 rfl hd
  have h₄ := @Abi.setBytes_words [a, b, c, d, e, f, g] e 4 rfl he
  have h₅ := @Abi.setBytes_words [a, b, c, d, e, f, g] f 5 rfl hf
  rw [h₃, h₄, h₅]

theorem decodeUint256_words {n : Nat} (hn : n < 2 ^ 256) : decodeUint256 (Abi.words [n]) = some n := by
  have hlength : (Abi.words [n]).length = 32 := Abi.length_words _
  unfold decodeUint256
  rw [if_neg (by omega), Abi.take_words_cons, Abi.setBytes_word hn]

/-- An execution is decoded to its values. -/
theorem OrderExecuted.InLog.decode {ev : OrderExecuted} (h : ev.InLog cfg entry) :
    decodeLog cfg .orderExecuted entry = some { baseEvent cfg .orderExecuted entry with
      orderHash := ev.orderHash
      maker := ev.maker
      grossAmountOut := ev.grossAmountOut.val
      recipientAmountOut := ev.recipientAmountOut.val
      executorFeeAmount := ev.executorFeeAmount.val } := by
  have hamounts := decodeThreeUint256Offset_words (a := ev.inputToken) (b := ev.outputToken)
    (c := ev.amountIn) (g := ev.recipient) ev.grossAmountOut.isLt ev.recipientAmountOut.isLt
    ev.executorFeeAmount.isLt
  rw [← h.data] at hamounts
  simp only [decodeLog, h.topics, hamounts, Option.map_some, List.head?_cons, Option.getD_some,
    topicAddress_addressWord]

theorem NonceInvalidated.InLog.decode {ev : NonceInvalidated} (h : ev.InLog cfg entry) :
    decodeLog cfg .nonceInvalidated entry = some { baseEvent cfg .nonceInvalidated entry with
      maker := ev.maker
      nonce := ev.nonce.val } := by
  have hnonce := decodeUint256_words ev.nonce.isLt
  rw [← h.data] at hnonce
  simp only [decodeLog, h.topics, hnonce, topicAddress_addressWord]
  rfl

/-- The texts of an execution. -/
structure ShowsExecution (ev : OrderExecuted) (record : EventRecord) : Prop where
  orderHash : record.orderHash = lowerHex 64 ev.orderHash.val
  maker : record.maker = lowerHex 40 ev.maker.val
  grossAmountOut : record.grossAmountOut = formatInt ev.grossAmountOut.val
  recipientAmountOut : record.recipientAmountOut = formatInt ev.recipientAmountOut.val
  executorFeeAmount : record.executorFeeAmount = formatInt ev.executorFeeAmount.val

structure ShowsInvalidation (ev : NonceInvalidated) (record : EventRecord) : Prop where
  maker : record.maker = lowerHex 40 ev.maker.val
  nonce : record.nonce = formatInt ev.nonce.val

theorem OrderExecuted.InLog.record {ev : OrderExecuted} (h : ev.InLog cfg entry)
    (hcommon : Documented common) :
    ∃ record, decodeRecord common cfg .orderExecuted entry = some record ∧
      ShowsExecution ev record := by
  rw [decodeRecord_eq hcommon, h.decode, h.topics]
  exact ⟨_, rfl, hcommon.lowerHashHex _, hcommon.addressHex _, rfl, rfl, rfl⟩

theorem NonceInvalidated.InLog.record {ev : NonceInvalidated} (h : ev.InLog cfg entry)
    (hcommon : Documented common) :
    ∃ record, decodeRecord common cfg .nonceInvalidated entry = some record ∧
      ShowsInvalidation ev record := by
  rw [decodeRecord_eq hcommon, h.decode]
  exact ⟨_, rfl, hcommon.addressHex _, rfl⟩

/-- The number of data bytes that an event needs. -/
def dataBytes : EventName → Nat
  | .orderExecuted => 192
  | .nonceInvalidated => 32

/-- A log without the first indexed topic, or with too little data, is not decoded. -/
theorem decodeRecord_eq_none {name : EventName}
    (h : entry.topics.length < 2 ∨ entry.data.length < dataBytes name) :
    decodeRecord common cfg name entry = none := by
  unfold decodeRecord
  split
  · rename_i htopics
    rw [htopics, List.length_cons, List.length_cons] at h
    have hshort : entry.data.length < 96 + 96 := h.resolve_left (by omega)
    rw [decodeThreeUint256Offset, if_pos hshort, Option.map_none]
  · rename_i htopics
    rw [htopics, List.length_cons, List.length_cons] at h
    have hshort : entry.data.length < 32 := h.resolve_left (by omega)
    rw [decodeUint256, if_pos hshort]
    rfl
  · rfl

end RoundTrip

/-! ## Receipts -/

/-- What the binding parses of an execution, as far as it is used. -/
structure ParsedOrderExecuted where
  orderHash          : Bytes32
  grossAmountOut     : Int
  recipientAmountOut : Int
  executorFeeAmount  : Int

structure ExecutionResult where
  grossAmountOut     : Int
  recipientAmountOut : Int
  executorFeeAmount  : Int

/-- What is used of the client: its contract, the binding, and `HexToHash`. -/
structure SettlementClient where
  settlementAdr      : Address
  parseOrderExecuted : Log → Option ParsedOrderExecuted
  hexToHash          : Text → Bytes32

/-- `chain.IsHexHash`. -/
def isHexHash (value : Text) : Bool :=
  ['0', 'x'].isPrefixOf (trimSpace value) && decide ((trimSpace value).length = 66)

/-- The loop over the logs of a receipt, some of which may be nil. -/
def findExecution (client : SettlementClient) (targetHash : Bytes32) :
    List (Option Log) → Option ExecutionResult
  | [] => none
  | none :: logs => findExecution client targetHash logs
  | some entry :: logs =>
    if entry.address ≠ client.settlementAdr then findExecution client targetHash logs
    else
      match client.parseOrderExecuted entry with
      | none => findExecution client targetHash logs
      | some parsed =>
        if parsed.orderHash ≠ targetHash then findExecution client targetHash logs
        else some ⟨parsed.grossAmountOut, parsed.recipientAmountOut, parsed.executorFeeAmount⟩

def parseExecutionResult (client : Option SettlementClient) (receipt : Option (List (Option Log)))
    (orderHash : Text) : Except String ExecutionResult :=
  match client, receipt with
  | none, _ => .error "settlement client is nil"
  | some _, none => .error "receipt is nil"
  | some client, some logs =>
    if isHexHash orderHash = false then .error "invalid order hash"
    else
      match findExecution client (client.hexToHash (trimSpace orderHash)) logs with
      | some result => .ok result
      | none => .error "order executed event not found in receipt"

/-- The binding decodes according to the ABI: an execution to its values, and no other event. -/
structure Binding (cfg : Config) (client : SettlementClient) : Prop where
  decodes : ∀ (ev : OrderExecuted) entry, ev.InLog cfg entry →
    client.parseOrderExecuted entry = some ⟨ev.orderHash, ev.grossAmountOut.val,
      ev.recipientAmountOut.val, ev.executorFeeAmount.val⟩
  rejects : ∀ entry : Log, entry.topics.head? ≠ some (orderExecutedTopic cfg) →
    client.parseOrderExecuted entry = none

/-- The log is an execution of this order by the contract. -/
def Executes (cfg : Config) (settlement : Address) (orderHash : Bytes32) (entry : Log) : Prop :=
  entry.address = settlement ∧ ∃ ev : OrderExecuted, ev.InLog cfg entry ∧ ev.orderHash = orderHash

/-- Logs of any contracts. Those of the settlement with the signature of `OrderExecuted` are what
    it emits under this signature. -/
def Genuine (cfg : Config) (settlement : Address) (logs : List (Option Log)) : Prop :=
  ∀ entry, some entry ∈ logs → entry.address = settlement →
    entry.topics.head? = some (orderExecutedTopic cfg) → ∃ ev : OrderExecuted, ev.InLog cfg entry

section Receipts

variable {cfg : Config} {client : SettlementClient} {targetHash : Bytes32}
  {logs : List (Option Log)} {entry : Log}

/-- One log that executes no such order is passed over. -/
theorem findExecution_skip (hbinding : Binding cfg client)
    (hgenuine : entry.address = client.settlementAdr →
      entry.topics.head? = some (orderExecutedTopic cfg) → ∃ ev : OrderExecuted, ev.InLog cfg entry)
    (hother : ¬ Executes cfg client.settlementAdr targetHash entry) :
    findExecution client targetHash (some entry :: logs) = findExecution client targetHash logs := by
  rw [findExecution]
  by_cases haddress : entry.address = client.settlementAdr
  · rw [if_neg (not_not.mpr haddress)]
    by_cases htopic : entry.topics.head? = some (orderExecutedTopic cfg)
    · obtain ⟨ev, hev⟩ := hgenuine haddress htopic
      have hhash : ev.orderHash ≠ targetHash := fun hsame => hother ⟨haddress, ev, hev, hsame⟩
      simp only [hbinding.decodes ev entry hev, if_pos hhash]
    · simp only [hbinding.rejects entry htopic]
  · rw [if_pos haddress]

/-- One that does is the result. -/
theorem findExecution_found (hbinding : Binding cfg client) {ev : OrderExecuted}
    (haddress : entry.address = client.settlementAdr) (hev : ev.InLog cfg entry)
    (hhash : ev.orderHash = targetHash) :
    findExecution client targetHash (some entry :: logs) =
      some ⟨ev.grossAmountOut.val, ev.recipientAmountOut.val, ev.executorFeeAmount.val⟩ := by
  rw [findExecution, if_neg (not_not.mpr haddress)]
  simp only [hbinding.decodes ev entry hev, if_neg (not_not.mpr hhash)]

/-- The first execution of the order in the receipt is found. -/
theorem findExecution_eq (hbinding : Binding cfg client)
    (hgenuine : Genuine cfg client.settlementAdr logs) :
    (∃ entry, some entry ∈ logs ∧ ∃ ev : OrderExecuted, entry.address = client.settlementAdr ∧
        ev.InLog cfg entry ∧ ev.orderHash = targetHash ∧
        findExecution client targetHash logs = some ⟨ev.grossAmountOut.val,
          ev.recipientAmountOut.val, ev.executorFeeAmount.val⟩) ∨
      ((∀ entry, some entry ∈ logs → ¬ Executes cfg client.settlementAdr targetHash entry) ∧
        findExecution client targetHash logs = none) := by
  induction logs with
  | nil => exact .inr ⟨nofun, rfl⟩
  | cons log logs ih =>
    have hrest : Genuine cfg client.settlementAdr logs :=
      fun entry hentry => hgenuine entry (List.mem_cons_of_mem log hentry)
    cases log with
    | none =>
      rcases ih hrest with ⟨entry, hentry, hfound⟩ | ⟨hnone, hresult⟩
      · exact .inl ⟨entry, List.mem_cons_of_mem _ hentry, hfound⟩
      · refine .inr ⟨fun entry hentry => hnone entry ?_, hresult⟩
        exact (List.mem_cons.mp hentry).resolve_left nofun
    | some first =>
      by_cases hexecutes : Executes cfg client.settlementAdr targetHash first
      · obtain ⟨haddress, ev, hev, hhash⟩ := hexecutes
        exact .inl ⟨first, List.mem_cons_self, ev, haddress, hev, hhash,
          findExecution_found hbinding haddress hev hhash⟩
      · rw [findExecution_skip hbinding (hgenuine first List.mem_cons_self) hexecutes]
        rcases ih hrest with ⟨entry, hentry, hfound⟩ | ⟨hnone, hresult⟩
        · exact .inl ⟨entry, List.mem_cons_of_mem _ hentry, hfound⟩
        · refine .inr ⟨fun entry hentry => ?_, hresult⟩
          rcases List.mem_cons.mp hentry with heq | hentry
          · obtain rfl := Option.some.inj heq
            exact hexecutes
          · exact hnone entry hentry

end Receipts

/-- The texts of a result of the executor are those of the indexer's event. -/
structure SameAmounts (result : ExecutionResult) (record : EventRecord) : Prop where
  grossAmountOut : formatInt result.grossAmountOut = record.grossAmountOut
  recipientAmountOut : formatInt result.recipientAmountOut = record.recipientAmountOut
  executorFeeAmount : formatInt result.executorFeeAmount = record.executorFeeAmount

/-- Two logs that execute the order are the same one. -/
def ExecutedOnce (cfg : Config) (settlement : Address) (orderHash : Bytes32)
    (logs : List (Option Log)) : Prop :=
  ∀ entry entry', some entry ∈ logs → some entry' ∈ logs →
    Executes cfg settlement orderHash entry → Executes cfg settlement orderHash entry' →
      entry = entry'

/-- The executor reads of an order's log what the indexer reads of it. -/
theorem parseExecutionResult_agrees {common : RouteCommon} {cfg : Config}
    {client : SettlementClient} {logs : List (Option Log)} {orderHash : Text} {entry : Log}
    (hcommon : Documented common) (hbinding : Binding cfg client)
    (hgenuine : Genuine cfg client.settlementAdr logs) (hhash : isHexHash orderHash = true)
    (honce : ExecutedOnce cfg client.settlementAdr (client.hexToHash (trimSpace orderHash)) logs)
    (hentry : some entry ∈ logs)
    (hexecutes : Executes cfg client.settlementAdr (client.hexToHash (trimSpace orderHash)) entry) :
    ∃ result record, parseExecutionResult (some client) (some logs) orderHash = .ok result ∧
      decodeRecord common cfg .orderExecuted entry = some record ∧ SameAmounts result record := by
  rcases findExecution_eq hbinding hgenuine with
    ⟨entry', hentry', ev, haddress, hev, hsame, hfound⟩ | ⟨hnone, -⟩
  · obtain rfl := honce entry entry' hentry hentry' hexecutes ⟨haddress, ev, hev, hsame⟩
    obtain ⟨record, hrecord, hshows⟩ := hev.record hcommon
    have hparse : parseExecutionResult (some client) (some logs) orderHash =
        .ok ⟨ev.grossAmountOut.val, ev.recipientAmountOut.val, ev.executorFeeAmount.val⟩ := by
      simp only [parseExecutionResult, hhash, hfound, Bool.true_eq_false, if_false]
    exact ⟨_, record, hparse, hrecord, hshows.grossAmountOut.symm, hshows.recipientAmountOut.symm,
      hshows.executorFeeAmount.symm⟩
  · exact absurd hexecutes (hnone entry hentry)

/-- The indexer reads of every event what the contract encoded, reads nothing of a log that is too
    short for its event, and agrees with the executor on the amounts of an order. -/
theorem decoding_undoes_encoding {common : RouteCommon} (hcommon : Documented common)
    (cfg : Config) :
    (∀ (ev : OrderExecuted) (entry : Log), ev.InLog cfg entry →
      ∃ record, decodeRecord common cfg .orderExecuted entry = some record ∧
        ShowsExecution ev record) ∧
    (∀ (ev : NonceInvalidated) (entry : Log), ev.InLog cfg entry →
      ∃ record, decodeRecord common cfg .nonceInvalidated entry = some record ∧
        ShowsInvalidation ev record) ∧
    (∀ (name : EventName) (entry : Log),
      entry.topics.length < 2 ∨ entry.data.length < dataBytes name →
        decodeRecord common cfg name entry = none) ∧
    ∀ (client : SettlementClient) (logs : List (Option Log)) (orderHash : Text) (entry : Log),
      Binding cfg client → Genuine cfg client.settlementAdr logs → isHexHash orderHash = true →
      ExecutedOnce cfg client.settlementAdr (client.hexToHash (trimSpace orderHash)) logs →
      some entry ∈ logs →
      Executes cfg client.settlementAdr (client.hexToHash (trimSpace orderHash)) entry →
        ∃ result record, parseExecutionResult (some client) (some logs) orderHash = .ok result ∧
          decodeRecord common cfg .orderExecuted entry = some record ∧
          SameAmounts result record :=
  ⟨fun _ _ hev => hev.record hcommon, fun _ _ hev => hev.record hcommon,
    fun _ _ hshort => decodeRecord_eq_none hshort,
    fun _ _ _ _ hbinding hgenuine hhash honce hentry hexecutes =>
      parseExecutionResult_agrees hcommon hbinding hgenuine hhash honce hentry hexecutes⟩

namespace DecodingExample

def common : RouteCommon where
  isHexAddress := isHex 40
  hexToAddress text := Fin.ofNat (2 ^ 160) (hexadecimal (hexDigits text))
  hashHex hash := lowerHex 64 hash.val
  encode _ := []
  addressHex address := lowerHex 40 address.val

theorem common_documented : Documented common :=
  ⟨fun _ => rfl, fun address => toLower_lowerHex 40 address.val, fun _ _ => rfl⟩

/-- Any function that tells the two event signatures apart serves as the hash. -/
def config : Config where
  chainId := 1
  settlementAddress := 900
  backfillBlocks := 100
  keccak256 bytes := Fin.ofNat (2 ^ 256) bytes.length

/-- Decoding by words, as the ABI has it. -/
def parseOrderExecuted (entry : Log) : Option ParsedOrderExecuted :=
  match entry.topics with
  | topic :: orderHash :: _ =>
    if topic = orderExecutedTopic config then
      (decodeThreeUint256Offset entry.data 96).map fun amounts =>
        ⟨orderHash, amounts.1, amounts.2.1, amounts.2.2⟩
    else none
  | _ => none

def client : SettlementClient where
  settlementAdr := 900
  parseOrderExecuted := parseOrderExecuted
  hexToHash text := Fin.ofNat (2 ^ 256) (hexadecimal (hexDigits text))

theorem client_binding : Binding config client where
  decodes ev entry hev := by
    have hamounts := @decodeThreeUint256Offset_words ev.inputToken ev.outputToken ev.amountIn _ _ _
      ev.recipient ev.grossAmountOut.isLt ev.recipientAmountOut.isLt ev.executorFeeAmount.isLt
    rw [← hev.data] at hamounts
    change parseOrderExecuted entry = _
    simp only [parseOrderExecuted, hev.topics, if_true, hamounts, Option.map_some]
  rejects entry htopic := by
    change parseOrderExecuted entry = none
    unfold parseOrderExecuted
    split
    · rename_i topic orderHash rest htopics
      rw [htopics, List.head?_cons] at htopic
      exact if_neg fun hsame => htopic (congrArg some hsame)
    · rfl

/-- An execution of the order 5. -/
def executed : OrderExecuted where
  orderHash := 5
  maker := 11
  executor := 12
  inputToken := 13
  outputToken := 14
  amountIn := 1000
  grossAmountOut := 990
  recipientAmountOut := 980
  executorFeeAmount := 10
  recipient := 11

def executedLog : Log where
  address := 900
  topics := [orderExecutedTopic config, 5, 11, 12]
  data := Abi.words [13, 14, 1000, 990, 980, 10, 11]
  blockNumber := 7
  txHash := 70
  blockHash := 71
  index := 1
  removed := false

/-- The receipt has a nil entry, a log of another contract, and the execution. -/
def receipt : List (Option Log) := [none, some { executedLog with address := 800 }, some executedLog]

theorem executed_inLog : executed.InLog config executedLog := ⟨rfl, rfl⟩

theorem of_mem_receipt {entry : Log} (h : some entry ∈ receipt) (haddress : entry.address = 900) :
    entry = executedLog := by
  rcases List.mem_cons.mp h with h | h
  · exact absurd h nofun
  rcases List.mem_cons.mp h with h | h
  · obtain rfl := Option.some.inj h
    exact absurd haddress (by decide)
  · exact Option.some.inj (List.mem_singleton.mp h)

end DecodingExample

open DecodingExample in
theorem decoding_undoes_encoding_receipt :
    ∃ result record,
      parseExecutionResult (some client) (some receipt) (lowerHex 64 5) = .ok result ∧
      decodeRecord common config .orderExecuted executedLog = some record ∧
      SameAmounts result record :=
  (decoding_undoes_encoding common_documented config).2.2.2 client receipt (lowerHex 64 5)
    executedLog client_binding
    (fun _ hentry haddress _ => ⟨executed, of_mem_receipt hentry haddress ▸ executed_inLog⟩)
    (by decide)
    (fun _ _ hentry hentry' hexecutes hexecutes' =>
      (of_mem_receipt hentry hexecutes.1).trans (of_mem_receipt hentry' hexecutes'.1).symm)
    (List.mem_cons_of_mem _ (List.mem_cons_of_mem _ List.mem_cons_self))
    ⟨rfl, executed, executed_inLog, by decide⟩

end Indexer
