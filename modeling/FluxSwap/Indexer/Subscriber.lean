-- SUMMARY: The indexer: decoding the settlement contract's logs, writing their events, the stored cursor and the backfill that starts from it.
import FluxSwap.Backend.EventService

/-!
# The subscriber

A log is decoded, its event is handed to the event service, and then the cursor is moved
to the log, all in separate transactions. A backfill asks the node for the logs from the
cursor's block on and handles them one by one until one fails. Whatever was written before
the failure stays.

Block numbers and log indices are non-negative 64-bit integers on both sides, so the
conversions between them are left out.
-/

namespace Indexer

open Backend

/-! ## Data -/

/-- `types.Log`. -/
structure Log where
  address     : Address
  topics      : List Bytes32
  data        : Bytes
  blockNumber : Nat
  txHash      : TxHash
  blockHash   : Bytes32
  index       : Nat
  removed     : Bool
  deriving DecidableEq

/-- The standardised event. -/
structure OrderEvent extends Backend.OrderEvent where
  removed            : Bool
  recipientAmountOut : Int

/-- What is used of the configuration, and the hash function of go-ethereum. -/
structure Config where
  chainId           : Nat
  settlementAddress : Address
  backfillBlocks    : Int
  keccak256         : Bytes → Bytes32

/-- A row of `sync_cursor`; an empty block hash is `none`. -/
structure CursorPosition where
  blockNumber : Nat
  blockHash   : Option Bytes32
  logIndex    : Int
  deriving DecidableEq

/-- The tables that the indexer writes; the cursor is the row of this indexer's name. -/
structure State where
  db     : Database
  cursor : Option CursorPosition

inductive IndexerError
  | decodeFailed
  | applyFailed (error : EventError)
  | blockNumberFailed
  | filterLogsFailed
  deriving DecidableEq, Repr

/-! ## Decoding -/

def orderExecutedTopic (cfg : Config) : Bytes32 :=
  cfg.keccak256 (Abi.ascii
    "OrderExecuted(bytes32,address,address,address,address,uint256,uint256,uint256,uint256,address)")

def nonceInvalidatedTopic (cfg : Config) : Bytes32 :=
  cfg.keccak256 (Abi.ascii "NonceInvalidated(address,uint256)")

def eventNameByTopic (cfg : Config) (topic : Bytes32) : Option EventName :=
  if topic = orderExecutedTopic cfg then some .orderExecuted
  else if topic = nonceInvalidatedTopic cfg then some .nonceInvalidated
  else none

def decodeUint256 (data : Bytes) : Option Nat :=
  if data.length < 32 then none else some (Abi.setBytes (data.take 32))

def decodeThreeUint256Offset (data : Bytes) (offset : Nat) : Option (Nat × Nat × Nat) :=
  if data.length < offset + 96 then none
  else some (Abi.setBytes ((data.drop offset).take 32),
    Abi.setBytes ((data.drop (offset + 32)).take 32),
    Abi.setBytes ((data.drop (offset + 64)).take 32))

/-- `HexToAddress` of a topic: its last 20 bytes. -/
def topicAddress (topic : Bytes32) : Address := Fin.ofNat (2 ^ 160) topic.val

/-- The part of an event that every log has. A field that an event lacks is empty in the
    source; no event is looked up by a field that it lacks. -/
def baseEvent (cfg : Config) (name : EventName) (entry : Log) : OrderEvent where
  chainId := cfg.chainId
  contractAddress := entry.address
  name := name
  removed := entry.removed
  txHash := entry.txHash
  logIndex := entry.index
  blockNumber := entry.blockNumber
  orderHash := 0
  maker := 0
  nonce := 0
  grossAmountOut := 0
  recipientAmountOut := 0
  executorFeeAmount := 0

def decodeLog (cfg : Config) (name : EventName) (entry : Log) : Option OrderEvent :=
  match name, entry.topics with
  | .orderExecuted, _ :: orderHash :: rest =>
    (decodeThreeUint256Offset entry.data 96).map fun amounts => { baseEvent cfg name entry with
      orderHash := orderHash
      maker := (rest.head?.map topicAddress).getD 0
      grossAmountOut := amounts.1
      recipientAmountOut := amounts.2.1
      executorFeeAmount := amounts.2.2 }
  | .nonceInvalidated, _ :: maker :: _ =>
    (decodeUint256 entry.data).map fun nonce => { baseEvent cfg name entry with
      maker := topicAddress maker
      nonce := nonce }
  | _, _ => none

/-! ## Handling one log -/

/-- An event that is already stored counts as applied. -/
def ignoreDuplicate (db : Database) : Except EventError Database → Except EventError Database
  | .error .duplicateOrderEvent => .ok db
  | result => result

/-- `Worker.ApplyEvent`. -/
def applyEvent (event : OrderEvent) (db : Database) : Except EventError Database :=
  if event.removed then .ok (EventService.revert event.toOrderEvent db)
  else
    match event.name with
    | .orderExecuted => ignoreDuplicate db (EventService.apply event.toOrderEvent db)
    | .nonceInvalidated => ignoreDuplicate db (EventService.applyNonceInvalidated event.toOrderEvent db)

/-- The cursor at a log. -/
def positionOf (entry : Log) : CursorPosition := ⟨entry.blockNumber, some entry.blockHash, entry.index⟩

def advanceCursor (s : State) (entry : Log) : State := { s with cursor := some (positionOf entry) }

def handleLog (cfg : Config) (s : State) (entry : Log) : Except IndexerError State :=
  match entry.topics with
  | [] => .ok (advanceCursor s entry)
  | topic :: _ =>
    match eventNameByTopic cfg topic with
    | none => .ok (advanceCursor s entry)
    | some name =>
      match decodeLog cfg name entry with
      | none => .error .decodeFailed
      | some event =>
        match applyEvent event s.db with
        | .error e => .error (.applyFailed e)
        | .ok db => .ok (advanceCursor { s with db := db } entry)

/-! ## Backfill -/

/-- What the node answers at some moment; `none` is a failed call. -/
structure Client where
  blockNumber : Option Nat
  filterLogs  : Nat → Nat → Option (List Log)

def shouldSkipEntry (cursor : Option CursorPosition) (entry : Log) : Bool :=
  match cursor with
  | none => false
  | some cursor =>
    decide (entry.blockNumber = cursor.blockNumber) &&
      (match cursor.blockHash with
        | none => true
        | some blockHash => decide (blockHash = entry.blockHash)) &&
      decide ((entry.index : Int) ≤ cursor.logIndex)

/-- The loop of `backfillFromCursor`: the state reached, and the error that stopped it. -/
def replay (cfg : Config) (cursor : Option CursorPosition) : List Log → State → State × Option IndexerError
  | [], s => (s, none)
  | entry :: rest, s =>
    if shouldSkipEntry cursor entry then replay cfg cursor rest s
    else
      match handleLog cfg s entry with
      | .ok s => replay cfg cursor rest s
      | .error e => (s, some e)

def backfillFromCursor (cfg : Config) (client : Client) (fromBlock : Nat)
    (cursor : Option CursorPosition) (s : State) : State × Option IndexerError :=
  match client.blockNumber with
  | none => (s, some .blockNumberFailed)
  | some latestBlock =>
    if latestBlock < fromBlock then (s, none)
    else
      match client.filterLogs fromBlock latestBlock with
      | none => (s, some .filterLogsFailed)
      | some logs => replay cfg cursor logs s

/-- Where a backfill starts, if it does: at the cursor, or at the window below the head. -/
def startBlock (cfg : Config) (latestBlock : Nat) : Option CursorPosition → Option Nat
  | some cursor => if latestBlock < cursor.blockNumber then none else some cursor.blockNumber
  | none =>
    if cfg.backfillBlocks ≤ 0 then none
    else if cfg.backfillBlocks < latestBlock + 1 then
      some (latestBlock - cfg.backfillBlocks.toNat + 1)
    else some 0

/-- `backfillRecentLogs`; the node answers the first question as `before`, and the questions
    of `backfillFromCursor` as `client`. -/
def backfillRecentLogs (cfg : Config) (before client : Client) (s : State) :
    State × Option IndexerError :=
  match before.blockNumber with
  | none => (s, some .blockNumberFailed)
  | some latestBlock =>
    match startBlock cfg latestBlock s.cursor with
    | none => (s, none)
    | some fromBlock => backfillFromCursor cfg client fromBlock s.cursor s

end Indexer
