import Endap.Library.BoundedQueue
import Endap.Library.Ring
import Mathlib.Data.UInt

/-!
# The receive ring of the RS485 driver

Bytes that the UART has received are moved in chunks into a ring of 256 cells,
and the callers read them from there.  A poll is held back while the driver
transmits.  Through every order of calls the ring is a queue of at most 255
bytes: what is read, followed by what still waits, is what was received without
the bytes that came to a full ring.
-/

namespace Endap.Rs485.Hal

open Endap.Library
open Endap.Library.BoundedQueue

/-! ## The driver -/

def rxBufferSize : Nat := 256

/-- `rs485_config_t`, as far as sending and receiving read it. -/
structure Rs485Config where
  baudrate : Int32
  autoDirection : Bool
  txGuardUs : UInt32
  rxRecoveryUs : UInt32
  txDoneTimeoutMs : UInt32

/-- `rs485_hal_metrics_t`, without the copy of the direction mode. -/
structure Rs485Metrics where
  initialized : Bool := false
  txBytes : UInt32 := 0
  rxBytes : UInt32 := 0
  rxDroppedBytes : UInt32 := 0
  txErrors : UInt32 := 0
  lastTxMs : UInt32 := 0
  lastRxMs : UInt32 := 0
  rxPollCalls : UInt32 := 0
  rxChunks : UInt32 := 0
  maxRxChunk : UInt32 := 0
  lastRxChunk : UInt32 := 0
  rxReadsWhileTxWindow : UInt32 := 0

structure Rs485TxState where
  active : Bool := false
  releaseDeadlineUs : UInt64 := 0
  rxReleaseDeadlineUs : UInt64 := 0
  pendingLen : UInt16 := 0

/-- The static variables of the driver. -/
structure Rs485Hal where
  cfg : Rs485Config
  metrics : Rs485Metrics
  txState : Rs485TxState
  rxBuffer : Nat → UInt8
  rxHead : UInt16
  rxTail : UInt16
  headFits : rxHead.toNat < rxBufferSize
  tailFits : rxTail.toNat < rxBufferSize

/-- What the clock and the UART answer during a call: the readings of the
clock in the transmission service, at the start of a poll or after a write and
at the end of a poll, whether the transmission is done, the number of buffered
bytes, the bytes that can be read, and the number of bytes written.  A missing
number or list stands for an error. -/
structure Uart where
  serviceUs : UInt64
  nowUs : UInt64
  storedUs : UInt64
  txDone : Bool
  buffered : Option Nat
  bytes : Option (List UInt8)
  written : Option Nat

def rs485ApplyDefaults (config : Rs485Config) : Rs485Config :=
  { config with
    txGuardUs :=
      if config.txGuardUs = 0 then
        if config.autoDirection then 3000 else 100
      else config.txGuardUs
    rxRecoveryUs :=
      if config.rxRecoveryUs = 0 then
        if config.autoDirection then 2000 else 0
      else config.rxRecoveryUs
    txDoneTimeoutMs :=
      if config.txDoneTimeoutMs = 0 then 20 else config.txDoneTimeoutMs }

/-- What `rs485_init` assigns for a valid configuration, and whether the calls
of the UART driver succeed. -/
def rs485Init (hal : Rs485Hal) (config : Rs485Config) (succeeds : Bool) :
    Rs485Hal where
  cfg := rs485ApplyDefaults config
  metrics := { initialized := succeeds }
  txState := {}
  rxBuffer := hal.rxBuffer
  rxHead := 0
  rxTail := 0
  headFits := by decide
  tailFits := by decide

/-! ## Sending -/

def rs485EstimateTxTimeUs (cfg : Rs485Config) (len : UInt16) : UInt32 :=
  if cfg.baudrate ≤ 0 ∨ len = 0 then 0
  else
    let baudrate := cfg.baudrate.toInt64.toUInt64
    let bits := len.toUInt64 * 10
    let us :=
      (bits * 1000000 + baudrate - 1) / baudrate + cfg.txGuardUs.toUInt64
    if us > 0xFFFFFFFF then 0xFFFFFFFF else us.toUInt32

/-- The end of a transmission. -/
def Rs485Hal.released (hal : Rs485Hal) : Rs485Hal := { hal with txState := {} }

def rs485TxService (hal : Rs485Hal) (uart : Uart) : Rs485Hal :=
  if hal.metrics.initialized = false ∨ hal.txState.active = false then hal
  else if uart.serviceUs < hal.txState.releaseDeadlineUs then hal
  else if uart.txDone then hal.released
  else if uart.serviceUs ≥
      hal.txState.releaseDeadlineUs +
        hal.cfg.txDoneTimeoutMs.toUInt64 * 1000 then
    { hal.released with
      metrics := { hal.metrics with txErrors := hal.metrics.txErrors + 1 } }
  else hal

/-- One more transmission error. -/
def Rs485Hal.txFailed (hal : Rs485Hal) : Rs485Hal :=
  { hal with
    metrics := { hal.metrics with txErrors := hal.metrics.txErrors + 1 } }

/-- `rs485_send_bytes`, for data at a valid address. -/
def rs485SendBytes (hal : Rs485Hal) (uart : Uart) (len : UInt16) :
    Rs485Hal :=
  if hal.metrics.initialized = false ∨ len = 0 then hal
  else
    let serviced := rs485TxService hal uart
    if serviced.txState.active then serviced.txFailed
    else
      match uart.written with
      | none => serviced.txFailed
      | some written =>
          let release :=
            uart.nowUs +
              (rs485EstimateTxTimeUs serviced.cfg
                (UInt16.ofNat written)).toUInt64
          { serviced with
            txState :=
              { active := true
                releaseDeadlineUs := release
                rxReleaseDeadlineUs :=
                  release + serviced.cfg.rxRecoveryUs.toUInt64
                pendingLen := UInt16.ofNat written }
            metrics :=
              { serviced.metrics with
                txBytes := serviced.metrics.txBytes + UInt32.ofNat written
                lastTxMs := (uart.nowUs / 1000).toUInt32 } }

/-! ## Receiving -/

/-- The index behind an index of the ring. -/
def nextIndex (index : UInt16) : UInt16 := ((index.toUInt32 + 1) % 256).toUInt16

theorem nextIndex_toNat (index : UInt16) :
    (nextIndex index).toNat = (index.toNat + 1) % rxBufferSize := by
  rw [rxBufferSize, nextIndex, UInt32.toNat_toUInt16, UInt32.toNat_mod,
    UInt32.toNat_add, UInt16.toNat_toUInt32]
  change (index.toNat + 1) % 2 ^ 32 % 256 % 2 ^ 16 = _
  omega

theorem nextIndex_fits (index : UInt16) :
    (nextIndex index).toNat < rxBufferSize := by
  rw [nextIndex_toNat]
  exact Nat.mod_lt _ (by decide)

/-- One iteration of the loop that stores a chunk. -/
def storeByte (hal : Rs485Hal) (byte : UInt8) : Rs485Hal :=
  if nextIndex hal.rxHead ≠ hal.rxTail then
    { hal with
      rxBuffer := Function.update hal.rxBuffer hal.rxHead.toNat byte
      rxHead := nextIndex hal.rxHead
      headFits := nextIndex_fits hal.rxHead }
  else
    { hal with
      metrics :=
        { hal.metrics with
          rxDroppedBytes := hal.metrics.rxDroppedBytes + 1 } }

/-- The bytes that a poll reads from the UART, and the driver when it does. -/
def pollChunk (hal : Rs485Hal) (uart : Uart) : Rs485Hal × List UInt8 :=
  if hal.metrics.initialized = false then (hal, [])
  else
    let polled :=
      { hal with
        metrics :=
          { hal.metrics with rxPollCalls := hal.metrics.rxPollCalls + 1 } }
    if hal.cfg.autoDirection = false ∧ hal.txState.active = true then
      (polled, [])
    else if hal.cfg.autoDirection = true ∧
        uart.nowUs < hal.txState.rxReleaseDeadlineUs then
      ({ polled with
          metrics :=
            { polled.metrics with
              rxReadsWhileTxWindow :=
                polled.metrics.rxReadsWhileTxWindow + 1 } }, [])
    else
      match uart.buffered, uart.bytes with
      | some bufferedLen, some bytes =>
          (polled, bytes.take (min bufferedLen 64))
      | _, _ => (polled, [])

/-- `rs485_poll_rx`, with the bytes of its chunk. -/
def rs485PollRx (hal : Rs485Hal) (uart : Uart) : Rs485Hal × List UInt8 :=
  let polled := (pollChunk hal uart).1
  let data := (pollChunk hal uart).2
  if data = [] then (polled, [])
  else
    let len := UInt32.ofNat data.length
    let counted :=
      { polled with
        metrics :=
          { polled.metrics with
            rxChunks := polled.metrics.rxChunks + 1
            lastRxChunk := len
            maxRxChunk :=
              if len > polled.metrics.maxRxChunk then len
              else polled.metrics.maxRxChunk } }
    let stored := data.foldl storeByte counted
    ({ stored with
        metrics :=
          { stored.metrics with
            rxBytes := stored.metrics.rxBytes + len
            lastRxMs := (uart.storedUs / 1000).toUInt32 } }, data)

/-- The driver after the byte at the tail was taken. -/
def Rs485Hal.popped (hal : Rs485Hal) : Rs485Hal :=
  { hal with
    rxTail := nextIndex hal.rxTail
    tailFits := nextIndex_fits hal.rxTail }

/-- `rs485_read_byte`; zero is returned when no byte waits. -/
def rs485ReadByte (hal : Rs485Hal) : Rs485Hal × UInt8 :=
  if hal.rxHead ≠ hal.rxTail then
    (hal.popped, hal.rxBuffer hal.rxTail.toNat)
  else (hal, 0)

/-- The loop of `rs485_read_bytes`, with the bytes that it copies. -/
def takeBytes : Nat → Rs485Hal → Rs485Hal × List UInt8
  | 0, hal => (hal, [])
  | room + 1, hal =>
      if hal.rxHead ≠ hal.rxTail then
        let rest := takeBytes room hal.popped
        (rest.1, hal.rxBuffer hal.rxTail.toNat :: rest.2)
      else (hal, [])

/-- `rs485_read_bytes` into a buffer at a valid address: the bytes of the poll
and the bytes copied. -/
def rs485ReadBytes (hal : Rs485Hal) (uart : Uart) (maxLen : UInt16) :
    Rs485Hal × List UInt8 × List UInt8 :=
  if maxLen = 0 then (hal, [], [])
  else
    let polled := rs485PollRx (rs485TxService hal uart) uart
    let taken := takeBytes maxLen.toNat polled.1
    (taken.1, polled.2, taken.2)

/-- `rs485_available`, with the bytes of its poll. -/
def rs485Available (hal : Rs485Hal) (uart : Uart) :
    Rs485Hal × List UInt8 × Bool :=
  let polled := rs485PollRx (rs485TxService hal uart) uart
  (polled.1, polled.2, polled.1.rxHead ≠ polled.1.rxTail)

/-- `rs485_read_frame`; the size is cut to 16 bits. -/
def rs485ReadFrame (hal : Rs485Hal) (uart : Uart) (maxLen : Int32) :
    Rs485Hal × List UInt8 × List UInt8 :=
  if maxLen ≤ 0 then (hal, [], [])
  else rs485ReadBytes hal uart maxLen.toUInt32.toUInt16

/-! ## Calls -/

/-- A call of the driver. -/
inductive HalCall where
  | pollRx (uart : Uart)
  | readByte
  | readBytes (uart : Uart) (maxLen : UInt16)
  | readFrame (uart : Uart) (maxLen : Int32)
  | available (uart : Uart)
  | txService (uart : Uart)
  | sendBytes (uart : Uart) (len : UInt16)

/-- The bytes of a chunk, each with whether the loop of a poll stores it. -/
def arrivals (head tail : UInt16) : List UInt8 → List (UInt8 × Bool)
  | [] => []
  | byte :: rest =>
      if nextIndex head ≠ tail then
        (byte, true) :: arrivals (nextIndex head) tail rest
      else (byte, false) :: arrivals head tail rest

/-- The bytes that arrive in the ring and leave it when a call has received
some bytes and hands some out. -/
def Rs485Hal.traffic (hal : Rs485Hal) (received taken : List UInt8) :
    Traffic UInt8 where
  arrived := arrivals hal.rxHead hal.rxTail received
  taken := taken

/-- A call, with the bytes that it moves. -/
def halCall (hal : Rs485Hal) : HalCall → Rs485Hal × Traffic UInt8
  | .pollRx uart =>
      let polled := rs485PollRx hal uart
      (polled.1, hal.traffic polled.2 [])
  | .readByte =>
      let read := rs485ReadByte hal
      (read.1,
        hal.traffic [] (if hal.rxHead ≠ hal.rxTail then [read.2] else []))
  | .readBytes uart maxLen =>
      let read := rs485ReadBytes hal uart maxLen
      (read.1, hal.traffic read.2.1 read.2.2)
  | .readFrame uart maxLen =>
      let read := rs485ReadFrame hal uart maxLen
      (read.1, hal.traffic read.2.1 read.2.2)
  | .available uart =>
      let polled := rs485Available hal uart
      (polled.1, hal.traffic polled.2.1 [])
  | .txService uart => (rs485TxService hal uart, hal.traffic [] [])
  | .sendBytes uart len => (rs485SendBytes hal uart len, hal.traffic [] [])

/-! ## The queue in the ring -/

/-- The bytes that wait, oldest first. -/
def Rs485Hal.pending (hal : Rs485Hal) : List UInt8 :=
  Ring.pending rxBufferSize hal.rxBuffer hal.rxHead.toNat hal.rxTail.toNat

/-- Two states of the driver agree on the ring and on what it counts. -/
structure SameRing (before after : Rs485Hal) : Prop where
  rxBuffer : after.rxBuffer = before.rxBuffer
  rxHead : after.rxHead = before.rxHead
  rxTail : after.rxTail = before.rxTail
  rxBytes : after.metrics.rxBytes = before.metrics.rxBytes
  rxDroppedBytes : after.metrics.rxDroppedBytes = before.metrics.rxDroppedBytes

theorem SameRing.refl (hal : Rs485Hal) : SameRing hal hal :=
  ⟨rfl, rfl, rfl, rfl, rfl⟩

theorem SameRing.trans {first second third : Rs485Hal}
    (earlier : SameRing first second) (later : SameRing second third) :
    SameRing first third where
  rxBuffer := later.rxBuffer.trans earlier.rxBuffer
  rxHead := later.rxHead.trans earlier.rxHead
  rxTail := later.rxTail.trans earlier.rxTail
  rxBytes := later.rxBytes.trans earlier.rxBytes
  rxDroppedBytes := later.rxDroppedBytes.trans earlier.rxDroppedBytes

variable {before after : Rs485Hal}

theorem SameRing.pending
    (same : SameRing before after) : after.pending = before.pending := by
  rw [Rs485Hal.pending, same.rxBuffer, same.rxHead, same.rxTail,
    Rs485Hal.pending]

theorem rs485TxService_sameRing (hal : Rs485Hal) (uart : Uart) :
    SameRing hal (rs485TxService hal uart) := by
  rw [rs485TxService]
  split_ifs <;> exact ⟨rfl, rfl, rfl, rfl, rfl⟩

theorem rs485SendBytes_sameRing (hal : Rs485Hal) (uart : Uart)
    (len : UInt16) : SameRing hal (rs485SendBytes hal uart len) := by
  have serviced := rs485TxService_sameRing hal uart
  rw [rs485SendBytes]
  split
  · exact SameRing.refl hal
  · simp only
    split
    · exact serviced.trans ⟨rfl, rfl, rfl, rfl, rfl⟩
    · split
      · exact serviced.trans ⟨rfl, rfl, rfl, rfl, rfl⟩
      · exact serviced.trans ⟨rfl, rfl, rfl, rfl, rfl⟩

theorem pollChunk_sameRing (hal : Rs485Hal) (uart : Uart) :
    SameRing hal (pollChunk hal uart).1 := by
  rw [pollChunk]
  split
  · exact SameRing.refl hal
  · simp only
    split_ifs
    · exact ⟨rfl, rfl, rfl, rfl, rfl⟩
    · exact ⟨rfl, rfl, rfl, rfl, rfl⟩
    · split <;> exact ⟨rfl, rfl, rfl, rfl, rfl⟩

/-! ## Storing a chunk -/

/-- What a call does to the ring: which bytes wait afterwards, which bytes it
drops, and what it counts. -/
structure CallKeeps (before : Rs485Hal) (traffic : Traffic UInt8)
    (after : Rs485Hal) : Prop where
  serves : Serves before.pending traffic after.pending
  drops : DropsWhenFull 255 before.pending traffic.arrived
  rxBytes :
    after.metrics.rxBytes =
      before.metrics.rxBytes + UInt32.ofNat traffic.arrived.length
  rxDroppedBytes :
    after.metrics.rxDroppedBytes =
      before.metrics.rxDroppedBytes + UInt32.ofNat (dropped traffic.arrived)

theorem CallKeeps.of_sameRing
    (same : SameRing before after) :
    CallKeeps before (before.traffic [] []) after where
  serves := (List.append_nil _).trans same.pending.symm
  drops := .nil _ _
  rxBytes := same.rxBytes.trans (UInt32.add_zero _).symm
  rxDroppedBytes := same.rxDroppedBytes.trans (UInt32.add_zero _).symm

/-- What happens to the rest of the driver in front of a call does not
matter. -/
theorem SameRing.callKeeps {middle : Rs485Hal}
    (same : SameRing before middle) {received taken : List UInt8}
    (keeps : CallKeeps middle (middle.traffic received taken) after) :
    CallKeeps before (before.traffic received taken) after := by
  have traffic :
      middle.traffic received taken = before.traffic received taken := by
    rw [Rs485Hal.traffic, same.rxHead, same.rxTail, Rs485Hal.traffic]
  rw [traffic] at keeps
  refine ⟨?_, ?_, ?_, ?_⟩
  · rw [← same.pending]
    exact keeps.serves
  · rw [← same.pending]
    exact keeps.drops
  · rw [← same.rxBytes]
    exact keeps.rxBytes
  · rw [← same.rxDroppedBytes]
    exact keeps.rxDroppedBytes

theorem Rs485Hal.pending_length_eq_iff (hal : Rs485Hal) :
    hal.pending.length = 255 ↔ nextIndex hal.rxHead = hal.rxTail := by
  rw [← UInt16.toNat_inj, nextIndex_toNat]
  exact Ring.pending_length_eq_iff hal.headFits hal.tailFits _

/-- The next byte finds a free cell. -/
def Rs485Hal.stores (hal : Rs485Hal) : Bool := nextIndex hal.rxHead ≠ hal.rxTail

theorem Rs485Hal.stores_eq_false_iff (hal : Rs485Hal) :
    hal.stores = false ↔ hal.pending.length = 255 := by
  rw [hal.pending_length_eq_iff, Rs485Hal.stores, decide_eq_false_iff_not,
    not_not]

theorem storeByte_keeps (hal : Rs485Hal) (byte : UInt8) :
    (storeByte hal byte).pending = hal.pending ++ kept [(byte, hal.stores)] ∧
    (storeByte hal byte).metrics.rxBytes = hal.metrics.rxBytes ∧
    (storeByte hal byte).metrics.rxDroppedBytes =
      hal.metrics.rxDroppedBytes +
        UInt32.ofNat (dropped [(byte, hal.stores)]) := by
  by_cases room : nextIndex hal.rxHead ≠ hal.rxTail
  · rw [Rs485Hal.stores, decide_eq_true room, storeByte, if_pos room]
    refine ⟨?_, rfl, (UInt32.add_zero _).symm⟩
    rw [Rs485Hal.pending, nextIndex_toNat]
    rw [← UInt16.toNat_inj.ne, nextIndex_toNat] at room
    exact Ring.pending_push hal.headFits hal.tailFits _ byte room
  · rw [Rs485Hal.stores, decide_eq_false room, storeByte, if_neg room]
    exact ⟨(List.append_nil _).symm, rfl, rfl⟩

theorem arrivals_cons (hal : Rs485Hal) (byte : UInt8) (rest : List UInt8) :
    arrivals hal.rxHead hal.rxTail (byte :: rest) =
      (byte, hal.stores) ::
        arrivals (storeByte hal byte).rxHead (storeByte hal byte).rxTail
          rest := by
  rw [arrivals, Rs485Hal.stores, storeByte]
  by_cases room : nextIndex hal.rxHead ≠ hal.rxTail
  · rw [if_pos room, if_pos room, decide_eq_true room]
  · rw [if_neg room, if_neg room, decide_eq_false room]

theorem arrivals_length (head tail : UInt16) (data : List UInt8) :
    (arrivals head tail data).length = data.length := by
  induction data generalizing head with
  | nil => rfl
  | cons byte rest induction =>
      rw [arrivals]
      split
      · exact congrArg Nat.succ (induction _)
      · exact congrArg Nat.succ (induction _)

theorem storeBytes_keeps (hal : Rs485Hal) (data : List UInt8) :
    let stored := data.foldl storeByte hal
    let arrived := arrivals hal.rxHead hal.rxTail data
    stored.pending = hal.pending ++ kept arrived ∧
    DropsWhenFull 255 hal.pending arrived ∧
    stored.metrics.rxBytes = hal.metrics.rxBytes ∧
    stored.metrics.rxDroppedBytes =
      hal.metrics.rxDroppedBytes + UInt32.ofNat (dropped arrived) := by
  induction data generalizing hal with
  | nil =>
      exact ⟨(List.append_nil _).symm, .nil _ _, rfl, (UInt32.add_zero _).symm⟩
  | cons byte rest induction =>
      rcases storeByte_keeps hal byte with ⟨first, bytes, droppedBytes⟩
      rcases induction (storeByte hal byte) with
        ⟨waits, drops, restBytes, restDropped⟩
      simp only [List.foldl_cons]
      rw [arrivals_cons, waits, first, restBytes, bytes, restDropped,
        droppedBytes]
      rw [first] at drops
      refine ⟨?_, drops.cons hal.stores_eq_false_iff, rfl, ?_⟩
      · rw [List.append_assoc, ← kept_append]
        rfl
      · rw [UInt32.add_assoc, ← UInt32.ofNat_add, ← dropped_append]
        rfl

theorem storeBytes_callKeeps (hal : Rs485Hal) (data : List UInt8)
    (lastRxMs : UInt32) :
    let stored := data.foldl storeByte hal
    CallKeeps hal (hal.traffic data [])
      { stored with
        metrics :=
          { stored.metrics with
            rxBytes := stored.metrics.rxBytes + UInt32.ofNat data.length
            lastRxMs := lastRxMs } } := by
  rcases storeBytes_keeps hal data with
    ⟨waits, drops, bytes, droppedBytes⟩
  refine ⟨?_, drops, ?_, droppedBytes⟩
  · exact waits.symm
  · simp only [Rs485Hal.traffic, arrivals_length, bytes]

theorem rs485PollRx_keeps (hal : Rs485Hal) (uart : Uart) :
    CallKeeps hal (hal.traffic (rs485PollRx hal uart).2 [])
      (rs485PollRx hal uart).1 := by
  have polled := pollChunk_sameRing hal uart
  rw [rs485PollRx]
  simp only
  split
  · exact .of_sameRing polled
  · -- In front of the loop only the counters of the chunks change.
    refine SameRing.callKeeps (polled.trans ?_) (storeBytes_callKeeps _ _ _)
    exact ⟨rfl, rfl, rfl, rfl, rfl⟩

/-! ## Taking bytes -/

theorem Rs485Hal.pending_popped {hal : Rs485Hal}
    (notEmpty : hal.rxHead ≠ hal.rxTail) :
    hal.pending = hal.rxBuffer hal.rxTail.toNat :: hal.popped.pending := by
  rw [← UInt16.toNat_inj.ne] at notEmpty
  rw [Rs485Hal.pending, Rs485Hal.pending, Rs485Hal.popped, nextIndex_toNat]
  exact Ring.pending_pop hal.headFits hal.tailFits _ notEmpty.symm

theorem Rs485Hal.pending_eq_nil {hal : Rs485Hal}
    (empty : ¬ hal.rxHead ≠ hal.rxTail) : hal.pending = [] := by
  apply (Ring.pending_eq_nil_iff hal.tailFits _).mpr
  rw [not_not.mp empty]

theorem takeBytes_spec (room : Nat) (hal : Rs485Hal) :
    (takeBytes room hal).2 = hal.pending.take room ∧
    (takeBytes room hal).1.pending = hal.pending.drop room ∧
    (takeBytes room hal).1.metrics = hal.metrics := by
  induction room generalizing hal with
  | zero => exact ⟨rfl, rfl, rfl⟩
  | succ room induction =>
      rw [takeBytes]
      split
      · next notEmpty =>
          rcases induction hal.popped with ⟨taken, left, metrics⟩
          rw [Rs485Hal.pending_popped notEmpty]
          exact ⟨congrArg (_ :: ·) taken, left, metrics⟩
      · next empty =>
          rw [Rs485Hal.pending_eq_nil empty]
          exact ⟨rfl, rfl, rfl⟩

theorem CallKeeps.taking {middle : Rs485Hal}
    {received taken : List UInt8}
    (keeps : CallKeeps before (before.traffic received []) middle)
    (parts : middle.pending = taken ++ after.pending)
    (metrics : after.metrics = middle.metrics) :
    CallKeeps before (before.traffic received taken) after where
  serves := keeps.serves.trans parts
  drops := keeps.drops
  rxBytes := by
    rw [metrics]
    exact keeps.rxBytes
  rxDroppedBytes := by
    rw [metrics]
    exact keeps.rxDroppedBytes

theorem rs485ReadByte_keeps (hal : Rs485Hal) :
    CallKeeps hal
      (hal.traffic []
        (if hal.rxHead ≠ hal.rxTail then [(rs485ReadByte hal).2] else []))
      (rs485ReadByte hal).1 := by
  have idle := CallKeeps.of_sameRing (SameRing.refl hal)
  rw [rs485ReadByte]
  split
  · next notEmpty =>
      exact idle.taking (Rs485Hal.pending_popped notEmpty) rfl
  · exact idle

theorem rs485ReadBytes_keeps (hal : Rs485Hal) (uart : Uart)
    (maxLen : UInt16) :
    CallKeeps hal
      (hal.traffic (rs485ReadBytes hal uart maxLen).2.1
        (rs485ReadBytes hal uart maxLen).2.2)
      (rs485ReadBytes hal uart maxLen).1 := by
  rw [rs485ReadBytes]
  split
  · exact .of_sameRing (SameRing.refl hal)
  · have serviced := rs485TxService_sameRing hal uart
    have polled := rs485PollRx_keeps (rs485TxService hal uart) uart
    rcases takeBytes_spec maxLen.toNat
      (rs485PollRx (rs485TxService hal uart) uart).1 with
      ⟨taken, left, metrics⟩
    apply (serviced.callKeeps polled).taking _ metrics
    rw [taken, left, List.take_append_drop]

/-! ## Runs -/

theorem halCall_keeps (hal : Rs485Hal) (call : HalCall) :
    CallKeeps hal (halCall hal call).2 (halCall hal call).1 := by
  cases call with
  | pollRx uart => exact rs485PollRx_keeps hal uart
  | readByte => exact rs485ReadByte_keeps hal
  | readBytes uart maxLen => exact rs485ReadBytes_keeps hal uart maxLen
  | readFrame uart maxLen =>
      simp only [halCall, rs485ReadFrame]
      split
      · exact .of_sameRing (SameRing.refl hal)
      · exact rs485ReadBytes_keeps hal uart _
  | available uart =>
      exact
        (rs485TxService_sameRing hal uart).callKeeps (rs485PollRx_keeps _ uart)
  | txService uart => exact .of_sameRing (rs485TxService_sameRing hal uart)
  | sendBytes uart len =>
      exact .of_sameRing (rs485SendBytes_sameRing hal uart len)

/-- The bytes that a run moves. -/
def movedBytes (start : Rs485Hal) (calls : List HalCall) : Traffic UInt8 :=
  combined ((Run.history halCall start calls).map Run.Transition.output)

theorem halCall_counts (start : Rs485Hal) (calls : List HalCall) :
    let last := Run.final halCall start calls
    let arrived := (movedBytes start calls).arrived
    last.metrics.rxBytes = start.metrics.rxBytes + UInt32.ofNat arrived.length ∧
    last.metrics.rxDroppedBytes =
      start.metrics.rxDroppedBytes + UInt32.ofNat (dropped arrived) := by
  refine
    Run.history_induction
      (motive := fun past (state : Rs485Hal) =>
        let arrived := (combined (past.map Run.Transition.output)).arrived
        state.metrics.rxBytes =
            start.metrics.rxBytes + UInt32.ofNat arrived.length ∧
        state.metrics.rxDroppedBytes =
          start.metrics.rxDroppedBytes + UInt32.ofNat (dropped arrived))
      ?_ ?_ calls
  · exact ⟨(UInt32.add_zero _).symm, (UInt32.add_zero _).symm⟩
  · rintro past state call ⟨bytes, droppedBytes⟩
    have keeps := halCall_keeps state call
    simp only [List.map_append, List.map_cons, List.map_nil,
      combined_concat_arrived, List.length_append, dropped_append,
      UInt32.ofNat_add, ← UInt32.add_assoc]
    rw [← bytes, ← droppedBytes]
    exact ⟨keeps.rxBytes, keeps.rxDroppedBytes⟩

/-- What the ring does over a run: the bytes handed out, followed by those that
wait, are the ones received without the dropped ones; a byte is dropped exactly
when 255 bytes wait; and the counters add up. -/
structure RingLaw (start : Rs485Hal) (calls : List HalCall) : Prop where
  order :
    kept (movedBytes start calls).arrived =
      (movedBytes start calls).taken ++ (Run.final halCall start calls).pending
  drops :
    ∀ call ∈ Run.history halCall start calls,
      DropsWhenFull (rxBufferSize - 1) call.before.pending call.output.arrived
  counts :
    (Run.final halCall start calls).metrics.rxBytes.toNat =
      ((movedBytes start calls).taken.length +
          (Run.final halCall start calls).pending.length +
            (Run.final halCall start calls).metrics.rxDroppedBytes.toNat) %
        2 ^ 32

/-- From a reset ring, the ring is a queue that drops the bytes it has no room
for, whatever the calls and the UART do. -/
theorem receive_ring_law (hal : Rs485Hal) (config : Rs485Config)
    (succeeds : Bool) (calls : List HalCall) :
    RingLaw (rs485Init hal config succeeds) calls := by
  have empty : (rs485Init hal config succeeds).pending = [] :=
    Rs485Hal.pending_eq_nil (not_not.mpr rfl)
  have order :
      Serves (rs485Init hal config succeeds).pending
        (movedBytes (rs485Init hal config succeeds) calls)
        (Run.final halCall (rs485Init hal config succeeds) calls).pending :=
    serves_run Rs485Hal.pending
      (fun state call => (halCall_keeps state call).serves)
      (rs485Init hal config succeeds) calls
  rw [empty] at order
  refine ⟨order, ?_, ?_⟩
  · intro call member
    have isCall :=
      (Run.history_invariant (fun _ => True) trivial
        (fun _ _ _ => trivial) member).2
    rw [isCall]
    exact (halCall_keeps _ _).drops
  · rcases halCall_counts (rs485Init hal config succeeds) calls with
      ⟨bytes, droppedBytes⟩
    have all :=
      kept_add_dropped
        (movedBytes (rs485Init hal config succeeds) calls).arrived
    have whole := congrArg List.length order
    have zeroBytes :
        (rs485Init hal config succeeds).metrics.rxBytes = 0 ∧
        (rs485Init hal config succeeds).metrics.rxDroppedBytes = 0 :=
      ⟨rfl, rfl⟩
    rw [List.nil_append, List.length_append] at whole
    rw [bytes, droppedBytes, zeroBytes.1, zeroBytes.2, UInt32.zero_add,
      UInt32.zero_add, UInt32.toNat_ofNat', UInt32.toNat_ofNat',
      Nat.add_mod_mod, ← whole]
    exact congrArg (· % 2 ^ 32) all.symm

end Endap.Rs485.Hal
