import CanopenSdo.Frame
import CanopenSdo.Wire

/-!
# The SDO client

The client state machine, function by function.  A method that takes the client
by mutable reference returns the new client beside its result.  A method that
slices, subtracts or reserves is a checked computation: it stops where the source
would panic, debug assertions included.  The deadline `now + timeout` is the
wrapping sum of a release build.

`handleFrame` moves the state out and leaves `idle` behind before it dispatches,
as the source does with `mem::replace`; the handlers put it back where the
transfer goes on.

## Main definitions

* `SdoClient` — configuration, state, pending frame and deadline.
* `SdoClient.beginUpload`, `SdoClient.beginDownload`, `SdoClient.pollTransmit`,
  `SdoClient.pollTimeout`, `SdoClient.handleTimeout`, `SdoClient.handleFrame`,
  `SdoClient.abort` — the calls of its user.
-/

namespace CanopenSdo

open Wire

/-- The width of `usize` on the target. -/
inductive Target where
  | bits32
  | bits64
  deriving DecidableEq, Repr

/-- The largest `isize`, and so the most bytes an allocation may have. -/
def Target.isizeMax : Target → ℕ
  | .bits32 => 2 ^ 31 - 1
  | .bits64 => 2 ^ 63 - 1

/-- The largest `usize` of the target. -/
def Target.usizeMax : Target → ℕ
  | .bits32 => 2 ^ 32 - 1
  | .bits64 => 2 ^ 64 - 1

/-- `Vec::reserve`: the contents do not change, and it panics if the capacity asked
for is more than an allocation may have. -/
def vecReserve (tgt : Target) (v : List UInt8) (additional : ℕ) : Checked Unit :=
  Checked.guard (v.length + additional ≤ tgt.isizeMax) .capacityOverflow

theorem vecReserve_of_le {tgt : Target} {v : List UInt8} {additional : ℕ}
    (h : v.length + additional ≤ tgt.isizeMax) : vecReserve tgt v additional = .ok () :=
  Checked.guard_of _ h

/-- Tunable client behaviour. -/
structure SdoConfig where
  /-- How long to wait for a response. -/
  timeout : UInt64
  deriving DecidableEq, Repr

/-- 150 ms in nanoseconds. -/
def SdoConfig.default : SdoConfig := ⟨150000000⟩

/-- What a successful transfer produced. -/
inductive SdoOutcome where
  /-- The bytes read from the server. -/
  | uploadCompleted (data : List UInt8)
  | downloadCompleted
  deriving DecidableEq, Repr

inductive UploadPhase where
  | awaitingInit
  | awaitingSegment
  deriving DecidableEq, Repr

structure UploadCtx where
  nodeId : UInt8
  idx : UInt16
  sub : UInt8
  received : List UInt8
  expectedLen : Option UInt32
  /-- Toggle to send in the next segment request. -/
  nextToggle : Bool
  phase : UploadPhase
  deriving DecidableEq, Repr

inductive DownloadPhase where
  | awaitingInit (expedited : Bool)
  | awaitingSegmentAck (last : Bool)
  deriving DecidableEq, Repr

structure DownloadCtx where
  nodeId : UInt8
  idx : UInt16
  sub : UInt8
  data : List UInt8
  /-- How many payload bytes have been sent so far. -/
  sentPos : ℕ
  /-- Toggle to use in the next segment. -/
  nextToggle : Bool
  phase : DownloadPhase
  deriving DecidableEq, Repr

/-- The state of the client. -/
inductive ClientState where
  | idle
  | uploading (ctx : UploadCtx)
  | downloading (ctx : DownloadCtx)
  deriving DecidableEq, Repr

/-- The client state machine. -/
structure SdoClient where
  cfg : SdoConfig
  state : ClientState
  pendingTx : Option SdoFrame
  deadline : Option UInt64
  deriving DecidableEq

/-! ### Client-side encoders -/

namespace Enc

def initUpload (idx : UInt16) (sub : UInt8) : Bytes 8 := muxFrame ccsInitUpload idx sub

def uploadSegmentRequest (toggle : Bool) : Bytes 8 :=
  (Bytes.zero 8).set 0 (ccsUploadSegment ||| (if toggle then toggleBit else 0))

def initDownloadExpedited (idx : UInt16) (sub : UInt8) (data : List UInt8) :
    Checked (Bytes 8) := do
  Checked.guard (data ≠ [] ∧ data.length ≤ 4) .assertion
  let n ← Checked.sub 4 data.length
  let cmd := ccsInitDownload ||| (UInt8.ofNat n <<< 2) ||| 0b11
  (muxFrame cmd idx sub).splice 4 data

def initDownloadSegmented (idx : UInt16) (sub : UInt8) (totalLen : UInt32) : Bytes 8 :=
  (muxFrame (ccsInitDownload ||| 0b01) idx sub).put 4 (u32ToLe totalLen) (fits_u32ToLe _)

def downloadSegment (toggle : Bool) (payload : List UInt8) (last : Bool) : Checked (Bytes 8) := do
  let cmd ← segmentCmd ccsDownloadSegment toggle payload.length last
  segmentFrame cmd payload

end Enc

/-- The check of the node id both `begin_*` calls make first. -/
def validateNodeId (nodeId : UInt8) : SdoResult Unit :=
  if nodeId = 0 ∨ nodeId > 127 then .error (.invalidArgument "node id must be 1..=127") else .ok ()

namespace SdoClient

def new (cfg : SdoConfig) : SdoClient :=
  { cfg := cfg, state := .idle, pendingTx := none, deadline := none }

def isIdle (c : SdoClient) : Bool :=
  match c.state with
  | .idle => true
  | _ => false

/-! ### Internal helpers -/

def queueRequest (c : SdoClient) (nodeId : UInt8) (bytes : Bytes 8) (now : UInt64) : SdoClient :=
  { c with
    pendingTx := some ⟨SdoFrame.rsdoId nodeId, bytes⟩
    deadline := some (now + c.cfg.timeout) }

def clearTransfer (c : SdoClient) : SdoClient :=
  { c with state := .idle, pendingTx := none, deadline := none }

def queueAbort (c : SdoClient) (nodeId : UInt8) (idx : UInt16) (sub : UInt8)
    (code : SdoAbortCode) : SdoClient :=
  { c with
    pendingTx := some ⟨SdoFrame.rsdoId nodeId, Wire.abort idx sub code⟩
    deadline := none
    state := .idle }

def abortWith (c : SdoClient) (code : SdoAbortCode) : SdoClient :=
  match c.state with
  -- with nothing in flight there is nothing to abort
  | .idle => c
  | .uploading u => c.queueAbort u.nodeId u.idx u.sub code
  | .downloading d => c.queueAbort d.nodeId d.idx d.sub code

def matchesInFlight (c : SdoClient) (frameNode : UInt8) (data : Bytes 8) : Bool :=
  let frameIdx := indexOf data
  let frameSub := subindexOf data
  match c.state with
  | .idle => false
  | .uploading u => u.nodeId = frameNode && u.idx = frameIdx && u.sub = frameSub
  | .downloading d => d.nodeId = frameNode && d.idx = frameIdx && d.sub = frameSub

/-! ### Starting a transfer -/

def beginUpload (c : SdoClient) (nodeId : UInt8) (idx : UInt16) (sub : UInt8) (now : UInt64) :
    SdoResult Unit × SdoClient :=
  match validateNodeId nodeId with
  | .error e => (.error e, c)
  | .ok () =>
    if !c.isIdle then (.error .busy, c)
    else
      let c := c.queueRequest nodeId (Enc.initUpload idx sub) now
      let ctx : UploadCtx :=
        { nodeId, idx, sub, received := [], expectedLen := none, nextToggle := false,
          phase := .awaitingInit }
      (.ok (), { c with state := .uploading ctx })

def beginDownload (c : SdoClient) (nodeId : UInt8) (idx : UInt16) (sub : UInt8)
    (data : List UInt8) (now : UInt64) : Checked (SdoResult Unit × SdoClient) :=
  match validateNodeId nodeId with
  | .error e => pure (.error e, c)
  | .ok () =>
    if data.isEmpty then pure (.error (.invalidArgument "download payload empty"), c)
    else if !c.isIdle then pure (.error .busy, c)
    else do
      let expedited : Bool := data.length ≤ 4
      let initBytes ←
        (if expedited then Enc.initDownloadExpedited idx sub data
        else pure (Enc.initDownloadSegmented idx sub (UInt32.ofNat data.length)))
      let c := c.queueRequest nodeId initBytes now
      let ctx : DownloadCtx :=
        { nodeId, idx, sub, data, sentPos := 0, nextToggle := false,
          phase := .awaitingInit expedited }
      pure (.ok (), { c with state := .downloading ctx })

/-! ### Driving the machine -/

def pollTransmit (c : SdoClient) : Option SdoFrame × SdoClient :=
  (c.pendingTx, { c with pendingTx := none })

def pollTimeout (c : SdoClient) : Option UInt64 := c.deadline

def handleTimeout (c : SdoClient) (now : UInt64) : SdoResult (Option SdoOutcome) × SdoClient :=
  match c.deadline with
  | none => (.ok none, c)
  | some deadline =>
    if now < deadline then (.ok none, c)
    else (.error (.clientAborted .protocolTimeout), c.abortWith .protocolTimeout)

/-- The state was moved out by `handleFrame`: `ctx` is it, and `c` is idle. -/
def advanceUpload (tgt : Target) (c : SdoClient) (ctx : UploadCtx) (frameNode cmd : UInt8)
    (data : Bytes 8) (now : UInt64) : Checked (SdoResult (Option SdoOutcome) × SdoClient) :=
  if frameNode ≠ ctx.nodeId then pure (.ok none, { c with state := .uploading ctx })
  else
    let scs := cmd &&& csMask
    match ctx.phase with
    | .awaitingInit =>
      if scs ≠ scsInitUpload then pure (.ok none, { c with state := .uploading ctx })
      else
        let frameIdx := indexOf data
        let frameSub := subindexOf data
        if frameIdx ≠ ctx.idx ∨ frameSub ≠ ctx.sub then
          pure (.ok none, { c with state := .uploading ctx })
        else
          let e := (cmd &&& 0b10) != 0
          let s := (cmd &&& 0b01) != 0
          -- expedited: the value is inline, and the transfer is over
          if e then do
            let len ← (if s then Checked.sub 4 ((cmd >>> 2) &&& 0b11).toNat else pure 4)
            let out ← data.slice 4 (4 + len)
            pure (.ok (some (.uploadCompleted out)), c.clearTransfer)
          else do
            let ctx ←
              (if s then do
                -- `Vec::reserve` is given the announced size before a byte has arrived
                let expected := wordOf data
                vecReserve tgt ctx.received expected.toNat
                pure { ctx with expectedLen := some expected }
              else pure ctx)
            let toggle := ctx.nextToggle
            let c := c.queueRequest ctx.nodeId (Enc.uploadSegmentRequest toggle) now
            let ctx := { ctx with phase := .awaitingSegment }
            pure (.ok none, { c with state := .uploading ctx })
    | .awaitingSegment =>
      if scs ≠ scsUploadSegment then pure (.ok none, { c with state := .uploading ctx })
      else
        let frameToggle := toggleOf cmd
        if frameToggle ≠ ctx.nextToggle then
          pure (.error (.clientAborted .toggleBitNotAlternated),
            c.queueAbort ctx.nodeId ctx.idx ctx.sub .toggleBitNotAlternated)
        else do
          let (payloadLen, complete) := decodeSegment cmd
          let chunk ← data.slice 1 (1 + payloadLen)
          -- `Vec::extend_from_slice` reserves room for what it appends
          vecReserve tgt ctx.received chunk.length
          let ctx := { ctx with received := ctx.received ++ chunk }
          if complete then
            -- only an announced size is compared
            if ctx.expectedLen.any fun exp => ctx.received.length != exp.toNat then
              pure (.error (.clientAborted .dataTypeLengthMismatch),
                c.queueAbort ctx.nodeId ctx.idx ctx.sub .dataTypeLengthMismatch)
            else pure (.ok (some (.uploadCompleted ctx.received)), c.clearTransfer)
          else
            let ctx := { ctx with nextToggle := !ctx.nextToggle }
            let toggle := ctx.nextToggle
            let c := c.queueRequest ctx.nodeId (Enc.uploadSegmentRequest toggle) now
            pure (.ok none, { c with state := .uploading ctx })

def queueNextDownloadSegment (c : SdoClient) (ctx : DownloadCtx) (now : UInt64) :
    Checked (SdoClient × DownloadCtx) := do
  let remaining ← Checked.sub ctx.data.length ctx.sentPos
  let chunkLen := min remaining 7
  let last : Bool := remaining ≤ 7
  let toggle := ctx.nextToggle
  let payload ← Checked.slice ctx.data ctx.sentPos (ctx.sentPos + chunkLen)
  let bytes ← Enc.downloadSegment toggle payload last
  let ctx := { ctx with
    sentPos := ctx.sentPos + chunkLen
    nextToggle := !ctx.nextToggle
    phase := .awaitingSegmentAck last }
  pure (c.queueRequest ctx.nodeId bytes now, ctx)

/-- The state was moved out by `handleFrame`: `ctx` is it, and `c` is idle. -/
def advanceDownload (c : SdoClient) (ctx : DownloadCtx) (frameNode cmd : UInt8)
    (data : Bytes 8) (now : UInt64) : Checked (SdoResult (Option SdoOutcome) × SdoClient) :=
  if frameNode ≠ ctx.nodeId then pure (.ok none, { c with state := .downloading ctx })
  else
    let scs := cmd &&& csMask
    match ctx.phase with
    | .awaitingInit expedited =>
      if scs ≠ scsInitDownload then pure (.ok none, { c with state := .downloading ctx })
      else
        let frameIdx := indexOf data
        let frameSub := subindexOf data
        if frameIdx ≠ ctx.idx ∨ frameSub ≠ ctx.sub then
          pure (.ok none, { c with state := .downloading ctx })
        -- the init request carried the value
        else if expedited then pure (.ok (some .downloadCompleted), c.clearTransfer)
        else do
          let (c, ctx) ← c.queueNextDownloadSegment ctx now
          pure (.ok none, { c with state := .downloading ctx })
    | .awaitingSegmentAck last =>
      if scs ≠ scsDownloadSegment then pure (.ok none, { c with state := .downloading ctx })
      else
        let frameToggle := toggleOf cmd
        -- the ack carries the toggle of the segment just sent, which was flipped after sending
        let expected := !ctx.nextToggle
        if frameToggle ≠ expected then
          pure (.error (.clientAborted .toggleBitNotAlternated),
            c.queueAbort ctx.nodeId ctx.idx ctx.sub .toggleBitNotAlternated)
        else if last then pure (.ok (some .downloadCompleted), c.clearTransfer)
        else do
          let (c, ctx) ← c.queueNextDownloadSegment ctx now
          pure (.ok none, { c with state := .downloading ctx })

def handleFrame (tgt : Target) (c : SdoClient) (frame : SdoFrame) (now : UInt64) :
    Checked (SdoResult (Option SdoOutcome) × SdoClient) :=
  match SdoFrame.nodeOfTsdo frame.cobId with
  | none => pure (.ok none, c)
  | some frameNode =>
    let cmd := frame.data.get 0
    let cs := cmd &&& csMask
    if cs = csAbort then
      if !c.matchesInFlight frameNode frame.data then pure (.ok none, c)
      else
        -- the client does not echo the abort
        let code := SdoAbortCode.ofRaw (wordOf frame.data)
        pure (.error (.serverAborted code),
          { c with state := .idle, pendingTx := none, deadline := none })
    else
      -- an arm that ignores the frame puts the state back
      let moved := c.state
      let c := { c with state := .idle }
      match moved with
      | .idle => pure (.ok none, c)
      | .uploading ctx => c.advanceUpload tgt ctx frameNode cmd frame.data now
      | .downloading ctx => c.advanceDownload ctx frameNode cmd frame.data now

/-- Abort the current transfer; the abort frame is queued. -/
def abort (c : SdoClient) (code : SdoAbortCode) : SdoClient := c.abortWith code

end SdoClient

end CanopenSdo
