import CanopenSdo.Frame
import CanopenSdo.Wire

/-!
# The SDO server

The server state machine, function by function, against an object dictionary the
application provides.  As for the client, a method returns the new server beside
its result, and a method that slices or subtracts is a checked computation.

The dictionary is a parameter: any type of states with a `read` that fills a
buffer and a `write`.  `ObjectDictionary.recording` is a dictionary that behaves
like a given one and writes down the calls it gets; a statement about the calls
the server makes is a statement about that log.

## Main definitions

* `ObjectDictionary`, `OdCall`, `ObjectDictionary.recording`.
* `SdoServer`, `SdoServer.handleFrame`, `SdoServer.pollTransmit`,
  `SdoServer.pollTimeout`, `SdoServer.handleTimeout`.
-/

namespace CanopenSdo

open Wire

/-! ### The object dictionary -/

/-- The object dictionary the server serves requests against, with its own states
`σ`.  `read` gets a buffer and returns the byte count, the buffer as it left it,
and its next state. -/
structure ObjectDictionary (σ : Type) where
  read : {n : ℕ} → σ → UInt16 → UInt8 → Bytes n → Except SdoAbortCode ℕ × Bytes n × σ
  write : σ → UInt16 → UInt8 → List UInt8 → Except SdoAbortCode Unit × σ

/-- A call of the dictionary, with what it answered. -/
inductive OdCall where
  /-- A read, with the buffer as the dictionary left it. -/
  | read (idx : UInt16) (sub : UInt8) (result : Except SdoAbortCode ℕ) (buf : List UInt8)
  | write (idx : UInt16) (sub : UInt8) (data : List UInt8) (result : Except SdoAbortCode Unit)
  deriving DecidableEq

/-- The dictionary `od`, recording the calls it gets in order. -/
def ObjectDictionary.recording {σ : Type} (od : ObjectDictionary σ) :
    ObjectDictionary (σ × List OdCall) where
  read := fun o idx sub buf =>
    let r := od.read o.1 idx sub buf
    (r.1, r.2.1, (r.2.2, o.2 ++ [.read idx sub r.1 r.2.1.data]))
  write := fun o idx sub data =>
    let r := od.write o.1 idx sub data
    (r.1, (r.2, o.2 ++ [.write idx sub data r.1]))

namespace ObjectDictionary

variable {σ : Type} (od : ObjectDictionary σ) {o o' : σ} {idx : UInt16} {sub : UInt8}

theorem read_recording {n : ℕ} {b b' : Bytes n} {r : Except SdoAbortCode ℕ}
    (h : od.read o idx sub b = (r, b', o')) (log : List OdCall) :
    od.recording.read (o, log) idx sub b = (r, b', (o', log ++ [.read idx sub r b'.data])) := by
  simp [recording, h]

theorem write_recording {data : List UInt8} {r : Except SdoAbortCode Unit}
    (h : od.write o idx sub data = (r, o')) (log : List OdCall) :
    od.recording.write (o, log) idx sub data = (r, (o', log ++ [.write idx sub data r])) := by
  simp [recording, h]

end ObjectDictionary

/-! ### The server -/

/-- Server tunables. -/
structure ServerConfig where
  /-- The server answers requests to this node. -/
  nodeId : UInt8
  /-- How long to wait for the next frame of a segmented transfer; `0` disables it. -/
  timeout : UInt64
  deriving DecidableEq, Repr

/-- One second in nanoseconds. -/
def ServerConfig.new (nodeId : UInt8) : ServerConfig := ⟨nodeId, 1000000000⟩

/-- The state of a server with a buffer of `N` bytes. -/
inductive ServerState (N : ℕ) where
  | idle
  /-- A segmented read: `buf[..len]` is the value, `sent` bytes are on the wire. -/
  | uploading (idx : UInt16) (sub : UInt8) (buf : Bytes N) (len sent : ℕ) (toggle : Bool)
  /-- A segmented write: `buf[..len]` is what has arrived. -/
  | downloading (idx : UInt16) (sub : UInt8) (buf : Bytes N) (len : ℕ) (expected : Option ℕ)
      (toggle : Bool)
  deriving DecidableEq

/-- The server state machine. -/
structure SdoServer (N : ℕ) where
  cfg : ServerConfig
  state : ServerState N
  pendingTx : Option SdoFrame
  deadline : Option UInt64
  deriving DecidableEq

def initDownloadAck (idx : UInt16) (sub : UInt8) : Bytes 8 := muxFrame scsInitDownload idx sub

def downloadSegmentAck (toggle : Bool) : Bytes 8 :=
  (Bytes.zero 8).set 0 (scsDownloadSegment ||| (if toggle then toggleBit else 0))

namespace SdoServer

variable {N : ℕ} {σ : Type}

def new (cfg : ServerConfig) : SdoServer N :=
  { cfg := cfg, state := .idle, pendingTx := none, deadline := none }

def isIdle (s : SdoServer N) : Bool :=
  match s.state with
  | .idle => true
  | _ => false

def pollTransmit (s : SdoServer N) : Option SdoFrame × SdoServer N :=
  (s.pendingTx, { s with pendingTx := none })

def pollTimeout (s : SdoServer N) : Option UInt64 := s.deadline

/-! ### Helpers -/

def reset (s : SdoServer N) : SdoServer N :=
  -- an undrained response goes too, so that an abort always supersedes it
  { s with state := .idle, deadline := none, pendingTx := none }

def queue (s : SdoServer N) (bytes : Bytes 8) : SdoServer N :=
  { s with pendingTx := some ⟨SdoFrame.tsdoId s.cfg.nodeId, bytes⟩, deadline := none }

def queueWithDeadline (s : SdoServer N) (bytes : Bytes 8) (now : UInt64) : SdoServer N :=
  { s with
    pendingTx := some ⟨SdoFrame.tsdoId s.cfg.nodeId, bytes⟩
    deadline := if s.cfg.timeout > 0 then some (now + s.cfg.timeout) else none }

def abort (s : SdoServer N) (idx : UInt16) (sub : UInt8) (code : SdoAbortCode) :
    SdoResult Unit × SdoServer N :=
  (.error (.clientAborted code),
    { s with
      state := .idle
      deadline := none
      pendingTx := some ⟨SdoFrame.tsdoId s.cfg.nodeId, Wire.abort idx sub code⟩ })

def handleTimeout (s : SdoServer N) (now : UInt64) : SdoResult Unit × SdoServer N :=
  match s.deadline with
  | none => (.ok (), s)
  | some dl =>
    if now < dl then (.ok (), s)
    else
      match s.state with
      | .uploading idx sub .. => s.abort idx sub .protocolTimeout
      | .downloading idx sub .. => s.abort idx sub .protocolTimeout
      | .idle => (.ok (), { s with deadline := none })

/-! ### Request handlers -/

def onInitUpload (s : SdoServer N) (data : Bytes 8) (now : UInt64) (od : ObjectDictionary σ)
    (o : σ) : Checked ((SdoResult Unit × SdoServer N) × σ) :=
  let idx := indexOf data
  let sub := subindexOf data
  match od.read o idx sub (Bytes.zero N) with
  | (.error code, _, o) => pure (s.abort idx sub code, o)
  | (.ok len, buf, o) =>
    -- the bound of the buffer is not left to the dictionary
    if len > N then pure (s.abort idx sub .outOfMemory, o)
    -- expedited: `e = 1`, `s = 1`, `n = 4 - len`
    else if 1 ≤ len ∧ len ≤ 4 then do
      let n ← Checked.sub 4 len
      let value ← buf.slice 0 len
      let out ← (muxFrame (scsInitUpload ||| (UInt8.ofNat n <<< 2) ||| 0b11) idx sub).splice 4 value
      pure ((.ok (), s.reset.queue out), o)
    else
      -- segmented, also for a value of length 0: announce the total length
      let out :=
        (muxFrame (scsInitUpload ||| 0b01) idx sub).put 4 (u32ToLe (UInt32.ofNat len))
          (fits_u32ToLe _)
      let s := { s with state := .uploading idx sub buf len 0 false }
      pure ((.ok (), s.queueWithDeadline out now), o)

def onUploadSegment (s : SdoServer N) (cmd : UInt8) (now : UInt64) :
    Checked (SdoResult Unit × SdoServer N) :=
  match s.state with
  | .uploading idx sub buf len sent toggle =>
    if toggleOf cmd ≠ toggle then pure (s.abort idx sub .toggleBitNotAlternated)
    else do
      let remaining ← Checked.sub len sent
      let chunk := min remaining 7
      let last : Bool := remaining ≤ 7
      let payload ← buf.slice sent (sent + chunk)
      let segCmd ← segmentCmd scsUploadSegment toggle chunk last
      let out ← segmentFrame segCmd payload
      if last then pure (.ok (), s.reset.queue out)
      else
        let s := { s with state := .uploading idx sub buf len (sent + chunk) (!toggle) }
        pure (.ok (), s.queueWithDeadline out now)
  | _ => pure (s.abort 0 0 .invalidCommandSpecifier)

def onInitDownload (s : SdoServer N) (cmd : UInt8) (data : Bytes 8) (now : UInt64)
    (od : ObjectDictionary σ) (o : σ) : Checked ((SdoResult Unit × SdoServer N) × σ) :=
  let idx := indexOf data
  let sub := subindexOf data
  let e := (cmd &&& 0b10) != 0
  let sized := (cmd &&& 0b01) != 0
  if e then do
    -- without a size all four bytes are significant
    let len ← (if sized then Checked.sub 4 ((cmd >>> 2) &&& 0b11).toNat else pure 4)
    let value ← data.slice 4 (4 + len)
    match od.write o idx sub value with
    | (.error code, o) => pure (s.abort idx sub code, o)
    | (.ok (), o) => pure ((.ok (), s.reset.queue (initDownloadAck idx sub)), o)
  else
    let expected := if sized then some (wordOf data).toNat else none
    if expected.any fun exp => exp > N then pure (s.abort idx sub .outOfMemory, o)
    else
      let s := { s with state := .downloading idx sub (Bytes.zero N) 0 expected false }
      pure ((.ok (), s.queueWithDeadline (initDownloadAck idx sub) now), o)

def onDownloadSegment (s : SdoServer N) (cmd : UInt8) (data : Bytes 8) (now : UInt64)
    (od : ObjectDictionary σ) (o : σ) : Checked ((SdoResult Unit × SdoServer N) × σ) :=
  match s.state with
  | .downloading idx sub buf len expected toggle =>
    if toggleOf cmd ≠ toggle then pure (s.abort idx sub .toggleBitNotAlternated, o)
    else
      let (payloadLen, complete) := decodeSegment cmd
      if len + payloadLen > N then pure (s.abort idx sub .outOfMemory, o)
      else do
        let payload ← data.slice 1 (1 + payloadLen)
        let buf ← buf.splice len payload
        let s := { s with state := .downloading idx sub buf (len + payloadLen) expected toggle }
        -- the ack echoes the toggle of the segment just received
        let ack := downloadSegmentAck toggle
        if complete then
          let finalLen := len + payloadLen
          if expected.any fun exp => exp != finalLen then
            pure (s.abort idx sub .dataTypeLengthMismatch, o)
          else
            -- the state that was set above
            match s.state with
            | .downloading _ _ buf _ _ _ => do
              let value ← buf.slice 0 finalLen
              match od.write o idx sub value with
              | (.error code, o) => pure (s.abort idx sub code, o)
              | (.ok (), o) => pure ((.ok (), s.reset.queue ack), o)
            | _ => throw .unreachable
        else
          let s := { s with
            state := .downloading idx sub buf (len + payloadLen) expected (!toggle) }
          pure ((.ok (), s.queueWithDeadline ack now), o)
  | _ => pure (s.abort 0 0 .invalidCommandSpecifier, o)

def handleFrame (s : SdoServer N) (frame : SdoFrame) (now : UInt64) (od : ObjectDictionary σ)
    (o : σ) : Checked ((SdoResult Unit × SdoServer N) × σ) :=
  -- not addressed to this node's SDO server
  if SdoFrame.nodeOfRsdo frame.cobId ≠ some s.cfg.nodeId then pure ((.ok (), s), o)
  else
    let cmd := frame.data.get 0
    let cs := cmd &&& csMask
    -- the client has aborted: the transfer in progress is dropped silently
    if cs = csAbort then pure ((.ok (), s.reset), o)
    else if cs = ccsInitUpload then s.onInitUpload frame.data now od o
    else if cs = ccsUploadSegment then (fun r => (r, o)) <$> s.onUploadSegment cmd now
    else if cs = ccsInitDownload then s.onInitDownload cmd frame.data now od o
    else if cs = ccsDownloadSegment then s.onDownloadSegment cmd frame.data now od o
    else pure (s.abort (indexOf frame.data) (subindexOf frame.data) .invalidCommandSpecifier, o)

end SdoServer

end CanopenSdo
