import CanopenSdo.ClientCalls

/-!
# Which frames make the client panic

The client slices its payload, subtracts the position from its length, and reserves room:
for the size a server announces, and for each segment it appends.  The first two are always
in range, as a download is never past its end.  The third is not: the announced size is
taken from the wire as it is, and with 32-bit pointers it may be more than an allocation can
have; and what a server sends is appended with no bound but that of the allocation.

## Main definitions

* `ClientState.Consistent` — the invariant of the transfer contexts.
* `SdoClient.Overreserves` — the frame asks for more than can be reserved.

## Main results

* `CallStep.consistent` — every call keeps the invariant.
* `announced_capacity_panics` — **a frame that makes the client panic.**
* `handleFrame_returns_iff` — **there is no other one.**
-/

namespace CanopenSdo

open Wire

/-! ### The invariant -/

/-- An upload has received nothing before its init response, and the position of a download
is in its payload. -/
def ClientState.Consistent : ClientState → Prop
  | .idle => True
  | .uploading u => u.phase = .awaitingInit → u.received = [] ∧ u.expectedLen = none
  | .downloading d => d.sentPos ≤ d.data.length

/-- The next segment leaves the position in the payload. -/
theorem DownloadCtx.sentPos_next_le {d : DownloadCtx} (h : d.sentPos ≤ d.data.length) :
    d.next.sentPos ≤ d.next.data.length := by
  change d.sentPos + min (d.data.length - d.sentPos) 7 ≤ d.data.length
  omega

section Step

variable {tgt : Target} {c c' : SdoClient} {f : SdoFrame} {now : UInt64} {a : ClientCall}
  {e : ClientReturn} {r : SdoResult (Option SdoOutcome)}

theorem ClientState.consistent_of_idle {st : ClientState} (h : st = .idle) : st.Consistent := by
  rw [h]
  trivial

theorem ClientStep.consistent (h : ClientStep tgt c f now r c') (hc : c.state.Consistent) :
    c'.state.Consistent := by
  cases h with
  | ignored => exact hc
  | uploadInit =>
    intro hph
    cases hph
  | @uploadMore u _ _ hph =>
    intro hph'
    cases hph.symm.trans hph'
  | downloadInit _ _ _ _ _ hpos => exact DownloadCtx.sentPos_next_le hpos
  | downloadMore _ _ _ _ _ hpos => exact DownloadCtx.sentPos_next_le hpos
  | _ => trivial

/-- **Every call keeps the invariant.** -/
theorem CallStep.consistent (h : CallStep tgt c a e c') (hc : c.state.Consistent) :
    c'.state.Consistent := by
  cases h with
  | refused => exact hc
  | beganUpload => exact fun _ => ⟨rfl, rfl⟩
  | beganDownload => exact Nat.zero_le _
  | transmitted => exact hc
  | early => exact hc
  | expired => exact ClientState.consistent_of_idle (c.state_abortWith _)
  | aborted => exact ClientState.consistent_of_idle (c.state_abortWith _)
  | frame hf => exact hf.consistent hc

end Step

section Runs

variable {tgt : Target} {cfg : SdoConfig} {c : SdoClient} {f : SdoFrame} {now : UInt64}
  {h : List (ClientCall × ClientReturn)}

/-- **In every run the transfer contexts are consistent.** -/
theorem client_consistent (hr : (callMachine tgt).Run (.new cfg) h c) : c.state.Consistent := by
  refine hr.invariant (P := fun _ c => c.state.Consistent) trivial ?_
  intro h c a e c' hc hs
  exact (callStep_of_step hs).consistent hc

/-! ### The frames -/

/-- The frame is what an upload waits for, and asks for more than an allocation may have:
with 32-bit pointers an init response that announces `2 ^ 31` bytes or more, and with either
width a segment with the expected toggle that brings the total above the largest `isize`. -/
def SdoClient.Overreserves (tgt : Target) (c : SdoClient) (f : SdoFrame) : Prop :=
  ∃ u, c.state = .uploading u ∧ SdoFrame.nodeOfTsdo f.cobId = some u.nodeId ∧
    ((tgt = .bits32 ∧ u.phase = .awaitingInit ∧ f.cs = scsInitUpload ∧ f.Names u.idx u.sub ∧
        f.expedited = false ∧ ∃ size, f.announced = some size ∧ 2 ^ 31 ≤ size) ∨
      (u.phase = .awaitingSegment ∧ f.cs = scsUploadSegment ∧ f.toggle = u.nextToggle ∧
        tgt.isizeMax < u.received.length + (payloadOf f.data).length))

/-- The announced size is a 32-bit number. -/
theorem SdoFrame.announced_lt {size : ℕ} (h : f.announced = some size) : size < 2 ^ 32 := by
  unfold SdoFrame.announced at h
  split at h
  · obtain rfl := Option.some.inj h
    exact UInt32.toNat_lt _
  · cases h

/-- What is reserved for an answer fits, unless the frame overreserves. -/
theorem SdoClient.fits_of_not_overreserves {u : UploadCtx} (hst : c.state = .uploading u)
    (hc : c.state.Consistent) (hn : SdoFrame.nodeOfTsdo f.cobId = some u.nodeId)
    (ha : u.Awaits f) (hover : ¬ c.Overreserves tgt f) : u.Fits tgt f := by
  rw [hst] at hc
  unfold UploadCtx.Awaits at ha
  unfold UploadCtx.Fits
  cases hph : u.phase with
  | awaitingInit =>
    rw [hph] at ha
    intro he size hsize
    -- nothing has been received yet, so the announced size alone is reserved
    rw [(hc hph).1, List.length_nil, Nat.zero_add]
    have hlt := SdoFrame.announced_lt hsize
    cases tgt with
    | bits32 =>
      have hsmall : ¬ 2 ^ 31 ≤ size := by
        intro hle
        exact hover ⟨u, hst, hn, .inl ⟨rfl, hph, ha.1, ha.2, he, size, hsize, hle⟩⟩
      change size ≤ 2 ^ 31 - 1
      omega
    | bits64 =>
      change size ≤ 2 ^ 63 - 1
      omega
  | awaitingSegment =>
    rw [hph] at ha
    intro ht
    by_contra hgt
    exact hover ⟨u, hst, hn, .inr ⟨hph, ha, ht, Nat.lt_of_not_le hgt⟩⟩

/-- A frame that does not overreserve takes an exit. -/
theorem SdoClient.exists_step_of_not_overreserves (hc : c.state.Consistent)
    (hover : ¬ c.Overreserves tgt f) : ∃ r c', ClientStep tgt c f now r c' := by
  refine exists_clientStep_of ?_ ?_
  · intro u hst hn ha
    exact fits_of_not_overreserves hst hc hn ha hover
  · intro d hst _ _ _
    rw [hst] at hc
    exact hc

/-- A read on a target with 32-bit pointers. -/
def openedRead : List (ClientCall × ClientReturn) × SdoClient :=
  ((callMachine .bits32).exec (.new .default)
    [.beginUpload 0x10 0x2000 0 0, .pollTransmit]).get rfl

theorem run_openedRead :
    (callMachine .bits32).Run (.new .default) openedRead.1 openedRead.2 :=
  Machine.run_exec_get _

theorem state_openedRead : openedRead.2.state = .uploading (.start 0x10 0x2000 0) := by
  decide +kernel

/-- **One init response makes the client panic**: it announces `2 ^ 32 - 1` bytes, and the
client reserves them. -/
theorem announced_capacity_panics : ∃ h c,
    (callMachine .bits32).Run (.new .default) h c ∧
      c.handleFrame .bits32 ⟨0x590, ⟨[0x41, 0, 0x20, 0, 0xFF, 0xFF, 0xFF, 0xFF], rfl⟩⟩ 1
        = .error .capacityOverflow :=
  ⟨_, _, run_openedRead, by decide +kernel⟩

/-- **The client handles every frame but those.**  In every reachable state `handle_frame`
returns, unless the pointers have 32 bits and the frame is the init response the client
waits for and announces `2 ^ 31` bytes or more, or the frame is the segment it waits for and
brings what was received above the largest allocation; then it panics. -/
theorem handleFrame_returns_iff (hr : (callMachine tgt).Run (.new cfg) h c) (f : SdoFrame)
    (now : UInt64) : (∃ x, c.handleFrame tgt f now = .ok x) ↔ ¬ c.Overreserves tgt f := by
  have hc := client_consistent hr
  constructor
  · rintro ⟨x, hx⟩ ⟨u, hst, hn, ⟨rfl, hph, hcs, hm, he, size, hsize, hle⟩ | ⟨hph, hcs, ht, hlt⟩⟩
    · have hcap := cap_of_handleFrame hst hn hph hcs hm he hx size hsize
      change u.received.length + size ≤ 2 ^ 31 - 1 at hcap
      omega
    · have hcap := cap_of_handleFrame_segment hst hn hph hcs ht hx
      omega
  · intro hover
    have hexit : ∃ r c', ClientStep tgt c f now r c' :=
      SdoClient.exists_step_of_not_overreserves hc hover
    obtain ⟨r, c', hstep⟩ := hexit
    exact ⟨_, hstep.handleFrame_eq⟩

/-- The largest size that can be reserved is accepted. -/
theorem handleFrame_returns_iff_openedRead : ∃ x,
    openedRead.2.handleFrame .bits32 ⟨0x590, ⟨[0x41, 0, 0x20, 0, 0xFF, 0xFF, 0xFF, 0x7F], rfl⟩⟩ 1
      = .ok x := by
  refine (handleFrame_returns_iff run_openedRead _ 1).mpr ?_
  rintro ⟨u, hst, -, ⟨-, -, -, -, -, size, hsize, hle⟩ | ⟨hph, -⟩⟩
  · have hword : SdoFrame.announced ⟨0x590, ⟨[0x41, 0, 0x20, 0, 0xFF, 0xFF, 0xFF, 0x7F], rfl⟩⟩
        = some (2 ^ 31 - 1) := by decide
    cases hword.symm.trans hsize
    omega
  · -- the client waits for the init response
    cases state_openedRead.symm.trans hst
    cases hph

end Runs

end CanopenSdo
