import CanopenSdo.Client
import CanopenSdo.ServerRun

/-!
# The server never panics

No sequence of frames and no dictionary makes the server stop.  The dictionary is
arbitrary: its `read` may return any length and any buffer contents, and whatever it
returns is checked against the buffer before it is used.

The slices and subtractions of the handlers are in range because of what every
reachable state is like (`ServerState.Bounded`): an upload has sent whole segments of its
value and is not done yet, and what a download has received fits into the buffer.

## Main definitions

* `ServerState.Bounded` — the invariant of the transfers.

## Main results

* `ServerStep.bounded` — every exit keeps the invariant.
* `server_never_panics` — **in every reachable state every frame is handled.**
-/

namespace CanopenSdo

open Wire

variable {N : ℕ} {σ : Type}

/-- An upload has sent whole segments of a value in the buffer, with alternating toggles,
and has not sent all of it; a value that is sent in segments is empty or longer than four
bytes.  A download has received no more than the buffer holds, and announced no more. -/
def ServerState.Bounded : ServerState N → Prop
  | .idle => True
  | .uploading _ _ _ len sent toggle =>
    sent ≤ len ∧ len ≤ N ∧ (∃ k, sent = 7 * k ∧ toggle = alternate k) ∧
      (len = 0 ∧ sent = 0 ∨ sent < len ∧ 4 < len)
  | .downloading _ _ _ len expected _ => len ≤ N ∧ ∀ size, expected = some size → size ≤ N

/-! ### The invariant -/

section Step

variable {od : ObjectDictionary σ} {s s' : SdoServer N} {f : SdoFrame} {now : UInt64} {o o' : σ}
  {r : SdoResult Unit}

/-- The positions of a bounded transfer are inside the buffer. -/
theorem ServerState.Bounded.inRange {st : ServerState N} (h : st.Bounded) : st.InRange := by
  cases st with
  | idle => trivial
  | uploading => exact ⟨h.1, h.2.1⟩
  | downloading => exact h.1

/-- **Every exit keeps the invariant.** -/
theorem ServerStep.bounded (h : ServerStep od s f now o r s' o') (hs : s.state.Bounded) :
    s'.state.Bounded := by
  cases h with
  | ignored => exact hs
  | @initUploadSegmented _ _ len _ _ _ hlen h =>
    have hsplit : len = 0 ∧ 0 = 0 ∨ 0 < len ∧ 4 < len := by omega
    exact ⟨Nat.zero_le _, hlen, ⟨0, rfl, rfl⟩, hsplit⟩
  | @uploadSegmentMore _ _ _ _ _ len sent _ hst _ hmore =>
    rw [hst] at hs
    obtain ⟨-, hlen, ⟨k, rfl, rfl⟩, hsplit⟩ := hs
    have hnext : 7 * k + 7 = 7 * (k + 1) := by omega
    refine ⟨hmore.le, hlen, ⟨k + 1, hnext, (alternate_succ k).symm⟩, ?_⟩
    omega
  | initDownloadSegmented _ _ _ hN => exact ⟨Nat.zero_le _, hN⟩
  | downloadSegmentMore _ _ hst _ hfit =>
    rw [hst] at hs
    exact ⟨hfit, hs.2⟩
  | _ => trivial

/-- A frame is handled if the positions are inside the buffer. -/
theorem exists_serverStep_of_inRange (hs : s.state.InRange) :
    ∃ r s' o', ServerStep od s f now o r s' o' := by
  refine exists_serverStep_of ?_
  intro _ _ idx sub buf len sent toggle hst _
  rw [hst] at hs
  -- the slice is `buf[sent..sent + chunk]`, and `sent + chunk` is at most `len`
  obtain ⟨hsent, hlen⟩ := hs
  exact ⟨hsent, by omega⟩

end Step

/-! ### Every run -/

section Runs

variable {od : ObjectDictionary σ} {cfg : ServerConfig} {o₀ o : σ} {s : SdoServer N}
  {h : List (ServerAction σ × ServerEvent)}

/-- **In every run the transfers are bounded.** -/
theorem server_bounded (hr : (serverMachine N od).Run (.new cfg, o₀) h (s, o)) :
    s.state.Bounded := by
  refine hr.invariant (P := fun _ x => x.1.state.Bounded) trivial ?_
  rintro h ⟨s, o⟩ a e ⟨s', o'⟩ hs hstep
  rcases serverStep_cases hstep with ⟨-, -, hst, -⟩ | ⟨-, -, hst, -⟩ |
    ⟨f, now, r, calls, -, -, -, -, -, hstep⟩
  · rw [hst]
    exact hs
  · rw [hst]
    trivial
  · exact hstep.bounded hs

/-- **No frame sequence and no dictionary makes the server panic.**  In every reachable
state the transfer is bounded, so the subtraction and the slices are in range; every
frame is handled, whatever the dictionary holds by then; and for a buffer the target can
have, adding a payload to what was received overflows no `usize`. -/
theorem server_never_panics (hr : (serverMachine N od).Run (.new cfg, o₀) h (s, o)) :
    (∀ idx sub buf len sent toggle, s.state = .uploading idx sub buf len sent toggle →
      sent ≤ len ∧ len ≤ N ∧ (∃ k, sent = 7 * k ∧ toggle = alternate k) ∧
        (len = 0 ∧ sent = 0 ∨ sent < len ∧ 4 < len)) ∧
    (∀ idx sub buf len expected toggle, s.state = .downloading idx sub buf len expected toggle →
      len ≤ N ∧ (∀ size, expected = some size → size ≤ N) ∧
        ∀ tgt : Target, N ≤ tgt.isizeMax → ∀ cmd, len + (decodeSegment cmd).1 ≤ tgt.usizeMax) ∧
    (∀ cmd : UInt8, ((cmd >>> 1) &&& 0b111).toNat ≤ 7) ∧
    ∀ f now o', ∃ x, s.handleFrame f now od o' = .ok x := by
  have hs := server_bounded hr
  refine ⟨?_, ?_, ?_, ?_⟩
  · intro idx sub buf len sent toggle hst
    rw [hst] at hs
    exact hs
  · intro idx sub buf len expected toggle hst
    rw [hst] at hs
    refine ⟨hs.1, hs.2, ?_⟩
    intro tgt hN cmd
    have hlen : len ≤ tgt.isizeMax := hs.1.trans hN
    have hpay := decodeSegment_le cmd
    cases tgt <;> simp only [Target.isizeMax, Target.usizeMax] at hlen ⊢ <;> omega
  · intro cmd
    rw [UInt8.toNat_and]
    exact Nat.and_le_right
  · intro f now o'
    have hexit : ∃ r s' o'', ServerStep od s f now o' r s' o'' :=
      exists_serverStep_of_inRange hs.inRange
    obtain ⟨r, s', o'', hstep⟩ := hexit
    exact ⟨_, hstep.handleFrame_eq⟩

end Runs

/-! ### A run -/

/-- A dictionary that claims to have read as many bytes as its state says, and a hundred
bytes from then on. -/
def lyingOd : ObjectDictionary ℕ where
  read := fun o _ _ buf => (.ok o, buf, 100)
  write := fun o _ _ _ => (.ok (), o)

/-- A value of eight bytes is asked for, and its first segment. -/
def lyingRun : List (ServerAction ℕ × ServerEvent) × (SdoServer 8 × ℕ) :=
  ((serverMachine 8 lyingOd).exec (.new (.new 0x10), 8)
    [.handleFrame ⟨0x610, ⟨[0x40, 0, 0x20, 0, 0, 0, 0, 0], rfl⟩⟩ 0, .pollTransmit,
      .handleFrame ⟨0x610, ⟨[0x60, 0, 0, 0, 0, 0, 0, 0], rfl⟩⟩ 1]).get rfl

theorem run_lyingRun :
    (serverMachine 8 lyingOd).Run (.new (.new 0x10), 8) lyingRun.1 (lyingRun.2.1, lyingRun.2.2) :=
  Machine.run_exec_get _

/-- The next frame is handled all the same, and the next value may be a hundred bytes. -/
theorem server_never_panics_lyingRun :
    lyingRun.2.1.state = .uploading 0x2000 0 (Bytes.zero 8) 8 7 true ∧
      (7 < 8 ∧ 4 < 8) ∧ ∀ f now, ∃ x, lyingRun.2.1.handleFrame f now lyingOd 100 = .ok x := by
  have hst : lyingRun.2.1.state = .uploading 0x2000 0 (Bytes.zero 8) 8 7 true := by decide +kernel
  obtain ⟨hup, -, -, hok⟩ := server_never_panics run_lyingRun
  obtain ⟨-, -, -, hempty | hmore⟩ := hup _ _ _ _ _ _ hst
  · exact absurd hempty.1 (by decide)
  · refine ⟨hst, hmore, ?_⟩
    intro f now
    exact hok f now 100

end CanopenSdo
