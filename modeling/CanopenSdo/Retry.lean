import CanopenSdo.AsyncTransfer
import CanopenSdo.Lib.Retry

/-!
# Retrying a transfer

`upload_bytes_retry` and `download_bytes_retry` make an attempt, and another one as long as
the last one failed with a transient error and attempts are left.  The counter of the
attempts is a byte.  The loop is one of the library on the runs of `upload_bytes` and
`download_bytes`: the counter never overflows, and what a whole run has handed to the bus is
what its attempts have, one after the other.

## Main definitions

* `isTransient`, `retryMachine`, `uploadBytesRetry`, `downloadBytesRetry`.
* `bytesTrial`, `retryProjection` — the loop as one of the library.

## Main results

* `retry_attempts` — **a run is a bounded number of attempts, and returns what the last one
  has.**
* `downloadBytesRetry_handsOver` — **what a download with retries hands to the bus.**
* `uploadBytesRetry_returns` — **an upload with retries returns a value of its last attempt.**
* `retry_noAbort` — no abort frame is ever handed to the bus.
-/

namespace CanopenSdo

open Wire

variable {φ ε ρ : Type}

/-! ### The loop -/

/-- An error that is worth another attempt. -/
def isTransient : AsyncSdoError ε → Bool
  | .sdo (.clientAborted .protocolTimeout) => true
  | .sdo _ => false
  | .io _ => true

/-- `attempt += 1`, where the counter does not overflow. -/
def nextAttempt (attempt : UInt8) : Option UInt8 :=
  if attempt = 255 then none else some (attempt + 1)

/-- The loop between two steps: the number of the attempt, the attempt, and what the loop has
returned. -/
structure RetryState (ε ρ : Type) where
  attempt : UInt8
  state : BytesState ε ρ
  result : Option (Except (AsyncSdoError ε) ρ)

/-- The loop at the start of the first attempt. -/
def RetryState.init : RetryState ε ρ := ⟨1, .subscribing, none⟩

/-- What the loop does when its attempt has got to the state `s`.  Where the counter
overflows there is no next state. -/
def RetryState.next (retries attempt : UInt8) (s : BytesState ε ρ) : Option (RetryState ε ρ) :=
  match s with
  | .returned (.ok v) => some ⟨attempt, s, some (.ok v)⟩
  | .returned (.error e) =>
    if attempt ≥ max retries 1 ∨ !isTransient e then some ⟨attempt, s, some (.error e)⟩
    else (nextAttempt attempt).map fun attempt => ⟨attempt, .subscribing, none⟩
  | _ => some ⟨attempt, s, none⟩

/-- The loop around the attempts of the machine `M`. -/
def retryMachine (M : Machine (BytesState ε ρ) (BytesAction φ ε) (BytesEvent φ)) (retries : UInt8) :
    Machine (RetryState ε ρ) (BytesAction φ ε) (BytesEvent φ) where
  step := fun s a =>
    match s.result with
    | some _ => none
    | none =>
      match M.step s.state a with
      | none => none
      | some (e, x) => (RetryState.next retries s.attempt x).map fun s => (e, s)

/-- `upload_bytes` with automatic retry. -/
def uploadBytesRetry (T : CanTransport φ ε) (tgt : Target) (nodeId : UInt8) (idx : UInt16)
    (sub : UInt8) (timeout : Option ℕ) (retries : UInt8) :
    Machine (RetryState ε (List UInt8)) (BytesAction φ ε) (BytesEvent φ) :=
  retryMachine (uploadBytes T tgt nodeId idx sub timeout) retries

/-- `download_bytes` with automatic retry. -/
def downloadBytesRetry (T : CanTransport φ ε) (tgt : Target) (nodeId : UInt8) (idx : UInt16)
    (sub : UInt8) (data : List UInt8) (timeout : Option ℕ) (retries : UInt8) :
    Machine (RetryState ε Unit) (BytesAction φ ε) (BytesEvent φ) :=
  retryMachine (downloadBytes T tgt nodeId idx sub data timeout) retries

/-! ### It is a loop of the library -/

/-- What `upload_bytes` or `download_bytes` has returned. -/
def BytesState.result? : BytesState ε ρ → Option (Except (AsyncSdoError ε) ρ)
  | .returned r => some r
  | _ => none

/-- An attempt. -/
def bytesTrial (M : Machine (BytesState ε ρ) (BytesAction φ ε) (BytesEvent φ)) :
    Trial (BytesState ε ρ) (BytesAction φ ε) (BytesEvent φ) (AsyncSdoError ε) ρ where
  machine := M
  start := .subscribing
  result := BytesState.result?
  result_start := rfl

/-- How many attempts there may be: one, also for no retries. -/
def maxAttempts (retries : UInt8) : ℕ := max retries.toNat 1

theorem maxAttempts_pos (retries : UInt8) : 0 < maxAttempts retries := by
  unfold maxAttempts
  omega

theorem toNat_max_one (retries : UInt8) : (max retries 1).toNat = maxAttempts retries := by
  have hmax : max retries 1 = if retries ≤ 1 then 1 else retries := rfl
  have hle : retries ≤ 1 ↔ retries.toNat ≤ 1 := UInt8.le_iff_toNat_le
  rw [hmax, maxAttempts]
  split
  · next h =>
    rw [Nat.max_eq_right (hle.mp h)]
    rfl
  · next h =>
    rw [hle] at h
    omega

theorem lt_max_one_iff (attempt retries : UInt8) :
    attempt < max retries 1 ↔ attempt.toNat < maxAttempts retries := by
  rw [UInt8.lt_iff_toNat_lt, toNat_max_one]

/-- The state of the loop, with a counter that does not overflow. -/
def RetryState.abs (s : RetryState ε ρ) : Trial.Retrying (BytesState ε ρ) (AsyncSdoError ε) ρ :=
  ⟨s.attempt.toNat, s.state, s.result⟩

section Loop

variable {M : Machine (BytesState ε ρ) (BytesAction φ ε) (BytesEvent φ)} {retries : UInt8}
  {h : List (BytesAction φ ε × BytesEvent φ)} {s s' : RetryState ε ρ}

/-- A counter that is counted up. -/
theorem toNat_of_nextAttempt {attempt m : UInt8} (h : nextAttempt attempt = some m) :
    m.toNat = attempt.toNat + 1 := by
  unfold nextAttempt at h
  split at h
  · cases h
  · next hne =>
    obtain rfl := Option.some.inj h
    have hmax : attempt.toNat ≠ 255 := fun h => hne (UInt8.toNat_inj.mp h)
    have hlt : attempt.toNat < 256 := attempt.toNat_lt
    rw [UInt8.toNat_add]
    exact Nat.mod_eq_of_lt (show attempt.toNat + 1 < 256 by omega)

theorem nextAttempt_of_lt {attempt n : UInt8} (h : attempt < n) :
    ∃ m, nextAttempt attempt = some m := by
  have hlt : attempt.toNat < n.toNat := UInt8.lt_iff_toNat_lt.mp h
  have hn : n.toNat < 256 := n.toNat_lt
  refine ⟨attempt + 1, if_neg ?_⟩
  rintro rfl
  have hmax : (255 : UInt8).toNat = 255 := rfl
  omega

/-- **The counter never overflows**, and without it the loop does what the one of the library
does. -/
theorem RetryState.next_eq (retries attempt : UInt8) (x : BytesState ε ρ) :
    ∃ s, RetryState.next retries attempt x = some s ∧
      s.abs = (bytesTrial M).next isTransient (maxAttempts retries) attempt.toNat x := by
  rcases x with - | d | (e | v)
  · exact ⟨_, rfl, rfl⟩
  · exact ⟨_, rfl, rfl⟩
  · have hres : (bytesTrial M).result (.returned (.error e)) = some (.error e) := rfl
    by_cases hstop : max retries 1 ≤ attempt ∨ isTransient e = false
    · -- the error is returned
      refine ⟨⟨attempt, .returned (.error e), some (.error e)⟩, ?_, ?_⟩
      · simp [next, hstop]
      · rw [Trial.next_of_final hres]
        · rfl
        · rwa [← toNat_max_one, ← UInt8.le_iff_toNat_le]
    · -- another attempt is made
      have hlt : attempt < max retries 1 := UInt8.not_le.mp fun h => hstop (.inl h)
      have he : isTransient e = true := by simpa using fun h => hstop (.inr h)
      obtain ⟨m, hm⟩ := nextAttempt_of_lt hlt
      refine ⟨⟨m, .subscribing, none⟩, ?_, ?_⟩
      · simp [next, hstop, hm]
      · rw [Trial.next_of_transient hres ((lt_max_one_iff _ _).mp hlt) he,
          ← toNat_of_nextAttempt hm]
        rfl
  · exact ⟨_, rfl, rfl⟩

/-- The loop projects onto the one of the library. -/
def retryProjection (M : Machine (BytesState ε ρ) (BytesAction φ ε) (BytesEvent φ))
    (retries : UInt8) :
    Machine.Projection (retryMachine M retries)
      ((bytesTrial M).retry isTransient (maxAttempts retries)) where
  inv := fun _ => True
  state := RetryState.abs
  event := some
  inv_step := fun _ _ _ _ _ _ => trivial
  dropped := fun _ _ _ _ _ _ h => (by cases h)
  matched := by
    rintro ⟨attempt, x, result⟩ a e s' a' e' - hs heq
    obtain ⟨rfl, rfl⟩ := Prod.mk.inj (Option.some.inj heq)
    cases result with
    | some r => cases hs
    | none =>
      rcases hx : M.step x a with - | ⟨e', x'⟩
      · simp [retryMachine, hx] at hs
      · obtain ⟨s₁, hs₁, habs⟩ := RetryState.next_eq (M := M) retries attempt x'
        simp only [retryMachine, hx, hs₁, Option.map_some, Option.some.injEq, Prod.mk.injEq] at hs
        obtain ⟨rfl, rfl⟩ := hs
        have hstep : (bytesTrial M).machine.step x a = some (e', x') := hx
        simp [Trial.retry, RetryState.abs, hstep, ← habs]

/-- **A run is a bounded number of attempts**, of which all but the last have failed with a
transient error. -/
theorem retry_attempts (hr : (retryMachine M retries).Run .init h s) :
    ∃ n k, (bytesTrial M).At isTransient (maxAttempts retries) h s.abs n k := by
  have hrun := (retryProjection M retries).run hr trivial
  rw [show (retryProjection M retries).event = some from rfl, List.filterMap_some] at hrun
  exact Trial.retry_run (maxAttempts_pos retries) hrun

theorem result?_eq_some {x : BytesState ε ρ} {r : Except (AsyncSdoError ε) ρ}
    (hx : x.result? = some r) : x = .returned r := by
  cases x with
  | subscribing => cases hx
  | driving d => cases hx
  | returned r' =>
    obtain rfl := Option.some.inj hx
    rfl

/-- **The loop ends as its last attempt**: in every run that has returned `r`, the history is
that of some attempts that failed with a transient error, and then of one that returned `r`;
there are at most `max retries 1` of them, and an error is returned only if there are that
many or it is not transient.  And wherever a run has got to before, the loop has a step
exactly if the attempt has: the counter does not overflow. -/
theorem retry_outcome (hr : (retryMachine M retries).Run .init h s) :
    (∀ r, s.result = some r → ∃ n h₁ k, h = h₁ ++ k ∧ n < maxAttempts retries ∧
      (bytesTrial M).Failed isTransient n h₁ ∧ M.Run .subscribing k (.returned r) ∧
        ∀ e, r = .error e → n + 1 = maxAttempts retries ∨ isTransient e = false) ∧
    (s.result = none → ∀ a,
      ((retryMachine M retries).step s a).isSome = (M.step s.state a).isSome) := by
  constructor
  · intro r hres
    obtain ⟨n, k, ⟨h₁, rfl, hf⟩, hrun, -, hlim, hresult, hfinal⟩ := retry_attempts hr
    have hstate : s.state = .returned r := result?_eq_some (hresult.trans hres)
    refine ⟨n, h₁, k, rfl, hlim, hf, hstate ▸ hrun, ?_⟩
    rintro e rfl
    exact (hfinal e hres).imp_left fun h => Nat.le_antisymm hlim h
  · intro hres a
    obtain ⟨attempt, x, result⟩ := s
    obtain rfl : result = none := hres
    rcases hx : M.step x a with - | ⟨e, x'⟩
    · simp [retryMachine, hx]
    · obtain ⟨s₁, hs₁, -⟩ := RetryState.next_eq (M := M) retries attempt x'
      simp [retryMachine, hx, hs₁]

end Loop

/-! ### The frames of a run -/

theorem driveSteps_append (h k : List (BytesAction φ ε × BytesEvent φ)) :
    driveSteps (h ++ k) = driveSteps h ++ driveSteps k :=
  List.filterMap_append

theorem handedOver_append (h k : List (DriveAction φ ε × DriveEvent φ)) :
    handedOver (h ++ k) = handedOver h ++ handedOver k :=
  List.filterMap_append

section Transfers

variable {T : CanTransport φ ε} {tgt : Target} {nodeId : UInt8} {idx : UInt16} {sub : UInt8}
  {data : List UInt8} {timeout : Option ℕ} {retries : UInt8}
  {h : List (BytesAction φ ε × BytesEvent φ)}

/-- What failed attempts of a download have handed over is a beginning of its frames for
each of them. -/
theorem handedOver_of_failed {n : ℕ} {transient : AsyncSdoError ε → Bool}
    (hf : (bytesTrial (downloadBytes T tgt nodeId idx sub data timeout)).Failed transient n h) :
    ∃ ps : List (List SdoFrame), handedOver (driveSteps h) = ps.flatten ∧
      ps.length = n ∧ ∀ p ∈ ps, p <+: downloadSequence nodeId idx sub data := by
  induction hf with
  | none => exact ⟨[], by simp [handedOver, driveSteps]⟩
  | @more n h k x e _ hr _ _ ih =>
    obtain ⟨ps, hps, hlen, hall⟩ := ih
    refine ⟨ps ++ [handedOver (driveSteps k)], ?_, by simp [hlen], ?_⟩
    · rw [driveSteps_append, handedOver_append, hps]
      simp
    · intro p hp
      rcases List.mem_append.mp hp with hp | hp
      · exact hall p hp
      · obtain rfl := List.mem_singleton.mp hp
        exact downloadBytes_beginning hr

/-- **What a download with retries hands to the bus**, on any transport: for each attempt, of
which there are at most `max retries 1`, a beginning of the frames of the download, in order
and each of them once; and when it returns `Ok`, the last attempt has handed over all of them,
and the frame that has arrived last acknowledges the last. -/
theorem downloadBytesRetry_handsOver {s : RetryState ε Unit}
    (hr : (downloadBytesRetry T tgt nodeId idx sub data timeout retries).Run .init h s) :
    ∃ (ps : List (List SdoFrame)) (last : List SdoFrame),
      handedOver (driveSteps h) = ps.flatten ++ last ∧
      ps.length < maxAttempts retries ∧ (∀ p ∈ ps, p <+: downloadSequence nodeId idx sub data) ∧
      last <+: downloadSequence nodeId idx sub data ∧
      (s.result = some (.ok ()) → last = downloadSequence nodeId idx sub data ∧
        ∃ fs f, arrived T (driveSteps h) = fs ++ [f] ∧
          Acks nodeId idx sub (downloadCount data - 1) f) := by
  obtain ⟨n, k, ⟨h₁, rfl, hf⟩, hrun, -, hlim, hresult, -⟩ := retry_attempts hr
  obtain ⟨ps, hps, hlen, hall⟩ := handedOver_of_failed hf
  refine ⟨ps, handedOver (driveSteps k), ?_, hlen ▸ hlim, hall, downloadBytes_beginning hrun, ?_⟩
  · rw [driveSteps_append, handedOver_append, hps]
  · intro hres
    have hstate : s.state = .returned (.ok ()) := result?_eq_some (hresult.trans hres)
    have hrun' : (downloadBytes T tgt nodeId idx sub data timeout).Run .subscribing k
        (.returned (.ok ())) := hstate ▸ hrun
    obtain ⟨hseq, fs, f, harr, hack⟩ := downloadBytes_completed hrun'
    refine ⟨hseq, arrived T (driveSteps h₁) ++ fs, f, ?_, hack⟩
    rw [driveSteps_append, arrived, List.filterMap_append, ← arrived, ← arrived, harr,
      List.append_assoc]

/-- **What an upload with retries returns is a value of its last attempt**: the history is
that of some attempts that failed with a transient error and of one more, and the frames of
that one alone complete the value. -/
theorem uploadBytesRetry_returns {s : RetryState ε (List UInt8)} {v : List UInt8}
    (hr : (uploadBytesRetry T tgt nodeId idx sub timeout retries).Run .init h s)
    (hres : s.result = some (.ok v)) :
    ∃ n h₁ k, h = h₁ ++ k ∧ n < maxAttempts retries ∧
      (bytesTrial (uploadBytes T tgt nodeId idx sub timeout)).Failed isTransient n h₁ ∧
      UploadFrames nodeId idx sub (arrived T (driveSteps k)) (handedOver (driveSteps k)) v := by
  obtain ⟨n, k, ⟨h₁, rfl, hf⟩, hrun, -, hlim, hresult, -⟩ := retry_attempts hr
  have hstate : s.state = .returned (.ok v) := result?_eq_some (hresult.trans hres)
  have hrun' : (uploadBytes T tgt nodeId idx sub timeout).Run .subscribing k (.returned (.ok v)) :=
    hstate ▸ hrun
  exact ⟨n, h₁, k, rfl, hlim, hf, uploadBytes_completed hrun'⟩

/-- An attempt hands no abort frame to the bus. -/
theorem bytes_noAbort {start : UInt64 → Checked (SdoResult Unit × SdoClient)}
    {finish : SdoOutcome → Checked ρ} {s : BytesState ε ρ}
    (hstart : ∀ now c, start now = .ok (.ok (), c) → Started nodeId idx sub c)
    (hr : (bytesMachine T tgt nodeId start finish).Run .subscribing h s) :
    ∀ x ∈ driveSteps h, ¬ x.2.IsAbort := by
  cases bytesTrace_of_run hr with
  | subscribing hh => simp [hh, driveSteps]
  | notSubscribed hh => simp [hh]
  | notStarted hh _ => simp [hh]
  | started hst hrd _ => exact (driveInv_of_run (hstart _ _ hst) hrd).noAbort

variable (nodeId idx sub) in
/-- The loop does not either, as all it hands over is what its attempts do. -/
theorem retryMachine_noAbort {start : UInt64 → Checked (SdoResult Unit × SdoClient)}
    {finish : SdoOutcome → Checked ρ} {s : RetryState ε ρ}
    (hstart : ∀ now c, start now = .ok (.ok (), c) → Started nodeId idx sub c)
    (hr : (retryMachine (bytesMachine T tgt nodeId start finish) retries).Run .init h s) :
    ∀ x ∈ driveSteps h, ¬ x.2.IsAbort := by
  have hrun := (retryProjection _ retries).run hr trivial
  rw [show (retryProjection _ retries).event = some from rfl, List.filterMap_some] at hrun
  have hall : ∀ y ∈ h, ∀ x, driveStep? y = some x → ¬ x.2.IsAbort := by
    refine Trial.retry_forall (maxAttempts_pos retries) hrun ?_
    intro k s hk y hy x hx
    exact bytes_noAbort hstart hk x (List.mem_filterMap.mpr ⟨y, hy, hx⟩)
  intro x hx
  obtain ⟨y, hy, hx⟩ := List.mem_filterMap.mp hx
  exact hall y hy x hx

/-- **No abort is ever sent**: with and without retries, and whatever the attempts fail with,
no frame that `upload_bytes_retry` or `download_bytes_retry` hands to the bus is an abort, so
the server of a transfer that is given up is not told. -/
theorem retry_noAbort :
    (∀ s, (uploadBytesRetry T tgt nodeId idx sub timeout retries).Run .init h s →
      ∀ x ∈ driveSteps h, ¬ x.2.IsAbort) ∧
    ∀ s, (downloadBytesRetry T tgt nodeId idx sub data timeout retries).Run .init h s →
      ∀ x ∈ driveSteps h, ¬ x.2.IsAbort := by
  constructor
  · intro s hr
    refine retryMachine_noAbort nodeId idx sub ?_ hr
    exact fun now c hs => .upload timeout now (startUpload_eq_ok hs)
  · intro s hr
    refine retryMachine_noAbort nodeId idx sub ?_ hr
    exact fun now c hs => .download timeout data now hs

end Transfers

/-! ### Two attempts -/

/-- The frame `f` arrives at the time `now`. -/
def arrives (f : SdoFrame) (now : UInt64) : BytesAction (CanId × List UInt8) Unit :=
  .drive (.woken (.recv (.ok (.standard f.cobId, f.data.data)) now))

/-- The attempt is started, and its first frame is sent. -/
def begins : List (BytesAction (CanId × List UInt8) Unit) :=
  [.subscribed (.ok ()) 0, .drive (.sent (.ok ()))]

/-- A first attempt times out, and a second one writes 8 bytes. -/
def retriedDownload : List (BytesAction (CanId × List UInt8) Unit × BytesEvent (CanId × List UInt8)) ×
    RetryState Unit Unit :=
  ((downloadBytesRetry pairTransport .bits64 0x10 0x2000 0 [8, 7, 6, 5, 4, 3, 2, 1] none 2).exec
    .init (begins ++ [.drive (.woken (.expiry 150000000))] ++ begins ++
      [arrives (initAck 0x10 0x2000 0) 1, .drive (.sent (.ok ())), arrives (segmentAck 0x10 0) 2,
        .drive (.sent (.ok ())), arrives (segmentAck 0x10 1) 3])).get rfl

theorem run_retriedDownload :
    (downloadBytesRetry pairTransport .bits64 0x10 0x2000 0 [8, 7, 6, 5, 4, 3, 2, 1] none 2).Run
      .init retriedDownload.1 retriedDownload.2 :=
  Machine.run_exec_get _

/-- What has been handed over is a beginning of the frames, and then all of them. -/
theorem downloadBytesRetry_handsOver_retriedDownload :
    ∃ ps : List (List SdoFrame), handedOver (driveSteps retriedDownload.1)
      = ps.flatten ++ downloadSequence 0x10 0x2000 0 [8, 7, 6, 5, 4, 3, 2, 1] := by
  obtain ⟨ps, last, hall, -, -, -, hok⟩ := downloadBytesRetry_handsOver run_retriedDownload
  obtain ⟨rfl, -⟩ := hok rfl
  exact ⟨ps, hall⟩

/-- One attempt has failed, and the second one has returned `Ok`. -/
theorem retry_outcome_retriedDownload : ∃ h₁ k, retriedDownload.1 = h₁ ++ k ∧
    (bytesTrial (downloadBytes pairTransport .bits64 0x10 0x2000 0 [8, 7, 6, 5, 4, 3, 2, 1]
      none)).Failed isTransient 1 h₁ ∧
    (downloadBytes pairTransport .bits64 0x10 0x2000 0 [8, 7, 6, 5, 4, 3, 2, 1] none).Run
      .subscribing k (.returned (.ok ())) := by
  obtain ⟨n, h₁, k, hh, hn, hf, hr, -⟩ := (retry_outcome run_retriedDownload).1 (.ok ()) rfl
  refine ⟨h₁, k, hh, ?_, hr⟩
  have hn₂ : n < 2 := hn
  have hn₁ : n = 1 := by
    by_contra hne
    obtain rfl : n = 0 := by omega
    -- no attempt begins twice
    cases hf
    obtain rfl : retriedDownload.1 = k := hh
    cases hr.exec
  exact hn₁ ▸ hf

theorem retry_noAbort_retriedDownload : ∀ x ∈ driveSteps retriedDownload.1, ¬ x.2.IsAbort :=
  retry_noAbort.2 _ run_retriedDownload

/-- A first attempt times out, and a second one reads 8 bytes. -/
def retriedUpload : List (BytesAction (CanId × List UInt8) Unit × BytesEvent (CanId × List UInt8)) ×
    RetryState Unit (List UInt8) :=
  ((uploadBytesRetry pairTransport .bits64 0x10 0x2000 0 none 2).exec .init
    (begins ++ [.drive (.woken (.expiry 150000000))] ++ begins ++
      [arrives (initUploadReply 0x10 0x2000 0 [1, 2, 3, 4, 5, 6, 7, 8]) 1, .drive (.sent (.ok ())),
        arrives (uploadSegment 0x10 [1, 2, 3, 4, 5, 6, 7, 8] 0) 2, .drive (.sent (.ok ())),
        arrives (uploadSegment 0x10 [1, 2, 3, 4, 5, 6, 7, 8] 1) 3])).get rfl

theorem run_retriedUpload : (uploadBytesRetry pairTransport .bits64 0x10 0x2000 0 none 2).Run .init
    retriedUpload.1 retriedUpload.2 :=
  Machine.run_exec_get _

theorem uploadBytesRetry_returns_retriedUpload : ∃ h₁ k, retriedUpload.1 = h₁ ++ k ∧
    UploadFrames 0x10 0x2000 0 (arrived pairTransport (driveSteps k)) (handedOver (driveSteps k))
      [1, 2, 3, 4, 5, 6, 7, 8] := by
  obtain ⟨n, h₁, k, hh, -, -, hv⟩ := uploadBytesRetry_returns run_retriedUpload rfl
  exact ⟨h₁, k, hh, hv⟩

end CanopenSdo
