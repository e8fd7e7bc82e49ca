import CanopenSdo.ClientCalls

/-!
# What becomes of the abort frames of the client

A client that aborts its transfer queues an abort frame and is idle at once.  From then on
nothing touches the frame but `poll_transmit`, which hands it out, and a `begin_*`, which
is accepted because the client is idle and puts its request in the place of the frame.  So
the aborts are all delivered exactly in the runs in which no transfer is started while a
frame is pending.

## Main definitions

* `SdoClient.QueuesAbort` — the call queues an abort frame.
* `SdoClient.HandsOver` — what has become of a queued frame.
* `SdoClient.Overwrites` — the call starts a transfer while a frame is pending.

## Main results

* `CallStep.of_idle` — what a call does to an idle client.
* `abort_overwritten` — **an abort that is lost.**
* `aborts_delivered_iff` — **the runs in which none is.**
-/

namespace CanopenSdo

open Wire

/-! ### Queueing and polling -/

/-- The call queues the abort frame `f` of the transfer in flight: it returns that the client
has aborted, or it is a call of `abort`. -/
def SdoClient.QueuesAbort (c : SdoClient) (a : ClientCall) (e : ClientReturn) (f : SdoFrame) :
    Prop :=
  ∃ node idx sub code, c.transfer = some (node, idx, sub) ∧
    f = ⟨SdoFrame.rsdoId node, Wire.abort idx sub code⟩ ∧
      (e = .returned (.error (.clientAborted code)) ∨ a = .abort code)

/-- The call polls for a frame, or has started a transfer. -/
def pollsOrBegan : ClientCall × ClientReturn → Bool
  | (.pollTransmit, _) => true
  | (_, .began (.ok ())) => true
  | _ => false

/-- What has become of a frame that was queued before the calls `post`: the first of them
that polls or starts a transfer is a poll, and returns the frame; if there is none, the
frame is still pending. -/
def SdoClient.HandsOver (c : SdoClient) (f : SdoFrame) (post : List (ClientCall × ClientReturn)) :
    Prop :=
  match post.find? pollsOrBegan with
  | some x => x = (.pollTransmit, .transmitted (some f))
  | none => c.pendingTx = some f

/-- The call starts a transfer: the client is idle and the arguments are valid. -/
def SdoClient.Accepts (c : SdoClient) : ClientCall → Prop
  | .beginUpload nodeId _ _ _ => c.state = .idle ∧ SdoFrame.ValidNode nodeId
  | .beginDownload nodeId _ _ data _ =>
    c.state = .idle ∧ SdoFrame.ValidNode nodeId ∧ data ≠ []
  | _ => False

/-- The call starts a transfer while a frame is pending. -/
def SdoClient.Overwrites (c : SdoClient) (a : ClientCall) : Prop :=
  c.Accepts a ∧ c.pendingTx ≠ none

section Step

variable {tgt : Target} {c c' : SdoClient} {a : ClientCall} {e : ClientReturn} {f : SdoFrame}

theorem SdoClient.Accepts.idle (h : c.Accepts a) : c.state = .idle := by
  cases a with
  | beginUpload => exact h.1
  | beginDownload => exact h.1
  | _ => exact h.elim

/-- A call that is to start a transfer starts one. -/
theorem SdoClient.Accepts.began (ha : c.Accepts a)
    (hs : (callMachine tgt).step c a = some (e, c')) : e = .began (.ok ()) := by
  cases a with
  | beginUpload nodeId idx sub now =>
    have hb : c.beginUpload nodeId idx sub now
        = (.ok (), c.uploadStarted nodeId idx sub now) := beginUpload_of_idle ha.2 ha.1
    simp only [callMachine, callStep, hb, Option.some.injEq, Prod.mk.injEq] at hs
    exact hs.1.symm
  | beginDownload nodeId idx sub data now =>
    obtain ⟨hst, hv, hd⟩ := ha
    have hb : c.beginDownload nodeId idx sub data now
        = .ok (.ok (), c.downloadStarted nodeId idx sub data now) :=
      beginDownload_of_idle hv hst (List.length_pos_iff.mpr hd)
    simp only [callMachine, callStep, hb, Option.some.injEq, Prod.mk.injEq] at hs
    exact hs.1.symm
  | _ => exact ha.elim

/-- Aborting a transfer in flight queues its abort frame. -/
theorem SdoClient.exists_queuesAbort {code : SdoAbortCode} (hst : c.state ≠ .idle)
    (he : e = .returned (.error (.clientAborted code)) ∨ a = .abort code) :
    ∃ f, (c.abortWith code).pendingTx = some f ∧ c.QueuesAbort a e f := by
  obtain ⟨node, idx, sub, ht, habort⟩ := SdoClient.exists_transfer hst
  rw [habort]
  exact ⟨_, rfl, node, idx, sub, code, ht, rfl, he⟩

/-- A call that queues an abort frame leaves it pending, and the client idle. -/
theorem CallStep.pending_of_queuesAbort (h : CallStep tgt c a e c') (hq : c.QueuesAbort a e f) :
    c'.state = .idle ∧ c'.pendingTx = some f := by
  obtain ⟨node, idx, sub, code, ht, rfl, he⟩ := hq
  have hst : c.state ≠ .idle := SdoClient.state_ne_idle_of_transfer ht
  -- the call has aborted the transfer, with this code
  have hc' : c' = c.abortWith code := by
    cases h with
    | refused ha =>
      obtain he | rfl := he
      · cases he
      · exact ha.elim
    | expired =>
      obtain he | he := he <;> cases he
      rfl
    | aborted =>
      obtain he | he := he <;> cases he
      rfl
    | frame hf =>
      obtain he | he := he
      · cases he
        cases hf.effect with
        | finished _ hr => rcases hr with ⟨_, hr⟩ | ⟨_, _, hr⟩ | ⟨_, hr⟩ <;> cases hr
        | aborted => rfl
      · cases he
    | _ => obtain he | he := he <;> cases he
  obtain ⟨node', idx', sub', ht', habort⟩ := SdoClient.exists_transfer hst
  cases ht.symm.trans ht'
  rw [hc', habort]
  exact ⟨rfl, rfl⟩

/-- **What a call does to an idle client**: it polls, it starts a transfer, or it changes
nothing. -/
theorem CallStep.of_idle (h : CallStep tgt c a e c') (hc : c.Sound) (hst : c.state = .idle) :
    ((a, e) = (.pollTransmit, .transmitted c.pendingTx) ∧ c' = c.drained) ∨
      (c.Accepts a ∧ c'.state ≠ .idle) ∨ (pollsOrBegan (a, e) = false ∧ c' = c) := by
  cases h with
  | @refused a err ha =>
    -- a start that fails is none of the calls that touch the pending frame
    right; right
    cases a with
    | beginUpload => exact ⟨rfl, rfl⟩
    | beginDownload => exact ⟨rfl, rfl⟩
    | _ => exact ha.elim
  | beganUpload hv => exact .inr (.inl ⟨⟨hst, hv⟩, nofun⟩)
  | beganDownload hv _ hd => exact .inr (.inl ⟨⟨hst, hv, List.length_pos_iff.mp hd⟩, nofun⟩)
  | transmitted => exact .inl ⟨rfl, rfl⟩
  | early => exact .inr (.inr ⟨rfl, rfl⟩)
  | expired hdue =>
    -- an idle client has no deadline
    obtain ⟨t, ht, -⟩ := hdue
    rw [hc.deadline.mp hst] at ht
    cases ht
  | aborted => exact .inr (.inr ⟨rfl, SdoClient.abortWith_of_idle hst _⟩)
  | frame hstep =>
    cases hstep.effect with
    | unchanged => exact .inr (.inr ⟨rfl, rfl⟩)
    | finished hne => exact absurd hst hne
    | aborted hne => exact absurd hst hne
    | continued _ ht => exact absurd hst (SdoClient.state_ne_idle_of_transfer ht)

/-- A call that leaves the client idle with a frame pending has queued it, or changed
nothing. -/
theorem CallStep.queued_or_kept (h : CallStep tgt c a e c') (hc : c.Sound)
    (hst : c'.state = .idle) (hf : c'.pendingTx = some f) :
    c.QueuesAbort a e f ∨ (pollsOrBegan (a, e) = false ∧ c' = c) := by
  by_cases hidle : c.state = .idle
  · rcases h.of_idle hc hidle with ⟨-, rfl⟩ | ⟨-, hne⟩ | hkept
    · cases hf
    · exact absurd hst hne
    · exact .inr hkept
  · left
    have hqueued : ∀ code, c' = c.abortWith code →
        (e = .returned (.error (.clientAborted code)) ∨ a = .abort code) →
          c.QueuesAbort a e f := by
      rintro code rfl he
      obtain ⟨f', hf', hq⟩ := SdoClient.exists_queuesAbort hidle he
      cases hf.symm.trans hf'
      exact hq
    cases h with
    | refused => exact absurd hst hidle
    | beganUpload => cases hst
    | beganDownload => cases hst
    | transmitted => exact absurd hst hidle
    | early => exact absurd hst hidle
    | expired => exact hqueued _ rfl (.inl rfl)
    | aborted => exact hqueued _ rfl (.inr rfl)
    | frame hstep =>
      cases hstep.effect with
      | unchanged => exact absurd hst hidle
      | finished => cases hf
      | aborted => exact hqueued _ rfl (.inl rfl)
      | continued _ _ ht' => exact absurd hst (SdoClient.state_ne_idle_of_transfer ht')

end Step

/-! ### Every run -/

section Runs

variable {tgt : Target} {cfg : SdoConfig} {c : SdoClient} {f : SdoFrame}
  {h : List (ClientCall × ClientReturn)}

/-- A frame that is pending in an idle client was queued by some call, and since then there
has been no poll and no start of a transfer. -/
theorem exists_queuesAbort_of_pending (hr : (callMachine tgt).Run (.new cfg) h c)
    (hst : c.state = .idle) (hf : c.pendingTx = some f) :
    ∃ pre a e post s, h = pre ++ (a, e) :: post ∧ (callMachine tgt).Run (.new cfg) pre s ∧
      s.QueuesAbort a e f ∧ post.find? pollsOrBegan = none := by
  -- from the end of the run back to the call that queued the frame
  induction hr with
  | start => cases hf
  | @snoc h s c a e hr hs ih =>
    rcases (callStep_of_step hs).queued_or_kept (client_sound hr) hst hf with hq | ⟨hx, rfl⟩
    · exact ⟨h, a, e, [], s, rfl, hr, hq, rfl⟩
    · obtain ⟨pre, a', e', post, s', rfl, hpre, hq, hpost⟩ := ih hst hf
      refine ⟨pre, a', e', post ++ [(a, e)], s', by simp, hpre, hq, ?_⟩
      rw [List.find?_append, hpost, Option.none_or, List.find?_cons_of_neg (by simp [hx]),
        List.find?_nil]

/-- A frame that is handed over, or is pending in an idle client. -/
theorem SdoClient.HandsOver.step {c' : SdoClient} {a : ClientCall} {e : ClientReturn}
    {post : List (ClientCall × ClientReturn)} (h : CallStep tgt c a e c') (hc : c.Sound)
    (hf : c.HandsOver f post) (hidle : post.find? pollsOrBegan = none → c.state = .idle)
    (ho : ¬ c.Overwrites a) : c'.HandsOver f (post ++ [(a, e)]) ∧
      ((post ++ [(a, e)]).find? pollsOrBegan = none → c'.state = .idle) := by
  unfold HandsOver at hf ⊢
  rw [List.find?_append]
  cases hpost : post.find? pollsOrBegan with
  | some x =>
    -- the frame has already been handed out
    rw [hpost] at hf
    exact ⟨hf, nofun⟩
  | none =>
    rw [hpost] at hf
    have hst := hidle hpost
    rcases h.of_idle hc hst with ⟨hx, rfl⟩ | ⟨ha, -⟩ | ⟨hx, rfl⟩
    · rw [hf] at hx
      rw [hx]
      exact ⟨rfl, nofun⟩
    · -- a start that succeeds would overwrite the frame
      have hpending : c.pendingTx ≠ none := by
        rw [hf]
        exact nofun
      exact absurd ⟨ha, hpending⟩ ho
    · rw [List.find?_cons_of_neg (by simp [hx])]
      exact ⟨hf, fun _ => hst⟩

/-- A read whose request has been sent. -/
def sentRead : List (ClientCall × ClientReturn) × SdoClient :=
  ((callMachine .bits64).exec (.new .default)
    [.beginUpload 0x10 0x2000 0 0, .pollTransmit]).get rfl

/-- The same read, which then times out, and another one started at once. -/
def restartedRead : List (ClientCall × ClientReturn) × SdoClient :=
  ((callMachine .bits64).exec (.new .default) [.beginUpload 0x10 0x2000 0 0, .pollTransmit,
    .handleTimeout 150000000, .beginUpload 0x10 0x2001 0 150000001, .pollTransmit]).get rfl

theorem run_sentRead :
    (callMachine .bits64).Run (.new .default) sentRead.1 sentRead.2 :=
  Machine.run_exec_get _

theorem run_restartedRead :
    (callMachine .bits64).Run (.new .default) restartedRead.1 restartedRead.2 :=
  Machine.run_exec_get _

/-- **An abort that is lost**: the read is aborted and its abort frame queued, but the next
read is accepted and its request is what the next poll returns; the abort never is. -/
theorem abort_overwritten : ¬ ∀ h c, (callMachine .bits64).Run (.new .default) h c →
    ∀ pre a e post s f, h = pre ++ (a, e) :: post →
      (callMachine .bits64).Run (.new .default) pre s → s.QueuesAbort a e f →
        c.HandsOver f post := by
  intro hall
  have hsplit : restartedRead.1 = sentRead.1 ++ (.handleTimeout 150000000,
      .returned (.error (.clientAborted .protocolTimeout))) :: restartedRead.1.drop 3 := by
    decide +kernel
  have hqueued : sentRead.2.QueuesAbort (.handleTimeout 150000000)
      (.returned (.error (.clientAborted .protocolTimeout)))
      ⟨SdoFrame.rsdoId 0x10, Wire.abort 0x2000 0 .protocolTimeout⟩ :=
    ⟨0x10, 0x2000, 0, .protocolTimeout, by decide +kernel, rfl, .inl rfl⟩
  have hover := hall _ _ run_restartedRead _ _ _ _ _ _ hsplit run_sentRead hqueued
  have hfirst : (restartedRead.1.drop 3).find? pollsOrBegan
      = some (.beginUpload 0x10 0x2001 0 150000001, .began (.ok ())) := by decide +kernel
  rw [SdoClient.HandsOver, hfirst] at hover
  cases hover

/-- **The aborts of a run are all delivered if and only if no transfer is started while a
frame is pending.**  Delivered means: after the call that queues an abort frame, the first
call that polls or starts a transfer is a poll that returns this frame; and if there is
none yet, the frame is still pending. -/
theorem aborts_delivered_iff (hr : (callMachine tgt).Run (.new cfg) h c) :
    (∀ pre a e post s f, h = pre ++ (a, e) :: post → (callMachine tgt).Run (.new cfg) pre s →
        s.QueuesAbort a e f → c.HandsOver f post) ↔
      ¬ (callMachine tgt).Takes (.new cfg) SdoClient.Overwrites h := by
  constructor
  · rintro hall ⟨pre, a, e, post, s, rfl, hpre, hacc, hpending⟩
    obtain ⟨f, hf⟩ := Option.ne_none_iff_exists'.mp hpending
    obtain ⟨pre', a', e', mid, s', rfl, hpre', hq, hmid⟩ :=
      exists_queuesAbort_of_pending hpre hacc.idle hf
    have hover := hall pre' a' e' (mid ++ (a, e) :: post) s' f (by simp) hpre' hq
    -- the call that starts the transfer is the first that concerns the frame
    obtain ⟨t, hs⟩ := hr.step_of_split hpre
    obtain rfl : e = .began (.ok ()) := hacc.began hs
    have hbegan : pollsOrBegan (a, .began (.ok ())) = true := by
      cases a <;> rfl
    rw [SdoClient.HandsOver, List.find?_append, hmid, Option.none_or,
      List.find?_cons_of_pos hbegan] at hover
    -- and it is no poll
    cases hover
  · intro hno pre a e post s f heq hpre hq
    have hkeeps := hr.after (B := fun s a e => s.QueuesAbort a e f)
      (P := fun post c => c.HandsOver f post ∧
        (post.find? pollsOrBegan = none → c.state = .idle)) hno ?_ ?_
    · exact (hkeeps pre a e post s heq hpre hq).1
    · intro h s a e t hr hs hq
      obtain ⟨hst, hf⟩ := (callStep_of_step hs).pending_of_queuesAbort hq
      exact ⟨hf, fun _ => hst⟩
    · intro h s a e t post hr hs ho hP
      exact hP.1.step (callStep_of_step hs) (client_sound hr) hP.2 ho

/-- The same read, once it has timed out: the only transfer was started with nothing pending,
so the abort frame is pending now. -/
theorem aborts_delivered_iff_sentRead :
    (sentRead.2.handleTimeout 150000000).2.HandsOver
      ⟨SdoFrame.rsdoId 0x10, Wire.abort 0x2000 0 .protocolTimeout⟩ [] := by
  have hbegin : (callMachine .bits64).step (.new .default) (.beginUpload 0x10 0x2000 0 0) = some
      (.began (.ok ()), SdoClient.uploadStarted (.new .default) 0x10 0x2000 0 0) := rfl
  have htimeout : (callMachine .bits64).step sentRead.2 (.handleTimeout 150000000) = some
      (.returned (.error (.clientAborted .protocolTimeout)),
        (sentRead.2.handleTimeout 150000000).2) := rfl
  have hqueued : sentRead.2.QueuesAbort (.handleTimeout 150000000)
      (.returned (.error (.clientAborted .protocolTimeout)))
      ⟨SdoFrame.rsdoId 0x10, Wire.abort 0x2000 0 .protocolTimeout⟩ :=
    ⟨0x10, 0x2000, 0, .protocolTimeout, by decide +kernel, rfl, .inl rfl⟩
  refine (aborts_delivered_iff (run_sentRead.snoc htimeout)).mpr ?_ _ _ _ [] _ _ rfl run_sentRead
    hqueued
  have hsplit : sentRead.1 = ([] ++ [(.beginUpload 0x10 0x2000 0 0, .began (.ok ()))])
      ++ [(.pollTransmit,
        .transmitted (SdoClient.uploadStarted (.new .default) 0x10 0x2000 0 0).pendingTx)] := rfl
  rw [run_sentRead.takes_snoc, hsplit, (Machine.Run.start.snoc hbegin).takes_snoc,
    Machine.Run.start.takes_snoc]
  rintro (((htakes | ⟨-, hpending⟩) | ⟨haccepts, -⟩) | ⟨haccepts, -⟩)
  · exact Machine.not_takes_nil htakes
  · exact hpending rfl
  · exact haccepts
  · exact haccepts

end Runs

end CanopenSdo
