import CanopenSdo.ClientCalls

/-!
# The life cycle of a client

In every reachable state, under every call: a client has a deadline exactly while a
transfer is in flight, a call that starts none changes nothing, and a call that drives the
transfer says in its result how it left the client.  A caller that only looks at the
result knows whether the client is idle, and what is still to be sent.

## Main definitions

* `SdoClient.Reports` — what a result of `handle_frame` or `handle_timeout` says.

## Main results

* `CallStep.reports` — a call leaves the client as its result says.
* `client_life_cycle` — **the life cycle of the client, in every reachable state.**
-/

namespace CanopenSdo

open Wire

/-- What a result of `handle_frame` or `handle_timeout` on the client `c` says about the
client `c'` it leaves. -/
structure SdoClient.Reports (c c' : SdoClient) (r : SdoResult (Option SdoOutcome)) : Prop where
  /-- A completed transfer: idle, nothing pending, and the outcome is of its direction. -/
  completed : ∀ outcome, r = .ok (some outcome) → c'.state = .idle ∧ c'.pendingTx = none ∧
    ((c.direction = some .upload ∧ ∃ data, outcome = .uploadCompleted data) ∨
      (c.direction = some .download ∧ outcome = .downloadCompleted))
  /-- An abort of the server: idle, nothing pending. -/
  serverAborted : ∀ code, r = .error (.serverAborted code) →
    c'.state = .idle ∧ c'.pendingTx = none
  /-- An abort of the client: idle, and the abort frame of the transfer is pending. -/
  clientAborted : ∀ code, r = .error (.clientAborted code) → c'.state = .idle ∧
    ∃ node idx sub id, c.transfer = some (node, idx, sub) ∧ id.toNat = 0x600 + node.toNat ∧
      c'.pendingTx = some ⟨id, Wire.abort idx sub code⟩
  /-- There are no other errors. -/
  error : ∀ err, r = .error err →
    (∃ code, err = .serverAborted code) ∨ ∃ code, err = .clientAborted code
  /-- Otherwise the same transfer is in flight, or none as before. -/
  ongoing : r = .ok none → c'.transfer = c.transfer ∧ c'.direction = c.direction

section Reports

variable {tgt : Target} {c c' : SdoClient} {a : ClientCall} {f : SdoFrame}
  {now : UInt64} {r : SdoResult (Option SdoOutcome)}

/-- A client that is as it was. -/
theorem SdoClient.reports_self (c : SdoClient) : c.Reports c (.ok none) where
  completed := nofun
  serverAborted := nofun
  clientAborted := nofun
  error := nofun
  ongoing := fun _ => ⟨rfl, rfl⟩

/-- A client that is not idle, once it has aborted its transfer. -/
theorem SdoClient.Sound.reports_abortWith (hc : c.Sound) (hst : c.state ≠ .idle)
    (code : SdoAbortCode) : c.Reports (c.abortWith code) (.error (.clientAborted code)) where
  completed := nofun
  serverAborted := nofun
  clientAborted := by
    rintro _ ⟨⟩
    obtain ⟨node, idx, sub, ht, habort⟩ := SdoClient.exists_transfer hst
    rw [habort]
    exact ⟨rfl, node, idx, sub, _, ht, SdoFrame.toNat_rsdoId (hc.node _ _ _ ht).2, rfl⟩
  error := by
    rintro _ ⟨⟩
    exact .inr ⟨code, rfl⟩
  ongoing := nofun

/-- A client whose transfer has ended. -/
theorem SdoClient.reports_clearTransfer (hr : c.EndsWith r) : c.Reports c.clearTransfer r := by
  rcases hr with ⟨code, rfl⟩ | ⟨hd, data, rfl⟩ | ⟨hd, rfl⟩
  · refine ⟨nofun, fun _ _ => ⟨rfl, rfl⟩, nofun, ?_, nofun⟩
    rintro _ ⟨⟩
    exact .inl ⟨code, rfl⟩
  · refine ⟨?_, nofun, nofun, nofun, nofun⟩
    rintro _ ⟨⟩
    exact ⟨rfl, rfl, .inl ⟨hd, data, rfl⟩⟩
  · refine ⟨?_, nofun, nofun, nofun, nofun⟩
    rintro _ ⟨⟩
    exact ⟨rfl, rfl, .inr ⟨hd, rfl⟩⟩

theorem ClientEffect.reports (h : ClientEffect c f now r c') (hc : c.Sound) : c.Reports c' r := by
  cases h with
  | unchanged => exact c.reports_self
  | finished _ hr => exact SdoClient.reports_clearTransfer hr
  | aborted hst => exact hc.reports_abortWith hst _
  | continued _ ht ht' hd =>
    refine ⟨nofun, nofun, nofun, nofun, ?_⟩
    intro _
    exact ⟨ht'.trans ht.symm, hd⟩

/-- **A call leaves the client as its result says.** -/
theorem CallStep.reports (h : CallStep tgt c a (.returned r) c') (hc : c.Sound) :
    c.Reports c' r := by
  cases h with
  | early => exact c.reports_self
  | expired hdue =>
    obtain ⟨t, ht, -⟩ := hdue
    -- a deadline is set, so a transfer is in flight
    refine hc.reports_abortWith ?_ _
    intro hst
    rw [hc.deadline.mp hst] at ht
    cases ht
  | frame hf => exact hf.effect.reports hc

end Reports

/-! ### Every reachable state -/

/-- An upload starts exactly if the client is idle and the node valid; otherwise nothing
changes. -/
theorem SdoClient.beginUpload_spec (c : SdoClient) (nodeId : UInt8) (idx : UInt16) (sub : UInt8)
    (now : UInt64) :
    ((c.beginUpload nodeId idx sub now).1 = .ok () ↔
      c.state = .idle ∧ SdoFrame.ValidNode nodeId) ∧
    ∀ err, (c.beginUpload nodeId idx sub now).1 = .error err →
      (c.beginUpload nodeId idx sub now).2 = c := by
  rcases c.beginUpload_cases nodeId idx sub now with ⟨e, hb⟩ | ⟨hv, hc, hb⟩
  · rw [hb]
    refine ⟨iff_of_false nofun ?_, fun _ _ => rfl⟩
    rintro ⟨hc, hv⟩
    cases hb.symm.trans (beginUpload_of_idle hv hc)
  · rw [hb]
    exact ⟨iff_of_true rfl ⟨hc, hv⟩, nofun⟩

/-- A download starts exactly if the client is idle, the node valid and the payload not
empty; otherwise nothing changes. -/
theorem SdoClient.beginDownload_spec (c : SdoClient) (nodeId : UInt8) (idx : UInt16) (sub : UInt8)
    (data : List UInt8) (now : UInt64) :
    ∃ r c', c.beginDownload nodeId idx sub data now = .ok (r, c') ∧
      (r = .ok () ↔ c.state = .idle ∧ SdoFrame.ValidNode nodeId ∧ data ≠ []) ∧
      ∀ err, r = .error err → c' = c := by
  rcases c.beginDownload_cases nodeId idx sub data now with ⟨e, hb⟩ | ⟨hv, hc, hd, hb⟩
  · refine ⟨_, _, hb, iff_of_false nofun ?_, fun _ _ => rfl⟩
    rintro ⟨hc, hv, hd⟩
    cases hb.symm.trans (beginDownload_of_idle hv hc (List.length_pos_iff.mpr hd))
  · exact ⟨_, _, hb, iff_of_true rfl ⟨hc, hv, List.length_pos_iff.mp hd⟩, nofun⟩

/-- **The life cycle of the client.**  In every reachable state: the client is idle exactly
if it has no deadline; a call that starts a transfer succeeds exactly if the client is idle
and its arguments are valid, and changes nothing otherwise; and whatever `handle_frame` or
`handle_timeout` returns, the client is as the result says. -/
theorem client_life_cycle {tgt : Target} {cfg : SdoConfig} {c : SdoClient}
    {h : List (ClientCall × ClientReturn)} (hr : (callMachine tgt).Run (.new cfg) h c) :
    (c.isIdle = true ↔ c.pollTimeout = none) ∧
    (∀ nodeId idx sub now,
      ((c.beginUpload nodeId idx sub now).1 = .ok () ↔
        c.isIdle = true ∧ SdoFrame.ValidNode nodeId) ∧
      ∀ err, (c.beginUpload nodeId idx sub now).1 = .error err →
        (c.beginUpload nodeId idx sub now).2 = c) ∧
    (∀ nodeId idx sub data now, ∃ r c', c.beginDownload nodeId idx sub data now = .ok (r, c') ∧
      (r = .ok () ↔ c.isIdle = true ∧ SdoFrame.ValidNode nodeId ∧ data ≠ []) ∧
      ∀ err, r = .error err → c' = c) ∧
    (∀ now, c.Reports (c.handleTimeout now).2 (c.handleTimeout now).1) ∧
    ∀ f now r c', c.handleFrame tgt f now = .ok (r, c') → c.Reports c' r := by
  have hc := client_sound hr
  have hidle : c.isIdle = true ↔ c.state = .idle := by
    unfold SdoClient.isIdle
    cases c.state <;> simp
  rw [hidle]
  refine ⟨hc.deadline, c.beginUpload_spec, c.beginDownload_spec, ?_, ?_⟩
  · intro now
    have hstep : CallStep tgt c (.handleTimeout now) _ _ := callStep_of_step rfl
    exact hstep.reports hc
  · intro f now r c' hf
    have hstep : CallStep tgt c (.handleFrame f now) (.returned r) c' :=
      .frame (SdoClient.handleFrame_eq_ok_iff.mp hf)
    exact hstep.reports hc

/-- A read of 0x2000/0 has been started, and the server has announced eight bytes. -/
def announcedRead : List (ClientCall × ClientReturn) × SdoClient :=
  ((callMachine .bits64).exec (.new .default) [.beginUpload 0x10 0x2000 0 0, .pollTransmit,
    .handleFrame ⟨0x590, ⟨[0x41, 0, 0x20, 0, 8, 0, 0, 0], rfl⟩⟩ 5]).get rfl

theorem run_announcedRead :
    (callMachine .bits64).Run (.new .default) announcedRead.1 announcedRead.2 :=
  Machine.run_exec_get _

/-- The read is in flight, and when it times out its abort is pending. -/
theorem client_life_cycle_announcedRead :
    announcedRead.2.pollTimeout = some 150000005 ∧
      (announcedRead.2.handleTimeout 150000005).1 = .error (.clientAborted .protocolTimeout) ∧
        announcedRead.2.Reports (announcedRead.2.handleTimeout 150000005).2
          (announcedRead.2.handleTimeout 150000005).1 :=
  ⟨by decide +kernel, by decide +kernel,
    (client_life_cycle run_announcedRead).2.2.2.1 150000005⟩

end CanopenSdo
