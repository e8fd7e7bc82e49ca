import CanopenSdo.Answer
import CanopenSdo.Reception

/-!
# What the server reads out

A segmented read is served from the buffer the dictionary filled when it was opened:
whatever the dictionary does afterwards, the segments are those of that value.

As for the writes, the statement is about what the server has heard: an init upload that
made the dictionary return a value, and after it nothing but segment requests with
alternating toggles (`Serving`).

## Main definitions

* `Serving` — a read is under way.
* `Reading` — what the server remembers of it.

## Main results

* `ServerStep.reading_iff` — a step changes what the server remembers as the frame
  changes the history.
* `snapshot_served` — **every segment is the next piece of the value that was read.**
-/

namespace CanopenSdo

open Wire

variable {N : ℕ} {σ : Type}

/-! ### A read that is under way -/

namespace Heard

/-- An init upload that made the dictionary return a value that is sent in segments. -/
def OpensUpload (N : ℕ) : Heard → Prop
  | .frame f calls => f.cs = ccsInitUpload ∧ ∃ len, ∃ buf : Bytes N,
      calls = [.read (indexOf f.data) (subindexOf f.data) (.ok len) buf.data] ∧ len ≤ N ∧
        (len = 0 ∨ 4 < len)
  | .timedOut => False

/-- The value the dictionary returned. -/
def value : Heard → List UInt8
  | .frame _ [.read _ _ (.ok len) buf] => buf.take len
  | _ => []

/-- The next segment request of a read, with the toggle of its position, after which the
value still has more to send. -/
def ContinuesUpload (init : Heard) (parts : List Heard) : Heard → Prop
  | .frame f _ => f.cs = ccsUploadSegment ∧ f.toggle = alternate parts.length ∧
      parts.length + 1 < pieces 7 init.value.length
  | .timedOut => False

end Heard

/-- The value `v`, read for the init upload `f`, is being served: since `f`, the server
has heard `k` segment requests with alternating toggles and nothing else, and the final
one is still to come. -/
def Serving (N : ℕ) (l : List Heard) (f : SdoFrame) (v : List UInt8) (k : ℕ) : Prop :=
  ∃ len, ∃ buf : Bytes N, ∃ parts,
    Since (Heard.OpensUpload N) Heard.ContinuesUpload l
      (.frame f [.read (indexOf f.data) (subindexOf f.data) (.ok len) buf.data]) parts ∧
        v = buf.data.take len ∧ k = parts.length

/-- What the server remembers of a read. -/
structure Reading where
  idx : UInt16
  sub : UInt8
  value : List UInt8
  sent : ℕ
  /-- The toggle of the next request. -/
  toggle : Bool

/-- What is to be remembered after `k` segments of the value read for `f`. -/
def Reading.after (f : SdoFrame) (v : List UInt8) (k : ℕ) : Reading :=
  ⟨indexOf f.data, subindexOf f.data, v, 7 * k, alternate k⟩

/-- What the server remembers of a read. -/
def ServerState.reading : ServerState N → Option Reading
  | .uploading idx sub buf len sent toggle => some ⟨idx, sub, buf.data.take len, sent, toggle⟩
  | _ => none

/-! ### One more frame -/

/-- The frame opens the read `y`. -/
def SdoFrame.OpensReading (N : ℕ) (f : SdoFrame) (calls : List OdCall) (y : Reading) : Prop :=
  f.cs = ccsInitUpload ∧ ∃ len, ∃ buf : Bytes N,
    calls = [.read (indexOf f.data) (subindexOf f.data) (.ok len) buf.data] ∧ len ≤ N ∧
      (len = 0 ∨ 4 < len) ∧ y = .after f (buf.data.take len) 0

/-- The frame takes the read `z` on, to `y`. -/
def SdoFrame.ContinuesReading (f : SdoFrame) (z y : Reading) : Prop :=
  f.cs = ccsUploadSegment ∧ f.toggle = z.toggle ∧ z.sent + 7 < z.value.length ∧
    y = { z with sent := z.sent + 7, toggle := !z.toggle }

theorem serving_append_frame {l : List Heard} {f : SdoFrame} {calls : List OdCall} {y : Reading} :
    (∃ g v k, Serving N (l ++ [.frame f calls]) g v k ∧ y = .after g v k) ↔
      f.OpensReading N calls y ∨
        ∃ z, (∃ g v k, Serving N l g v k ∧ z = .after g v k) ∧ f.ContinuesReading z y := by
  constructor
  · rintro ⟨g, v, k, ⟨len, buf, parts, hsince, rfl, rfl⟩, rfl⟩
    rcases since_append_singleton.mp hsince with ⟨ho, heq, rfl⟩ | ⟨ps, rfl, hs, hcs, ht, hlt⟩
    · -- the frame is the init upload itself
      cases heq
      obtain ⟨hcs, len', buf', hcalls, hlen, h⟩ := ho
      have hboth : len = len' ∧ buf.data = buf'.data := by simpa using hcalls
      obtain ⟨rfl, -⟩ := hboth
      exact .inl ⟨hcs, len, buf, rfl, hlen, h, rfl⟩
    · refine .inr ⟨_, ⟨g, _, _, ⟨len, buf, ps, hs, rfl, rfl⟩, rfl⟩, hcs, ht, ?_, ?_⟩
      · exact (succ_lt_pieces (by decide)).mp hlt
      · simp [Reading.after, Nat.mul_succ]
  · rintro (⟨hcs, len, buf, rfl, hlen, h, rfl⟩ |
      ⟨z, ⟨g, v, k, ⟨len, buf, parts, hs, rfl, rfl⟩, rfl⟩, hcs, ht, hlt, rfl⟩)
    · have ho : Heard.OpensUpload N
          (.frame f [.read (indexOf f.data) (subindexOf f.data) (.ok len) buf.data]) :=
        ⟨hcs, len, buf, rfl, hlen, h⟩
      exact ⟨f, _, 0, ⟨len, buf, [], since_opened ho, rfl, rfl⟩, rfl⟩
    · have hnext : Heard.ContinuesUpload
          (.frame g [.read (indexOf g.data) (subindexOf g.data) (.ok len) buf.data]) parts
          (.frame f calls) :=
        ⟨hcs, ht, (succ_lt_pieces (by decide)).mpr hlt⟩
      refine ⟨g, _, _, ⟨len, buf, _, hs.next hnext, rfl, rfl⟩, ?_⟩
      simp [Reading.after, Nat.mul_succ]

theorem not_serving_append_timedOut {l : List Heard} {g : SdoFrame} {v : List UInt8} {k : ℕ} :
    ¬ Serving N (l ++ [.timedOut]) g v k := by
  rintro ⟨len, buf, parts, hsince, -, -⟩
  rcases since_append_singleton.mp hsince with ⟨ho, -⟩ | ⟨ps, -, -, hc⟩
  · exact ho
  · exact hc

/-! ### The server's side -/

section Server

variable {od : ObjectDictionary σ} {s s' : SdoServer N} {o o' : σ} {f g : SdoFrame} {now : UInt64}
  {r : SdoResult Unit} {calls : List OdCall}

theorem ServerState.reading_eq_some {st : ServerState N} {z : Reading} (h : st.reading = some z)
    (hst : st.InRange) : ∃ buf : Bytes N,
      st = .uploading z.idx z.sub buf z.value.length z.sent z.toggle ∧
        buf.data.take z.value.length = z.value ∧ z.sent ≤ z.value.length ∧ z.value.length ≤ N := by
  cases st with
  | idle => cases h
  | downloading => cases h
  | uploading idx sub buf len sent toggle =>
    obtain rfl := Option.some.inj h
    have hlen : (buf.data.take len).length = len := buf.length_take hst.2
    exact ⟨buf, by rw [hlen], by rw [hlen], hst.1.trans_eq hlen.symm, hlen.trans_le hst.2⟩

/-- The init upload of a value that is sent in segments. -/
theorem ServerStep.reading_of_opens
    (h : ServerStep od.recording s f now (o, []) r s' (o', calls)) (ha : s.Addressed f)
    {y : Reading} (hy : f.OpensReading N calls y) : s'.state.reading = some y := by
  obtain ⟨hcs, len, buf, hcalls, hlen, hsize, rfl⟩ := hy
  -- the exit depends on what the dictionary returns, and the call that is recorded tells it
  rcases hread : od.read o (indexOf f.data) (subindexOf f.data) (Bytes.zero N)
    with ⟨code | len', buf', o₁⟩
  · obtain ⟨-, -, heq⟩ := h.unique (.initUploadRefused ha hcs (od.read_recording hread []))
    cases heq
    simp at hcalls
  · obtain ⟨heq₁, heq₂⟩ : calls = [.read (indexOf f.data) (subindexOf f.data) (.ok len') buf'.data]
        ∧ od.recording.read (o, []) (indexOf f.data) (subindexOf f.data) (Bytes.zero N)
          = (.ok len', buf', (o₁, calls)) := by
      have hr := od.read_recording hread []
      rcases Nat.lt_or_ge N len' with hN | hN
      · obtain ⟨-, -, heq⟩ := h.unique (.initUploadTooLarge ha hcs hr hN)
        cases heq
        exact ⟨rfl, hr⟩
      · by_cases h₄ : 1 ≤ len' ∧ len' ≤ 4
        · obtain ⟨-, -, heq⟩ := h.unique (.initUploadExpedited ha hcs hr hN h₄)
          cases heq
          exact ⟨rfl, hr⟩
        · obtain ⟨-, -, heq⟩ := h.unique (.initUploadSegmented ha hcs hr hN h₄)
          cases heq
          exact ⟨rfl, hr⟩
    rw [heq₁] at hcalls
    simp only [List.cons.injEq, OdCall.read.injEq, Except.ok.injEq, true_and, and_true] at hcalls
    obtain ⟨rfl, hbuf⟩ := hcalls
    obtain rfl : buf' = buf := Bytes.ext hbuf
    have hseg : ¬ (1 ≤ len' ∧ len' ≤ 4) := by omega
    obtain ⟨-, rfl, -⟩ := h.unique (.initUploadSegmented ha hcs heq₂ hlen hseg)
    rfl

/-- **A step changes what the server remembers as the frame changes the history.** -/
theorem ServerStep.reading_iff (h : ServerStep od.recording s f now (o, []) r s' (o', calls))
    (ha : s.Addressed f) (hs : s.state.InRange) {y : Reading} :
    s'.state.reading = some y ↔
      f.OpensReading N calls y ∨ ∃ z, s.state.reading = some z ∧ f.ContinuesReading z y := by
  constructor
  · intro hy
    cases h with
    | ignored hna => exact absurd ha hna
    | @initUploadSegmented _ hcs len buf _ hr hlen h₄ =>
      obtain rfl := Option.some.inj hy
      simp only [ObjectDictionary.recording, List.nil_append, Prod.mk.injEq] at hr
      obtain ⟨hlen', rfl, -, rfl⟩ := hr
      exact .inl ⟨hcs, len, _, by rw [hlen'], hlen, by omega, rfl⟩
    | @uploadSegmentMore _ hcs idx sub buf len sent toggle hst ht hlt =>
      obtain rfl := Option.some.inj hy
      rw [hst] at hs
      have hlen : (buf.data.take len).length = len := buf.length_take hs.2
      exact .inr ⟨_, by rw [hst]; rfl, hcs, ht, hlt.trans_eq hlen.symm, rfl⟩
    | _ => cases hy
  · rintro (hy | ⟨z, hz, hcs, ht, hlt, rfl⟩)
    · exact h.reading_of_opens ha hy
    · obtain ⟨buf, hst, hbuf, -, hN⟩ := ServerState.reading_eq_some hz hs
      obtain ⟨-, rfl, -⟩ := h.unique (.uploadSegmentMore ha hcs hst ht hlt (by omega))
      show some _ = some _
      rw [hbuf]

/-- The piece of a value, cut out of the buffer that holds it. -/
theorem piece_take (buf : List UInt8) (len k : ℕ) :
    piece 7 (buf.take len) k = (buf.drop (7 * k)).take (min 7 (len - 7 * k)) := by
  rw [piece, List.drop_take, List.take_take]

/-- **The expected segment request is answered with the next piece.** -/
theorem exists_segmentAnswer {v : List UInt8} {k : ℕ} (hs : s.state.InRange) (ha : s.Addressed f)
    (hz : s.state.reading = some (.after g v k)) (hcs : f.cs = ccsUploadSegment)
    (ht : f.toggle = alternate k) :
    ∃ s', ServerStep od.recording s f now (o, []) (.ok ()) s' (o, []) ∧
      s'.pendingTx = some (uploadSegment s.cfg.nodeId v k) ∧
        (v.length ≤ 7 * (k + 1) → s'.state = .idle) := by
  obtain ⟨buf, hst, hbuf, hsent, hN⟩ := ServerState.reading_eq_some hz hs
  change s.state = .uploading _ _ buf v.length (7 * k) (alternate k) at hst
  change buf.data.take v.length = v at hbuf
  change 7 * k ≤ v.length at hsent
  change v.length ≤ N at hN
  have hpiece := piece_take buf.data v.length k
  rw [hbuf] at hpiece
  -- more than seven bytes are left, or this is the last segment
  rcases Nat.lt_or_ge (7 * k + 7) v.length with hlt | hle
  · have hmin : min 7 (v.length - 7 * k) = 7 := by omega
    have hlast : ¬ v.length ≤ 7 * (k + 1) := by omega
    refine ⟨_, .uploadSegmentMore ha hcs hst ht hlt (by omega), ?_, fun h => absurd h hlast⟩
    rw [uploadSegment, hpiece, hmin, decide_eq_false hlast]
    rfl
  · have hmin : min 7 (v.length - 7 * k) = v.length - 7 * k := by omega
    have hlast : v.length ≤ 7 * (k + 1) := by omega
    refine ⟨_, .uploadSegmentLast ha hcs hst ht hsent hle hN, ?_, fun _ => rfl⟩
    rw [uploadSegment, hpiece, hmin, decide_eq_true hlast]
    rfl

/-- A segment request with the wrong toggle is answered with an abort of the object. -/
theorem exists_toggleAbort {v : List UInt8} {k : ℕ} (ha : s.Addressed f)
    (hs : s.state.InRange) (hz : s.state.reading = some (.after g v k))
    (hcs : f.cs = ccsUploadSegment) (ht : f.toggle ≠ alternate k) :
    ∃ s', ServerStep od.recording s f now (o, []) (.error (.clientAborted .toggleBitNotAlternated))
        s' (o, []) ∧
      s'.pendingTx = some (serverAbort s.cfg.nodeId (indexOf g.data) (subindexOf g.data)
        .toggleBitNotAlternated) ∧ s'.state = .idle := by
  obtain ⟨buf, hst, -⟩ := ServerState.reading_eq_some hz hs
  exact ⟨_, .uploadSegmentToggle ha hcs hst ht, rfl, rfl⟩

/-- A server that answers with a segment was in the middle of a read. -/
theorem ServerStep.reading_of_segment
    (h : ServerStep od s f now o r s' o') (ha : s.Addressed f) {x : SdoFrame}
    (hx : s'.pendingTx = some x) (hcs : x.cs = scsUploadSegment) :
    f.cs = ccsUploadSegment ∧ ∃ z, s.state.reading = some z ∧ f.toggle = z.toggle := by
  have hf : f.cs = ccsUploadSegment ∧ r = .ok () := by
    rcases h.answer ha with ⟨-, rfl⟩ | ⟨idx, sub, code, -, rfl⟩ | ⟨hr, data, htx, hans⟩
    · cases hx
    · obtain rfl := Option.some.inj hx
      exact absurd ((SdoFrame.cs_abort _ idx sub code).symm.trans hcs) (by decide)
    · obtain rfl := Option.some.inj (htx.symm.trans hx)
      exact ⟨(hans.uploadSegment_of_cs hcs).1, hr⟩
  obtain ⟨hf, rfl⟩ := hf
  refine ⟨hf, ?_⟩
  -- without a read the request is refused, and so it is with the wrong toggle
  cases hst : s.state with
  | uploading idx sub buf len sent toggle =>
    by_cases ht : f.toggle = toggle
    · exact ⟨_, rfl, ht⟩
    · cases (h.unique (.uploadSegmentToggle ha hf hst ht)).1
  | idle => cases (h.unique (.uploadSegmentUnexpected ha hf (by simp [hst]))).1
  | downloading => cases (h.unique (.uploadSegmentUnexpected ha hf (by simp [hst]))).1

end Server

/-! ### Runs -/

section Runs

variable {od : ObjectDictionary σ} {s s' : SdoServer N} {o₀ o o' : σ} {cfg : ServerConfig}
  {h : List (ServerAction σ × ServerEvent)} {f : SdoFrame} {now : UInt64}

/-- What holds along every run: the server remembers the read that is under way, and only
frames that are no segment requests make it call the dictionary. -/
structure Served (cfg : ServerConfig) (h : List (ServerAction σ × ServerEvent))
    (s : SdoServer N) : Prop where
  cfg_eq : s.cfg = cfg
  inRange : s.state.InRange
  reading : ∀ y, s.state.reading = some y ↔
    ∃ g v k, Serving N (heard cfg.nodeId h) g v k ∧ y = .after g v k
  calls : ∀ x ∈ h, x.2.calls ≠ [] →
    ∃ g calls, heardIn cfg.nodeId x = some (.frame g calls) ∧ g.cs ≠ ccsUploadSegment

/-- A segment request makes no call. -/
theorem ServerStep.calls_uploadSegment {r : SdoResult Unit} {calls : List OdCall}
    (hf : ServerStep od.recording s f now (o, []) r s' (o', calls)) (ha : s.Addressed f)
    (hcs : f.cs = ccsUploadSegment) : calls = [] := by
  -- `onUploadSegment` is not even given the dictionary
  have heq := hf.handleFrame_eq
  rw [handleFrame_of_cs_uploadSegment ha hcs] at heq
  obtain ⟨x, -, hx⟩ := Checked.eq_ok_of_map heq
  cases hx
  rfl

/-- The server remembers the read that is under way. -/
theorem reading_run (hr : (serverMachine N od).Run (.new cfg, o₀) h (s, o)) (y : Reading) :
    s.state.reading = some y ↔
      ∃ g v k, Serving N (heard cfg.nodeId h) g v k ∧ y = .after g v k := by
  refine server_remembers (V := ServerState.reading)
    (R := fun l y => ∃ g v k, Serving N l g v k ∧ y = .after g v k) rfl ?_ ?_ ?_ hr y
  · rintro y ⟨g, v, k, ⟨len, buf, parts, hsince, -⟩, -⟩
    exact not_since_nil hsince
  · rintro l y ⟨g, v, k, hserving, -⟩
    exact not_serving_append_timedOut hserving
  · intro l s s' f now o r o' calls ha hin hstep hl y
    rw [hstep.reading_iff ha hin, serving_append_frame]
    simp only [hl]

/-- Only frames that are no segment requests have made the server call the dictionary. -/
theorem called_run (hr : (serverMachine N od).Run (.new cfg, o₀) h (s, o)) :
    ∀ x ∈ h, x.2.calls ≠ [] →
      ∃ g calls, heardIn cfg.nodeId x = some (.frame g calls) ∧ g.cs ≠ ccsUploadSegment := by
  generalize hx : (s, o) = x at hr
  induction hr generalizing s o with
  | start => exact fun x hmem => (by cases hmem)
  | @snoc h x₁ x a e hr hstep ih =>
    obtain ⟨s₁, o₁⟩ := x₁
    subst hx
    intro x hmem hne
    rcases List.mem_append.mp hmem with hmem | hmem
    · exact ih rfl x hmem hne
    · obtain rfl := List.mem_singleton.mp hmem
      obtain ⟨rfl, -⟩ := server_inRange hr
      rcases serverStep_cases hstep with ⟨-, -, -, hnil⟩ | ⟨-, -, -, hnil⟩ |
        ⟨f, now, r, calls, -, rfl, ha, hh, -, hframe⟩
      · exact absurd hnil hne
      · exact absurd hnil hne
      · refine ⟨f, calls, hh, ?_⟩
        intro hcs
        exact hne (hframe.calls_uploadSegment ha hcs)

theorem served_run (hr : (serverMachine N od).Run (.new cfg, o₀) h (s, o)) : Served cfg h s where
  cfg_eq := (server_inRange hr).1
  inRange := (server_inRange hr).2
  reading := reading_run hr
  calls := called_run hr

/-- A segment the server answers with is the next piece of a read that is under way. -/
theorem serving_of_segment (hr : (serverMachine N od).Run (.new cfg, o₀) h (s, o))
    (ha : s.Addressed f) {r : SdoResult Unit} {calls : List OdCall} {o' : σ}
    (hf : ServerStep od.recording s f now (o, []) r s' (o', calls)) {x : SdoFrame}
    (hx : s'.pendingTx = some x) (hcs : x.cs = scsUploadSegment) :
    ∃ g v k, Serving N (heard cfg.nodeId h) g v k ∧ x = uploadSegment cfg.nodeId v k := by
  obtain ⟨rfl, hin, hreading, -⟩ := served_run hr
  obtain ⟨hcs', z, hz, ht⟩ := hf.reading_of_segment ha hx hcs
  obtain ⟨g, v, k, hv, rfl⟩ := (hreading z).mp hz
  obtain ⟨s₁, hstep₁, htx, -⟩ := exists_segmentAnswer hin ha hz hcs' ht
  obtain ⟨-, rfl, -⟩ := hf.unique hstep₁
  exact ⟨g, v, k, hv, Option.some.inj (hx.symm.trans htx)⟩

/-- **Every segment is the next piece of the value that was read.**  After any run, let a
frame arrive for the node.  If a read is under way and the frame is its next segment
request, then it is answered with the next piece, or with an abort of the read when the
toggle is wrong, and the dictionary is not called.  Conversely whatever segment the frame
is answered with is the next piece of a read that is under way.  And nothing but a frame
that is no segment request ever makes the server call the dictionary. -/
theorem snapshot_served (hr : (serverMachine N od).Run (.new cfg, o₀) h (s, o))
    (hf : SdoFrame.nodeOfRsdo f.cobId = some cfg.nodeId) :
    (∀ g v k, Serving N (heard cfg.nodeId h) g v k → f.cs = ccsUploadSegment →
      (f.toggle = alternate k → ∃ s',
        (serverMachine N od).step (s, o) (.handleFrame f now) = some (.handled (.ok ()) [], (s', o)) ∧
          s'.pendingTx = some (uploadSegment cfg.nodeId v k) ∧
            (v.length ≤ 7 * (k + 1) → s'.state = .idle)) ∧
      (f.toggle ≠ alternate k → ∃ s',
        (serverMachine N od).step (s, o) (.handleFrame f now)
          = some (.handled (.error (.clientAborted .toggleBitNotAlternated)) [], (s', o)) ∧
          s'.pendingTx = some (serverAbort cfg.nodeId (indexOf g.data) (subindexOf g.data)
            .toggleBitNotAlternated) ∧ s'.state = .idle)) ∧
    (∀ r calls s' o' x,
      (serverMachine N od).step (s, o) (.handleFrame f now) = some (.handled r calls, (s', o')) →
        s'.pendingTx = some x → x.cs = scsUploadSegment →
          ∃ g v k, Serving N (heard cfg.nodeId h) g v k ∧ x = uploadSegment cfg.nodeId v k) ∧
    ∀ x ∈ h, x.2.calls ≠ [] →
      ∃ g calls, heardIn cfg.nodeId x = some (.frame g calls) ∧ g.cs ≠ ccsUploadSegment := by
  obtain ⟨rfl, hin, hreading, hcalls⟩ := served_run hr
  have ha : s.Addressed f := hf
  refine ⟨fun g v k hv hcs => ⟨?_, ?_⟩, ?_, hcalls⟩
  · intro ht
    have hz := (hreading _).mpr ⟨g, v, k, hv, rfl⟩
    obtain ⟨s', hstep, htx, hlast⟩ := exists_segmentAnswer hin ha hz hcs ht
    exact ⟨s', serverStep_handleFrame_iff.mpr hstep, htx, hlast⟩
  · intro ht
    have hz := (hreading _).mpr ⟨g, v, k, hv, rfl⟩
    obtain ⟨s', hstep, htx, hst⟩ := exists_toggleAbort ha hin hz hcs ht
    exact ⟨s', serverStep_handleFrame_iff.mpr hstep, htx, hst⟩
  · intro r calls s' o' x hstep hx hcs
    exact serving_of_segment hr ha (serverStep_handleFrame_iff.mp hstep) hx hcs

end Runs

/-! ### A run -/

/-- An object of 8 bytes is read; after its first segment the dictionary is emptied. -/
def emptiedOd : List (ServerAction (List (UInt16 × UInt8 × List UInt8)) × ServerEvent)
    × (SdoServer 16 × List (UInt16 × UInt8 × List UInt8)) :=
  ((serverMachine 16 loopOd).exec (.new (.new 0x10), counting)
    [.handleFrame (initUploadRequest 0x10 0x2000 0) 0, .pollTransmit,
      .handleFrame (segmentRequest 0x10 0) 1, .pollTransmit, .odChange []]).get rfl

theorem run_emptiedOd :
    (serverMachine 16 loopOd).Run (.new (.new 0x10), counting) emptiedOd.1 emptiedOd.2 :=
  Machine.run_exec_get _

theorem serving_emptiedOd : Serving 16 (heard 0x10 emptiedOd.1) (initUploadRequest 0x10 0x2000 0)
    [1, 2, 3, 4, 5, 6, 7, 8] 1 := by
  let buf : Bytes 16 := ⟨[1, 2, 3, 4, 5, 6, 7, 8, 0, 0, 0, 0, 0, 0, 0, 0], rfl⟩
  let init : Heard := .frame (initUploadRequest 0x10 0x2000 0) [.read 0x2000 0 (.ok 8) buf.data]
  have hopened : Since (Heard.OpensUpload 16) Heard.ContinuesUpload ([] ++ [init]) init [] :=
    since_opened ⟨by decide, 8, buf, rfl, by decide, by decide⟩
  have hnext : Heard.ContinuesUpload init [] (.frame (segmentRequest 0x10 0) []) :=
    ⟨by decide, by decide, by decide +kernel⟩
  exact ⟨8, buf, _, hopened.next hnext, rfl, rfl⟩

/-- The second segment is still that of the value that was read. -/
theorem snapshot_served_emptiedOd :
    ∃ s', (serverMachine 16 loopOd).step emptiedOd.2 (.handleFrame (segmentRequest 0x10 1) 2)
        = some (.handled (.ok ()) [], (s', [])) ∧
      s'.pendingTx = some (uploadSegment 0x10 [1, 2, 3, 4, 5, 6, 7, 8] 1) := by
  have hf : SdoFrame.nodeOfRsdo (segmentRequest 0x10 1).cobId = some (ServerConfig.new 0x10).nodeId :=
    by decide
  obtain ⟨s', hstep, htx, -⟩ := ((snapshot_served run_emptiedOd hf).1 _ _ _ serving_emptiedOd
    (by decide)).1 (by decide)
  exact ⟨s', hstep, htx⟩

end CanopenSdo
