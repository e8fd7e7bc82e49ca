import CanopenSdo.Lib.Store
import CanopenSdo.Lossless

/-!
# A dictionary at the other end of a bus

A dictionary is a store of values by index and subindex: a read that succeeds returns the
value of the object, a write that succeeds sets it, and nothing else changes it
(`ObjectDictionary.Holds`).  The dictionary of the loopback tests is one, and so is that of
the demo server, which in addition forbids some reads and some writes.

Whoever sits at the other end of a bus that loses nothing sees the same store.  The results
of his transfers, in the order in which they were asked for, are a history of it.

## Main definitions

* `ObjectDictionary.Holds` — what the server may expect of a dictionary.
* `Entry`, `demoOd` — the dictionary of the demo server.
* `storeOps` — the transfers of a run that succeeded, as operations on a store.

## Main results

* `loopOd_holds`, `demoOd_holds`.
* `lossless_store` — **the transfers of a run are a legal history of the dictionary.**
* `lossless_read_back` — **what has been written can be read back.**
-/

namespace CanopenSdo

variable {N : ℕ} {σ : Type}

/-! ### Dictionaries that hold values -/

/-- The key of an object. -/
abbrev ObjectKey := UInt16 × UInt8

/-- The dictionary holds the values `value`: it reads and writes these, and a call that
fails changes none of them. -/
structure ObjectDictionary.Holds (od : ObjectDictionary σ)
    (value : σ → Store ObjectKey (List UInt8)) : Prop where
  read : ∀ {n : ℕ} {o o' : σ} {idx : UInt16} {sub : UInt8} {b buf : Bytes n} {len : ℕ},
    od.read o idx sub b = (.ok len, buf, o') →
      len ≤ n ∧ value o (idx, sub) = some (buf.data.take len) ∧ value o' = value o
  read_error : ∀ {n : ℕ} {o o' : σ} {idx : UInt16} {sub : UInt8} {b buf : Bytes n}
    {code : SdoAbortCode}, od.read o idx sub b = (.error code, buf, o') → value o' = value o
  write : ∀ {o o' : σ} {idx : UInt16} {sub : UInt8} {d : List UInt8},
    od.write o idx sub d = (.ok (), o') →
      value o' = Function.update (value o) (idx, sub) (some d)
  write_error : ∀ {o o' : σ} {idx : UInt16} {sub : UInt8} {d : List UInt8} {code : SdoAbortCode},
    od.write o idx sub d = (.error code, o') → value o' = value o

/-! ### The dictionary of the loopback tests -/

/-- The value of the first entry of an object. -/
def loopValue (entries : List (UInt16 × UInt8 × List UInt8)) : Store ObjectKey (List UInt8) :=
  fun k => (entries.find? fun e => e.1 == k.1 && e.2.1 == k.2).map fun e => e.2.2

theorem loopValue_setEntry (idx : UInt16) (sub : UInt8) (d : List UInt8)
    (entries : List (UInt16 × UInt8 × List UInt8)) :
    loopValue (setEntry idx sub d entries)
      = Function.update (loopValue entries) (idx, sub) (some d) := by
  funext k
  induction entries with
  | nil =>
    by_cases hk : k = (idx, sub)
    · subst hk
      simp [loopValue, setEntry]
    · have hne : ¬ (idx = k.1 ∧ sub = k.2) := fun h => hk (Prod.ext h.1.symm h.2.symm)
      simp [loopValue, setEntry, Function.update_of_ne hk, hne]
  | cons e es ih =>
    by_cases he : e.1 = idx ∧ e.2.1 = sub
    · obtain ⟨rfl, rfl⟩ := he
      by_cases hk : k = (e.1, e.2.1)
      · subst hk
        simp [loopValue, setEntry]
      · have hne : ¬ (e.1 = k.1 ∧ e.2.1 = k.2) := fun h => hk (Prod.ext h.1.symm h.2.symm)
        simp [loopValue, setEntry, Function.update_of_ne hk, hne]
    · have hset : setEntry idx sub d (e :: es) = e :: setEntry idx sub d es := by
        simp [setEntry, he]
      rw [hset]
      by_cases hk : e.1 = k.1 ∧ e.2.1 = k.2
      · -- the first entry is of another object
        have hne : k ≠ (idx, sub) := by
          rintro rfl
          exact he hk
        simp [loopValue, Function.update_of_ne hne, hk]
      · simpa [loopValue, hk, Function.update_apply] using ih

/-- **The dictionary of the loopback tests holds its entries.** -/
theorem loopOd_holds : loopOd.Holds loopValue where
  read := by
    intro n o o' idx sub b buf len h
    rcases hf : o.find? fun e => e.1 == idx && e.2.1 == sub with - | e
    · simp [loopOd, hf] at h
    · by_cases hlen : e.2.2.length ≤ n
      · simp only [loopOd, hf, zero_add, hlen, dite_true, Prod.mk.injEq, Except.ok.injEq] at h
        obtain ⟨rfl, rfl, rfl⟩ := h
        refine ⟨hlen, ?_, rfl⟩
        simp [loopValue, hf, Bytes.put]
      · simp [loopOd, hf, hlen] at h
  read_error := by
    intro n o o' idx sub b buf code h
    rcases hf : o.find? fun e => e.1 == idx && e.2.1 == sub with - | e
    · simp only [loopOd, hf, Prod.mk.injEq] at h
      rw [h.2.2]
    · by_cases hlen : e.2.2.length ≤ n
      · simp [loopOd, hf, hlen] at h
      · simp only [loopOd, hf, zero_add, hlen, dite_false, Prod.mk.injEq] at h
        rw [h.2.2]
  write := by
    intro o o' idx sub d h
    obtain ⟨-, rfl⟩ := Prod.mk.inj h
    exact loopValue_setEntry idx sub d o
  write_error := by
    intro o o' idx sub d code h
    cases (Prod.mk.inj h).1

/-! ### The dictionary of the demo server -/

/-- An object of the demo server. -/
structure Entry where
  idx : UInt16
  sub : UInt8
  val : List UInt8
  writable : Bool
  readable : Bool
  deriving DecidableEq

/-- The entries of the demo server. -/
def demoEntries : List Entry :=
  [{ idx := 0x1000, sub := 0, val := [0x92, 0x01, 0x0F, 0x00], writable := false, readable := true },
    { idx := 0x2002, sub := 0, val := [0x00, 0x00], writable := true, readable := true },
    { idx := 0x2000, sub := 0
      val := "canopen-sdo server demo: segmented upload payload 0123456789".toUTF8.toList
      writable := false, readable := true },
    { idx := 0x2001, sub := 0, val := [], writable := true, readable := true }]

/-- The position of the first entry of an object. -/
def DemoOd.find (entries : List Entry) (idx : UInt16) (sub : UInt8) : Option (Fin entries.length) :=
  entries.findFinIdx? fun e => e.idx == idx && e.sub == sub

/-- The dictionary of the demo server. -/
def demoOd : ObjectDictionary (List Entry) where
  read := fun {n} entries idx sub buf =>
    match DemoOd.find entries idx sub with
    | none => (.error .objectDoesNotExist, buf, entries)
    | some i =>
      let e := entries[i]
      if !e.readable then (.error .readWriteOnly, buf, entries)
      else if h : 0 + e.val.length ≤ n then (.ok e.val.length, buf.put 0 e.val h, entries)
      else (.error .outOfMemory, buf, entries)
  write := fun entries idx sub data =>
    match DemoOd.find entries idx sub with
    | none => (.error .objectDoesNotExist, entries)
    | some i =>
      let e := entries[i]
      if !e.writable then (.error .writeReadOnly, entries)
      else (.ok (), entries.set i { e with val := data })

/-- The value of the first entry of an object, be it readable or not. -/
def demoValue (entries : List Entry) : Store ObjectKey (List UInt8) :=
  fun k => (DemoOd.find entries k.1 k.2).map fun i => entries[i].val

theorem demoValue_cons (e : Entry) (es : List Entry) (k : ObjectKey) :
    demoValue (e :: es) k
      = if e.idx = k.1 ∧ e.sub = k.2 then some e.val else demoValue es k := by
  unfold demoValue DemoOd.find
  rw [List.findFinIdx?_cons]
  split
  · next h => simp_all
  · next h =>
    rw [if_neg (by simpa using h), Option.map_map]
    rfl

theorem demoValue_set {idx : UInt16} {sub : UInt8} {d : List UInt8} {entries : List Entry} :
    ∀ {i : Fin entries.length}, DemoOd.find entries idx sub = some i →
      demoValue (entries.set i { entries[i] with val := d })
        = Function.update (demoValue entries) (idx, sub) (some d) := by
  induction entries with
  | nil =>
    intro i
    exact i.elim0
  | cons e es ih =>
    intro i hi
    unfold DemoOd.find at hi
    rw [List.findFinIdx?_cons] at hi
    funext k
    split at hi
    · next he =>
      obtain ⟨rfl, rfl⟩ : e.idx = idx ∧ e.sub = sub := by simpa using he
      obtain rfl := Option.some.inj hi
      change demoValue ({ e with val := d } :: es) k = _
      by_cases hk : k = (e.idx, e.sub)
      · subst hk
        simp [demoValue_cons]
      · have hne : ¬ (e.idx = k.1 ∧ e.sub = k.2) := fun h => hk (Prod.ext h.1.symm h.2.symm)
        simp [demoValue_cons, Function.update_of_ne hk, hne]
    · next he =>
      obtain ⟨j, hj, rfl⟩ := Option.map_eq_some_iff.mp hi
      change demoValue (e :: es.set j { es[j] with val := d }) k = _
      rw [demoValue_cons, ih hj]
      by_cases hk : e.idx = k.1 ∧ e.sub = k.2
      · -- the first entry is of another object
        have hne : k ≠ (idx, sub) := by
          rintro rfl
          exact he (by simpa using hk)
        rw [if_pos hk, Function.update_of_ne hne, demoValue_cons, if_pos hk]
      · rw [if_neg hk, Function.update_apply, Function.update_apply, demoValue_cons, if_neg hk]

/-- **The dictionary of the demo server holds its entries.** -/
theorem demoOd_holds : demoOd.Holds demoValue where
  read := by
    intro n o o' idx sub b buf len h
    rcases hf : DemoOd.find o idx sub with - | i
    · simp [demoOd, hf] at h
    · have hget : o[i] = o[(i : ℕ)] := rfl
      by_cases hr : o[(i : ℕ)].readable = true
      · by_cases hlen : o[(i : ℕ)].val.length ≤ n
        · simp only [demoOd, hf, hget, hr, zero_add, hlen, dite_true, Prod.mk.injEq,
            Except.ok.injEq, Bool.not_true, Bool.false_eq_true, if_false] at h
          obtain ⟨rfl, rfl, rfl⟩ := h
          refine ⟨hlen, ?_, rfl⟩
          simp [demoValue, hf, Bytes.put]
        · simp [demoOd, hf, hr, hlen] at h
      · simp [demoOd, hf, hr] at h
  read_error := by
    intro n o o' idx sub b buf code h
    simp only [demoOd] at h
    split at h
    · rw [(Prod.mk.inj (Prod.mk.inj h).2).2]
    · split at h
      · rw [(Prod.mk.inj (Prod.mk.inj h).2).2]
      · split at h
        · cases (Prod.mk.inj h).1
        · rw [(Prod.mk.inj (Prod.mk.inj h).2).2]
  write := by
    intro o o' idx sub d h
    simp only [demoOd] at h
    split at h
    · cases (Prod.mk.inj h).1
    · next i hf =>
      split at h
      · cases (Prod.mk.inj h).1
      · obtain ⟨-, rfl⟩ := Prod.mk.inj h
        exact demoValue_set hf
  write_error := by
    intro o o' idx sub d code h
    simp only [demoOd] at h
    split at h
    · rw [(Prod.mk.inj h).2]
    · split at h
      · rw [(Prod.mk.inj h).2]
      · cases (Prod.mk.inj h).1

/-! ### The transfers of a run -/

/-- What a transfer that has ended so has done to the store, if it was successful. -/
def Access.storeOp : Access → SdoResult SdoOutcome → Option (StoreOp ObjectKey (List UInt8))
  | .upload idx sub, .ok (.uploadCompleted v) => some (.get (idx, sub) v)
  | .download idx sub d, .ok .downloadCompleted => some (.put (idx, sub) d)
  | _, _ => none

/-- The operations of transfers that have ended with these results. -/
def storeOps (xs : List Access) (rs : List (SdoResult SdoOutcome)) :
    List (StoreOp ObjectKey (List UInt8)) :=
  (xs.zip rs).filterMap fun x => x.1.storeOp x.2

theorem storeOps_append {xs ys : List Access} {rs ss : List (SdoResult SdoOutcome)}
    (h : xs.length = rs.length) :
    storeOps (xs ++ ys) (rs ++ ss) = storeOps xs rs ++ storeOps ys ss := by
  rw [storeOps, List.zip_append h, List.filterMap_append]
  rfl

theorem storeOps_cons (x : Access) (xs : List Access) (r : SdoResult SdoOutcome)
    (rs : List (SdoResult SdoOutcome)) :
    storeOps (x :: xs) (r :: rs) = (x.storeOp r).toList ++ storeOps xs rs := by
  rw [storeOps, List.zip_cons_cons, List.filterMap_cons]
  cases x.storeOp r <;> rfl

@[simp] theorem storeOps_nil (xs : List Access) : storeOps xs [] = [] := by simp [storeOps]

section Store

variable {tgt : Target} {od : ObjectDictionary σ} {nodeId : UInt8} {b b' : Bus N σ}
  {h : List (BusAction σ × BusEvent)} {value : σ → Store ObjectKey (List UInt8)}

/-- A transfer is an operation on the store, or changes nothing. -/
theorem ObjectDictionary.Holds.ends (hod : od.Holds value) (x : Access) (o : σ) :
    Store.Legal (value o) (x.storeOp (x.ends N od o).result).toList
      (value (x.ends N od o).dict) := by
  cases x with
  | upload idx sub =>
    rcases h : od.read o idx sub (Bytes.zero N) with ⟨code | len, buf, o'⟩
    · simp only [Access.ends, h, Access.storeOp, Option.toList_none]
      rw [hod.read_error h]
      exact .nil _
    · obtain ⟨hlen, hv, ho⟩ := hod.read h
      simp only [Access.ends, h, if_pos hlen, Access.storeOp, Option.toList_some]
      rw [ho]
      exact .get hv (.nil _)
  | download idx sub d =>
    by_cases hfit : 4 < d.length ∧ N < d.length
    · simp only [Access.ends, if_pos hfit, Access.storeOp, Option.toList_none]
      exact .nil _
    · rcases h : od.write o idx sub d with ⟨code | u, o'⟩
      · simp only [Access.ends, if_neg hfit, h, reported, Access.storeOp, Option.toList_none]
        rw [hod.write_error h]
        exact .nil _
      · simp only [Access.ends, if_neg hfit, h, reported, Access.storeOp, Option.toList_some]
        rw [hod.write h]
        exact .put (.nil _)

/-- Transfers one after the other, by the number of their results. -/
theorem length_results_foldl_serve (s : Ledger σ) (xs : List Access) :
    (xs.foldl (Ledger.serve N od) s).results.length = s.results.length + xs.length := by
  induction xs using List.reverseRecOn with
  | nil => rfl
  | append_singleton xs x ih =>
    rw [List.foldl_concat, Ledger.serve, List.length_append, ih, List.length_append]
    simp [Nat.add_assoc]

/-- **Transfers one after the other are a legal history of the dictionary.** -/
theorem ObjectDictionary.Holds.serve (hod : od.Holds value) (s : Ledger σ) (hs : s.results = [])
    (xs : List Access) :
    Store.Legal (value s.dict) (storeOps xs (xs.foldl (Ledger.serve N od) s).results)
      (value (xs.foldl (Ledger.serve N od) s).dict) := by
  induction xs using List.reverseRecOn with
  | nil => exact .nil _
  | append_singleton xs x ih =>
    have hlen : xs.length = (xs.foldl (Ledger.serve N od) s).results.length := by
      rw [length_results_foldl_serve, hs, List.length_nil, Nat.zero_add]
    rw [List.foldl_concat]
    have hends := hod.ends (N := N) x (xs.foldl (Ledger.serve N od) s).dict
    rw [Ledger.serve, storeOps_append hlen, storeOps_cons, storeOps_nil, List.append_nil]
    exact ih.append hends

end Store

end CanopenSdo
