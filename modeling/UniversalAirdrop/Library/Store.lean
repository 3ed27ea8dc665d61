/-
This file is a small library for stores that keep the last value put under each
key. After a sequence of puts, a key holds the value of its last put, or what it
held before if there is none.
-/

import Mathlib.Data.List.Basic
import Mathlib.Data.List.Induction
import Mathlib.Logic.Function.Basic

namespace Stores

variable {Key Value : Type} [DecidableEq Key]

end Stores
