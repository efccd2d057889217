/-!
# Electing the clean-up worker

One worker at a time sweeps up after crashed workers. The duty stays with its holder while
the holder accepts new work; otherwise it moves to the accepting worker that will stay
longest, and with no candidate it is cleared until one starts.
-/

namespace Foreman

/-- The holder of the clean-up duty after an election, from the current holder `cur` (0 for
none), whether a worker accepts new work, and the accepting worker that will stay longest
(0 for none); `none` when the holder does not change. -/
def electCleanup (cur : Int) (isAcceptable : Int → Bool) (longest : Int) : Option Int :=
  if cur != 0 && isAcceptable cur then none
  else if longest == cur then none
  else some longest

end Foreman
