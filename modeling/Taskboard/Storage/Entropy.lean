/-
Sources of random bytes. A source is a stream of calls to come; each call is asked for a number of
bytes and may fail. An interruption makes the next call fail and leaves the stream where it is.
-/

namespace Taskboard

/-- A source of random bytes: what the calls to come answer, by their place and the number of bytes
asked for, none for a failure; and whether the next call is interrupted. -/
structure Entropy where
  calls : Nat → Nat → Option (List UInt8)
  interrupted : Bool

namespace Entropy

/-- Asks for `size` bytes. -/
def draw (source : Entropy) (size : Nat) : Option (List UInt8) × Entropy :=
  if source.interrupted then (none, { source with interrupted := false })
  else (source.calls 0 size, { source with calls := fun place => source.calls (place + 1) })

/-- Makes the next call fail. -/
def interrupt (source : Entropy) : Entropy :=
  { source with interrupted := true }

/-- The source whose calls, counted from one, answer bytes that count up from the number of the call. -/
def counting : Entropy where
  calls place size := some ((List.range size).map fun i => UInt8.ofNat (place + 1 + i))
  interrupted := false

end Entropy

end Taskboard
