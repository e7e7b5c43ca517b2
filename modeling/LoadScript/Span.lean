set_option autoImplicit false
set_option relaxedAutoImplicit false

namespace LoadScript

/-- The bytes from `start` up to, but without, `stop`. -/
structure Span where
  start : Nat
  stop : Nat
  deriving DecidableEq

namespace Span

def join (a b : Span) : Span :=
  ⟨min a.start b.start, max a.stop b.stop⟩

def length (s : Span) : Nat :=
  s.stop - s.start

def isEmpty (s : Span) : Bool :=
  s.start == s.stop

def contains (s : Span) (offset : Nat) : Bool :=
  decide (s.start ≤ offset ∧ offset < s.stop)

def text (s : Span) : String :=
  toString s.start ++ ".." ++ toString s.stop

end Span

end LoadScript
