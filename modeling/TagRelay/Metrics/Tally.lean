import TagRelay.Metrics.Fingerprint

/-!
# Tallies

A tally counts under keys.  A key that was asked for or counted once has a count from
then on, which may be zero.  Keys with one fingerprint share one count, which shows the
key that came first.
-/

namespace TagRelay

abbrev Tally (κ : Type) := List (κ × Nat)

namespace Tally

variable {κ : Type} [Labelled κ]

/-- Whether two keys share a count. -/
def sharing (key other : κ) : Bool := Labelled.fingerprint key == Labelled.fingerprint other

def add (key : κ) (count : Nat) : Tally κ → Tally κ
  | [] => [(key, count)]
  | (other, n) :: rest =>
      if sharing key other then (other, n + count) :: rest
      else (other, n) :: add key count rest

/-- The count of a key, zero when it has none. -/
def count (key : κ) : Tally κ → Nat
  | [] => 0
  | (other, n) :: rest => if sharing key other then n else count key rest

/-- Makes sure that the key has a count. -/
def touch (key : κ) (tally : Tally κ) : Tally κ := tally.add key 0

/-- All counts together. -/
def total {κ : Type} (tally : Tally κ) : Nat := tally.foldr (fun entry sum => entry.2 + sum) 0

end Tally

end TagRelay
