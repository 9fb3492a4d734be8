import Charting.Color.Basic

/-!
# Palettes

The default colours of categories and of gradients, and what is done with a list of colours: going
round it again and again, or passing through it evenly.
-/

namespace Charting

/-- The element at a position of a list that is repeated without end; none if the list is empty. -/
def cycle? {α : Type} (xs : List α) (i : Nat) : Option α := xs[i % xs.length]?

namespace Palette

variable {R : Type} [Scalar R]

/-- The default colours of categories. -/
def categorical : List (Color R) :=
  [0x4c78a8, 0xf58518, 0xe45756, 0x72b7b2, 0x54a24b,
    0xeeca3b, 0xb279a2, 0xff9da6, 0x9d755d, 0xbab0ac].map Color.ofRgb

/-- The default gradient, from light to dark. -/
def sequential : List (Color R) :=
  [0xcfe1f2, 0x93c3df, 0x4b97c9, 0x1864aa, 0x0a3a70].map Color.ofRgb

/-- The colour at `t` between the first stop, at zero, and the last, at one.  A `t` outside is moved
to the nearer end, and an undefined one to the first stop. -/
def interpolate? (stops : List (Color R)) (t : R) : Option (Color R) :=
  match stops with
  | [] => none
  | [only] => some only
  | _ =>
    let t := if Scalar.isNaN t then Scalar.ofInt 0
      else Scalar.clamp t (Scalar.ofInt 0) (Scalar.ofInt 1)
    let segments := stops.length - 1
    let position := t * Scalar.ofNat segments
    let i := Nat.min (Scalar.toInt64 position).toNat (segments - 1)
    match stops[i]?, stops[i + 1]? with
    | some a, some b => some (Color.mix (Scalar.single (position - Scalar.ofNat i)) a b)
    | _, _ => none

/-- How far the `i`-th of `n` evenly spaced points has come; a single point is at the end. -/
def fraction (i n : Nat) : R :=
  if n ≤ 1 then Scalar.ofInt 1 else Scalar.ofNat i / Scalar.ofNat (n - 1)

/-- Evenly spaced colours of a gradient, the first stop first. -/
def sample (stops : List (Color R)) (n : Nat) : List (Color R) :=
  (List.range n).filterMap fun i => interpolate? stops (fraction i n)

end Palette

end Charting
