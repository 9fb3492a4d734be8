import Charting.Numeric.Scalar

/-!
# Colours

Red, green, blue and opacity, each between zero and one and held in single precision.
-/

namespace Charting

/-- A colour with its opacity. -/
structure Color (R : Type) where
  /-- The red component. -/
  red : R
  /-- The green component. -/
  green : R
  /-- The blue component. -/
  blue : R
  /-- The opacity. -/
  alpha : R
deriving BEq, DecidableEq, Repr

namespace Color

variable {R : Type} [Scalar R]

/-- The component of a byte. -/
def component (byte : Nat) : R :=
  Scalar.single (Scalar.ofNat byte * Scalar.single (1.0 / 255.0))

/-- The byte of a component, rounded in single precision and kept within range. -/
def byte (x : R) : Nat :=
  let scaled := Scalar.single (Scalar.single (x * 255.0) + 0.5)
  Nat.min 255 (Scalar.toInt64 scaled).toNat

/-- The colour of four bytes. -/
def ofBytes (red green blue alpha : Nat) : Color R :=
  ⟨component red, component green, component blue, component alpha⟩

/-- The opaque colour of three bytes in one number. -/
def ofRgb (n : Nat) : Color R := ofBytes (n / 65536 % 256) (n / 256 % 256) (n % 256) 255

instance : Inhabited (Color R) := ⟨ofRgb 0⟩

/-- Two hexadecimal digits. -/
def hexByte (n : Nat) : List Char := [Nat.digitChar (n / 16), Nat.digitChar (n % 16)]

/-- The colour as three bytes in hexadecimal digits; the opacity is left out. -/
def hex (c : Color R) : String :=
  String.ofList ('#' :: hexByte (byte c.red) ++ hexByte (byte c.green) ++ hexByte (byte c.blue))

/-- One component on the way from `a` to `b`, in single precision. -/
def mixComponent (t a b : R) : R :=
  Scalar.single
    (Scalar.single (a * Scalar.single (1.0 - t)) + Scalar.single (b * t))

/-- The colour at `t` on the way from one colour to another. -/
def mix (t : R) (a b : Color R) : Color R :=
  { red := mixComponent t a.red b.red
    green := mixComponent t a.green b.green
    blue := mixComponent t a.blue b.blue
    alpha := mixComponent t a.alpha b.alpha }

end Color

end Charting
