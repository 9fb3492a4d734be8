import Charting.Shape.Geometry

/-!
# Measuring text

Guides need to know how much room their labels take.  Any function can tell them; the usual one is a
rule of thumb.
-/

namespace Charting

/-- Something that knows how large a text is at a font size. -/
structure TextMeasurer (R : Type) where
  /-- The size of a text. -/
  measure : String → R → Size R

namespace TextMeasurer

variable {R : Type} [Scalar R]

/-- Letters are six tenths as wide as they are high. -/
def heuristic : TextMeasurer R where
  measure text fontSize := ⟨0.6 * fontSize * Scalar.ofNat text.length, fontSize⟩

/-- Every byte of the encoded text is `width` times the font size wide, and the text is `height`
times the font size high. -/
def ofByteSize (width height : R) : TextMeasurer R where
  measure text fontSize := ⟨width * fontSize * Scalar.ofNat text.utf8ByteSize, height * fontSize⟩

/-- The width of the widest text, at least zero. -/
def maxWidth (m : TextMeasurer R) (texts : List String) (fontSize : R) : R :=
  texts.foldl (fun w s => Scalar.max w (m.measure s fontSize).width) 0.0

/-- The height of the highest text, at least zero. -/
def maxHeight (m : TextMeasurer R) (texts : List String) (fontSize : R) : R :=
  texts.foldl (fun h s => Scalar.max h (m.measure s fontSize).height) 0.0

end TextMeasurer

end Charting
