import EventCamera.Text.Numeral
import EventCamera.Text.Split
import EventCamera.Text.Trim
/-!
# Sensor geometry

The size of a sensor in pixels, and its written form `widthxheight`.

## Main definitions

* `Geometry` — width and height, with `Geometry.render` and `Geometry.parse`
* `Geometry.isAddressable` — every pixel has coordinates of eleven bits
* `Geometry.ofSensor?` — the size of a sensor that is known by name
-/

namespace EventCamera

/-- The two directions of a sensor. -/
inductive Axis where
  | width
  | height
deriving DecidableEq

/-- Name of a direction. -/
def Axis.name : Axis → String
  | .width => "width"
  | .height => "height"

/-- The size of a sensor in pixels. -/
structure Geometry where
  width : UInt32
  height : UInt32
deriving DecidableEq, Inhabited

namespace Geometry

/-- The most columns or rows that coordinates of eleven bits can address. -/
def maxDimension : UInt32 := 2048

/-- A number of columns or rows that is positive and that coordinates can address. -/
def dimensionOk (n : UInt32) : Bool := 0 < n && n ≤ maxDimension

/-- A size with pixels in both directions, all of which coordinates can address. -/
def isAddressable (g : Geometry) : Bool := dimensionOk g.width && dimensionOk g.height

/-- The written form of a size. -/
def render (g : Geometry) : List Char :=
  Numeral.decimal g.width.toNat ++ 'x' :: Numeral.decimal g.height.toNat

/-- Reads two numbers with `sep` between them, blanks around each aside. -/
def parsePair (sep : Char) (cs : List Char) : Option Geometry := do
  let (width, height) ← Text.cut sep cs
  let width ← (Numeral.parse32 (Text.trim width)).toOption
  let height ← (Numeral.parse32 (Text.trim height)).toOption
  some ⟨width, height⟩

/-- Reads a written size, blanks around it and around its numbers aside. -/
def parse (cs : List Char) : Option Geometry := parsePair 'x' (Text.trim cs)

/-- The sensors that are known by name. -/
def knownSensors : List (String × Geometry) :=
  [("IMX636", ⟨1280, 720⟩), ("GenX320", ⟨320, 320⟩), ("Gen3.1", ⟨640, 480⟩)]

/-- The size of a sensor that is known by name, blanks and the case of ASCII letters aside. -/
def ofSensor? (name : List Char) : Option Geometry :=
  let name := (Text.trim name).map Char.toLower
  (knownSensors.find? fun (known, _) => known.toList.map Char.toLower = name).map (·.2)

end Geometry

end EventCamera
