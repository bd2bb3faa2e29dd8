import ImageMetadata.Text.Quoted

/-!
# JPEG markers

A marker is a byte that follows a byte FF. Some markers stand alone; the start of scan and the end
of image stop the search for metadata; every other marker begins a segment that carries its length.
-/

namespace ImageMetadata.Jpeg

/-- A marker code. -/
abbrev Marker := UInt8

namespace Marker

def tem : Marker := 0x01
def rst0 : Marker := 0xD0
def rst7 : Marker := 0xD7
def soi : Marker := 0xD8
def eoi : Marker := 0xD9
def sos : Marker := 0xDA
def app1 : Marker := 0xE1

/-- The codes that have a name in messages. -/
def names : List (Nat × String) :=
  [(0x01, "TEM"), (0xC0, "SOF0"), (0xC4, "DHT"), (0xD0, "RST0"), (0xD7, "RST7"), (0xD8, "SOI"),
    (0xD9, "EOI"), (0xDA, "SOS"), (0xDB, "DQT"), (0xE0, "APP0"), (0xE1, "APP1"), (0xE2, "APP2"),
    (0xFE, "COM")]

/-- The code of a marker in hexadecimal. -/
def hex (marker : Marker) : String := String.ofList ('0' :: 'x' :: Text.hexDigits 2 marker.toNat)

/-- The name of a marker, or its code if it has none. -/
def label (marker : Marker) : String :=
  match names.lookup marker.toNat with
  | some name => name
  | none => hex marker

/-- Whether a marker stands without a length and without a payload. -/
def standsAlone (marker : Marker) : Bool :=
  marker == soi || marker == tem || (rst0 ≤ marker && marker ≤ rst7)

end Marker

end ImageMetadata.Jpeg
