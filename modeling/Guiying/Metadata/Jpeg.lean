import Guiying.Metadata.Tiff

/-!
# The marker segments of a JPEG file

A file is a start marker and segments. The scan goes from marker to marker up to the scan data or
the end, and walks each Exif segment on its own. A marker stream that is malformed cannot be
resynchronized, but what earlier segments gave stays.
-/

namespace Guiying.Metadata.Jpeg

open Guiying.Foundation Guiying.Foundation.ByteString Parse Program

def markerPrefix : UInt8 := 0xff
def markerSoi : UInt8 := 0xd8
def markerEoi : UInt8 := 0xd9
def markerSos : UInt8 := 0xda
def markerApp1 : UInt8 := 0xe1

def exifSignature : List UInt8 := asciiBytes "Exif" ++ [0, 0]

/-- Markers that stand alone, without a length. -/
def standsAlone (code : UInt8) : Bool := code = 0x01 ∨ 0xd0 ≤ code ∧ code ≤ 0xd7

section Scan

variable (reader : BudgetedReader)

/-- The code of a marker and its offset, behind the prefix and any fill bytes. Each round moves the
cursor on, so with as many rounds as bytes the last one is behind the end. -/
def readCode : Nat → Nat → Parse (UInt8 × Nat)
  | 0, cursor => do
      let cursor ← checkedAdd cursor 1 (some cursor) "JPEG marker offset overflow"
      fail (.outOfBounds cursor "JPEG marker code")
  | rounds + 1, cursor => do
      let cursor ← checkedAdd cursor 1 (some cursor) "JPEG marker offset overflow"
      ensure (cursor < reader.sourceLen) (.outOfBounds cursor "JPEG marker code")
      let bytes ← reader.readVec cursor 1 "read JPEG marker code"
      let code := bytes.headD 0
      if code = markerPrefix then readCode rounds cursor
      else do
        ensure (code ≠ 0) (.invalid cursor "stuffed JPEG marker outside scan data")
        pure (code, cursor)

/-- A malformed embedded container is isolated to its own segment. -/
def readExif (markerOffset : Nat) (code : UInt8) (payloadOffset payloadLength segmentEnd : Nat) :
    Parse Unit :=
  if code = markerApp1 ∧ 6 ≤ payloadLength then do
    let signature ← reader.readVec payloadOffset 6 "read JPEG APP1 signature"
    if signature = exifSignature then do
      let headerOffset ← checkedAdd payloadOffset 6 (some payloadOffset)
        "JPEG Exif TIFF offset overflow"
      isolated (Tiff.parseInRange reader headerOffset segmentEnd (.jpeg markerOffset))
    else pure ()
  else pure ()

/-- Where the segment whose length is at the cursor has its payload, how long that is, and where
it ends. -/
def segmentBounds (cursor : Nat) : Parse (Nat × Nat × Nat) := do
  let lengthBytes ← reader.readVec cursor 2 "read JPEG segment length"
  let segmentLength := readBigEndian lengthBytes
  ensure (2 ≤ segmentLength) (.invalid cursor "JPEG segment length")
  let payloadOffset ← checkedAdd cursor 2 (some cursor) "JPEG payload offset overflow"
  let payloadLength ← checkedSub segmentLength 2 (some cursor)
    "JPEG segment length is smaller than header"
  let segmentEnd ← checkedAdd payloadOffset payloadLength (some payloadOffset)
    "JPEG segment end overflow"
  ensure (segmentEnd ≤ reader.sourceLen) (.outOfBounds cursor "JPEG segment payload")
  pure (payloadOffset, payloadLength, segmentEnd)

/-- The marker at a cursor: its code, where that is, and the cursor behind it. -/
def readMarker (cursor : Nat) : Parse (UInt8 × Nat × Nat) := do
  ensure (cursor < reader.sourceLen) (.outOfBounds cursor "JPEG marker prefix")
  let bytes ← reader.readVec cursor 1 "read JPEG marker prefix"
  ensure (bytes.headD 0 = markerPrefix) (.invalid cursor "JPEG marker prefix")
  let (code, codeOffset) ← readCode reader (reader.sourceLen - cursor) cursor
  let next ← checkedAdd codeOffset 1 (some codeOffset) "JPEG marker offset overflow"
  reader.visitJpegSegment cursor
  pure (code, codeOffset, next)

/-- The markers from a cursor on. Each round moves the cursor on. -/
def scanMarkers : Nat → Nat → Parse Unit
  | 0, cursor => fail (.outOfBounds cursor "JPEG marker prefix")
  | rounds + 1, cursor => do
      let (code, codeOffset, next) ← readMarker reader cursor
      if code = markerEoi ∨ code = markerSos then pure ()
      else if standsAlone code then scanMarkers rounds next
      else if code = markerSoi then fail (.invalid codeOffset "nested JPEG SOI marker")
      else do
        let (payloadOffset, payloadLength, segmentEnd) ← segmentBounds reader next
        readExif reader cursor code payloadOffset payloadLength segmentEnd
        scanMarkers rounds segmentEnd

def scanSegments : Parse Unit := do
  let soi ← reader.readVec 0 2 "read JPEG SOI"
  ensure (soi = [markerPrefix, markerSoi]) (.invalid 0 "JPEG SOI marker")
  scanMarkers reader reader.sourceLen 2

/-- Evidence of earlier complete segments stays valid. -/
def parse : Parse Unit := isolated (scanSegments reader)

end Scan

end Guiying.Metadata.Jpeg
