/-!
# Signatures of videos

The first bytes of a file tell whether it is a video, whatever its name.

## Main definitions

* `Signature` — bytes at fixed places
* `Signature.videos` — the signatures of container formats for videos
* `signatureWindow` — the start of a content, which is all that is looked at
* `looksLikeVideo` — whether a start bears one of the signatures
-/

namespace MediaShelf

/-- Bytes that stand at fixed places of a content. -/
structure Signature where
  /-- Runs of bytes with the places where they start. -/
  runs : List (Nat × List UInt8)
  /-- The least size of a content, beyond what the runs ask for. -/
  size : Nat := 0

namespace Signature

/-- Whether a run of bytes stands at a place. -/
def hasRun (content : List UInt8) (run : Nat × List UInt8) : Bool :=
  run.2.isPrefixOf (content.drop run.1)

/-- Whether a content bears the signature. -/
def isBorne (signature : Signature) (content : List UInt8) : Bool :=
  content.length ≥ signature.size && signature.runs.all (hasRun content)

/-- A text at a place. -/
def textAt (place : Nat) (text : String) : Nat × List UInt8 := (place, text.toUTF8.toList)

/-- The brands of MPEG-4 files. -/
def brands : List String := [
  "avc1", "dash", "iso2", "iso3", "iso4", "iso5", "iso6", "isom", "mmp4", "mp41", "mp42", "mp4v",
  "mp71", "MSNV", "NDAS", "NDSC", "NSDC", "NDSH", "NDSM", "NDSP", "NDSS", "NDXC", "NDXH", "NDXM",
  "NDXP", "NDXS", "F4V ", "F4P "]

/-- MPEG-4 files by their brands. -/
def mpeg4 : List Signature :=
  (brands ++ ["M4V"]).map fun brand => ⟨[textAt 4 "ftyp", textAt 8 brand], 0⟩

/-- Files in Matroska's format. -/
def matroska : List Signature :=
  [⟨[(0, [0x1A, 0x45, 0xDF, 0xA3])], 0⟩, ⟨[textAt 31 "matroska"], 0⟩]

/-- Movies by the kind of their first or second block. -/
def movie : List Signature :=
  [textAt 4 "ftypqt  ", textAt 4 "moov", textAt 4 "mdat", textAt 12 "mdat"].map (⟨[·], 16⟩)

/-- Streams of MPEG packets by the kind of the first packet. -/
def mpegStream : List Signature :=
  (List.range 16).map fun kind => ⟨[(0, [0, 0, 1, 0xB0 + kind.toUInt8])], 0⟩

/-- The other formats. -/
def others : List Signature := [
  ⟨[textAt 0 "RIFF", textAt 8 "AVI"], 0⟩,
  ⟨[(0, [0x30, 0x26, 0xB2, 0x75, 0x8E, 0x66, 0xCF, 0x11, 0xA6, 0xD9])], 0⟩,
  ⟨[(0, [0x46, 0x4C, 0x56, 0x01])], 0⟩]

/-- The signatures of videos. -/
def videos : List Signature := mpeg4 ++ matroska ++ movie ++ mpegStream ++ others

end Signature

/-- The part of a content that is looked at. -/
def signatureWindow (content : ByteArray) : ByteArray := content.extract 0 8192

/-- Whether the start of a content is that of a video. -/
def looksLikeVideo (start : ByteArray) : Bool :=
  let bytes := start.toList
  Signature.videos.any (·.isBorne bytes)

end MediaShelf
