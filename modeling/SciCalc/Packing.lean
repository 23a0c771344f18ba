import SciCalc.Text.Lower
import SciCalc.Text.Quoted

/-!
# Packed files

The ending of a file's name may promise that the file is packed. A plain text is no packed file, so taking it
for one is a fault, but for an empty file that counts as empty packed text.
-/

namespace SciCalc

/-- Why a text cannot be unpacked. -/
inductive PackingFault where
  /-- Other bytes stand where the mark of a gzip file should be. -/
  | notGzip (start : List UInt8)
  | notZip
  | invalidStream
  | endsEarly
  | unknownFormat
  /-- No format of archives fits; the last two are the reasons of the first and of the last one tried. -/
  | notArchive (first last : String)
deriving DecidableEq, Repr

namespace PackingFault

/-- How a byte is written between `quote` signs. -/
def escapeByte (quote : Char) (byte : UInt8) : List Char :=
  if byte < 0x80 then Text.escape quote (Char.ofNat byte.toNat)
  else '\\' :: 'x' :: Text.hexDigits 2 byte.toNat

/-- Bytes in quotes; double ones if the bytes hold a single quote and no double one. -/
def citeBytes (bytes : List UInt8) : String :=
  let quote := if bytes.contains 0x27 && !bytes.contains 0x22 then '"' else '\''
  String.ofList ('b' :: quote :: bytes.flatMap (escapeByte quote) ++ [quote])

def message : PackingFault → String
  | notGzip start => s!"Not a gzipped file ({citeBytes start})"
  | notZip => "File is not a zip file"
  | invalidStream => "Invalid data stream"
  | endsEarly => "Compressed file ended before the end-of-stream marker was reached"
  | unknownFormat => "Input format not supported by decoder"
  | notArchive first last => "\n".intercalate [
      "file could not be opened successfully:",
      s!"- method gz: ReadError({Text.quoted first})",
      "- method bz2: ReadError('not a bzip2 file')",
      "- method xz: ReadError('not an lzma file')",
      s!"- method tar: ReadError({Text.quoted last})"]

end PackingFault

/-- A way of packing files. -/
inductive Packing where
  | tar
  | gzip
  | bzip2
  | zip
  | xz
  | zstandard
deriving DecidableEq, Repr

namespace Packing

/-- The endings of names in lower case. The first that fits counts. -/
def endings : List (String × Packing) := [
  (".tar", tar), (".tar.gz", tar), (".tar.bz2", tar), (".tar.xz", tar), (".gz", gzip), (".bz2", bzip2),
  (".zip", zip), (".xz", xz), (".zst", zstandard)]

/-- What the name of a file promises. -/
def ofName? (name : String) : Option Packing :=
  let name := (Text.lower name).toList
  (endings.find? fun (ending, _) => ending.toList.isSuffixOf name).map Prod.snd

/-- What a bzip2 file starts with; in the place of the `9` any digit but zero may stand. -/
def bzip2Mark : List UInt8 := "BZh91AY&SY".toUTF8.toList

/-- The bytes agree with the mark as far as both go. -/
def startsLikeBzip2 (bytes : List UInt8) : Bool :=
  (bytes.zip bzip2Mark).all fun (byte, mark) =>
    byte == mark || (mark == 0x39 && 0x31 ≤ byte && byte ≤ 0x39)

/-- The first byte of an xz file in the old format holds three small numbers, the first two of which add up to
at most four. -/
def startsLikeOldXz : List UInt8 → Bool
  | [] => true
  | byte :: _ => byte < 225 && byte % 9 + byte / 9 % 5 ≤ 4

/-- The size of a block in an archive. -/
def blockSize : Nat := 512

/-- Unpacks a file with a plain text in it. -/
def unpack (packing : Packing) (text : String) : Except PackingFault String :=
  let bytes := text.toUTF8.toList
  match packing with
  | gzip => if bytes.isEmpty then .ok "" else .error (.notGzip (bytes.take 2))
  | zip => .error .notZip
  | bzip2 => .error (if startsLikeBzip2 bytes then .endsEarly else .invalidStream)
  | xz => .error (if startsLikeOldXz bytes && bytes.length < 5 then .endsEarly else .unknownFormat)
  | zstandard => .error .unknownFormat
  | tar =>
    .error <|
      if bytes.isEmpty then .notArchive "empty file" "empty file"
      else if bytes.length < blockSize then .notArchive "not a gzip file" "truncated header"
      else .notArchive "not a gzip file" "invalid header"

end Packing

end SciCalc
