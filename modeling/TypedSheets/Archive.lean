import TypedSheets.Text.Utf8

/-!
# Archives

An archive ends with a record that gives the size of the directory before it; the
directory has an entry for each file. Here an archive is checked, not unpacked: the
end record must be there, and every entry of the directory must be well formed. A
wide archive has a second end record, with numbers of eight bytes, in front of the
first one.
-/

namespace TypedSheets.Archive

open TypedSheets.Number TypedSheets.Text

/-- Why bytes are no archive. -/
inductive Fault where
  | noEndRecord
  /-- An archive in several parts. -/
  | manyParts
  /-- A directory that would start before the first byte. -/
  | directoryOffset
  | truncatedDirectory
  | entryMark
  /-- An entry that needs a later version of the format, in tenths. -/
  | version (tenths : Nat)
  | entryName (cause : Utf8Error)
  /-- A further field that is longer than the fields of its entry. -/
  | furtherField (identifier size : Nat)
  /-- A further field without the wide number that the entry announces. -/
  | wideField (number : String)
  deriving Repr, DecidableEq

/-- The kind and the wording of a fault. -/
def Fault.message : Fault → String
  | .noEndRecord => "BadZipFile: File is not a zip file"
  | .manyParts => "BadZipFile: zipfiles that span multiple disks are not supported"
  | .directoryOffset => "BadZipFile: Bad offset for central directory"
  | .truncatedDirectory => "BadZipFile: Truncated central directory"
  | .entryMark => "BadZipFile: Bad magic number for central directory"
  | .version tenths =>
    "NotImplementedError: zip file version " ++ integerText (tenths / 10 : Nat) ++ "." ++
      integerText (tenths % 10 : Nat)
  | .entryName cause => "UnicodeDecodeError: " ++ cause.message
  | .furtherField identifier size =>
    "BadZipFile: Corrupt extra field " ++ String.ofList (hexDigits 4 identifier) ++ " (size=" ++
      integerText size ++ ")"
  | .wideField number => "BadZipFile: Corrupt zip64 extra field. " ++ number ++ " not found."

/-- The number that bytes encode, least significant byte first. -/
def numberOf : List UInt8 → Nat
  | [] => 0
  | b :: rest => b.toNat + 256 * numberOf rest

/-- The `count` bytes from a place on. -/
def bytesAt (data : List UInt8) (place count : Nat) : List UInt8 := (data.drop place).take count

/-- The number in the `count` bytes from a place on. -/
def numberAt (data : List UInt8) (place count : Nat) : Nat := numberOf (bytesAt data place count)

/-- The marks that records start with. -/
def endMark : List UInt8 := [0x50, 0x4b, 0x05, 0x06]
def entryMark : List UInt8 := [0x50, 0x4b, 0x01, 0x02]
def wideEndMark : List UInt8 := [0x50, 0x4b, 0x06, 0x06]
def wideLocatorMark : List UInt8 := [0x50, 0x4b, 0x06, 0x07]

/-- The sizes of records. -/
def endSize : Nat := 22
def entrySize : Nat := 46
def wideEndSize : Nat := 56
def wideLocatorSize : Nat := 20

/-- The last place at which a mark stands. -/
def lastPlace (mark : List UInt8) : List UInt8 → Option Nat
  | [] => none
  | b :: rest =>
    match lastPlace mark rest with
    | some place => some (place + 1)
    | none => if mark.isPrefixOf (b :: rest) then some 0 else none

/-- The place of the end record: at the very end, or before a comment of less than 65536
bytes, in which the mark does not occur again. -/
def endPlace (data : List UInt8) : Option Nat :=
  let size := data.length
  if size < endSize then none
  else
    let last := data.drop (size - endSize)
    if endMark.isPrefixOf last && numberAt last 20 2 == 0 then some (size - endSize)
    else
      let first := size - (65536 + endSize)
      match lastPlace endMark (data.drop first) with
      | some place => if first + place + endSize ≤ size then some (first + place) else none
      | none => none

/-- The directory of an archive whose end record stands at a place. -/
def directoryBefore (data : List UInt8) (place size : Nat) : Except Fault (List UInt8) :=
  if place < size then .error .directoryOffset else .ok (bytesAt data (place - size) size)

/-- The directory of an archive. -/
def directory (data : List UInt8) : Except Fault (List UInt8) :=
  match endPlace data with
  | none => .error .noEndRecord
  | some place =>
    let plain := directoryBefore data place (numberAt data (place + 12) 4)
    let locator := data.drop (place - wideLocatorSize)
    if place < wideLocatorSize || !wideLocatorMark.isPrefixOf locator then plain
    else if numberAt locator 4 4 ≠ 0 ∨ 1 < numberAt locator 16 4 then .error .manyParts
    else
      let wide := place - wideLocatorSize - wideEndSize
      if place < wideLocatorSize + wideEndSize then .error .noEndRecord
      else if wideEndMark.isPrefixOf (data.drop wide) then
        directoryBefore data wide (numberAt data (wide + 40) 8)
      else plain

/-- The numbers of an entry that a further field may widen. -/
structure EntryNumbers where
  size : Nat
  packedSize : Nat
  offset : Nat
  deriving Repr, DecidableEq

/-- Takes the wide number that an entry announces by a number of all ones. -/
def takeWide (number : String) (announced : Bool) (value : Nat) (data : List UInt8) :
    Except Fault (Nat × List UInt8) :=
  if !announced then .ok (value, data)
  else if data.length < 8 then .error (.wideField number)
  else .ok (numberAt data 0 8, data.drop 8)

/-- The numbers of an entry behind a further field of wide numbers. -/
def EntryNumbers.widen (n : EntryNumbers) (data : List UInt8) : Except Fault EntryNumbers := do
  let (size, data) ← takeWide "File size" (n.size == Nat.pow 2 32 - 1 || n.size == Nat.pow 2 64 - 1) n.size data
  let (packedSize, data) ← takeWide "Compress size" (n.packedSize == Nat.pow 2 32 - 1) n.packedSize data
  let (offset, _) ← takeWide "Header offset" (n.offset == Nat.pow 2 32 - 1) n.offset data
  pure { size, packedSize, offset }

/-- Checks the further fields of an entry: an identifier, a size and as many bytes each. -/
def checkFields (n : EntryNumbers) (data : List UInt8) : Except Fault Unit :=
  if _ : data.length < 4 then .ok ()
  else
    let identifier := numberAt data 0 2
    let size := numberAt data 2 2
    if data.length < size + 4 then .error (.furtherField identifier size)
    else
      let widened := if identifier = 1 then n.widen (bytesAt data 4 size) else .ok n
      match widened with
      | .error fault => .error fault
      | .ok n => checkFields n (data.drop (size + 4))
termination_by data.length
decreasing_by simp only [List.length_drop]; omega

/-- The size of the entry that a directory starts with: its record, its name, its further
fields and its comment. -/
def firstSize (directory : List UInt8) : Nat :=
  entrySize + numberAt directory 28 2 + numberAt directory 30 2 + numberAt directory 32 2

/-- The flag of names in UTF-8, and the last version of the format that is known. -/
def hasUnicodeName (flags : Nat) : Bool := flags / 2048 % 2 == 1
def knownVersion : Nat := 63

/-- Checks the entry that a directory starts with. -/
def checkFirst (directory : List UInt8) : Except Fault Unit := do
  if !entryMark.isPrefixOf directory then throw .entryMark
  let nameSize := numberAt directory 28 2
  if hasUnicodeName (numberAt directory 8 2) then
    let _ ← (decodeUtf8 (bytesAt directory entrySize nameSize)).mapError Fault.entryName
  let version := numberAt directory 6 1
  if knownVersion < version then throw (.version version)
  checkFields ⟨numberAt directory 24 4, numberAt directory 20 4, numberAt directory 42 4⟩
    (bytesAt directory (entrySize + nameSize) (numberAt directory 30 2))

/-- Checks the entries of a directory, in order. -/
def checkEntries (directory : List UInt8) : Except Fault Unit :=
  if directory.isEmpty then .ok ()
  else if _ : directory.length < entrySize then .error .truncatedDirectory
  else
    match checkFirst directory with
    | .error fault => .error fault
    | .ok () => checkEntries (directory.drop (firstSize directory))
termination_by directory.length
decreasing_by
  simp only [List.length_drop, firstSize, entrySize] at *
  omega

/-- Checks an archive. -/
def check (data : List UInt8) : Except Fault Unit := directory data >>= checkEntries

end TypedSheets.Archive
