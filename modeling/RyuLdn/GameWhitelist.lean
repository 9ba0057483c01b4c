import RyuLdn.CText
import RyuLdn.SortedSearch

/-! The game whitelist of `game_whitelist.cpp`: read once from the game list, chunk by
chunk through a line buffer, then sorted and searched by program ID. -/
namespace RyuLdn.GameWhitelist

open CText

scoped instance programIdOrder : LinearOrder UInt64 where
  le_refl := UInt64.le_refl
  le_trans _ _ _ := UInt64.le_trans
  lt_iff_le_not_ge a b := by
    rw [UInt64.lt_iff_toNat_lt, UInt64.le_iff_toNat_le, UInt64.le_iff_toNat_le]
    omega
  le_antisymm _ _ := UInt64.le_antisymm
  le_total := UInt64.le_total
  toDecidableLE := inferInstance

def bytesPerEntry : Nat := 18

def chunkSize : Nat := 512

def lineBufSize : Nat := 24

def hexDigit (c : UInt8) : Option UInt64 :=
  if 48 ≤ c ∧ c ≤ 57 then some (c - 48).toUInt64
  else if 97 ≤ c ∧ c ≤ 102 then some (10 + (c - 97).toUInt64)
  else if 65 ≤ c ∧ c ≤ 70 then some (10 + (c - 65).toUInt64)
  else none

/-- The loop of `ParseHexId`, which stops at the first character that is no digit. -/
def parseHexDigits : List UInt8 → (result : UInt64) → UInt64
  | [], result => result
  | c :: str, result =>
      match hexDigit c with
      | none => result
      | some digit => parseHexDigits str (result <<< 4 ||| digit)

def parseHexId (str : List UInt8) : UInt64 :=
  match str with
  | 48 :: 120 :: rest => parseHexDigits rest 0
  | 48 :: 88 :: rest => parseHexDigits rest 0
  | str => parseHexDigits str 0

structure GameList where
  text : List UInt8
  small : text.length < 2 ^ 63

/-- What the file system and the allocator answer: `file` is what `OpenFile` finds, and
`readable` says from which offsets `ReadFile` reads. -/
structure SystemAnswers where
  file : Option GameList
  sizeKnown : Bool
  allocates : Bool
  readable : Nat → Bool

/-- The static variables. `ids` are the first `g_whitelist_count` elements of the array. -/
structure Whitelist where
  ids : List UInt64
  loaded : Bool

def initial : Whitelist := ⟨[], false⟩

structure Scan where
  line : List UInt8
  ids : List UInt64

def storeId (ids : List UInt64) (line : List UInt8) : List UInt64 :=
  let id := parseHexId line
  if id ≠ 0 then ids ++ [id] else ids

def scanByte (s : Scan) (c : UInt8) : Scan :=
  if isLineEnd c then
    if 0 < s.line.length then ⟨[], storeId s.ids s.line⟩ else s
  else { s with line := pushByte lineBufSize s.line c }

def scanChunk (capacity : Nat) : (chunk : List UInt8) → Scan → Scan
  | [], s => s
  | c :: chunk, s =>
      if s.ids.length < capacity then scanChunk capacity chunk (scanByte s c) else s

def readChunks (capacity : Nat) (text : List UInt8) (readable : Nat → Bool) (offset : Nat)
    (s : Scan) : Scan :=
  if offset < text.length ∧ s.ids.length < capacity then
    if readable offset = false then s
    else
      let toRead := min (text.length - offset) chunkSize
      readChunks capacity text readable (offset + toRead)
        (scanChunk capacity ((text.drop offset).take toRead) s)
  else s
termination_by text.length - offset
decreasing_by
  unfold chunkSize
  omega

def lastLine (capacity : Nat) (s : Scan) : List UInt64 :=
  if 0 < s.line.length ∧ s.ids.length < capacity then storeId s.ids s.line else s.ids

def sortWhitelist (ids : List UInt64) : List UInt64 :=
  if ids.length > 1 then SortedSearch.sortUnique ids else ids

/-- `file_size / BYTES_PER_ENTRY`, and a margin. -/
def whitelistCapacity (text : List UInt8) : Nat := text.length / bytesPerEntry + 100

def loadWhitelist (w : Whitelist) (answers : SystemAnswers) : Whitelist :=
  if w.loaded then w
  else
    match answers.file with
    | none => { w with loaded := true }
    | some file =>
        if answers.sizeKnown = false ∨ file.text.length = 0 then { w with loaded := true }
        else if answers.allocates = false then { w with loaded := true }
        else
          let capacity := whitelistCapacity file.text
          let ids := lastLine capacity
            (readChunks capacity file.text answers.readable 0 ⟨[], w.ids⟩)
          ⟨sortWhitelist ids, true⟩

def isGameInWhitelist (w : Whitelist) (programId : UInt64) : Bool :=
  if w.loaded = false then false
  else if w.ids.length = 0 then
    decide (programId ≥ 0x0100000000000000) && decide (programId ≠ 0x010028600ebda000)
  else SortedSearch.binarySearch w.ids programId

end RyuLdn.GameWhitelist
