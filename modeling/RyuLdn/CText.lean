import Mathlib.Data.List.DropRight
import Mathlib.Data.List.TakeWhile
import Mathlib.Tactic.Ring

/-! Byte text as C programs handle it: NUL-terminated strings, blanks cut off at
the ends, decimal numbers as `%u` prints and `strtoul` reads them, and the two
usual ways to read a text line by line: a scan that collects a line in a bounded
buffer, and `fgets`. -/
namespace RyuLdn.CText

def ascii (text : String) : List UInt8 := text.toList.map Char.toUInt8

theorem ascii_ofList (chars : List Char) : ascii (String.ofList chars) = chars.map Char.toUInt8 := by
  rw [ascii, String.toList_ofList]

def cString (buffer : List UInt8) : List UInt8 := buffer.takeWhile (· ≠ 0)

def isBlank (b : UInt8) : Bool := b = 32 || b = 9

def isLineEnd (b : UInt8) : Bool := b = 10 || b = 13

def isBlankOrLineEnd (b : UInt8) : Bool := isBlank b || isLineEnd b

@[ext] structure CString (max : Nat) where
  bytes : List UInt8
  length_le : bytes.length ≤ max
  noNul : 0 ∉ bytes
  deriving DecidableEq

theorem cString_eq_self {text : List UInt8} (noNul : 0 ∉ text) : cString text = text := by
  rw [cString, List.takeWhile_eq_self_iff]
  intro b member
  have nonzero : b ≠ 0 := fun zero => noNul (zero ▸ member)
  simpa using nonzero

theorem cString_append_zeros {text : List UInt8} (noNul : 0 ∉ text) (n : Nat) :
    cString (text ++ List.replicate n 0) = text := by
  have nonzero : ∀ b ∈ text, decide (b ≠ 0) = true := by
    intro b member
    have other : b ≠ 0 := fun zero => noNul (zero ▸ member)
    simpa using other
  rw [cString, List.takeWhile_append_of_pos nonzero]
  cases n with
  | zero => simp
  | succ n => simp [List.replicate_succ]

theorem nul_notMem_cString (buffer : List UInt8) : 0 ∉ cString buffer := by
  intro member
  have kept := List.mem_takeWhile_imp member
  simp at kept

theorem mem_of_mem_cString {buffer : List UInt8} {b : UInt8} (member : b ∈ cString buffer) :
    b ∈ buffer :=
  List.takeWhile_subset _ member

namespace CString

variable {max : Nat}

def copy (max : Nat) (buffer : List UInt8) : CString max where
  bytes := (cString buffer).take max
  length_le := List.length_take_le max _
  noNul := fun member => nul_notMem_cString buffer (List.mem_of_mem_take member)

def empty : CString max := ⟨[], Nat.zero_le max, List.not_mem_nil⟩

def trim (text : CString max) : CString max where
  bytes := (text.bytes.dropWhile isBlank).rdropWhile isBlank
  length_le := by
    have front := (List.dropWhile_sublist isBlank (l := text.bytes)).length_le
    have back := (List.rdropWhile_prefix isBlank (text.bytes.dropWhile isBlank)).length_le
    exact (back.trans front).trans text.length_le
  noNul := fun member => text.noNul
    (List.dropWhile_subset _ ((List.rdropWhile_prefix isBlank _).subset member))

def NoLineEnd (text : CString max) : Prop := ∀ b ∈ text.bytes, isLineEnd b = false

instance (text : CString max) : Decidable text.NoLineEnd :=
  List.decidableBAll (fun b => isLineEnd b = false) text.bytes

theorem copy_bytes (text : CString max) : copy max text.bytes = text := by
  ext1
  change (cString text.bytes).take max = text.bytes
  rw [cString_eq_self text.noNul, List.take_of_length_le text.length_le]

theorem copy_noLineEnd {buffer : List UInt8} (clean : ∀ b ∈ buffer, isLineEnd b = false) :
    (copy max buffer).NoLineEnd := by
  intro b member
  exact clean b (mem_of_mem_cString (List.mem_of_mem_take member))

end CString

section Trim

variable {α : Type*} {p q : α → Bool}

theorem rdropWhile_append_cons {x : α} (stop : p x = false) (front back : List α) :
    (front ++ x :: back).rdropWhile p = front ++ x :: back.rdropWhile p := by
  induction back using List.reverseRecOn with
  | nil =>
      rw [List.rdropWhile_concat_neg p front x (by simp [stop]), List.rdropWhile_nil]
  | append_singleton back last ih =>
      rw [← List.cons_append, ← List.append_assoc, List.rdropWhile_concat, ih,
        List.rdropWhile_concat]
      split <;> simp

theorem rdropWhile_append_of_forall {front back : List α} (all : ∀ x ∈ back, p x = true) :
    (front ++ back).rdropWhile p = front.rdropWhile p := by
  induction back using List.reverseRecOn with
  | nil => rw [List.append_nil]
  | append_singleton back x ih =>
      rw [← List.append_assoc, List.rdropWhile_concat_pos p _ x (all x (by simp))]
      exact ih fun y member => all y (by simp [member])

theorem rdropWhile_congr {text : List α} (same : ∀ x ∈ text, p x = q x) :
    text.rdropWhile p = text.rdropWhile q := by
  induction text using List.reverseRecOn with
  | nil => rw [List.rdropWhile_nil, List.rdropWhile_nil]
  | append_singleton text last ih =>
      rw [List.rdropWhile_concat, List.rdropWhile_concat, same last (by simp),
        ih (fun x member => same x (by simp [member]))]

theorem dropWhile_append_cons {x : α} (stop : p x = false) (front back : List α) :
    (front ++ x :: back).dropWhile p = front.dropWhile p ++ x :: back := by
  induction front with
  | nil => simp [stop]
  | cons y front ih =>
      rw [List.cons_append, List.dropWhile_cons, List.dropWhile_cons, ih]
      split <;> rfl

theorem dropWhile_rdropWhile (weaker : ∀ x, p x = true → q x = true) (text : List α) :
    (text.rdropWhile q).dropWhile p = (text.dropWhile p).rdropWhile q := by
  by_cases all : ∀ x ∈ text, q x = true
  · have left : text.rdropWhile q = [] := List.rdropWhile_eq_nil_iff.mpr all
    have right : (text.dropWhile p).rdropWhile q = [] :=
      List.rdropWhile_eq_nil_iff.mpr (fun x member => all x (List.dropWhile_subset _ member))
    rw [left, right, List.dropWhile_nil]
  · obtain ⟨x, member, stop⟩ : ∃ x ∈ text, q x = false := by
      simpa using all
    have kept : p x = false := by
      by_contra blank
      simp [weaker x (by simpa using blank)] at stop
    obtain ⟨front, back, rfl⟩ := List.append_of_mem member
    rw [rdropWhile_append_cons stop, dropWhile_append_cons kept, dropWhile_append_cons kept,
      rdropWhile_append_cons stop]

end Trim

def decimal (n : Nat) : List UInt8 := (Nat.toDigits 10 n).map Char.toUInt8

def isSpace (b : UInt8) : Bool := b = 32 || (9 ≤ b && b ≤ 13)

def isDigit (b : UInt8) : Bool := 48 ≤ b && b ≤ 57

def digitsValue (digits : List UInt8) : Nat :=
  digits.foldl (fun value digit => 10 * value + (digit.toNat - 48)) 0

/-- `strtoul` in base 10 with a 64-bit `unsigned long`. A value out of range is
`ULONG_MAX`; a minus sign negates in unsigned arithmetic. -/
def strtoul (text : List UInt8) : UInt64 :=
  let signed := text.dropWhile isSpace
  let negative := signed.head? = some 45
  let unsigned := if negative ∨ signed.head? = some 43 then signed.tail else signed
  let value := digitsValue (unsigned.takeWhile isDigit)
  if 2 ^ 64 ≤ value then UInt64.ofNat (2 ^ 64 - 1)
  else if negative then - UInt64.ofNat value
  else UInt64.ofNat value

theorem toNat_toUInt8_of_isDigit {c : Char} (digit : c.isDigit = true) :
    c.toUInt8.toNat = c.toNat ∧ 48 ≤ c.toNat ∧ c.toNat ≤ 57 := by
  simp only [Char.isDigit, Bool.and_eq_true, decide_eq_true_eq, ge_iff_le, UInt32.le_iff_toNat_le]
    at digit
  have low : 48 ≤ c.toNat := digit.1
  have high : c.toNat ≤ 57 := digit.2
  refine ⟨?_, low, high⟩
  change c.toNat % 2 ^ 8 = c.toNat
  omega

theorem isDigit_of_mem_decimal {n : Nat} {b : UInt8} (member : b ∈ decimal n) :
    48 ≤ b.toNat ∧ b.toNat ≤ 57 := by
  obtain ⟨c, printed, rfl⟩ := List.mem_map.mp member
  have digit := Nat.isDigit_of_mem_toDigits (by decide) (by decide) printed
  obtain ⟨same, low, high⟩ := toNat_toUInt8_of_isDigit digit
  omega

theorem decimal_length_le {n digits : Nat} (positive : 0 < digits) (fits : n < 10 ^ digits) :
    (decimal n).length ≤ digits := by
  rw [decimal, List.length_map]
  exact (Nat.length_toDigits_le_iff (by decide) positive).mpr fits

theorem digitsValue_decimal (n : Nat) : digitsValue (decimal n) = n := by
  have read : ∀ (text : List Char) (value : Nat), (∀ c ∈ text, c.isDigit = true) →
      (text.map Char.toUInt8).foldl (fun value digit => 10 * value + (digit.toNat - 48)) value =
        Nat.ofDigitChars 10 text value := by
    intro text
    induction text with
    | nil => simp
    | cons c text ih =>
        intro value digits
        have head := (toNat_toUInt8_of_isDigit (digits c (by simp))).1
        rw [List.map_cons, List.foldl_cons, Nat.ofDigitChars_cons, head,
          ih _ (fun d member => digits d (by simp [member]))]
        rfl
  rw [digitsValue, decimal, read, Nat.ofDigitChars_ten_toDigits]
  exact fun c member => Nat.isDigit_of_mem_toDigits (by decide) (by decide) member

theorem strtoul_decimal {n : Nat} (fits : n < 2 ^ 64) : strtoul (decimal n) = UInt64.ofNat n := by
  have digits : ∀ b ∈ decimal n, 48 ≤ b.toNat ∧ b.toNat ≤ 57 :=
    fun b member => isDigit_of_mem_decimal member
  have noSpace : (decimal n).dropWhile isSpace = decimal n := by
    cases text : decimal n with
    | nil => rfl
    | cons b rest =>
        have digit := digits b (by simp [text])
        have visible : isSpace b = false := by
          simp only [isSpace, Bool.or_eq_false_iff, decide_eq_false_iff_not, Bool.and_eq_false_iff,
            UInt8.le_iff_toNat_le, ← UInt8.toNat_inj, UInt8.reduceToNat]
          omega
        rw [List.dropWhile_cons_of_neg (by simp [visible])]
  have noSign : ∀ sign : UInt8, sign.toNat < 48 → (decimal n).head? ≠ some sign := by
    intro sign low head
    have digit := digits sign (List.mem_of_mem_head? head)
    omega
  have whole : (decimal n).takeWhile isDigit = decimal n := by
    rw [List.takeWhile_eq_self_iff]
    intro b member
    have digit := digits b member
    simpa [isDigit, UInt8.le_iff_toNat_le] using digit
  have positive : (decimal n).head? ≠ some 45 := noSign 45 (by decide)
  have plain : (decimal n).head? ≠ some 43 := noSign 43 (by decide)
  simp only [strtoul, noSpace, positive, plain, or_self, if_false, whole, digitsValue_decimal]
  rw [if_neg (by omega)]

def joinLines (lines : List (List UInt8)) : List UInt8 := lines.flatMap (· ++ [10])

theorem joinLines_ne_nil {lines : List (List UInt8)} (some : lines ≠ []) : joinLines lines ≠ [] := by
  cases lines with
  | nil => exact absurd rfl some
  | cons line lines => simp [joinLines]

theorem length_joinLines_le {bound : Nat} {lines : List (List UInt8)}
    (short : ∀ line ∈ lines, line.length ≤ bound) :
    (joinLines lines).length ≤ lines.length * (bound + 1) := by
  induction lines with
  | nil => simp [joinLines]
  | cons line lines ih =>
      have head := short line (by simp)
      have tail := ih (fun other member => short other (by simp [member]))
      have text : joinLines (line :: lines) = line ++ [10] ++ joinLines lines := by simp [joinLines]
      rw [text, List.length_append, List.length_append, List.length_singleton, List.length_cons,
        Nat.add_mul]
      omega

section Lines

variable {σ : Type*} (size : Nat) (handle : σ → List UInt8 → σ)

/-- A byte goes into a line buffer of `size` bytes if there is room for it and a NUL. -/
def pushByte (line : List UInt8) (b : UInt8) : List UInt8 :=
  if line.length < size - 1 then line ++ [b] else line

/-- Each line is collected in a buffer of `size` bytes, the end of a line that is
too long is dropped. LF, CR and CR LF end a line, and so does the end of the text. -/
def scanLines : List UInt8 → σ → List UInt8 → σ
  | line, s, [] => handle s line
  | line, s, [b] =>
      if isLineEnd b then scanLines [] (handle s line) [] else scanLines (pushByte size line b) s []
  | line, s, b :: c :: rest =>
      if isLineEnd b then
        if b = 13 ∧ c = 10 then scanLines [] (handle s line) rest
        else scanLines [] (handle s line) (c :: rest)
      else scanLines (pushByte size line b) s (c :: rest)

/-- The loop `while (fgets(line, size, file))`: a piece ends after LF or when the
buffer is full. -/
def fgetsLines : List UInt8 → σ → List UInt8 → σ
  | line, s, [] => if line = [] then s else handle s line
  | line, s, b :: rest =>
      if b = 10 ∨ line.length + 2 = size then fgetsLines [] (handle s (line ++ [b])) rest
      else fgetsLines (line ++ [b]) s rest

variable {size handle}

theorem scanLines_byte {b : UInt8} (inside : isLineEnd b = false) (line : List UInt8) (s : σ)
    (rest : List UInt8) :
    scanLines size handle line s (b :: rest) = scanLines size handle (pushByte size line b) s rest := by
  cases rest <;> simp [scanLines, inside]

theorem scanLines_lf (line : List UInt8) (s : σ) (rest : List UInt8) :
    scanLines size handle line s (10 :: rest) = scanLines size handle [] (handle s line) rest := by
  cases rest <;> simp [scanLines, isLineEnd]

theorem scanLines_line {text : List UInt8} (clean : ∀ b ∈ text, isLineEnd b = false)
    {line : List UInt8} (fits : (line ++ text).length < size) (s : σ) (rest : List UInt8) :
    scanLines size handle line s (text ++ 10 :: rest) =
      scanLines size handle [] (handle s (line ++ text)) rest := by
  induction text generalizing line with
  | nil => rw [List.nil_append, scanLines_lf, List.append_nil]
  | cons b text ih =>
      have room : line.length < size - 1 := by
        simp only [List.length_append, List.length_cons] at fits
        omega
      have pushed : pushByte size line b = line ++ [b] := by rw [pushByte, if_pos room]
      have whole : line ++ b :: text = line ++ [b] ++ text := by simp
      rw [List.cons_append, scanLines_byte (clean b (by simp)), pushed, whole]
      rw [whole] at fits
      exact ih (fun c member => clean c (by simp [member])) fits

theorem scanLines_joinLines {lines : List (List UInt8)}
    (clean : ∀ line ∈ lines, line.length < size ∧ ∀ b ∈ line, isLineEnd b = false) (s : σ) :
    scanLines size handle [] s (joinLines lines) = handle (lines.foldl handle s) [] := by
  induction lines generalizing s with
  | nil => rfl
  | cons line lines ih =>
      obtain ⟨fits, inside⟩ := clean line (by simp)
      have text : joinLines (line :: lines) = line ++ 10 :: joinLines lines := by simp [joinLines]
      rw [text, scanLines_line inside (by simpa using fits), List.nil_append, List.foldl_cons]
      exact ih (fun other member => clean other (by simp [member])) (handle s line)

theorem scanLines_keeps {P : σ → Prop}
    (keep : ∀ s line, line.length < size → (∀ b ∈ line, isLineEnd b = false) → P s →
      P (handle s line))
    {line : List UInt8} (short : line.length < size) (clean : ∀ b ∈ line, isLineEnd b = false)
    {s : σ} (start : P s) (text : List UInt8) : P (scanLines size handle line s text) := by
  have pushed : ∀ {line : List UInt8} {b : UInt8}, (∀ c ∈ line, isLineEnd c = false) →
      ¬ isLineEnd b = true → ∀ c ∈ pushByte size line b, isLineEnd c = false := by
    intro line b clean inside c member
    rw [pushByte] at member
    split at member
    · rcases List.mem_append.mp member with old | new
      · exact clean c old
      · rw [List.mem_singleton.mp new]
        simpa using inside
    · exact clean c member
  have room : ∀ {line : List UInt8} {b : UInt8}, line.length < size →
      (pushByte size line b).length < size := by
    intro line b short
    unfold pushByte
    split
    · rw [List.length_append, List.length_singleton]
      omega
    · exact short
  have fresh : ∀ c ∈ ([] : List UInt8), isLineEnd c = false := by simp
  have none : ([] : List UInt8).length < size := Nat.zero_lt_of_lt short
  induction line, s, text using scanLines.induct size handle with
  | case1 line s =>
      rw [scanLines]
      exact keep s line short clean start
  | case2 line s b ends ih =>
      rw [scanLines, if_pos ends]
      exact ih none fresh (keep s line short clean start)
  | case3 line s b inside ih =>
      rw [scanLines, if_neg inside]
      exact ih (room short) (pushed clean inside) start
  | case4 line s b c rest ends crlf ih =>
      rw [scanLines, if_pos ends, if_pos crlf]
      exact ih none fresh (keep s line short clean start)
  | case5 line s b c rest ends other ih =>
      rw [scanLines, if_pos ends, if_neg other]
      exact ih none fresh (keep s line short clean start)
  | case6 line s b c rest inside ih =>
      rw [scanLines, if_neg inside]
      exact ih (room short) (pushed clean inside) start

theorem fgetsLines_line {text : List UInt8} (clean : ∀ b ∈ text, isLineEnd b = false)
    {line : List UInt8} (fits : (line ++ text).length + 1 < size) (s : σ) (rest : List UInt8) :
    fgetsLines size handle line s (text ++ 10 :: rest) =
      fgetsLines size handle [] (handle s (line ++ text ++ [10])) rest := by
  induction text generalizing line with
  | nil => simp [fgetsLines]
  | cons b text ih =>
      have inside : b ≠ 10 := by
        rintro rfl
        simpa [isLineEnd] using clean 10 (by simp)
      have room : line.length + 2 ≠ size := by
        simp only [List.length_append, List.length_cons] at fits
        omega
      have whole : line ++ b :: text = line ++ [b] ++ text := by simp
      rw [List.cons_append, fgetsLines, if_neg (not_or.mpr ⟨inside, room⟩), whole]
      rw [whole] at fits
      exact ih (fun c member => clean c (by simp [member])) fits

theorem fgetsLines_joinLines {lines : List (List UInt8)}
    (clean : ∀ line ∈ lines, line.length + 1 < size ∧ ∀ b ∈ line, isLineEnd b = false) (s : σ) :
    fgetsLines size handle [] s (joinLines lines) =
      lines.foldl (fun s line => handle s (line ++ [10])) s := by
  induction lines generalizing s with
  | nil => simp [joinLines, fgetsLines]
  | cons line lines ih =>
      obtain ⟨fits, inside⟩ := clean line (by simp)
      have text : joinLines (line :: lines) = line ++ 10 :: joinLines lines := by simp [joinLines]
      rw [text, fgetsLines_line inside (by simpa using fits), List.nil_append, List.foldl_cons]
      exact ih (fun other member => clean other (by simp [member])) (handle s (line ++ [10]))

end Lines

end RyuLdn.CText
