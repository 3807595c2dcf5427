import Mathlib.Data.Nat.Digits.Lemmas

/-!
# The small printf

The program is linked with the small C library.  `___vfprintf_internal_r` of
`des3.objdump` goes through the format character by character, and for each
directive it loads a single 32-bit word of the arguments, with or without `l`
in front of it.
-/

namespace TripleDes

namespace SmallPrintf

/-- What the loop expects next, its register `r16`. -/
inductive Mode where
  | text
  | percent
  | width
  | precision

/-- The variables of the loop, the number of arguments taken and the characters
written. -/
structure State where
  mode : Mode
  pad : Bool
  long : Bool
  width : BitVec 32
  precision : BitVec 32
  base : Nat
  signed : Bool
  upper : Bool
  taken : Nat
  output : List Char

def start : State where
  mode := .text
  pad := false
  long := false
  width := 0
  precision := 0
  base := 0
  signed := false
  upper := false
  taken := 0
  output := []

def State.write (state : State) (text : List Char) : State :=
  { state with output := state.output ++ text }

/-- One more digit of a width or of a precision. -/
def scanned (number : BitVec 32) (char : Char) : BitVec 32 :=
  (if number.msb then 0 else number * 10) + .ofNat 32 (char.toNat - 48)

def digitChar (upper : Bool) (digit : Nat) : Char :=
  if digit ≤ 9 then .ofNat (digit + 48)
  else if upper then .ofNat (digit + 55) else .ofNat (digit + 87)

/-- The digits of a value, the last one first, and zeros up to the precision, as
far as the buffer of 32 characters goes. -/
def buffer (state : State) (value : BitVec 32) : List Char :=
  let digits := (Nat.digits state.base value.toNat).map (digitChar state.upper)
  digits ++ List.replicate (min state.precision.toNat 32 - digits.length) '0'

section Directives

-- The words at the argument pointer, and the strings in memory.

variable (words : Nat → BitVec 32) (strings : BitVec 32 → List Char)

/-- A directive for a number.  Both branches of the test of `long` load one
word. -/
def number (state : State) : State :=
  let word := if state.long then words state.taken else words state.taken
  let negative := state.signed && word.msb
  let buffer := buffer state (if negative then -word else word)
  let sign := if negative then ['-'] else []
  let padding := (state.width -
    (.ofNat 32 negative.toNat + .ofNat 32 buffer.length)).toInt.toNat
  let front :=
    if state.pad then sign ++ List.replicate padding '0'
    else List.replicate padding ' ' ++ sign
  { state.write (front ++ buffer.reverse) with
    mode := .text
    taken := state.taken + 1 }

def character (state : State) : State :=
  let padding := (state.width.toInt - 1).toNat
  let char : Char := .ofNat ((words state.taken).toNat % 256)
  { state.write (List.replicate padding ' ' ++ [char]) with
    mode := .text
    taken := state.taken + 1 }

def string (state : State) : State :=
  let text := strings (words state.taken)
  let padding := (state.width - .ofNat 32 text.length).toInt.toNat
  { state.write (List.replicate padding ' ' ++ text) with
    mode := .text
    taken := state.taken + 1 }

/-- The last character of a directive.  With a precision the padding is not by
zeros. -/
def convert (char : Char) (state : State) : State :=
  let state :=
    if state.precision.msb then { state with precision := 1 }
    else { state with pad := false }
  match char with
  | 'X' => number words { state with base := 16, signed := false, upper := true }
  | 'x' => number words { state with base := 16, signed := false }
  | 'o' => number words { state with base := 8, signed := false }
  | 'u' => number words { state with signed := false }
  | 'd' | 'i' => number words state
  | 'c' => character words state
  | 's' => string words strings state
  | _ => { state with mode := .text }

def modifier (char : Char) (state : State) : State :=
  if char = 'l' then { state with mode := .precision, long := true }
  else convert words strings char state

def inPrecision (char : Char) (state : State) : State :=
  if char.isDigit then
    { state with precision := scanned state.precision char }
  else modifier words strings char state

def inWidth (char : Char) (state : State) : State :=
  if char.isDigit then
    { state with mode := .width, width := scanned state.width char }
  else if char = '.' then { state with mode := .precision }
  else modifier words strings char state

/-- One character of the format. -/
def step (state : State) (char : Char) : State :=
  match state.mode with
  | .text =>
      if char = '%' then
        { state with
          mode := .percent
          pad := false
          long := false
          width := -1
          precision := -1
          base := 10
          signed := true
          upper := false }
      else state.write [char]
  | .percent =>
      if char = '0' then { state with mode := .width, pad := true }
      else if char = '%' then
        { state.write [char] with mode := .text }
      else inWidth words strings char state
  | .width => inWidth words strings char state
  | .precision => inPrecision words strings char state

/-- What is written for a format, the characters in front of its final zero. -/
def printf (format : List Char) : List Char :=
  (format.foldl (step words strings) start).output

end Directives

section Numerals

/-- A value in upper-case hexadecimal digits, with zeros in front. -/
def numeral (count value : Nat) : List Char :=
  ((Nat.digitsAppend 16 count value).map (digitChar true)).reverse

/-- Reading a numeral. -/
def digitValue (char : Char) : Nat :=
  if char.toNat ≤ 57 then char.toNat - 48 else char.toNat - 55

def valueOf (text : List Char) : Nat :=
  Nat.ofDigits 16 (text.reverse.map digitValue)

theorem digitValue_digitChar :
    ∀ digit < 16, digitValue (digitChar true digit) = digit := by
  decide

theorem valueOf_numeral (count value : Nat) :
    valueOf (numeral count value) = value := by
  have digits : (Nat.digitsAppend 16 count value).map
      (digitValue ∘ digitChar true) = Nat.digitsAppend 16 count value := by
    refine (List.map_congr_left fun digit member => ?_).trans (List.map_id _)
    exact digitValue_digitChar digit
      (Nat.lt_of_mem_digitsAppend (by decide) count digit member)
  rw [valueOf, numeral, List.reverse_reverse, List.map_map, digits,
    Nat.digitsAppend, Nat.ofDigits_append_replicate_zero, Nat.ofDigits_digits]

theorem numeral_injective (count : Nat) : Function.Injective (numeral count) :=
  Function.LeftInverse.injective (valueOf_numeral count)

theorem numeral_eq_append (count value : Nat) :
    numeral count value =
      List.replicate (count - (Nat.digits 16 value).length) '0' ++
        ((Nat.digits 16 value).map (digitChar true)).reverse := by
  rw [numeral, Nat.digitsAppend, List.map_append, List.reverse_append,
    List.map_replicate, List.reverse_replicate]
  rfl

end Numerals

section Formats

variable (words : Nat → BitVec 32) (strings : BitVec 32 → List Char)

/-- Text is written as it stands. -/
theorem foldl_text {state : State} (inText : state.mode = .text)
    {text : List Char} (plain : '%' ∉ text) :
    text.foldl (step words strings) state = state.write text := by
  induction text generalizing state with
  | nil => simp [State.write]
  | cons char text ih =>
      have notPercent : char ≠ '%' := fun same => plain (same ▸ .head _)
      have written : step words strings state char = state.write [char] := by
        rw [step, inText]
        exact if_neg notPercent
      have rest : '%' ∉ text := fun member => plain (.tail _ member)
      have still : (state.write [char]).mode = .text := inText
      rw [List.foldl_cons, written, ih still rest]
      simp [State.write]

theorem toNat_padding {count length : Nat} (fits : count < 2 ^ 31)
    (enough : length ≤ count) :
    (BitVec.ofNat 32 count - (BitVec.ofNat 32 0 + BitVec.ofNat 32 length) :
      BitVec 32).toInt.toNat = count - length := by
  have difference : BitVec.ofNat 32 count -
      (BitVec.ofNat 32 0 + BitVec.ofNat 32 length) =
        BitVec.ofNat 32 (count - length) := by
    apply BitVec.eq_of_toNat_eq
    simp only [BitVec.toNat_sub, BitVec.toNat_add, BitVec.toNat_ofNat]
    omega
  have small : 2 * (BitVec.ofNat 32 (count - length)).toNat < 2 ^ 32 := by
    rw [BitVec.toNat_ofNat]
    omega
  rw [difference, BitVec.toInt_eq_toNat_of_lt small, BitVec.toNat_ofNat,
    Int.toNat_natCast, Nat.mod_eq_of_lt (by omega)]

/-- Padded with zeros to a width, a word is written as its numeral. -/
theorem number_hexadecimal {state : State} {count : Nat} (enough : 8 ≤ count)
    (fits : count < 2 ^ 31) (width : state.width = .ofNat 32 count)
    (pad : state.pad = true) (precision : state.precision = 1)
    (base : state.base = 16) (unsigned : state.signed = false)
    (upper : state.upper = true) :
    number words state =
      { state.write (numeral count (words state.taken).toNat) with
        mode := .text
        taken := state.taken + 1 } := by
  have short : (Nat.digits 16 (words state.taken).toNat).length ≤ 8 :=
    (Nat.digits_length_le_iff (by decide) _).mpr (words state.taken).isLt
  generalize hDigits : (Nat.digits 16 (words state.taken).toNat).map
    (digitChar true) = digits
  have long : digits.length ≤ 8 := by rwa [← hDigits, List.length_map]
  have filled : buffer state (words state.taken) =
      digits ++ List.replicate (1 - digits.length) '0' := by
    rw [buffer, base, upper, precision, hDigits]
    rfl
  have length : (buffer state (words state.taken)).length =
      max digits.length 1 := by
    rw [filled, List.length_append, List.length_replicate]
    omega
  have written : List.replicate (count - max digits.length 1) '0' ++
      (buffer state (words state.taken)).reverse =
        numeral count (words state.taken).toNat := by
    rw [filled, numeral_eq_append, hDigits, ← List.length_map (digitChar true),
      hDigits, List.reverse_append, List.reverse_replicate, ← List.append_assoc,
      List.replicate_append_replicate]
    congr 2
    omega
  rw [number, ite_self, unsigned, Bool.false_and, pad]
  simp only [if_pos, Bool.false_eq_true, if_false, List.nil_append]
  rw [length, width, Bool.toNat_false, toNat_padding fits (by omega), written]

/-- The directive for sixteen hexadecimal digits of a long long. -/
theorem foldl_directive {state : State} (inText : state.mode = .text) :
    "%016llX".toList.foldl (step words strings) state =
      number words
        { state with
          mode := .precision
          pad := true
          long := true
          width := 16
          precision := 1
          base := 16
          signed := false
          upper := true } := by
  obtain ⟨mode, pad, long, width, precision, base, signed, upper, taken,
    output⟩ := state
  obtain rfl : mode = .text := inText
  have chars : "%016llX".toList = ['%', '0', '1', '6', 'l', 'l', 'X'] := by
    decide
  have width1 : scanned (-1) '1' = 1 := by decide
  have width16 : scanned 1 '6' = 16 := by decide
  have unset : (-1 : BitVec 32).msb = true := by decide
  rw [chars]
  change convert words strings 'X' ⟨.precision, true, true,
    scanned (scanned (-1) '1') '6', -1, 10, true, false, taken, output⟩ = _
  rw [width1, width16, convert, if_pos unset]

/-- Of the two words of a long long only the first is written. -/
theorem printf_output :
    printf words strings "Output: %016llX\n".toList =
      "Output: ".toList ++ numeral 16 (words 0).toNat ++ ['\n'] := by
  have split : "Output: %016llX\n".toList =
      "Output: ".toList ++ "%016llX".toList ++ ['\n'] := by
    decide
  rw [printf, split, List.foldl_append, List.foldl_append,
    foldl_text words strings rfl (by decide),
    foldl_directive words strings rfl,
    number_hexadecimal words (Nat.le_add_left 8 8) (by decide) rfl rfl rfl rfl
      rfl rfl,
    foldl_text words strings rfl (by decide)]
  rfl

end Formats

end SmallPrintf

end TripleDes
