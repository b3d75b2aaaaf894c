import Mathlib.Data.List.Basic

/-!
Decoding of UTF-8 that ignores errors: what is read of a character that goes wrong is dropped,
and decoding resumes at the byte that does not belong to it.
-/

namespace Utf8

/-- Inside a character: the bytes still wanted, the range of the next one and the bits so far. -/
inductive State
  | start
  | inside (wanted low high bits : Nat)

/-- A byte that begins no character is dropped. -/
def first (byte : UInt8) : State × Option Char :=
  let value := byte.toNat
  if value < 0x80 then (.start, some (Char.ofNat value))
  else if value < 0xC2 then (.start, none)
  else if value < 0xE0 then (.inside 1 0x80 0xBF (value % 0x20), none)
  else if value = 0xE0 then (.inside 2 0xA0 0xBF 0, none)
  else if value = 0xED then (.inside 2 0x80 0x9F 0xD, none)
  else if value < 0xF0 then (.inside 2 0x80 0xBF (value % 0x10), none)
  else if value = 0xF0 then (.inside 3 0x90 0xBF 0, none)
  else if value < 0xF4 then (.inside 3 0x80 0xBF (value % 0x08), none)
  else if value = 0xF4 then (.inside 3 0x80 0x8F 4, none)
  else (.start, none)

def next (state : State) (byte : UInt8) : State × Option Char :=
  match state with
  | .start => first byte
  | .inside wanted low high bits =>
      if low ≤ byte.toNat ∧ byte.toNat ≤ high then
        let bits := 64 * bits + byte.toNat % 64
        if wanted ≤ 1 then (.start, some (Char.ofNat bits))
        else (.inside (wanted - 1) 0x80 0xBF bits, none)
      else first byte

def decodeFrom : State → List UInt8 → List Char
  | _, [] => []
  | state, byte :: rest => (next state byte).2.toList ++ decodeFrom (next state byte).1 rest

def decodeIgnore (bytes : List UInt8) : List Char := decodeFrom .start bytes

def encode (text : List Char) : List UInt8 := text.flatMap String.utf8EncodeChar

/-- Characters from the front as long as their bytes fit. -/
def fitting : Nat → List Char → List Char
  | _, [] => []
  | budget, char :: rest =>
      if char.utf8Size ≤ budget then char :: fitting (budget - char.utf8Size) rest else []

structure LongestFit (budget : Nat) (text kept : List Char) : Prop where
  starts : kept <+: text
  fits : (encode kept).length ≤ budget
  longest : ∀ other, other <+: text → (encode other).length ≤ budget → other <+: kept

theorem decodeFrom_cons {state after : State} {byte : UInt8} {emitted : Option Char}
    (steps : next state byte = (after, emitted)) (rest : List UInt8) :
    decodeFrom state (byte :: rest) = emitted.toList ++ decodeFrom after rest := by
  rw [decodeFrom, steps]

/-! ### One character -/

theorem toNat_ofNat {value : Nat} (bound : value < 256) : (UInt8.ofNat value).toNat = value := by
  rw [UInt8.toNat_ofNat', Nat.mod_eq_of_lt bound]

theorem next_inside {wanted low high bits value : Nat} (bound : value < 256) (more : 1 < wanted)
    (above : low ≤ value) (below : value ≤ high) :
    next (.inside wanted low high bits) (UInt8.ofNat value) =
      (.inside (wanted - 1) 0x80 0xBF (64 * bits + value % 64), none) := by
  rw [next, toNat_ofNat bound, if_pos ⟨above, below⟩, if_neg (by omega)]

theorem next_last {low high bits value : Nat} (bound : value < 256) (above : low ≤ value)
    (below : value ≤ high) :
    next (.inside 1 low high bits) (UInt8.ofNat value) =
      (.start, some (Char.ofNat (64 * bits + value % 64))) := by
  rw [next, toNat_ofNat bound, if_pos ⟨above, below⟩, if_pos (Nat.le_refl 1)]

theorem first_ascii {value : Nat} (bound : value < 0x80) :
    first (UInt8.ofNat value) = (.start, some (Char.ofNat value)) := by
  rw [first, toNat_ofNat (by omega), if_pos bound]

theorem first_two {value : Nat} (lower : 0x80 ≤ value) (upper : value ≤ 0x7FF) :
    first (UInt8.ofNat (value / 64 % 0x20 + 0xC0)) =
      (.inside 1 0x80 0xBF (value / 64), none) := by
  have same : (value / 64 % 0x20 + 0xC0) % 0x20 = value / 64 := by omega
  rw [first, toNat_ofNat (by omega), if_neg (by omega), if_neg (by omega), if_pos (by omega), same]

/-- The second byte of the character is in the range its first one allows. -/
theorem first_three {value : Nat} (lower : 0x800 ≤ value) (upper : value ≤ 0xFFFF)
    (scalar : value < 0xD800 ∨ 0xDFFF < value) :
    ∃ low high, first (UInt8.ofNat (value / 4096 % 0x10 + 0xE0)) =
        (.inside 2 low high (value / 4096), none) ∧
      low ≤ value / 64 % 0x40 + 0x80 ∧ value / 64 % 0x40 + 0x80 ≤ high := by
  have bound : value / 4096 % 0x10 + 0xE0 < 256 := by omega
  rw [first, toNat_ofNat bound, if_neg (by omega), if_neg (by omega), if_neg (by omega)]
  by_cases least : value / 4096 = 0
  · rw [if_pos (by omega), least]
    exact ⟨0xA0, 0xBF, rfl, by omega, by omega⟩
  · rw [if_neg (by omega)]
    by_cases gap : value / 4096 = 0xD
    · rw [if_pos (by omega), gap]
      exact ⟨0x80, 0x9F, rfl, by omega, by omega⟩
    · have same : (value / 4096 % 0x10 + 0xE0) % 0x10 = value / 4096 := by omega
      rw [if_neg (by omega), if_pos (by omega), same]
      exact ⟨0x80, 0xBF, rfl, by omega, by omega⟩

theorem first_four {value : Nat} (lower : 0xFFFF < value) (upper : value < 0x110000) :
    ∃ low high, first (UInt8.ofNat (value / 262144 % 0x08 + 0xF0)) =
        (.inside 3 low high (value / 262144), none) ∧
      low ≤ value / 4096 % 0x40 + 0x80 ∧ value / 4096 % 0x40 + 0x80 ≤ high := by
  have bound : value / 262144 % 0x08 + 0xF0 < 256 := by omega
  rw [first, toNat_ofNat bound, if_neg (by omega), if_neg (by omega), if_neg (by omega),
    if_neg (by omega), if_neg (by omega), if_neg (by omega)]
  by_cases least : value / 262144 = 0
  · rw [if_pos (by omega), least]
    exact ⟨0x90, 0xBF, rfl, by omega, by omega⟩
  · rw [if_neg (by omega)]
    by_cases most : value / 262144 = 4
    · rw [if_neg (by omega), if_pos (by omega), most]
      exact ⟨0x80, 0x8F, rfl, by omega, by omega⟩
    · have same : (value / 262144 % 0x08 + 0xF0) % 0x08 = value / 262144 := by omega
      rw [if_pos (by omega), same]
      exact ⟨0x80, 0xBF, rfl, by omega, by omega⟩

/-- The bytes of a character, from the first one on: those before the last leave the machine
inside it, the last one emits it. -/
inductive Reads : State → List UInt8 → Char → Prop
  | last (state : State) (byte : UInt8) (char : Char)
      (steps : next state byte = (.start, some char)) : Reads state [byte] char
  | more (state : State) (byte : UInt8) (after : State) (rest : List UInt8) (char : Char)
      (steps : next state byte = (after, none)) (reads : Reads after rest char) :
      Reads state (byte :: rest) char

theorem reads_encodeChar (char : Char) : Reads .start (String.utf8EncodeChar char) char := by
  have emitted : Char.ofNat char.val.toNat = char := Char.ofNat_toNat char
  have valid : char.val.toNat < 0xD800 ∨ 0xDFFF < char.val.toNat ∧ char.val.toNat < 0x110000 :=
    char.valid
  rw [String.utf8EncodeChar]
  generalize char.val.toNat = value at emitted valid
  subst emitted
  split
  · exact .last _ _ _ (first_ascii (by omega))
  · split
    · refine .more _ _ _ _ _ (first_two (by omega) (by omega)) (.last _ _ _ ?_)
      rw [next_last (by omega) (by omega) (by omega)]
      congr 3
      omega
    · split
      · obtain ⟨low, high, lead, above, below⟩ :=
          @first_three value (by omega) (by omega) (by omega)
        refine .more _ _ _ _ _ lead (.more _ _ _ _ _
          (next_inside (by omega) (by omega) above below) (.last _ _ _ ?_))
        rw [next_last (by omega) (by omega) (by omega)]
        congr 3
        omega
      · obtain ⟨low, high, lead, above, below⟩ := @first_four value (by omega) (by omega)
        refine .more _ _ _ _ _ lead (.more _ _ _ _ _
          (next_inside (by omega) (by omega) above below) (.more _ _ _ _ _
          (next_inside (by omega) (by omega) (by omega) (by omega)) (.last _ _ _ ?_)))
        rw [next_last (by omega) (by omega) (by omega)]
        congr 3
        omega

theorem Reads.decode {state : State} {bytes : List UInt8} {char : Char}
    (reads : Reads state bytes char) (rest : List UInt8) :
    decodeFrom state (bytes ++ rest) = char :: decodeFrom .start rest := by
  induction reads with
  | last state byte char steps =>
      rw [List.singleton_append, decodeFrom_cons steps]
      rfl
  | more state byte after bytes char steps reads ih =>
      rw [List.cons_append, decodeFrom_cons steps, ih]
      rfl

/-- Cut off before its last byte, a character leaves nothing. -/
theorem Reads.decode_take {state : State} {bytes : List UInt8} {char : Char}
    (reads : Reads state bytes char) {count : Nat} (cut : count < bytes.length) :
    decodeFrom state (bytes.take count) = [] := by
  induction reads generalizing count with
  | last state byte char steps =>
      simp only [List.length_singleton, Nat.lt_one_iff] at cut
      subst cut
      rfl
  | more state byte after bytes char steps reads ih =>
      cases count with
      | zero => rfl
      | succ count =>
          rw [List.take_succ_cons, decodeFrom_cons steps, ih (by simpa using cut)]
          rfl

/-! ### A text -/

section

variable {budget : Nat} {text kept : List Char}

theorem length_encode_cons (char : Char) (text : List Char) :
    (encode (char :: text)).length = char.utf8Size + (encode text).length := by
  simp [encode]

theorem decodeIgnore_encode_take (budget : Nat) (text : List Char) :
    decodeIgnore ((encode text).take budget) = fitting budget text := by
  induction text generalizing budget with
  | nil => simp [encode, decodeIgnore, decodeFrom, fitting]
  | cons char rest ih =>
      have reads := reads_encodeChar char
      have width := String.length_utf8EncodeChar char
      rw [encode, List.flatMap_cons, List.take_append, width, fitting]
      by_cases fits : char.utf8Size ≤ budget
      · rw [if_pos fits, List.take_of_length_le (by omega), decodeIgnore, reads.decode]
        exact congrArg (char :: ·) (ih (budget - char.utf8Size))
      · have spent : budget - char.utf8Size = 0 := by omega
        rw [if_neg fits, spent, List.take_zero, List.append_nil]
        exact reads.decode_take (by omega)

example : decodeIgnore [0x61, 0xE2, 0x82] = ['a'] := by decide

theorem fitting_longest (budget : Nat) (text : List Char) :
    LongestFit budget text (fitting budget text) := by
  induction text generalizing budget with
  | nil => exact ⟨List.nil_prefix, Nat.zero_le budget, fun other starts _ => starts⟩
  | cons char rest ih =>
      rw [fitting]
      by_cases fits : char.utf8Size ≤ budget
      · rw [if_pos fits]
        obtain ⟨starts, within, longest⟩ := ih (budget - char.utf8Size)
        constructor
        · exact (List.prefix_cons_inj char).mpr starts
        · rw [length_encode_cons]
          omega
        · intro other starts below
          cases other with
          | nil => exact List.nil_prefix
          | cons head tail =>
              obtain ⟨rfl, later⟩ := List.cons_prefix_cons.mp starts
              rw [length_encode_cons] at below
              exact List.cons_prefix_cons.mpr ⟨rfl, longest tail later (by omega)⟩
      · rw [if_neg fits]
        constructor
        · exact List.nil_prefix
        · exact Nat.zero_le budget
        · intro other starts below
          cases other with
          | nil => exact List.nil_prefix
          | cons head tail =>
              obtain ⟨rfl, _⟩ := List.cons_prefix_cons.mp starts
              rw [length_encode_cons] at below
              omega

theorem LongestFit.unique {first second : List Char} (one : LongestFit budget text first)
    (two : LongestFit budget text second) : first = second := by
  have forth := two.longest first one.starts one.fits
  have back := one.longest second two.starts two.fits
  exact forth.eq_of_length (Nat.le_antisymm forth.length_le back.length_le)

theorem LongestFit.idem (longest : LongestFit budget text kept) : LongestFit budget kept kept :=
  ⟨List.prefix_refl kept, longest.fits, fun _ starts _ => starts⟩

end

end Utf8
