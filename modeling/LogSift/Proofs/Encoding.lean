import LogSift.Proofs.Occurrences
import LogSift.Text.Utf8

/-!
What is written as UTF-8 is read back. The bytes of a character are one chunk (`chunk_append`), so
lossy reading changes no text (`decodeLossy_encodeChars`), and it empties no bytes
(`decodeLossy_eq_empty`). A piece of a text has the bytes between the offsets of its ends
(`encodeChars_extract`).
-/

namespace LogSift.Utf8

open Token (byteLength byteLength_append byteLength_cons)

/-- The bytes of characters. -/
def encodeChars (cs : List Char) : List UInt8 := cs.flatMap String.utf8EncodeChar

/-- The number of bytes before a position in a text. -/
def offset (cs : List Char) (p : Nat) : Nat := byteLength (cs.take p)

variable {c : Char} {cs : List Char} {rest bytes : List UInt8} {b : UInt8}
  {n count low high bits fit fuel : Nat}

theorem toList_loop (bytes : ByteArray) (i : Nat) (done : List UInt8) :
    ByteArray.toList.loop bytes i done = done.reverse ++ bytes.data.toList.drop i := by
  fun_induction ByteArray.toList.loop bytes i done with
  | case1 i done inside ih =>
    have bound : i < bytes.data.toList.length := by simpa using inside
    rw [ih, List.drop_eq_getElem_cons bound]
    simp [ByteArray.get!, inside]
  | case2 i done outside =>
    rw [List.drop_eq_nil_of_le (by simpa using Nat.le_of_not_lt outside), List.append_nil]

theorem encode_ofList (cs : List Char) : encode (.ofList cs) = encodeChars cs := by
  rw [encode, String.toUTF8_eq_toByteArray, String.toByteArray_ofList, ByteArray.toList, toList_loop]
  exact List.toList_data_toByteArray

theorem encode_eq (text : String) : encode text = encodeChars text.toList := by
  rw [← encode_ofList, String.ofList_toList]

@[simp] theorem encodeChars_nil : encodeChars [] = [] := rfl

@[simp] theorem encodeChars_cons : encodeChars (c :: cs) = String.utf8EncodeChar c ++ encodeChars cs :=
  rfl

theorem encodeChars_append (left right : List Char) :
    encodeChars (left ++ right) = encodeChars left ++ encodeChars right := List.flatMap_append

@[simp] theorem encodeChars_eq_nil : encodeChars cs = [] ↔ cs = [] := by
  cases cs with
  | nil => simp
  | cons c cs => simp [String.utf8EncodeChar_ne_nil]

theorem length_encodeChars (cs : List Char) : (encodeChars cs).length = byteLength cs := by
  induction cs with
  | nil => rfl
  | cons c cs ih => rw [encodeChars_cons, List.length_append, String.length_utf8EncodeChar, ih,
      byteLength_cons]

/-! ### Characters -/

theorem tail_zero : tail 0 low high bits fit rest = (true, bits, fit, rest) := by
  cases rest <;> rfl

theorem tail_succ (small : n < 256) (least : low ≤ n) (most : n ≤ high) :
    tail (count + 1) low high bits fit (UInt8.ofNat n :: rest) =
      tail count 0x80 0xBF (bits * 64 + n % 64) (fit + 1) rest := by
  have number : (UInt8.ofNat n).toNat = n := by simp [Nat.mod_eq_of_lt small]
  rw [tail, number, if_pos ⟨least, most⟩]

theorem chunk_of_lead (width : Nat) (first : lead? b = some (count, low, high, bits))
    (others : tail count low high bits 1 bytes = (true, n, width, rest)) :
    chunk (b :: bytes) = some (some (Char.ofNat n), rest) := by
  rw [chunk, first]
  simp only [others]

/-- The bytes of a character are one chunk: the first one tells how many there are and what the
    second one may be, and each of the others brings six bits. -/
theorem chunk_append (c : Char) (rest : List UInt8) :
    chunk (String.utf8EncodeChar c ++ rest) = some (some c, rest) := by
  have back : Char.ofNat c.val.toNat = c := Char.ofNat_toNat c
  have valid : c.val.toNat < 0xD800 ∨ 0xDFFF < c.val.toNat ∧ c.val.toNat < 0x110000 := c.valid
  rw [String.utf8EncodeChar]
  generalize c.val.toNat = v at back valid
  subst back
  have byte (n : Nat) (small : n < 256) : (UInt8.ofNat n).toNat = n := by
    simp [Nat.mod_eq_of_lt small]
  by_cases one : v ≤ 127
  · have first : lead? (UInt8.ofNat v) = some (0, 0, 0, v) := by
      rw [lead?, byte v (by omega), if_pos (by omega)]
    simp only [one, if_true]
    exact chunk_of_lead 1 first tail_zero
  by_cases two : v ≤ 2047
  · have first : lead? (UInt8.ofNat (v / 64 % 32 + 192)) = some (1, 0x80, 0xBF, v / 64) := by
      rw [lead?, byte _ (by omega), if_neg (by omega), if_neg (by omega), if_pos (by omega),
        Nat.add_sub_cancel, Nat.mod_eq_of_lt (by omega)]
    have bits : v / 64 * 64 + (v % 64 + 128) % 64 = v := by omega
    simp only [one, two, if_true, if_false, List.cons_append, List.nil_append]
    refine chunk_of_lead 2 first ?_
    rw [tail_succ (by omega) (by omega) (by omega), tail_zero, bits]
  by_cases three : v ≤ 65535
  · have first : lead? (UInt8.ofNat (v / 4096 % 16 + 224)) =
        some (2, if v / 4096 = 0 then 0xA0 else 0x80, if v / 4096 = 13 then 0x9F else 0xBF,
          v / 4096) := by
      rw [lead?, byte _ (by omega), if_neg (by omega), if_neg (by omega), if_neg (by omega),
        if_pos (by omega), Nat.add_sub_cancel, Nat.mod_eq_of_lt (by omega)]
      simp
    have bits : (v / 4096 * 64 + (v / 64 % 64 + 128) % 64) * 64 + (v % 64 + 128) % 64 = v := by
      omega
    simp only [one, two, three, if_true, if_false, List.cons_append, List.nil_append]
    refine chunk_of_lead 3 first ?_
    rw [tail_succ (by omega) (by split <;> omega) (by split <;> omega),
      tail_succ (by omega) (by omega) (by omega), tail_zero, bits]
  · have first : lead? (UInt8.ofNat (v / 262144 % 8 + 240)) =
        some (3, if v / 262144 = 0 then 0x90 else 0x80, if v / 262144 = 4 then 0x8F else 0xBF,
          v / 262144) := by
      rw [lead?, byte _ (by omega), if_neg (by omega), if_neg (by omega), if_neg (by omega),
        if_neg (by omega), if_pos (by omega), Nat.add_sub_cancel, Nat.mod_eq_of_lt (by omega)]
      simp
    have bits : ((v / 262144 * 64 + (v / 4096 % 64 + 128) % 64) * 64 + (v / 64 % 64 + 128) % 64) *
        64 + (v % 64 + 128) % 64 = v := by omega
    simp only [one, two, three, if_false, List.cons_append, List.nil_append]
    refine chunk_of_lead 4 first ?_
    rw [tail_succ (by omega) (by split <;> omega) (by split <;> omega),
      tail_succ (by omega) (by omega) (by omega), tail_succ (by omega) (by omega) (by omega),
      tail_zero, bits]

/-! ### Lossy reading -/

theorem chunks_encodeChars (enough : cs.length ≤ fuel) : chunks fuel (encodeChars cs) = cs.map some := by
  induction cs generalizing fuel with
  | nil => cases fuel <;> rfl
  | cons c cs ih =>
    cases fuel with
    | zero => simp at enough
    | succ fuel =>
      rw [encodeChars_cons, chunks, chunk_append]
      simp [ih (by simpa using enough)]

theorem length_le_length_encodeChars (cs : List Char) : cs.length ≤ (encodeChars cs).length := by
  rw [length_encodeChars]
  induction cs with
  | nil => simp
  | cons c cs ih =>
    have size : 0 < c.utf8Size := c.utf8Size_pos
    rw [List.length_cons, byteLength_cons]
    omega

/-- Lossy reading changes nothing in a text. -/
theorem decodeLossy_encodeChars (cs : List Char) : decodeLossy (encodeChars cs) = .ofList cs := by
  rw [decodeLossy, chunks_encodeChars (length_le_length_encodeChars cs), List.map_map]
  exact congrArg String.ofList (List.map_id cs)

theorem chunk_ne_none (b : UInt8) (rest : List UInt8) : chunk (b :: rest) ≠ none := by
  intro none
  rw [chunk] at none
  split at none
  · cases none
  · split at none <;> cases none

/-- Bytes are never read as the empty text. -/
theorem decodeLossy_eq_empty : decodeLossy bytes = "" ↔ bytes = [] := by
  cases bytes with
  | nil => exact iff_of_true rfl rfl
  | cons b rest =>
    cases first : chunk (b :: rest) with
    | none => exact absurd first (chunk_ne_none b rest)
    | some pair => simp [decodeLossy, chunks, first]

/-! ### Pieces of texts -/

theorem encodeChars_take (cs : List Char) (p : Nat) :
    encodeChars (cs.take p) = (encodeChars cs).take (offset cs p) := by
  have whole := encodeChars_append (cs.take p) (cs.drop p)
  rw [List.take_append_drop] at whole
  rw [whole, offset, List.take_left' (length_encodeChars _)]

theorem encodeChars_drop (cs : List Char) (p : Nat) :
    encodeChars (cs.drop p) = (encodeChars cs).drop (offset cs p) := by
  have whole := encodeChars_append (cs.take p) (cs.drop p)
  rw [List.take_append_drop] at whole
  rw [whole, offset, List.drop_left' (length_encodeChars _)]

theorem offset_add (cs : List Char) (p n : Nat) :
    offset cs (p + n) = offset cs p + offset (cs.drop p) n := by
  rw [offset, List.take_add, byteLength_append]
  rfl

theorem offset_sub (cs : List Char) (start stop : Nat) :
    offset cs stop - offset cs start = offset (cs.drop start) (stop - start) := by
  rcases Nat.le_total start stop with ordered | reversed
  · have sum := offset_add cs start (stop - start)
    rw [Nat.add_sub_cancel' ordered] at sum
    omega
  · have sum := offset_add cs stop (start - stop)
    rw [Nat.add_sub_cancel' reversed] at sum
    have none : offset (cs.drop start) (stop - start) = 0 := by
      rw [Nat.sub_eq_zero_of_le reversed]
      rfl
    omega

/-- A piece of a text has the bytes between the offsets of its ends. -/
theorem encodeChars_extract (cs : List Char) (start stop : Nat) :
    ((encodeChars cs).toArray.extract (offset cs start) (offset cs stop)).toList =
      encodeChars (cs.toArray.extract start stop).toList := by
  rw [Array.toList_extract, Array.toList_extract, List.extract_eq_take_drop,
    List.extract_eq_take_drop, encodeChars_take, encodeChars_drop, offset_sub]

end LogSift.Utf8
