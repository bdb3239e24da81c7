import Mathlib

/-!
# Names in the order of their bytes

Names are compared character by character, and a file system compares them byte by byte.  Both
orders are the same: a character spelled with more bytes begins with a greater one, and among
those spelled with equally many the bytes are the digits of the code to the base 64.
-/

namespace TickArena

def charBytes (c : Char) : List ℕ :=
  (String.utf8EncodeChar c).map UInt8.toNat

/-- The bytes that a name is stored as. -/
def nameBytes (name : String) : List ℕ :=
  name.toUTF8.data.toList.map UInt8.toNat

/-- How many bytes follow the first, and the mark of the first. -/
def spelling (code : ℕ) : ℕ × ℕ :=
  if code ≤ 0x7f then (0, 0)
  else if code ≤ 0x7ff then (1, 0xc0)
  else if code ≤ 0xffff then (2, 0xe0)
  else (3, 0xf0)

/-- The last digits of a code, each in a byte with the mark of those that follow. -/
def followers : ℕ → ℕ → List ℕ
  | 0, _ => []
  | count + 1, code => followers count (code / 64) ++ [code % 64 + 0x80]

theorem toNat_lt (c : Char) : c.toNat < 0x110000 := by
  rcases c.valid with hlow | ⟨-, hhigh⟩
  · exact lt_trans hlow (by decide)
  · exact hhigh

theorem charBytes_eq (c : Char) :
    charBytes c = (c.toNat / 64 ^ (spelling c.toNat).1 + (spelling c.toNat).2) ::
      followers (spelling c.toNat).1 c.toNat := by
  have hbound := toNat_lt c
  simp only [charBytes, String.utf8EncodeChar, Char.toNat_val, spelling]
  generalize c.toNat = code at hbound
  split_ifs <;> simp [followers] <;> omega

theorem cons_followers_lt {code code' : ℕ} (h : code < code') (mark count : ℕ)
    (rest rest' : List ℕ) :
    (code / 64 ^ count + mark) :: (followers count code ++ rest) <
      (code' / 64 ^ count + mark) :: (followers count code' ++ rest') := by
  induction count generalizing code code' rest rest' with
  | zero => exact List.cons_lt_cons_iff.mpr (.inl (by simpa using h))
  | succ count ih =>
    simp only [followers, List.append_assoc, pow_succ', ← Nat.div_div_eq_div_mul]
    -- the bytes before the last one are those of the code without its last digit
    rcases (Nat.div_le_div_right h.le : code / 64 ≤ code' / 64).lt_or_eq with hhigh | hhigh
    · exact ih hhigh _ _
    · have hlow : code % 64 + 0x80 < code' % 64 + 0x80 := by omega
      rw [hhigh, ← List.cons_append, ← List.cons_append]
      exact List.append_left_lt (List.cons_lt_cons_iff.mpr (.inl hlow))

theorem charBytes_append_lt {c d : Char} (h : c < d) (rest rest' : List ℕ) :
    charBytes c ++ rest < charBytes d ++ rest' := by
  have hcode : c.toNat < d.toNat := h
  have hbound := toNat_lt d
  rw [charBytes_eq, charBytes_eq]
  generalize c.toNat = code at hcode
  generalize d.toNat = code' at hcode hbound
  by_cases hsame : spelling code = spelling code'
  · rw [hsame]
    exact cons_followers_lt hcode _ _ _ _
  · refine List.cons_lt_cons_iff.mpr (.inl ?_)
    unfold spelling at hsame ⊢
    split_ifs at hsame ⊢ <;> simp at hsame ⊢ <;> omega

theorem flatMap_charBytes_lt {chars chars' : List Char} (h : chars < chars') :
    chars.flatMap charBytes < chars'.flatMap charBytes := by
  induction h with
  | nil =>
    rw [List.flatMap_cons, charBytes_eq]
    exact List.nil_lt_cons _ _
  | rel hlt => exact charBytes_append_lt hlt _ _
  | cons _ ih => exact List.append_left_lt ih

theorem nameBytes_eq_flatMap (name : String) :
    nameBytes name = name.toList.flatMap charBytes := by
  have hencoded : name.toUTF8 = name.toList.utf8Encode := by simp
  rw [nameBytes, hencoded, List.utf8Encode, List.data_toByteArray, List.map_flatMap]
  rfl

example : nameBytes "zß" = [0x7a, 0xc3, 0x9f] := by decide

theorem nameBytes_lt {name name' : String} (h : compare name name' = .lt) :
    nameBytes name < nameBytes name' := by
  have hlt : name.toList < name'.toList := String.lt_iff.mp (compareOfLessAndEq_eq_lt.mp h)
  rw [nameBytes_eq_flatMap, nameBytes_eq_flatMap]
  exact flatMap_charBytes_lt hlt

theorem nameBytes_injective : Function.Injective nameBytes := by
  intro name name' h
  have hbytes := List.map_injective_iff.mpr (fun _ _ => UInt8.toNat_inj.mp) h
  exact String.toByteArray_inj.mp (ByteArray.ext (Array.toList_inj.mp hbytes))

end TickArena
