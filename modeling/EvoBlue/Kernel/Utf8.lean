import EvoBlue.Kernel.Text

/-!
# Strict UTF-8

Encoding refuses lone surrogates. Decoding accepts the shortest form of every
code point that is not a surrogate, and nothing else, so that each of the two
inverts the other.
-/

namespace EvoBlue.Kernel

abbrev Bytes := List UInt8

def isSurrogate (c : CodePoint) : Bool := 0xd800 ≤ c.val && c.val ≤ 0xdfff

/-- The bytes of one code point, which is not a surrogate. -/
def encodedForm (c : CodePoint) : Bytes :=
  let n := c.val
  if n < 0x80 then [.ofNat n]
  else if n < 0x800 then [.ofNat (0xc0 + n / 64), .ofNat (0x80 + n % 64)]
  else if n < 0x10000 then
    [.ofNat (0xe0 + n / 4096), .ofNat (0x80 + n / 64 % 64), .ofNat (0x80 + n % 64)]
  else
    [.ofNat (0xf0 + n / 262144), .ofNat (0x80 + n / 4096 % 64), .ofNat (0x80 + n / 64 % 64),
      .ofNat (0x80 + n % 64)]

/-- A text that can be encoded. -/
def Encodable (t : Text) : Prop := ∀ c ∈ t, isSurrogate c = false

instance (t : Text) : Decidable (Encodable t) :=
  List.decidableBAll (fun c => isSurrogate c = false) t

/-- `str.encode("utf-8")`; it raises on a surrogate. -/
def encodeUtf8 (t : Text) : Option Bytes :=
  if Encodable t then some (t.flatMap encodedForm) else none

def isTail (b : UInt8) : Bool := 0x80 ≤ b.toNat && b.toNat < 0xc0

def tailBits (b : UInt8) : Nat := b.toNat - 0x80

/-- A two-byte form after its lead byte. -/
def decodeTwo (lead : Nat) : Bytes → Option (CodePoint × Bytes)
  | b :: rest =>
    if isTail b then some (codePoint ((lead - 0xc0) * 64 + tailBits b), rest) else none
  | [] => none

/-- A three-byte form after its lead byte. -/
def decodeThree (lead : Nat) : Bytes → Option (CodePoint × Bytes)
  | b :: c :: rest =>
    let value := (lead - 0xe0) * 4096 + tailBits b * 64 + tailBits c
    if isTail b && isTail c && 0x800 ≤ value && !isSurrogate (codePoint value) then
      some (codePoint value, rest)
    else none
  | _ => none

/-- A four-byte form after its lead byte. -/
def decodeFour (lead : Nat) : Bytes → Option (CodePoint × Bytes)
  | b :: c :: d :: rest =>
    let value := (lead - 0xf0) * 262144 + tailBits b * 4096 + tailBits c * 64 + tailBits d
    if isTail b && isTail c && isTail d && 0x10000 ≤ value && value < 0x110000 then
      some (codePoint value, rest)
    else none
  | _ => none

/-- The first code point of a byte sequence, and what follows it. -/
def decodeFirst : Bytes → Option (CodePoint × Bytes)
  | [] => none
  | a :: rest =>
    let lead := a.toNat
    if lead < 0x80 then some (codePoint lead, rest)
    else if 0xc2 ≤ lead ∧ lead < 0xe0 then decodeTwo lead rest
    else if 0xe0 ≤ lead ∧ lead < 0xf0 then decodeThree lead rest
    else if 0xf0 ≤ lead ∧ lead < 0xf5 then decodeFour lead rest
    else none

/-- Decode at most `fuel` code points, which must use up the bytes. -/
def decodeAtMost : (fuel : Nat) → Bytes → Option Text
  | _, [] => some []
  | 0, _ => none
  | fuel + 1, bytes =>
    match decodeFirst bytes with
    | none => none
    | some (c, rest) => (decodeAtMost fuel rest).map (c :: ·)

/-- `bytes.decode("utf-8")`; a code point takes at least one byte. -/
def decodeUtf8 (bytes : Bytes) : Option Text := decodeAtMost bytes.length bytes

/-! ## The two are inverse -/

theorem toNat_ofNat_lt {n : Nat} (small : n < 256) : (UInt8.ofNat n).toNat = n := by
  rw [UInt8.toNat_ofNat']
  omega

theorem isTail_iff (b : UInt8) : isTail b = true ↔ 0x80 ≤ b.toNat ∧ b.toNat < 0xc0 := by
  unfold isTail
  rw [Bool.and_eq_true, decide_eq_true_iff, decide_eq_true_iff]

theorem isTail_ofNat {n : Nat} (small : n < 64) : isTail (.ofNat (0x80 + n)) = true := by
  rw [isTail_iff, toNat_ofNat_lt (by omega)]
  omega

theorem tailBits_ofNat {n : Nat} (small : n < 64) : tailBits (.ofNat (0x80 + n)) = n := by
  unfold tailBits
  rw [toNat_ofNat_lt (by omega)]
  omega

theorem decodeFirst_encodedForm {c : CodePoint} (scalar : isSurrogate c = false) (rest : Bytes) :
    decodeFirst (encodedForm c ++ rest) = some (c, rest) := by
  have bound := c.isLt
  have whole : ∀ n, n = c.val → codePoint n = c := fun n same => codePoint_eq same
  unfold encodedForm
  simp only
  split
  · rw [List.cons_append, List.nil_append, decodeFirst, toNat_ofNat_lt (by omega),
      if_pos (by omega), whole _ rfl]
  split
  · rw [List.cons_append, List.cons_append, List.nil_append, decodeFirst,
      toNat_ofNat_lt (by omega), if_neg (by omega), if_pos (by omega), decodeTwo,
      isTail_ofNat (by omega), tailBits_ofNat (by omega), if_pos rfl, whole _ (by omega)]
  split
  · rw [List.cons_append, List.cons_append, List.cons_append, List.nil_append, decodeFirst,
      toNat_ofNat_lt (by omega), if_neg (by omega), if_neg (by omega), if_pos (by omega),
      decodeThree, isTail_ofNat (by omega), isTail_ofNat (by omega), tailBits_ofNat (by omega),
      tailBits_ofNat (by omega)]
    rw [whole _ (by omega), scalar, if_pos (by simp; omega)]
  · rw [List.cons_append, List.cons_append, List.cons_append, List.cons_append, List.nil_append,
      decodeFirst, toNat_ofNat_lt (by omega), if_neg (by omega), if_neg (by omega),
      if_neg (by omega), if_pos (by omega), decodeFour, isTail_ofNat (by omega),
      isTail_ofNat (by omega), isTail_ofNat (by omega), tailBits_ofNat (by omega),
      tailBits_ofNat (by omega), tailBits_ofNat (by omega)]
    rw [whole _ (by omega), if_pos (by simp; omega)]

theorem encodedForm_ne_nil (c : CodePoint) : encodedForm c ≠ [] := by
  unfold encodedForm
  simp only
  split_ifs <;> simp

theorem decodeAtMost_encoded {t : Text} (encodable : Encodable t) {fuel : Nat}
    (enough : (t.flatMap encodedForm).length ≤ fuel) :
    decodeAtMost fuel (t.flatMap encodedForm) = some t := by
  induction t generalizing fuel with
  | nil => cases fuel <;> rfl
  | cons c t ih =>
    rw [List.flatMap_cons] at enough ⊢
    rw [List.length_append] at enough
    have taken := List.length_pos_iff.2 (encodedForm_ne_nil c)
    obtain ⟨fuel, rfl⟩ : ∃ less, fuel = less + 1 := ⟨fuel - 1, by omega⟩
    have first := decodeFirst_encodedForm (encodable c (by simp)) (t.flatMap encodedForm)
    have later := @ih (fun d mem => encodable d (by simp [mem])) fuel (by omega)
    obtain ⟨b, bytes, form⟩ := List.exists_cons_of_ne_nil (encodedForm_ne_nil c)
    rw [form, List.cons_append] at first ⊢
    rw [decodeAtMost, first]
    simp only [later, Option.map_some]
    simp

/-- Decoding what was encoded gives the text back. -/
theorem decode_of_encode {t : Text} {bytes : Bytes} (encoded : encodeUtf8 t = some bytes) :
    decodeUtf8 bytes = some t := by
  unfold encodeUtf8 at encoded
  split at encoded
  next encodable =>
    cases encoded
    exact decodeAtMost_encoded encodable le_rfl
  next => cases encoded

/-! ## Plain strings -/

/-- A text without surrogates is the text of its string. -/
theorem text_plainString {t : Text} (scalars : Encodable t) : text (plainString t) = t := by
  unfold text plainString
  rw [String.toList_ofList, List.map_map]
  conv_rhs => rw [← List.map_id t]
  apply List.map_congr_left
  intro c mem
  have scalar := scalars c mem
  have bound := c.isLt
  have valid : c.val.isValidChar := by
    simp only [isSurrogate, Bool.and_eq_false_iff, decide_eq_false_iff_not] at scalar
    unfold Nat.isValidChar
    omega
  apply Fin.ext
  rw [Function.comp_apply, cp_val, Char.ofNat, dif_pos valid]
  rfl

end EvoBlue.Kernel
