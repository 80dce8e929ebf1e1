import EvoBlue.Kernel.Url
import EvoBlue.Kernel.Utf8

/-!
# Query strings

`unquote_plus` and `parse_qs` with their defaults: fields between `&`, names and values
around the first `=`, blank values dropped, and escapes decoded as UTF-8 where what is no
UTF-8 becomes the replacement character.
-/

namespace EvoBlue.Kernel

/-! ## Decoding with replacement -/

/-- The second byte of a form with this lead byte. -/
def secondFits (lead b : UInt8) : Bool :=
  isTail b && (lead ≠ 0xe0 || 0xa0 ≤ b.toNat) && (lead ≠ 0xed || b.toNat < 0xa0) &&
    (lead ≠ 0xf0 || 0x90 ≤ b.toNat) && (lead ≠ 0xf4 || b.toNat < 0x90)

/-- How many bytes one replacement character stands for, where no code point begins. -/
def malformedPrefix : Bytes → Nat
  | lead :: b :: rest =>
    if 0xe0 ≤ lead.toNat && lead.toNat < 0xf5 && secondFits lead b then
      match rest with
      | c :: _ => if 0xf0 ≤ lead.toNat && isTail c then 3 else 2
      | [] => 2
    else 1
  | _ => 1

def decodeReplaceAtMost : (fuel : Nat) → Bytes → Text
  | _, [] => []
  | 0, _ => []
  | fuel + 1, bytes =>
    match decodeFirst bytes with
    | some (c, rest) => c :: decodeReplaceAtMost fuel rest
    | none => codePoint 0xfffd :: decodeReplaceAtMost fuel (bytes.drop (malformedPrefix bytes))

/-- `bytes.decode("utf-8", "replace")`. -/
def decodeReplace (bytes : Bytes) : Text := decodeReplaceAtMost bytes.length bytes

/-! ## Escapes -/

/-- The byte of an escape at the start of a text. -/
def escapedByte : Text → Option UInt8
  | percent :: high :: low :: _ =>
    if percent = cp '%' then
      match hexValue high, hexValue low with
      | some high, some low => some (.ofNat (high * 16 + low))
      | _, _ => none
    else none
  | _ => none

/-- The bytes of an ASCII text with its escapes; `skip` characters of an escape are still
to be passed over. -/
def unquoteBytes : (skip : Nat) → Text → Bytes
  | _, [] => []
  | skip + 1, _ :: rest => unquoteBytes skip rest
  | 0, c :: rest =>
    match escapedByte (c :: rest) with
    | some byte => byte :: unquoteBytes 2 rest
    | none => .ofNat c.val :: unquoteBytes 0 rest

/-- `unquote`: every run of ASCII is decoded, what stands between is left. -/
def unquote (t : Text) : Text :=
  if cp '%' ∈ t then
    (t.splitBy fun c d => isAscii c == isAscii d).flatMap fun part =>
      if part.all isAscii then decodeReplace (unquoteBytes 0 part) else part
  else t

def unquotePlus (t : Text) : Text := unquote (t.map fun c => if c = cp '+' then cp ' ' else c)

theorem unquotePlus_plain {t : Text} (plus : cp '+' ∉ t) (percent : cp '%' ∉ t) :
    unquotePlus t = t := by
  have same : t.map (fun c => if c = cp '+' then cp ' ' else c) = t := by
    conv_rhs => rw [← List.map_id t]
    apply List.map_congr_left
    intro c mem
    have other : c ≠ cp '+' := fun plain => plus (plain ▸ mem)
    rw [if_neg other, id]
  unfold unquotePlus unquote
  rw [same, if_neg percent]

/-! ## Fields -/

/-- `parse_qsl`. -/
def parseQsl (query : Text) : List (Text × Text) :=
  if query = [] then []
  else
    (query.splitOn (cp '&')).filterMap fun field =>
      if field = [] then none
      else
        let (name, value) := splitAtMark '=' field
        if value = [] then none else some (unquotePlus name, unquotePlus value)

/-- `parse_qs(query).get(name)`, `[]` for `None`. -/
def parseQs (query name : Text) : List Text :=
  (parseQsl query).filterMap fun pair => if pair.1 = name then some pair.2 else none

/-- The query of one plain field. -/
theorem parseQs_single {name value : Text} (valued : value ≠ [])
    (plainName : ∀ c ∈ name, c ≠ cp '&' ∧ c ≠ cp '=' ∧ c ≠ cp '+' ∧ c ≠ cp '%')
    (plainValue : ∀ c ∈ value, c ≠ cp '&' ∧ c ≠ cp '+' ∧ c ≠ cp '%') :
    parseQs (name ++ cp '=' :: value) name = [value] := by
  have whole : name ++ cp '=' :: value ≠ [] := by simp
  have oneField : (name ++ cp '=' :: value).splitOn (cp '&') = [name ++ cp '=' :: value] := by
    apply List.splitOn_eq_singleton_of_beq_eq_false
    intro c mem
    rcases List.mem_append.1 mem with front | back
    · simpa using (plainName c front).1
    · rcases List.mem_cons.1 back with same | later
      · rw [same]
        decide
      · simpa using (plainValue c later).1
  have parted : splitAtMark '=' (name ++ cp '=' :: value) = (name, value) :=
    splitAtMark_append fun mem => (plainName _ mem).2.1 rfl
  have nameKept : unquotePlus name = name :=
    unquotePlus_plain (fun mem => (plainName _ mem).2.2.1 rfl) fun mem => (plainName _ mem).2.2.2 rfl
  have valueKept : unquotePlus value = value :=
    unquotePlus_plain (fun mem => (plainValue _ mem).2.1 rfl) fun mem => (plainValue _ mem).2.2 rfl
  unfold parseQs parseQsl
  rw [if_neg whole, oneField]
  simp [whole, parted, valued, nameKept, valueKept]

end EvoBlue.Kernel
