/-!
# Bytes and text

Files hold bytes; a text is bytes in UTF-8. `decode?` reads valid UTF-8 and nothing else, and
`decodeLossy` replaces every part that is not valid.
-/

namespace SweepPlot

/-- A string of bytes. -/
abbrev Bytes := List UInt8

namespace Text.Utf8

/-- The bytes of a text. -/
def encode (s : String) : Bytes := s.toByteArray.data.toList

/-- The text that the bytes stand for, if they are valid UTF-8. -/
def decode? (bytes : Bytes) : Option String := String.fromUTF8? ⟨bytes.toArray⟩

/-- Reading written text gives it back. -/
theorem decode?_encode (s : String) : decode? (encode s) = some s := by
  unfold decode? encode String.fromUTF8?
  have h : (⟨s.toByteArray.data.toList.toArray⟩ : ByteArray) = s.toByteArray := rfl
  simp only [h]
  rw [dif_pos s.isValidUTF8]
  rfl

/-- Reading succeeds exactly on written text. -/
theorem decode?_eq_some_iff {bytes : Bytes} {s : String} :
    decode? bytes = some s ↔ bytes = encode s := by
  constructor
  · intro h
    unfold decode? String.fromUTF8? at h
    split at h
    · cases h
      simp [encode, String.fromUTF8]
    · cases h
  · rintro rfl
    exact decode?_encode s

/-- Whether a byte may follow the first byte of a character. -/
def isContinuation (b : UInt8) : Bool := 0x80 ≤ b && b ≤ 0xbf

/-- Whether the second byte of a character may follow its first one. -/
def secondFits (first second : UInt8) : Bool :=
  if first == 0xe0 then 0xa0 ≤ second && second ≤ 0xbf
  else if first == 0xed then 0x80 ≤ second && second ≤ 0x9f
  else if first == 0xf0 then 0x90 ≤ second && second ≤ 0xbf
  else if first == 0xf4 then 0x80 ≤ second && second ≤ 0x8f
  else isContinuation second

/-- The number of bytes of the character that starts with a byte, if a character can. -/
def width? (first : UInt8) : Option Nat :=
  if first < 0x80 then some 1
  else if 0xc2 ≤ first && first ≤ 0xdf then some 2
  else if 0xe0 ≤ first && first ≤ 0xef then some 3
  else if 0xf0 ≤ first && first ≤ 0xf4 then some 4
  else none

/-- The number of bytes at the front that can start a character, at most `limit`. -/
def continuationLength (first : UInt8) (rest : Bytes) (limit : Nat) : Nat :=
  match rest with
  | [] => 0
  | second :: more =>
    if limit = 0 ∨ secondFits first second = false then 0
    else 1 + ((more.take (limit - 1)).takeWhile isContinuation).length

/-- The code point of a complete character. -/
def codePoint (first : UInt8) (rest : Bytes) : Nat :=
  let lead := match rest.length with
    | 0 => first.toNat
    | 1 => first.toNat % 32
    | 2 => first.toNat % 16
    | _ => first.toNat % 8
  rest.foldl (fun n b => n * 64 + b.toNat % 64) lead

/-- The characters of the bytes, where U+FFFD stands for every longest part that starts no
character or breaks off inside one. -/
def decodeLossyChars : Bytes → List Char
  | [] => []
  | first :: rest =>
    match width? first with
    | none => '\ufffd' :: decodeLossyChars rest
    | some width =>
      let n := continuationLength first rest (width - 1)
      (if n = width - 1 then Char.ofNat (codePoint first (rest.take n)) else '\ufffd') ::
        decodeLossyChars (rest.drop n)
termination_by bytes => bytes.length

/-- The text of the bytes, with U+FFFD for what is not valid UTF-8. -/
def decodeLossy (bytes : Bytes) : String := String.ofList (decodeLossyChars bytes)

end Text.Utf8

end SweepPlot
