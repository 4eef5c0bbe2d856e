import SweepPlot.Text.Utf8

/-!
# Bytes as characters

A program that looks at single bytes handles a text as characters below U+0100, one for each byte;
no byte is lost on the way (`toBytes_ofBytes`).
-/

namespace SweepPlot.Text.ByteChars

/-- One character for each byte. -/
def ofBytes (bytes : Bytes) : List Char := bytes.map fun b => Char.ofNat b.toNat

/-- The bytes that the characters stand for. -/
def toBytes (cs : List Char) : Bytes := cs.map fun c => UInt8.ofNat c.toNat

theorem toBytes_ofBytes (bytes : Bytes) : toBytes (ofBytes bytes) = bytes := by
  rw [toBytes, ofBytes, List.map_map]
  refine (List.map_congr_left fun b _ => ?_).trans (List.map_id bytes)
  have hvalid : b.toNat.isValidChar := .inl (Nat.lt_trans (UInt8.toNat_lt b) (by decide))
  have hchar : (Char.ofNat b.toNat).toNat = b.toNat := by
    rw [Char.ofNat, dif_pos hvalid]
    rfl
  rw [Function.comp_apply, hchar, UInt8.ofNat_toNat, id]

/-- The bytes of a text, as characters. -/
def ofString (s : String) : List Char := ofBytes (Utf8.encode s)

/-- The text that the bytes stand for, with U+FFFD for what is not valid UTF-8. -/
def toText (cs : List Char) : String := Utf8.decodeLossy (toBytes cs)

end SweepPlot.Text.ByteChars
