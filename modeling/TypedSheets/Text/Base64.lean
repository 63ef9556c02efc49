/-!
# Base 64

Four characters carry three bytes. Characters outside the alphabet are skipped, and a
group that has at least two characters may be ended early by equals signs; what
stands behind such an end is ignored. A group that is left open at the end of the
text is refused.
-/

namespace TypedSheets.Text

/-- The six bits of a character of the alphabet. -/
def sixBits? (c : Char) : Option Nat :=
  if 'A' ≤ c ∧ c ≤ 'Z' then some (c.toNat - 65)
  else if 'a' ≤ c ∧ c ≤ 'z' then some (c.toNat - 71)
  else if '0' ≤ c ∧ c ≤ '9' then some (c.toNat + 4)
  else if c = '+' then some 62
  else if c = '/' then some 63
  else none

/-- Decodes from within a group: `filled` of its characters are read and `carry` holds the
bits of the last one that no byte has taken; `pads` equals signs stand just before. -/
def decodeGroups? (filled carry pads : Nat) : List Char → Option (List UInt8)
  | [] => if filled = 0 then some [] else none
  | c :: rest =>
    if c = '=' then
      if 2 ≤ filled then
        if 4 ≤ filled + pads + 1 then some [] else decodeGroups? filled carry (pads + 1) rest
      else decodeGroups? filled carry pads rest
    else match sixBits? c with
      | none => decodeGroups? filled carry pads rest
      | some bits =>
        match filled with
        | 0 => decodeGroups? 1 bits 0 rest
        | 1 => (decodeGroups? 2 (bits % 16) 0 rest).map (UInt8.ofNat (carry * 4 + bits / 16) :: ·)
        | 2 => (decodeGroups? 3 (bits % 4) 0 rest).map (UInt8.ofNat (carry * 16 + bits / 4) :: ·)
        | _ => (decodeGroups? 0 0 0 rest).map (UInt8.ofNat (carry * 64 + bits) :: ·)

/-- The bytes that characters carry. -/
def decodeBase64? (cs : List Char) : Option (List UInt8) := decodeGroups? 0 0 0 cs

end TypedSheets.Text
