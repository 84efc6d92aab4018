import Panakoes.Foundation.JsonText

/-! # Percent-encoded text

The decoding of percent-encoded text, as Python's `urllib.parse` does it: runs of ASCII
characters are read as octets, and the octets as UTF-8 with a replacement character for
what is no UTF-8.
-/

namespace PercentCoding

open JsonText (hexValue)

/-- The replacement character. -/
def replacement : Char := '\ufffd'

/-- A character that has begun: how many octets are owed, the bounds of the next one, and the
code so far. -/
structure Partial where
  owed : ℕ
  low : ℕ
  high : ℕ
  code : ℕ

/-- An octet where a character begins: the characters it completes, and what it begins. -/
def start (octet : ℕ) : List Char × Option Partial :=
  if octet < 0x80 then ([Char.ofNat octet], none)
  else if octet < 0xc2 then ([replacement], none)
  else if octet < 0xe0 then ([], some ⟨1, 0x80, 0xbf, octet - 0xc0⟩)
  else if octet < 0xf0 then
    ([], some ⟨2, if octet = 0xe0 then 0xa0 else 0x80, if octet = 0xed then 0x9f else 0xbf,
      octet - 0xe0⟩)
  else if octet < 0xf5 then
    ([], some ⟨3, if octet = 0xf0 then 0x90 else 0x80, if octet = 0xf4 then 0x8f else 0xbf,
      octet - 0xf0⟩)
  else ([replacement], none)

/-- One octet. One that does not continue a character begins another. -/
def Partial.next (place : Partial) (octet : ℕ) : List Char × Option Partial :=
  if place.low ≤ octet ∧ octet ≤ place.high then
    let code := place.code * 64 + (octet - 0x80)
    if place.owed = 1 then ([Char.ofNat code], none)
    else ([], some ⟨place.owed - 1, 0x80, 0xbf, code⟩)
  else
    let (chars, begun) := start octet
    (replacement :: chars, begun)

/-- `bytes.decode("utf-8", "replace")`, from inside a character. -/
def decodeFrom : Option Partial → List ℕ → List Char
  | none, [] => []
  | some _, [] => [replacement]
  | place, octet :: rest =>
      let (chars, begun) :=
        match place with
        | none => start octet
        | some place => place.next octet
      chars ++ decodeFrom begun rest

/-- `unquote_to_bytes` of ASCII text. -/
def unquoteToBytes : List Char → List ℕ
  | [] => []
  | '%' :: high :: low :: rest =>
      match hexValue high, hexValue low with
      | some high, some low => (high * 16 + low) :: unquoteToBytes rest
      | _, _ => '%'.toNat :: unquoteToBytes (high :: low :: rest)
  | char :: rest => char.toNat :: unquoteToBytes rest

/-- A run of characters that are all ASCII, or all not. -/
def unquoteRun (run : List Char) : List Char :=
  if run.all (·.toNat < 128) then decodeFrom none (unquoteToBytes run) else run

/-- `unquote`. -/
def unquote (text : List Char) : List Char :=
  (text.splitBy fun left right => left.toNat < 128 ↔ right.toNat < 128).flatMap unquoteRun

/-- `unquote_plus`. -/
def unquotePlus (text : List Char) : List Char :=
  unquote (text.map fun char => if char = '+' then ' ' else char)

example : unquotePlus "a+b%2Fc%C3%A9%zé%ff%e2%82".toList = "a b/cé%zé\ufffd\ufffd".toList := by
  decide +kernel

end PercentCoding
