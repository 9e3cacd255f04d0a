/-! Punycode (RFC 3492): host name labels beyond ASCII, written with letters, digits and hyphens. -/

namespace MediaRelay.Web.Host.Punycode

/-- The bias after a number was written or read; `first` for the first one of a label. -/
def adapt (delta points : Nat) (first : Bool) : Nat :=
  let delta := if first then delta / 700 else delta / 2
  let rec reduce (fuel delta k : Nat) : Nat × Nat :=
    match fuel with
    | 0 => (delta, k)
    | fuel + 1 => if delta > 455 then reduce fuel (delta / 35) (k + 36) else (delta, k)
  let (delta, k) := reduce (Nat.log2 delta + 1) (delta + delta / points) 0
  k + 36 * delta / (delta + 38)

/-- How far the digit at place `k` counts on its own. -/
def threshold (k bias : Nat) : Nat :=
  if k ≤ bias + 1 then 1 else if bias + 26 ≤ k then 26 else k - bias

def digit (n : Nat) : Char :=
  if n < 26 then Char.ofNat ('a'.toNat + n) else Char.ofNat ('0'.toNat + (n - 26))

def digitValue? (c : Char) : Option Nat :=
  if 'a' ≤ c && c ≤ 'z' then some (c.toNat - 'a'.toNat)
  else if 'A' ≤ c && c ≤ 'Z' then some (c.toNat - 'A'.toNat)
  else if '0' ≤ c && c ≤ '9' then some (c.toNat - '0'.toNat + 26)
  else none

/-- A number of variable length, lowest digit first, from place `k` on. -/
def writeNumber (fuel q k bias : Nat) : List Char :=
  match fuel with
  | 0 => []
  | fuel + 1 =>
    let t := threshold k bias
    if q < t then [digit q]
    else digit (t + (q - t) % (36 - t)) :: writeNumber fuel ((q - t) / (36 - t)) (k + 36) bias

structure EncoderState where
  delta : Nat := 0
  bias : Nat := 72
  written : Nat
  out : List Char

/-- Writes every occurrence of the code point `n`. -/
def encodePoint (n basic : Nat) (st : EncoderState) : List Char → EncoderState
  | [] => st
  | c :: cs =>
    if c.toNat < n then encodePoint n basic { st with delta := st.delta + 1 } cs
    else if c.toNat = n then
      let number := writeNumber (Nat.log2 st.delta + 2) st.delta 36 st.bias
      encodePoint n basic
        { delta := 0
          bias := adapt st.delta (st.written + 1) (st.written = basic)
          written := st.written + 1
          out := st.out ++ number } cs
    else encodePoint n basic st cs

/-- Goes through the code points from `n` up. -/
def encodeFrom (label : List Char) (basic n : Nat) (st : EncoderState) : List Nat → EncoderState
  | [] => st
  | m :: ms =>
    let st := { st with delta := st.delta + (m - n) * (st.written + 1) }
    let st := encodePoint m basic st label
    encodeFrom label basic (m + 1) { st with delta := st.delta + 1 } ms

/-- The label without the mark that says it is one in Punycode. -/
def encode (label : List Char) : List Char :=
  let basic := label.filter (·.toNat < 0x80)
  let points := ((label.map Char.toNat).filter (0x80 ≤ ·)).eraseDups.mergeSort
  let out := if basic.isEmpty then [] else basic ++ ['-']
  (encodeFrom label basic.length 0x80 { written := basic.length, out } points).out

/-- Reads numbers and puts in the characters they stand for. `old` is the state before the number at hand. -/
def decodeDigits (n i bias old w k : Nat) (out : List Char) : List Char → Option (List Char)
  | [] => if k = 36 then some out else none
  | c :: cs =>
    match digitValue? c with
    | none => none
    | some d =>
      let i := i + d * w
      let t := threshold k bias
      if d < t then
        let length := out.length + 1
        let n := n + i / length
        let at_ := i % length
        if n > 0x10FFFF || (0xD800 ≤ n && n < 0xE000) then none
        else
          decodeDigits n (at_ + 1) (adapt (i - old) length (old = 0)) (at_ + 1) 1 36
            (out.take at_ ++ Char.ofNat n :: out.drop at_) cs
      else decodeDigits n i bias old (w * (36 - t)) (k + 36) out cs

/-- The label that is written so; `none` if nothing is. -/
def decode (text : List Char) : Option (List Char) :=
  let back := text.reverse.takeWhile (· ≠ '-')
  let front := (text.reverse.drop (back.length + 1)).reverse
  if text.contains '-' then
    if front.isEmpty then none
    else if front.all (·.toNat < 0x80) then decodeDigits 0x80 0 72 0 1 36 front back.reverse else none
  else decodeDigits 0x80 0 72 0 1 36 [] text

end MediaRelay.Web.Host.Punycode
