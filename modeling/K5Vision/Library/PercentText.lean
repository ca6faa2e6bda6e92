import K5Vision.Library.Texts
import Mathlib.Data.List.SplitBy

/-!
# Percent-encoding

`unquote` of Python's `urllib.parse`, over a decoder of bytes, and the test for a `%` that begins no
escape.
-/

namespace Library

/-! ## `unquote` -/

/-- `unquote_to_bytes` of a text in ASCII. -/
def unquoteBytes : Text → List UInt8
  | [] => []
  | 37 :: a :: b :: rest =>
      match hexDigitValue a, hexDigitValue b with
      | some high, some low => UInt8.ofNat (16 * high + low) :: unquoteBytes rest
      | _, _ => 37 :: unquoteBytes (a :: b :: rest)
  | c :: rest => UInt8.ofNat c :: unquoteBytes rest

def asciiRuns (text : Text) : List Text := text.splitBy fun a b => a < 128 && b < 128

/-- `unquote(text)`, with a decoder that replaces what is not UTF-8; what is not in ASCII stays. -/
def unquote (decode : List UInt8 → Text) (text : Text) : Text :=
  if 37 ∈ text then
    (asciiRuns text).flatMap fun run =>
      if run.all fun c => c < 128 then decode (unquoteBytes run) else run
  else text

/-! ## Escapes -/

/-- Some `%` is not followed by two hexadecimal digits. -/
def hasBareEscape : Text → Bool
  | [] => false
  | c :: rest =>
      c == 37 && !(2 ≤ rest.length && (rest.take 2).all fun d => (hexDigitValue d).isSome) ||
        hasBareEscape rest

end Library
