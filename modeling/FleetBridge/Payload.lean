/-!
What a message carries: bytes, which need not be text.
-/
namespace FleetBridge

abbrev Payload := ByteArray

namespace Payload

def ofText (s : String) : Payload := s.toUTF8

/-- The text that the bytes encode in UTF-8, if they encode one. -/
def text? (p : Payload) : Option String := String.fromUTF8? p

/-- Stands for a byte that encodes no character. -/
def stray : Char := '\x00'

/-- The characters from a place on, after those already found, which are given backwards. A zero
byte is shown as another control character, so that it is not taken for a stray byte. -/
def symbolsFrom (p : Payload) (i : Nat) (done : List Char) : List Char :=
  if i < p.size then
    match p.utf8DecodeChar? i with
    | some c => symbolsFrom p (i + c.utf8Size) ((if c = stray then '\x01' else c) :: done)
    | none => symbolsFrom p (i + 1) (stray :: done)
  else done.reverse
termination_by p.size - i
decreasing_by
  · have := c.utf8Size_pos
    omega
  · omega

/-- The characters that the bytes encode, with stray bytes in their places. -/
def symbols (p : Payload) : List Char := symbolsFrom p 0 []

end Payload
end FleetBridge
