/-!
# SHA-256

The message is padded to whole blocks of sixty-four bytes, every block is mixed into eight words of
state, and the final state in hexadecimal is the digest.
-/

namespace Superstep.Sha256

/-- The first thirty-two bits of the fractional parts of the cube roots of the first primes. -/
def roundConstants : Array UInt32 := #[
  0x428a2f98, 0x71374491, 0xb5c0fbcf, 0xe9b5dba5, 0x3956c25b, 0x59f111f1, 0x923f82a4, 0xab1c5ed5,
  0xd807aa98, 0x12835b01, 0x243185be, 0x550c7dc3, 0x72be5d74, 0x80deb1fe, 0x9bdc06a7, 0xc19bf174,
  0xe49b69c1, 0xefbe4786, 0x0fc19dc6, 0x240ca1cc, 0x2de92c6f, 0x4a7484aa, 0x5cb0a9dc, 0x76f988da,
  0x983e5152, 0xa831c66d, 0xb00327c8, 0xbf597fc7, 0xc6e00bf3, 0xd5a79147, 0x06ca6351, 0x14292967,
  0x27b70a85, 0x2e1b2138, 0x4d2c6dfc, 0x53380d13, 0x650a7354, 0x766a0abb, 0x81c2c92e, 0x92722c85,
  0xa2bfe8a1, 0xa81a664b, 0xc24b8b70, 0xc76c51a3, 0xd192e819, 0xd6990624, 0xf40e3585, 0x106aa070,
  0x19a4c116, 0x1e376c08, 0x2748774c, 0x34b0bcb5, 0x391c0cb3, 0x4ed8aa4a, 0x5b9cca4f, 0x682e6ff3,
  0x748f82ee, 0x78a5636f, 0x84c87814, 0x8cc70208, 0x90befffa, 0xa4506ceb, 0xbef9a3f7, 0xc67178f2]

structure State where
  a : UInt32
  b : UInt32
  c : UInt32
  d : UInt32
  e : UInt32
  f : UInt32
  g : UInt32
  h : UInt32

def State.initial : State :=
  ⟨0x6a09e667, 0xbb67ae85, 0x3c6ef372, 0xa54ff53a, 0x510e527f, 0x9b05688c, 0x1f83d9ab, 0x5be0cd19⟩

def rotate (x : UInt32) (n : UInt32) : UInt32 := (x >>> n) ||| (x <<< (32 - n))

/-- The message with a closing one bit, zeros up to a whole number of blocks less eight bytes, and its
length in bits. -/
def pad (message : ByteArray) : ByteArray :=
  let zeros := (64 - (message.size + 9) % 64) % 64
  let bits := message.size * 8
  let closed := message.push 0x80
  let filled := zeros.fold (fun _ _ bytes => bytes.push 0) closed
  (8 : Nat).fold (fun i _ bytes => bytes.push (UInt8.ofNat (bits >>> (8 * (7 - i))))) filled

def byteAt (bytes : ByteArray) (place : Nat) : UInt8 :=
  if h : place < bytes.size then bytes[place] else 0

/-- The word of four bytes that starts at the given place, the highest byte first. -/
def wordAt (bytes : ByteArray) (start : Nat) : UInt32 :=
  (4 : Nat).fold (fun i _ word => (word <<< 8) ||| (byteAt bytes (start + i)).toUInt32) 0

/-- The sixty-four words that a block is mixed in as. -/
def schedule (bytes : ByteArray) (start : Nat) : Array UInt32 :=
  (64 : Nat).fold (fun i _ words =>
    if i < 16 then words.push (wordAt bytes (start + 4 * i))
    else
      let w15 := words.getD (i - 15) 0
      let w2 := words.getD (i - 2) 0
      let s0 := rotate w15 7 ^^^ rotate w15 18 ^^^ (w15 >>> 3)
      let s1 := rotate w2 17 ^^^ rotate w2 19 ^^^ (w2 >>> 10)
      words.push (words.getD (i - 16) 0 + s0 + words.getD (i - 7) 0 + s1)) #[]

def State.step (s : State) (constant word : UInt32) : State :=
  let s1 := rotate s.e 6 ^^^ rotate s.e 11 ^^^ rotate s.e 25
  let choice := (s.e &&& s.f) ^^^ ((~~~ s.e) &&& s.g)
  let t1 := s.h + s1 + choice + constant + word
  let s0 := rotate s.a 2 ^^^ rotate s.a 13 ^^^ rotate s.a 22
  let majority := (s.a &&& s.b) ^^^ (s.a &&& s.c) ^^^ (s.b &&& s.c)
  ⟨t1 + s0 + majority, s.a, s.b, s.c, s.d + t1, s.e, s.f, s.g⟩

def State.absorb (s : State) (bytes : ByteArray) (start : Nat) : State :=
  let words := schedule bytes start
  let t := (64 : Nat).fold (fun i _ t => t.step (roundConstants.getD i 0) (words.getD i 0)) s
  ⟨s.a + t.a, s.b + t.b, s.c + t.c, s.d + t.d, s.e + t.e, s.f + t.f, s.g + t.g, s.h + t.h⟩

def digest (message : ByteArray) : State :=
  let padded := pad message
  (padded.size / 64).fold (fun i _ s => s.absorb padded (64 * i)) State.initial

def hexWord (word : UInt32) : String :=
  let digits := Nat.toDigits 16 word.toNat
  String.ofList (List.replicate (8 - digits.length) '0' ++ digits)

def hex (text : String) : String :=
  let s := digest text.toUTF8
  String.join ([s.a, s.b, s.c, s.d, s.e, s.f, s.g, s.h].map hexWord)

end Superstep.Sha256
