import RetroBrowser.Foundation.Digits

/-!
Owns SHA-256 and the keyed hash built from it, as the standard library computes
them: words are numbers below `2 ^ 32`, a message is padded to blocks of sixteen
words, and every block goes through sixty-four rounds.
-/

namespace RetroBrowser.Foundation.Sha2

/-- A number below `wordSize`. -/
abbrev Word := Nat

def wordSize : Nat := 2 ^ 32

def add (left right : Word) : Word := (left + right) % wordSize

/-- Rotation to the right. -/
def rotate (count : Nat) (word : Word) : Word :=
  (word >>> count ||| word <<< (32 - count)) % wordSize

def constants : List Word := [
  0x428a2f98, 0x71374491, 0xb5c0fbcf, 0xe9b5dba5, 0x3956c25b, 0x59f111f1, 0x923f82a4, 0xab1c5ed5,
  0xd807aa98, 0x12835b01, 0x243185be, 0x550c7dc3, 0x72be5d74, 0x80deb1fe, 0x9bdc06a7, 0xc19bf174,
  0xe49b69c1, 0xefbe4786, 0x0fc19dc6, 0x240ca1cc, 0x2de92c6f, 0x4a7484aa, 0x5cb0a9dc, 0x76f988da,
  0x983e5152, 0xa831c66d, 0xb00327c8, 0xbf597fc7, 0xc6e00bf3, 0xd5a79147, 0x06ca6351, 0x14292967,
  0x27b70a85, 0x2e1b2138, 0x4d2c6dfc, 0x53380d13, 0x650a7354, 0x766a0abb, 0x81c2c92e, 0x92722c85,
  0xa2bfe8a1, 0xa81a664b, 0xc24b8b70, 0xc76c51a3, 0xd192e819, 0xd6990624, 0xf40e3585, 0x106aa070,
  0x19a4c116, 0x1e376c08, 0x2748774c, 0x34b0bcb5, 0x391c0cb3, 0x4ed8aa4a, 0x5b9cca4f, 0x682e6ff3,
  0x748f82ee, 0x78a5636f, 0x84c87814, 0x8cc70208, 0x90befffa, 0xa4506ceb, 0xbef9a3f7, 0xc67178f2]

/-- The working variables. -/
structure State where
  a : Word
  b : Word
  c : Word
  d : Word
  e : Word
  f : Word
  g : Word
  h : Word
deriving DecidableEq, Repr

def initial : State where
  a := 0x6a09e667
  b := 0xbb67ae85
  c := 0x3c6ef372
  d := 0xa54ff53a
  e := 0x510e527f
  f := 0x9b05688c
  g := 0x1f83d9ab
  h := 0x5be0cd19

/-- One round, with a round constant and a word of the schedule. -/
def round (state : State) (constant word : Word) : State :=
  let mix := rotate 6 state.e ^^^ rotate 11 state.e ^^^ rotate 25 state.e
  let choice := (state.e &&& state.f) ^^^ ((wordSize - 1 - state.e) &&& state.g)
  let first := (state.h + mix + choice + constant + word) % wordSize
  let mix' := rotate 2 state.a ^^^ rotate 13 state.a ^^^ rotate 22 state.a
  let majority := (state.a &&& state.b) ^^^ (state.a &&& state.c) ^^^ (state.b &&& state.c)
  { a := (first + mix' + majority) % wordSize
    b := state.a
    c := state.b
    d := state.c
    e := add state.d first
    f := state.e
    g := state.f
    h := state.g }

/-- The rounds; `words` holds the next sixteen words of the schedule. -/
def rounds : List Word → List Word → State → State
  | constant :: rest, word :: words, state =>
    let second := words.getD 0 0
    let tenth := words.getD 8 0
    let fifteenth := words.getD 13 0
    let small := rotate 7 second ^^^ rotate 18 second ^^^ second >>> 3
    let small' := rotate 17 fifteenth ^^^ rotate 19 fifteenth ^^^ fifteenth >>> 10
    let next := (word + small + tenth + small') % wordSize
    rounds rest (words ++ [next]) (round state constant word)
  | _, _, state => state

/-- One block. -/
def compress (state : State) (block : List Word) : State :=
  let after := rounds constants block state
  ⟨add state.a after.a, add state.b after.b, add state.c after.c, add state.d after.d,
    add state.e after.e, add state.f after.f, add state.g after.g, add state.h after.h⟩

def wordOf : List UInt8 → Word
  | [first, second, third, fourth] =>
    first.toNat * 2 ^ 24 + second.toNat * 2 ^ 16 + third.toNat * 2 ^ 8 + fourth.toNat
  | _ => 0

/-- The message with its padding. -/
def padded (message : List UInt8) : List UInt8 :=
  let zeros := (119 - message.length % 64) % 64
  message ++ 0x80 :: (List.replicate zeros 0 ++
    ((digits 256 8 (8 * message.length)).map UInt8.ofNat))

def blocks (message : List UInt8) : List (List Word) :=
  (((padded message).toChunks 4).map wordOf).toChunks 16

def digestOf (state : State) : Digest :=
  BitVec.ofNat 256 (digitValue wordSize [state.a, state.b, state.c, state.d, state.e, state.f,
    state.g, state.h])

/-- `hashlib.sha256(message)`. -/
def sha256 (message : List UInt8) : Digest :=
  digestOf ((blocks message).foldl compress initial)
/-- The bytes of a digest. -/
def digestBytes (digest : Digest) : List UInt8 := (digits 256 32 digest.toNat).map UInt8.ofNat

/-- `hmac.new(key, message, hashlib.sha256)`. -/
def hmacSha256 (key message : List UInt8) : Digest :=
  let short := if 64 < key.length then digestBytes (sha256 key) else key
  let filled := short ++ List.replicate (64 - short.length) 0
  let inner := sha256 (filled.map (· ^^^ 0x36) ++ message)
  sha256 (filled.map (· ^^^ 0x5c) ++ digestBytes inner)

example : sha256 [0x61, 0x62, 0x63] =
    0xba7816bf8f01cfea414140de5dae2223b00361a396177a9cb410ff61f20015ad := by
  decide +kernel

end RetroBrowser.Foundation.Sha2
