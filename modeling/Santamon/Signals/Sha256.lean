import Mathlib.Data.List.Basic

namespace Santamon.Signals

/-- The round constants of SHA-256 (FIPS 180-4, 4.2.2). -/
def roundConstants : List UInt32 :=
  [0x428a2f98, 0x71374491, 0xb5c0fbcf, 0xe9b5dba5, 0x3956c25b, 0x59f111f1, 0x923f82a4, 0xab1c5ed5,
   0xd807aa98, 0x12835b01, 0x243185be, 0x550c7dc3, 0x72be5d74, 0x80deb1fe, 0x9bdc06a7, 0xc19bf174,
   0xe49b69c1, 0xefbe4786, 0x0fc19dc6, 0x240ca1cc, 0x2de92c6f, 0x4a7484aa, 0x5cb0a9dc, 0x76f988da,
   0x983e5152, 0xa831c66d, 0xb00327c8, 0xbf597fc7, 0xc6e00bf3, 0xd5a79147, 0x06ca6351, 0x14292967,
   0x27b70a85, 0x2e1b2138, 0x4d2c6dfc, 0x53380d13, 0x650a7354, 0x766a0abb, 0x81c2c92e, 0x92722c85,
   0xa2bfe8a1, 0xa81a664b, 0xc24b8b70, 0xc76c51a3, 0xd192e819, 0xd6990624, 0xf40e3585, 0x106aa070,
   0x19a4c116, 0x1e376c08, 0x2748774c, 0x34b0bcb5, 0x391c0cb3, 0x4ed8aa4a, 0x5b9cca4f, 0x682e6ff3,
   0x748f82ee, 0x78a5636f, 0x84c87814, 0x8cc70208, 0x90befffa, 0xa4506ceb, 0xbef9a3f7, 0xc67178f2]

/-- The eight working variables of a round, and the eight words of a hash value. -/
structure HashState where
  a : UInt32
  b : UInt32
  c : UInt32
  d : UInt32
  e : UInt32
  f : UInt32
  g : UInt32
  h : UInt32
  deriving DecidableEq, Repr

/-- The initial hash value (FIPS 180-4, 5.3.3). -/
def initialHash : HashState :=
  ⟨0x6a09e667, 0xbb67ae85, 0x3c6ef372, 0xa54ff53a, 0x510e527f, 0x9b05688c, 0x1f83d9ab, 0x5be0cd19⟩

def rotr (x n : UInt32) : UInt32 := (x >>> n) ||| (x <<< (32 - n))

def bigSigma0 (x : UInt32) : UInt32 := rotr x 2 ^^^ rotr x 13 ^^^ rotr x 22

def bigSigma1 (x : UInt32) : UInt32 := rotr x 6 ^^^ rotr x 11 ^^^ rotr x 25

def smallSigma0 (x : UInt32) : UInt32 := rotr x 7 ^^^ rotr x 18 ^^^ (x >>> 3)

def smallSigma1 (x : UInt32) : UInt32 := rotr x 17 ^^^ rotr x 19 ^^^ (x >>> 10)

/-- The message length in bits, as eight big-endian bytes. -/
def lengthBytes (n : Nat) : List UInt8 :=
  [56, 48, 40, 32, 24, 16, 8, 0].map fun s => UInt8.ofNat (n >>> s % 256)

/-- Padding (FIPS 180-4, 5.1.1): a one bit, zeros up to 56 bytes modulo 64, the bit length. -/
def padMessage (msg : List UInt8) : List UInt8 :=
  msg ++ [0x80] ++ List.replicate ((119 - msg.length % 64) % 64) 0 ++ lengthBytes (8 * msg.length)

/-- Big-endian words of a block. -/
def words : List UInt8 → List UInt32
  | b0 :: b1 :: b2 :: b3 :: rest =>
    ((b0.toUInt32 <<< 24) ||| (b1.toUInt32 <<< 16) ||| (b2.toUInt32 <<< 8) ||| b3.toUInt32) ::
      words rest
  | _ => []

/-- `n` more words of the message schedule, kept newest first. -/
def extend (ws : List UInt32) : Nat → List UInt32
  | 0 => ws
  | n + 1 =>
    extend ((smallSigma1 (ws.getD 1 0) + ws.getD 6 0 + smallSigma0 (ws.getD 14 0) + ws.getD 15 0) :: ws) n

/-- The 64 words of the message schedule of a block. -/
def schedule (block : List UInt8) : List UInt32 := (extend (words block).reverse 48).reverse

/-- One round, with its round constant and schedule word. -/
def round (s : HashState) (kw : UInt32 × UInt32) : HashState :=
  let t1 := s.h + bigSigma1 s.e + ((s.e &&& s.f) ^^^ (~~~s.e &&& s.g)) + kw.1 + kw.2
  let t2 := bigSigma0 s.a + ((s.a &&& s.b) ^^^ (s.a &&& s.c) ^^^ (s.b &&& s.c))
  ⟨t1 + t2, s.a, s.b, s.c, s.d + t1, s.e, s.f, s.g⟩

def HashState.add (s t : HashState) : HashState :=
  ⟨s.a + t.a, s.b + t.b, s.c + t.c, s.d + t.d, s.e + t.e, s.f + t.f, s.g + t.g, s.h + t.h⟩

/-- The compression of one 64-byte block into the hash value. -/
def compress (s : HashState) (block : List UInt8) : HashState :=
  s.add ((roundConstants.zip (schedule block)).foldl round s)

/-- The hash value after the first `n` blocks of a padded message. -/
def blocks : HashState → Nat → List UInt8 → HashState
  | s, 0, _ => s
  | s, n + 1, msg => blocks (compress s (msg.take 64)) n (msg.drop 64)

def HashState.words (s : HashState) : List UInt32 := [s.a, s.b, s.c, s.d, s.e, s.f, s.g, s.h]

/-- A word as four big-endian bytes. -/
def wordBytes (w : UInt32) : List UInt8 := [(24 : UInt32), 16, 8, 0].map fun s => (w >>> s).toUInt8

/-- `sha256.Sum256`. -/
def sha256 (msg : List UInt8) : List UInt8 :=
  let p := padMessage msg
  (blocks initialHash (p.length / 64) p).words.flatMap wordBytes

theorem sha256_length (msg : List UInt8) : (sha256 msg).length = 32 := by
  simp [sha256, HashState.words, wordBytes]

def hexDigit (n : Nat) : Char := "0123456789abcdef".toList.getD n '0'

/-- `fmt.Sprintf("%x", b)` of a byte slice: two lower-case hex digits per byte. -/
def hex (bs : List UInt8) : String :=
  ⟨bs.flatMap fun b => [hexDigit (b.toNat / 16), hexDigit (b.toNat % 16)]⟩

theorem hex_length (bs : List UInt8) : (hex bs).length = 2 * bs.length := by
  induction bs with
  | nil => rfl
  | cons b bs ih =>
    simp only [hex, String.length, List.flatMap_cons, List.length_append, List.length_cons,
      List.length_nil] at ih ⊢
    omega

theorem hexDigit_mem {n : Nat} (h : n < 16) : hexDigit n ∈ "0123456789abcdef".toList := by
  rw [hexDigit, List.getD_eq_getElem?_getD, List.getElem?_eq_getElem (by simpa using h),
    Option.getD_some]
  exact List.getElem_mem _

theorem hex_mem (bs : List UInt8) : ∀ c ∈ (hex bs).data, c ∈ "0123456789abcdef".toList := by
  simp only [hex, List.mem_flatMap, List.mem_cons, List.not_mem_nil, or_false]
  rintro c ⟨b, -, rfl | rfl⟩ <;> exact hexDigit_mem (by have : b.toNat < 256 := b.toNat_lt_size; omega)

/-- `[]byte(s)`: the UTF-8 encoding of a string. -/
def utf8Bytes (s : String) : List UInt8 := s.data.flatMap String.utf8EncodeChar

set_option maxRecDepth 8000 in
example : hex (sha256 (utf8Bytes "abc")) =
    "ba7816bf8f01cfea414140de5dae2223b00361a396177a9cb410ff61f20015ad" := by
  decide

set_option maxRecDepth 8000 in
example : hex (sha256 (utf8Bytes "abcdbcdecdefdefgefghfghighijhijkijkljklmklmnlmnomnopnopq")) =
    "248d6a61d20638b8e5c026930c3e6039a33ce45964ff2167f6ecedd419db06c1" := by
  decide

end Santamon.Signals
