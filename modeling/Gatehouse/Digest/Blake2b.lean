import Gatehouse.Digest.Sha512
/-!
The hash function BLAKE2b without a key, for digests of 1 to 64 bytes.
-/

namespace Gatehouse.Digest

namespace Blake2b

/-- The sixteen words that the rounds work on. -/
abbrev Work := Array UInt64

/-- The initial words, which are those of SHA-512. -/
def iv : List UInt64 :=
  let s := Sha512.initial
  [s.a, s.b, s.c, s.d, s.e, s.f, s.g, s.h]

/-- The order in which each round takes the words of the message. -/
def sigma : List (List Nat) := [
  [0, 1, 2, 3, 4, 5, 6, 7, 8, 9, 10, 11, 12, 13, 14, 15],
  [14, 10, 4, 8, 9, 15, 13, 6, 1, 12, 0, 2, 11, 7, 5, 3],
  [11, 8, 12, 0, 5, 2, 15, 13, 10, 14, 3, 6, 7, 1, 9, 4],
  [7, 9, 3, 1, 13, 12, 11, 14, 2, 6, 5, 10, 4, 0, 15, 8],
  [9, 0, 5, 7, 2, 4, 10, 15, 14, 1, 11, 12, 6, 8, 3, 13],
  [2, 12, 6, 10, 0, 11, 8, 3, 4, 13, 7, 5, 15, 14, 1, 9],
  [12, 5, 1, 15, 14, 13, 4, 10, 0, 7, 6, 3, 9, 2, 8, 11],
  [13, 11, 7, 14, 12, 1, 3, 9, 5, 0, 15, 4, 8, 6, 2, 10],
  [6, 15, 14, 9, 11, 3, 0, 8, 12, 2, 13, 7, 1, 4, 10, 5],
  [10, 2, 8, 4, 7, 6, 1, 5, 15, 11, 9, 14, 3, 12, 13, 0],
  [0, 1, 2, 3, 4, 5, 6, 7, 8, 9, 10, 11, 12, 13, 14, 15],
  [14, 10, 4, 8, 9, 15, 13, 6, 1, 12, 0, 2, 11, 7, 5, 3]]

/-- The positions of the four words that each mixing step of a round works on. -/
def quarters : List (Nat × Nat × Nat × Nat) :=
  [(0, 4, 8, 12), (1, 5, 9, 13), (2, 6, 10, 14), (3, 7, 11, 15),
    (0, 5, 10, 15), (1, 6, 11, 12), (2, 7, 8, 13), (3, 4, 9, 14)]

/-- Mixes two words of the message into four words. -/
def mix (v : Work) (q : Nat × Nat × Nat × Nat) (x y : UInt64) : Work :=
  let (i, j, k, l) := q
  let a := v.getD i 0
  let b := v.getD j 0
  let c := v.getD k 0
  let d := v.getD l 0
  let a := a + b + x
  let d := Sha512.rotate (d ^^^ a) 32
  let c := c + d
  let b := Sha512.rotate (b ^^^ c) 24
  let a := a + b + y
  let d := Sha512.rotate (d ^^^ a) 16
  let c := c + d
  let b := Sha512.rotate (b ^^^ c) 63
  (((v.setIfInBounds i a).setIfInBounds j b).setIfInBounds k c).setIfInBounds l d

/-- One round: every mixing step takes the next two words of the message. -/
def steps (m : Array UInt64) : Work → List (Nat × Nat × Nat × Nat) → List Nat → Work
  | v, q :: qs, i :: j :: order => steps m (mix v q (m.getD i 0) (m.getD j 0)) qs order
  | v, _, _ => v

/-- The eight bytes of a word, lowest first. -/
def wordBytes (w : UInt64) : List UInt8 :=
  [w.toUInt8, (w >>> 8).toUInt8, (w >>> 16).toUInt8, (w >>> 24).toUInt8, (w >>> 32).toUInt8,
    (w >>> 40).toUInt8, (w >>> 48).toUInt8, (w >>> 56).toUInt8]

/-- The word of eight bytes, lowest first. -/
def wordOf (a b c d e f g h : UInt8) : UInt64 :=
  a.toUInt64 ||| (b.toUInt64 <<< 8) ||| (c.toUInt64 <<< 16) ||| (d.toUInt64 <<< 24) |||
    (e.toUInt64 <<< 32) ||| (f.toUInt64 <<< 40) ||| (g.toUInt64 <<< 48) ||| (h.toUInt64 <<< 56)

def words : List UInt8 → List UInt64
  | a :: b :: c :: d :: e :: f :: g :: h :: rest => wordOf a b c d e f g h :: words rest
  | _ => []

/-- Takes one block into the state, after so many bytes in all. -/
def compress (h : List UInt64) (block : List UInt8) (count : Nat) (last : Bool) : List UInt64 :=
  let m := (words block).toArray
  let v := (h ++ iv).toArray
  let v := v.modify 12 (· ^^^ UInt64.ofNat count)
  let v := v.modify 13 (· ^^^ UInt64.ofNat (count / UInt64.size))
  let v := if last then v.modify 14 (~~~ ·) else v
  let v := sigma.foldl (fun v order => steps m v quarters order) v
  List.zipWith (· ^^^ ·) h (List.zipWith (· ^^^ ·) (v.toList.take 8) (v.toList.drop 8))

/-- Takes a message into the state; its last block is filled up with zeros. -/
def absorb (fuel : Nat) (h : List UInt64) (count : Nat) (message : List UInt8) : List UInt64 :=
  match fuel with
  | 0 => h
  | fuel + 1 =>
    let block := message.take 128
    let rest := message.drop 128
    if rest.isEmpty then
      compress h (block ++ List.replicate (128 - block.length) 0) (count + block.length) true
    else absorb fuel (compress h block (count + 128) false) (count + 128) rest

end Blake2b

/-- The BLAKE2b digest of a message, so many bytes long. -/
def blake2b (size : Nat) (message : List UInt8) : List UInt8 :=
  let h := match Blake2b.iv with
    | w :: ws => (w ^^^ 0x01010000 ^^^ UInt64.ofNat size) :: ws
    | [] => []
  ((Blake2b.absorb (message.length / 128 + 1) h 0 message).flatMap Blake2b.wordBytes).take size

end Gatehouse.Digest
