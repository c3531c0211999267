import SharedVerifiers.Text.Bytes
namespace SharedVerifiers.Digest

-- The 256-bit BLAKE3 digest, as a binary tree over chunks of 1024 bytes, each a
-- chain over blocks of 64 bytes. No keyed mode and no longer output.

abbrev Chain := Vector UInt32 8
abbrev Block := Vector UInt32 16

def start : Chain :=
  #v[0x6A09E667,0xBB67AE85,0x3C6EF372,0xA54FF53A,0x510E527F,0x9B05688C,0x1F83D9AB,0x5BE0CD19]

def order : Vector (Fin 16) 16 := #v[2,6,3,10,7,0,4,13,1,11,12,5,9,14,15,8]

def chunkStart : UInt32 := 1
def chunkEnd : UInt32 := 2
def parentFlag : UInt32 := 4
def rootFlag : UInt32 := 8

def rotateRight (x amount : UInt32) : UInt32 := (x >>> amount) ||| (x <<< (32 - amount))

def quarter (v : Block) (a b c d : Fin 16) (x y : UInt32) : Block :=
  let v := v.set a (v[a] + v[b] + x)
  let v := v.set d (rotateRight (v[d] ^^^ v[a]) 16)
  let v := v.set c (v[c] + v[d])
  let v := v.set b (rotateRight (v[b] ^^^ v[c]) 12)
  let v := v.set a (v[a] + v[b] + y)
  let v := v.set d (rotateRight (v[d] ^^^ v[a]) 8)
  let v := v.set c (v[c] + v[d])
  v.set b (rotateRight (v[b] ^^^ v[c]) 7)

def round (v m : Block) : Block :=
  let v := quarter v 0 4 8 12 m[0] m[1]
  let v := quarter v 1 5 9 13 m[2] m[3]
  let v := quarter v 2 6 10 14 m[4] m[5]
  let v := quarter v 3 7 11 15 m[6] m[7]
  let v := quarter v 0 5 10 15 m[8] m[9]
  let v := quarter v 1 6 11 12 m[10] m[11]
  let v := quarter v 2 7 8 13 m[12] m[13]
  quarter v 3 4 9 14 m[14] m[15]

def rounds : Nat → Block → Block → Block
  | 0,v,_ => v
  | n+1,v,m => rounds n (round v m) (order.map fun i => m[i])

-- What a block adds to a chain: everything the compression takes but the flag
-- of the root, which is known only once the tree is complete.
structure Pending where
  chain : Chain
  block : Block
  counter : Nat
  length : Nat
  flags : UInt32

def Pending.compress (p : Pending) (extra : UInt32) : Chain :=
  let h := p.chain
  let v : Block := #v[h[0],h[1],h[2],h[3],h[4],h[5],h[6],h[7],
    start[0],start[1],start[2],start[3],
    UInt32.ofNat p.counter,UInt32.ofNat (p.counter >>> 32),UInt32.ofNat p.length,p.flags ||| extra]
  let v := rounds 7 v p.block
  #v[v[0] ^^^ v[8],v[1] ^^^ v[9],v[2] ^^^ v[10],v[3] ^^^ v[11],
    v[4] ^^^ v[12],v[5] ^^^ v[13],v[6] ^^^ v[14],v[7] ^^^ v[15]]

def word (bytes : Array UInt8) (i : Nat) : UInt32 :=
  (bytes.getD i 0).toUInt32 ||| ((bytes.getD (i + 1) 0).toUInt32 <<< 8) |||
  ((bytes.getD (i + 2) 0).toUInt32 <<< 16) ||| ((bytes.getD (i + 3) 0).toUInt32 <<< 24)

def blockOf (bytes : List UInt8) : Block :=
  let held := bytes.toArray
  Vector.ofFn fun i => word held (4 * i.val)

def chunkFrom (counter : Nat) (chain : Chain) (flags : UInt32) (bytes : List UInt8) : Pending :=
  if 64 < bytes.length then
    let step : Pending := ⟨chain,blockOf (bytes.take 64),counter,64,flags⟩
    chunkFrom counter (step.compress 0) 0 (bytes.drop 64)
  else ⟨chain,blockOf bytes,counter,bytes.length,flags ||| chunkEnd⟩
termination_by bytes.length
decreasing_by rw [List.length_drop]; omega

def leftLength (total : Nat) : Nat := 1024 * Nat.pow 2 (Nat.log2 ((total - 1) / 1024))

theorem leftLength_pos (total : Nat) : 0 < leftLength total :=
  Nat.mul_pos (by decide) (Nat.pow_pos (by decide))

theorem leftLength_lt {total : Nat} (long : 1024 < total) : leftLength total < total := by
  have some : (total - 1) / 1024 ≠ 0 := by omega
  have bound : Nat.pow 2 (Nat.log2 ((total - 1) / 1024)) ≤ (total - 1) / 1024 := Nat.log2_self_le some
  unfold leftLength
  omega

def Pending.ofBytes (counter : Nat) (bytes : List UInt8) : Pending :=
  if 1024 < bytes.length then
    let left := leftLength bytes.length
    let first := (ofBytes counter (bytes.take left)).compress 0
    let second := (ofBytes (counter + left / 1024) (bytes.drop left)).compress 0
    ⟨start,(first ++ second).cast rfl,0,64,parentFlag⟩
  else chunkFrom counter start chunkStart bytes
termination_by bytes.length
decreasing_by
  · rename_i long; rw [List.length_take]; have := leftLength_lt long; omega
  · rw [List.length_drop]; have := leftLength_pos bytes.length; omega

def wordBytes (w : UInt32) : List UInt8 :=
  [w.toUInt8,(w >>> 8).toUInt8,(w >>> 16).toUInt8,(w >>> 24).toUInt8]

def digest (bytes : List UInt8) : List UInt8 :=
  ((Pending.ofBytes 0 bytes).compress rootFlag).toList.flatMap wordBytes

def hexDigest (bytes : List UInt8) : String := String.ofList ((digest bytes).flatMap Text.hex)

theorem digest_length (bytes : List UInt8) : (digest bytes).length = 32 := by
  have words : ∀ w ∈ ((Pending.ofBytes 0 bytes).compress rootFlag).toList, (wordBytes w).length = 4 := fun _ _ => rfl
  rw [digest,List.length_flatMap,List.map_congr_left words,List.map_const',List.sum_replicate_nat,Vector.length_toList]

theorem hexDigest_length (bytes : List UInt8) : (hexDigest bytes).length = 64 := by
  have digits : ∀ b ∈ digest bytes, (Text.hex b).length = 2 := fun _ _ => rfl
  rw [hexDigest,String.length_ofList,List.length_flatMap,List.map_congr_left digits,List.map_const',
    List.sum_replicate_nat,digest_length]

-- Published answers, for a part of one block and for a chain of two.
example : hexDigest (Text.bytes "abc") = "6437b3ac38465133ffb63b75273a8db548c558465d79db03fd359c6cd5bd9d85" := by
  decide +kernel

example : hexDigest ((List.range 65).map UInt8.ofNat) =
    "de1e5fa0be70df6d2be8fffd0e99ceaa8eb6e8c93a63f2d8d1c30ecb6b263dee" := by
  decide +kernel

-- A digest in the making, with what it has been fed, last byte first.
structure Running where
  fed : List UInt8 := []

namespace Running

def update (r : Running) (bytes : List UInt8) : Running := ⟨bytes.reverseAux r.fed⟩

def read (r : Running) : List UInt8 := r.fed.reverse

def finish (r : Running) : String := hexDigest r.read

theorem read_update (r : Running) (bytes : List UInt8) : (r.update bytes).read = r.read ++ bytes := by
  rw [read,update,List.reverseAux_eq,List.reverse_append,List.reverse_reverse,read]

end Running

end SharedVerifiers.Digest
