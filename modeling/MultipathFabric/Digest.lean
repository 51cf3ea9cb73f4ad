import MultipathFabric.Text

namespace MultipathFabric

def fnv1a64OffsetBasis : UInt64 := 14695981039346656037

def fnv1a64Prime : UInt64 := 1099511628211

def digest64OffsetBasisB : UInt64 := 0x9E3779B97F4A7C15

def digest64PrimeB : UInt64 := 0x100000001B3

def fnv1a64Roll (state : UInt64) (byte : UInt8) : UInt64 := (state ^^^ byte.toUInt64) * fnv1a64Prime

structure Digest128 where
  high : UInt64
  low : UInt64
  deriving DecidableEq

namespace Digest128

def zero : Digest128 := ⟨0, 0⟩

def hexDigit (n : Nat) : UInt8 := if n < 10 then UInt8.ofNat (48 + n) else UInt8.ofNat (87 + n)

def laneHex (lane : UInt64) : Bytes :=
  (List.range 16).map fun i => hexDigit (lane.toNat >>> (60 - 4 * i) % 16)

def toHex (d : Digest128) : Bytes := laneHex d.high ++ laneHex d.low

@[simp] theorem toHex_length (d : Digest128) : d.toHex.length = 32 := by
  simp [toHex, laneHex]

end Digest128

structure DigestBuilder where
  laneA : UInt64
  laneB : UInt64

namespace DigestBuilder

def start : DigestBuilder := ⟨fnv1a64OffsetBasis, digest64OffsetBasisB⟩

def absorbByte (b : DigestBuilder) (value : UInt8) : DigestBuilder :=
  let mixed := (b.laneB ^^^ (value.toUInt64 + 0x9E3779B97F4A7C15)) * digest64PrimeB
  ⟨fnv1a64Roll b.laneA value, (mixed <<< 13) ||| (mixed >>> 51)⟩

def absorbU64 (b : DigestBuilder) (value : UInt64) : DigestBuilder :=
  (List.range 8).foldl (fun b i => b.absorbByte (value >>> UInt64.ofNat (8 * i)).toUInt8) b

def absorbBytes (b : DigestBuilder) (value : Bytes) : DigestBuilder :=
  value.foldl absorbByte (b.absorbU64 (UInt64.ofNat value.length))

def absorbBool (b : DigestBuilder) (value : Bool) : DigestBuilder := b.absorbByte (if value then 1 else 0)

def absorbTagged (b : DigestBuilder) (tag value : Bytes) : DigestBuilder :=
  (b.absorbBytes tag).absorbBytes value

def finish (b : DigestBuilder) : Digest128 :=
  let high := b.laneA ^^^ (b.laneA >>> 33)
  let high := high * 0xFF51AFD7ED558CCD
  let high := high ^^^ (high >>> 33)
  let low := b.laneB ^^^ (b.laneB >>> 29)
  let low := low * 0xC4CEB9FE1A85EC53
  let low := low ^^^ (low >>> 32)
  ⟨high ^^^ low, low⟩

end DigestBuilder

def fingerprintRequest (operation : Bytes) (fields : List Bytes) : Digest128 :=
  let start := (((DigestBuilder.start.absorbTagged (text "domain") (text "multipath-fabric.request.v1")).absorbTagged
    (text "operation") operation).absorbTagged (text "field_count") (decimal fields.length))
  (fields.foldl (fun b field => b.absorbTagged (text "field") field) start).finish

end MultipathFabric
