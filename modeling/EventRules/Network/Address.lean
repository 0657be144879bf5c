/-!
# Network addresses

An address of either family, as the octets or the groups it is written in, and as the word that
these make up, most significant part first.
-/

namespace EventRules

inductive Address where
  | v4 (octets : Vector UInt8 4)
  | v6 (groups : Vector UInt16 8)
  deriving DecidableEq

namespace Address

/-- The number of bits of an address of the family. -/
def width : Address → Nat
  | v4 _ => 32
  | v6 _ => 128

/-- The number whose digits to base `base` are given. -/
def ofParts (base : Nat) (parts : List Nat) : Nat :=
  parts.foldl (fun n part => n * base + part) 0

def toNat : Address → Nat
  | v4 octets => ofParts 256 (octets.toList.map UInt8.toNat)
  | v6 groups => ofParts 65536 (groups.toList.map UInt16.toNat)

def ofOctets? (octets : List UInt8) : Option Address :=
  if h : octets.length = 4 then some (v4 ⟨octets.toArray, by simpa using h⟩) else none

def ofGroups? (groups : List UInt16) : Option Address :=
  if h : groups.length = 8 then some (v6 ⟨groups.toArray, by simpa using h⟩) else none

end Address

end EventRules
