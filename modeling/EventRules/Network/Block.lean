import EventRules.Network.AddressText
import EventRules.Text.Trim

/-!
# Address blocks

A block is a network address with a prefix length; it contains the addresses of its family that
agree with the network on that many leading bits. Its text is the address, a slash and the length;
without a length the block is the one address. The bits past the prefix are kept as written.
-/

namespace EventRules

/-- An address with the number of its leading bits that count. -/
structure AddressBlock where
  network : Address
  prefixLength : Nat
  prefixLength_le : prefixLength ≤ network.width
  deriving DecidableEq

namespace AddressBlock

/-- The word of `width` bits whose first `length` bits are set. -/
def mask (width length : Nat) : BitVec width :=
  if length = 0 then 0 else BitVec.allOnes width <<< (width - length)

/-- Whether two numbers agree on the first `length` of `width` bits. -/
def agree (width length a b : Nat) : Bool :=
  BitVec.ofNat width a &&& mask width length == BitVec.ofNat width b &&& mask width length

/-- Whether the block contains an address. One of the other family is in no block. -/
def contains (block : AddressBlock) (address : Address) : Bool :=
  match address, block.network with
  | .v4 _, .v4 _ | .v6 _, .v6 _ =>
    agree block.network.width block.prefixLength address.toNat block.network.toNat
  | _, _ => false

/-- Whether the block contains the address that a text denotes, white space around it aside. -/
def containsText (block : AddressBlock) (text : String) : Bool :=
  match Address.read? (Text.trim text.toList) with
  | some address => block.contains address
  | none => false

/-- The block of the addresses that agree with `network` on `length` bits, if it has so many. -/
def of? (network : Address) (length : Nat) : Option AddressBlock :=
  if h : length ≤ network.width then some ⟨network, length, h⟩ else none

/-- The block that a text denotes, white space around it aside. -/
def read? (text : List Char) : Option AddressBlock :=
  match Text.cut? '/' (Text.trim text) with
  | none => (Address.read? (Text.trim text)).bind fun network => of? network network.width
  | some (address, length) =>
    (Address.read? address).bind fun network =>
      (Digits.readAtMost? 255 length).bind fun length => of? network length

def render (block : AddressBlock) : List Char :=
  block.network.render ++ '/' :: Nat.toDigits 10 block.prefixLength

end AddressBlock

end EventRules
