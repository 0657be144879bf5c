import EventRules.Binary.Format

/-!
# Double and single precision numbers

`Double` and `Single` are the bit patterns of the two common formats, with the few operations that
rules and events need: rounding of integers and fractions, conversion to single precision,
products and quotients, and comparison as numbers.
-/

namespace EventRules.Binary

/-- A double precision number. -/
structure Double where
  bits : UInt64
  deriving DecidableEq, Repr, Inhabited

/-- A single precision number. -/
structure Single where
  bits : UInt32
  deriving DecidableEq, Repr, Inhabited

namespace Double

def decode (x : Double) : Reading :=
  Format.double.decode x.bits.toNat

/-- The number nearest to `num / den` with the given sign. -/
def ofRatio (negative : Bool) (num den : Nat) : Double :=
  ⟨.ofNat (Format.double.round negative num den)⟩

def ofInt (value : Int) : Double :=
  ofRatio (value < 0) value.natAbs 1

def infinity (negative : Bool) : Double :=
  ⟨.ofNat (Format.double.signed negative Format.double.infinity)⟩

def quietNaN : Double :=
  ⟨.ofNat Format.double.quietNaN⟩

def zero (negative : Bool) : Double :=
  ⟨.ofNat (Format.double.signed negative 0)⟩

def isNaN (x : Double) : Bool :=
  x.decode == .nan

def isFinite (x : Double) : Bool :=
  match x.decode with
  | .finite .. => true
  | _ => false

def negate (x : Double) : Double :=
  ⟨x.bits ^^^ 0x8000000000000000⟩

/-- `x` and `y` are the same number; both zeros are, and nothing equals what is not a number. -/
def equal (x y : Double) : Bool :=
  Format.double.equal x.bits.toNat y.bits.toNat

/-- `(num, den)` with `m * 2 ^ e = num / den`. -/
def scaled (m : Nat) (e : Int) : Nat × Nat :=
  if e < 0 then (m, Nat.pow 2 (-e).toNat) else (m * Nat.pow 2 e.toNat, 1)

/-- The rounded product of two finite numbers; what is not finite is left as it is. -/
def times (x y : Double) : Double :=
  match x.decode, y.decode with
  | .finite s m e, .finite t n g =>
    let (num, den) := scaled (m * n) (e + g)
    ofRatio (s != t) num den
  | _, _ => x

/-- The rounded quotient of two finite numbers; what is not finite is left as it is. -/
def dividedBy (x y : Double) : Double :=
  match x.decode, y.decode with
  | .finite s m e, .finite t n g =>
    let (num, den) := scaled m (e - g)
    ofRatio (s != t) num (den * n)
  | _, _ => x

/-- The nearest single precision number. -/
def toSingle (x : Double) : Single :=
  match x.decode with
  | .nan => ⟨.ofNat Format.single.quietNaN⟩
  | .infinite negative => ⟨.ofNat (Format.single.signed negative Format.single.infinity)⟩
  | .finite negative m e =>
    let (num, den) := scaled m e
    ⟨.ofNat (Format.single.round negative num den)⟩

end Double

namespace Single

def ofInt (value : Int) : Single :=
  ⟨.ofNat (Format.single.round (value < 0) value.natAbs 1)⟩

def isNaN (x : Single) : Bool :=
  Format.single.decode x.bits.toNat == .nan

def equal (x y : Single) : Bool :=
  Format.single.equal x.bits.toNat y.bits.toNat

def less (x y : Single) : Bool :=
  Format.single.less x.bits.toNat y.bits.toNat

def lessEqual (x y : Single) : Bool :=
  x.less y || x.equal y

end Single

end EventRules.Binary
