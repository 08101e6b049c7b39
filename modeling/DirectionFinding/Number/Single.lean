import DirectionFinding.Number.Binary32

/-!
Binary32 numbers as they are kept in 32-bit words. A number has one word, and what is no number has
many: an operation passes on the word of its first operand that is no number, and has a word of its
own for operands without a result.
-/
namespace DirectionFinding

/-- A number, or one of the words that stand for none. -/
inductive Single where
  | number (x : Float32)
  | nan (word : UInt32)
  deriving DecidableEq, Repr

namespace Single

def value : Single → Float32
  | number x => x
  | nan _ => Binary32.notANumber

def word : Single → UInt32
  | number x => x.toBits
  | nan word => word

def ofWord (word : UInt32) : Single :=
  let x := Float32.ofBits word
  if x.isNaN then nan word else number x

/-- The word of an operation on numbers that has no result. -/
def undefined : UInt32 := 0xffc00000

/-- A word that stands for no number as an operation passes it on, marked as seen. -/
def seen (word : UInt32) : UInt32 :=
  word ||| 0x00400000

def lift (op : Float32 → Float32 → Float32) : Single → Single → Single
  | nan word, _ => nan (seen word)
  | number _, nan word => nan (seen word)
  | number x, number y =>
    let result := op x y
    if result.isNaN then nan undefined else number result

instance : Zero Single := ⟨number 0⟩

instance : Add Single := ⟨lift (· + ·)⟩

instance : Sub Single := ⟨lift (· - ·)⟩

instance : Mul Single := ⟨lift (· * ·)⟩

instance : Div Single := ⟨lift (· / ·)⟩

end Single

end DirectionFinding
