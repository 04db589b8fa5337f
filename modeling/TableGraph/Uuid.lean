/-
Universally unique identifiers: 128 bits, written as groups of 8, 4, 4, 4 and 12 hexadecimal digits.
-/
import TableGraph.Number.Digits

namespace TableGraph

/-- an identifier of 128 bits -/
structure Uuid where
  bits : BitVec 128
  deriving DecidableEq, Repr

namespace Uuid

/-- the identifier of a number -/
def ofNat (n : Nat) : Uuid := ⟨BitVec.ofNat 128 n⟩

/-- an identifier of random bits: of version 4, and of the common variant -/
def ofRandom (n : Nat) : Uuid :=
  let bits := BitVec.ofNat 128 n
  let version := (bits &&& ~~~(0xF#128 <<< 76)) ||| (0x4#128 <<< 76)
  ⟨(version &&& ~~~(0x3#128 <<< 62)) ||| (0x2#128 <<< 62)⟩

/-- the groups of digits joined by hyphens -/
def text (id : Uuid) : List Char :=
  let digits := Digits.hexPadded 32 id.bits.toNat
  let group := fun start count => (digits.drop start).take count
  group 0 8 ++ '-' :: (group 8 4 ++ '-' :: (group 12 4 ++ '-' :: (group 16 4 ++ '-' :: group 20 12)))

/-- the identifier of 32 hexadecimal digits of either size -/
def ofDigits? (s : List Char) : Option Uuid :=
  if s.length = 32 then
    (s.mapM (Digits.digitIn? 16)).map fun digits => ofNat (digits.foldl (fun found digit => 16 * found + digit) 0)
  else none

/-- the identifier of groups joined by hyphens -/
def ofGroups? (s : List Char) : Option Uuid :=
  let group := fun start count => (s.drop start).take count
  let hyphens := [8, 13, 18, 23].all fun position => s[position]? == some '-'
  if s.length = 36 && hyphens then ofDigits? (group 0 8 ++ group 9 4 ++ group 14 4 ++ group 19 4 ++ group 24 12)
  else none

/-- the text before the groups in the form of a resource name -/
def resourceStart : List Char := ['u', 'r', 'n', ':', 'u', 'u', 'i', 'd', ':']

/-- reads an identifier: 32 digits, or groups, which may be in braces or after the start of a resource name -/
def ofText? (s : List Char) : Option Uuid :=
  if s.length = 32 then ofDigits? s
  else if s.length = 36 then ofGroups? s
  else if s.length = 38 && s.head? == some '\x7b' && s.getLast? == some '\x7d' then ofGroups? ((s.drop 1).take 36)
  else if s.length = 45 && s.take 9 == resourceStart then ofGroups? (s.drop 9)
  else none

end Uuid

end TableGraph
