import Mathlib.Data.Int.Notation
import Saex.JsonTrees

/-! Values of Python that the tools work with: strings by their code points, surrogates
among them, and what `json.loads` makes of a document. -/
namespace Saex

abbrev PyText := List ℕ

def pyText (s : String) : PyText := s.toList.map Char.toNat

namespace PyText

/-- The UTF-8 bytes of a code point; a surrogate has none. -/
def encodeChar (c : ℕ) : Option (List UInt8) :=
  if c < 0x80 then some [.ofNat c]
  else if c < 0x800 then some [.ofNat (0xc0+c/64),.ofNat (0x80+c%64)]
  else if 0xd800 ≤ c ∧ c ≤ 0xdfff then none
  else if c < 0x10000 then
    some [.ofNat (0xe0+c/4096),.ofNat (0x80+c/64%64),.ofNat (0x80+c%64)]
  else some [.ofNat (0xf0+c/262144),.ofNat (0x80+c/4096%64),.ofNat (0x80+c/64%64),.ofNat (0x80+c%64)]

/-- `str.encode()`. -/
def encode (t : PyText) : Option (List UInt8) := (t.mapM encodeChar).map List.flatten

/-- `[0-9a-f]` -/
def isHexDigit (c : ℕ) : Bool := 48 ≤ c && c ≤ 57 || 97 ≤ c && c ≤ 102

/-- `[a-z0-9]` -/
def isNameCharacter (c : ℕ) : Bool := 97 ≤ c && c ≤ 122 || 48 ≤ c && c ≤ 57

/-- `re.fullmatch` of so many characters of one class. -/
def consistsOf (p : ℕ → Bool) (least most : ℕ) (t : PyText) : Bool :=
  least ≤ t.length && t.length ≤ most && t.all p

/-- `[a-z0-9.-]{1,96}` -/
def isPolicyId : PyText → Bool :=
  consistsOf (fun c => isNameCharacter c || c = 46 || c = 45) 1 96

/-- `bytes.fromhex`, of digits that match `[0-9a-f]`. -/
def fromHex : PyText → List UInt8
  | a :: b :: rest => .ofNat (16*digit a+digit b) :: fromHex rest
  | _ => []
where digit (c : ℕ) : ℕ := if c ≤ 57 then c-48 else c-87

/-- `bytes.hex` -/
def hexOf (bytes : List UInt8) : PyText :=
  bytes.flatMap fun b => [digit (b.toNat/16),digit (b.toNat%16)]
where digit (n : ℕ) : ℕ := if n < 10 then 48+n else 87+n

end PyText

inductive PyScalar
  | none
  | bool (b : Bool)
  | int (n : ℤ)
  | float (text : PyText)
  | str (t : PyText)

/-- What `json.loads` returns, where a dictionary is the list of its items. -/
abbrev PyValue := JsonTree PyText PyScalar

namespace PyValue

def ofInt (n : ℤ) : PyValue := .leaf (.int n)

def ofStr (s : String) : PyValue := .leaf (.str (pyText s))

/-- `type(v) is int`, which is not so of a `bool`. -/
def int? : PyValue → Option ℤ
  | .leaf (.int n) => some n
  | _ => none

def str? : PyValue → Option PyText
  | .leaf (.str t) => some t
  | _ => none

def list? : PyValue → Option (List PyValue)
  | .array items => some items
  | _ => none

def dict? : PyValue → Option (List (PyText × PyValue))
  | .object members => some members
  | _ => none

/-- `v == s` -/
def isStr (v : PyValue) (s : String) : Bool := v.str? = some (pyText s)

/-- `type(v) is dict and set(v) == keys`; the keys of a dictionary are distinct. -/
def withKeys (v : PyValue) (keys : List String) : Option (List (PyText × PyValue)) :=
  v.dict?.filter fun members => (members.map Prod.fst).isPerm (keys.map pyText)

/-- `d[key]` of a key that is there. -/
def item (members : List (PyText × PyValue)) (key : String) : PyValue :=
  match members.find? fun x => x.1 = pyText key with
  | some x => x.2
  | Option.none => .leaf .none

end PyValue

/-! The layout in the observed profile. -/

structure ProfileSection where
  rva : ℤ
  virtualSize : ℤ
  rawSize : ℤ
  characteristics : ℕ

structure ProfileLayout where
  imageBase : ℤ
  imageSize : ℤ
  sections : List ProfileSection

end Saex
