import DppEngine.OrderedMaps
import DppEngine.PassportModel

/-! JSON values as their texts denote them: an object is a map, whatever order its members are
written in, and its canonical text lists them by key. -/
namespace JsonTexts

open JsonValues OrderedMaps PassportModel

mutual

/-- The value with the members of every object by key, the first of a key being the one that
counts. -/
def normal : Json → Json
  | .arr items => .arr (normalItems items)
  | .obj members => .obj (normalMembers members).entries
  | .null => .null
  | .bool b => .bool b
  | .num q => .num q
  | .str s => .str s
  | .instant t => .instant t

def normalItems : List Json → List Json
  | [] => []
  | v :: vs => normal v :: normalItems vs

def normalMembers : List (String × Json) → BTreeMap String Json
  | [] => .empty
  | (k, v) :: ms => (normalMembers ms).insert k (normal v)

end

mutual

/-- The text of a value, for integers, whole seconds and strings nothing is escaped in. -/
def text : Json → List Char
  | .null => "null".toList
  | .bool b => (if b then "true" else "false").toList
  | .num q => (toString q.num).toList
  | .str s => '"' :: s.toList ++ ['"']
  | .instant t =>
    let seconds := (t % nanosPerDay).toNat / 1000000000
    '"' :: (dateText t).toList ++ 'T' :: decimalDigits (seconds / 3600) 2 ++ ':' ::
      decimalDigits (seconds / 60 % 60) 2 ++ ':' :: decimalDigits (seconds % 60) 2 ++ ['Z', '"']
  | .arr items => '[' :: (textItems items).tail ++ [']']
  | .obj members => '\x7b' :: (textMembers members).tail ++ ['\x7d']

def textItems : List Json → List Char
  | [] => []
  | v :: vs => ',' :: text v ++ textItems vs

def textMembers : List (String × Json) → List Char
  | [] => []
  | (k, v) :: ms => ',' :: '"' :: k.toList ++ '"' :: ':' :: text v ++ textMembers ms

end

def textBytes (v : Json) : List UInt8 := (text v).map fun c => UInt8.ofNat c.toNat

def canonicalBytes (v : Json) : List UInt8 := textBytes (normal v)

example : String.ofList (text (normal (.obj [("b", .num 1), ("a", .arr [.null, .bool true])]))) =
    "\x7b\"a\":[null,true],\"b\":1\x7d" := by decide +kernel

end JsonTexts
