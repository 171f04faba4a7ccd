import IdentityLifecycle.Binary64.Decimal
import IdentityLifecycle.Json.Value

/-!
The compact text of a JSON value.
-/
namespace IdentityLifecycle.Json

/-- The fewest digits that read back as the number, and a point or an exponent among them; of two
equally near decimals the even one is written. -/
def realText : Binary64 → String
  | .finite negative mantissa exponent =>
    let text :=
      if mantissa = 0 then "0.0".toList
      else
        let (digits, power) := Binary64.shortest .even mantissa exponent
        let (digits, power) := Binary64.dropTrailingZeros 20 digits power
        decimalText digits power
    Binary64.signText negative text
  | x => x.toText

def numberText : JsonNumber → String
  | .natural n => toString n
  | .negative n => toString n
  | .real x => realText x

mutual

def text : Json → List Char
  | .null => "null".toList
  | .bool b => (toString b).toList
  | .number n => (numberText n).toList
  | .string s => stringText s
  | .array items => '[' :: itemsText items ++ [']']
  | .object members => '\x7b' :: membersText members ++ ['\x7d']

def itemsText : List Json → List Char
  | [] => []
  | [item] => text item
  | item :: rest => text item ++ ',' :: itemsText rest

def membersText : List (String × Json) → List Char
  | [] => []
  | [(name, value)] => stringText name ++ ':' :: text value
  | (name, value) :: rest => stringText name ++ ':' :: text value ++ ',' :: membersText rest

end

end IdentityLifecycle.Json
