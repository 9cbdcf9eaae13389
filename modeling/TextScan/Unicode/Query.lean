/-
# Looking up sets by name

A set is named by a property (`alphabetic`), by a general category or a script (`lu`, `greek`), or
by a property and its value (`script` and `greek`, `age` and `6.1`).  Names are compared in loose
form: case, blanks, hyphens, underscores and a leading `is` make no difference.

A name that means both a property and something else means the property, but for three short names
that are categories: `cf`, `sc` and `lc`.
-/

import TextScan.Unicode.ScriptExtension
import TextScan.Unicode.Age
import TextScan.Unicode.Break

namespace TextScan
namespace Unicode

/-- Why a name has no set. -/
inductive QueryFault where
  /-- No property, category or script is known by the name. -/
  | noSuchProperty
  /-- The property is known, the value is not, or the value has no set. -/
  | noSuchValue
  deriving DecidableEq, Repr

/-- The characters of a name that count, in lower case. -/
def looseChars (t : Text) : Text :=
  (t.filter fun c => c.toNat ≤ 0x7F && c != ' ' && c != '_' && c != '-').map Char.toLower

/-- The loose form of a name.  The leading `is` stays where nothing but `c` follows it. -/
def looseName : Text → Text
  | c :: d :: t =>
    if c.toLower = 'i' ∧ d.toLower = 's' then
      if looseChars t = ['c'] then ['i', 's', 'c'] else looseChars t
    else looseChars (c :: d :: t)
  | t => looseChars t

/-- Whether a list of names has a name. -/
def named (names : List String) (name : Text) : Bool := names.any fun n => n.toList == name

/-- The set of a general category, in loose form: the listed ones, all characters, the assigned ones
and the ASCII ones. -/
def categoryNamed (name : Text) : Option (Except QueryFault CharSet) :=
  if name = "any".toList then some (.ok CharSet.all)
  else if name = "assigned".toList then some (.ok (setOf categoryRows "cn").complement)
  else if name = "ascii".toList then some (.ok ⟨[⟨0, 0x7F⟩]⟩)
  else if named surrogateNames name then some (.error .noSuchValue)
  else (category? name).map .ok

/-- The set of a script, in loose form. -/
def scriptNamed (name : Text) : Option (Except QueryFault CharSet) :=
  if named scriptsWithoutSet name then some (.error .noSuchValue) else (script? name).map .ok

/-- The extended set of a script, in loose form. -/
def scriptExtensionNamed (name : Text) : Option (Except QueryFault CharSet) :=
  (scriptExtension? name).map .ok

/-- The set of a property with two values, in loose form. -/
def propertyNamed (name : Text) : Option (Except QueryFault CharSet) :=
  if named ["cf", "sc", "lc"] name then none
  else
    match property? name with
    | some s => some (.ok s)
    | none => if named propertiesWithoutSet name then some (.error .noSuchProperty) else none

/-- The set that one name stands for. -/
def ofName (name : Text) : Except QueryFault CharSet :=
  let n := looseName name
  ((propertyNamed n <|> categoryNamed n) <|> scriptNamed n).getD (.error .noSuchProperty)

/-- The set that a property and a value stand for. -/
def ofNameAndValue (name value : Text) : Except QueryFault CharSet :=
  let n := looseName name
  let v := looseName value
  if named ["gc", "generalcategory"] n then (categoryNamed v).getD (.error .noSuchValue)
  else if named ["sc", "script"] n then (scriptNamed v).getD (.error .noSuchValue)
  else if named ["scx", "scriptextensions"] n then
    (scriptExtensionNamed v).getD (.error .noSuchValue)
  else if named ["age"] n then (age? v).elim (.error .noSuchValue) .ok
  else if named ["gcb", "graphemeclusterbreak"] n then
    (graphemeBreak? v).elim (.error .noSuchValue) .ok
  else if named ["wb", "wordbreak"] n then (wordBreak? v).elim (.error .noSuchValue) .ok
  else if named ["sb", "sentencebreak"] n then (sentenceBreak? v).elim (.error .noSuchValue) .ok
  else if named propertiesWithoutSet n || (property? n).isSome then .error .noSuchValue
  else .error .noSuchProperty

end Unicode
end TextScan
