import TemplateTrace.Unicode.Age
import TemplateTrace.Unicode.Binary
import TemplateTrace.Unicode.Break
import TemplateTrace.Unicode.Script

/-!
# Properties of characters by name

A property is named alone, such as a general category or a script, or together with its value.
Names are compared loosely.

- `looseName`: what of a name counts.
- `named?`: the characters of a property, a category or a script.
- `valued?`: the characters for which a property has a value.
-/

namespace TemplateTrace

namespace Unicode

/-- What of a name counts: its ASCII characters but blanks, hyphens and low lines, whatever their
case, without a leading `is`. Only where a `c` is all that would be left does `is` count. -/
def looseName (name : Text) : Text :=
  let core (s : Text) : Text :=
    (s.filter fun c => c.toNat < 128 && c != ' ' && c != '-' && c != '_').map Char.toLower
  match name with
  | i :: s :: r =>
    if i.toLower = 'i' ∧ s.toLower = 's' then
      if core r = ['c'] then ['i', 's', 'c'] else core r
    else core name
  | _ => core name

/-- The characters that have a property, or whose category or script is the one with a name. -/
def named? (name : Text) : Option CodeSet :=
  let name := looseName name
  binary? name <|> category? name <|> script? name

/-- The characters for which a property has a value. -/
def valued? (name value : Text) : Option CodeSet :=
  let value := looseName value
  match String.ofList (looseName name) with
  | "gc" => category? value
  | "generalcategory" => category? value
  | "sc" => script? value
  | "script" => script? value
  | "scx" => scriptExtension? value
  | "scriptextensions" => scriptExtension? value
  | "age" => age? value
  | "gcb" => graphemeBreak? value
  | "graphemeclusterbreak" => graphemeBreak? value
  | "wb" => wordBreak? value
  | "wordbreak" => wordBreak? value
  | "sb" => sentenceBreak? value
  | "sentencebreak" => sentenceBreak? value
  | _ => none

end Unicode

end TemplateTrace
