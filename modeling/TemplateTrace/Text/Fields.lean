import TemplateTrace.Text.Basic

/-!
# Named fields

How records are read from lists of named values, in which a name may occur more than once.

- `Fields.valuesOf`: the values of a name.
- `Fields.single?`: the value of a name that occurs at most once.
- `Fields.known?`: the values of a record's names in declared order; other names are skipped.
- `Fields.orElse?`: a value that may be missing.
-/

namespace TemplateTrace

namespace Fields

variable {α β : Type}

/-- The values of the fields called `key`. -/
def valuesOf (key : Text) (fields : List (Text × α)) : List α :=
  fields.filterMap fun (k, v) => if k = key then some v else none

/-- The value of a field that occurs at most once. -/
def single? (key : Text) (fields : List (Text × α)) : Option (Option α) :=
  match valuesOf key fields with
  | [] => some none
  | [v] => some (some v)
  | _ => none

/-- The values of the known fields in declared order, none of which may occur twice. -/
def known? (keys : List Text) (fields : List (Text × α)) : Option (List (Option α)) :=
  keys.mapM fun key => single? key fields

/-- A field that may be missing. -/
def orElse? {m : Type → Type} [Monad m] {β : Type} (read? : α → m β) (default : β) :
    Option α → m β
  | none => pure default
  | some v => read? v

end Fields

end TemplateTrace
